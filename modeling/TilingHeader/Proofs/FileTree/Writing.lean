import TilingHeader.Proofs.FileTree.Growth

namespace TilingHeader.FileTree

/-! Writing a file.  It stands where the path leads to, nothing else changes,
and the path leads there again. -/

theorem Route.steps_ne_nil {text : List Char} (nonempty : text ≠ [])
    (relative : text.head? ≠ some '/') : (Route.ofText text).steps ≠ [] := by
  obtain ⟨first, rest, rfl⟩ := List.exists_cons_of_ne_nil nonempty
  have unmarked : first ≠ '/' := fun marked => relative (congrArg some marked)
  obtain ⟨head, others, split_eq⟩ :=
    List.exists_cons_of_ne_nil (List.splitOn_ne_nil '/' rest)
  have pieces_eq : (first :: rest).splitOn '/' = (first :: head) :: others := by
    rw [List.splitOn_cons_eq_if_modifyHead, split_eq]
    simp [unmarked]
  obtain ⟨step, stepped⟩ : ∃ step, Step.ofPiece? (first :: head) = some step := by
    rw [← Option.isSome_iff_exists, Step.ofPiece?]
    split
    · rename_i empty
      cases empty
    · split
      · rfl
      · split <;> rfl
  rw [Route.ofText, pieces_eq, List.filterMap_cons_some stepped]
  exact List.cons_ne_nil _ _

namespace FileSystem

variable {files after : FileSystem}

/-- One file is new or has new content, and all else is as it was. -/
structure Receives (files after : FileSystem) (place : Location)
    (content : Content) : Prop where
  current_eq : after.current = files.current
  file : after.node? place = some (.file content)
  kept : ∀ location, location ≠ place →
    after.node? location = files.node? location
  free : ∀ node, files.node? place = some node → ∃ old, node = .file old

theorem Receives.elsewhere {place : Location} {content : Content}
    (receives : files.Receives after place content) {location : Location}
    {node : Node} (found : files.node? location = some node)
    (no_file : ∀ old, node ≠ .file old) :
    after.node? location = some node := by
  rw [receives.kept location, found]
  rintro rfl
  obtain ⟨old, node_eq⟩ := receives.free node found
  exact no_file old node_eq

theorem Receives.toExtends {place : Location} {content : Content}
    (receives : files.Receives after place content) : files.Extends after where
  current_eq := receives.current_eq
  folder location found := receives.elsewhere found nofun
  link location target found := receives.elsewhere found nofun
  file location old found := by
    by_cases here : location = place
    · exact ⟨content, here ▸ receives.file⟩
    · exact ⟨old, (receives.kept location here).trans found⟩

theorem folder_start {purpose : Purpose} {path : String} {spot : Spot}
    (located : files.locate purpose path = .ok spot) :
    files.node? (files.start (.ofText path.toList)) = some .folder := by
  obtain ⟨nonempty, _, leads⟩ := locate_eq_ok_iff.mp located
  by_cases absolute : path.toList.head? = some '/'
  · have start_eq : files.start (.ofText path.toList) = [] := by
      simp [start, Route.ofText, absolute]
    rw [start_eq, node?_nil]
  · refine leads.folder_of_ne_nil (Route.steps_ne_nil ?_ absolute)
    exact fun empty => nonempty (String.toList_eq_nil_iff.mp empty)

theorem locate_use {purpose : Purpose} {path : String} {spot : Spot}
    (located : files.locate purpose path = .ok spot) :
    files.locate .use path = .ok spot := by
  obtain ⟨nonempty, short, leads⟩ := locate_eq_ok_iff.mp located
  exact locate_eq_ok_iff.mpr ⟨nonempty, short, leads.use⟩

theorem isSettled_of_locate {purpose : Purpose} {path : String}
    {location : Location}
    (located : files.locate purpose path = .ok (.taken location)) :
    files.IsSettled location := by
  obtain ⟨_, _, leads⟩ := locate_eq_ok_iff.mp located
  exact leads.isSettled (isSettled_of_folder (folder_start located)) location rfl

theorem vacant_of_locate {purpose : Purpose} {path : String}
    {parent : Location} {name : String}
    (located : files.locate purpose path = .ok (.vacant parent name)) :
    files.node? parent = some .folder ∧
      files.node? (parent ++ [name]) = none ∧ IsName name := by
  obtain ⟨_, _, leads⟩ := locate_eq_ok_iff.mp located
  exact leads.vacant_spot (Route.named_ofText _) parent name rfl

theorem exists_of_writeBytes {path : String} {content : Content}
    (written : files.writeBytes path content = .ok after) :
    ∃ spot, files.locate .create path = .ok spot ∧
      files.node? spot.location ≠ some .folder ∧
      after = files.putAt spot.location (.file content) := by
  rw [writeBytes] at written
  cases located : files.locate .create path with
  | error failure =>
      rw [located] at written
      cases written
  | ok spot =>
      rw [located] at written
      refine ⟨spot, rfl, ?_⟩
      cases spot with
      | vacant parent name =>
          cases written
          refine ⟨?_, rfl⟩
          rw [Spot.location, (vacant_of_locate located).2.1]
          nofun
      | taken location =>
          simp only [bind, Except.bind] at written
          split at written
          · cases written
          · rename_i free
            cases written
            exact ⟨(files.isFolderAt_iff location).not.mp free, rfl⟩

theorem free_of_locate {purpose : Purpose} {path : String} {spot : Spot}
    (located : files.locate purpose path = .ok spot)
    (free : files.node? spot.location ≠ some .folder) :
    ∃ parent name, spot.location = parent ++ [name] ∧
      files.node? parent = some .folder ∧
      ∀ node, files.node? spot.location = some node →
        ∃ old, node = .file old := by
  cases spot with
  | vacant parent name =>
      obtain ⟨folder, nothing, _⟩ := vacant_of_locate located
      refine ⟨parent, name, rfl, folder, ?_⟩
      intro node found
      rw [Spot.location, nothing] at found
      cases found
  | taken location =>
      obtain ⟨node, found, no_link⟩ := isSettled_of_locate located
      rw [Spot.location] at free ⊢
      rcases List.eq_nil_or_concat location with rfl | ⟨parent, name, rfl⟩
      · exact absurd files.node?_nil free
      · rw [List.concat_eq_append] at found free ⊢
        refine ⟨parent, name, rfl, folder_of_node?_concat found, ?_⟩
        intro other other_found
        rw [found] at other_found
        obtain rfl := Option.some.inj other_found
        cases node with
        | file old => exact ⟨old, rfl⟩
        | link target => exact absurd rfl (no_link target)
        | folder => exact absurd found free

theorem receives_of_writeBytes {path : String} {content : Content}
    (written : files.writeBytes path content = .ok after) :
    ∃ spot, files.locate .create path = .ok spot ∧
      files.Receives after spot.location content := by
  obtain ⟨spot, located, free, rfl⟩ := exists_of_writeBytes written
  obtain ⟨parent, name, location_eq, folder, replaced⟩ :=
    free_of_locate located free
  refine ⟨spot, located, ?_⟩
  rw [location_eq] at free replaced ⊢
  have node_eq := node?_putAt folder free (Entry.bare_file content)
  constructor
  · exact files.current_putAt _ _
  · rw [node_eq, if_pos rfl]
    rfl
  · intro location apart
    rw [node_eq, if_neg apart]
  · exact replaced

theorem wellFormed_of_writeBytes (wellFormed : files.WellFormed)
    {path : String} {content : Content}
    (written : files.writeBytes path content = .ok after) :
    after.WellFormed := by
  obtain ⟨spot, located, _, rfl⟩ := exists_of_writeBytes written
  refine wellFormed.putAt trivial ?_
  cases spot with
  | vacant parent name =>
      obtain ⟨folder, _, named⟩ := vacant_of_locate located
      exact List.forall_mem_append.mpr
        ⟨wellFormed.isName_of_node? folder, List.forall_mem_singleton.mpr named⟩
  | taken location =>
      obtain ⟨node, found, _⟩ := isSettled_of_locate located
      exact wellFormed.isName_of_node? found

/-- Behind the last link of a path that was dangling there is now a file. -/
theorem Receives.locate_written {path : String} {content : Content}
    {spot : Spot} {purpose : Purpose}
    (located : files.locate purpose path = .ok spot)
    (receives : files.Receives after spot.location content) :
    after.locate purpose path = .ok (.taken spot.location) := by
  obtain ⟨nonempty, short, leads⟩ := locate_eq_ok_iff.mp located
  refine locate_eq_ok_iff.mpr ⟨nonempty, short, ?_⟩
  rw [receives.toExtends.start_eq]
  refine leads.mono receives.toExtends ?_
  rintro parent name rfl
  exact ⟨.file content, receives.file, nofun⟩

/-- To write the same again changes nothing. -/
theorem writeBytes_again {path : String} {content : Content}
    (written : files.writeBytes path content = .ok after) :
    after.writeBytes path content = .ok after := by
  obtain ⟨spot, located, receives⟩ := receives_of_writeBytes written
  have no_folder : ¬ after.isFolderAt spot.location = true := by
    rw [isFolderAt_iff, receives.file]
    nofun
  rw [writeBytes, receives.locate_written located]
  simp only [bind, Except.bind, if_neg no_folder]
  rw [putAt_of_at? (at?_of_node?_file receives.file)]

/-! Making a directory that is there. -/

theorem isSome_at?_of_node? {location : Location} {node : Node}
    (found : files.node? location = some node) :
    (files.at? location).isSome = true := by
  rw [node?_eq] at found
  obtain ⟨entry, reached, _⟩ := Option.map_eq_some_iff.mp found
  rw [reached]
  rfl

theorem exists_lastStep_of_isDirectory {path : String}
    (there : files.isDirectory path = true) :
    ∃ parent last, files.lastStep path = .ok (parent, last) ∧
      ∀ name, last = some (.down name) →
        name.utf8ByteSize ≤ nameLimit ∧
          (files.at? (parent ++ [name])).isSome = true := by
  obtain ⟨location, located, folder⟩ := isDirectory_iff.mp there
  obtain ⟨nonempty, short, _⟩ := locate_eq_ok_iff.mp located
  have leads := leads_ofPieces located
  rcases List.eq_nil_or_concat (Step.ofPieces path.toList) with
    no_steps | ⟨front, last, steps_eq⟩
  · rw [no_steps] at leads
    refine ⟨location, none, ?_, nofun⟩
    rw [lastStep_of_leads nonempty short (by rwa [no_steps]) folder, no_steps]
    rfl
  · rw [List.concat_eq_append] at steps_eq
    obtain ⟨parent, arrival⟩ :=
      leads.exists_arrival front steps_eq (List.cons_ne_nil _ _)
    obtain ⟨left, onward⟩ := arrival.exists_walk_append rfl
    -- The last step is taken with the links that the others leave.
    have onward_leads := onward [last]
    rw [← steps_eq, leads.walk_eq] at onward_leads
    have last_leads := leads_of_walk_eq left onward_leads.symm
    have parent_folder := last_leads.folder_of_ne_nil (List.cons_ne_nil _ _)
    refine ⟨parent, some last, ?_, ?_⟩
    · rw [lastStep_of_leads nonempty short
        (by rwa [steps_eq, List.dropLast_concat]) parent_folder, steps_eq,
        List.getLast?_concat]
    · rintro name ⟨rfl⟩
      cases last_leads with
      | link _ passes found _ =>
          exact ⟨passes.short, isSome_at?_of_node? found⟩
      | down _ passes found _ _ =>
          exact ⟨passes.short, isSome_at?_of_node? found⟩

theorem makeDirectory_of_isDirectory {path : String}
    (there : files.isDirectory path = true) :
    files.makeDirectory path = .error .alreadyExists := by
  obtain ⟨parent, last, last_eq, taken⟩ := exists_lastStep_of_isDirectory there
  rw [makeDirectory, add, last_eq]
  cases last with
  | none => rfl
  | some step =>
      cases step with
      | stay => rfl
      | up => rfl
      | settle => rfl
      | down name =>
          obtain ⟨short, present⟩ := taken name rfl
          simp only [bind, Except.bind, if_neg (Nat.not_lt.mpr short), present,
            if_true]

theorem makeDirectories_of_isDirectory {path : String}
    (there : files.isDirectory path = true) :
    files.makeDirectories path = (files, .ok ()) := by
  rw [makeDirectories, makeFirst, makeDirectory_of_isDirectory there]
  simp only [there, if_true, ite_self]

end FileSystem

end TilingHeader.FileTree
