import TilingHeader.Proofs.FileTree.Paths

namespace TilingHeader.FileTree

/-! Making directories.  Whatever comes of it, all entries stay as they are, and
what is new is a directory that one of the given paths leads to. -/

namespace Step

theorem filter_steps_ofText (text : List Char) :
    (Route.ofText text).steps.filter (· ≠ .settle) = ofPieces text := by
  have pieces_kept : ∀ step ∈ ofPieces text, decide (step ≠ .settle) = true := by
    intro step listed
    obtain ⟨piece, _, stepped⟩ := List.mem_filterMap.mp listed
    refine decide_eq_true ?_
    rintro rfl
    unfold ofPiece? at stepped
    split at stepped
    · cases stepped
    · split at stepped
      · cases stepped
      · split at stepped <;> cases stepped
  rw [Route.steps_ofText, List.filter_append, List.filter_eq_self.mpr pieces_kept]
  split <;> simp

end Step

namespace FileSystem

variable {files : FileSystem}

theorem lastStep_eq {path : String} (nonempty : path ≠ "")
    (short : path.utf8ByteSize < pathLimit) :
    files.lastStep path =
      (files.walk .use linkLimit (files.start (.ofText path.toList))
          (Step.ofPieces path.toList).dropLast).bind fun spot =>
        match spot with
        | .vacant _ _ => .error .noEntry
        | .taken parent =>
            if files.isFolderAt parent then
              .ok (parent, (Step.ofPieces path.toList).getLast?)
            else .error .notDirectory := by
  rw [lastStep, route, if_neg nonempty, if_neg (Nat.not_le.mpr short),
    ← Step.filter_steps_ofText]
  rfl

theorem lastStep_of_leads {path : String} {parent : Location}
    (nonempty : path ≠ "") (short : path.utf8ByteSize < pathLimit)
    (leads : files.Leads .use linkLimit (files.start (.ofText path.toList))
      (Step.ofPieces path.toList).dropLast (.taken parent))
    (folder : files.node? parent = some .folder) :
    files.lastStep path =
      .ok (parent, (Step.ofPieces path.toList).getLast?) := by
  rw [lastStep_eq nonempty short, leads.walk_eq]
  simp only [Except.bind, if_pos ((files.isFolderAt_iff parent).mpr folder)]

theorem leads_of_lastStep {path : String} {parent : Location}
    {last : Option Step} (taken : files.lastStep path = .ok (parent, last)) :
    path ≠ "" ∧ path.utf8ByteSize < pathLimit ∧
      files.Leads .use linkLimit (files.start (.ofText path.toList))
        (Step.ofPieces path.toList).dropLast (.taken parent) ∧
      files.node? parent = some .folder ∧
      (Step.ofPieces path.toList).getLast? = last := by
  have nonempty : path ≠ "" := by
    rintro rfl
    cases taken
  have short : path.utf8ByteSize < pathLimit := by
    by_contra long
    rw [lastStep, route, if_neg nonempty, if_pos (Nat.not_lt.mp long)] at taken
    cases taken
  rw [lastStep_eq nonempty short] at taken
  refine ⟨nonempty, short, ?_⟩
  cases walked : files.walk .use linkLimit (files.start (.ofText path.toList))
      (Step.ofPieces path.toList).dropLast with
  | error failure =>
      rw [walked] at taken
      cases taken
  | ok spot =>
      rw [walked] at taken
      cases spot with
      | vacant place name => cases taken
      | taken place =>
          by_cases folder : files.node? place = some .folder
          · simp only [Except.bind,
              if_pos ((files.isFolderAt_iff place).mpr folder)] at taken
            cases taken
            exact ⟨leads_of_walk_eq _ walked, folder, rfl⟩
          · simp only [Except.bind,
              if_neg ((files.isFolderAt_iff place).not.mpr folder)] at taken
            cases taken

theorem exists_of_makeDirectory {path : String} {made : FileSystem}
    (succeeded : files.makeDirectory path = .ok made) :
    ∃ parent name, files.lastStep path = .ok (parent, some (.down name)) ∧
      name.utf8ByteSize ≤ nameLimit ∧
      files.node? (parent ++ [name]) = none ∧
      made = files.putAt (parent ++ [name]) (.folder .empty) := by
  rw [makeDirectory, add] at succeeded
  cases taken : files.lastStep path with
  | error failure =>
      rw [taken] at succeeded
      cases succeeded
  | ok found =>
      obtain ⟨parent, last⟩ := found
      rw [taken] at succeeded
      cases last with
      | none => cases succeeded
      | some step =>
          cases step with
          | stay => cases succeeded
          | up => cases succeeded
          | settle => cases succeeded
          | down name =>
              simp only [bind, Except.bind] at succeeded
              split at succeeded
              · cases succeeded
              · rename_i short
                split at succeeded
                · cases succeeded
                · rename_i free
                  have nothing : files.at? (parent ++ [name]) = none := by
                    simpa using free
                  cases succeeded
                  exact ⟨parent, name, rfl, Nat.not_lt.mp short,
                    (files.node?_eq_none_iff _).mpr nothing, rfl⟩

/-- Everything is kept; new are only directories to which the paths lead. -/
structure GrownAlong (files after : FileSystem) (paths : List String) :
    Prop where
  current_eq : after.current = files.current
  kept : ∀ location node, files.node? location = some node →
    after.node? location = some node
  added : ∀ location node, files.node? location = none →
    after.node? location = some node → node = .folder ∧
      ∃ path ∈ paths, after.locate .use path = .ok (.taken location)

namespace GrownAlong

variable {middle after : FileSystem} {paths others : List String}

theorem toExtends (grown : files.GrownAlong after paths) :
    files.Extends after where
  current_eq := grown.current_eq
  folder location found := grown.kept location .folder found
  link location _ found := grown.kept location _ found
  file location content found :=
    ⟨content, grown.kept location (.file content) found⟩

theorem refl (files : FileSystem) (paths : List String) :
    files.GrownAlong files paths where
  current_eq := rfl
  kept _ _ found := found
  added location node absent found := by
    rw [absent] at found
    cases found

theorem trans (first : files.GrownAlong middle paths)
    (second : middle.GrownAlong after paths) :
    files.GrownAlong after paths where
  current_eq := second.current_eq.trans first.current_eq
  kept location node found := second.kept _ _ (first.kept _ _ found)
  added location node absent found := by
    cases between : middle.node? location with
    | none => exact second.added location node between found
    | some old =>
        -- What was new in between is still there, and its path still leads there.
        obtain ⟨rfl, path, listed, located⟩ :=
          first.added location old absent between
        rw [second.kept location _ between] at found
        cases found
        exact ⟨rfl, path, listed, second.toExtends.locate_taken located⟩

theorem weaken (grown : files.GrownAlong after paths)
    (subset : paths ⊆ others) : files.GrownAlong after others where
  current_eq := grown.current_eq
  kept := grown.kept
  added location node absent found := by
    obtain ⟨folder, path, listed, located⟩ :=
      grown.added location node absent found
    exact ⟨folder, path, subset listed, located⟩

end GrownAlong

theorem locate_of_leads {path : String} {parent : Location} {name : String}
    (nonempty : path ≠ "") (short : path.utf8ByteSize < pathLimit)
    (leads : files.Leads .use linkLimit (files.start (.ofText path.toList))
      (Step.ofPieces path.toList).dropLast (.taken parent))
    (last_eq : (Step.ofPieces path.toList).getLast? = some (.down name))
    (name_short : name.utf8ByteSize ≤ nameLimit)
    (found : files.node? (parent ++ [name]) = some .folder) :
    files.locate .use path = .ok (.taken (parent ++ [name])) := by
  have folder := folder_of_node?_concat found
  have passes (rest : List Step) : Passes .use name rest :=
    ⟨fun both => (nomatch both.1), name_short⟩
  obtain ⟨left, onward⟩ := leads.exists_walk_append rfl
  rw [locate_eq_walk .use nonempty short, Route.steps_ofText,
    ← List.dropLast_append_getLast? _ last_eq, List.append_assoc, onward,
    List.singleton_append,
    walk_down_of_ne_link folder (passes _) found nofun]
  split
  · rw [walk_settle found, walk_nil]
  · rw [walk_nil]

theorem node?_putAt_empty {parent : Location} {name : String}
    (folder : files.node? parent = some .folder)
    (nothing : files.node? (parent ++ [name]) = none) (location : Location) :
    (files.putAt (parent ++ [name]) (.folder .empty)).node? location =
      if location = parent ++ [name] then some .folder
      else files.node? location := by
  have free : files.node? (parent ++ [name]) ≠ some .folder := by
    rw [nothing]
    exact nofun
  exact node?_putAt folder free Entry.bare_empty location

theorem grownAlong_makeDirectory {path : String} {made : FileSystem}
    (succeeded : files.makeDirectory path = .ok made) :
    files.GrownAlong made [path] := by
  obtain ⟨parent, name, taken, name_short, nothing, made_eq⟩ :=
    exists_of_makeDirectory succeeded
  obtain ⟨nonempty, short, leads, folder, last_eq⟩ := leads_of_lastStep taken
  have node_made (location : Location) :
      made.node? location =
        if location = parent ++ [name] then some .folder
        else files.node? location := by
    rw [made_eq, node?_putAt_empty folder nothing]
  have kept : ∀ location node, files.node? location = some node →
      made.node? location = some node := by
    intro location node found
    have apart : location ≠ parent ++ [name] := by
      rintro rfl
      rw [nothing] at found
      cases found
    rw [node_made, if_neg apart, found]
  have current_eq : made.current = files.current := by
    rw [made_eq, current_putAt]
  have grown : files.Extends made :=
    ⟨current_eq, fun location found => kept location _ found,
      fun location _ found => kept location _ found,
      fun location content found => ⟨content, kept location _ found⟩⟩
  have made_there : made.node? (parent ++ [name]) = some .folder := by
    rw [node_made, if_pos rfl]
  refine ⟨current_eq, kept, ?_⟩
  intro location node absent found
  rw [node_made] at found
  by_cases there : location = parent ++ [name]
  · subst there
    rw [if_pos rfl] at found
    obtain rfl := Option.some.inj found
    refine ⟨rfl, path, List.mem_singleton_self path, ?_⟩
    exact locate_of_leads nonempty short
      (grown.start_eq _ ▸ leads.mono grown nofun) last_eq name_short made_there
  · rw [if_neg there, absent] at found
    cases found

theorem grownAlong_makeFirst (files : FileSystem) (paths : List String) :
    files.GrownAlong (files.makeFirst paths).1 paths := by
  induction paths with
  | nil => exact .refl files []
  | cons path outer induction =>
      have here_listed : [path] ⊆ path :: outer := by simp
      have outer_listed : outer ⊆ path :: outer := List.subset_cons_self _ _
      rw [makeFirst]
      split
      · exact .refl files _
      · split
        · rename_i made made_eq
          exact (grownAlong_makeDirectory made_eq).weaken here_listed
        · cases outcome : files.makeFirst outer with
          | mk grown result =>
              rw [outcome] at induction
              have grown_along := induction.weaken outer_listed
              cases result with
              -- The directories that were made on the way stay.
              | error failure => exact grown_along
              | ok done =>
                  dsimp only
                  split
                  · rename_i made made_eq
                    exact grown_along.trans
                      ((grownAlong_makeDirectory made_eq).weaken here_listed)
                  · split <;> exact grown_along
        · split <;> exact .refl files _

theorem isDirectory_of_makeDirectory {path : String} {made : FileSystem}
    (succeeded : files.makeDirectory path = .ok made) :
    made.isDirectory path = true := by
  obtain ⟨parent, name, taken, _, nothing, made_eq⟩ :=
    exists_of_makeDirectory succeeded
  obtain ⟨_, _, _, folder, _⟩ := leads_of_lastStep taken
  have made_there : made.node? (parent ++ [name]) = some .folder := by
    rw [made_eq, node?_putAt_empty folder nothing, if_pos rfl]
  obtain ⟨_, _, listed, located⟩ :=
    (grownAlong_makeDirectory succeeded).added _ _ nothing made_there
  obtain rfl := List.mem_singleton.mp listed
  exact isDirectory_iff.mpr ⟨_, located, made_there⟩

theorem isDirectory_of_makeDirectories {path : String} {grown : FileSystem}
    (nonempty : path ≠ "")
    (succeeded : files.makeDirectories path = (grown, .ok ())) :
    grown.isDirectory path = true := by
  rw [makeDirectories, makeFirst, if_neg nonempty] at succeeded
  split at succeeded
  · rename_i made made_eq
    cases succeeded
    exact isDirectory_of_makeDirectory made_eq
  · split at succeeded
    · cases succeeded
    · split at succeeded
      · rename_i made made_eq
        cases succeeded
        exact isDirectory_of_makeDirectory made_eq
      · split at succeeded
        · rename_i there
          cases succeeded
          exact there
        · cases succeeded
  · split at succeeded
    · rename_i there
      cases succeeded
      exact there
    · cases succeeded

theorem grownAlong_makeDirectories (files : FileSystem) (path : String) :
    files.GrownAlong (files.makeDirectories path).1
      (path :: Path.parents path) :=
  grownAlong_makeFirst files _

end FileSystem

end TilingHeader.FileTree
