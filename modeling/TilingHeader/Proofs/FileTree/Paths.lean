import TilingHeader.Proofs.FileTree.Leading

namespace TilingHeader.FileTree

/-! Paths as they are written, and where they lead.  A path that is lengthened
by names takes one more step down for each of them. -/

namespace Step

def ofPieces (text : List Char) : List Step :=
  (text.splitOn '/').filterMap ofPiece?

theorem ofPieces_append (first second : List Char) :
    ofPieces (first ++ '/' :: second) = ofPieces first ++ ofPieces second := by
  rw [ofPieces, List.splitOn_append_cons_self, List.filterMap_append]
  rfl

@[simp] theorem ofPieces_nil : ofPieces [] = [] := rfl

theorem ofPieces_name {name : String} (named : IsName name) :
    ofPieces name.toList = [.down name] := by
  rw [ofPieces, List.splitOn_eq_singleton named.1, List.filterMap_cons,
    named.ofPiece?]
  rfl

end Step

theorem Route.steps_ofText (text : List Char) :
    (Route.ofText text).steps = Step.ofPieces text ++
      if text.getLast? = some '/' then [.settle] else [] := rfl

namespace Path

/-- A path with names behind it, each after a slash. -/
def descend (path : String) (names : List String) : String :=
  names.foldl join path

@[simp] theorem descend_nil (path : String) : descend path [] = path := rfl

@[simp] theorem descend_cons (path name : String) (names : List String) :
    descend path (name :: names) = descend (join path name) names := rfl

theorem descend_append (path : String) (first second : List String) :
    descend path (first ++ second) = descend (descend path first) second :=
  List.foldl_append

theorem exists_toList_join (path name : String) :
    ∃ slash, (join path name).toList = path.toList ++ slash ++ name.toList := by
  rw [join]
  split
  · exact ⟨[], by simp⟩
  · exact ⟨['/'], by simp⟩

theorem ofPieces_join (path : String) {name : String} (named : IsName name) :
    Step.ofPieces (join path name).toList =
      Step.ofPieces path.toList ++ [.down name] := by
  rw [join]
  split
  · rename_i slashed
    obtain ⟨front, path_eq⟩ := List.getLast?_eq_some_iff.mp slashed
    rw [String.toList_append, path_eq, List.append_assoc,
      List.singleton_append, Step.ofPieces_append, Step.ofPieces_append,
      Step.ofPieces_name named, Step.ofPieces_nil, List.append_nil]
  · have text_eq : (path ++ "/" ++ name).toList =
        path.toList ++ '/' :: name.toList := by
      simp
    rw [text_eq, Step.ofPieces_append, Step.ofPieces_name named]

theorem ofPieces_descend (path : String) {names : List String}
    (named : ∀ name ∈ names, IsName name) :
    Step.ofPieces (descend path names).toList =
      Step.ofPieces path.toList ++ names.map .down := by
  induction names generalizing path with
  | nil => simp
  | cons name rest induction =>
      obtain ⟨name_named, rest_named⟩ := List.forall_mem_cons.mp named
      rw [descend_cons, induction _ rest_named, ofPieces_join path name_named,
        List.append_assoc]
      rfl

theorem descend_injective (path : String) {first second : List String}
    (first_named : ∀ name ∈ first, IsName name)
    (second_named : ∀ name ∈ second, IsName name)
    (same : descend path first = descend path second) : first = second := by
  have steps_eq := congrArg (fun text => Step.ofPieces text.toList) same
  simp only [ofPieces_descend path first_named,
    ofPieces_descend path second_named, List.append_cancel_left_eq] at steps_eq
  exact List.map_injective_iff.mpr (fun _ _ => Step.down.inj) steps_eq

theorem utf8ByteSize_join (path name : String) :
    path.utf8ByteSize ≤ (join path name).utf8ByteSize := by
  rw [join]
  split
  · rw [String.utf8ByteSize_append]
    omega
  · rw [String.utf8ByteSize_append, String.utf8ByteSize_append]
    omega

theorem utf8ByteSize_descend (path : String) (names : List String) :
    path.utf8ByteSize ≤ (descend path names).utf8ByteSize := by
  induction names generalizing path with
  | nil => exact Nat.le_refl _
  | cons name rest induction =>
      exact Nat.le_trans (utf8ByteSize_join path name) (induction _)

theorem head?_descend {path : String} (nonempty : path ≠ "")
    (names : List String) :
    (descend path names).toList.head? = path.toList.head? := by
  induction names generalizing path with
  | nil => rfl
  | cons name rest induction =>
      obtain ⟨slash, text_eq⟩ := exists_toList_join path name
      have path_nonempty : path.toList ≠ [] :=
        fun equality => nonempty (String.toList_eq_nil_iff.mp equality)
      have head_eq : (join path name).toList.head? = path.toList.head? := by
        rw [text_eq, List.append_assoc,
          List.head?_append_of_ne_nil _ path_nonempty]
      have join_nonempty : join path name ≠ "" := by
        intro equality
        rw [equality] at text_eq
        have parts := List.append_eq_nil_iff.mp text_eq.symm
        exact path_nonempty (List.append_eq_nil_iff.mp parts.1).1
      rw [descend_cons, induction join_nonempty, head_eq]

theorem getLast?_join (path : String) {name : String} (named : IsName name) :
    (join path name).toList.getLast? ≠ some '/' := by
  obtain ⟨slash, text_eq⟩ := exists_toList_join path name
  have name_nonempty : name.toList ≠ [] := by
    intro equality
    exact named.2 (by simp [String.toList_eq_nil_iff.mp equality])
  intro slashed
  rw [text_eq, List.getLast?_append_of_ne_nil _ name_nonempty] at slashed
  exact named.1 (List.mem_of_getLast? slashed)

theorem ofText_descend {path : String} (nonempty : path ≠ "")
    {names : List String} (named : ∀ name ∈ names, IsName name)
    (lengthened : names ≠ []) :
    Route.ofText (descend path names).toList =
      ⟨(Route.ofText path.toList).absolute,
        Step.ofPieces path.toList ++ names.map .down⟩ := by
  have unsettled : (descend path names).toList.getLast? ≠ some '/' := by
    rcases List.eq_nil_or_concat names with rfl | ⟨front, last, rfl⟩
    · exact absurd rfl lengthened
    · rw [List.concat_eq_append] at named ⊢
      rw [descend_append]
      exact getLast?_join _ (named last (by simp))
  have steps_eq : (Route.ofText (descend path names).toList).steps =
      Step.ofPieces (descend path names).toList := by
    rw [Route.steps_ofText, if_neg unsettled, List.append_nil]
  have absolute_eq : (Route.ofText (descend path names).toList).absolute =
      (Route.ofText path.toList).absolute :=
    congrArg (· == some '/') (head?_descend nonempty names)
  rw [← ofPieces_descend path named, ← steps_eq, ← absolute_eq]

end Path

namespace FileSystem

variable {files : FileSystem}

theorem locate_eq_walk (purpose : Purpose) {path : String}
    (nonempty : path ≠ "") (short : path.utf8ByteSize < pathLimit) :
    files.locate purpose path =
      files.walk purpose linkLimit (files.start (.ofText path.toList))
        (Route.ofText path.toList).steps := by
  rw [locate, route, if_neg nonempty, if_neg (Nat.not_le.mpr short)]
  rfl

theorem locate_eq_ok_iff {purpose : Purpose} {path : String} {spot : Spot} :
    files.locate purpose path = .ok spot ↔
      path ≠ "" ∧ path.utf8ByteSize < pathLimit ∧
        files.Leads purpose linkLimit (files.start (.ofText path.toList))
          (Route.ofText path.toList).steps spot := by
  by_cases nonempty : path ≠ ""
  · by_cases short : path.utf8ByteSize < pathLimit
    · rw [locate_eq_walk purpose nonempty short, walk_eq_ok_iff]
      exact ⟨fun leads => ⟨nonempty, short, leads⟩, fun parts => parts.2.2⟩
    · rw [locate, route, if_neg nonempty, if_pos (Nat.not_lt.mp short)]
      exact ⟨nofun, fun parts => absurd parts.2.1 short⟩
  · rw [locate, route, if_pos (Decidable.not_not.mp nonempty)]
    exact ⟨nofun, fun parts => absurd parts.1 nonempty⟩

theorem Extends.start_eq {after : FileSystem} (grown : files.Extends after)
    (route : Route) : after.start route = files.start route := by
  rw [start, start, grown.current_eq]

theorem Extends.locate_taken {after : FileSystem}
    (grown : files.Extends after) {purpose : Purpose} {path : String}
    {location : Location}
    (located : files.locate purpose path = .ok (.taken location)) :
    after.locate purpose path = .ok (.taken location) := by
  obtain ⟨nonempty, short, leads⟩ := locate_eq_ok_iff.mp located
  refine locate_eq_ok_iff.mpr ⟨nonempty, short, ?_⟩
  rw [grown.start_eq]
  exact leads.mono grown nofun

/-- A slash at the end of a path adds nothing to where it leads. -/
theorem leads_ofPieces {path : String} {location : Location}
    (located : files.locate .use path = .ok (.taken location)) :
    files.Leads .use linkLimit (files.start (.ofText path.toList))
      (Step.ofPieces path.toList) (.taken location) := by
  obtain ⟨_, _, leads⟩ := locate_eq_ok_iff.mp located
  rw [Route.steps_ofText] at leads
  split at leads
  · obtain ⟨there, arrival⟩ := leads.exists_arrival _ rfl (by simp)
    obtain ⟨left, onward⟩ := arrival.exists_walk_append rfl
    have settles := onward [.settle]
    rw [leads.walk_eq] at settles
    cases leads_of_walk_eq left settles.symm with
    | settle folder arrived =>
        cases arrived with
        | arrived => exact arrival
  · rw [List.append_nil] at leads
    exact leads

/-- From a directory on, names behind its path are single steps down. -/
theorem exists_locate_descend {path : String} {location : Location}
    (located : files.locate .use path = .ok (.taken location)) :
    ∃ left, ∀ names, names ≠ [] → (∀ name ∈ names, IsName name) →
      (Path.descend path names).utf8ByteSize < pathLimit →
        files.locate .use (Path.descend path names) =
          files.walk .use left location (names.map .down) := by
  obtain ⟨nonempty, _, _⟩ := locate_eq_ok_iff.mp located
  obtain ⟨left, onward⟩ := (leads_ofPieces located).exists_walk_append rfl
  refine ⟨left, fun names lengthened named short => ?_⟩
  have extended_nonempty : Path.descend path names ≠ "" := by
    intro equality
    have smaller := Path.utf8ByteSize_descend path names
    rw [equality] at smaller
    exact nonempty (String.utf8ByteSize_eq_zero_iff.mp (Nat.le_zero.mp smaller))
  rw [locate_eq_walk .use extended_nonempty short,
    Path.ofText_descend nonempty named lengthened, ← onward]
  rfl

theorem entry_eq_ok_iff {path : String} {entry : Entry} :
    files.entry path = .ok entry ↔
      ∃ location, files.locate .use path = .ok (.taken location) ∧
        files.at? location = some entry := by
  rw [FileSystem.entry]
  cases located : files.locate .use path with
  | error failure => exact ⟨nofun, nofun⟩
  | ok spot =>
      cases spot with
      | vacant parent name => exact ⟨nofun, nofun⟩
      | taken location =>
          cases reached : files.at? location with
          | none =>
              simp only [bind, Except.bind, reached]
              constructor
              · nofun
              · rintro ⟨other, ⟨rfl⟩, found⟩
                rw [reached] at found
                cases found
          | some other =>
              simp only [bind, Except.bind, reached]
              constructor
              · rintro ⟨rfl⟩
                exact ⟨location, rfl, reached⟩
              · rintro ⟨other, ⟨rfl⟩, found⟩
                rw [reached] at found
                rw [Option.some.inj found]

theorem isFile_iff {path : String} :
    files.isFile path = true ↔
      ∃ location content, files.locate .use path = .ok (.taken location) ∧
        files.node? location = some (.file content) := by
  constructor
  · intro is_file
    rw [isFile] at is_file
    split at is_file
    · rename_i content entry_eq
      obtain ⟨location, located, reached⟩ := entry_eq_ok_iff.mp entry_eq
      refine ⟨location, content, located, ?_⟩
      rw [node?_eq, reached]
      rfl
    · cases is_file
  · rintro ⟨location, content, located, found⟩
    have entry_eq : files.entry path = .ok (.file content) :=
      entry_eq_ok_iff.mpr ⟨location, located, at?_of_node?_file found⟩
    rw [isFile, entry_eq]

theorem directory?_eq_some_iff {path : String} {inside : Directory} :
    files.directory? path = some inside ↔
      ∃ location, files.locate .use path = .ok (.taken location) ∧
        files.at? location = some (.folder inside) := by
  rw [← entry_eq_ok_iff, directory?]
  cases files.entry path with
  | error failure => exact ⟨nofun, nofun⟩
  | ok entry =>
      cases entry with
      | file content => exact ⟨nofun, nofun⟩
      | link target => exact ⟨nofun, nofun⟩
      | folder other =>
          constructor
          · rintro ⟨rfl⟩
            rfl
          · rintro ⟨rfl⟩
            rfl

theorem isDirectory_iff {path : String} :
    files.isDirectory path = true ↔
      ∃ location, files.locate .use path = .ok (.taken location) ∧
        files.node? location = some .folder := by
  rw [isDirectory, Option.isSome_iff_exists]
  simp only [directory?_eq_some_iff]
  constructor
  · rintro ⟨inside, location, located, reached⟩
    refine ⟨location, located, ?_⟩
    rw [node?_eq, reached]
    rfl
  · rintro ⟨location, located, found⟩
    obtain ⟨entry, reached, node_eq⟩ := Option.map_eq_some_iff.mp found
    cases entry with
    | file content => cases node_eq
    | link target => cases node_eq
    | folder inside => exact ⟨inside, location, located, reached⟩

theorem readText_eq {path : String} {location : Location} {content : Content}
    (located : files.locate .use path = .ok (.taken location))
    (found : files.node? location = some (.file content)) :
    files.readText path =
      match content.text? with
      | some text => .ok text
      | none => .error .notText := by
  have entry_eq : files.entry path = .ok (.file content) :=
    entry_eq_ok_iff.mpr ⟨location, located, at?_of_node?_file found⟩
  have bytes_eq : files.readBytes path = .ok content := by
    rw [readBytes, entry_eq]
    rfl
  rw [readText, bytes_eq]
  rfl

theorem Extends.isFile {after : FileSystem} (grown : files.Extends after)
    {path : String} (is_file : files.isFile path = true) :
    after.isFile path = true := by
  obtain ⟨location, content, located, found⟩ := isFile_iff.mp is_file
  obtain ⟨other, found⟩ := grown.file location content found
  exact isFile_iff.mpr ⟨location, other, grown.locate_taken located, found⟩

theorem Extends.isDirectory {after : FileSystem} (grown : files.Extends after)
    {path : String} (is_directory : files.isDirectory path = true) :
    after.isDirectory path = true := by
  obtain ⟨location, located, folder⟩ := isDirectory_iff.mp is_directory
  exact isDirectory_iff.mpr
    ⟨location, grown.locate_taken located, grown.folder location folder⟩

end FileSystem

end TilingHeader.FileTree
