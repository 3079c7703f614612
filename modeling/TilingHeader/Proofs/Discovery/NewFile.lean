import TilingHeader.Proofs.Discovery.Relative
import TilingHeader.Proofs.FileTree.Leaves
import TilingHeader.Proofs.FileTree.Writing

namespace TilingHeader

/-! The search below a root when one file has come or holds something else.  All
that was found is found again.  Without links a file that has come is found
under its own path at most, at one position in the list. -/

open FileTree

namespace FileTree.FileSystem.Receives

variable {files after : FileSystem} {place : Location} {content : Content}
  (receives : files.Receives after place content)

include receives

theorem locate_back {path : String} {there : Location}
    (located : after.locate .use path = .ok (.taken there)) :
    there = place ∨ files.locate .use path = .ok (.taken there) := by
  obtain ⟨nonempty, short, leads⟩ := locate_eq_ok_iff.mp located
  rw [receives.toExtends.start_eq] at leads
  rcases leads.of_file receives.file receives.kept there rfl with
    here | before
  · exact .inl here
  · exact .inr (locate_eq_ok_iff.mpr ⟨nonempty, short, before⟩)

theorem folder_back {location : Location}
    (folder : after.node? location = some .folder) :
    files.node? location = some .folder := by
  rw [← receives.kept location, folder]
  rintro rfl
  rw [receives.file] at folder
  cases folder

theorem readText_eq_of_apart {path : String}
    (is_file : files.isFile path = true)
    (apart : files.locate .use path ≠ .ok (.taken place)) :
    after.readText path = files.readText path := by
  obtain ⟨there, old, located, found⟩ := isFile_iff.mp is_file
  have elsewhere : there ≠ place := by
    rintro rfl
    exact apart located
  have found_after : after.node? there = some (.file old) :=
    (receives.kept there elsewhere).trans found
  rw [readText_eq located found,
    readText_eq (receives.toExtends.locate_taken located) found_after]

end FileTree.FileSystem.Receives

namespace FileTree.FileSystem

/-- No entry is a symbolic link. -/
def Linkless (files : FileSystem) : Prop :=
  ∀ location target, files.node? location ≠ some (.link target)

section Linkless

variable {files after : FileSystem}

theorem linkless_of_leaves (wellFormed : files.WellFormed)
    (plain : ∀ location ∈ files.root.leaves,
      (files.at? location).any Entry.isFile = true) : files.Linkless := by
  intro location target found
  have listed : location ∈ files.root.leaves :=
    (Directory.mem_leaves_iff wellFormed location).mpr ⟨_, found, nofun⟩
  have is_file := plain location listed
  obtain ⟨entry, reached, node_eq⟩ := Option.map_eq_some_iff.mp found
  have reached_files : files.at? location = some entry := reached
  rw [reached_files] at is_file
  cases entry with
  | file content => cases node_eq
  | link other => cases is_file
  | folder inside => cases node_eq

theorem Receives.linkless {place : Location} {content : Content}
    (receives : files.Receives after place content)
    (linkless : files.Linkless) : after.Linkless := by
  intro location target found
  by_cases here : location = place
  · rw [here, receives.file] at found
    cases found
  · rw [receives.kept location here] at found
    exact linkless location target found

theorem Leads.location_of_downs (linkless : files.Linkless)
    {purpose : Purpose} {links : Nat} {here there : Location}
    {names : List String}
    (leads : files.Leads purpose links here (names.map .down)
      (.taken there)) : there = here ++ names := by
  induction names generalizing here with
  | nil =>
      cases leads with
      | arrived => rw [List.append_nil]
  | cons name rest induction =>
      rw [List.map_cons] at leads
      generalize steps_eq : rest.map Step.down = steps at leads
      cases leads with
      | link folder passes found onward =>
          exact absurd found (linkless _ _)
      | down folder passes found no_link onward =>
          subst steps_eq
          rw [induction onward, List.append_assoc, List.singleton_append]

theorem location_of_descend (linkless : files.Linkless) {path : String}
    {location there : Location}
    (located : files.locate .use path = .ok (.taken location))
    {names : List String} (lengthened : names ≠ [])
    (named : ∀ name ∈ names, IsName name)
    (descended : files.locate .use (Path.descend path names) =
      .ok (.taken there)) : there = location ++ names := by
  obtain ⟨left, onward⟩ := exists_locate_descend located
  have short := (locate_eq_ok_iff.mp descended).2.1
  rw [onward names lengthened named short] at descended
  exact (leads_of_walk_eq left descended).location_of_downs linkless

end Linkless

end FileTree.FileSystem

namespace Discovery

theorem mem_locate_of_receives {files after : FileSystem} {place : Location}
    {content : Content} (receives : files.Receives after place content)
    (wellFormed : files.WellFormed) (after_wellFormed : after.WellFormed)
    {settings : Settings} {root path : String}
    (listed : path ∈ locate after settings root) :
    path ∈ locate files settings root ∨
      after.locate .use path = .ok (.taken place) := by
  obtain ⟨location, located, folder, names, name, rfl, description⟩ :=
    (mem_locate_iff_exists after_wellFormed settings root path).mp listed
  obtain ⟨there, found_content, path_located, found⟩ :=
    FileSystem.isFile_iff.mp description.file
  by_cases here : there = place
  · exact .inr (here ▸ path_located)
  · left
    have folder_before := receives.folder_back folder
    have located_before :=
      (receives.locate_back located).resolve_left fun same => by
        rw [same, receives.file] at folder
        cases folder
    refine (mem_locate_iff wellFormed settings located_before
      folder_before _).mpr ⟨names, name, rfl, description.named, ?_,
        description.suffix, ?_⟩
    · exact fun above leading =>
        receives.folder_back (description.folders above leading)
    · exact FileSystem.isFile_iff.mpr ⟨there, found_content,
        (receives.locate_back path_located).resolve_left here,
        (receives.kept there here).symm.trans found⟩

theorem isFile_of_mem_locate {files : FileSystem}
    (wellFormed : files.WellFormed) {settings : Settings}
    {root path : String} (listed : path ∈ locate files settings root) :
    files.isFile path = true := by
  obtain ⟨_, _, _, names, name, rfl, description⟩ :=
    (mem_locate_iff_exists wellFormed settings root path).mp listed
  exact description.file

theorem filter_locate_of_extends {files after : FileSystem}
    (wellFormed : files.WellFormed) (after_wellFormed : after.WellFormed)
    (grown : files.Extends after) (settings : Settings) (root : String) :
    (locate after settings root).filter
        (fun path => decide (path ∈ locate files settings root)) =
      locate files settings root := by
  refine eq_of_mem_iff
    ((pairwise_locate after_wellFormed settings root).filter _)
    (pairwise_locate wellFormed settings root) fun path => ?_
  rw [List.mem_filter, decide_eq_true_iff]
  exact and_iff_right_of_imp fun listed =>
    locate_subset wellFormed after_wellFormed grown settings root listed


/-- Below the directory of a root one file is new.  Its path leads to it. -/
structure Adds (files after : FileSystem) (root : String)
    (location : Location) (above : List String) (name : String)
    (content : Content) : Prop where
  located : files.locate .use root = .ok (.taken location)
  folder : files.node? location = some .folder
  absent : files.node? (location ++ (above ++ [name])) = none
  receives : files.Receives after (location ++ (above ++ [name])) content
  leads : after.locate .use (Path.descend root (above ++ [name])) =
    .ok (.taken (location ++ (above ++ [name])))

section Adds

variable {files after : FileSystem} {settings : Settings} {root name : String}
  {location : Location} {above : List String} {content : Content}

theorem adds_of_writeBytes
    (located : files.locate .use root = .ok (.taken location))
    (folder : files.node? location = some .folder)
    (vacant : files.locate .create (Path.descend root (above ++ [name])) =
      .ok (.vacant (location ++ above) name))
    (written : files.writeBytes (Path.descend root (above ++ [name])) content =
      .ok after) :
    Adds files after root location above name content := by
  obtain ⟨spot, spot_located, receives⟩ :=
    FileSystem.receives_of_writeBytes written
  rw [vacant] at spot_located
  obtain rfl := Except.ok.inj spot_located
  have place_eq : (Spot.vacant (location ++ above) name).location =
      location ++ (above ++ [name]) :=
    List.append_assoc location above [name]
  have absent := (FileSystem.vacant_of_locate vacant).2.1
  have leads := receives.locate_written (FileSystem.locate_use vacant)
  rw [List.append_assoc] at absent
  rw [place_eq] at receives leads
  exact ⟨located, folder, absent, receives, leads⟩

theorem Adds.isDescription (after_wellFormed : after.WellFormed)
    (adds : Adds files after root location above name content)
    {suffix : String} (has_suffix : HasSuffix suffix name) :
    IsDescription after suffix root location above name where
  named part member :=
    after_wellFormed.isName_of_node? adds.receives.file part
      (List.mem_append_right location member)
  folders := FileSystem.folder_of_node?_below adds.receives.file
  suffix := has_suffix
  file := FileSystem.isFile_iff.mpr
    ⟨_, content, adds.leads, adds.receives.file⟩

theorem Adds.located_after
    (adds : Adds files after root location above name content) :
    after.locate .use root = .ok (.taken location) ∧
      after.node? location = some .folder :=
  ⟨adds.receives.toExtends.locate_taken adds.located,
    adds.receives.toExtends.folder location adds.folder⟩

theorem Adds.finds (after_wellFormed : after.WellFormed)
    (adds : Adds files after root location above name content)
    {suffix : String} (has_suffix : HasSuffix suffix name) :
    Finds after suffix root (above ++ [name]) content := by
  obtain ⟨located, folder⟩ := adds.located_after
  refine .intro located folder
    (adds.isDescription after_wellFormed has_suffix) ?_
  have entry_eq : after.entry (Path.descend root (above ++ [name])) =
      .ok (.file content) :=
    FileSystem.entry_eq_ok_iff.mpr ⟨_, adds.leads,
      FileSystem.at?_of_node?_file adds.receives.file⟩
  rw [FileSystem.readBytes, entry_eq]
  rfl

theorem Adds.not_mem_locate (wellFormed : files.WellFormed)
    (adds : Adds files after root location above name content) :
    Path.descend root (above ++ [name]) ∉ locate files settings root := by
  intro listed
  obtain ⟨there, old, located, found⟩ :=
    FileSystem.isFile_iff.mp (isFile_of_mem_locate wellFormed listed)
  have there_eq :=
    (adds.receives.toExtends.locate_taken located).symm.trans adds.leads
  cases there_eq
  rw [adds.absent] at found
  cases found

theorem Adds.mem_locate_iff (wellFormed : files.WellFormed)
    (after_wellFormed : after.WellFormed) (linkless : files.Linkless)
    (adds : Adds files after root location above name content)
    (path : String) :
    path ∈ locate after settings root ↔
      path ∈ locate files settings root ∨
        (HasSuffix settings.suffix name ∧
          path = Path.descend root (above ++ [name])) := by
  obtain ⟨root_located, folder⟩ := adds.located_after
  constructor
  · intro listed
    refine (mem_locate_of_receives adds.receives wellFormed after_wellFormed
      listed).imp_right fun path_located => ?_
    obtain ⟨others, last, rfl, description⟩ :=
      (Discovery.mem_locate_iff after_wellFormed settings root_located folder
        path).mp listed
    have place_eq := FileSystem.location_of_descend
      (adds.receives.linkless linkless) root_located
      (List.concat_ne_nil last others) description.named path_located
    have names_eq := List.append_cancel_left place_eq
    rw [names_eq]
    obtain ⟨_, last_eq⟩ := List.append_inj' names_eq rfl
    cases last_eq
    exact ⟨description.suffix, rfl⟩
  · intro either
    rcases either with before | ⟨has_suffix, path_eq⟩
    · exact locate_subset wellFormed after_wellFormed adds.receives.toExtends
        settings root before
    · exact (Discovery.mem_locate_iff after_wellFormed settings root_located
        folder path).mpr ⟨above, name, path_eq,
          adds.isDescription after_wellFormed has_suffix⟩

theorem Adds.locate_of_not_hasSuffix (wellFormed : files.WellFormed)
    (after_wellFormed : after.WellFormed) (linkless : files.Linkless)
    (adds : Adds files after root location above name content)
    (no_suffix : ¬ HasSuffix settings.suffix name) :
    locate after settings root = locate files settings root := by
  apply eq_of_mem_iff (pairwise_locate after_wellFormed settings root)
    (pairwise_locate wellFormed settings root)
  intro path
  rw [adds.mem_locate_iff wellFormed after_wellFormed linkless]
  exact or_iff_left fun both => no_suffix both.1

end Adds

/-- Before the position stand the paths whose bytes come before those of the
given path, and behind it those whose bytes come after. -/
structure IsPosition (path : String) (paths : List String) (position : Nat) :
    Prop where
  within : position ≤ paths.length
  before : ∀ other ∈ paths.take position, Path.bytes other < Path.bytes path
  behind : ∀ other ∈ paths.drop position, Path.bytes path < Path.bytes other

theorem IsPosition.le {path : String} {paths : List String}
    {first second : Nat} (is_first : IsPosition path paths first)
    (is_second : IsPosition path paths second) : second ≤ first := by
  by_contra beyond
  have less : first < second := Nat.not_le.mp beyond
  have bound : first < paths.length := Nat.lt_of_lt_of_le less is_second.within
  have before := is_second.before paths[first]
    (List.mem_take_iff_getElem.mpr ⟨first, by omega, rfl⟩)
  have behind := is_first.behind paths[first]
    (List.mem_drop_iff_getElem.mpr ⟨0, by omega, by simp⟩)
  exact List.lt_asymm before behind

theorem existsUnique_position {path : String} {paths : List String}
    (sorted : paths.Pairwise fun first second =>
      Path.bytes first < Path.bytes second) (absent : path ∉ paths) :
    ∃ position, ∀ other, IsPosition path paths other ↔ other = position := by
  suffices there : ∃ position, IsPosition path paths position by
    obtain ⟨position, here⟩ := there
    refine ⟨position, fun other => ⟨fun is_other => ?_, fun same => ?_⟩⟩
    · exact Nat.le_antisymm (here.le is_other) (is_other.le here)
    · exact same ▸ here
  induction paths with
  | nil => exact ⟨0, Nat.le_refl 0, nofun, nofun⟩
  | cons first rest induction =>
      obtain ⟨first_before, rest_sorted⟩ := List.pairwise_cons.mp sorted
      rw [List.mem_cons, not_or] at absent
      obtain ⟨first_apart, rest_absent⟩ := absent
      by_cases early : Path.bytes path < Path.bytes first
      · refine ⟨0, Nat.zero_le _, nofun, ?_⟩
        exact List.forall_mem_cons.mpr ⟨early, fun other listed =>
          List.lt_trans early (first_before other listed)⟩
      · have late : Path.bytes first < Path.bytes path := by
          by_contra not_late
          exact first_apart (Path.bytes_injective
            (List.le_antisymm (List.not_lt.mp not_late) (List.not_lt.mp early)))
        obtain ⟨position, within, before, behind⟩ :=
          induction rest_sorted rest_absent
        exact ⟨position + 1, Nat.succ_le_succ within,
          List.forall_mem_cons.mpr ⟨late, before⟩, behind⟩

theorem Adds.locate_of_isPosition {files after : FileSystem}
    {settings : Settings} {root name : String} {location : Location}
    {above : List String} {content : Content}
    (wellFormed : files.WellFormed) (after_wellFormed : after.WellFormed)
    (linkless : files.Linkless)
    (adds : Adds files after root location above name content)
    (has_suffix : HasSuffix settings.suffix name) {position : Nat}
    (here : IsPosition (Path.descend root (above ++ [name]))
      (locate files settings root) position) :
    locate after settings root =
      (locate files settings root).take position ++
        Path.descend root (above ++ [name]) ::
          (locate files settings root).drop position := by
  have sorted := pairwise_locate wellFormed settings root
  apply eq_of_mem_iff (pairwise_locate after_wellFormed settings root)
  · rw [List.pairwise_append, List.pairwise_cons]
    refine ⟨sorted.sublist (List.take_sublist _ _),
      ⟨here.behind, sorted.sublist (List.drop_sublist _ _)⟩, ?_⟩
    intro first first_listed
    have first_before := here.before first first_listed
    exact List.forall_mem_cons.mpr ⟨first_before, fun second listed =>
      List.lt_trans first_before (here.behind second listed)⟩
  · intro path
    have parts : path ∈ locate files settings root ↔
        path ∈ (locate files settings root).take position ∨
          path ∈ (locate files settings root).drop position := by
      rw [← List.mem_append, List.take_append_drop]
    rw [adds.mem_locate_iff wellFormed after_wellFormed linkless, parts,
      List.mem_append, List.mem_cons]
    simp only [has_suffix, true_and]
    tauto

end Discovery

end TilingHeader
