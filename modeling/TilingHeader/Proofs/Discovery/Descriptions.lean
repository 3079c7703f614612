import TilingHeader.Proofs.Discovery.Listing
import TilingHeader.Proofs.FileTree.Shuffled

namespace TilingHeader

/-! What the search below a root finds.  The list holds the paths of all
descriptions, in the order of their bytes, and is fixed by what stands where in
the tree. -/

namespace FileTree

theorem Path.bytes_injective {first second : String}
    (same : Path.bytes first = Path.bytes second) : first = second := by
  have content_eq := congrArg Content.toBytes same
  rw [Path.bytes, Path.bytes, Content.ofText, Content.ofText,
    Content.toBytes_ofBytes, Content.toBytes_ofBytes] at content_eq
  exact String.toByteArray_inj.mp content_eq

theorem FileSystem.Leads.exists_last {files : FileSystem} {links : Nat}
    {location : Location} {names : List String} {name : String}
    {there : Location}
    (leads : files.Leads .use links location
      ((names ++ [name]).map Step.down) (.taken there))
    (folders : ∀ above, above <+: names →
      files.node? (location ++ above) = some .folder) :
    ∃ node, files.node? (location ++ names ++ [name]) = some node ∧
      (node = .folder → there = location ++ names ++ [name]) := by
  induction names generalizing location with
  | nil =>
      rw [List.append_nil]
      cases leads with
      | link folder passes found onward => exact ⟨_, found, nofun⟩
      | down folder passes found no_link onward =>
          cases onward with
          | arrived => exact ⟨_, found, fun _ => rfl⟩
  | cons first rest induction =>
      have first_folder : files.node? (location ++ [first]) = some .folder :=
        folders [first] ⟨rest, rfl⟩
      rw [List.cons_append, List.map_cons] at leads
      generalize steps_eq : (rest ++ [name]).map Step.down = steps at leads
      cases leads with
      | link folder passes found onward =>
          rw [first_folder] at found
          cases found
      | down folder passes found no_link onward =>
          subst steps_eq
          have below : ∀ above, above <+: rest →
              files.node? (location ++ [first] ++ above) = some .folder := by
            intro above leading
            rw [List.append_assoc, List.singleton_append]
            exact folders (first :: above)
              ((List.prefix_cons_inj first).mpr leading)
          obtain ⟨node, last_found, arrives⟩ := induction onward below
          rw [List.append_assoc location [first] rest] at last_found arrives
          exact ⟨node, last_found, arrives⟩

end FileTree

namespace Discovery

open FileTree

variable {files : FileSystem}

/-- Below the location of a root, directories lead down to the names' last,
and the path of the root with these names behind it is that of a file. -/
structure IsDescription (files : FileSystem) (suffix root : String)
    (location : Location) (names : List String) (name : String) : Prop where
  named : ∀ part ∈ names ++ [name], IsName part
  folders : ∀ above, above <+: names →
    files.node? (location ++ above) = some .folder
  suffix : HasSuffix suffix name
  file : files.isFile (Path.descend root (names ++ [name])) = true

section Root

variable {root : String} {location : Location}

theorem exists_locate_eq (settings : Settings)
    (located : files.locate .use root = .ok (.taken location))
    (folder : files.node? location = some .folder) :
    ∃ inside, files.at? location = some (.folder inside) ∧
      locate files settings root =
        (below files settings.suffix root inside).mergeSort Path.le := by
  obtain ⟨inside, found⟩ := Option.isSome_iff_exists.mp
    (FileSystem.isDirectory_iff.mpr ⟨location, located, folder⟩)
  obtain ⟨other, other_located, reached⟩ :=
    FileSystem.directory?_eq_some_iff.mp found
  rw [located] at other_located
  cases other_located
  refine ⟨inside, reached, ?_⟩
  rw [locate, found]

theorem wellFormed_of_at? (wellFormed : files.WellFormed)
    {inside : Directory} (reached : files.at? location = some (.folder inside)) :
    inside.WellFormed := by
  have top_wellFormed : files.top.WellFormed := wellFormed
  exact (top_wellFormed.of_at? reached).1

theorem node?_below {inside : Directory}
    (reached : files.at? location = some (.folder inside)) (place : Location) :
    files.node? (location ++ place) = (Entry.folder inside).node? place := by
  have reached_top : files.top.at? location = some (.folder inside) := reached
  rw [FileSystem.node?, Entry.node?_append, reached_top]
  rfl

theorem mem_leaves_of_isDescription (wellFormed : files.WellFormed)
    (located : files.locate .use root = .ok (.taken location))
    {inside : Directory} (reached : files.at? location = some (.folder inside))
    {suffix name : String} {names : List String}
    (description : IsDescription files suffix root location names name) :
    names ++ [name] ∈ inside.leaves := by
  obtain ⟨there, content, path_located, is_file⟩ :=
    FileSystem.isFile_iff.mp description.file
  obtain ⟨left, onward⟩ := FileSystem.exists_locate_descend located
  have short := (FileSystem.locate_eq_ok_iff.mp path_located).2.1
  rw [onward _ (by simp) description.named short] at path_located
  have leads := FileSystem.leads_of_walk_eq left path_located
  obtain ⟨node, found, arrives⟩ := leads.exists_last description.folders
  rw [List.append_assoc] at found arrives
  refine (Directory.mem_leaves_iff (wellFormed_of_at? wellFormed reached) _).mpr
    ⟨node, (node?_below reached _).symm.trans found, ?_⟩
  rintro rfl
  rw [arrives rfl, found] at is_file
  cases is_file

theorem isDescription_of_mem_leaves (wellFormed : files.WellFormed)
    {inside : Directory} (reached : files.at? location = some (.folder inside))
    {suffix name : String} {names : List String}
    (listed : names ++ [name] ∈ inside.leaves)
    (selected : selects files suffix root (names ++ [name]) = true) :
    IsDescription files suffix root location names name := by
  obtain ⟨node, found, _⟩ := (Directory.mem_leaves_iff
    (wellFormed_of_at? wellFormed reached) _).mp listed
  have stands : files.node? (location ++ (names ++ [name])) = some node :=
    (node?_below reached _).trans found
  obtain ⟨has_suffix, is_file⟩ := (Bool.and_eq_true _ _).mp selected
  refine ⟨?_, FileSystem.folder_of_node?_below stands,
    by simpa using has_suffix, is_file⟩
  intro part member
  exact wellFormed.isName_of_node? stands part
    (List.mem_append_right location member)

theorem mem_locate_iff (wellFormed : files.WellFormed) (settings : Settings)
    (located : files.locate .use root = .ok (.taken location))
    (folder : files.node? location = some .folder) (found : String) :
    found ∈ locate files settings root ↔
      ∃ names name, found = Path.descend root (names ++ [name]) ∧
        IsDescription files settings.suffix root location names name := by
  obtain ⟨inside, reached, locate_eq⟩ :=
    exists_locate_eq settings located folder
  rw [locate_eq, List.mem_mergeSort, below_eq, List.mem_map]
  constructor
  · rintro ⟨places, listed, rfl⟩
    obtain ⟨leaf, selected⟩ := List.mem_filter.mp listed
    rcases List.eq_nil_or_concat places with rfl | ⟨names, name, rfl⟩
    · exact absurd leaf inside.nil_not_mem_leaves
    · rw [List.concat_eq_append] at leaf selected ⊢
      exact ⟨names, name, rfl,
        isDescription_of_mem_leaves wellFormed reached leaf selected⟩
  · rintro ⟨names, name, rfl, description⟩
    refine ⟨names ++ [name], List.mem_filter.mpr ⟨?_, ?_⟩, rfl⟩
    · exact mem_leaves_of_isDescription wellFormed located reached description
    · have has_suffix := description.suffix
      have is_file := description.file
      simp [selects, has_suffix, is_file]

theorem nodup_locate (wellFormed : files.WellFormed) (settings : Settings)
    (root : String) : (locate files settings root).Nodup := by
  rw [locate]
  split
  · exact List.nodup_nil
  · rename_i inside found
    obtain ⟨location, _, reached⟩ :=
      FileSystem.directory?_eq_some_iff.mp found
    have inside_wellFormed := wellFormed_of_at? wellFormed reached
    have named : ∀ places ∈ inside.leaves, ∀ name ∈ places, IsName name := by
      intro places listed name member
      obtain ⟨node, stands, _⟩ :=
        (Directory.mem_leaves_iff inside_wellFormed places).mp listed
      exact wellFormed.isName_of_node? ((node?_below reached _).trans stands)
        name (List.mem_append_right location member)
    rw [(List.mergeSort_perm _ _).nodup_iff, below_eq]
    refine List.Nodup.map_on ?_
      ((Directory.nodup_leaves inside_wellFormed).filter _)
    intro first first_listed second second_listed same
    exact Path.descend_injective root
      (named first (List.mem_filter.mp first_listed).1)
      (named second (List.mem_filter.mp second_listed).1) same

theorem pairwise_locate (wellFormed : files.WellFormed) (settings : Settings)
    (root : String) :
    (locate files settings root).Pairwise fun first second =>
      Path.bytes first < Path.bytes second := by
  have distinct := nodup_locate wellFormed settings root
  have sorted : (locate files settings root).Pairwise fun first second =>
      Path.le first second = true := by
    rw [locate]
    split
    · exact List.Pairwise.nil
    · refine List.pairwise_mergeSort ?_ ?_ _
      · intro first second third before after
        exact decide_eq_true
          (List.le_trans (of_decide_eq_true before) (of_decide_eq_true after))
      · intro first second
        rw [Bool.or_eq_true]
        exact (List.le_total (Path.bytes first) (Path.bytes second)).imp
          decide_eq_true decide_eq_true
  refine (sorted.and distinct).imp ?_
  rintro first second ⟨before, apart⟩
  by_contra not_before
  have after : Path.bytes second ≤ Path.bytes first := List.not_lt.mp not_before
  exact apart
    (Path.bytes_injective (List.le_antisymm (of_decide_eq_true before) after))

end Root

theorem eq_of_mem_iff {first second : List String}
    (first_sorted : first.Pairwise fun one other =>
      Path.bytes one < Path.bytes other)
    (second_sorted : second.Pairwise fun one other =>
      Path.bytes one < Path.bytes other)
    (same : ∀ path, path ∈ first ↔ path ∈ second) : first = second := by
  have nodup_of_sorted {paths : List String}
      (sorted : paths.Pairwise fun one other =>
        Path.bytes one < Path.bytes other) : paths.Nodup := by
    refine sorted.imp ?_
    rintro one _ before rfl
    exact List.lt_irrefl _ before
  have permuted : first.Perm second :=
    (List.perm_ext_iff_of_nodup (nodup_of_sorted first_sorted)
      (nodup_of_sorted second_sorted)).mpr same
  refine permuted.eq_of_pairwise ?_ first_sorted second_sorted
  intro one other _ _ before after
  exact absurd after (List.lt_asymm before)

theorem locate_of_not_directory (settings : Settings) {root : String}
    (missing : files.isDirectory root = false) :
    locate files settings root = [] := by
  rw [FileSystem.isDirectory, Option.isSome_eq_false_iff,
    Option.isNone_iff_eq_none] at missing
  rw [locate, missing]

theorem mem_locate_iff_exists (wellFormed : files.WellFormed)
    (settings : Settings) (root found : String) :
    found ∈ locate files settings root ↔
      ∃ location, files.locate .use root = .ok (.taken location) ∧
        files.node? location = some .folder ∧
        ∃ names name, found = Path.descend root (names ++ [name]) ∧
          IsDescription files settings.suffix root location names name := by
  constructor
  · intro listed
    cases rooted : files.isDirectory root with
    | false =>
        rw [locate_of_not_directory settings rooted] at listed
        cases listed
    | true =>
        obtain ⟨location, located, folder⟩ :=
          FileSystem.isDirectory_iff.mp rooted
        exact ⟨location, located, folder,
          (mem_locate_iff wellFormed settings located folder found).mp listed⟩
  · rintro ⟨location, located, folder, described⟩
    exact (mem_locate_iff wellFormed settings located folder found).mpr
      described

theorem IsDescription.mono {after : FileSystem} (grown : files.Extends after)
    {suffix root name : String} {location : Location} {names : List String}
    (description : IsDescription files suffix root location names name) :
    IsDescription after suffix root location names name where
  named := description.named
  folders above leading := grown.folder _ (description.folders above leading)
  suffix := description.suffix
  file := grown.isFile description.file

theorem locate_subset {after : FileSystem} (wellFormed : files.WellFormed)
    (after_wellFormed : after.WellFormed) (grown : files.Extends after)
    (settings : Settings) (root : String) :
    locate files settings root ⊆ locate after settings root := by
  intro found listed
  obtain ⟨location, located, folder, names, name, found_eq, description⟩ :=
    (mem_locate_iff_exists wellFormed settings root found).mp listed
  exact (mem_locate_iff_exists after_wellFormed settings root found).mpr
    ⟨location, grown.locate_taken located, grown.folder location folder, names,
      name, found_eq, description.mono grown⟩

theorem locate_shuffled (wellFormed : files.WellFormed) (settings : Settings)
    (root : String) {other : Directory}
    (shuffled : files.root.Shuffled other) :
    locate { files with root := other } settings root =
      locate files settings root := by
  have same : ∀ place,
      ({ files with root := other } : FileSystem).node? place =
        files.node? place :=
    fun place => (shuffled.node?_eq place).symm
  have other_wellFormed : ({ files with root := other } : FileSystem).WellFormed :=
    shuffled.wellFormed wellFormed
  refine eq_of_mem_iff (pairwise_locate other_wellFormed settings root)
    (pairwise_locate wellFormed settings root) fun path => ⟨?_, ?_⟩
  · apply locate_subset other_wellFormed wellFormed
    exact FileSystem.extends_of_node?_eq rfl fun place => (same place).symm
  · apply locate_subset wellFormed other_wellFormed
    exact FileSystem.extends_of_node?_eq rfl same

/-- The list below a root that is a directory has exactly the descriptions, in
strict order, whatever the order of the entries in the tree. -/
theorem locate_lists_descriptions {files : FileSystem}
    (wellFormed : files.WellFormed) (settings : Settings) (root : String) :
    (files.isDirectory root = false → locate files settings root = []) ∧
      (∀ location, files.locate .use root = .ok (.taken location) →
        files.node? location = some .folder →
        (locate files settings root).Pairwise
            (fun first second => Path.bytes first < Path.bytes second) ∧
          ∀ found, found ∈ locate files settings root ↔
            ∃ names name, found = Path.descend root (names ++ [name]) ∧
              IsDescription files settings.suffix root location names name) ∧
      (∀ other, files.root.Shuffled other →
        locate { files with root := other } settings root =
          locate files settings root) ∧
      (search files settings root : Logged Notice Empty (List String)).outcome =
        .ok (locate files settings root) := by
  refine ⟨locate_of_not_directory settings, ?_, ?_, rfl⟩
  · intro location located folder
    exact ⟨pairwise_locate wellFormed settings root,
      mem_locate_iff wellFormed settings located folder⟩
  · intro other shuffled
    exact locate_shuffled wellFormed settings root shuffled

/-- A directory with a link to a file beside it. -/
def linkedTree : FileSystem :=
  ⟨.folder "src" (.link "a_tilingdata.h" "../b.txt" .empty)
    (.file "b.txt" [] .empty), []⟩

theorem locate_lists_descriptions_linked :
    linkedTree.WellFormed ∧
      linkedTree.locate .use "src" = .ok (.taken ["src"]) ∧
      linkedTree.node? ["src"] = some .folder ∧
      "src/a_tilingdata.h" ∈ locate linkedTree {} "src" := by
  have wellFormed : linkedTree.WellFormed := by decide
  have located : linkedTree.locate .use "src" = .ok (.taken ["src"]) := by
    decide +kernel
  have folder : linkedTree.node? ["src"] = some .folder := rfl
  refine ⟨wellFormed, located, folder, ?_⟩
  refine (((locate_lists_descriptions wellFormed {} "src").2.1 ["src"] located
    folder).2 _).mpr ⟨[], "a_tilingdata.h", by decide +kernel, ?_⟩
  refine ⟨by decide +kernel, ?_, by decide +kernel, by decide +kernel⟩
  intro above leading
  obtain rfl := List.prefix_nil.mp leading
  exact folder

end Discovery

end TilingHeader
