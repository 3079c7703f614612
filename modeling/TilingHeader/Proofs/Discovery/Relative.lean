import Mathlib.Data.Set.List
import TilingHeader.Proofs.Discovery.Descriptions

namespace TilingHeader

/-! The descriptions below a root, by the names that lead to them from there.
Their order is that of the names alone, however the root is written. -/

namespace FileTree

namespace Path

theorem bytes_append (first second : String) :
    bytes (first ++ second) = bytes first ++ bytes second := by
  simp only [bytes, Content.ofText, Content.ofBytes,
    String.toUTF8_eq_toByteArray, String.toByteArray_append,
    ByteArray.toList_data_append]

/-- What is left of a path when the root that it starts from is stripped. -/
def relative (names : List String) : String :=
  "/".intercalate names

theorem join_eq (path name : String) :
    join path name =
      (if path.toList.getLast? = some '/' then path else path ++ "/") ++
        name := by
  rw [join]
  split <;> rfl

theorem descend_eq_join (path : String) {names : List String}
    (lengthened : names ≠ []) (named : ∀ name ∈ names, IsName name) :
    descend path names = join path (relative names) := by
  induction names generalizing path with
  | nil => exact absurd rfl lengthened
  | cons name rest induction =>
      obtain ⟨name_named, rest_named⟩ := List.forall_mem_cons.mp named
      cases rest with
      | nil => rw [descend_cons, descend_nil, relative,
          String.intercalate_singleton]
      | cons next others =>
          have unsettled := getLast?_join path name_named
          rw [descend_cons, induction _ (List.cons_ne_nil next others) rest_named,
            join_eq (join path name), if_neg unsettled, join_eq path,
            join_eq path, relative, relative, String.intercalate_cons_cons]
          simp only [String.append_assoc]

theorem bytes_join_lt_iff (path first second : String) :
    bytes (join path first) < bytes (join path second) ↔
      bytes first < bytes second := by
  rw [join_eq, join_eq, bytes_append, bytes_append]
  generalize bytes (if path.toList.getLast? = some '/' then path
    else path ++ "/") = front
  induction front with
  | nil => rfl
  | cons byte rest induction => simpa using induction

theorem bytes_descend_lt_iff (path : String) {first second : List String}
    (first_lengthened : first ≠ []) (second_lengthened : second ≠ [])
    (first_named : ∀ name ∈ first, IsName name)
    (second_named : ∀ name ∈ second, IsName name) :
    bytes (descend path first) < bytes (descend path second) ↔
      bytes (relative first) < bytes (relative second) := by
  rw [descend_eq_join path first_lengthened first_named,
    descend_eq_join path second_lengthened second_named, bytes_join_lt_iff]

end Path

theorem FileSystem.exists_readBytes_of_isFile {files : FileSystem}
    {path : String} (is_file : files.isFile path = true) :
    ∃ content, files.readBytes path = .ok content := by
  rw [isFile] at is_file
  split at is_file
  · rename_i content entry_eq
    refine ⟨content, ?_⟩
    rw [readBytes, entry_eq]
    rfl
  · cases is_file

end FileTree

namespace Discovery

open FileTree

/-- The names lead from the directory of a root to a description, which holds
the content. -/
inductive Finds (files : FileSystem) (suffix root : String) :
    List String → Content → Prop
  | intro {location : Location} {above : List String} {name : String}
      {content : Content}
      (located : files.locate .use root = .ok (.taken location))
      (folder : files.node? location = some .folder)
      (description : IsDescription files suffix root location above name)
      (holds : files.readBytes (Path.descend root (above ++ [name])) =
        .ok content) :
      Finds files suffix root (above ++ [name]) content

namespace Finds

variable {files : FileSystem} {suffix root : String} {names : List String}
  {content : Content}

theorem named (finds : Finds files suffix root names content) :
    ∀ name ∈ names, IsName name := by
  cases finds with
  | intro located folder description holds => exact description.named

theorem ne_nil (finds : Finds files suffix root names content) :
    names ≠ [] := by
  cases finds with
  | intro located folder description holds => exact List.concat_ne_nil _ _

theorem readBytes_eq (finds : Finds files suffix root names content) :
    files.readBytes (Path.descend root names) = .ok content := by
  cases finds with
  | intro located folder description holds => exact holds

end Finds

section Listed

variable {files : FileSystem} (wellFormed : files.WellFormed)
  (settings : Settings) (root : String)
include wellFormed

theorem mem_locate_iff_finds (found : String) :
    found ∈ locate files settings root ↔
      ∃ names content, found = Path.descend root names ∧
        Finds files settings.suffix root names content := by
  rw [mem_locate_iff_exists wellFormed]
  constructor
  · intro described
    obtain ⟨location, located, folder, above, name, found_eq, description⟩ :=
      described
    obtain ⟨content, holds⟩ :=
      FileSystem.exists_readBytes_of_isFile description.file
    exact ⟨above ++ [name], content, found_eq,
      .intro located folder description holds⟩
  · rintro ⟨_, content, found_eq, ⟨located, folder, description, holds⟩⟩
    exact ⟨_, located, folder, _, _, found_eq, description⟩

theorem finds_iff_of_locate {places : List (List String)}
    (listed : locate files settings root = places.map (Path.descend root))
    (named : ∀ names ∈ places, ∀ name ∈ names, IsName name)
    (names : List String) (content : Content) :
    Finds files settings.suffix root names content ↔
      names ∈ places ∧
        files.readBytes (Path.descend root names) = .ok content := by
  have members := mem_locate_iff_finds wellFormed settings root
  simp only [listed, List.mem_map] at members
  constructor
  · intro finds
    obtain ⟨place, place_listed, same⟩ :=
      (members (Path.descend root names)).mpr ⟨names, content, rfl, finds⟩
    have place_eq := Path.descend_injective root (named place place_listed)
      finds.named same
    subst place_eq
    exact ⟨place_listed, finds.readBytes_eq⟩
  · intro both
    obtain ⟨names_listed, holds⟩ := both
    obtain ⟨place, held, same, finds⟩ :=
      (members (Path.descend root names)).mp ⟨names, names_listed, rfl⟩
    have place_eq := Path.descend_injective root (named names names_listed)
      finds.named same
    subst place_eq
    rw [finds.readBytes_eq] at holds
    cases holds
    exact finds

theorem locate_eq_of_below {root : String} {inside : Directory}
    (reached : files.directory? root = some inside) {paths : List String}
    (sorted : paths.Pairwise fun first second =>
      Path.bytes first < Path.bytes second)
    (permuted : (below files settings.suffix root inside).Perm paths) :
    locate files settings root = paths := by
  apply eq_of_mem_iff (pairwise_locate wellFormed settings root) sorted
  intro path
  rw [locate, reached, List.mem_mergeSort, permuted.mem_iff]

theorem exists_places :
    ∃ places : List (List String),
      locate files settings root = places.map (Path.descend root) ∧
        ∀ names, names ∈ places ↔
          ∃ content, Finds files settings.suffix root names content := by
  let Place :=
    { names // ∃ content, Finds files settings.suffix root names content }
  have ranged : locate files settings root ∈
      {paths | ∀ path ∈ paths,
        path ∈ Set.range fun place : Place => Path.descend root place.1} := by
    intro path listed
    obtain ⟨names, content, rfl, finds⟩ :=
      (mem_locate_iff_finds wellFormed settings root path).mp listed
    exact ⟨⟨names, content, finds⟩, rfl⟩
  rw [← Set.range_list_map] at ranged
  obtain ⟨places, places_eq⟩ := ranged
  have listed : locate files settings root =
      (places.map Subtype.val).map (Path.descend root) := by
    rw [List.map_map]
    exact places_eq.symm
  refine ⟨places.map Subtype.val, listed, fun names => ?_⟩
  constructor
  · intro member
    obtain ⟨place, _, rfl⟩ := List.mem_map.mp member
    exact place.2
  · intro found
    obtain ⟨content, finds⟩ := found
    refine ((finds_iff_of_locate wellFormed settings root listed ?_ names
      content).mp finds).1
    intro place member
    obtain ⟨⟨_, _, place_finds⟩, _, rfl⟩ := List.mem_map.mp member
    exact place_finds.named

end Listed

/-- What is found below two roots decides both lists, position by position. -/
theorem exists_common_places {files other : FileSystem}
    (wellFormed : files.WellFormed) (other_wellFormed : other.WellFormed)
    (settings : Settings) {root other_root : String}
    (same : ∀ names content,
      Finds files settings.suffix root names content ↔
        Finds other settings.suffix other_root names content) :
    ∃ places : List (List String),
      (∀ names, names ∈ places ↔
        ∃ content, Finds files settings.suffix root names content) ∧
      locate files settings root = places.map (Path.descend root) ∧
      locate other settings other_root =
        places.map (Path.descend other_root) := by
  obtain ⟨places, listed, places_iff⟩ :=
    exists_places wellFormed settings root
  refine ⟨places, places_iff, listed, ?_⟩
  have sorted := pairwise_locate wellFormed settings root
  rw [listed, List.pairwise_map] at sorted
  apply eq_of_mem_iff (pairwise_locate other_wellFormed settings other_root)
  · rw [List.pairwise_map]
    apply sorted.imp_of_mem
    intro first second first_listed second_listed before
    obtain ⟨_, first_finds⟩ := (places_iff first).mp first_listed
    obtain ⟨_, second_finds⟩ := (places_iff second).mp second_listed
    rw [Path.bytes_descend_lt_iff _ first_finds.ne_nil second_finds.ne_nil
      first_finds.named second_finds.named] at before ⊢
    exact before
  · intro path
    rw [mem_locate_iff_finds other_wellFormed, List.mem_map]
    constructor
    · rintro ⟨names, content, rfl, finds⟩
      exact ⟨names, (places_iff names).mpr
        ⟨content, (same names content).mpr finds⟩, rfl⟩
    · rintro ⟨names, member, rfl⟩
      obtain ⟨content, finds⟩ := (places_iff names).mp member
      exact ⟨names, content, rfl, (same names content).mp finds⟩

end Discovery

end TilingHeader
