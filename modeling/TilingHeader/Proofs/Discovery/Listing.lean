import TilingHeader.Discovery
import TilingHeader.Proofs.FileTree.Leaves
import TilingHeader.Proofs.FileTree.Paths

namespace TilingHeader

/-! The search below a root as a choice among the leaves of its directory. -/

namespace Discovery

open FileTree

variable {files : FileSystem}

/-- The names lead from a path to a description. -/
def selects (files : FileSystem) (suffix path : String)
    (names : List String) : Bool :=
  (names.getLast?.any fun name => HasSuffix suffix name) &&
    files.isFile (Path.descend path names)

theorem selects_singleton (suffix path name : String) :
    selects files suffix path [name] = true ↔
      HasSuffix suffix name ∧ files.isFile (Path.join path name) = true := by
  simp [selects]

theorem selects_cons {names : List String} (deeper : names ≠ [])
    (suffix path name : String) :
    selects files suffix path (name :: names) =
      selects files suffix (Path.join path name) names := by
  rw [selects, List.getLast?_cons_of_ne_nil deeper, Path.descend_cons]
  rfl

theorem isListable_of_selects {suffix path name : String} {names : List String}
    (selected : selects files suffix path (name :: names) = true) :
    IsListable (Path.join path name) := by
  have is_file : files.isFile (Path.descend path (name :: names)) = true :=
    ((Bool.and_eq_true _ _).mp selected).2
  obtain ⟨_, _, located, _⟩ := FileSystem.isFile_iff.mp is_file
  have short := (FileSystem.locate_eq_ok_iff.mp located).2.1
  exact Nat.lt_of_le_of_lt (Path.utf8ByteSize_descend _ names) short

theorem select_eq (suffix path name : String) :
    select files suffix name (Path.join path name) =
      ([[name]].filter (selects files suffix path)).map (Path.descend path) := by
  rw [select, List.filter_singleton]
  by_cases selected : selects files suffix path [name] = true
  · rw [if_pos ((selects_singleton suffix path name).mp selected), selected]
    rfl
  · rw [if_neg ((selects_singleton suffix path name).not.mp selected),
      Bool.not_eq_true _ |>.mp selected]
    rfl

theorem below_eq (suffix path : String) (directory : Directory) :
    below files suffix path directory =
      (directory.leaves.filter (selects files suffix path)).map
        (Path.descend path) := by
  induction directory generalizing path with
  | empty => rfl
  | file name content others induction =>
      rw [below, Directory.leaves, ← List.singleton_append,
        List.filter_append, List.map_append, select_eq, induction]
  | link name target others induction =>
      rw [below, Directory.leaves, ← List.singleton_append,
        List.filter_append, List.map_append, select_eq, induction]
  | folder name inside others inside_induction induction =>
      rw [below, Directory.leaves, List.filter_append, List.map_append,
        induction, List.filter_map, List.map_map, inside_induction]
      congr 1
      have deeper : ∀ names ∈ inside.leaves, names ≠ [] := by
        rintro names listed rfl
        exact inside.nil_not_mem_leaves listed
      have filter_eq :
          inside.leaves.filter (selects files suffix path ∘ (name :: ·)) =
            inside.leaves.filter
              (selects files suffix (Path.join path name)) := by
        apply List.filter_congr
        intro names listed
        exact selects_cons (deeper names listed) suffix path name
      split
      · rw [filter_eq]
        rfl
      · rename_i closed
        have nothing :
            inside.leaves.filter (selects files suffix path ∘ (name :: ·)) =
              [] := by
          rw [List.filter_eq_nil_iff]
          intro names _ selected
          exact closed (isListable_of_selects selected)
        rw [nothing]
        rfl

end Discovery

end TilingHeader
