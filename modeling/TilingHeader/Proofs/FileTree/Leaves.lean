import Mathlib.Data.List.Nodup
import TilingHeader.Proofs.FileTree.WellFormed

namespace TilingHeader.FileTree

/-! The locations of all entries that are no directories, in the order in which
a directory lists them. -/

namespace Directory

def leaves : Directory → List Location
  | .empty => []
  | .file name _ others => [name] :: others.leaves
  | .link name _ others => [name] :: others.leaves
  | .folder name inside others =>
      inside.leaves.map (name :: ·) ++ others.leaves

end Directory

def Entry.leaves : Entry → List Location
  | .folder inside => inside.leaves
  | _ => [[]]

namespace Directory

theorem leaves_cons (name : String) (entry : Entry) (others : Directory) :
    (cons name entry others).leaves =
      entry.leaves.map (name :: ·) ++ others.leaves := by
  cases entry <;> rfl

theorem nil_not_mem_leaves (directory : Directory) :
    [] ∉ directory.leaves := by
  induction directory using cons_induction with
  | empty => exact List.not_mem_nil
  | cons name entry others _ induction =>
      rw [leaves_cons, List.mem_append, not_or]
      exact ⟨by simp, induction⟩

theorem mem_leaves_iff {directory : Directory}
    (wellFormed : directory.WellFormed) (location : Location) :
    location ∈ directory.leaves ↔
      ∃ node, (Entry.folder directory).node? location = some node ∧
        node ≠ .folder := by
  induction directory using cons_induction generalizing location with
  | empty => cases location <;> simp [leaves, Entry.node, find?]
  | cons name entry others inside_induction induction =>
      obtain ⟨_, distinct, entry_wellFormed, others_wellFormed⟩ :=
        (wellFormed_cons_iff _ _ _).mp wellFormed
      have entry_leaves (rest : Location) :
          rest ∈ entry.leaves ↔
            ∃ node, entry.node? rest = some node ∧ node ≠ .folder := by
        cases entry with
        | file content =>
            cases rest <;> simp [Entry.leaves, Entry.node, Entry.bare_file _ _]
        | link target =>
            cases rest <;> simp [Entry.leaves, Entry.node, Entry.bare_link _ _]
        | folder inside =>
            exact inside_induction inside rfl entry_wellFormed rest
      rw [leaves_cons, List.mem_append, induction others_wellFormed]
      cases location with
      | nil => simp [Entry.node]
      | cons first rest =>
          simp only [List.mem_map, List.cons.injEq, Entry.node?_folder_cons,
            find?_cons]
          by_cases same : name = first
          · subst same
            simp [distinct, entry_leaves]
          · simp [same]

theorem nodup_leaves {directory : Directory}
    (wellFormed : directory.WellFormed) : directory.leaves.Nodup := by
  induction directory using cons_induction with
  | empty => exact List.nodup_nil
  | cons name entry others inside_induction induction =>
      obtain ⟨_, distinct, entry_wellFormed, others_wellFormed⟩ :=
        (wellFormed_cons_iff _ _ _).mp wellFormed
      have entry_nodup : entry.leaves.Nodup := by
        cases entry with
        | file content => exact List.nodup_singleton _
        | link target => exact List.nodup_singleton _
        | folder inside => exact inside_induction inside rfl entry_wellFormed
      rw [leaves_cons, List.nodup_append]
      refine ⟨entry_nodup.map fun _ _ => List.tail_eq_of_cons_eq,
        induction others_wellFormed, ?_⟩
      rintro _ first_listed _ second_listed rfl
      obtain ⟨rest, _, rfl⟩ := List.mem_map.mp first_listed
      obtain ⟨node, found, _⟩ :=
        (mem_leaves_iff others_wellFormed _).mp second_listed
      rw [Entry.node?_folder_cons, distinct] at found
      cases found

end Directory

end TilingHeader.FileTree
