import Mathlib.Data.List.Basic
import TilingHeader.Proofs.FileTree.Nodes

namespace TilingHeader.FileTree

/-! Trees whose entries have names that a path can spell, no two alike in one
directory.  What is put into such a tree under such a name keeps it so. -/

/-- A single step of a path, down to an entry of that name. -/
def IsName (name : String) : Prop :=
  '/' ∉ name.toList ∧ name ∉ ["", ".", ".."]

instance (name : String) : Decidable (IsName name) :=
  inferInstanceAs (Decidable (_ ∧ _))

private theorem mem_improper_iff (name : String) :
    name ∈ ["", ".", ".."] ↔ name.toList ∈ [[], ['.'], ['.', '.']] :=
  (List.mem_map_of_injective fun _ _ => String.toList_injective).symm

theorem IsName.ofPiece? {name : String} (named : IsName name) :
    Step.ofPiece? name.toList = some (.down name) := by
  have proper := (mem_improper_iff name).not.mp named.2
  simp only [List.mem_cons, List.not_mem_nil, or_false, not_or] at proper
  obtain ⟨not_empty, not_dot, not_dots⟩ := proper
  rw [Step.ofPiece?, if_neg not_empty, if_neg not_dot, if_neg not_dots,
    String.ofList_toList]

theorem isName_of_ofPiece? {piece : List Char} {name : String}
    (unbroken : '/' ∉ piece)
    (stepped : Step.ofPiece? piece = some (.down name)) : IsName name := by
  unfold Step.ofPiece? at stepped
  split at stepped
  · cases stepped
  · split at stepped
    · cases stepped
    · split at stepped
      · cases stepped
      · rename_i not_empty not_dot not_dots
        cases stepped
        refine ⟨by simpa using unbroken, (mem_improper_iff _).not.mpr ?_⟩
        simp [not_empty, not_dot, not_dots]

namespace Directory

def WellFormed : Directory → Prop
  | .empty => True
  | .file name _ others =>
      IsName name ∧ others.find? name = none ∧ others.WellFormed
  | .link name _ others =>
      IsName name ∧ others.find? name = none ∧ others.WellFormed
  | .folder name inside others =>
      IsName name ∧ others.find? name = none ∧ inside.WellFormed ∧
        others.WellFormed

def decideWellFormed : (directory : Directory) → Decidable directory.WellFormed
  | .empty => .isTrue trivial
  | .file name _ others =>
      have := decideWellFormed others
      inferInstanceAs (Decidable
        (IsName name ∧ others.find? name = none ∧ others.WellFormed))
  | .link name _ others =>
      have := decideWellFormed others
      inferInstanceAs (Decidable
        (IsName name ∧ others.find? name = none ∧ others.WellFormed))
  | .folder name inside others =>
      have := decideWellFormed inside
      have := decideWellFormed others
      inferInstanceAs (Decidable
        (IsName name ∧ others.find? name = none ∧ inside.WellFormed ∧
          others.WellFormed))

instance : DecidablePred WellFormed := decideWellFormed

end Directory

def Entry.WellFormed : Entry → Prop
  | .file _ => True
  | .link _ => True
  | .folder inside => inside.WellFormed

namespace Directory

theorem wellFormed_cons_iff (name : String) (entry : Entry)
    (others : Directory) :
    (cons name entry others).WellFormed ↔
      IsName name ∧ others.find? name = none ∧ entry.WellFormed ∧
        others.WellFormed := by
  cases entry <;> simp [cons, WellFormed, Entry.WellFormed]

theorem WellFormed.of_find? {directory : Directory}
    (wellFormed : directory.WellFormed) {name : String} {entry : Entry}
    (found : directory.find? name = some entry) :
    IsName name ∧ entry.WellFormed := by
  induction directory using cons_induction with
  | empty => cases found
  | cons other first others _ induction =>
      obtain ⟨named, _, first_wellFormed, others_wellFormed⟩ :=
        (wellFormed_cons_iff _ _ _).mp wellFormed
      rw [find?_cons] at found
      by_cases same : other = name
      · rw [if_pos same] at found
        obtain rfl := Option.some.inj found
        exact ⟨same ▸ named, first_wellFormed⟩
      · rw [if_neg same] at found
        exact induction others_wellFormed found

theorem WellFormed.put {directory : Directory}
    (wellFormed : directory.WellFormed) {name : String} {entry : Entry}
    (named : IsName name) (entry_wellFormed : entry.WellFormed) :
    (directory.put name entry).WellFormed := by
  induction directory using cons_induction with
  | empty =>
      exact (wellFormed_cons_iff _ _ _).mpr
        ⟨named, rfl, entry_wellFormed, trivial⟩
  | cons other first others _ induction =>
      obtain ⟨other_named, distinct, first_wellFormed, others_wellFormed⟩ :=
        (wellFormed_cons_iff _ _ _).mp wellFormed
      rw [put_cons]
      by_cases same : other = name
      · subst same
        rw [if_pos rfl]
        exact (wellFormed_cons_iff _ _ _).mpr
          ⟨named, distinct, entry_wellFormed, others_wellFormed⟩
      · rw [if_neg same]
        refine (wellFormed_cons_iff _ _ _).mpr
          ⟨other_named, ?_, first_wellFormed, induction others_wellFormed⟩
        rw [find?_put_of_ne (Ne.symm same), distinct]

end Directory

namespace Entry

theorem WellFormed.of_at? {entry : Entry} (wellFormed : entry.WellFormed)
    {location : Location} {found : Entry}
    (reached : entry.at? location = some found) :
    found.WellFormed ∧ ∀ name ∈ location, IsName name := by
  induction location generalizing entry with
  | nil =>
      rw [at?_nil] at reached
      obtain rfl := Option.some.inj reached
      exact ⟨wellFormed, nofun⟩
  | cons name rest induction =>
      cases entry with
      | file content => cases reached
      | link target => cases reached
      | folder inside =>
          rw [at?_folder_cons] at reached
          obtain ⟨next, listed, below⟩ := Option.bind_eq_some_iff.mp reached
          obtain ⟨named, next_wellFormed⟩ :=
            Directory.WellFormed.of_find? wellFormed listed
          obtain ⟨found_wellFormed, rest_named⟩ :=
            induction next_wellFormed below
          exact ⟨found_wellFormed, List.forall_mem_cons.mpr ⟨named, rest_named⟩⟩

theorem WellFormed.putAt {entry new : Entry} (wellFormed : entry.WellFormed)
    (new_wellFormed : new.WellFormed) {location : Location}
    (named : ∀ name ∈ location, IsName name) :
    (entry.putAt location new).WellFormed := by
  induction location generalizing entry with
  | nil => cases entry <;> exact new_wellFormed
  | cons name rest induction =>
      cases entry with
      | file content => exact wellFormed
      | link target => exact wellFormed
      | folder inside =>
          obtain ⟨name_named, rest_named⟩ := List.forall_mem_cons.mp named
          have old_wellFormed :
              ((inside.find? name).getD (.folder .empty)).WellFormed := by
            cases listed : inside.find? name with
            | none => exact trivial
            | some old =>
                exact (Directory.WellFormed.of_find? wellFormed listed).2
          exact Directory.WellFormed.put wellFormed name_named
            (induction old_wellFormed rest_named)

end Entry

namespace FileSystem

def WellFormed (files : FileSystem) : Prop :=
  files.root.WellFormed

instance : DecidablePred WellFormed :=
  fun files => inferInstanceAs (Decidable files.root.WellFormed)

theorem WellFormed.isName_of_node? {files : FileSystem}
    (wellFormed : files.WellFormed) {location : Location} {node : Node}
    (found : files.node? location = some node) :
    ∀ name ∈ location, IsName name := by
  obtain ⟨entry, reached, _⟩ := Option.map_eq_some_iff.mp found
  have top_wellFormed : files.top.WellFormed := wellFormed
  exact (top_wellFormed.of_at? reached).2

theorem WellFormed.putAt {files : FileSystem} (wellFormed : files.WellFormed)
    {location : Location} {new : Entry} (new_wellFormed : new.WellFormed)
    (named : ∀ name ∈ location, IsName name) :
    (files.putAt location new).WellFormed := by
  have top_wellFormed : files.top.WellFormed := wellFormed
  have put_wellFormed := top_wellFormed.putAt new_wellFormed named
  rw [FileSystem.putAt]
  split
  · rename_i root top_eq
    rw [top_eq] at put_wellFormed
    exact put_wellFormed
  · exact wellFormed

end FileSystem

end TilingHeader.FileTree
