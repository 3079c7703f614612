import TilingHeader.Proofs.FileTree.WellFormed

namespace TilingHeader.FileTree

/-! One tree listed in two orders.  Neighbours change places, in any directory
and any number of times, and everything is still found where it was. -/

namespace Directory

inductive Shuffled : Directory → Directory → Prop
  | refl (directory : Directory) : Shuffled directory directory
  | others (name : String) (entry : Entry) {first second : Directory}
      (shuffled : Shuffled first second) :
      Shuffled (cons name entry first) (cons name entry second)
  | inside (name : String) {first second : Directory} (others : Directory)
      (shuffled : Shuffled first second) :
      Shuffled (cons name (.folder first) others)
        (cons name (.folder second) others)
  | swap {name other : String} (distinct : name ≠ other)
      (entry next : Entry) (others : Directory) :
      Shuffled (cons name entry (cons other next others))
        (cons other next (cons name entry others))
  | trans {first second third : Directory} (front : Shuffled first second)
      (back : Shuffled second third) : Shuffled first third

theorem Shuffled.find?_eq_none_iff {first second : Directory}
    (shuffled : Shuffled first second) (name : String) :
    first.find? name = none ↔ second.find? name = none := by
  induction shuffled with
  | refl directory => rfl
  | others other entry _ induction =>
      rw [find?_cons, find?_cons]
      split
      · rfl
      · exact induction
  | inside other others _ _ =>
      rw [find?_cons, find?_cons]
      split <;> simp
  | @swap one other distinct entry next others =>
      simp only [find?_cons]
      by_cases first_same : one = name
      · subst first_same
        simp [Ne.symm distinct]
      · simp [first_same]
  | trans _ _ front_induction back_induction =>
      rw [front_induction, back_induction]

theorem Shuffled.node?_eq {first second : Directory}
    (shuffled : Shuffled first second) (location : Location) :
    (Entry.folder first).node? location =
      (Entry.folder second).node? location := by
  induction shuffled generalizing location with
  | refl directory => rfl
  | others name entry _ induction =>
      cases location with
      | nil => rfl
      | cons wanted rest =>
          have later := induction (wanted :: rest)
          simp only [Entry.node?_folder_cons, find?_cons] at later ⊢
          split
          · rfl
          · exact later
  | inside name others _ induction =>
      cases location with
      | nil => rfl
      | cons wanted rest =>
          simp only [Entry.node?_folder_cons, find?_cons]
          split
          · exact induction rest
          · rfl
  | @swap name other distinct entry next others =>
      cases location with
      | nil => rfl
      | cons wanted rest =>
          simp only [Entry.node?_folder_cons, find?_cons]
          by_cases same : name = wanted
          · subst same
            simp [Ne.symm distinct]
          · simp [same]
  | trans _ _ front_induction back_induction =>
      rw [front_induction, back_induction]

theorem Shuffled.wellFormed {first second : Directory}
    (shuffled : Shuffled first second) (wellFormed : first.WellFormed) :
    second.WellFormed := by
  induction shuffled with
  | refl directory => exact wellFormed
  | others name entry shuffled induction =>
      obtain ⟨named, distinct, entry_wellFormed, first_wellFormed⟩ :=
        (wellFormed_cons_iff _ _ _).mp wellFormed
      exact (wellFormed_cons_iff _ _ _).mpr
        ⟨named, (shuffled.find?_eq_none_iff name).mp distinct,
          entry_wellFormed, induction first_wellFormed⟩
  | inside name others _ induction =>
      obtain ⟨named, distinct, first_wellFormed, others_wellFormed⟩ :=
        (wellFormed_cons_iff _ _ _).mp wellFormed
      exact (wellFormed_cons_iff _ _ _).mpr
        ⟨named, distinct, induction first_wellFormed, others_wellFormed⟩
  | @swap name other distinct entry next others =>
      simp only [wellFormed_cons_iff, find?_cons] at wellFormed ⊢
      obtain ⟨named, absent, entry_wellFormed, other_named, other_absent,
        next_wellFormed, others_wellFormed⟩ := wellFormed
      rw [if_neg (Ne.symm distinct)] at absent
      rw [if_neg distinct]
      exact ⟨other_named, other_absent, next_wellFormed, named, absent,
        entry_wellFormed, others_wellFormed⟩
  | trans _ _ front_induction back_induction =>
      exact back_induction (front_induction wellFormed)

end Directory

end TilingHeader.FileTree
