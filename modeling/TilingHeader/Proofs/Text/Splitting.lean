import Mathlib.Data.List.DropRight
import TilingHeader.Text.Blank

namespace TilingHeader.Text

/-! Pieces of a text that is split at a mark, and the ends of a trimmed text. -/

theorem mem_and_ne_of_mem_splitOn {mark : Char} {text piece : List Char}
    (listed : piece ∈ text.splitOn mark) :
    ∀ character ∈ piece, character ∈ text ∧ character ≠ mark := by
  induction text generalizing piece with
  | nil =>
      rw [List.splitOn_nil, List.mem_singleton] at listed
      simp [listed]
  | cons first rest induction =>
      intro character member
      rw [List.splitOn_cons_eq_if_modifyHead] at listed
      by_cases marked : first = mark
      · simp only [marked, BEq.rfl, if_true, List.mem_cons] at listed
        rcases listed with rfl | later
        · exact absurd member List.not_mem_nil
        · obtain ⟨within, unmarked⟩ := induction later character member
          exact ⟨List.mem_cons_of_mem _ within, unmarked⟩
      · simp only [beq_iff_eq, if_neg marked] at listed
        obtain ⟨head, others, split_eq⟩ :=
          List.exists_cons_of_ne_nil (List.splitOn_ne_nil mark rest)
        rw [split_eq] at listed induction
        rw [List.modifyHead_cons, List.mem_cons] at listed
        rcases listed with rfl | later
        · rcases List.mem_cons.mp member with rfl | within_head
          · exact ⟨List.mem_cons_self, marked⟩
          · obtain ⟨within, unmarked⟩ :=
              induction List.mem_cons_self character within_head
            exact ⟨List.mem_cons_of_mem _ within, unmarked⟩
        · obtain ⟨within, unmarked⟩ :=
            induction (List.mem_cons_of_mem _ later) character member
          exact ⟨List.mem_cons_of_mem _ within, unmarked⟩

theorem not_mem_of_mem_splitOn {mark : Char} {text piece : List Char}
    (listed : piece ∈ text.splitOn mark) : mark ∉ piece :=
  fun member => (mem_and_ne_of_mem_splitOn listed mark member).2 rfl

theorem subset_of_mem_splitOn {mark : Char} {text piece : List Char}
    (listed : piece ∈ text.splitOn mark) : piece ⊆ text :=
  fun character member => (mem_and_ne_of_mem_splitOn listed character member).1

theorem length_splitOn (mark : Char) (text : List Char) :
    (text.splitOn mark).length = text.count mark + 1 := by
  induction text with
  | nil => rfl
  | cons first rest induction =>
      rw [List.splitOn_cons_eq_if_modifyHead, List.count_cons]
      split
      · rw [List.length_cons, induction]
      · rw [List.length_modifyHead, induction, Nat.add_zero]

/-! Texts that a function of the pieces does not see, put around a text. -/

section Around

variable {β : Type} {read : List Char → β} {mark : Char} {space : List Char}

theorem map_splitOn_prepend (absent : mark ∉ space)
    (unseen : ∀ piece, read (space ++ piece) = read piece)
    (text : List Char) :
    ((space ++ text).splitOn mark).map read =
      (text.splitOn mark).map read := by
  by_cases marked : mark ∈ text
  · obtain ⟨first, rest, rfl, first_absent⟩ :=
      List.eq_append_cons_of_mem marked
    have both_absent : mark ∉ space ++ first :=
      List.not_mem_append absent first_absent
    rw [← List.append_assoc, List.splitOn_append_cons_self,
      List.splitOn_append_cons_self, List.splitOn_eq_singleton both_absent,
      List.splitOn_eq_singleton first_absent, List.map_append, List.map_append,
      List.map_singleton, List.map_singleton, unseen]
  · have both_absent : mark ∉ space ++ text :=
      List.not_mem_append absent marked
    rw [List.splitOn_eq_singleton both_absent,
      List.splitOn_eq_singleton marked, List.map_singleton,
      List.map_singleton, unseen]

theorem map_splitOn_append (absent : mark ∉ space)
    (unseen : ∀ piece, read (piece ++ space) = read piece)
    (text : List Char) :
    ((text ++ space).splitOn mark).map read =
      (text.splitOn mark).map read := by
  by_cases marked : mark ∈ text
  · obtain ⟨behind, before, reversed_eq, behind_absent⟩ :=
      List.eq_append_cons_of_mem (List.mem_reverse.mpr marked)
    have text_eq : text = before.reverse ++ mark :: behind.reverse := by
      rw [← List.reverse_reverse text, reversed_eq]
      simp
    have last_absent : mark ∉ behind.reverse :=
      List.mem_reverse.not.mpr behind_absent
    have both_absent : mark ∉ behind.reverse ++ space :=
      List.not_mem_append last_absent absent
    rw [text_eq, List.append_assoc, List.cons_append,
      List.splitOn_append_cons_self, List.splitOn_append_cons_self,
      List.splitOn_eq_singleton both_absent,
      List.splitOn_eq_singleton last_absent, List.map_append, List.map_append,
      List.map_singleton, List.map_singleton, unseen]
  · have both_absent : mark ∉ text ++ space :=
      List.not_mem_append marked absent
    rw [List.splitOn_eq_singleton both_absent,
      List.splitOn_eq_singleton marked, List.map_singleton,
      List.map_singleton, unseen]

end Around

/-- The first of the marks is where it is. -/
theorem append_cons_inj_of_first {α : Type} {mark : α}
    {first second rest others : List α} (absent : mark ∉ first)
    (absent_too : mark ∉ second)
    (same : first ++ mark :: rest = second ++ mark :: others) :
    first = second ∧ rest = others := by
  induction first generalizing second with
  | nil =>
      cases second with
      | nil => exact ⟨rfl, (List.cons.inj same).2⟩
      | cons head tail =>
          obtain ⟨rfl, _⟩ := List.cons.inj same
          exact absurd List.mem_cons_self absent_too
  | cons head tail induction =>
      cases second with
      | nil =>
          obtain ⟨rfl, _⟩ := List.cons.inj same
          exact absurd List.mem_cons_self absent
      | cons other more =>
          obtain ⟨rfl, tails_eq⟩ := List.cons.inj same
          obtain ⟨rfl, rest_eq⟩ := induction
            (fun listed => absent (List.mem_cons_of_mem _ listed))
            (fun listed => absent_too (List.mem_cons_of_mem _ listed)) tails_eq
          exact ⟨rfl, rest_eq⟩

/-- So is the last. -/
theorem append_cons_inj_of_last {α : Type} {mark : α}
    {first second rest others : List α} (absent : mark ∉ rest)
    (absent_too : mark ∉ others)
    (same : first ++ mark :: rest = second ++ mark :: others) :
    first = second ∧ rest = others := by
  have reversed := congrArg List.reverse same
  simp only [List.reverse_append, List.reverse_cons, List.append_assoc,
    List.singleton_append] at reversed
  obtain ⟨rest_eq, first_eq⟩ := append_cons_inj_of_first
    (List.mem_reverse.not.mpr absent) (List.mem_reverse.not.mpr absent_too)
    reversed
  exact ⟨List.reverse_injective first_eq, List.reverse_injective rest_eq⟩

theorem not_mem_intercalate {mark separator : Char} (apart : mark ≠ separator)
    {pieces : List (List Char)} (absent : ∀ piece ∈ pieces, mark ∉ piece) :
    mark ∉ [separator].intercalate pieces := by
  induction pieces with
  | nil => exact List.not_mem_nil
  | cons piece rest induction =>
      obtain ⟨piece_absent, rest_absent⟩ := List.forall_mem_cons.mp absent
      cases rest with
      | nil => simpa [List.intercalate] using piece_absent
      | cons next others =>
          rw [List.intercalate_cons_cons]
          simp [piece_absent, apart, induction rest_absent]

theorem trim_begins_trimStart (text : List Char) : trim text <+: trimStart text :=
  List.rdropWhile_prefix isBlank (trimStart text)

theorem begins_trim_of_unblank {front text : List Char}
    (unblank : ∀ character ∈ front, isBlank character = false)
    (begins : front <+: trimStart text) : front <+: trim text := by
  rcases List.prefix_or_prefix_of_prefix begins (trim_begins_trimStart text)
    with within | ⟨rest, front_eq⟩
  · exact within
  · obtain ⟨after, start_eq⟩ := begins
    -- What trimming takes off the end is all blank, so no mark of it is here.
    have whole : trim text ++ (rest ++ after) =
        trim text ++ (trimStart text).rtakeWhile isBlank := by
      rw [← List.append_assoc, front_eq, start_eq]
      exact List.rdropWhile_append_rtakeWhile.symm
    have taken := List.append_cancel_left whole
    have nothing : rest = [] := by
      apply List.eq_nil_iff_forall_not_mem.mpr
      intro character member
      have blank : isBlank character = true :=
        List.mem_rtakeWhile_imp (taken ▸ List.mem_append_left after member)
      have mark : character ∈ front :=
        front_eq ▸ List.mem_append_right _ member
      rw [unblank character mark] at blank
      cases blank
    rw [nothing, List.append_nil] at front_eq
    exact ⟨[], (List.append_nil front).trans front_eq.symm⟩

theorem trim_subset (text : List Char) : trim text ⊆ text := by
  intro character member
  exact (List.dropWhile_sublist isBlank).subset
    ((trim_begins_trimStart text).subset member)

theorem head?_trim (text : List Char) :
    ∀ character ∈ (trim text).head?, isBlank character = false := by
  intro character first
  obtain ⟨rest, trim_eq⟩ := List.head?_eq_some_iff.mp first
  obtain ⟨after, start_eq⟩ := trim_begins_trimStart text
  have start_first : (trimStart text).head? = some character := by
    rw [← start_eq, trim_eq]
    rfl
  have unblank := List.head?_dropWhile_not isBlank text
  rw [trimStart] at start_first
  rw [start_first] at unblank
  exact unblank

end TilingHeader.Text
