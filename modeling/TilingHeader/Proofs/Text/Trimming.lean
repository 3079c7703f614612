import TilingHeader.Proofs.Text.Splitting

namespace TilingHeader.Text

/-! Texts without blanks at their ends.  Trimming gives such a text, leaves it as
it is, and does not see what blanks are put around a text. -/

structure Trimmed (text : List Char) : Prop where
  first : ∀ character ∈ text.head?, isBlank character = false
  last : ∀ character ∈ text.getLast?, isBlank character = false

theorem trimmed_iff (text : List Char) :
    Trimmed text ↔
      text.head?.all (!isBlank ·) = true ∧
        text.getLast?.all (!isBlank ·) = true := by
  simp only [Option.all_eq_true, Bool.not_eq_true']
  constructor
  · intro trimmed
    exact ⟨trimmed.first, trimmed.last⟩
  · intro ends
    exact ⟨ends.1, ends.2⟩

instance (text : List Char) : Decidable (Trimmed text) :=
  decidable_of_iff' _ (trimmed_iff text)

theorem getLast?_trim (text : List Char) :
    ∀ character ∈ (trim text).getLast?, isBlank character = false := by
  intro character final
  have nonempty : (trimStart text).rdropWhile isBlank ≠ [] := by
    apply List.ne_nil_of_mem
    exact List.mem_of_getLast? final
  have unblank := List.rdropWhile_last_not isBlank (trimStart text) nonempty
  have last_eq := List.getLast?_eq_some_getLast nonempty
  rw [Option.mem_def, trim] at final
  rw [Option.some.inj (last_eq.symm.trans final)] at unblank
  exact Bool.not_eq_true _ |>.mp unblank

theorem trimmed_trim (text : List Char) : Trimmed (trim text) :=
  ⟨head?_trim text, getLast?_trim text⟩

theorem Trimmed.trim_eq {text : List Char} (trimmed : Trimmed text) :
    trim text = text := by
  have start_eq : trimStart text = text := by
    cases text with
    | nil => rfl
    | cons character rest =>
        rw [trimStart, List.dropWhile_cons, trimmed.first character rfl]
        rfl
  rw [trim, start_eq]
  apply List.rdropWhile_eq_self_iff.mpr
  intro nonempty blank
  have unblank := trimmed.last _ (List.getLast?_eq_some_getLast nonempty)
  rw [blank] at unblank
  cases unblank

/-! Blanks put around a text. -/

section Blanks

variable {space : List Char}

theorem trim_blanks_append
    (blank : ∀ character ∈ space, isBlank character = true)
    (text : List Char) : trim (space ++ text) = trim text := by
  rw [trim, trimStart, List.dropWhile_append_of_pos blank]
  rfl

theorem trimEnd_append_blanks
    (blank : ∀ character ∈ space, isBlank character = true)
    (text : List Char) : trimEnd (text ++ space) = trimEnd text := by
  have reversed_blank : ∀ character ∈ space.reverse,
      isBlank character = true :=
    fun character member => blank character (List.mem_reverse.mp member)
  rw [trimEnd, List.reverse_append,
    List.dropWhile_append_of_pos reversed_blank]
  rfl

theorem trim_append_blanks
    (blank : ∀ character ∈ space, isBlank character = true)
    (text : List Char) : trim (text ++ space) = trim text := by
  rw [trim, trim, trimStart, trimStart, List.dropWhile_append]
  split
  · rename_i nothing
    have space_gone := trim_blanks_append blank []
    rw [List.append_nil] at space_gone
    rw [List.isEmpty_iff.mp nothing]
    exact space_gone
  · exact trimEnd_append_blanks blank _

end Blanks

/-- Trimming the end goes no further than to the last mark that is not blank. -/
theorem trimEnd_append_cons {mark : Char} (unblank : isBlank mark = false)
    (front rest : List Char) :
    trimEnd (front ++ mark :: rest) = front ++ mark :: trimEnd rest := by
  have stopped : (mark :: front.reverse).dropWhile isBlank =
      mark :: front.reverse := by
    rw [List.dropWhile_cons, unblank]
    rfl
  have reversed : (front ++ mark :: rest).reverse =
      rest.reverse ++ mark :: front.reverse := by
    simp
  rw [trimEnd, trimEnd, reversed, List.dropWhile_append, stopped]
  split
  · rename_i nothing
    rw [List.isEmpty_iff.mp nothing]
    simp
  · simp

end TilingHeader.Text
