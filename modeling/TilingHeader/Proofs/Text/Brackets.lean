import Mathlib.Data.List.Induction
import Mathlib.Logic.ExistsUnique

namespace TilingHeader.Text

/-! Lines that open and lines that close, told by how they begin.  In a balanced
sequence each line that opens has exactly one that closes it. -/

def Starts (beginning line : String) : Prop :=
  beginning.toList <+: line.toList

instance (beginning line : String) : Decidable (Starts beginning line) :=
  inferInstanceAs (Decidable (_ <+: _))

theorem starts_append (beginning rest : String) :
    Starts beginning (beginning ++ rest) := by
  rw [Starts, String.toList_append]
  exact List.prefix_append _ _

theorem Starts.append {beginning line : String} (starts : Starts beginning line)
    (rest : String) : Starts beginning (line ++ rest) := by
  rw [Starts, String.toList_append]
  exact starts.trans (List.prefix_append _ _)

theorem Starts.behind {beginning line : String} (starts : Starts beginning line)
    (front : String) : Starts (front ++ beginning) (front ++ line) := by
  rw [Starts, String.toList_append, String.toList_append]
  exact (List.prefix_append_right_inj _).mpr starts

theorem not_starts_of_starts {line : String} (beginning : String)
    (starts : Starts beginning line) (marks : List String)
    (apart : ∀ mark ∈ marks, ¬ Starts mark beginning ∧ ¬ Starts beginning mark) :
    ∀ mark ∈ marks, ¬ Starts mark line := by
  intro mark listed both
  obtain ⟨unstarted, unextended⟩ := apart mark listed
  rcases List.prefix_or_prefix_of_prefix both starts with within | beyond
  · exact unstarted within
  · exact unextended beyond

structure Brackets where
  opening : String
  closing : String
  opening_apart : ¬ Starts opening closing
  closing_apart : ¬ Starts closing opening

namespace Brackets

variable (brackets : Brackets)

def Opens (line : String) : Prop :=
  Starts brackets.opening line

def Closes (line : String) : Prop :=
  Starts brackets.closing line

instance (line : String) : Decidable (brackets.Opens line) :=
  inferInstanceAs (Decidable (Starts _ _))

instance (line : String) : Decidable (brackets.Closes line) :=
  inferInstanceAs (Decidable (Starts _ _))

def weight (line : String) : Int :=
  if brackets.Opens line then 1 else if brackets.Closes line then -1 else 0

/-- How many lines open and are not closed again. -/
def level : List String → Int
  | [] => 0
  | line :: lines => brackets.weight line + level lines

/-- All that opens is closed, and nothing else is. -/
structure Balanced (lines : List String) : Prop where
  level_eq : brackets.level lines = 0
  level_nonneg : ∀ before after, lines = before ++ after →
    0 ≤ brackets.level before

variable {brackets}

@[simp] theorem level_nil : brackets.level [] = 0 := rfl

@[simp] theorem level_cons (line : String) (lines : List String) :
    brackets.level (line :: lines) =
      brackets.weight line + brackets.level lines := rfl

@[simp] theorem level_append (first second : List String) :
    brackets.level (first ++ second) =
      brackets.level first + brackets.level second := by
  induction first with
  | nil => simp
  | cons line lines induction =>
      rw [List.cons_append, level_cons, level_cons, induction, Int.add_assoc]

theorem weight_of_opens {line : String} (opens : brackets.Opens line) :
    brackets.weight line = 1 :=
  if_pos opens

theorem not_opens_of_closes {line : String} (closes : brackets.Closes line) :
    ¬ brackets.Opens line :=
  not_starts_of_starts brackets.closing closes [brackets.opening]
    (List.forall_mem_singleton.mpr
      ⟨brackets.opening_apart, brackets.closing_apart⟩)
    brackets.opening (List.mem_singleton_self _)

theorem weight_of_closes {line : String} (closes : brackets.Closes line) :
    brackets.weight line = -1 := by
  rw [weight, if_neg (not_opens_of_closes closes), if_pos closes]

theorem weight_of_plain {line : String} (unopened : ¬ brackets.Opens line)
    (unclosed : ¬ brackets.Closes line) : brackets.weight line = 0 := by
  rw [weight, if_neg unopened, if_neg unclosed]

theorem weight_of_starts {line : String} (beginning : String)
    (starts : Starts beginning line)
    (apart : ∀ mark ∈ [brackets.opening, brackets.closing],
      ¬ Starts mark beginning ∧ ¬ Starts beginning mark) :
    brackets.weight line = 0 := by
  have unstarted := not_starts_of_starts beginning starts _ apart
  exact weight_of_plain (unstarted _ (by simp)) (unstarted _ (by simp))

theorem weight_nonneg_of_not_closes {line : String}
    (unclosed : ¬ brackets.Closes line) : 0 ≤ brackets.weight line := by
  rw [weight, if_neg unclosed]
  split <;> decide

theorem level_of_plain {lines : List String}
    (plain : ∀ line ∈ lines, brackets.weight line = 0) :
    brackets.level lines = 0 := by
  induction lines with
  | nil => rfl
  | cons line rest induction =>
      obtain ⟨line_plain, rest_plain⟩ := List.forall_mem_cons.mp plain
      rw [level_cons, line_plain, induction rest_plain, Int.zero_add]

namespace Balanced

theorem of_plain {lines : List String}
    (plain : ∀ line ∈ lines, brackets.weight line = 0) :
    brackets.Balanced lines := by
  refine ⟨level_of_plain plain, ?_⟩
  rintro before after rfl
  have before_plain : ∀ line ∈ before, brackets.weight line = 0 :=
    fun line listed => plain line (List.mem_append_left _ listed)
  exact Int.le_of_eq (level_of_plain before_plain).symm

theorem append {first second : List String} (balanced : brackets.Balanced first)
    (others : brackets.Balanced second) :
    brackets.Balanced (first ++ second) := by
  constructor
  · rw [level_append, balanced.level_eq, others.level_eq, Int.zero_add]
  · intro before after split
    rcases List.append_eq_append_iff.mp split with
      ⟨more, rfl, second_eq⟩ | ⟨more, first_eq, _⟩
    · rw [level_append, balanced.level_eq, Int.zero_add]
      exact others.level_nonneg more after second_eq
    · exact balanced.level_nonneg before more first_eq

theorem enclose {first last : String} {inner : List String}
    (opens : brackets.Opens first) (balanced : brackets.Balanced inner)
    (closes : brackets.Closes last) :
    brackets.Balanced (first :: inner ++ [last]) := by
  have opened := weight_of_opens opens
  have closed := weight_of_closes closes
  constructor
  · simp [balanced.level_eq, opened, closed]
  · intro before after split
    rcases List.append_eq_append_iff.mp split with
      ⟨more, rfl, last_eq⟩ | ⟨more, inner_eq, _⟩
    · rcases List.singleton_eq_append_iff.mp last_eq with
        ⟨rfl, _⟩ | ⟨rfl, _⟩ <;> simp [balanced.level_eq, opened, closed]
    · rcases List.cons_eq_append_iff.mp inner_eq with
        ⟨rfl, _⟩ | ⟨rest, rfl, rest_eq⟩
      · exact Int.le_refl 0
      · have rest_nonneg := balanced.level_nonneg rest more rest_eq
        rw [level_cons, opened]
        omega

end Balanced

/-- The level stays at zero or above, or there is a first line that takes it
below. -/
theorem nonneg_or_exists_closing (brackets : Brackets) (lines : List String) :
    (∀ before after, lines = before ++ after → 0 ≤ brackets.level before) ∨
      ∃ inner closing rest, lines = inner ++ closing :: rest ∧
        brackets.Closes closing ∧ brackets.Balanced inner := by
  induction lines using List.reverseRecOn with
  | nil =>
      left
      intro before after split
      obtain ⟨rfl, _⟩ := List.append_eq_nil_iff.mp split.symm
      exact Int.le_refl 0
  | append_singleton lines last induction =>
      -- Only the last line can take the level below zero, and only if it closes.
      rcases induction with nonneg | ⟨inner, closing, rest, rfl, closes⟩
      · by_cases below : brackets.level (lines ++ [last]) < 0
        · right
          have lines_nonneg := nonneg lines [] (List.append_nil _).symm
          rw [level_append, level_cons, level_nil] at below
          have closes : brackets.Closes last := by
            by_contra unclosed
            have weight_nonneg := weight_nonneg_of_not_closes unclosed
            omega
          rw [weight_of_closes closes] at below
          exact ⟨lines, last, [], rfl, closes, by omega, nonneg⟩
        · left
          intro before after split
          rcases List.eq_nil_or_concat after with rfl | ⟨others, line, rfl⟩
          · rw [List.append_nil] at split
            exact split ▸ Int.not_lt.mp below
          · rw [List.concat_eq_append, ← List.append_assoc] at split
            exact nonneg before others (List.append_inj_left' split rfl)
      · exact .inr ⟨inner, closing, rest ++ [last], by simp, closes⟩

theorem closing_unique {first second : List String} {closing other : String}
    {rest others : List String} (closes : brackets.Closes closing)
    (balanced : brackets.Balanced first) (other_closes : brackets.Closes other)
    (other_balanced : brackets.Balanced second)
    (same : first ++ closing :: rest = second ++ other :: others) :
    first = second := by
  -- The longer of the two would go below zero where the shorter one is closed.
  rcases List.append_eq_append_iff.mp same with
    ⟨_ | ⟨line, more⟩, rfl, split⟩ | ⟨_ | ⟨line, more⟩, rfl, split⟩
  · rw [List.append_nil]
  · obtain ⟨rfl, _⟩ := List.cons.inj split
    have nonneg := other_balanced.level_nonneg (first ++ [closing]) more
      (by simp)
    rw [level_append, balanced.level_eq, level_cons,
      weight_of_closes closes, level_nil] at nonneg
    omega
  · rw [List.append_nil]
  · obtain ⟨rfl, _⟩ := List.cons.inj split
    have nonneg := balanced.level_nonneg (second ++ [other]) more (by simp)
    rw [level_append, other_balanced.level_eq, level_cons,
      weight_of_closes other_closes, level_nil] at nonneg
    omega

/-- A line that opens is closed by exactly one line behind it: what stands
between the two is balanced. -/
theorem Balanced.existsUnique_closing {before after : List String}
    {line : String} (balanced : brackets.Balanced (before ++ line :: after))
    (opens : brackets.Opens line) :
    ∃! inner, ∃ closing rest, after = inner ++ closing :: rest ∧
      brackets.Closes closing ∧ brackets.Balanced inner := by
  have total := balanced.level_eq
  have before_nonneg := balanced.level_nonneg before _ rfl
  rw [level_append, level_cons, weight_of_opens opens] at total
  rcases nonneg_or_exists_closing brackets after with nonneg | ⟨inner, closed⟩
  · have after_nonneg := nonneg after [] (List.append_nil _).symm
    omega
  · refine ⟨inner, closed, ?_⟩
    obtain ⟨closing, rest, rfl, closes, inner_balanced⟩ := closed
    rintro other ⟨last, others, split, last_closes, other_balanced⟩
    exact (closing_unique closes inner_balanced last_closes other_balanced
      split).symm

end Brackets

end TilingHeader.Text
