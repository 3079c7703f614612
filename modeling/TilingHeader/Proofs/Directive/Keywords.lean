import Mathlib.Data.List.Nodup
import TilingHeader.Directive.Kind

namespace TilingHeader.Kind

/-! Which directive a word belongs to.  Of two keywords that begin one word the
shorter begins the longer, and in the order in which keywords are tried none
stands before one that it begins.  So the first that fits is the longest. -/

/-- The keyword begins the word, and no longer one does. -/
structure Longest (word : List Char) (kind : Kind) : Prop where
  begins : kind.Begins word
  unsurpassed : ∀ other : Kind, other.Begins word →
    ¬ kind.keyword.length < other.keyword.length

theorem keyword_injective : Function.Injective keyword := by
  have distinct : (precedence.map keyword).Nodup := by decide +kernel
  intro kind other same
  exact List.inj_on_of_nodup_map distinct kind.mem_precedence
    other.mem_precedence same

theorem pairwise_precedence :
    precedence.Pairwise fun earlier later =>
      ¬ earlier.keyword.toList <+: later.keyword.toList := by
  decide +kernel

/-- Which keyword begins which. -/
theorem eq_or_extends {kind other : Kind}
    (begun : kind.keyword.toList <+: other.keyword.toList) :
    other = kind ∨ kind = .scalar ∧ (other = .array ∨ other = .nested) := by
  revert begun
  cases kind <;> cases other <;> decide +kernel

section Word

variable {word : List Char} {kind other : Kind}

theorem Begins.keyword_prefix (begins : kind.Begins word)
    (other_begins : other.Begins word)
    (shorter : kind.keyword.length ≤ other.keyword.length) :
    kind.keyword.toList <+: other.keyword.toList := by
  rw [← String.length_toList, ← String.length_toList] at shorter
  exact List.prefix_of_prefix_length_le begins other_begins shorter

theorem Longest.eq (longest : Longest word kind)
    (other_longest : Longest word other) : kind = other := by
  have length_le := Nat.not_lt.mp
    (longest.unsurpassed other other_longest.begins)
  have length_ge := Nat.not_lt.mp
    (other_longest.unsurpassed kind longest.begins)
  have begun := longest.begins.keyword_prefix other_longest.begins length_ge
  have same : kind.keyword.toList = other.keyword.toList :=
    begun.eq_of_length_le (by simpa only [String.length_toList] using length_le)
  exact keyword_injective (String.toList_inj.mp same)

theorem ofWord?_eq_none_iff :
    ofWord? word = none ↔ ∀ kind : Kind, ¬ kind.Begins word := by
  rw [ofWord?, List.find?_eq_none]
  constructor
  · intro refused kind
    simpa using refused kind kind.mem_precedence
  · intro refused kind _
    simpa using refused kind

theorem longest_of_ofWord? (resolved : ofWord? word = some kind) :
    Longest word kind := by
  have begins := begins_of_ofWord? resolved
  obtain ⟨_, earlier, later, parted, refused⟩ :=
    List.find?_eq_some_iff_append.mp resolved
  have ordered := pairwise_precedence
  rw [parted, List.pairwise_append, List.pairwise_cons] at ordered
  refine ⟨begins, fun other other_begins longer => ?_⟩
  have tried : other ∈ earlier ++ kind :: later :=
    parted ▸ other.mem_precedence
  rcases List.mem_append.mp tried with before | behind
  · have unfit := refused other before
    simp [other_begins] at unfit
  · rcases List.mem_cons.mp behind with same | after
    · subst same
      exact Nat.lt_irrefl _ longer
    · exact ordered.2.1.1 other after
        (begins.keyword_prefix other_begins (Nat.le_of_lt longer))

theorem ofWord?_eq_some_iff_longest :
    ofWord? word = some kind ↔ Longest word kind := by
  refine ⟨longest_of_ofWord?, fun longest => ?_⟩
  cases resolved : ofWord? word with
  | none =>
      exact absurd longest.begins (ofWord?_eq_none_iff.mp resolved kind)
  | some found => rw [(longest_of_ofWord? resolved).eq longest]

/-- A keyword that no other extends within the word is the longest. -/
theorem ofWord?_of_unextended (begins : kind.Begins word)
    (unextended : ∀ other : Kind, other.Begins word →
      kind.keyword.toList <+: other.keyword.toList → other = kind) :
    ofWord? word = some kind := by
  refine ofWord?_eq_some_iff_longest.mpr ⟨begins, ?_⟩
  intro other other_begins longer
  have begun := begins.keyword_prefix other_begins (Nat.le_of_lt longer)
  rw [unextended other other_begins begun] at longer
  exact Nat.lt_irrefl _ longer

theorem ofWord?_of_ne_scalar (extended : kind ≠ .scalar)
    (begins : kind.Begins word) : ofWord? word = some kind :=
  ofWord?_of_unextended begins fun _ _ begun =>
    (eq_or_extends begun).resolve_right fun both => extended both.1

end Word

theorem array_begins_scalar_append_iff (rest : List Char) :
    Kind.array.Begins (Kind.scalar.keyword.toList ++ rest) ↔
      "_ARR".toList <+: rest := by
  have keyword_eq : Kind.array.keyword.toList =
      Kind.scalar.keyword.toList ++ "_ARR".toList := by decide +kernel
  rw [Begins, keyword_eq, List.prefix_append_right_inj]

theorem nested_begins_scalar_append_iff (rest : List Char) :
    Kind.nested.Begins (Kind.scalar.keyword.toList ++ rest) ↔
      "_STRUCT".toList <+: rest := by
  have keyword_eq : Kind.nested.keyword.toList =
      Kind.scalar.keyword.toList ++ "_STRUCT".toList := by decide +kernel
  rw [Begins, keyword_eq, List.prefix_append_right_inj]

theorem ofWord?_keyword_append (kind : Kind) (rest : List Char) :
    ofWord? (kind.keyword.toList ++ rest) =
      if kind = .scalar ∧ "_ARR".toList <+: rest then some .array
      else if kind = .scalar ∧ "_STRUCT".toList <+: rest then some .nested
      else some kind := by
  have begins : kind.Begins (kind.keyword.toList ++ rest) :=
    List.prefix_append _ _
  by_cases scalar : kind = .scalar
  · subst scalar
    simp only [true_and]
    split
    · rename_i begun
      exact ofWord?_of_ne_scalar (by decide)
        ((array_begins_scalar_append_iff rest).mpr begun)
    · rename_i no_array
      split
      · rename_i begun
        exact ofWord?_of_ne_scalar (by decide)
          ((nested_begins_scalar_append_iff rest).mpr begun)
      · rename_i no_nested
        refine ofWord?_of_unextended begins fun other other_begins begun => ?_
        rcases eq_or_extends begun with same | ⟨_, rfl | rfl⟩
        · exact same
        · exact absurd ((array_begins_scalar_append_iff rest).mp other_begins)
            no_array
        · exact absurd ((nested_begins_scalar_append_iff rest).mp other_begins)
            no_nested
  · rw [if_neg fun both => scalar both.1, if_neg fun both => scalar both.1]
    exact ofWord?_of_ne_scalar scalar begins

/-- The kind of a word is the one with the longest keyword that begins it.  The
words of an array or a nested struct never count as scalars, and what follows a
keyword changes its kind only if it makes one of these of a scalar. -/
theorem ofWord?_resolves_longest :
    (∀ word kind, ofWord? word = some kind ↔ Longest word kind) ∧
      (∀ word kind other, Longest word kind → Longest word other →
        kind = other) ∧
      (∀ word, ofWord? word = none ↔ ∀ kind : Kind, ¬ kind.Begins word) ∧
      (∀ word kind, kind = .array ∨ kind = .nested → kind.Begins word →
        ofWord? word = some kind ∧ ofWord? word ≠ some .scalar) ∧
      ∀ kind rest, ofWord? (kind.keyword.toList ++ rest) =
        if kind = .scalar ∧ "_ARR".toList <+: rest then some .array
        else if kind = .scalar ∧ "_STRUCT".toList <+: rest then some .nested
        else some kind := by
  refine ⟨fun _ _ => ofWord?_eq_some_iff_longest, ?_, ?_, ?_,
    ofWord?_keyword_append⟩
  · exact fun _ _ _ longest other_longest => longest.eq other_longest
  · exact fun _ => ofWord?_eq_none_iff
  · intro word kind extending begins
    have extended : kind ≠ .scalar := by
      rintro rfl
      rcases extending with ⟨⟨⟩⟩ | ⟨⟨⟩⟩
    have resolved := ofWord?_of_ne_scalar extended begins
    rw [resolved]
    exact ⟨rfl, fun captured => extended (Option.some.inj captured)⟩

theorem ofWord?_resolves_longest_structure :
    ofWord? "TILING_DATA_FIELD_DEF_STRUCTURE".toList = some .nested ∧
      ∀ other, Longest "TILING_DATA_FIELD_DEF_STRUCTURE".toList other →
        other = .nested := by
  obtain ⟨longest_iff, unique, _, extended, _⟩ := ofWord?_resolves_longest
  have resolved := (extended "TILING_DATA_FIELD_DEF_STRUCTURE".toList .nested
    (.inr rfl) (by decide +kernel)).1
  have longest := (longest_iff _ _).mp resolved
  exact ⟨resolved, fun other captured => unique _ _ _ captured longest⟩

end TilingHeader.Kind
