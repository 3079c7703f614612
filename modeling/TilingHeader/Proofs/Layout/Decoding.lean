import TilingHeader.Directive.Scan
import TilingHeader.Proofs.Layout.Written
import TilingHeader.Proofs.Text.Splitting

namespace TilingHeader

/-! Different layouts have different texts.  The lines of structs are read back
from their text, and each of them says what it is a line of: names, types and
lengths are what stands between marks, and the kind of a member shows in what
stands behind its name. -/

namespace Text

/-- A name as C has them. -/
structure IsIdentifier (name : String) : Prop where
  nonempty : name ≠ ""
  characters : ∀ character ∈ name.toList, isWordCharacter character = true
  first : ∀ character ∈ name.toList.head?, character.isDigit = false

theorem isIdentifier_iff (name : String) :
    IsIdentifier name ↔
      name ≠ "" ∧ name.toList.all isWordCharacter = true ∧
        name.toList.head?.all (!·.isDigit) = true := by
  simp only [List.all_eq_true, Option.all_eq_true, Bool.not_eq_true']
  constructor
  · intro identifier
    exact ⟨identifier.nonempty, identifier.characters, identifier.first⟩
  · intro parts
    obtain ⟨nonempty, characters, first⟩ := parts
    exact ⟨nonempty, characters, first⟩

instance (name : String) : Decidable (IsIdentifier name) :=
  decidable_of_iff' _ (isIdentifier_iff name)

theorem IsIdentifier.not_mem {name : String} (identifier : IsIdentifier name)
    (mark : Char) (separates : isWordCharacter mark = false) :
    mark ∉ name.toList := by
  intro listed
  rw [identifier.characters mark listed] at separates
  cases separates

end Text

namespace Member

def length? : Member → Option String
  | .scalar _ _ => none
  | .array _ length _ => some length
  | .nested _ _ => none

/-- A member that its line tells.  What is not said of a text may be anything,
blanks and marks of C among it. -/
structure Legible (member : Member) : Prop where
  type_one_line : '\n' ∉ member.type.toList
  type_unbracketed : '[' ∉ member.type.toList
  length_one_line : ∀ length ∈ member.length?, '\n' ∉ length.toList
  name_identifier : Text.IsIdentifier member.name

instance (member : Member) : Decidable member.Legible :=
  decidable_of_iff
    ('\n' ∉ member.type.toList ∧ '[' ∉ member.type.toList ∧
      (∀ length ∈ member.length?, '\n' ∉ length.toList) ∧
      Text.IsIdentifier member.name)
    ⟨fun parts => ⟨parts.1, parts.2.1, parts.2.2.1, parts.2.2.2⟩,
      fun legible => ⟨legible.type_one_line, legible.type_unbracketed,
        legible.length_one_line, legible.name_identifier⟩⟩

/-- The line of a member from its type to its name. -/
def declared (member : Member) : List Char :=
  member.type.toList ++ ' ' :: member.name.toList

theorem line_inj (first second : Member) :
    first.line = second.line ↔
      first.declared ++ first.ending = second.declared ++ second.ending := by
  rw [← String.toList_inj, toList_line, toList_line,
    List.append_cancel_left_eq]
  simp only [declared, List.append_assoc, List.cons_append]

namespace Legible

variable {first second : Member}

theorem one_line (legible : first.Legible) : '\n' ∉ first.line.toList := by
  have type_one := legible.type_one_line
  have name_one := legible.name_identifier.not_mem '\n' rfl
  have ending_one : '\n' ∉ first.ending := by
    have length_one := legible.length_one_line
    cases first with
    | scalar type name => simp [ending]
    | array type length name => simpa [ending] using length_one length rfl
    | nested type name => simp [ending]
  rw [toList_line]
  simp [type_one, name_one, ending_one]

theorem unbracketed_declared (legible : first.Legible) :
    '[' ∉ first.declared := by
  have name_unbracketed := legible.name_identifier.not_mem '[' rfl
  simp [declared, legible.type_unbracketed, name_unbracketed]

theorem bracketed_iff (legible : first.Legible) :
    '[' ∈ first.declared ++ first.ending ↔ first.length?.isSome = true := by
  have unbracketed := legible.unbracketed_declared
  cases first <;> simp [unbracketed, ending, length?]

theorem declared_inj (first_legible : first.Legible)
    (second_legible : second.Legible)
    (same : first.declared = second.declared) :
    first.type = second.type ∧ first.name = second.name := by
  obtain ⟨types_eq, names_eq⟩ := Text.append_cons_inj_of_last
    (first_legible.name_identifier.not_mem ' ' rfl)
    (second_legible.name_identifier.not_mem ' ' rfl) same
  exact ⟨String.toList_injective types_eq, String.toList_injective names_eq⟩

/-- The zero of a scalar is no name, so its line is not that of a nested
member. -/
theorem scalar_apart {type name other_type other_name : String}
    (legible : (nested other_type other_name).Legible) :
    (scalar type name).declared ++ (scalar type name).ending ≠
      (nested other_type other_name).declared ++
        (nested other_type other_name).ending := by
  intro same
  have zero_end : (scalar type name).declared ++ (scalar type name).ending =
      (scalar type name).declared ++ " =".toList ++ ' ' :: ['0'] ++ [';'] := by
    simp [ending]
  rw [zero_end] at same
  have name_identifier := legible.name_identifier
  obtain ⟨_, zero_name⟩ := Text.append_cons_inj_of_last (by decide)
    (name_identifier.not_mem ' ' rfl) (List.append_cancel_right same)
  have no_digit := name_identifier.first '0' (by rw [← zero_name]; rfl)
  cases no_digit

theorem eq_of_line_eq (first_legible : first.Legible)
    (second_legible : second.Legible) (same : first.line = second.line) :
    first = second := by
  rw [line_inj] at same
  have bracketed := second_legible.bracketed_iff
  rw [← same, first_legible.bracketed_iff] at bracketed
  cases first with
  | scalar type name =>
      cases second with
      | scalar other_type other_name =>
          obtain ⟨rfl, rfl⟩ := first_legible.declared_inj second_legible
            (List.append_cancel_right same)
          rfl
      | array other_type length other_name => simp [length?] at bracketed
      | nested other_type other_name =>
          exact absurd same (scalar_apart second_legible)
  | array type length name =>
      cases second with
      | scalar other_type other_name => simp [length?] at bracketed
      | array other_type other_length other_name =>
          obtain ⟨declared_eq, endings_eq⟩ := Text.append_cons_inj_of_first
            first_legible.unbracketed_declared
            second_legible.unbracketed_declared same
          obtain ⟨rfl, rfl⟩ :=
            first_legible.declared_inj second_legible declared_eq
          have lengths_eq := List.append_cancel_right endings_eq
          exact congrArg (array type · name)
            (String.toList_injective lengths_eq)
      | nested other_type other_name => simp [length?] at bracketed
  | nested type name =>
      cases second with
      | scalar other_type other_name =>
          exact absurd same.symm (scalar_apart first_legible)
      | array other_type length other_name => simp [length?] at bracketed
      | nested other_type other_name =>
          obtain ⟨rfl, rfl⟩ := first_legible.declared_inj second_legible
            (List.append_cancel_right same)
          rfl

end Legible

theorem eq_of_map_line_eq {first second : List Member}
    (first_legible : ∀ member ∈ first, member.Legible)
    (second_legible : ∀ member ∈ second, member.Legible)
    (same : first.map line = second.map line) : first = second := by
  induction first generalizing second with
  | nil => exact (List.map_eq_nil_iff.mp same.symm).symm
  | cons member rest induction =>
      obtain ⟨other, others, rfl, line_eq, rest_eq⟩ :=
        List.map_eq_cons_iff.mp same.symm
      obtain ⟨member_legible, rest_legible⟩ :=
        List.forall_mem_cons.mp first_legible
      obtain ⟨other_legible, others_legible⟩ :=
        List.forall_mem_cons.mp second_legible
      rw [member_legible.eq_of_line_eq other_legible line_eq.symm,
        induction rest_legible others_legible rest_eq.symm]

end Member

namespace PackedStruct

structure Legible (body : PackedStruct) : Prop where
  name_one_line : '\n' ∉ body.name.toList
  members : ∀ member ∈ body.members, member.Legible

instance (body : PackedStruct) : Decidable body.Legible :=
  decidable_of_iff
    ('\n' ∉ body.name.toList ∧ ∀ member ∈ body.members, member.Legible)
    ⟨fun parts => ⟨parts.1, parts.2⟩,
      fun legible => ⟨legible.name_one_line, legible.members⟩⟩

theorem Legible.one_line {body : PackedStruct} (legible : body.Legible) :
    ∀ line ∈ body.lines, '\n' ∉ line.toList := by
  have digits : '\n' ∉ Nat.toDigits 10 body.packAlignment := by
    intro listed
    have digit := Nat.isDigit_of_mem_toDigits (by decide) (by decide) listed
    cases digit
  simp only [lines, List.forall_mem_append, List.forall_mem_cons,
    List.forall_mem_map]
  refine ⟨⟨⟨?_, ?_, nofun⟩, ?_⟩, ?_, ?_, nofun⟩
  · simp [digits]
  · simp [legible.name_one_line]
  · exact fun member listed => (legible.members member listed).one_line
  · decide
  · decide

/-- No line of a member closes a struct. -/
theorem closing_not_mem_member_lines (members : List Member) :
    "\x7d;" ∉ members.map Member.line := by
  intro listed
  obtain ⟨member, _, line_eq⟩ := List.mem_map.mp listed
  have texts_eq := congrArg String.toList line_eq
  rw [Member.toList_line] at texts_eq
  cases texts_eq

/-- The lines of a struct end where they end, whatever stands behind them. -/
theorem Legible.lines_append_inj {body other : PackedStruct}
    (legible : body.Legible) (other_legible : other.Legible)
    {rest others : List String}
    (same : body.lines ++ rest = other.lines ++ others) :
    body = other ∧ rest = others := by
  simp only [lines, List.append_assoc, List.cons_append, List.nil_append]
    at same
  obtain ⟨push_eq, same⟩ := List.cons.inj same
  obtain ⟨struct_eq, same⟩ := List.cons.inj same
  obtain ⟨member_lines_eq, same⟩ := Text.append_cons_inj_of_first
    (closing_not_mem_member_lines _) (closing_not_mem_member_lines _) same
  obtain ⟨_, rest_eq⟩ := List.cons.inj same
  have digits_eq : Nat.toDigits 10 body.packAlignment =
      Nat.toDigits 10 other.packAlignment := by
    simpa [← String.toList_inj] using push_eq
  have alignment_eq : body.packAlignment = other.packAlignment := by
    have read_back (number : Nat) :
        Nat.ofDigitChars 10 (Nat.toDigits 10 number) 0 = number :=
      Nat.ofDigitChars_toDigits (by decide) (by decide)
    rw [← read_back body.packAlignment, digits_eq, read_back]
  have name_eq : body.name = other.name := by
    simpa using struct_eq
  have members_eq := Member.eq_of_map_line_eq legible.members
    other_legible.members member_lines_eq
  have body_eq : body = other := by
    cases body
    cases other
    rw [mk.injEq]
    exact ⟨name_eq, alignment_eq, members_eq⟩
  exact ⟨body_eq, rest_eq⟩

theorem eq_of_lines_eq {first second : List PackedStruct}
    (first_legible : ∀ body ∈ first, body.Legible)
    (second_legible : ∀ body ∈ second, body.Legible)
    (same : first.flatMap lines = second.flatMap lines) : first = second := by
  induction first generalizing second with
  | nil =>
      cases second with
      | nil => rfl
      | cons other others => cases same
  | cons body rest induction =>
      cases second with
      | nil => cases same
      | cons other others =>
          obtain ⟨legible, rest_legible⟩ := List.forall_mem_cons.mp first_legible
          obtain ⟨other_legible, others_legible⟩ :=
            List.forall_mem_cons.mp second_legible
          rw [List.flatMap_cons, List.flatMap_cons] at same
          obtain ⟨rfl, rest_eq⟩ := legible.lines_append_inj other_legible same
          rw [induction rest_legible others_legible rest_eq]

end PackedStruct

namespace Fragment

/-- The text of a layout tells its structs, with their packing, their members
and the order of both. -/
theorem layoutText_inj_of_legible {first second : List PackedStruct}
    (first_legible : ∀ body ∈ first, body.Legible)
    (second_legible : ∀ body ∈ second, body.Legible) :
    layoutText (first.map whole) = layoutText (second.map whole) ↔
      first = second := by
  constructor
  · intro same
    have one_line {structs : List PackedStruct}
        (legible : ∀ body ∈ structs, body.Legible) :
        ∀ line ∈ structs.flatMap PackedStruct.lines, '\n' ∉ line.toList := by
      intro line listed
      obtain ⟨body, body_listed, within⟩ := List.mem_flatMap.mp listed
      exact (legible body body_listed).one_line line within
    rw [layoutText_map_whole, layoutText_map_whole] at same
    have lines_eq := congrArg Text.lines same
    rw [Text.lines_written (one_line first_legible),
      Text.lines_written (one_line second_legible)] at lines_eq
    exact PackedStruct.eq_of_lines_eq first_legible second_legible
      (List.append_cancel_right lines_eq)
  · rintro rfl
    rfl

/-- A nested member whose line looks like that of a scalar up to its name. -/
def nestedLayout : List PackedStruct :=
  [⟨"A \x7b", 8, [.nested "T x =" "zero", .array "T ]" "n] = [0" "z"]⟩]

def scalarLayout : List PackedStruct :=
  [⟨"A \x7b", 8, [.scalar "T" "x", .array "T ]" "n] = [0" "z"]⟩]

theorem layoutText_inj_of_legible_lookalike :
    (∀ body ∈ nestedLayout, body.Legible) ∧
      (∀ body ∈ scalarLayout, body.Legible) ∧
      layoutText (nestedLayout.map whole) ≠
        layoutText (scalarLayout.map whole) := by
  have nested_legible : ∀ body ∈ nestedLayout, body.Legible := by
    decide +kernel
  have scalar_legible : ∀ body ∈ scalarLayout, body.Legible := by
    decide +kernel
  have apart : nestedLayout ≠ scalarLayout := by decide
  exact ⟨nested_legible, scalar_legible,
    (layoutText_inj_of_legible nested_legible scalar_legible).not.mpr apart⟩

/-- A number in the place of a name is not told from the zero of a scalar. -/
example :
    layoutText [.whole ⟨"A", 8, [.nested "T x =" "0"]⟩] =
      layoutText [.whole ⟨"A", 8, [.scalar "T" "x"]⟩] := by
  decide

end Fragment

end TilingHeader
