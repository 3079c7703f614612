import Mathlib.Data.List.DropRight
import Mathlib.Data.List.Forall2
import TilingHeader.Description
import TilingHeader.Proofs.Directive.Meaning

namespace TilingHeader

/-! The lines of a description, each taken by itself: its word, the kind that
the word announces, its arguments. -/

theorem isBlank_of_isWordCharacter {character : Char}
    (in_word : isWordCharacter character = true) :
    Text.isBlank character = false := by
  have code : (48 ≤ character.toNat ∧ character.toNat ≤ 57) ∨
      (65 ≤ character.toNat ∧ character.toNat ≤ 90) ∨
      (97 ≤ character.toNat ∧ character.toNat ≤ 122) ∨
      character.toNat = 95 := by
    change (((character.isUpper || character.isLower) || character.isDigit) ||
      character == '_') = true at in_word
    rw [Bool.or_eq_true, Bool.or_eq_true, Bool.or_eq_true, beq_iff_eq]
      at in_word
    rcases in_word with ((upper | lower) | digit) | rfl
    · exact .inr (.inl (of_decide_eq_true upper))
    · have bounds := (Bool.and_eq_true _ _).mp lower
      exact .inr (.inr (.inl
        ⟨of_decide_eq_true bounds.1, of_decide_eq_true bounds.2⟩))
    · exact .inl (Char.isDigit_iff_toNat.mp digit)
    · exact .inr (.inr (.inr rfl))
  by_contra blank
  simp [Text.isBlank, Text.blankCodes] at blank
  omega

theorem Kind.ne_nil_of_ofWord? {word : List Char} {kind : Kind}
    (resolved : Kind.ofWord? word = some kind) : word ≠ [] := by
  rintro rfl
  have unresolved : Kind.ofWord? [] = none := by decide
  rw [unresolved] at resolved
  cases resolved

namespace Line

def numbered (source : String) : List (List Char × Nat) :=
  (source.toList.splitOn '\n').zipIdx 1

theorem map_fst_numbered (source : String) :
    (numbered source).map Prod.fst = source.toList.splitOn '\n' :=
  List.zipIdx_map_fst _ _

def word (line : List Char) : List Char :=
  (Text.trim line).takeWhile isWordCharacter

def afterWord (line : List Char) : List Char :=
  (Text.trim line).dropWhile isWordCharacter

/-- A line that is recognised has a kind. -/
def kind? (line : List Char) : Option Kind :=
  Kind.ofWord? (word line)

/-- Behind the word come blanks and a parenthesis.  From there the list reaches
to the last closing parenthesis of the line. -/
def arguments? (line : List Char) : Option (List String) :=
  match (afterWord line).dropWhile Text.isBlank with
  | '(' :: rest =>
      if ')' ∈ rest then
        let inner := (rest.rdropWhile (· ≠ ')')).dropLast
        some ((inner.splitOn ',').map fun argument =>
          String.ofList (Text.trim argument))
      else none
  | _ => none

end Line

theorem beforeLast?_eq_none_iff (mark : Char) (text : List Char) :
    beforeLast? mark text = none ↔ mark ∉ text := by
  induction text with
  | nil => simp [beforeLast?]
  | cons character rest induction =>
      rw [List.mem_cons, not_or, ← induction, beforeLast?]
      cases beforeLast? mark rest with
      | none => simp [eq_comm]
      | some before => simp

theorem beforeLast?_append (mark : Char) (before : List Char)
    {after : List Char} (absent : mark ∉ after) :
    beforeLast? mark (before ++ mark :: after) = some before := by
  induction before with
  | nil => simp [beforeLast?, (beforeLast?_eq_none_iff mark after).mpr absent]
  | cons character rest induction =>
      rw [List.cons_append, beforeLast?, induction]

theorem beforeLast?_eq_some_iff (mark : Char) (text before : List Char) :
    beforeLast? mark text = some before ↔
      ∃ after, text = before ++ mark :: after ∧ mark ∉ after := by
  constructor
  · intro found
    induction text generalizing before with
    | nil => cases found
    | cons character rest induction =>
        rw [beforeLast?] at found
        cases inner : beforeLast? mark rest with
        | some earlier =>
            obtain ⟨after, rfl, absent⟩ := induction earlier inner
            rw [inner] at found
            cases found
            exact ⟨after, rfl, absent⟩
        | none =>
            rw [inner] at found
            by_cases marked : character = mark
            · subst marked
              rw [if_pos rfl] at found
              cases found
              exact ⟨rest, rfl, (beforeLast?_eq_none_iff _ _).mp inner⟩
            · rw [if_neg marked] at found
              cases found
  · rintro ⟨after, rfl, absent⟩
    exact beforeLast?_append mark before absent

theorem rdropWhile_append (mark : Char) (before : List Char)
    {after : List Char} (absent : mark ∉ after) :
    (before ++ mark :: after).rdropWhile (· ≠ mark) = before ++ [mark] := by
  have passed : ∀ character ∈ after.reverse, decide (character ≠ mark) := by
    intro character member
    rw [List.mem_reverse] at member
    exact decide_eq_true fun equality => absent (equality ▸ member)
  rw [List.rdropWhile, List.reverse_append, List.reverse_cons,
    List.append_assoc, List.dropWhile_append_of_pos passed]
  simp

theorem beforeLast?_eq_ite (mark : Char) (text : List Char) :
    beforeLast? mark text =
      if mark ∈ text then some (text.rdropWhile (· ≠ mark)).dropLast
      else none := by
  cases found : beforeLast? mark text with
  | none =>
      have absent := (beforeLast?_eq_none_iff mark text).mp found
      rw [if_neg absent]
  | some before =>
      obtain ⟨after, rfl, absent⟩ :=
        (beforeLast?_eq_some_iff mark text before).mp found
      rw [if_pos (by simp), rdropWhile_append mark before absent,
        List.dropLast_concat]

namespace Line

theorem arguments?_eq (line : List Char) :
    arguments? line =
      (argumentText? (afterWord line)).map splitArguments := by
  unfold arguments? argumentText? Text.trimStart
  generalize (afterWord line).dropWhile Text.isBlank = behind
  rcases behind with _ | ⟨first, rest⟩
  · rfl
  · by_cases opens : first = '('
    · subst opens
      simp only [beforeLast?_eq_ite]
      split <;> rfl
    · simp [opens]

theorem readLine_of_kind_none {line : List Char}
    (unrecognised : kind? line = none) : readLine line = .other := by
  unfold kind? word at unrecognised
  simp only [readLine, unrecognised]

theorem readLine_of_arguments {line : List Char} {kind : Kind}
    {args : List String} (recognised : kind? line = some kind)
    (listed : arguments? line = some args) :
    readLine line = .directive kind (String.ofList (word line)) args := by
  rw [arguments?_eq] at listed
  obtain ⟨inner, found, rfl⟩ := Option.map_eq_some_iff.mp listed
  unfold kind? word at recognised
  unfold afterWord at found
  simp only [readLine, recognised, found, word]

theorem readLine_of_arguments_none {line : List Char} {kind : Kind}
    (recognised : kind? line = some kind)
    (unlisted : arguments? line = none) :
    readLine line =
      if kind = .closing then
        .directive kind (String.ofList (word line)) []
      else .withoutArguments kind := by
  rw [arguments?_eq] at unlisted
  have missing := Option.map_eq_none_iff.mp unlisted
  unfold kind? word at recognised
  unfold afterWord at missing
  simp only [readLine, recognised, missing, word]

/-- The fault of a line that needs a list of arguments and has none.  The line
comes with its number. -/
def bareFault? (line : List Char × Nat) : Option Fault :=
  match kind? line.1, arguments? line.1 with
  | some kind, none =>
      if kind = .closing then none else some ⟨line.2, .noArguments kind⟩
  | _, _ => none

def directive? (line : List Char × Nat) : Option Directive :=
  (kind? line.1).map fun kind =>
    ⟨line.2, kind, String.ofList (word line.1), (arguments? line.1).getD []⟩

end Line

namespace Directive

theorem scanFrom_cons (number : Nat) (line : List Char)
    (rest : List (List Char)) :
    scanFrom number (line :: rest) =
      match Line.bareFault? (line, number) with
      | some fault => .error fault
      | none => (scanFrom (number + 1) rest).map fun others =>
          (Line.directive? (line, number)).toList ++ others := by
  rw [scanFrom]
  cases recognised : Line.kind? line with
  | none =>
      simp only [Line.readLine_of_kind_none recognised, Line.bareFault?,
        Line.directive?, recognised]
      cases scanFrom (number + 1) rest <;> rfl
  | some kind =>
      cases listed : Line.arguments? line with
      | some args =>
          simp only [Line.readLine_of_arguments recognised listed,
            Line.bareFault?, Line.directive?, recognised, listed]
          rfl
      | none =>
          simp only [Line.readLine_of_arguments_none recognised listed,
            Line.bareFault?, Line.directive?, recognised, listed]
          by_cases closes : kind = .closing
          · simp only [if_pos closes]
            rfl
          · simp only [if_neg closes]

/-- All lists of arguments are looked for before anything else is. -/
theorem scanFrom_eq (number : Nat) (lines : List (List Char)) :
    scanFrom number lines =
      match (lines.zipIdx number).findSome? Line.bareFault? with
      | some fault => .error fault
      | none => .ok ((lines.zipIdx number).filterMap Line.directive?) := by
  induction lines generalizing number with
  | nil => rfl
  | cons line rest induction =>
      rw [scanFrom_cons, List.zipIdx_cons, induction, List.findSome?_cons,
        List.filterMap_cons]
      cases Line.bareFault? (line, number) with
      | some fault => rfl
      | none =>
          cases (rest.zipIdx (number + 1)).findSome? Line.bareFault? with
          | some fault => rfl
          | none => cases Line.directive? (line, number) <;> rfl

theorem scan_eq (source : String) :
    scan source =
      match (Line.numbered source).findSome? Line.bareFault? with
      | some fault => .error fault
      | none => .ok ((Line.numbered source).filterMap Line.directive?) :=
  scanFrom_eq 1 _

end Directive

end TilingHeader
