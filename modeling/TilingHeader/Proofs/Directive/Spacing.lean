import TilingHeader.Proofs.Description.Lines
import TilingHeader.Proofs.Text.Trimming

namespace TilingHeader

/-! How a line is spaced.  White space at its ends, around its word and around
the commas of its list can be put in and taken out, and whatever stands behind
the list can be written there; what the line says stays the same. -/

namespace Text

/-- White space that does not end the line. -/
structure Spacing (text : List Char) : Prop where
  blank : ∀ character ∈ text, isBlank character = true
  one_line : '\n' ∉ text

theorem spacing_iff (text : List Char) :
    Spacing text ↔ text.all isBlank = true ∧ '\n' ∉ text := by
  rw [List.all_eq_true]
  exact ⟨fun spacing => ⟨spacing.blank, spacing.one_line⟩,
    fun both => ⟨both.1, both.2⟩⟩

instance (text : List Char) : Decidable (Spacing text) :=
  decidable_of_iff' _ (spacing_iff text)

end Text

/-! The arguments of a list. -/

theorem splitArguments_append_cons (left right : List Char) :
    splitArguments (left ++ ',' :: right) =
      splitArguments left ++ splitArguments right := by
  rw [splitArguments, List.splitOn_append_cons_self, List.map_append]
  rfl

section Space

variable {space : List Char}

theorem splitArguments_blanks_append
    (blank : ∀ character ∈ space, Text.isBlank character = true)
    (text : List Char) :
    splitArguments (space ++ text) = splitArguments text := by
  have absent : ',' ∉ space := fun member => nomatch blank ',' member
  refine Text.map_splitOn_prepend absent (fun piece => ?_) text
  rw [Text.trim_blanks_append blank]

theorem splitArguments_append_blanks
    (blank : ∀ character ∈ space, Text.isBlank character = true)
    (text : List Char) :
    splitArguments (text ++ space) = splitArguments text := by
  have absent : ',' ∉ space := fun member => nomatch blank ',' member
  refine Text.map_splitOn_append absent (fun piece => ?_) text
  rw [Text.trim_append_blanks blank]

/-- Between `left` and `right` an argument begins or ends. -/
def AtBoundary (left right : List Char) : Prop :=
  left = [] ∨ left.getLast? = some ',' ∨ right = [] ∨ right.head? = some ','

theorem splitArguments_at_boundary {left right : List Char}
    (boundary : AtBoundary left right)
    (blank : ∀ character ∈ space, Text.isBlank character = true) :
    splitArguments (left ++ space ++ right) =
      splitArguments (left ++ right) := by
  rcases boundary with rfl | left_comma | rfl | right_comma
  · exact splitArguments_blanks_append blank right
  · obtain ⟨before, rfl⟩ := List.getLast?_eq_some_iff.mp left_comma
    rw [List.append_assoc, List.append_assoc, List.append_assoc,
      List.singleton_append, List.singleton_append, splitArguments_append_cons,
      splitArguments_append_cons, splitArguments_blanks_append blank]
  · rw [List.append_nil, List.append_nil]
    exact splitArguments_append_blanks blank left
  · obtain ⟨behind, rfl⟩ := List.head?_eq_some_iff.mp right_comma
    rw [splitArguments_append_cons, splitArguments_append_cons,
      splitArguments_append_blanks blank]

end Space

/-! Lines that list arguments. -/

/-- A line in its parts: the word, the list between its parentheses, and what
stands around and between them. -/
structure ArgumentLine where
  lead : List Char
  word : List Char
  gap : List Char
  inner : List Char
  trail : List Char
  deriving DecidableEq

namespace ArgumentLine

def text (line : ArgumentLine) : List Char :=
  line.lead ++ (line.word ++ (line.gap ++
    '(' :: (line.inner ++ ')' :: line.trail)))

/-- The word is one of the kind, with blanks on both sides of it, and the list
ends with the last closing parenthesis. -/
structure Announces (line : ArgumentLine) (kind : Kind) : Prop where
  lead_blank : ∀ character ∈ line.lead, Text.isBlank character = true
  word_characters : ∀ character ∈ line.word,
    isWordCharacter character = true
  resolved : Kind.ofWord? line.word = some kind
  gap_blank : ∀ character ∈ line.gap, Text.isBlank character = true
  last_closing : ')' ∉ line.trail

theorem announces_iff (line : ArgumentLine) (kind : Kind) :
    line.Announces kind ↔
      line.lead.all Text.isBlank = true ∧
        line.word.all isWordCharacter = true ∧
        Kind.ofWord? line.word = some kind ∧
        line.gap.all Text.isBlank = true ∧ ')' ∉ line.trail := by
  simp only [List.all_eq_true]
  constructor
  · intro announces
    exact ⟨announces.lead_blank, announces.word_characters, announces.resolved,
      announces.gap_blank, announces.last_closing⟩
  · intro parts
    obtain ⟨lead_blank, word_characters, resolved, gap_blank, last_closing⟩ :=
      parts
    exact ⟨lead_blank, word_characters, resolved, gap_blank, last_closing⟩

instance (line : ArgumentLine) (kind : Kind) :
    Decidable (line.Announces kind) :=
  decidable_of_iff' _ (announces_iff line kind)

section Announces

variable {line : ArgumentLine} {kind : Kind} (announces : line.Announces kind)
include announces

theorem Announces.trim_text :
    Text.trim line.text =
      line.word ++ (line.gap ++
        '(' :: (line.inner ++ ')' :: Text.trimEnd line.trail)) := by
  obtain ⟨first, rest, word_eq⟩ :=
    List.exists_cons_of_ne_nil (Kind.ne_nil_of_ofWord? announces.resolved)
  have first_in_word : isWordCharacter first = true := by
    apply announces.word_characters
    rw [word_eq]
    exact List.mem_cons_self
  have closing_unblank : Text.isBlank ')' = false := by decide
  have regrouped (behind : List Char) :
      line.word ++ (line.gap ++ '(' :: (line.inner ++ ')' :: behind)) =
        (line.word ++ (line.gap ++ '(' :: line.inner)) ++ ')' :: behind := by
    simp
  rw [text, Text.trim_blanks_append announces.lead_blank, Text.trim,
    Text.trimStart, word_eq, List.cons_append, List.dropWhile_cons,
    isBlank_of_isWordCharacter first_in_word, if_neg Bool.false_ne_true,
    ← List.cons_append, ← word_eq, regrouped,
    Text.trimEnd_append_cons closing_unblank, ← regrouped]

/-- The word ends where the gap or the list begins. -/
theorem Announces.stops_word (behind : List Char) :
    (line.gap ++ '(' :: behind).takeWhile isWordCharacter = [] ∧
      (line.gap ++ '(' :: behind).dropWhile isWordCharacter =
        line.gap ++ '(' :: behind := by
  cases gap_eq : line.gap with
  | nil => exact ⟨rfl, rfl⟩
  | cons first rest =>
      have blank : Text.isBlank first = true := by
        apply announces.gap_blank
        rw [gap_eq]
        exact List.mem_cons_self
      have outside : isWordCharacter first = false := by
        cases inside : isWordCharacter first with
        | false => rfl
        | true =>
            rw [isBlank_of_isWordCharacter inside] at blank
            cases blank
      rw [List.cons_append, List.takeWhile_cons, List.dropWhile_cons, outside]
      exact ⟨rfl, rfl⟩

theorem Announces.word_text : Line.word line.text = line.word := by
  rw [Line.word, announces.trim_text,
    List.takeWhile_append_of_pos announces.word_characters,
    (announces.stops_word _).1, List.append_nil]

theorem Announces.arguments?_text :
    Line.arguments? line.text = some (splitArguments line.inner) := by
  have trail_closed : ')' ∉ Text.trimEnd line.trail := by
    intro member
    exact announces.last_closing
      ((List.rdropWhile_prefix Text.isBlank line.trail).subset member)
  have after_eq : Line.afterWord line.text =
      line.gap ++ '(' :: (line.inner ++ ')' :: Text.trimEnd line.trail) := by
    rw [Line.afterWord, announces.trim_text,
      List.dropWhile_append_of_pos announces.word_characters,
      (announces.stops_word _).2]
  have start_eq (behind : List Char) :
      Text.trimStart (line.gap ++ '(' :: behind) = '(' :: behind := by
    rw [Text.trimStart, List.dropWhile_append_of_pos announces.gap_blank]
    rfl
  have inner_eq : argumentText? (Line.afterWord line.text) =
      some line.inner := by
    rw [after_eq, argumentText?, start_eq]
    exact beforeLast?_append ')' line.inner trail_closed
  rw [Line.arguments?_eq, inner_eq, Option.map_some]

theorem Announces.readLine_text :
    readLine line.text =
      .directive kind (String.ofList line.word)
        (splitArguments line.inner) := by
  have recognised : Line.kind? line.text = some kind := by
    rw [Line.kind?, announces.word_text, announces.resolved]
  rw [Line.readLine_of_arguments recognised announces.arguments?_text,
    announces.word_text]

end Announces

/-- Every line that is recognised and lists arguments has these parts. -/
theorem exists_announces_iff (text : List Char) (kind : Kind) :
    (∃ line : ArgumentLine, line.Announces kind ∧ line.text = text) ↔
      Line.kind? text = some kind ∧
        ∃ args, Line.arguments? text = some args := by
  constructor
  · rintro ⟨line, announces, rfl⟩
    refine ⟨?_, _, announces.arguments?_text⟩
    rw [Line.kind?, announces.word_text, announces.resolved]
  · rintro ⟨recognised, args, listed⟩
    rw [Line.arguments?_eq] at listed
    obtain ⟨inner, found, rfl⟩ := Option.map_eq_some_iff.mp listed
    unfold argumentText? at found
    split at found
    · rename_i rest start_eq
      obtain ⟨trail, rest_eq, last_closing⟩ :=
        (beforeLast?_eq_some_iff _ _ _).mp found
      have lead_parted : text.takeWhile Text.isBlank ++ Text.trimStart text =
          text :=
        List.takeWhile_append_dropWhile
      have end_parted : Text.trim text ++
          (Text.trimStart text).rtakeWhile Text.isBlank = Text.trimStart text :=
        List.rdropWhile_append_rtakeWhile
      have word_parted : Line.word text ++ Line.afterWord text =
          Text.trim text :=
        List.takeWhile_append_dropWhile
      have gap_parted : (Line.afterWord text).takeWhile Text.isBlank ++
          Text.trimStart (Line.afterWord text) = Line.afterWord text :=
        List.takeWhile_append_dropWhile
      have blanks_open : ')' ∉ (Text.trimStart text).rtakeWhile Text.isBlank :=
        fun member => nomatch List.mem_rtakeWhile_imp member
      refine ⟨⟨text.takeWhile Text.isBlank, Line.word text,
        (Line.afterWord text).takeWhile Text.isBlank, inner,
        trail ++ (Text.trimStart text).rtakeWhile Text.isBlank⟩, ?_, ?_⟩
      · exact ⟨fun character => List.mem_takeWhile_imp,
          fun character => List.mem_takeWhile_imp, recognised,
          fun character => List.mem_takeWhile_imp,
          List.not_mem_append last_closing blanks_open⟩
      · rw [start_eq, rest_eq] at gap_parted
        conv_rhs =>
          rw [← lead_parted, ← end_parted, ← word_parted, ← gap_parted]
        simp only [ArgumentLine.text, List.append_assoc, List.cons_append]
    · cases found

end ArgumentLine

/-! Lines that are spaced anew. -/

theorem readLine_congr {line other : List Char}
    (alike : Text.trim line = Text.trim other) :
    readLine line = readLine other := by
  rw [readLine, readLine, alike]

theorem readLine_append_blanks {space : List Char}
    (blank : ∀ character ∈ space, Text.isBlank character = true)
    (line : List Char) : readLine (line ++ space) = readLine line :=
  readLine_congr (Text.trim_append_blanks blank line)

namespace Line

/-- One place of a line gets more white space.  Behind the list it can get any
text that does not close another one. -/
inductive Respaced : List Char → List Char → Prop
  | start (line : List Char) {space : List Char}
      (spacing : Text.Spacing space) : Respaced line (space ++ line)
  | finish (line : List Char) {space : List Char}
      (spacing : Text.Spacing space) : Respaced line (line ++ space)
  | beforeList {line : ArgumentLine} {kind : Kind}
      {near far space : List Char} (announces : line.Announces kind)
      (parted : line.gap = near ++ far) (spacing : Text.Spacing space) :
      Respaced line.text { line with gap := near ++ space ++ far }.text
  | inList {line : ArgumentLine} {kind : Kind}
      {left right space : List Char} (announces : line.Announces kind)
      (parted : line.inner = left ++ right)
      (boundary : AtBoundary left right) (spacing : Text.Spacing space) :
      Respaced line.text { line with inner := left ++ space ++ right }.text
  | behindList {line : ArgumentLine} {kind : Kind}
      {near far added : List Char} (announces : line.Announces kind)
      (parted : line.trail = near ++ far) (closes_nothing : ')' ∉ added)
      (one_line : '\n' ∉ added) :
      Respaced line.text { line with trail := near ++ added ++ far }.text

theorem Respaced.readLine_eq {line other : List Char}
    (respaced : Respaced line other) : readLine other = readLine line := by
  cases respaced with
  | start line spacing =>
      exact readLine_congr (Text.trim_blanks_append spacing.blank line)
  | finish line spacing => exact readLine_append_blanks spacing.blank line
  | @beforeList line kind near far space announces parted spacing =>
      have gap_blank : ∀ character ∈ near ++ space ++ far,
          Text.isBlank character = true := by
        have known_blank := announces.gap_blank
        rw [parted] at known_blank
        obtain ⟨near_blank, far_blank⟩ := List.forall_mem_append.mp known_blank
        exact List.forall_mem_append.mpr
          ⟨List.forall_mem_append.mpr ⟨near_blank, spacing.blank⟩, far_blank⟩
      have announces_still :
          ({ line with gap := near ++ space ++ far } :
            ArgumentLine).Announces kind :=
        { announces with gap_blank := gap_blank }
      rw [announces.readLine_text, announces_still.readLine_text]
  | @inList line kind left right space announces parted boundary spacing =>
      have announces_still :
          ({ line with inner := left ++ space ++ right } :
            ArgumentLine).Announces kind :=
        { announces with }
      rw [announces.readLine_text, announces_still.readLine_text, parted]
      dsimp only
      rw [splitArguments_at_boundary boundary spacing.blank]
  | @behindList line kind near far added announces parted closes_nothing =>
      have last_closing : ')' ∉ near ++ added ++ far := by
        have known_open := announces.last_closing
        rw [parted, List.mem_append, not_or] at known_open
        exact List.not_mem_append
          (List.not_mem_append known_open.1 closes_nothing) known_open.2
      have announces_still :
          ({ line with trail := near ++ added ++ far } :
            ArgumentLine).Announces kind :=
        { announces with last_closing := last_closing }
      rw [announces.readLine_text, announces_still.readLine_text]

end Line

end TilingHeader
