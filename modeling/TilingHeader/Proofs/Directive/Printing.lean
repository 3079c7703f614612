import TilingHeader.Proofs.Description.Texts
import TilingHeader.Proofs.Description.Writing
import TilingHeader.Proofs.Text.Trimming

namespace TilingHeader

/-! Directives and the lines on which they stand.  A scan gives directives that
can be written out again, one to each recognised line, and what is written out
is scanned as it was. -/

namespace Directive

/-- What a directive needs so that it can stand on a line. -/
structure Legible (directive : Directive) : Prop where
  line_pos : 1 ≤ directive.line
  word_characters : ∀ character ∈ directive.word.toList,
    isWordCharacter character = true
  resolved : Kind.ofWord? directive.word.toList = some directive.kind
  unseparated : ∀ argument ∈ directive.args, ',' ∉ argument.toList
  unbroken : ∀ argument ∈ directive.args, '\n' ∉ argument.toList
  trimmed : ∀ argument ∈ directive.args, Text.Trimmed argument.toList
  listed : directive.args = [] → directive.kind = .closing

/-- Directives that can stand in one text, in this order. -/
structure Lexical (directives : List Directive) : Prop where
  legible : ∀ directive ∈ directives, directive.Legible
  increasing : directives.Pairwise fun first second =>
    first.line < second.line

def argumentList (args : List String) : List Char :=
  if args = [] then []
  else '(' :: ([','].intercalate (args.map String.toList) ++ [')'])

def lineText (directive : Directive) : List Char :=
  directive.word.toList ++ argumentList directive.args

def onLine? (directives : List Directive) (number : Nat) : Option Directive :=
  directives.find? fun directive => directive.line = number

def textAt (directives : List Directive) (number : Nat) : List Char :=
  match onLine? directives number with
  | some directive => directive.lineText
  | none => []

/-- Every directive on its line, up to the last one, and else blank lines. -/
def print (directives : List Directive) : String :=
  let count := (directives.getLast?.map line).getD 0
  String.ofList (['\n'].intercalate
    ((List.range' 1 count).map (textAt directives)))

/-! What is scanned is lexical. -/

end Directive

namespace Line

theorem exists_piece_of_arguments {line : List Char} {args : List String}
    (listed : arguments? line = some args) :
    args ≠ [] ∧ ∀ argument ∈ args, ∃ piece, ',' ∉ piece ∧
      argument = String.ofList (Text.trim piece) := by
  rw [arguments?_eq] at listed
  obtain ⟨inner, _, rfl⟩ := Option.map_eq_some_iff.mp listed
  constructor
  · rw [splitArguments, ne_eq, List.map_eq_nil_iff]
    exact List.splitOn_ne_nil ',' inner
  · intro argument member
    obtain ⟨piece, piece_listed, rfl⟩ := List.mem_map.mp member
    exact ⟨piece, Text.not_mem_of_mem_splitOn piece_listed, rfl⟩

theorem legible_of_directive? {line : List Char × Nat} {directive : Directive}
    (one_line : '\n' ∉ line.1) (numbered : 1 ≤ line.2)
    (passed : bareFault? line = none)
    (said : directive? line = some directive) : directive.Legible := by
  have tidy := tidy_of_directive one_line said
  obtain ⟨kind, known, rfl⟩ := Option.map_eq_some_iff.mp said
  have pieces : ∀ argument ∈ (arguments? line.1).getD [], ∃ piece,
      ',' ∉ piece ∧ argument = String.ofList (Text.trim piece) := by
    cases listed : arguments? line.1 with
    | none => exact nofun
    | some args => exact (exists_piece_of_arguments listed).2
  refine ⟨numbered, ?_, ?_, ?_, ?_, ?_, ?_⟩
  · rw [String.toList_ofList]
    intro character member
    exact List.mem_takeWhile_imp member
  · rw [String.toList_ofList]
    exact known
  · intro argument member
    obtain ⟨piece, absent, rfl⟩ := pieces argument member
    rw [String.toList_ofList]
    exact fun separated => absent (Text.trim_subset piece separated)
  · exact fun argument member => (tidy argument member).one_line
  · intro argument member
    obtain ⟨piece, _, rfl⟩ := pieces argument member
    rw [String.toList_ofList]
    exact Text.trimmed_trim piece
  · intro nothing
    cases listed : arguments? line.1 with
    | none => simpa [bareFault?, known, listed] using passed
    | some args =>
        have args_eq : args = [] := by
          simpa only [listed, Option.getD_some] using nothing
        exact absurd args_eq (exists_piece_of_arguments listed).1

theorem pairwise_numbered (source : String) :
    (numbered source).Pairwise fun first second => first.2 < second.2 := by
  have increasing := List.pairwise_lt_range'
    (s := 1) (n := (source.toList.splitOn '\n').length) 1
  rw [← List.zipIdx_map_snd, List.pairwise_map] at increasing
  exact increasing

end Line

namespace Directive

theorem lexical_of_scan {source : String} {directives : List Directive}
    (scanned : scan source = .ok directives) : Lexical directives := by
  rw [scan_eq] at scanned
  cases bare : (Line.numbered source).findSome? Line.bareFault? with
  | some fault =>
      rw [bare] at scanned
      cases scanned
  | none =>
      rw [bare] at scanned
      cases scanned
      constructor
      · intro directive listed
        obtain ⟨line, line_listed, said⟩ := List.mem_filterMap.mp listed
        have piece : line.1 ∈ source.toList.splitOn '\n' := by
          rw [← Line.map_fst_numbered]
          exact List.mem_map_of_mem line_listed
        exact Line.legible_of_directive? (Text.not_mem_of_mem_splitOn piece)
          (List.le_snd_of_mem_zipIdx line_listed)
          (List.findSome?_eq_none_iff.mp bare line line_listed) said
      · apply (Line.pairwise_numbered source).filterMap
        intro first second before directive said other other_said
        obtain ⟨_, _, rfl⟩ := Option.map_eq_some_iff.mp said
        obtain ⟨_, _, rfl⟩ := Option.map_eq_some_iff.mp other_said
        exact before

/-- A scan has one directive to each recognised line. -/
theorem places_of_scan {source : String} {directives : List Directive}
    (scanned : scan source = .ok directives) :
    directives.map (fun directive => (directive.line, directive.kind)) =
      (Line.numbered source).filterMap fun line =>
        (Line.kind? line.1).map (line.2, ·) := by
  rw [scan_eq] at scanned
  cases bare : (Line.numbered source).findSome? Line.bareFault? with
  | some fault =>
      rw [bare] at scanned
      cases scanned
  | none =>
      rw [bare] at scanned
      cases scanned
      rw [List.map_filterMap]
      apply List.filterMap_congr
      intro line _
      rw [Line.directive?, Option.map_map]
      rfl

/-! What is lexical is scanned as it was. -/

section Legible

variable {directive : Directive} (legible : directive.Legible)
include legible

theorem Legible.word_ne_nil : directive.word.toList ≠ [] :=
  Kind.ne_nil_of_ofWord? legible.resolved

theorem Legible.trimmed_lineText : Text.Trimmed directive.lineText := by
  constructor
  · intro character first
    rw [lineText, List.head?_append_of_ne_nil _ legible.word_ne_nil] at first
    exact isBlank_of_isWordCharacter
      (legible.word_characters character (List.mem_of_head? first))
  · intro character last
    rw [lineText, argumentList] at last
    split at last
    · rw [List.append_nil] at last
      exact isBlank_of_isWordCharacter
        (legible.word_characters character (List.mem_of_getLast? last))
    · rw [← List.cons_append, ← List.append_assoc, List.getLast?_concat] at last
      obtain rfl := Option.some.inj last
      rfl

theorem Legible.word_lineText :
    Line.word directive.lineText = directive.word.toList := by
  rw [Line.word, legible.trimmed_lineText.trim_eq, lineText,
    List.takeWhile_append_of_pos legible.word_characters, argumentList]
  split <;> simp [isWordCharacter]

theorem Legible.afterWord_lineText :
    Line.afterWord directive.lineText = argumentList directive.args := by
  rw [Line.afterWord, legible.trimmed_lineText.trim_eq, lineText,
    List.dropWhile_append_of_pos legible.word_characters, argumentList]
  split <;> simp [isWordCharacter]

theorem Legible.splitArguments_intercalate (nonempty : directive.args ≠ []) :
    splitArguments ([','].intercalate (directive.args.map String.toList)) =
      directive.args := by
  have absent : ∀ piece ∈ directive.args.map String.toList, ',' ∉ piece := by
    intro piece listed
    obtain ⟨argument, member, rfl⟩ := List.mem_map.mp listed
    exact legible.unseparated argument member
  rw [splitArguments, List.splitOn_intercalate ',' absent (by simpa),
    List.map_map]
  have restored : ∀ argument ∈ directive.args,
      String.ofList (Text.trim argument.toList) = argument := by
    intro argument member
    rw [(legible.trimmed argument member).trim_eq, String.ofList_toList]
  exact (List.map_congr_left restored).trans (List.map_id _)

theorem Legible.arguments?_lineText :
    Line.arguments? directive.lineText =
      if directive.args = [] then none else some directive.args := by
  rw [Line.arguments?_eq, legible.afterWord_lineText, argumentList]
  split
  · rfl
  · rename_i nonempty
    have inner_eq (inner : List Char) :
        argumentText? ('(' :: (inner ++ [')'])) = some inner :=
      beforeLast?_append ')' inner List.not_mem_nil
    rw [inner_eq, Option.map_some,
      legible.splitArguments_intercalate nonempty]

theorem Legible.directive?_lineText :
    Line.directive? (directive.lineText, directive.line) =
      some directive := by
  have known : Line.kind? directive.lineText = some directive.kind := by
    rw [Line.kind?, legible.word_lineText, legible.resolved]
  have args_eq : (Line.arguments? directive.lineText).getD [] =
      directive.args := by
    rw [legible.arguments?_lineText]
    split
    · rename_i nothing
      rw [nothing]
      rfl
    · rfl
  rw [Line.directive?, known, Option.map_some, args_eq, legible.word_lineText,
    String.ofList_toList]

theorem Legible.bareFault?_lineText :
    Line.bareFault? (directive.lineText, directive.line) = none := by
  have known : Line.kind? (directive.lineText, directive.line).1 =
      some directive.kind := by
    rw [Line.kind?, legible.word_lineText, legible.resolved]
  rw [Line.bareFault?_eq_none_iff known]
  intro opens
  have nonempty : directive.args ≠ [] :=
    fun nothing => opens (legible.listed nothing)
  refine ⟨directive.args, ?_⟩
  rw [legible.arguments?_lineText, if_neg nonempty]

theorem Legible.one_line_lineText : '\n' ∉ directive.lineText := by
  have word_unbroken : '\n' ∉ directive.word.toList := by
    intro member
    exact absurd (legible.word_characters '\n' member) (by decide)
  have list_unbroken : '\n' ∉ argumentList directive.args := by
    have pieces : ∀ piece ∈ directive.args.map String.toList,
        '\n' ∉ piece := by
      intro piece listed
      obtain ⟨argument, member, rfl⟩ := List.mem_map.mp listed
      exact legible.unbroken argument member
    have apart : '\n' ≠ ',' := by decide
    have inner := Text.not_mem_intercalate apart pieces
    rw [argumentList]
    split
    · exact List.not_mem_nil
    · simp [inner]
  rw [lineText, List.mem_append]
  exact not_or.mpr ⟨word_unbroken, list_unbroken⟩

end Legible

section Lexical

variable {directives : List Directive}

/-- The line of a number reads as the directive with that number, if there is
one. -/
theorem Lexical.reads_textAt (lexical : Lexical directives) (number : Nat) :
    Line.directive? (textAt directives number, number) =
        onLine? directives number ∧
      Line.bareFault? (textAt directives number, number) = none ∧
      '\n' ∉ textAt directives number := by
  rw [textAt]
  cases found : onLine? directives number with
  | none => exact ⟨rfl, rfl, List.not_mem_nil⟩
  | some directive =>
      have legible := lexical.legible directive (List.mem_of_find?_eq_some found)
      obtain rfl : directive.line = number := by
        simpa using List.find?_some found
      exact ⟨legible.directive?_lineText, legible.bareFault?_lineText,
        legible.one_line_lineText⟩

theorem onLine?_eq_none_of_lt {number : Nat}
    (above : ∀ directive ∈ directives, number < directive.line) :
    onLine? directives number = none := by
  apply List.find?_eq_none.mpr
  intro directive listed
  have behind := above directive listed
  rw [decide_eq_true_iff]
  omega

theorem onLine?_cons_of_lt {directive : Directive} {number : Nat}
    (behind : directive.line < number) (rest : List Directive) :
    onLine? (directive :: rest) number = onLine? rest number := by
  apply List.find?_cons_of_neg
  rw [decide_eq_true_iff]
  omega

/-- Increasing directives are met again when their lines are gone through. -/
theorem filterMap_onLine? {first count : Nat}
    (increasing : directives.Pairwise fun one other => one.line < other.line)
    (within : ∀ directive ∈ directives,
      first ≤ directive.line ∧ directive.line < first + count) :
    (List.range' first count).filterMap (onLine? directives) =
      directives := by
  induction count generalizing first directives with
  | zero =>
      cases directives with
      | nil => rfl
      | cons directive rest =>
          have bounds := within directive List.mem_cons_self
          omega
  | succ count induction =>
      rw [List.range'_succ]
      cases directives with
      | nil => exact List.filterMap_eq_nil_iff.mpr fun _ _ => rfl
      | cons directive rest =>
          obtain ⟨before, rest_increasing⟩ := List.pairwise_cons.mp increasing
          obtain ⟨bounds, rest_within⟩ := List.forall_mem_cons.mp within
          by_cases here : directive.line = first
          · have found : onLine? (directive :: rest) first = some directive :=
              List.find?_cons_of_pos (decide_eq_true here)
            have passed : ∀ number ∈ List.range' (first + 1) count,
                onLine? (directive :: rest) number = onLine? rest number := by
              intro number listed
              have above := (List.mem_range'_1.mp listed).1
              exact onLine?_cons_of_lt (by omega) rest
            rw [List.filterMap_cons_some found, List.filterMap_congr passed]
            congr 1
            apply induction rest_increasing
            intro other listed
            have later := before other listed
            have other_bounds := rest_within other listed
            omega
          · have above : ∀ other ∈ directive :: rest, first < other.line := by
              have here_above : first < directive.line := by omega
              refine List.forall_mem_cons.mpr ⟨here_above, ?_⟩
              exact fun other later => here_above.trans (before other later)
            rw [List.filterMap_cons_none (onLine?_eq_none_of_lt above)]
            apply induction increasing
            intro other listed
            have other_above := above other listed
            have other_bounds := within other listed
            omega

theorem zipIdx_map_range' (text : Nat → List Char) (first count : Nat) :
    ((List.range' first count).map text).zipIdx first =
      (List.range' first count).map fun number => (text number, number) := by
  induction count generalizing first with
  | zero => rfl
  | succ count induction =>
      rw [List.range'_succ, List.map_cons, List.map_cons, List.zipIdx_cons,
        induction]

theorem Lexical.numbered_print (lexical : Lexical directives)
    {front : List Directive} {last : Directive}
    (directives_eq : directives = front ++ [last]) :
    Line.numbered (print directives) =
      (List.range' 1 last.line).map fun number =>
        (textAt directives number, number) := by
  have last_pos : 1 ≤ last.line :=
    (lexical.legible last (by simp [directives_eq])).line_pos
  have count_eq : (directives.getLast?.map line).getD 0 = last.line := by
    rw [directives_eq, List.getLast?_concat]
    rfl
  have unbroken : ∀ text ∈ (List.range' 1 last.line).map (textAt directives),
      '\n' ∉ text := by
    intro text listed
    obtain ⟨number, _, rfl⟩ := List.mem_map.mp listed
    exact (lexical.reads_textAt number).2.2
  have some_line : (List.range' 1 last.line).map (textAt directives) ≠ [] := by
    rw [ne_eq, List.map_eq_nil_iff, List.range'_eq_nil_iff]
    omega
  rw [Line.numbered, print, count_eq, String.toList_ofList,
    List.splitOn_intercalate '\n' unbroken some_line, zipIdx_map_range']

theorem Lexical.scan_print (lexical : Lexical directives) :
    scan (print directives) = .ok directives := by
  rcases List.eq_nil_or_concat directives with rfl | ⟨front, last, rfl⟩
  · decide
  · rw [List.concat_eq_append] at lexical ⊢
    have passed : ((List.range' 1 last.line).map fun number =>
        (textAt (front ++ [last]) number, number)).findSome?
          Line.bareFault? = none := by
      rw [List.findSome?_eq_none_iff, List.forall_mem_map]
      exact fun number _ => (lexical.reads_textAt number).2.1
    have within : ∀ directive ∈ front ++ [last],
        1 ≤ directive.line ∧ directive.line < 1 + last.line := by
      have before := (List.pairwise_append.mp lexical.increasing).2.2
      intro directive listed
      have line_pos := (lexical.legible directive listed).line_pos
      rcases List.mem_append.mp listed with in_front | at_end
      · have below := before directive in_front last List.mem_cons_self
        omega
      · obtain rfl := List.mem_singleton.mp at_end
        omega
    rw [scan_eq, lexical.numbered_print rfl, passed]
    dsimp only
    rw [List.filterMap_map]
    congr 1
    refine (List.filterMap_congr ?_).trans
      (filterMap_onLine? lexical.increasing within)
    exact fun number _ => (lexical.reads_textAt number).1

end Lexical

/-- A scan is lexical and has one directive to each recognised line, and every
lexical list is the scan of its own printing. -/
theorem scan_lexical_and_print :
    (∀ source directives, scan source = .ok directives →
      Lexical directives ∧
        directives.map (fun directive => (directive.line, directive.kind)) =
          (Line.numbered source).filterMap fun line =>
            (Line.kind? line.1).map (line.2, ·)) ∧
      ∀ directives, Lexical directives →
        scan (print directives) = .ok directives :=
  ⟨fun _ _ scanned => ⟨lexical_of_scan scanned, places_of_scan scanned⟩,
    fun _ lexical => lexical.scan_print⟩

/-- Arguments with parentheses, quotes, a line end and a letter beyond ASCII,
above a line that is passed over. -/
def oddArguments : List Directive :=
  [⟨2, .array, "TILING_DATA_FIELD_DEF_ARRAY", ["f(x)", "\"a\"\r b", "é)("]⟩,
    ⟨4, .closing, "END_TILING_DATA_DEF", []⟩]

theorem scan_lexical_and_print_odd :
    Lexical oddArguments ∧
      print oddArguments =
        "\nTILING_DATA_FIELD_DEF_ARRAY(f(x),\"a\"\r b,é)()\n" ++
          "\nEND_TILING_DATA_DEF" ∧
      scan (print oddArguments) = .ok oddArguments ∧
      oddArguments.map (fun directive => (directive.line, directive.kind)) =
        (Line.numbered (print oddArguments)).filterMap fun line =>
          (Line.kind? line.1).map (line.2, ·) := by
  have array_legible : Legible ⟨2, .array, "TILING_DATA_FIELD_DEF_ARRAY",
      ["f(x)", "\"a\"\r b", "é)("]⟩ :=
    { line_pos := by decide
      word_characters := List.all_eq_true.mp (by decide)
      resolved := by decide
      unseparated := by decide
      unbroken := by decide
      trimmed := by decide
      listed := nofun }
  have closing_legible : Legible ⟨4, .closing, "END_TILING_DATA_DEF", []⟩ :=
    { line_pos := by decide
      word_characters := List.all_eq_true.mp (by decide)
      resolved := by decide
      unseparated := nofun
      unbroken := nofun
      trimmed := nofun
      listed := fun _ => rfl }
  have lexical : Lexical oddArguments :=
    { legible := List.forall_mem_cons.mpr
        ⟨array_legible, List.forall_mem_singleton.mpr closing_legible⟩
      increasing := by decide }
  have scanned := scan_lexical_and_print.2 oddArguments lexical
  exact ⟨lexical, by decide, scanned,
    (scan_lexical_and_print.1 _ _ scanned).2⟩

end Directive

end TilingHeader
