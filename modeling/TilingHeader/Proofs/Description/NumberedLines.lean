import TilingHeader.Proofs.Description.Translation
import TilingHeader.Proofs.Layout.Renumbering
import TilingHeader.Proofs.Text.Splitting

namespace TilingHeader

/-! A description as lines with their numbers.  The numbers reach the faults
only, and lines that compile by themselves give their text ahead of whatever
follows them, also where they leave a struct open. -/

namespace Line

theorem bareFault?_renumber (number : Nat → Nat) (line : List Char × Nat) :
    bareFault? (Prod.map id number line) =
      (bareFault? line).map (Fault.renumber number) := by
  unfold bareFault?
  dsimp only [Prod.map, id]
  cases kind? line.1 with
  | none => rfl
  | some kind =>
      cases arguments? line.1 with
      | none => cases kind <;> rfl
      | some args => rfl

theorem directive?_renumber (number : Nat → Nat) (line : List Char × Nat) :
    directive? (Prod.map id number line) =
      (directive? line).map (Directive.renumber number) := by
  unfold directive?
  rw [Option.map_map]
  rfl

end Line

namespace Fragment

/-- Strict building stops with no struct open. -/
theorem outcome_buildFrom_append_strict {settings : Settings}
    (strict : settings.strict = true) {current : Option OpenStruct}
    {first : List Directive} {pieces : List Fragment}
    (built : (buildFrom settings current first).outcome = .ok pieces)
    (second : List Directive) :
    (buildFrom settings current (first ++ second)).outcome =
      (build settings second).outcome.map (pieces ++ ·) := by
  induction first generalizing current pieces with
  | nil =>
      cases current with
      | none =>
          cases built
          rw [List.nil_append, build]
          cases (buildFrom settings none second).outcome <;> rfl
      | some current =>
          rw [buildFrom, finish, if_pos strict] at built
          cases built
  | cons directive rest induction =>
      rw [buildFrom_cons] at built
      obtain ⟨event, understood, built⟩ :=
        Logged.outcome_bind_eq_ok_iff.mp built
      obtain ⟨stepped, step_ok, built⟩ :=
        Logged.outcome_bind_eq_ok_iff.mp built
      obtain ⟨others, rest_built, joined⟩ :=
        Logged.outcome_bind_eq_ok_iff.mp built
      cases joined
      rw [List.cons_append, buildFrom_cons,
        Logged.outcome_bind_of_ok understood, Logged.outcome_bind_of_ok step_ok,
        Logged.outcome_bind, induction rest_built]
      cases (build settings second).outcome with
      | error fault => rfl
      | ok later => exact congrArg Except.ok (List.append_assoc _ _ _).symm

/-- Tolerant building may stop inside a struct, which the next directives then
go on with; the text is the same. -/
theorem layoutText_build_append_tolerant {settings : Settings}
    (tolerant : settings.strict = false) {first : List Directive}
    {pieces : List Fragment}
    (built : (build settings first).outcome = .ok pieces)
    (second : List Directive) :
    (build settings (first ++ second)).outcome.map layoutText =
      (build settings second).outcome.map (layoutText pieces ++ layoutText ·) := by
  rw [build, outcome_buildFrom_tolerant tolerant] at built
  rw [build, build, outcome_buildFrom_tolerant tolerant,
    outcome_buildFrom_tolerant tolerant, List.findSome?_append]
  cases short : first.findSome? Directive.shortage? with
  | some fault =>
      rw [short] at built
      cases built
  | none =>
      rw [short] at built
      cases built
      rw [Option.none_or]
      cases second.findSome? Directive.shortage? with
      | some fault => rfl
      | none =>
          simp only [Option.map_none, Except.map, layoutText_arrange,
            List.filterMap_append, List.flatMap_append, written_append]

theorem layoutText_build_append {settings : Settings} {first : List Directive}
    {pieces : List Fragment}
    (built : (build settings first).outcome = .ok pieces)
    (second : List Directive) :
    (build settings (first ++ second)).outcome.map layoutText =
      (build settings second).outcome.map
        (layoutText pieces ++ layoutText ·) := by
  cases mode : settings.strict with
  | false => exact layoutText_build_append_tolerant mode built second
  | true =>
      rw [build, outcome_buildFrom_append_strict mode built]
      cases (build settings second).outcome with
      | error fault => rfl
      | ok later => exact congrArg Except.ok (layoutText_append pieces later)

end Fragment

namespace Description

def compileLines (settings : Settings) (lines : List (List Char × Nat)) :
    Reading String :=
  match lines.findSome? Line.bareFault? with
  | some fault => .fail fault
  | none =>
      Fragment.build settings (lines.filterMap Line.directive?) >>= fun pieces =>
        pure (layoutText pieces)

theorem compile_eq_compileLines (settings : Settings) (source : String) :
    compile settings source = compileLines settings (Line.numbered source) := by
  have scanned := Directive.scan_eq source
  unfold compileLines
  cases bare : (Line.numbered source).findSome? Line.bareFault? with
  | some fault =>
      rw [bare] at scanned
      exact compile_of_scan_error settings scanned
  | none =>
      rw [bare] at scanned
      exact compile_of_scan_ok settings scanned

theorem compileLines_renumber (number : Nat → Nat) (settings : Settings)
    (lines : List (List Char × Nat)) :
    compileLines settings (lines.map (Prod.map id number)) =
      Reading.renumber number (compileLines settings lines) := by
  have bare_eq : (lines.map (Prod.map id number)).findSome? Line.bareFault? =
      (lines.findSome? Line.bareFault?).map (Fault.renumber number) := by
    rw [List.findSome?_map, List.map_findSome?]
    congr 1
    funext line
    exact Line.bareFault?_renumber number line
  have said_eq : (lines.map (Prod.map id number)).filterMap Line.directive? =
      (lines.filterMap Line.directive?).map (Directive.renumber number) := by
    rw [List.filterMap_map, List.map_filterMap]
    congr 1
    funext line
    exact Line.directive?_renumber number line
  rw [compileLines, compileLines, bare_eq, said_eq]
  cases lines.findSome? Line.bareFault? with
  | some fault => rfl
  | none =>
      dsimp only [Option.map_none]
      rw [Fragment.build_renumber, Reading.renumber_bind]
      rfl

theorem compileLines_concat_of_kind_none (settings : Settings)
    (lines : List (List Char × Nat)) {line : List Char × Nat}
    (unrecognised : Line.kind? line.1 = none) :
    compileLines settings (lines ++ [line]) = compileLines settings lines := by
  have bare_eq : [line].findSome? Line.bareFault? = none := by
    simp [Line.bareFault?, unrecognised]
  have said_eq : [line].filterMap Line.directive? = [] := by
    simp [Line.directive?, unrecognised]
  rw [compileLines, compileLines, List.findSome?_append, bare_eq,
    Option.or_none, List.filterMap_append, said_eq, List.append_nil]

theorem outcome_compileLines (settings : Settings)
    (lines : List (List Char × Nat)) :
    (compileLines settings lines).outcome =
      match lines.findSome? Line.bareFault? with
      | some fault => .error fault
      | none =>
          (Fragment.build settings
            (lines.filterMap Line.directive?)).outcome.map layoutText := by
  unfold compileLines
  cases lines.findSome? Line.bareFault? with
  | some fault => rfl
  | none =>
      rw [Logged.outcome_bind]
      rfl

theorem outcome_compileLines_append {settings : Settings}
    {first : List (List Char × Nat)} {text : String}
    (compiled : (compileLines settings first).outcome = .ok text)
    (second : List (List Char × Nat)) :
    (compileLines settings (first ++ second)).outcome =
      (compileLines settings second).outcome.map (text ++ ·) := by
  rw [outcome_compileLines] at compiled
  rw [outcome_compileLines, outcome_compileLines, List.findSome?_append]
  cases bare : first.findSome? Line.bareFault? with
  | some fault =>
      rw [bare] at compiled
      cases compiled
  | none =>
      rw [bare] at compiled
      dsimp only at compiled
      rw [Option.none_or]
      cases second.findSome? Line.bareFault? with
      | some fault => rfl
      | none =>
          dsimp only
          cases built : (Fragment.build settings
              (first.filterMap Line.directive?)).outcome with
          | error fault =>
              rw [built] at compiled
              cases compiled
          | ok pieces =>
              rw [built] at compiled
              cases compiled
              rw [List.filterMap_append,
                Fragment.layoutText_build_append built]
              cases (Fragment.build settings
                (second.filterMap Line.directive?)).outcome <;> rfl

/-- Tolerant reading gives a text exactly if no line is at fault by itself. -/
theorem exists_text_iff_of_tolerant {settings : Settings}
    (tolerant : settings.strict = false) (lines : List (List Char × Nat)) :
    (∃ text, (compileLines settings lines).outcome = .ok text) ↔
      (∀ line ∈ lines, Line.bareFault? line = none) ∧
        ∀ line ∈ lines, Line.shortFault? line = none := by
  rw [← List.findSome?_eq_none_iff, ← List.findSome?_eq_none_iff,
    outcome_compileLines]
  cases bare : lines.findSome? Line.bareFault? with
  | some fault => simp
  | none =>
      dsimp only
      rw [Fragment.build, Fragment.outcome_buildFrom_tolerant tolerant,
        Line.findSome?_shortage? bare]
      cases lines.findSome? Line.shortFault? with
      | some fault => simp [Except.map]
      | none => simp [Except.map]

end Description

end TilingHeader
