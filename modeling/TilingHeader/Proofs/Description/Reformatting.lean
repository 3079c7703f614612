import Mathlib.Logic.Function.Basic
import Mathlib.Logic.Relation
import TilingHeader.Proofs.Description.NumberedLines
import TilingHeader.Proofs.Description.Writing
import TilingHeader.Proofs.Directive.Spacing

namespace TilingHeader

/-! Descriptions that are formatted differently.  Spacing does not reach the
result at all; lines that are not recognised only move the others, and a fault
moves with its line. -/

namespace Directive

theorem scanFrom_congr {lines others : List (List Char)}
    (alike : lines.map readLine = others.map readLine) (number : Nat) :
    scanFrom number lines = scanFrom number others := by
  induction lines generalizing others number with
  | nil =>
      cases others with
      | nil => rfl
      | cons other rest => cases alike
  | cons line rest induction =>
      cases others with
      | nil => cases alike
      | cons other more =>
          obtain ⟨line_alike, rest_alike⟩ := List.cons.inj alike
          rw [scanFrom, scanFrom, line_alike, induction rest_alike]

end Directive

namespace Description

/-- One place of a source is spaced anew, or one of its lines is ended the other
way. -/
inductive Respaced : String → String → Prop
  | lineEnd (before after : String) :
      Respaced (before ++ "\n" ++ after) (before ++ "\r\n" ++ after)
  | onLine {source other : String} {earlier later : List (List Char)}
      {line changed : List Char}
      (source_lines : source.toList.splitOn '\n' = earlier ++ line :: later)
      (other_lines : other.toList.splitOn '\n' = earlier ++ changed :: later)
      (respaced : Line.Respaced line changed) : Respaced source other

/-- One line that starts with no keyword is put in. -/
inductive Inserted : String → String → Prop
  | line {source other : String} {earlier later : List (List Char)}
      {line : List Char}
      (source_lines : source.toList.splitOn '\n' = earlier ++ later)
      (other_lines : other.toList.splitOn '\n' = earlier ++ line :: later)
      (unrecognised : ∀ kind : Kind, ¬ kind.Begins (Line.word line)) :
      Inserted source other

theorem Respaced.between {before after : String} {line changed : List Char}
    (one_line : '\n' ∉ line) (changed_one_line : '\n' ∉ changed)
    (respaced : Line.Respaced line changed) :
    Respaced (before ++ "\n" ++ String.ofList line ++ "\n" ++ after)
      (before ++ "\n" ++ String.ofList changed ++ "\n" ++ after) := by
  have lines_eq {found : List Char} (found_one_line : '\n' ∉ found) :
      (before ++ "\n" ++ String.ofList found ++ "\n" ++
          after).toList.splitOn '\n' =
        before.toList.splitOn '\n' ++
          found :: after.toList.splitOn '\n' := by
    have source_eq : (before ++ "\n" ++ String.ofList found ++ "\n" ++
          after).toList =
        before.toList ++ '\n' :: (found ++ '\n' :: after.toList) := by
      simp
    rw [source_eq, List.splitOn_append_cons_self,
      List.splitOn_append_cons_self,
      List.splitOn_eq_singleton found_one_line, List.singleton_append]
  exact .onLine (lines_eq one_line) (lines_eq changed_one_line) respaced

theorem Respaced.map_readLine_eq {source other : String}
    (respaced : Respaced source other) :
    (other.toList.splitOn '\n').map readLine =
      (source.toList.splitOn '\n').map readLine := by
  cases respaced with
  | lineEnd before after =>
      have source_eq : (before ++ "\n" ++ after).toList =
          before.toList ++ '\n' :: after.toList := by
        simp
      have other_eq : (before ++ "\r\n" ++ after).toList =
          (before.toList ++ ['\r']) ++ '\n' :: after.toList := by
        simp
      have spacing : Text.Spacing ['\r'] := by decide
      rw [source_eq, other_eq, List.splitOn_append_cons_self,
        List.splitOn_append_cons_self, List.map_append, List.map_append,
        Text.map_splitOn_append spacing.one_line
          (readLine_append_blanks spacing.blank)]
  | onLine source_lines other_lines respaced =>
      rw [source_lines, other_lines, List.map_append, List.map_append,
        List.map_cons, List.map_cons, respaced.readLine_eq]

theorem Respaced.compile_eq (settings : Settings) {source other : String}
    (respaced : Respaced source other) :
    compile settings source = compile settings other := by
  have scanned : Directive.scan source = Directive.scan other :=
    Directive.scanFrom_congr respaced.map_readLine_eq.symm 1
  rw [compile, compile, fragments, fragments, scanned]

/-- What one edit keeps, any chain of them keeps. -/
theorem eq_of_edited {β : Type} {edit : String → String → Prop}
    {source other : String} (edited : Relation.EqvGen edit source other)
    {read : String → β}
    (kept : ∀ source other, edit source other → read source = read other) :
    read source = read other :=
  congrArg (Quot.lift read kept) (Quot.eqvGen_sound edited)

/-! Only the recognised lines count. -/

section Recognised

variable {settings : Settings}

theorem filterMap_recognised {β : Type} {read : List Char × Nat → Option β}
    (silent : ∀ line, Line.kind? line.1 = none → read line = none)
    (lines : List (List Char × Nat)) :
    (lines.filter fun line => (Line.kind? line.1).isSome).filterMap read =
      lines.filterMap read := by
  rw [List.filterMap_filter]
  apply List.filterMap_congr
  intro line _
  cases known : Line.kind? line.1 with
  | none => simp [silent line known]
  | some kind => simp

theorem compileLines_recognised (settings : Settings)
    (lines : List (List Char × Nat)) :
    compileLines settings
        (lines.filter fun line => (Line.kind? line.1).isSome) =
      compileLines settings lines := by
  have bare_silent : ∀ line, Line.kind? line.1 = none →
      Line.bareFault? line = none := by
    intro line unrecognised
    rw [Line.bareFault?, unrecognised]
  have said_silent : ∀ line, Line.kind? line.1 = none →
      Line.directive? line = none := by
    intro line unrecognised
    rw [Line.directive?, unrecognised, Option.map_none]
  rw [compileLines, compileLines, ← List.head?_filterMap,
    ← List.head?_filterMap, filterMap_recognised bare_silent,
    filterMap_recognised said_silent]

/-- A fault stands on one of the lines. -/
theorem exists_line_of_fault {lines : List (List Char × Nat)} {fault : Fault}
    (failed : (compileLines settings lines).outcome = .error fault) :
    ∃ line, (line, fault.line) ∈ lines := by
  by_contra absent
  -- No line has the number of the fault, so the fault can be moved alone.
  let number := Function.update id fault.line (fault.line + 1)
  have fixed : lines.map (Prod.map id number) = lines := by
    conv_rhs => rw [← List.map_id lines]
    apply List.map_congr_left
    intro line listed
    have apart : line.2 ≠ fault.line :=
      fun same => absent ⟨line.1, same ▸ listed⟩
    simp [number, Prod.map, Function.update_of_ne apart]
  have moved := congrArg Logged.outcome
    (compileLines_renumber number settings lines)
  rw [fixed, Reading.outcome_renumber, failed] at moved
  have same_line : fault.line = number fault.line :=
    congrArg Fault.line (Except.error.inj moved)
  have next_line : number fault.line = fault.line + 1 :=
    Function.update_self _ _ _
  omega

/-- Lines are compiled by their places, and numbered only then. -/
theorem compileLines_eq_renumber (settings : Settings)
    (lines : List (List Char × Nat)) :
    compileLines settings lines =
      Reading.renumber (fun index => (lines[index]?.map Prod.snd).getD 0)
        (compileLines settings (lines.map Prod.fst).zipIdx) := by
  rw [← compileLines_renumber]
  congr 1
  apply List.ext_getElem?
  intro index
  rw [List.getElem?_map, List.getElem?_zipIdx, List.getElem?_map]
  cases here : lines[index]? with
  | none => rfl
  | some line => simp [here]

theorem outcome_compileLines_of_same_texts
    {lines others : List (List Char × Nat)}
    (same : lines.map Prod.fst = others.map Prod.fst) :
    (∀ text, (compileLines settings lines).outcome = .ok text →
      (compileLines settings others).outcome = .ok text) ∧
      ∀ number cause,
        (compileLines settings lines).outcome = .error ⟨number, cause⟩ →
          ∃ (index : Nat) (line : List Char) (moved : Nat),
            lines[index]? = some (line, number) ∧
              others[index]? = some (line, moved) ∧
              (compileLines settings others).outcome =
                .error ⟨moved, cause⟩ := by
  rw [compileLines_eq_renumber settings lines,
    compileLines_eq_renumber settings others, Reading.outcome_renumber,
    Reading.outcome_renumber, same]
  cases placed : (compileLines settings
      (others.map Prod.fst).zipIdx).outcome with
  | ok text => exact ⟨fun found compiled => compiled, nofun⟩
  | error fault =>
      refine ⟨nofun, fun number cause failed => ?_⟩
      obtain ⟨line, listed⟩ := exists_line_of_fault placed
      have text_here : (others.map Prod.fst)[fault.line]? = some line :=
        List.mem_zipIdx_iff_getElem?.mp listed
      have text_there := text_here
      rw [← same] at text_there
      rw [List.getElem?_map, Option.map_eq_some_iff] at text_here text_there
      obtain ⟨⟨_, moved⟩, here, rfl⟩ := text_here
      obtain ⟨⟨_, before⟩, there, rfl⟩ := text_there
      simp only [there, here, Option.map_some, Option.getD_some, Except.mapError,
        Fault.renumber] at failed ⊢
      cases failed
      exact ⟨fault.line, _, moved, there, here, rfl⟩

end Recognised

/-- The lines that count, with their numbers. -/
def recognisedLines (source : String) : List (List Char × Nat) :=
  (Line.numbered source).filter fun line => (Line.kind? line.1).isSome

theorem map_fst_recognisedLines (source : String) :
    (recognisedLines source).map Prod.fst = Line.recognised source := by
  rw [Line.recognised, ← Line.map_fst_numbered, List.filter_map]
  rfl

theorem Inserted.recognised_eq {source other : String}
    (inserted : Inserted source other) :
    Line.recognised source = Line.recognised other := by
  cases inserted with
  | @line earlier later line source_lines other_lines unrecognised =>
      have unknown : Line.kind? line = none := by
        apply List.find?_eq_none.mpr
        intro kind _ begins
        exact unrecognised kind (of_decide_eq_true begins)
      rw [Line.recognised, Line.recognised, source_lines, other_lines,
        List.filter_append, List.filter_append, List.filter_cons, unknown]
      rfl

theorem outcome_compile_of_inserted (settings : Settings)
    {source other : String}
    (inserted : Relation.EqvGen Inserted source other) :
    (∀ text, (compile settings source).outcome = .ok text →
      (compile settings other).outcome = .ok text) ∧
      ∀ number cause,
        (compile settings source).outcome = .error ⟨number, cause⟩ →
          ∃ (index : Nat) (line : List Char) (moved : Nat),
            (recognisedLines source)[index]? = some (line, number) ∧
              (recognisedLines other)[index]? = some (line, moved) ∧
              (compile settings other).outcome =
                .error ⟨moved, cause⟩ := by
  have same := eq_of_edited inserted fun _ _ => Inserted.recognised_eq
  rw [← map_fst_recognisedLines, ← map_fst_recognisedLines] at same
  rw [compile_eq_compileLines, compile_eq_compileLines,
    ← compileLines_recognised settings (Line.numbered source),
    ← compileLines_recognised settings (Line.numbered other)]
  exact outcome_compileLines_of_same_texts same

/-- Spacing is not seen, whatever the mode: at the ends of any line, and within
every line that is recognised and lists arguments.  Lines without a keyword can
be put in and taken out: the text stays, and a fault stays with its line. -/
theorem compile_reformatted (settings : Settings) (source other : String) :
    (∀ (line : List Char) (kind : Kind),
      (∃ parts : ArgumentLine, parts.Announces kind ∧ parts.text = line) ↔
        Line.kind? line = some kind ∧
          ∃ args, Line.arguments? line = some args) ∧
      (Relation.EqvGen Respaced source other →
        compile settings other = compile settings source) ∧
      (Relation.EqvGen Inserted source other →
        (∀ text, (compile settings source).outcome = .ok text ↔
          (compile settings other).outcome = .ok text) ∧
          ∀ number cause,
            (compile settings source).outcome = .error ⟨number, cause⟩ →
              ∃ (index : Nat) (line : List Char) (moved : Nat),
                (recognisedLines source)[index]? = some (line, number) ∧
                  (recognisedLines other)[index]? = some (line, moved) ∧
                  (compile settings other).outcome =
                    .error ⟨moved, cause⟩) := by
  refine ⟨ArgumentLine.exists_announces_iff, ?_, ?_⟩
  · intro respaced
    exact (eq_of_edited respaced fun _ _ =>
      Respaced.compile_eq settings).symm
  · intro inserted
    refine ⟨fun text => ?_, (outcome_compile_of_inserted settings inserted).2⟩
    exact ⟨(outcome_compile_of_inserted settings inserted).1 text,
      (outcome_compile_of_inserted settings inserted.symm).1 text⟩

/-- A struct whose only member stands on the given line. -/
def memberSource (ending : String) (member : List Char) : String :=
  "BEGIN_TILING_DATA_DEF(A)" ++ "\n" ++ String.ofList member ++ ending ++
    "END_TILING_DATA_DEF"

def denseMember : ArgumentLine :=
  ⟨[], "TILING_DATA_FIELD_DEF".toList, [], ['T', ',', 'x'], []⟩

/-- The same with an ideographic space before the word, a next line character
behind it, a space before the comma and a comment behind the list. -/
def looseMember : ArgumentLine :=
  ⟨['\u3000'], "TILING_DATA_FIELD_DEF".toList, ['\u0085'],
    ['T', ' ', ',', 'x'], [';', '/', '/', '(']⟩

theorem eqvGen_respaced_loose :
    Relation.EqvGen Respaced (memberSource "\n" denseMember.text)
      (memberSource "\r\n" looseMember.text) := by
  let started : ArgumentLine := { denseMember with lead := looseMember.lead }
  let spaced : ArgumentLine := { started with gap := looseMember.gap }
  let listed : ArgumentLine := { spaced with inner := looseMember.inner }
  have announces : started.Announces .scalar := by decide
  have announces_spaced : spaced.Announces .scalar := by decide
  have announces_listed : listed.Announces .scalar := by decide
  have at_start : Line.Respaced denseMember.text started.text :=
    .start denseMember.text (by decide : Text.Spacing ['\u3000'])
  have before_list : Line.Respaced started.text spaced.text :=
    @Line.Respaced.beforeList started .scalar [] [] ['\u0085'] announces rfl
      (by decide)
  have in_list : Line.Respaced spaced.text listed.text :=
    @Line.Respaced.inList spaced .scalar ['T'] [',', 'x'] [' ']
      announces_spaced rfl (.inr (.inr (.inr rfl))) (by decide)
  have behind_list : Line.Respaced listed.text looseMember.text :=
    @Line.Respaced.behindList listed .scalar [] [] [';', '/', '/', '(']
      announces_listed rfl (by decide) (by decide)
  have ended : Respaced (memberSource "\n" looseMember.text)
      (memberSource "\r\n" looseMember.text) := .lineEnd _ _
  refine .trans _ _ _ (.rel _ _
    (.between (by decide) (by decide) at_start)) ?_
  refine .trans _ _ _ (.rel _ _
    (.between (by decide) (by decide) before_list)) ?_
  refine .trans _ _ _ (.rel _ _
    (.between (by decide) (by decide) in_list)) ?_
  refine .trans _ _ _ (.rel _ _
    (.between (by decide) (by decide) behind_list)) ?_
  exact .rel _ _ ended

def strayMember : String :=
  "TILING_DATA_FIELD_DEF(T, x)"

def commentedMember : String :=
  "// TILING_DATA_FIELD_DEF(T, y)\n" ++ strayMember

theorem eqvGen_inserted_commented :
    Relation.EqvGen Inserted strayMember commentedMember := by
  have source_lines : strayMember.toList.splitOn '\n' =
      [] ++ [strayMember.toList] := by
    decide +kernel
  have other_lines : commentedMember.toList.splitOn '\n' =
      [] ++ "// TILING_DATA_FIELD_DEF(T, y)".toList :: [strayMember.toList] := by
    decide +kernel
  have unrecognised : ∀ kind : Kind, ¬ kind.Begins
      (Line.word "// TILING_DATA_FIELD_DEF(T, y)".toList) := by
    intro kind
    cases kind <;> decide +kernel
  exact .rel _ _ (.line source_lines other_lines unrecognised)

theorem compile_reformatted_loose :
    (∃ parts : ArgumentLine, parts.Announces .scalar ∧
        parts.text = strayMember.toList) ∧
      (compile {} (memberSource "\n" denseMember.text)).outcome =
        .ok (written ["#pragma pack(push, 8)", "struct A \x7b",
          "    T x = 0;", "\x7d;", "#pragma pack(pop)"]) ∧
      compile {} (memberSource "\r\n" looseMember.text) =
        compile {} (memberSource "\n" denseMember.text) ∧
      (compile {} strayMember).outcome = .error ⟨1, .memberOutside "x"⟩ ∧
      ∃ (index : Nat) (line : List Char) (moved : Nat),
        (recognisedLines strayMember)[index]? = some (line, 1) ∧
          (recognisedLines commentedMember)[index]? = some (line, moved) ∧
          (compile {} commentedMember).outcome =
            .error ⟨moved, .memberOutside "x"⟩ := by
  have dense_compiled :
      (compile {} (memberSource "\n" denseMember.text)).outcome =
        .ok (written ["#pragma pack(push, 8)", "struct A \x7b",
          "    T x = 0;", "\x7d;", "#pragma pack(pop)"]) := by
    decide +kernel
  have stray_failed : (compile {} strayMember).outcome =
      .error ⟨1, .memberOutside "x"⟩ := by
    decide +kernel
  have stray_lists : Line.kind? strayMember.toList = some .scalar ∧
      ∃ args, Line.arguments? strayMember.toList = some args :=
    ⟨by decide +kernel, ["T", "x"], by decide +kernel⟩
  exact ⟨((compile_reformatted {} strayMember commentedMember).1 _ _).mpr
      stray_lists,
    dense_compiled, (compile_reformatted {} _ _).2.1 eqvGen_respaced_loose,
    stray_failed,
    ((compile_reformatted {} _ _).2.2 eqvGen_inserted_commented).2 1 _
      stray_failed⟩

end Description

end TilingHeader
