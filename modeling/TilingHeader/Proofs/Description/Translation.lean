import TilingHeader.Proofs.Description.Agreement
import TilingHeader.Proofs.Description.Lines
import TilingHeader.Proofs.Layout.Written

namespace TilingHeader

/-! Tolerant reading is a translation of lines.  Once no line is at fault, each
one gives its part of the text by itself, whatever struct is open. -/

namespace Line

/-- The fault of a line whose list is shorter than its kind asks. -/
def shortFault? (line : List Char × Nat) : Option Fault :=
  match kind? line.1, arguments? line.1 with
  | some kind, some args =>
      match kind.arity with
      | some expected =>
          if args.length < expected then
            some ⟨line.2, .wrongCount kind expected args.length⟩
          else none
      | none => none
  | _, _ => none

/-- The lines of text that a line gives. -/
def output (packAlignment : Nat) (line : List Char) : List String :=
  match kind? line, (arguments? line).getD [] with
  | some .opening, name :: _ =>
      ["#pragma pack(push, " ++ packAlignment.repr ++ ")",
        "struct " ++ name ++ " \x7b"]
  | some .scalar, type :: name :: _ =>
      ["    " ++ type ++ " " ++ name ++ " = 0;"]
  | some .array, type :: length :: name :: _ =>
      ["    " ++ type ++ " " ++ name ++ "[" ++ length ++ "] = \x7b\x7d;"]
  | some .nested, type :: name :: _ => ["    " ++ type ++ " " ++ name ++ ";"]
  | some .closing, _ => ["\x7d;", "#pragma pack(pop)"]
  | _, _ => []

theorem shortage?_directive? {line : List Char × Nat}
    (listed : bareFault? line = none) :
    (directive? line).bind Directive.shortage? = shortFault? line := by
  unfold directive? shortFault?
  cases recognised : kind? line.1 with
  | none => rfl
  | some kind =>
      cases listing : arguments? line.1 with
      | some args => cases kind <;> rfl
      | none =>
          have closes : kind = .closing := by
            simpa [bareFault?, recognised, listing] using listed
          subst closes
          rfl

theorem output_eq (packAlignment : Nat) (line : List Char × Nat) :
    output packAlignment line.1 =
      (((directive? line).bind Directive.event?).map
        (Event.lines packAlignment)).getD [] := by
  unfold output directive? Directive.event?
  cases kind? line.1 with
  | none => rfl
  | some kind =>
      cases kind <;>
        rcases (arguments? line.1).getD [] with
          _ | ⟨first, _ | ⟨second, _ | ⟨third, rest⟩⟩⟩ <;> rfl

theorem findSome?_shortage? {lines : List (List Char × Nat)}
    (listed : lines.findSome? bareFault? = none) :
    (lines.filterMap directive?).findSome? Directive.shortage? =
      lines.findSome? shortFault? := by
  induction lines with
  | nil => rfl
  | cons line rest induction =>
      have line_listed : bareFault? line = none :=
        List.findSome?_eq_none_iff.mp listed line List.mem_cons_self
      rw [List.findSome?_cons, line_listed] at listed
      rw [List.findSome?_cons, ← shortage?_directive? line_listed,
        ← induction listed, List.filterMap_cons]
      cases directive? line <;> rfl

theorem flatMap_output (packAlignment : Nat)
    (lines : List (List Char × Nat)) :
    ((lines.filterMap directive?).filterMap Directive.event?).flatMap
        (Event.lines packAlignment) =
      (lines.map Prod.fst).flatMap (output packAlignment) := by
  rw [List.filterMap_filterMap]
  induction lines with
  | nil => rfl
  | cons line rest induction =>
      rw [List.map_cons, List.flatMap_cons, output_eq, ← induction,
        List.filterMap_cons]
      cases (directive? line).bind Directive.event? <;> rfl

end Line

namespace Description

/-- Missing lists of arguments come before short ones. -/
def translate (packAlignment : Nat) (source : String) : Except Fault String :=
  match (Line.numbered source).findSome? Line.bareFault? with
  | some fault => .error fault
  | none =>
      match (Line.numbered source).findSome? Line.shortFault? with
      | some fault => .error fault
      | none =>
          .ok (written ((source.toList.splitOn '\n').flatMap
            (Line.output packAlignment)))

theorem compile_eq_translate {settings : Settings}
    (tolerant : settings.strict = false) (source : String) :
    (compile settings source).outcome =
      translate settings.packAlignment source := by
  have scanned := Directive.scan_eq source
  unfold translate
  cases listed : (Line.numbered source).findSome? Line.bareFault? with
  | some fault =>
      rw [listed] at scanned
      rw [compile_of_scan_error settings scanned]
      rfl
  | none =>
      rw [listed] at scanned
      have built := Fragment.outcome_buildFrom_tolerant tolerant none
        ((Line.numbered source).filterMap Line.directive?)
      rw [Line.findSome?_shortage? listed] at built
      rw [compile_of_scan_ok settings scanned, Logged.outcome_bind,
        Fragment.build, built]
      cases (Line.numbered source).findSome? Line.shortFault? with
      | some fault => rfl
      | none =>
          rw [← Line.map_fst_numbered, ← Line.flatMap_output,
            ← Fragment.layoutText_arrange]
          rfl

theorem compile_eq_translate_nested :
    ({ strict := false } : Settings).strict = false ∧
      (compile { strict := false } (written
          ["BEGIN_TILING_DATA_DEF(A)", "BEGIN_TILING_DATA_DEF(B)",
            "TILING_DATA_FIELD_DEF_ARR(T, 4, x)", "END_TILING_DATA_DEF",
            "TILING_DATA_FIELD_DEF(T, y)"])).outcome =
        .ok (written
          ["#pragma pack(push, 8)", "struct A \x7b", "#pragma pack(push, 8)",
            "struct B \x7b", "    T x[4] = \x7b\x7d;", "\x7d;",
            "#pragma pack(pop)", "    T y = 0;"]) :=
  ⟨rfl, (compile_eq_translate rfl _).trans (by decide +kernel)⟩

end Description

end TilingHeader
