import TilingHeader.Proofs.Description.NumberedLines

namespace TilingHeader

/-! Descriptions one behind the other.  Where the first compiles and ends with a
line, the text of both is the text of each, and a fault of the second is found
further down by the lines of the first. -/

namespace Line

theorem exists_numbered_append {first : String}
    (ended : first = "" ∨ first.toList.getLast? = some '\n') (second : String) :
    ∃ lines,
      numbered first = lines ++ [([], first.toList.count '\n' + 1)] ∧
        numbered (first ++ second) =
          lines ++ (numbered second).map
            (Prod.map id (· + first.toList.count '\n')) := by
  rcases ended with rfl | ended
  · refine ⟨[], rfl, ?_⟩
    rw [String.empty_append, List.nil_append]
    exact (List.map_id _).symm
  · obtain ⟨before, first_eq⟩ := List.getLast?_eq_some_iff.mp ended
    have count_eq : first.toList.count '\n' = (before.splitOn '\n').length := by
      rw [first_eq, List.count_append, Text.length_splitOn]
      rfl
    refine ⟨(before.splitOn '\n').zipIdx 1, ?_, ?_⟩
    · rw [count_eq, numbered, first_eq, List.splitOn_append_cons_self,
        List.splitOn_nil, List.zipIdx_append, Nat.add_comm 1]
      rfl
    · rw [count_eq, numbered, numbered, String.toList_append, first_eq,
        List.append_assoc, List.singleton_append,
        List.splitOn_append_cons_self, List.zipIdx_append,
        List.map_snd_add_zipIdx_eq_zipIdx, Nat.add_comm 1]

end Line

namespace Description

variable {settings : Settings} {first : String}

/-- A source that ends with a line splits off from what follows it. -/
theorem exists_compileLines_append (settings : Settings)
    (ended : first = "" ∨ first.toList.getLast? = some '\n') (second : String) :
    ∃ lines,
      compile settings first = compileLines settings lines ∧
        compile settings (first ++ second) =
          compileLines settings (lines ++ (Line.numbered second).map
            (Prod.map id (· + first.toList.count '\n'))) := by
  obtain ⟨lines, first_lines, both_lines⟩ :=
    Line.exists_numbered_append ended second
  have unrecognised : Line.kind? [] = none := by decide
  refine ⟨lines, ?_, ?_⟩
  · rw [compile_eq_compileLines, first_lines]
    exact compileLines_concat_of_kind_none settings lines unrecognised
  · rw [compile_eq_compileLines, both_lines]

theorem outcome_compile_append
    (ended : first = "" ∨ first.toList.getLast? = some '\n') {text : String}
    (compiled : (compile settings first).outcome = .ok text)
    (second : String) :
    (compile settings (first ++ second)).outcome =
      ((compile settings second).outcome.mapError
        (Fault.renumber (· + first.toList.count '\n'))).map (text ++ ·) := by
  obtain ⟨lines, first_eq, both_eq⟩ :=
    exists_compileLines_append settings ended second
  rw [first_eq] at compiled
  rw [both_eq, outcome_compileLines_append compiled, compileLines_renumber,
    Reading.outcome_renumber, compile_eq_compileLines settings second]

theorem compile_parts_of_append (tolerant : settings.strict = false)
    (ended : first = "" ∨ first.toList.getLast? = some '\n')
    {second text : String}
    (compiled : (compile settings (first ++ second)).outcome = .ok text) :
    (∃ part, (compile settings first).outcome = .ok part) ∧
      ∃ part, (compile settings second).outcome = .ok part := by
  obtain ⟨lines, first_eq, both_eq⟩ :=
    exists_compileLines_append settings ended second
  rw [both_eq] at compiled
  obtain ⟨listed, enough⟩ :=
    (exists_text_iff_of_tolerant tolerant _).mp ⟨text, compiled⟩
  obtain ⟨first_listed, _⟩ := List.forall_mem_append.mp listed
  obtain ⟨first_enough, _⟩ := List.forall_mem_append.mp enough
  obtain ⟨part, part_compiled⟩ :=
    (exists_text_iff_of_tolerant tolerant lines).mpr
      ⟨first_listed, first_enough⟩
  rw [← first_eq] at part_compiled
  refine ⟨⟨part, part_compiled⟩, ?_⟩
  have joined := outcome_compile_append ended part_compiled second
  rw [both_eq, compiled] at joined
  cases outcome : (compile settings second).outcome with
  | ok rest => exact ⟨rest, rfl⟩
  | error fault =>
      rw [outcome] at joined
      cases joined

/-- Behind a source that compiles, another one gives what it gives by itself,
further down.  Tolerant reading of the two together needs both. -/
theorem compile_append (settings : Settings) {first : String}
    (ended : first = "" ∨ first.toList.getLast? = some '\n') (second : String) :
    (∀ text, (compile settings first).outcome = .ok text →
      (∀ rest, (compile settings second).outcome = .ok rest →
        (compile settings (first ++ second)).outcome = .ok (text ++ rest)) ∧
      ∀ line cause,
        (compile settings second).outcome = .error ⟨line, cause⟩ →
          (compile settings (first ++ second)).outcome =
            .error ⟨line + first.toList.count '\n', cause⟩) ∧
      (settings.strict = false →
        ∀ text, (compile settings (first ++ second)).outcome = .ok text →
          (∃ part, (compile settings first).outcome = .ok part) ∧
            ∃ part, (compile settings second).outcome = .ok part) := by
  constructor
  · intro text compiled
    have joined := outcome_compile_append ended compiled second
    constructor
    · intro rest rest_compiled
      rw [joined, rest_compiled]
      rfl
    · intro line cause failed
      rw [joined, failed]
      rfl
  · intro tolerant text compiled
    exact compile_parts_of_append tolerant ended compiled

/-- A source that leaves its struct open. -/
def openSource : String :=
  written ["BEGIN_TILING_DATA_DEF(A)", "TILING_DATA_FIELD_DEF(T, x)"]

/-- A source that begins inside a struct. -/
def restSource : String :=
  written ["TILING_DATA_FIELD_DEF(T, y)", "END_TILING_DATA_DEF"]

theorem compile_append_carried :
    openSource.toList.getLast? = some '\n' ∧
      (compile { strict := false } openSource).outcome =
        .ok (written
          ["#pragma pack(push, 8)", "struct A \x7b", "    T x = 0;"]) ∧
      (compile { strict := false } restSource).outcome =
        .ok (written ["    T y = 0;", "\x7d;", "#pragma pack(pop)"]) ∧
      (compile { strict := false } (openSource ++ restSource)).outcome =
        .ok (written
            ["#pragma pack(push, 8)", "struct A \x7b", "    T x = 0;"] ++
          written ["    T y = 0;", "\x7d;", "#pragma pack(pop)"]) := by
  have ended : openSource.toList.getLast? = some '\n' := by decide
  have open_compiled : (compile { strict := false } openSource).outcome =
      .ok (written
        ["#pragma pack(push, 8)", "struct A \x7b", "    T x = 0;"]) := by
    decide +kernel
  have rest_compiled : (compile { strict := false } restSource).outcome =
      .ok (written ["    T y = 0;", "\x7d;", "#pragma pack(pop)"]) := by
    decide +kernel
  have appended := compile_append { strict := false } (.inr ended) restSource
  exact ⟨ended, open_compiled, rest_compiled,
    (appended.1 _ open_compiled).1 _ rest_compiled⟩

end Description

end TilingHeader
