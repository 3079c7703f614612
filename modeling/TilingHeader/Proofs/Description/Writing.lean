import TilingHeader.Proofs.Description.Lines
import TilingHeader.Proofs.Layout.Building

namespace TilingHeader

/-! Lines that write events.  A scan whose directives are spelled out and filled
stands for recognised lines each of which writes its event. -/

namespace Line

def recognised (source : String) : List (List Char) :=
  (source.toList.splitOn '\n').filter fun line => (kind? line).isSome

/-- What the line lists is free only if the event is a closing one. -/
structure Writes (line : List Char) (event : Event) : Prop where
  kind_eq : kind? line = some event.kind
  word_eq : String.ofList (word line) = event.kind.keyword
  arguments_eq : event.kind ≠ .closing →
    arguments? line = some event.arguments ∧ "" ∉ event.arguments

/-- The line has the word and the arguments that its kind asks for. -/
structure Proper (line : List Char) (kind : Kind) : Prop where
  word_eq : String.ofList (word line) = kind.keyword
  arguments_fit : ∀ expected, kind.arity = some expected →
    ∃ args, arguments? line = some args ∧ args.length = expected ∧ "" ∉ args

theorem Writes.proper {line : List Char} {event : Event}
    (writes : Writes line event) : Proper line event.kind := by
  refine ⟨writes.word_eq, fun expected counted => ?_⟩
  obtain ⟨listed, filled⟩ :=
    writes.arguments_eq (Kind.ne_closing_of_arity counted)
  exact ⟨event.arguments, listed, Event.length_arguments counted, filled⟩

theorem Proper.exists_writes {line : List Char} {kind : Kind}
    (known : kind? line = some kind) (proper : Proper line kind) :
    ∃ event, Writes line event := by
  cases counted : kind.arity with
  | none =>
      have closes := (Kind.arity_eq_none_iff kind).mp counted
      subst closes
      exact ⟨.closing, known, proper.word_eq, fun opens => absurd rfl opens⟩
  | some expected =>
      obtain ⟨args, listed, length_eq, filled⟩ :=
        proper.arguments_fit expected counted
      cases understood : kind.event? args with
      | none =>
          obtain ⟨least, counted_least, few⟩ :=
            (Kind.event?_eq_none_iff kind args).mp understood
          have least_eq : expected = least :=
            Option.some.inj (counted.symm.trans counted_least)
          omega
      | some event =>
          obtain ⟨rfl, leading⟩ :=
            (Kind.event?_eq_some_iff kind args event).mp understood
          have length_le : args.length ≤ event.arguments.length := by
            rw [Event.length_arguments counted, length_eq]
          have args_eq := leading.eq_of_length_le length_le
          subst args_eq
          exact ⟨event, known, proper.word_eq, fun _ => ⟨listed, filled⟩⟩

theorem kinds_of_writes {lines : List (List Char)} {steps : List Event}
    (writes : List.Forall₂ Writes lines steps) :
    lines.filterMap kind? = steps.map Event.kind := by
  induction writes with
  | nil => rfl
  | cons line_writes _ induction =>
      rw [List.filterMap_cons_some line_writes.kind_eq, induction,
        List.map_cons]

theorem exists_writes_iff {lines : List (List Char)}
    (known : ∀ line ∈ lines, (kind? line).isSome) :
    (∃ steps, List.Forall₂ Writes lines steps) ↔
      ∀ line ∈ lines, ∀ kind ∈ kind? line, Proper line kind := by
  induction lines with
  | nil => exact ⟨fun _ => nofun, fun _ => ⟨[], .nil⟩⟩
  | cons line rest induction =>
      obtain ⟨line_known, rest_known⟩ := List.forall_mem_cons.mp known
      obtain ⟨kind, kind_eq⟩ := Option.isSome_iff_exists.mp line_known
      rw [List.forall_mem_cons, ← induction rest_known]
      constructor
      · rintro ⟨_, _ | ⟨line_writes, rest_writes⟩⟩
        refine ⟨fun found found_eq => ?_, _, rest_writes⟩
        obtain rfl := Option.some.inj (found_eq.symm.trans line_writes.kind_eq)
        exact line_writes.proper
      · intro proper_lines
        obtain ⟨proper, steps, rest_writes⟩ := proper_lines
        obtain ⟨event, line_writes⟩ :=
          (proper kind kind_eq).exists_writes kind_eq
        exact ⟨event :: steps, .cons line_writes rest_writes⟩

theorem kind_known_of_recognised (source : String) :
    ∀ line ∈ recognised source, (kind? line).isSome :=
  fun _ listed => (List.mem_filter.mp listed).2

theorem bareFault?_eq_none_iff {line : List Char × Nat} {kind : Kind}
    (known : kind? line.1 = some kind) :
    bareFault? line = none ↔
      (kind ≠ .closing → ∃ args, arguments? line.1 = some args) := by
  cases listing : arguments? line.1 <;> simp [bareFault?, known, listing]

/-- A line writes an event exactly if its directive spells the event and no
argument is missing or empty. -/
theorem writes_iff {line : List Char × Nat} {directive : Directive}
    (read : directive? line = some directive) (event : Event) :
    Writes line.1 event ↔
      bareFault? line = none ∧ directive.Filled ∧ directive.Spells event := by
  obtain ⟨kind, known, rfl⟩ := Option.map_eq_some_iff.mp read
  rw [bareFault?_eq_none_iff known]
  constructor
  · intro writes
    have kind_eq : kind = event.kind :=
      Option.some.inj (known.symm.trans writes.kind_eq)
    subst kind_eq
    have args_eq (opens : event.kind ≠ .closing) :
        (arguments? line.1).getD [] = event.arguments :=
      congrArg (·.getD []) (writes.arguments_eq opens).1
    refine ⟨fun opens => ⟨_, (writes.arguments_eq opens).1⟩, ?_, ?_⟩
    · intro opens
      rw [args_eq opens]
      exact (writes.arguments_eq opens).2
    · exact ⟨rfl, writes.word_eq, args_eq⟩
  · intro read
    obtain ⟨listed, filled, spells⟩ := read
    have kind_eq : kind = event.kind := spells.kind_eq
    subst kind_eq
    refine ⟨known, spells.word_eq, fun opens => ?_⟩
    obtain ⟨args, listing⟩ := listed opens
    have args_eq : args = event.arguments := by
      simpa only [listing, Option.getD_some] using spells.args_eq opens
    subst args_eq
    exact ⟨listing, spells.filled_iff.mp filled⟩

/-- Lines that are not recognised leave nothing behind. -/
theorem forall₂_writes_iff (lines : List (List Char × Nat))
    (steps : List Event) :
    List.Forall₂ Writes
        ((lines.map Prod.fst).filter fun line => (kind? line).isSome) steps ↔
      lines.findSome? bareFault? = none ∧
        (∀ directive ∈ lines.filterMap directive?, directive.Filled) ∧
        List.Forall₂ Directive.Spells (lines.filterMap directive?) steps := by
  induction lines generalizing steps with
  | nil => simp
  | cons line rest induction =>
      rw [List.map_cons, List.findSome?_cons]
      cases read : directive? line with
      | none =>
          have unknown : kind? line.1 = none := Option.map_eq_none_iff.mp read
          have passed : bareFault? line = none := by
            simp only [bareFault?, unknown]
          rw [List.filter_cons_of_neg (by simp [unknown]), passed,
            List.filterMap_cons_none read, induction]
      | some directive =>
          obtain ⟨kind, known, _⟩ := Option.map_eq_some_iff.mp read
          rw [List.filter_cons_of_pos (by simp [known]),
            List.filterMap_cons_some read]
          constructor
          · rintro (_ | ⟨writes, matched⟩)
            obtain ⟨listed, filled, spells⟩ := (writes_iff read _).mp writes
            obtain ⟨rest_listed, rest_filled, rest_spells⟩ :=
              (induction _).mp matched
            rw [listed]
            exact ⟨rest_listed, List.forall_mem_cons.mpr ⟨filled, rest_filled⟩,
              .cons spells rest_spells⟩
          · intro read
            obtain ⟨listed, filled, spells⟩ := read
            cases spells with
            | cons spelled rest_spells =>
                obtain ⟨line_filled, rest_filled⟩ :=
                  List.forall_mem_cons.mp filled
                cases passed : bareFault? line with
                | some fault => simp [passed] at listed
                | none =>
                    rw [passed] at listed
                    exact .cons
                      ((writes_iff read _).mpr ⟨passed, line_filled, spelled⟩)
                      ((induction _).mpr ⟨listed, rest_filled, rest_spells⟩)

/-- The directives of a source are spelled out and filled exactly if its
recognised lines write their events. -/
theorem forall₂_writes_recognised_iff (source : String) (steps : List Event) :
    List.Forall₂ Writes (recognised source) steps ↔
      ∃ directives, Directive.scan source = .ok directives ∧
        (∀ directive ∈ directives, directive.Filled) ∧
        List.Forall₂ Directive.Spells directives steps := by
  rw [recognised, ← map_fst_numbered, forall₂_writes_iff, Directive.scan_eq]
  cases (numbered source).findSome? bareFault? <;> simp

end Line

end TilingHeader
