import TilingHeader.Proofs.Layout.Building

namespace TilingHeader

/-! Directives on other lines.  What they are built into is the same; the faults
and the notices stand on the new lines. -/

def Fault.renumber (number : Nat → Nat) (fault : Fault) : Fault :=
  { fault with line := number fault.line }

def Warning.renumber (number : Nat → Nat) : Warning → Warning
  | .misspelled line word kind => .misspelled (number line) word kind
  | .surplus line kind expected extra =>
      .surplus (number line) kind expected extra
  | .nestedOpening line name => .nestedOpening (number line) name
  | .strayClosing line => .strayClosing (number line)
  | .looseMember line name => .looseMember (number line) name
  | .unclosed name => .unclosed name

def OpenStruct.renumber (number : Nat → Nat) (current : OpenStruct) :
    OpenStruct :=
  { current with line := number current.line }

namespace Reading

variable {α β : Type}

def renumber (number : Nat → Nat) (reading : Reading α) : Reading α :=
  (reading.mapNotices (Warning.renumber number)).mapFailure
    (Fault.renumber number)

@[simp] theorem outcome_renumber (number : Nat → Nat) (reading : Reading α) :
    (renumber number reading).outcome =
      reading.outcome.mapError (Fault.renumber number) := rfl

@[simp] theorem renumber_pure (number : Nat → Nat) (value : α) :
    renumber number (pure value) = pure value := rfl

theorem renumber_bind (number : Nat → Nat) (first : Reading α)
    (next : α → Reading β) :
    renumber number (first >>= next) =
      renumber number first >>= fun value => renumber number (next value) := by
  cases outcome : first.outcome with
  | error fault =>
      have renumbered : (renumber number first).outcome =
          .error (fault.renumber number) := by
        rw [outcome_renumber, outcome]
        rfl
      rw [Logged.bind_of_error outcome, Logged.bind_of_error renumbered]
      rfl
  | ok value =>
      have renumbered : (renumber number first).outcome = .ok value := by
        rw [outcome_renumber, outcome]
        rfl
      rw [Logged.bind_of_ok outcome, Logged.bind_of_ok renumbered]
      simp [renumber, Logged.mapNotices, Logged.mapFailure]

end Reading

namespace Directive

def renumber (number : Nat → Nat) (directive : Directive) : Directive :=
  { directive with line := number directive.line }

variable (number : Nat → Nat) (strict : Bool) (directive : Directive)

theorem checkWord_renumber :
    (directive.renumber number).checkWord strict =
      Reading.renumber number (directive.checkWord strict) := by
  simp only [checkWord, apply_ite (Reading.renumber number)]
  rfl

theorem checkSurplus_renumber (expected : Nat) :
    (directive.renumber number).checkSurplus strict expected =
      Reading.renumber number (directive.checkSurplus strict expected) := by
  simp only [checkSurplus, apply_ite (Reading.renumber number)]
  rfl

theorem checkEmpty_renumber :
    (directive.renumber number).checkEmpty strict =
      Reading.renumber number (directive.checkEmpty strict) := by
  simp only [checkEmpty, renumber]
  split <;> rfl

theorem interpret_renumber :
    (directive.renumber number).interpret strict =
      Reading.renumber number (directive.interpret strict) := by
  cases counted : directive.kind.arity with
  | none =>
      have closes := (Kind.arity_eq_none_iff _).mp counted
      have renumbered_closes : (directive.renumber number).kind = .closing :=
        closes
      rw [interpret_of_closing strict closes,
        interpret_of_closing strict renumbered_closes, checkWord_renumber,
        Reading.renumber_bind]
      rfl
  | some expected =>
      have renumbered_counted :
          (directive.renumber number).kind.arity = some expected := counted
      have event_eq : (directive.renumber number).event? = directive.event? :=
        rfl
      rw [interpret_of_arity strict counted,
        interpret_of_arity strict renumbered_counted, checkWord_renumber,
        Reading.renumber_bind, event_eq]
      cases directive.event? with
      | none => rfl
      | some event =>
          simp only [checkSurplus_renumber, checkEmpty_renumber,
            Reading.renumber_bind, Reading.renumber_pure]

end Directive

namespace Fragment

theorem finish_renumber (number : Nat → Nat) (settings : Settings)
    (current : Option OpenStruct) :
    finish settings (current.map (OpenStruct.renumber number)) =
      Reading.renumber number (finish settings current) := by
  cases current with
  | none => rfl
  | some current =>
      rw [Option.map_some, finish, finish]
      split <;> rfl

theorem step_renumber (number : Nat → Nat) (settings : Settings) (line : Nat)
    (current : Option OpenStruct) (event : Event) :
    step settings (number line) (current.map (OpenStruct.renumber number))
        event =
      Reading.renumber number (step settings line current event) >>=
        fun stepped =>
          pure (stepped.1, stepped.2.map (OpenStruct.renumber number)) := by
  cases event with
  | opening name =>
      cases current with
      | none => rfl
      | some current =>
          simp only [Option.map_some, step]
          cases settings.strict <;> rfl
  | member member =>
      cases current with
      | none =>
          simp only [Option.map_none, step]
          cases settings.strict <;> rfl
      | some current => rfl
  | closing =>
      cases current with
      | none =>
          simp only [Option.map_none, step]
          cases settings.strict <;> rfl
      | some current => rfl

theorem buildFrom_renumber (number : Nat → Nat) (settings : Settings)
    (current : Option OpenStruct) (directives : List Directive) :
    buildFrom settings (current.map (OpenStruct.renumber number))
        (directives.map (Directive.renumber number)) =
      Reading.renumber number (buildFrom settings current directives) := by
  induction directives generalizing current with
  | nil => exact finish_renumber number settings current
  | cons directive rest induction =>
      rw [List.map_cons, buildFrom_cons, buildFrom_cons,
        Directive.interpret_renumber, Reading.renumber_bind]
      congr 1
      funext event
      have stepped := step_renumber number settings directive.line current event
      rw [Directive.renumber, stepped, Logged.bind_assoc, Reading.renumber_bind]
      congr 1
      funext stepped
      rw [Logged.pure_bind, induction, Reading.renumber_bind]
      rfl

theorem build_renumber (number : Nat → Nat) (settings : Settings)
    (directives : List Directive) :
    build settings (directives.map (Directive.renumber number)) =
      Reading.renumber number (build settings directives) :=
  buildFrom_renumber number settings none directives

end Fragment

end TilingHeader
