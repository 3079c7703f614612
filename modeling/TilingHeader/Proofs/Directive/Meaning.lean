import TilingHeader.Layout.Build
import TilingHeader.Proofs.Logged

namespace TilingHeader

/-! What a directive says as an event, and how an event is spelled again.
Tolerant reading asks that a directive means an event; strict reading asks that
it spells one, and that no text of the event is empty. -/

namespace Event

def kind : Event → Kind
  | .opening _ => .opening
  | .member (.scalar _ _) => .scalar
  | .member (.array _ _ _) => .array
  | .member (.nested _ _) => .nested
  | .closing => .closing

/-- The texts of an event, in the order in which a directive lists them. -/
def arguments : Event → List String
  | .opening name => [name]
  | .member (.scalar type name) => [type, name]
  | .member (.array type length name) => [type, length, name]
  | .member (.nested type name) => [type, name]
  | .closing => []

theorem kind_eq_closing_iff (event : Event) :
    event.kind = .closing ↔ event = .closing := by
  cases event with
  | opening name => simp [kind]
  | member member => cases member <;> simp [kind]
  | closing => simp [kind]

theorem length_arguments {event : Event} {expected : Nat}
    (counted : event.kind.arity = some expected) :
    event.arguments.length = expected := by
  cases event with
  | opening name => exact Option.some.inj counted
  | member member => cases member <;> exact Option.some.inj counted
  | closing => cases counted

end Event

namespace Kind

theorem arity_eq_none_iff (kind : Kind) :
    kind.arity = none ↔ kind = .closing := by
  cases kind <;> simp [arity]

theorem ne_closing_of_arity {kind : Kind} {expected : Nat}
    (counted : kind.arity = some expected) : kind ≠ .closing := by
  intro closes
  rw [closes] at counted
  cases counted

theorem event?_eq_some_iff (kind : Kind) (args : List String) (event : Event) :
    kind.event? args = some event ↔
      kind = event.kind ∧ event.arguments <+: args := by
  constructor
  · intro understood
    fun_cases event? kind args <;>
      simp only [event?, Option.some.injEq, reduceCtorEq] at understood
    all_goals subst understood; simp [Event.kind, Event.arguments]
  · rintro ⟨rfl, rest, rfl⟩
    cases event with
    | opening name => rfl
    | member member => cases member <;> rfl
    | closing => cases rest <;> rfl

theorem event?_eq_none_iff (kind : Kind) (args : List String) :
    kind.event? args = none ↔
      ∃ expected, kind.arity = some expected ∧ args.length < expected := by
  cases kind <;>
    rcases args with _ | ⟨first, _ | ⟨second, _ | ⟨third, rest⟩⟩⟩ <;>
      simp [event?, arity]

end Kind

namespace Directive

def event? (directive : Directive) : Option Event :=
  directive.kind.event? directive.args

/-- The directive is of the event's kind, and its first arguments are the
event's texts. -/
structure Means (directive : Directive) (event : Event) : Prop where
  kind_eq : directive.kind = event.kind
  arguments_prefix : event.arguments <+: directive.args

/-- The directive is the event written out: its word is the keyword, and it
has no argument that the event has not.  What a closing one lists is free. -/
structure Spells (directive : Directive) (event : Event) : Prop where
  kind_eq : directive.kind = event.kind
  word_eq : directive.word = event.kind.keyword
  args_eq : event.kind ≠ .closing → directive.args = event.arguments

/-- No argument that is used is empty. -/
def Filled (directive : Directive) : Prop :=
  directive.kind ≠ .closing → "" ∉ directive.args

theorem event?_eq_some_iff (directive : Directive) (event : Event) :
    directive.event? = some event ↔ directive.Means event := by
  rw [event?, Kind.event?_eq_some_iff]
  exact ⟨fun both => ⟨both.1, both.2⟩, fun means => ⟨means.1, means.2⟩⟩

theorem Spells.means {directive : Directive} {event : Event}
    (spells : directive.Spells event) : directive.Means event := by
  refine ⟨spells.kind_eq, ?_⟩
  by_cases closes : event.kind = .closing
  · rw [(event.kind_eq_closing_iff).mp closes]
    exact List.nil_prefix
  · exact spells.args_eq closes ▸ List.prefix_rfl

theorem Spells.filled_iff {directive : Directive} {event : Event}
    (spells : directive.Spells event) :
    directive.Filled ↔ "" ∉ event.arguments := by
  by_cases closes : event.kind = .closing
  · have event_eq := event.kind_eq_closing_iff.mp closes
    subst event_eq
    simp [Filled, spells.kind_eq, Event.kind, Event.arguments]
  · simp [Filled, spells.kind_eq, closes, spells.args_eq closes]

/-- The fault of a directive that has too few arguments. -/
def shortage? (directive : Directive) : Option Fault := do
  let expected ← directive.kind.arity
  if directive.args.length < expected then
    some ⟨directive.line,
      .wrongCount directive.kind expected directive.args.length⟩
  else none

/-- The warning about a word that is not the keyword. -/
def wordWarning? (directive : Directive) : Option Warning :=
  if directive.word = directive.kind.keyword then none
  else some (.misspelled directive.line directive.word directive.kind)

/-- The warning about arguments that are too many. -/
def surplusWarning? (directive : Directive) : Option Warning :=
  match directive.kind.arity with
  | none => none
  | some expected =>
      if directive.args.length ≤ expected then none
      else
        some (.surplus directive.line directive.kind expected
          (directive.args.length - expected))

theorem shortage?_eq_none_of_event {directive : Directive} {event : Event}
    (understood : directive.event? = some event) :
    directive.shortage? = none := by
  cases counted : directive.kind.arity with
  | none => simp [shortage?, counted]
  | some expected =>
      have enough : ¬ directive.args.length < expected := by
        intro few
        have refused : directive.event? = none :=
          (Kind.event?_eq_none_iff _ _).mpr ⟨expected, counted, few⟩
        rw [understood] at refused
        cases refused
      simp [shortage?, counted, enough]

theorem event?_eq_none_of_shortage {directive : Directive} {fault : Fault}
    (short : directive.shortage? = some fault) :
    directive.event? = none := by
  cases understood : directive.event? with
  | none => rfl
  | some event =>
      rw [shortage?_eq_none_of_event understood] at short
      cases short

theorem shortage?_of_event?_eq_none {directive : Directive}
    (refused : directive.event? = none) :
    ∃ expected, directive.kind.arity = some expected ∧
      directive.shortage? = some ⟨directive.line,
        .wrongCount directive.kind expected directive.args.length⟩ := by
  obtain ⟨expected, counted, few⟩ := (Kind.event?_eq_none_iff _ _).mp refused
  exact ⟨expected, counted, by simp [shortage?, counted, few]⟩

theorem exists_event_of_shortage?_eq_none {directive : Directive}
    (enough : directive.shortage? = none) :
    ∃ event, directive.event? = some event := by
  cases understood : directive.event? with
  | some event => exact ⟨event, rfl⟩
  | none =>
      obtain ⟨expected, _, short⟩ := shortage?_of_event?_eq_none understood
      rw [enough] at short
      cases short

@[simp] theorem outcome_checkWord_tolerant (directive : Directive) :
    (directive.checkWord false).outcome = .ok () := by
  unfold checkWord
  split <;> rfl

@[simp] theorem outcome_checkSurplus_tolerant (directive : Directive)
    (expected : Nat) :
    (directive.checkSurplus false expected).outcome = .ok () := by
  unfold checkSurplus
  split <;> rfl

@[simp] theorem checkEmpty_tolerant (directive : Directive) :
    directive.checkEmpty false = pure () := rfl

theorem checkWord_eq_pure_iff (strict : Bool) (directive : Directive) :
    directive.checkWord strict = pure () ↔
      directive.word = directive.kind.keyword := by
  cases strict <;> simp [checkWord]

theorem checkSurplus_eq_pure_iff (strict : Bool) (directive : Directive)
    (expected : Nat) :
    directive.checkSurplus strict expected = pure () ↔
      directive.args.length ≤ expected := by
  cases strict <;> simp [checkSurplus]

theorem emptyPosition?_eq_none_iff (args : List String) :
    emptyPosition? args = none ↔ "" ∉ args := by
  have found_iff : (∀ text, text ∈ args → ¬text = "") ↔ "" ∉ args :=
    ⟨fun none_empty listed => none_empty "" listed rfl,
      fun unlisted text listed empty => unlisted (empty ▸ listed)⟩
  simpa [emptyPosition?] using found_iff

theorem checkEmpty_eq_pure_iff (strict : Bool) (directive : Directive) :
    directive.checkEmpty strict = pure () ↔
      (strict = true → "" ∉ directive.args) := by
  rw [← emptyPosition?_eq_none_iff]
  cases strict <;> cases found : emptyPosition? directive.args <;>
    simp [checkEmpty, found]

theorem interpret_of_closing (strict : Bool) {directive : Directive}
    (closes : directive.kind = .closing) :
    directive.interpret strict =
      directive.checkWord strict >>= fun _ => pure .closing := by
  simp [interpret, closes, Kind.arity]

theorem interpret_of_arity (strict : Bool) {directive : Directive}
    {expected : Nat} (counted : directive.kind.arity = some expected) :
    directive.interpret strict =
      directive.checkWord strict >>= fun _ =>
        match directive.event? with
        | none => .fail ⟨directive.line,
            .wrongCount directive.kind expected directive.args.length⟩
        | some event =>
            directive.checkSurplus strict expected >>= fun _ =>
              directive.checkEmpty strict >>= fun _ => pure event := by
  unfold interpret
  rw [counted]
  rfl

theorem event?_of_closing {directive : Directive}
    (closes : directive.kind = .closing) :
    directive.event? = some .closing :=
  (Kind.event?_eq_some_iff _ _ _).mpr ⟨closes, List.nil_prefix⟩

theorem notices_checkWord_tolerant (directive : Directive) :
    (directive.checkWord false).notices = directive.wordWarning?.toList := by
  unfold checkWord wordWarning?
  split <;> rfl

theorem notices_checkSurplus_tolerant {directive : Directive} {expected : Nat}
    (counted : directive.kind.arity = some expected) :
    (directive.checkSurplus false expected).notices =
      directive.surplusWarning?.toList := by
  simp only [checkSurplus, surplusWarning?, counted]
  split <;> rfl

/-- Tolerant reading of a directive, with the warnings that it gives. -/
theorem interpret_tolerant_of_event {directive : Directive} {event : Event}
    (understood : directive.event? = some event) :
    directive.interpret false =
      ⟨directive.wordWarning?.toList ++ directive.surplusWarning?.toList,
        .ok event⟩ := by
  cases counted : directive.kind.arity with
  | none =>
      have closes := (Kind.arity_eq_none_iff _).mp counted
      rw [event?_of_closing closes] at understood
      cases understood
      rw [interpret_of_closing false closes,
        Logged.bind_of_ok directive.outcome_checkWord_tolerant,
        notices_checkWord_tolerant, surplusWarning?, counted]
      rfl
  | some expected =>
      rw [interpret_of_arity false counted, understood,
        Logged.bind_of_ok directive.outcome_checkWord_tolerant]
      dsimp only
      rw [Logged.bind_of_ok (directive.outcome_checkSurplus_tolerant expected),
        checkEmpty_tolerant, Logged.pure_bind, notices_checkWord_tolerant,
        notices_checkSurplus_tolerant counted, Logged.notices_pure,
        Logged.outcome_pure, List.append_nil]

theorem interpret_tolerant_of_shortage {directive : Directive} {fault : Fault}
    (short : directive.shortage? = some fault) :
    directive.interpret false =
      ⟨directive.wordWarning?.toList, .error fault⟩ := by
  have refused := event?_eq_none_of_shortage short
  obtain ⟨expected, counted, shortage⟩ := shortage?_of_event?_eq_none refused
  rw [shortage] at short
  cases short
  rw [interpret_of_arity false counted, refused,
    Logged.bind_of_ok directive.outcome_checkWord_tolerant,
    notices_checkWord_tolerant]
  dsimp only
  rw [Logged.notices_fail, Logged.outcome_fail, List.append_nil]

theorem outcome_interpret_of_event {directive : Directive} {event : Event}
    (understood : directive.event? = some event) :
    (directive.interpret false).outcome = .ok event := by
  rw [interpret_tolerant_of_event understood]

theorem outcome_interpret_of_shortage {directive : Directive} {fault : Fault}
    (short : directive.shortage? = some fault) :
    (directive.interpret false).outcome = .error fault := by
  rw [interpret_tolerant_of_shortage short]

theorem Means.spells_of_length_le {directive : Directive} {event : Event}
    {expected : Nat} (means : directive.Means event)
    (spelled : directive.word = directive.kind.keyword)
    (counted : directive.kind.arity = some expected)
    (enough : directive.args.length ≤ expected) :
    directive.Spells event := by
  refine ⟨means.kind_eq, means.kind_eq ▸ spelled, fun _ => ?_⟩
  have length_eq : event.arguments.length = expected :=
    Event.length_arguments (means.kind_eq ▸ counted)
  have length_le : directive.args.length ≤ event.arguments.length := by omega
  exact (means.arguments_prefix.eq_of_length_le length_le).symm

theorem Spells.length_args {directive : Directive} {event : Event}
    {expected : Nat} (spells : directive.Spells event)
    (counted : directive.kind.arity = some expected) :
    directive.args.length = expected := by
  have counted_event : event.kind.arity = some expected :=
    spells.kind_eq ▸ counted
  rw [spells.args_eq (Kind.ne_closing_of_arity counted_event)]
  exact Event.length_arguments counted_event

/-- Reading is silent exactly if every check is. -/
theorem interpret_eq_pure_iff_checks (strict : Bool) (directive : Directive)
    (event : Event) :
    directive.interpret strict = pure event ↔
      directive.checkWord strict = pure () ∧ directive.event? = some event ∧
        ∀ expected, directive.kind.arity = some expected →
          directive.checkSurplus strict expected = pure () ∧
            directive.checkEmpty strict = pure () := by
  cases counted : directive.kind.arity with
  | none =>
      have closes := (Kind.arity_eq_none_iff _).mp counted
      rw [interpret_of_closing strict closes, Logged.check_bind_eq_pure_iff,
        event?_of_closing closes]
      simp
  | some expected =>
      rw [interpret_of_arity strict counted, Logged.check_bind_eq_pure_iff]
      cases directive.event? with
      | none => simp
      | some found =>
          rw [Logged.check_bind_eq_pure_iff, Logged.check_bind_eq_pure_iff]
          simp [and_comm, and_assoc]

/-- A directive is read in silence, in either mode, exactly if it spells an
event, and strict reading also wants it filled. -/
theorem interpret_eq_pure_iff (strict : Bool) (directive : Directive)
    (event : Event) :
    directive.interpret strict = pure event ↔
      (strict = true → directive.Filled) ∧ directive.Spells event := by
  rw [interpret_eq_pure_iff_checks, checkWord_eq_pure_iff, event?_eq_some_iff]
  simp only [checkSurplus_eq_pure_iff, checkEmpty_eq_pure_iff]
  constructor
  · intro checked
    obtain ⟨word_eq, means, fits⟩ := checked
    cases counted : directive.kind.arity with
    | none =>
        have closes := (Kind.arity_eq_none_iff _).mp counted
        have event_closes := means.kind_eq.symm.trans closes
        refine ⟨fun _ opens => absurd closes opens, means.kind_eq, ?_, ?_⟩
        · exact means.kind_eq ▸ word_eq
        · exact fun opens => absurd event_closes opens
    | some expected =>
        obtain ⟨enough, filled⟩ := fits expected counted
        exact ⟨fun strictly _ => filled strictly,
          means.spells_of_length_le word_eq counted enough⟩
  · intro spelled
    obtain ⟨filled, spells⟩ := spelled
    refine ⟨spells.kind_eq ▸ spells.word_eq, spells.means, ?_⟩
    intro expected counted
    have opens := Kind.ne_closing_of_arity counted
    exact ⟨Nat.le_of_eq (spells.length_args counted),
      fun strictly => filled strictly opens⟩

theorem notices_checkWord_strict (directive : Directive) :
    (directive.checkWord true).notices = [] := by
  unfold checkWord
  split <;> rfl

theorem notices_checkSurplus_strict (directive : Directive) (expected : Nat) :
    (directive.checkSurplus true expected).notices = [] := by
  unfold checkSurplus
  split <;> rfl

theorem notices_checkEmpty (strict : Bool) (directive : Directive) :
    (directive.checkEmpty strict).notices = [] := by
  unfold checkEmpty
  split <;> rfl

theorem notices_interpret_strict (directive : Directive) :
    (directive.interpret true).notices = [] := by
  cases counted : directive.kind.arity with
  | none =>
      rw [interpret_of_closing true ((Kind.arity_eq_none_iff _).mp counted)]
      exact Logged.notices_bind_eq_nil directive.notices_checkWord_strict
        fun _ => rfl
  | some expected =>
      rw [interpret_of_arity true counted]
      refine Logged.notices_bind_eq_nil directive.notices_checkWord_strict
        fun _ => ?_
      cases directive.event? with
      | none => rfl
      | some event =>
          exact Logged.notices_bind_eq_nil
            (directive.notices_checkSurplus_strict expected) fun _ =>
              Logged.notices_bind_eq_nil (directive.notices_checkEmpty true)
                fun _ => rfl

end Directive

end TilingHeader
