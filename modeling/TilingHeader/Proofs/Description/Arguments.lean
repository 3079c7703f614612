import TilingHeader.Proofs.Description.Warnings
import TilingHeader.Proofs.Layout.Decoding

namespace TilingHeader

/-! Which arguments of a directive come to be used.  What is understood of one
that opens a struct or adds a member are its first arguments, as many as its
kind takes, and there are that many.  From one directive this goes over to
everything that a run holds at any time: what it has completed and what stands
open are the arguments of the directives behind it, in order and in their
roles. -/

namespace Kind

/-- The event of arguments that are looked up one by one.  The text stands for
those that are not there. -/
def eventOr (fallback : String) (args : List String) : Kind → Event
  | .opening => .opening (args.getD 0 fallback)
  | .scalar =>
      .member (.scalar (args.getD 0 fallback) (args.getD 1 fallback))
  | .array =>
      .member (.array (args.getD 0 fallback) (args.getD 1 fallback)
        (args.getD 2 fallback))
  | .nested =>
      .member (.nested (args.getD 0 fallback) (args.getD 1 fallback))
  | .closing => .closing

theorem eventOr_arguments (fallback : String) (event : Event) :
    event.kind.eventOr fallback event.arguments = event := by
  cases event with
  | opening name => rfl
  | member member => cases member <;> rfl
  | closing => rfl

end Kind

namespace Directive

/-- The arguments that are used, once the directive has been checked. -/
def checkedArguments (strict : Bool) (directive : Directive) :
    Reading (List String) := do
  directive.checkWord strict
  match directive.kind.arity with
  | none => pure directive.args
  | some expected =>
      if directive.args.length < expected then
        .fail ⟨directive.line,
          .wrongCount directive.kind expected directive.args.length⟩
      else do
        directive.checkSurplus strict expected
        let used := directive.args.take expected
        { directive with args := used }.checkEmpty strict
        pure used

section Checked

variable {strict : Bool} {directive : Directive} {expected : Nat}

theorem take_arguments_of_event? {event : Event}
    (counted : directive.kind.arity = some expected)
    (understood : directive.event? = some event) :
    directive.args.take expected = event.arguments := by
  have means := (event?_eq_some_iff _ _).mp understood
  have length_eq : event.arguments.length = expected :=
    Event.length_arguments (means.kind_eq ▸ counted)
  rw [← length_eq]
  exact (List.prefix_iff_eq_take.mp means.arguments_prefix).symm

/-- What is cut off is never seen to be empty: it has been refused before, or
nothing is looked for. -/
theorem checkSurplus_bind_checkEmpty_take {α : Type} (next : Reading α) :
    (directive.checkSurplus strict expected >>= fun _ =>
        { directive with args := directive.args.take expected }.checkEmpty
          strict >>= fun _ => next) =
      directive.checkSurplus strict expected >>= fun _ =>
        directive.checkEmpty strict >>= fun _ => next := by
  cases strict with
  | false => rfl
  | true =>
      by_cases fits : directive.args.length ≤ expected
      · rw [List.take_of_length_le fits]
      · rw [checkSurplus, if_neg fits, if_pos rfl, Logged.fail_bind,
          Logged.fail_bind]

/-- Whatever stands for arguments that are not there, it is never used. -/
theorem interpret_eq_checkedArguments_bind (fallback : String) :
    directive.interpret strict =
      directive.checkedArguments strict >>= fun used =>
        pure (directive.kind.eventOr fallback used) := by
  cases counted : directive.kind.arity with
  | none =>
      have closes := (Kind.arity_eq_none_iff _).mp counted
      rw [interpret_of_closing strict closes, checkedArguments,
        Logged.bind_assoc, counted]
      simp only [Logged.pure_bind, closes, Kind.eventOr]
  | some expected =>
      rw [interpret_of_arity strict counted, checkedArguments,
        Logged.bind_assoc, counted]
      dsimp only
      cases understood : directive.event? with
      | none =>
          obtain ⟨_, other, few⟩ :=
            (Kind.event?_eq_none_iff _ _).mp understood
          cases counted.symm.trans other
          simp only [if_pos few, Logged.fail_bind]
      | some event =>
          have enough : ¬ directive.args.length < expected := fun few => by
            have refused := (Kind.event?_eq_none_iff _ _).mpr
              ⟨expected, counted, few⟩
            cases refused.symm.trans understood
          have made : directive.kind.eventOr fallback
              (directive.args.take expected) = event := by
            have means := (event?_eq_some_iff _ _).mp understood
            rw [take_arguments_of_event? counted understood, means.kind_eq,
              Kind.eventOr_arguments]
          simp only [if_neg enough, Logged.bind_assoc, Logged.pure_bind, made]
          rw [checkSurplus_bind_checkEmpty_take]

theorem checkedArguments_eq_take {used : List String}
    (checked : (directive.checkedArguments strict).outcome = .ok used)
    (counted : directive.kind.arity = some expected) :
    used = directive.args.take expected ∧ used.length = expected ∧
      (strict = true → "" ∉ used) := by
  obtain ⟨_, _, checked⟩ := Logged.outcome_bind_eq_ok_iff.mp checked
  rw [counted] at checked
  dsimp only at checked
  split at checked
  · cases checked
  · rename_i enough
    obtain ⟨_, _, checked⟩ := Logged.outcome_bind_eq_ok_iff.mp checked
    obtain ⟨_, sought, kept⟩ := Logged.outcome_bind_eq_ok_iff.mp checked
    cases kept
    refine ⟨rfl, List.length_take_of_le (Nat.not_lt.mp enough), ?_⟩
    exact (checkEmpty_eq_pure_iff _ _).mp
      ((Logged.eq_pure_iff _ _).mpr ⟨notices_checkEmpty _ _, sought⟩)

end Checked

/-- There are as many arguments as the kind takes, and the event has these, in
their order.  Strict reading leaves none of them empty. -/
structure Supplies (strict : Bool) (directive : Directive) (event : Event) :
    Prop where
  kind_eq : directive.kind = event.kind
  enough : ∀ expected, directive.kind.arity = some expected →
    expected ≤ directive.args.length
  arguments_eq : ∀ expected, directive.kind.arity = some expected →
    event.arguments = directive.args.take expected
  filled : strict = true → "" ∉ event.arguments

section Event

variable {strict : Bool} {directive : Directive} {event : Event}

theorem Means.supplies (means : directive.Means event)
    (filled : strict = true → "" ∉ event.arguments) :
    directive.Supplies strict event := by
  have length_eq : ∀ expected, directive.kind.arity = some expected →
      event.arguments.length = expected := fun expected counted =>
    Event.length_arguments (means.kind_eq ▸ counted)
  refine ⟨means.kind_eq, ?_, ?_, filled⟩
  · intro expected counted
    rw [← length_eq expected counted]
    exact means.arguments_prefix.length_le
  · intro expected counted
    rw [← length_eq expected counted]
    exact List.prefix_iff_eq_take.mp means.arguments_prefix

theorem Supplies.means (supplies : directive.Supplies strict event) :
    directive.Means event := by
  refine ⟨supplies.kind_eq, ?_⟩
  cases counted : directive.kind.arity with
  | none =>
      have closes := (Kind.arity_eq_none_iff _).mp counted
      rw [supplies.kind_eq, event.kind_eq_closing_iff] at closes
      rw [closes]
      exact List.nil_prefix
  | some expected =>
      rw [supplies.arguments_eq expected counted]
      exact List.take_prefix expected directive.args

theorem outcome_interpret_tolerant_iff :
    (directive.interpret false).outcome = .ok event ↔
      directive.Means event := by
  rw [← event?_eq_some_iff]
  cases understood : directive.event? with
  | some found => rw [outcome_interpret_of_event understood]; simp
  | none =>
      obtain ⟨_, _, short⟩ := shortage?_of_event?_eq_none understood
      rw [outcome_interpret_of_shortage short]
      simp

theorem outcome_interpret_strict_iff :
    (directive.interpret true).outcome = .ok event ↔
      directive.Filled ∧ directive.Spells event := by
  have silent_iff := Logged.eq_pure_iff (directive.interpret true) event
  rw [and_iff_right directive.notices_interpret_strict] at silent_iff
  rw [← silent_iff, interpret_eq_pure_iff]
  simp

/-- A directive is understood exactly if it has the arguments that are used, and
in strict reading no others and no word of its own. -/
theorem outcome_interpret_eq_ok_iff :
    (directive.interpret strict).outcome = .ok event ↔
      directive.Supplies strict event ∧
        (strict = true → directive.Spells event) := by
  cases strict with
  | false =>
      rw [outcome_interpret_tolerant_iff]
      exact ⟨fun means => ⟨means.supplies nofun, nofun⟩,
        fun both => both.1.means⟩
  | true =>
      rw [outcome_interpret_strict_iff]
      constructor
      · rintro ⟨filled, spells⟩
        exact ⟨spells.means.supplies fun _ => spells.filled_iff.mp filled,
          fun _ => spells⟩
      · rintro ⟨supplies, spelled⟩
        exact ⟨(spelled rfl).filled_iff.mpr (supplies.filled rfl),
          spelled rfl⟩

/-- The name of a struct is the first argument. -/
theorem Supplies.getElem?_opening {name : String}
    (supplies : directive.Supplies strict (.opening name)) :
    directive.args[0]? = some name := by
  obtain ⟨rest, args_eq⟩ := supplies.means.arguments_prefix
  rw [← args_eq]
  rfl

/-- The type of a member is the first argument, the length of an array the
second and the name the last that is used. -/
theorem Supplies.getElem?_member {member : Member}
    (supplies : directive.Supplies strict (.member member)) :
    directive.args[0]? = some member.type ∧
      (∀ length, member.length? = some length →
        directive.args[1]? = some length) ∧
      ∀ expected, directive.kind.arity = some expected →
        directive.args[expected - 1]? = some member.name := by
  obtain ⟨rest, args_eq⟩ := supplies.means.arguments_prefix
  have kind_eq := supplies.kind_eq
  rw [kind_eq, ← args_eq]
  cases member with
  | scalar type name =>
      exact ⟨rfl, nofun, by rintro _ ⟨⟩; rfl⟩
  | array type length name =>
      exact ⟨rfl, by rintro _ ⟨⟩; rfl, by rintro _ ⟨⟩; rfl⟩
  | nested type name =>
      exact ⟨rfl, nofun, by rintro _ ⟨⟩; rfl⟩

end Event

/-- The arguments that are said to be too many are those behind the ones that
are used. -/
theorem length_args_of_surplusWarning? {directive : Directive} {line : Nat}
    {kind : Kind} {expected extra : Nat}
    (told : directive.surplusWarning? =
      some (.surplus line kind expected extra)) :
    directive.line = line ∧ directive.kind = kind ∧
      kind.arity = some expected ∧
      directive.args.length = expected + extra := by
  unfold surplusWarning? at told
  split at told
  · cases told
  · rename_i found counted
    split at told
    · cases told
    · cases told
      exact ⟨rfl, rfl, counted, by omega⟩

theorem warning_of_mem_interpret {strict : Bool}
    {directive : Directive} {warning : Warning}
    (told : warning ∈ (directive.interpret strict).notices) :
    directive.wordWarning? = some warning ∨
      directive.surplusWarning? = some warning := by
  cases strict with
  | true =>
      rw [notices_interpret_strict] at told
      cases told
  | false =>
      cases understood : directive.event? with
      | some event =>
          rw [interpret_tolerant_of_event understood, List.mem_append,
            Option.mem_toList, Option.mem_toList] at told
          exact told
      | none =>
          obtain ⟨_, _, short⟩ := shortage?_of_event?_eq_none understood
          rw [interpret_tolerant_of_shortage short, Option.mem_toList] at told
          exact .inl told

end Directive

namespace Fragment

open Directive

/-- What a run has completed, and the struct that is open, when so many
directives have been read. -/
inductive Reaches (settings : Settings) :
    List Directive → List Fragment → Option OpenStruct → Prop
  | start : Reaches settings [] [] none
  | read {before : List Directive} {fragments : List Fragment}
      {current next : Option OpenStruct} {completed : Option Fragment}
      {directive : Directive} {event : Event}
      (reached : Reaches settings before fragments current)
      (understood :
        (directive.interpret settings.strict).outcome = .ok event)
      (stepped : (step settings directive.line current event).outcome =
        .ok (completed, next)) :
      Reaches settings (before ++ [directive])
        (fragments ++ completed.toList) next

/-- A directive at which a run stops, by itself or in its place. -/
inductive Refuses (settings : Settings) (current : Option OpenStruct)
    (directive : Directive) (fault : Fault) : Prop
  | alone (refused :
      (directive.interpret settings.strict).outcome = .error fault)
  | placed {event : Event}
      (understood :
        (directive.interpret settings.strict).outcome = .ok event)
      (refused : (step settings directive.line current event).outcome =
        .error fault)

section Run

variable {settings : Settings} {before : List Directive}
  {fragments : List Fragment} {current : Option OpenStruct}

/-- The rest of the directives is built on what has been reached. -/
theorem Reaches.outcome_build
    (reached : Reaches settings before fragments current)
    (rest : List Directive) :
    (build settings (before ++ rest)).outcome =
      (buildFrom settings current rest).outcome.map (fragments ++ ·) := by
  induction reached generalizing rest with
  | start =>
      rw [List.nil_append, build]
      cases (buildFrom settings none rest).outcome <;> rfl
  | @read before fragments current next completed directive event _
      understood stepped induction =>
      rw [List.append_assoc, List.singleton_append, induction, buildFrom_cons,
        Logged.outcome_bind_of_ok understood, Logged.outcome_bind_of_ok stepped,
        Logged.bind_pure_eq]
      cases (buildFrom settings next rest).outcome with
      | error fault => rfl
      | ok others =>
          exact congrArg Except.ok
            (List.append_assoc fragments completed.toList others).symm

theorem Reaches.outcome_build_of_refuses
    (reached : Reaches settings before fragments current)
    {directive : Directive} {fault : Fault}
    (refuses : Refuses settings current directive fault)
    (after : List Directive) :
    (build settings (before ++ directive :: after)).outcome =
      .error fault := by
  rw [reached.outcome_build, buildFrom_cons]
  cases refuses with
  | alone refused =>
      rw [Logged.outcome_bind_of_error refused]
      rfl
  | placed understood refused =>
      rw [Logged.outcome_bind_of_ok understood,
        Logged.outcome_bind_of_error refused]
      rfl

/-- A run reads all directives or stops at one of them. -/
theorem Reaches.all_or_refused
    (reached : Reaches settings before fragments current)
    (rest : List Directive) :
    (∃ others last, Reaches settings (before ++ rest) others last) ∨
      ∃ earlier directive later others last fault,
        before ++ rest = earlier ++ directive :: later ∧
          Reaches settings earlier others last ∧
          Refuses settings last directive fault := by
  induction rest generalizing before fragments current with
  | nil =>
      rw [List.append_nil]
      exact .inl ⟨fragments, current, reached⟩
  | cons directive rest induction =>
      cases understood :
          (directive.interpret settings.strict).outcome with
      | error fault =>
          exact .inr ⟨before, directive, rest, fragments, current, fault, rfl,
            reached, .alone understood⟩
      | ok event =>
          cases stepped :
              (step settings directive.line current event).outcome with
          | error fault =>
              exact .inr ⟨before, directive, rest, fragments, current, fault,
                rfl, reached, .placed understood stepped⟩
          | ok result =>
              have onward := induction (reached.read understood stepped)
              rw [List.append_assoc, List.singleton_append] at onward
              exact onward

/-- One step moves the event into what is completed or open. -/
theorem events_of_step {line : Nat} {event : Event}
    {completed : Option Fragment} {next : Option OpenStruct}
    (stepped : (step settings line current event).outcome =
      .ok (completed, next)) :
    completed.toList.flatMap events ++ pending (next.map OpenStruct.body) =
      pending (current.map OpenStruct.body) ++ [event] := by
  obtain ⟨made, after, advanced, judged⟩ :=
    step_judged settings line current event
  have result_eq := judged.eq_of_outcome stepped
  cases result_eq
  have moved := events_advance settings.packAlignment
    (current.map OpenStruct.body) event
  rw [advanced] at moved
  exact moved

/-- At any time of a run, what it holds are the arguments of what it has
read. -/
theorem Reaches.supplied
    (reached : Reaches settings before fragments current) :
    ∃ steps, List.Forall₂ (Supplies settings.strict) before steps ∧
      fragments.flatMap events ++ pending (current.map OpenStruct.body) =
        steps := by
  induction reached with
  | start => exact ⟨[], .nil, rfl⟩
  | @read before fragments current next completed directive event _
      understood stepped induction =>
      obtain ⟨steps, supplied, held⟩ := induction
      have supplies := (outcome_interpret_eq_ok_iff.mp understood).1
      refine ⟨steps ++ [event], ?_, ?_⟩
      · exact List.rel_append supplied (.cons supplies .nil)
      · rw [List.flatMap_append, List.append_assoc, events_of_step stepped,
          ← List.append_assoc, held]

theorem events_of_finish {rest : List Fragment}
    (finished : (finish settings current).outcome = .ok rest) :
    rest.flatMap events = pending (current.map OpenStruct.body) := by
  have rest_eq := (finish_judged settings current).eq_of_outcome finished
  rw [← rest_eq, events_arrange, List.append_nil]

theorem build_reaches_or_refuses (settings : Settings)
    (directives : List Directive) :
    (∃ fragments current, Reaches settings directives fragments current ∧
        (build settings directives).outcome =
          (finish settings current).outcome.map (fragments ++ ·)) ∨
      ∃ before directive after fragments current fault,
        directives = before ++ directive :: after ∧
          Reaches settings before fragments current ∧
          Refuses settings current directive fault ∧
          (build settings directives).outcome = .error fault := by
  have begun : Reaches settings [] [] none := .start
  rcases begun.all_or_refused directives with
    ⟨fragments, current, reached⟩ |
      ⟨before, directive, after, fragments, current, fault, parted, reached,
        refuses⟩
  · have built := reached.outcome_build []
    rw [List.append_nil] at built
    exact .inl ⟨fragments, current, reached, built⟩
  · rw [List.nil_append] at parted
    refine .inr ⟨before, directive, after, fragments, current, fault, parted,
      reached, refuses, ?_⟩
    rw [parted]
    exact reached.outcome_build_of_refuses refuses after

theorem supplied_of_build {directives : List Directive}
    {built : List Fragment}
    (outcome : (build settings directives).outcome = .ok built) :
    ∃ steps, List.Forall₂ (Supplies settings.strict) directives steps ∧
      built.flatMap events = steps := by
  rcases build_reaches_or_refuses settings directives with
    ⟨fragments, current, reached, onward⟩ |
      ⟨_, _, _, _, _, _, _, _, _, refused⟩
  · rw [outcome] at onward
    cases finished : (finish settings current).outcome with
    | error fault =>
        rw [finished] at onward
        cases onward
    | ok rest =>
        rw [finished] at onward
        cases onward
        obtain ⟨steps, supplied, held⟩ := reached.supplied
        refine ⟨steps, supplied, ?_⟩
        rw [List.flatMap_append, events_of_finish finished, held]
  · rw [refused] at outcome
    cases outcome

end Run

theorem isNesting_of_mem_step {settings : Settings} {line : Nat}
    {current : Option OpenStruct} {event : Event} {warning : Warning}
    (told : warning ∈ (step settings line current event).notices) :
    warning.isNesting = true := by
  cases mode : settings.strict with
  | true =>
      obtain ⟨_, _, _, judged⟩ := step_judged settings line current event
      rw [judged.notices_strict mode] at told
      cases told
  | false =>
      obtain ⟨_, _, _, stepped, tolerates⟩ :=
        step_tolerant mode line current event
      rw [stepped, Option.mem_toList] at told
      cases tolerates <;> cases told <;> rfl

theorem isNesting_of_mem_finish {settings : Settings}
    {current : Option OpenStruct} {warning : Warning}
    (told : warning ∈ (finish settings current).notices) :
    warning.isNesting = true := by
  cases mode : settings.strict with
  | true =>
      rw [(finish_judged settings current).notices_strict mode] at told
      cases told
  | false =>
      cases current with
      | none => cases told
      | some current =>
          simp only [finish, mode] at told
          cases told with
          | head => rfl
          | tail _ other => cases other

/-- Whatever is said of a directive that is not about its place is said of the
directive alone. -/
theorem warning_of_mem_buildFrom {settings : Settings}
    {current : Option OpenStruct} {directives : List Directive}
    {warning : Warning}
    (told : warning ∈ (buildFrom settings current directives).notices)
    (unplaced : warning.isNesting = false) :
    ∃ directive ∈ directives, directive.wordWarning? = some warning ∨
      directive.surplusWarning? = some warning := by
  have placed {notices : List Warning}
      (nesting : ∀ notice ∈ notices, notice.isNesting = true)
      (listed : warning ∈ notices) : False := by
    rw [nesting warning listed] at unplaced
    cases unplaced
  induction directives generalizing current with
  | nil => exact (placed (fun _ => isNesting_of_mem_finish) told).elim
  | cons directive rest induction =>
      rw [buildFrom_cons] at told
      rcases Logged.mem_notices_bind told with here | ⟨event, _, told⟩
      · exact ⟨directive, List.mem_cons_self,
          warning_of_mem_interpret here⟩
      · rcases Logged.mem_notices_bind told with step | ⟨stepped, _, told⟩
        · exact (placed (fun _ => isNesting_of_mem_step) step).elim
        · rw [Logged.bind_pure_eq] at told
          obtain ⟨other, listed, said⟩ := induction told
          exact ⟨other, List.mem_cons_of_mem directive listed, said⟩

/-- Reading never goes beyond the arguments of a directive.  What passes the
checks are its first arguments, so many that none is ever made up for; they come
to be used in their roles; all that a run holds, however far it comes, has been
understood so; and arguments that are called too many are exactly what is left
of a list that is long enough. -/
theorem build_uses_own_arguments (settings : Settings)
    (directives : List Directive) :
    (∀ (strict : Bool) (directive : Directive) (used : List String),
      (directive.checkedArguments strict).outcome = .ok used →
        ∀ expected, directive.kind.arity = some expected →
          used = directive.args.take expected ∧ used.length = expected ∧
            (strict = true → "" ∉ used)) ∧
      (∀ (strict : Bool) (directive : Directive) (fallback : String),
        directive.interpret strict =
          directive.checkedArguments strict >>= fun used =>
            pure (directive.kind.eventOr fallback used)) ∧
      (∀ (strict : Bool) (directive : Directive) (event : Event),
        (directive.interpret strict).outcome = .ok event ↔
          directive.Supplies strict event ∧
            (strict = true → directive.Spells event)) ∧
      (∀ (strict : Bool) (directive : Directive) (event : Event),
        directive.Supplies strict event →
        (∀ name, event = .opening name → directive.args[0]? = some name) ∧
          ∀ member, event = .member member →
            directive.args[0]? = some member.type ∧
              (∀ length, member.length? = some length →
                directive.args[1]? = some length) ∧
              ∀ expected, directive.kind.arity = some expected →
                directive.args[expected - 1]? = some member.name) ∧
      (∀ before fragments current,
        Reaches settings before fragments current →
          ∃ steps, List.Forall₂ (Supplies settings.strict) before steps ∧
            fragments.flatMap events ++
              pending (current.map OpenStruct.body) = steps) ∧
      ((∃ fragments current, Reaches settings directives fragments current ∧
          (build settings directives).outcome =
            (finish settings current).outcome.map (fragments ++ ·)) ∨
        ∃ before directive after fragments current fault,
          directives = before ++ directive :: after ∧
            Reaches settings before fragments current ∧
            Refuses settings current directive fault ∧
            (build settings directives).outcome = .error fault) ∧
      (∀ built, (build settings directives).outcome = .ok built →
        ∃ steps, List.Forall₂ (Supplies settings.strict) directives steps ∧
          built.flatMap events = steps) ∧
      ∀ line kind expected extra,
        .surplus line kind expected extra ∈
            (build settings directives).notices →
          ∃ directive ∈ directives, directive.line = line ∧
            directive.kind = kind ∧ kind.arity = some expected ∧
            directive.args.length = expected + extra := by
  refine ⟨fun _ _ _ checked _ => checkedArguments_eq_take checked,
    fun _ _ => interpret_eq_checkedArguments_bind,
    fun _ _ _ => outcome_interpret_eq_ok_iff, ?_,
    fun _ _ _ reached => reached.supplied,
    build_reaches_or_refuses settings directives,
    fun _ => supplied_of_build, ?_⟩
  · intro strict directive event supplies
    constructor
    · rintro name rfl
      exact supplies.getElem?_opening
    · rintro member rfl
      exact supplies.getElem?_member
  · intro line kind expected extra told
    obtain ⟨directive, listed, word | surplus⟩ :=
      warning_of_mem_buildFrom told rfl
    · unfold wordWarning? at word
      split at word <;> cases word
    · exact ⟨directive, listed, length_args_of_surplusWarning? surplus⟩

/-- No keyword, and more arguments than are used. -/
def madeUpOpening : Directive :=
  ⟨5, .opening, "", ["A", "B", "C"]⟩

/-- A misspelled array, on a line that no text has. -/
def madeUpArray : Directive :=
  ⟨0, .array, "x", ["T", "4", "a"]⟩

theorem build_uses_own_arguments_made_up :
    Reaches { strict := false } [madeUpOpening, madeUpArray] []
        (some ⟨5, ⟨"A", 8, [.array "T" "4" "a"]⟩⟩) ∧
      List.Forall₂ (Supplies false) [madeUpOpening, madeUpArray]
        [.opening "A", .member (.array "T" "4" "a")] ∧
      (madeUpOpening.args[0]? = some "A" ∧ madeUpArray.args[1]? = some "4") ∧
      ["A"] = madeUpOpening.args.take 1 ∧
      (∃ steps,
        List.Forall₂ (Supplies false) [madeUpOpening, madeUpArray] steps ∧
          [unclosed ⟨"A", 8, [.array "T" "4" "a"]⟩].flatMap events = steps) ∧
      ∃ directive ∈ [madeUpOpening, madeUpArray], directive.line = 5 ∧
        directive.kind = .opening ∧ Kind.opening.arity = some 1 ∧
        directive.args.length = 1 + 2 := by
  obtain ⟨taken, _, understood_iff, roles, held, _, holds, surplus⟩ :=
    build_uses_own_arguments { strict := false } [madeUpOpening, madeUpArray]
  have opened : Reaches { strict := false } [madeUpOpening] []
      (some ⟨5, ⟨"A", 8, []⟩⟩) :=
    @Reaches.read _ [] [] none _ none madeUpOpening (.opening "A") .start
      (by decide +kernel) (by decide +kernel)
  have reached : Reaches { strict := false } [madeUpOpening, madeUpArray] []
      (some ⟨5, ⟨"A", 8, [.array "T" "4" "a"]⟩⟩) :=
    @Reaches.read _ [madeUpOpening] [] _ _ none madeUpArray
      (.member (.array "T" "4" "a")) opened
      (by decide +kernel) (by decide +kernel)
  obtain ⟨_, supplied, rfl⟩ := held _ _ _ reached
  have opening := ((understood_iff false madeUpOpening (.opening "A")).mp
    (by decide +kernel)).1
  have array := ((understood_iff false madeUpArray
    (.member (.array "T" "4" "a"))).mp (by decide +kernel)).1
  exact ⟨reached, supplied,
    ⟨(roles _ _ _ opening).1 "A" rfl,
      ((roles _ _ _ array).2 _ rfl).2.1 "4" rfl⟩,
    (taken false madeUpOpening ["A"] (by decide +kernel) 1 rfl).1,
    holds _ (by decide +kernel), surplus 5 .opening 1 2 (by decide +kernel)⟩

end Fragment

end TilingHeader
