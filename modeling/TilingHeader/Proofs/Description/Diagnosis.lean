import TilingHeader.Proofs.Description.NumberedLines

namespace TilingHeader

/-! The faults of strict reading.  A directive can be wrong by itself, or in its
place behind the others.  The first one that is wrong gives the fault; if none
is, the struct that stays open does. -/

namespace Directive

def misspelling? (directive : Directive) : Option Cause :=
  if directive.word = directive.kind.keyword then none
  else some (.misspelled directive.word directive.kind)

def miscount? (directive : Directive) : Option Cause :=
  match directive.kind.arity with
  | none => none
  | some expected =>
      if directive.args.length = expected then none
      else
        some (.wrongCount directive.kind expected directive.args.length)

def omission? (directive : Directive) : Option Cause :=
  if directive.kind = .closing then none
  else
    (directive.args.idxOf? "").map fun index =>
      .emptyArgument directive.kind (index + 1)

/-- What is wrong with a directive by itself. -/
def defect? (directive : Directive) : Option Cause :=
  (directive.misspelling?.or directive.miscount?).or directive.omission?

/-- The last directive that opens a struct, unless one behind it closes it. -/
def lastOpening? (directives : List Directive) : Option Directive :=
  (directives.reverse.takeWhile fun directive =>
    directive.kind ≠ .closing).find? fun directive => directive.kind = .opening

/-- What is wrong with the place of a directive, behind those before it. -/
def misplacement? (before : List Directive) (directive : Directive) :
    Option Cause :=
  match directive.kind, lastOpening? before with
  | .opening, some opening =>
      some (.nestedOpening (opening.args.headD ""))
  | .opening, none => none
  | .closing, some _ => none
  | .closing, none => some .unmatchedClosing
  | _, some _ => none
  | _, none => some (.memberOutside (directive.args.getLastD ""))

def violation? (before : List Directive) (directive : Directive) :
    Option Cause :=
  directive.defect?.or (misplacement? before directive)

def violationAt? (directives : List Directive) (index : Nat) : Option Fault :=
  directives[index]?.bind fun directive =>
    (violation? (directives.take index) directive).map (⟨directive.line, ·⟩)

/-! A directive by itself. -/

theorem miscount?_eq_none_iff (directive : Directive) :
    directive.miscount? = none ↔
      ∀ expected, directive.kind.arity = some expected →
        directive.args.length = expected := by
  cases counted : directive.kind.arity with
  | none => simp [miscount?, counted]
  | some expected => simp [miscount?, counted]

theorem omission?_eq_none_iff (directive : Directive) :
    directive.omission? = none ↔ directive.Filled := by
  by_cases closes : directive.kind = .closing
  · simp [omission?, Filled, closes]
  · simp [omission?, Filled, closes, List.idxOf?_eq_none_iff]

theorem outcome_interpret_of_misspelling {directive : Directive} {cause : Cause}
    (wrong : directive.misspelling? = some cause) :
    (directive.interpret true).outcome = .error ⟨directive.line, cause⟩ := by
  unfold misspelling? at wrong
  split at wrong
  · cases wrong
  · rename_i misspelled
    cases wrong
    have refused : (directive.checkWord true).outcome =
        .error ⟨directive.line,
          .misspelled directive.word directive.kind⟩ := by
      simp [checkWord, misspelled]
    exact Logged.outcome_bind_of_error refused _

theorem outcome_interpret_of_miscount {directive : Directive} {cause : Cause}
    (spelled : directive.word = directive.kind.keyword)
    (wrong : directive.miscount? = some cause) :
    (directive.interpret true).outcome = .error ⟨directive.line, cause⟩ := by
  unfold miscount? at wrong
  split at wrong
  · cases wrong
  · rename_i expected counted
    split at wrong
    · cases wrong
    · rename_i miscounted
      cases wrong
      rw [interpret_of_arity true counted,
        (checkWord_eq_pure_iff true directive).mpr spelled, Logged.pure_bind]
      cases understood : directive.event? with
      | none => rfl
      | some event =>
          have means := (event?_eq_some_iff directive event).mp understood
          have enough := means.arguments_prefix.length_le
          rw [Event.length_arguments (means.kind_eq ▸ counted)] at enough
          have refused : (directive.checkSurplus true expected).outcome =
              .error ⟨directive.line, .wrongCount directive.kind expected
                directive.args.length⟩ := by
            rw [checkSurplus, if_neg (by omega), if_pos rfl]
            rfl
          exact Logged.outcome_bind_of_error refused _

theorem exists_event_of_miscount?_eq_none {directive : Directive}
    (counted : directive.miscount? = none) :
    ∃ event, directive.event? = some event := by
  cases understood : directive.event? with
  | some event => exact ⟨event, rfl⟩
  | none =>
      obtain ⟨expected, arity_eq, few⟩ :=
        (Kind.event?_eq_none_iff _ _).mp understood
      have length_eq :=
        (miscount?_eq_none_iff directive).mp counted expected arity_eq
      omega

theorem outcome_interpret_of_omission {directive : Directive} {cause : Cause}
    (spelled : directive.word = directive.kind.keyword)
    (counted : directive.miscount? = none)
    (wrong : directive.omission? = some cause) :
    (directive.interpret true).outcome = .error ⟨directive.line, cause⟩ := by
  unfold omission? at wrong
  split at wrong
  · cases wrong
  · rename_i opens
    obtain ⟨index, found, rfl⟩ := Option.map_eq_some_iff.mp wrong
    obtain ⟨expected, arity_eq⟩ := Option.ne_none_iff_exists'.mp
      ((Kind.arity_eq_none_iff directive.kind).not.mpr opens)
    obtain ⟨event, understood⟩ := exists_event_of_miscount?_eq_none counted
    have length_eq :=
      (miscount?_eq_none_iff directive).mp counted expected arity_eq
    have position_eq : emptyPosition? directive.args = some (index + 1) :=
      congrArg (Option.map (· + 1)) found
    have refused : (directive.checkEmpty true).outcome =
        .error ⟨directive.line,
          .emptyArgument directive.kind (index + 1)⟩ := by
      simp only [checkEmpty, position_eq, Logged.outcome_fail]
    rw [interpret_of_arity true arity_eq,
      (checkWord_eq_pure_iff true directive).mpr spelled, Logged.pure_bind,
      understood]
    dsimp only
    rw [(checkSurplus_eq_pure_iff true directive expected).mpr
      (Nat.le_of_eq length_eq), Logged.pure_bind]
    exact Logged.outcome_bind_of_error refused _

theorem outcome_interpret_of_defect {directive : Directive} {cause : Cause}
    (wrong : directive.defect? = some cause) :
    (directive.interpret true).outcome = .error ⟨directive.line, cause⟩ := by
  rw [defect?, Option.or_eq_some_iff, Option.or_eq_some_iff,
    Option.or_eq_none_iff] at wrong
  rcases wrong with (misspelled | ⟨spelled, miscounted⟩) |
    ⟨⟨spelled, counted⟩, omitted⟩
  · exact outcome_interpret_of_misspelling misspelled
  · exact outcome_interpret_of_miscount (by simpa [misspelling?] using spelled)
      miscounted
  · exact outcome_interpret_of_omission (by simpa [misspelling?] using spelled)
      counted omitted

theorem exists_event_of_defect?_eq_none {directive : Directive}
    (sound : directive.defect? = none) :
    ∃ event, directive.Spells event ∧
      directive.interpret true = pure event := by
  rw [defect?, Option.or_eq_none_iff, Option.or_eq_none_iff] at sound
  obtain ⟨⟨spelled, counted⟩, filled⟩ := sound
  obtain ⟨event, understood⟩ := exists_event_of_miscount?_eq_none counted
  have means := (event?_eq_some_iff directive event).mp understood
  have word_eq : directive.word = directive.kind.keyword := by
    simpa [misspelling?] using spelled
  have spells : directive.Spells event := by
    refine ⟨means.kind_eq, means.kind_eq ▸ word_eq, ?_⟩
    intro opens
    rw [← means.kind_eq] at opens
    obtain ⟨expected, arity_eq⟩ := Option.ne_none_iff_exists'.mp
      ((Kind.arity_eq_none_iff directive.kind).not.mpr opens)
    have length_eq :=
      (miscount?_eq_none_iff directive).mp counted expected arity_eq
    have spells := means.spells_of_length_le word_eq arity_eq
      (Nat.le_of_eq length_eq)
    exact spells.args_eq (means.kind_eq ▸ opens)
  refine ⟨event, spells, (interpret_eq_pure_iff true directive event).mpr
    ⟨?_, spells⟩⟩
  exact fun _ => (omission?_eq_none_iff directive).mp filled

/-! A directive in its place. -/

theorem lastOpening?_concat (before : List Directive) (directive : Directive) :
    lastOpening? (before ++ [directive]) =
      if directive.kind = .closing then none
      else if directive.kind = .opening then some directive
      else lastOpening? before := by
  rw [lastOpening?, List.reverse_append, List.reverse_singleton,
    List.singleton_append, List.takeWhile_cons]
  by_cases closes : directive.kind = .closing
  · simp [closes]
  · by_cases opens : directive.kind = .opening
    · simp [opens]
    · simp [closes, opens, lastOpening?]

theorem Means.lastOpening?_concat {directive : Directive} {event : Event}
    (means : directive.Means event) (before : List Directive) :
    lastOpening? (before ++ [directive]) =
      match event with
      | .opening _ => some directive
      | .member _ => lastOpening? before
      | .closing => none := by
  rw [Directive.lastOpening?_concat, means.kind_eq]
  cases event with
  | opening name => rfl
  | member member => cases member <;> rfl
  | closing => rfl

theorem misplacement?_of_spells {directive : Directive} {event : Event}
    (spells : directive.Spells event) (before : List Directive) :
    misplacement? before directive =
      match event, lastOpening? before with
      | .opening _, some opening =>
          some (.nestedOpening (opening.args.headD ""))
      | .member member, none => some (.memberOutside member.name)
      | .closing, none => some .unmatchedClosing
      | _, _ => none := by
  cases event with
  | opening name =>
      rw [misplacement?, spells.kind_eq, Event.kind]
      cases lastOpening? before <;> rfl
  | member member =>
      have opens : (Event.member member).kind ≠ .closing := by
        simp [Event.kind_eq_closing_iff]
      have args_eq : directive.args = (Event.member member).arguments :=
        spells.args_eq opens
      rw [misplacement?, spells.kind_eq, args_eq]
      cases member <;> cases lastOpening? before <;> rfl
  | closing =>
      rw [misplacement?, spells.kind_eq, Event.kind]
      cases lastOpening? before <;> rfl

end Directive

namespace Fragment

open Directive

/-- The struct that is open is the one that the last opening directive began. -/
inductive Tracks (before : List Directive) : Option OpenStruct → Prop
  | closed (nothing : lastOpening? before = none) : Tracks before none
  | opened {opening : Directive} {current : OpenStruct}
      (found : lastOpening? before = some opening)
      (line_eq : current.line = opening.line)
      (name_eq : current.body.name = opening.args.headD "") :
      Tracks before (some current)

section Step

variable {settings : Settings} {before : List Directive}
  {current : Option OpenStruct} {directive : Directive} {event : Event}

theorem outcome_step_of_misplacement (strict : settings.strict = true)
    (tracks : Tracks before current) (spells : directive.Spells event)
    {cause : Cause} (wrong : misplacement? before directive = some cause) :
    (step settings directive.line current event).outcome =
      .error ⟨directive.line, cause⟩ := by
  rw [misplacement?_of_spells spells] at wrong
  cases tracks with
  | closed nothing =>
      rw [nothing] at wrong
      cases event <;> cases wrong <;> simp [step, strict]
  | opened found line_eq name_eq =>
      rw [found] at wrong
      cases event <;> cases wrong
      simp [step, strict, name_eq]

theorem exists_step_of_misplacement?_eq_none
    (tracks : Tracks before current) (spells : directive.Spells event)
    (sound : misplacement? before directive = none) :
    ∃ stepped, step settings directive.line current event = pure stepped ∧
      Tracks (before ++ [directive]) stepped.2 := by
  rw [misplacement?_of_spells spells] at sound
  have last_eq := spells.means.lastOpening?_concat before
  cases event with
  | opening name =>
      have args_eq : directive.args = [name] := spells.args_eq nofun
      cases tracks with
      | closed nothing =>
          exact ⟨_, rfl, .opened last_eq rfl (by rw [args_eq]; rfl)⟩
      | opened found line_eq name_eq =>
          rw [found] at sound
          cases sound
  | member member =>
      cases tracks with
      | closed nothing =>
          rw [nothing] at sound
          cases sound
      | opened found line_eq name_eq =>
          exact ⟨_, rfl, .opened (last_eq.trans found) line_eq name_eq⟩
  | closing =>
      cases tracks with
      | closed nothing =>
          rw [nothing] at sound
          cases sound
      | opened found line_eq name_eq => exact ⟨_, rfl, .closed last_eq⟩

end Step

/-! All directives. -/

/-- The fault of directives that stand behind others. -/
def diagnosis? (before : List Directive) : List Directive → Option Fault
  | [] =>
      (lastOpening? before).map fun opening =>
        ⟨opening.line, .unclosed (opening.args.headD "")⟩
  | directive :: rest =>
      match violation? before directive with
      | some cause => some ⟨directive.line, cause⟩
      | none => diagnosis? (before ++ [directive]) rest

theorem outcome_buildFrom_strict {settings : Settings}
    (strict : settings.strict = true) {before : List Directive}
    {current : Option OpenStruct} (tracks : Tracks before current)
    (rest : List Directive) (fault : Fault) :
    (buildFrom settings current rest).outcome = .error fault ↔
      diagnosis? before rest = some fault := by
  induction rest generalizing before current with
  | nil =>
      cases tracks with
      | closed nothing => simp [buildFrom, finish, diagnosis?, nothing]
      | opened found line_eq name_eq =>
          simp [buildFrom, finish, diagnosis?, strict, found, line_eq, name_eq]
  | cons directive rest induction =>
      rw [buildFrom_cons, strict, diagnosis?]
      cases wrong : directive.defect? with
      | some cause =>
          rw [Logged.outcome_bind_of_error (outcome_interpret_of_defect wrong)]
          simp [violation?, wrong]
      | none =>
          obtain ⟨event, spells, interpreted⟩ :=
            exists_event_of_defect?_eq_none wrong
          have violation_eq : violation? before directive =
              misplacement? before directive := by
            rw [violation?, wrong, Option.none_or]
          rw [interpreted, Logged.pure_bind, violation_eq]
          cases misplaced : misplacement? before directive with
          | some cause =>
              rw [Logged.outcome_bind_of_error
                (outcome_step_of_misplacement strict tracks spells misplaced)]
              simp
          | none =>
              obtain ⟨stepped, stepped_eq, tracks_next⟩ :=
                exists_step_of_misplacement?_eq_none tracks spells misplaced
              dsimp only
              rw [stepped_eq, Logged.pure_bind, Logged.outcome_bind,
                ← induction tracks_next]
              cases (buildFrom settings stepped.2 rest).outcome <;>
                simp [Except.bind]

/-- Directives that violate no rule can be passed over. -/
theorem diagnosis?_of_clean (directives : List Directive) (index : Nat)
    (clean : ∀ earlier < index, violationAt? directives earlier = none) :
    diagnosis? [] directives =
      diagnosis? (directives.take index) (directives.drop index) := by
  induction index with
  | zero => rfl
  | succ index induction =>
      rw [induction fun earlier before => clean earlier (by omega)]
      have sound := clean index (by omega)
      by_cases inside : index < directives.length
      · have here : directives[index]? = some directives[index] :=
          List.getElem?_eq_getElem inside
        rw [violationAt?, here, Option.bind_some, Option.map_eq_none_iff]
          at sound
        rw [List.drop_eq_getElem_cons inside, diagnosis?, sound]
        dsimp only
        rw [List.take_append_getElem inside]
      · have ended : directives.length ≤ index := Nat.not_lt.mp inside
        rw [List.drop_of_length_le ended, List.take_of_length_le ended,
          List.drop_of_length_le (by omega), List.take_of_length_le (by omega)]

theorem diagnosis?_of_violation {directives : List Directive} {index : Nat}
    {fault : Fault}
    (clean : ∀ earlier < index, violationAt? directives earlier = none)
    (wrong : violationAt? directives index = some fault) :
    diagnosis? [] directives = some fault := by
  rw [diagnosis?_of_clean directives index clean]
  obtain ⟨directive, here, said⟩ := Option.bind_eq_some_iff.mp wrong
  obtain ⟨cause, violated, rfl⟩ := Option.map_eq_some_iff.mp said
  obtain ⟨inside, rfl⟩ := List.getElem?_eq_some_iff.mp here
  rw [List.drop_eq_getElem_cons inside, diagnosis?, violated]

theorem outcome_build_strict {settings : Settings}
    (strict : settings.strict = true) (directives : List Directive)
    (fault : Fault) :
    (build settings directives).outcome = .error fault ↔
      diagnosis? [] directives = some fault :=
  outcome_buildFrom_strict strict (.closed rfl) directives fault

end Fragment

namespace Description

open Directive Fragment

/-- The first violation is the fault of strict building, and without one an
open struct is.  In a text, a list of arguments that is missing anywhere comes
before both. -/
theorem strict_diagnosis {settings : Settings}
    (strict : settings.strict = true) :
    (∀ directives,
      (∀ index fault,
        (∀ earlier < index, violationAt? directives earlier = none) →
        violationAt? directives index = some fault →
          (build settings directives).outcome = .error fault) ∧
        ((∀ index, violationAt? directives index = none) →
          (∀ opening, lastOpening? directives = some opening →
            (build settings directives).outcome =
              .error ⟨opening.line, .unclosed (opening.args.headD "")⟩) ∧
          (lastOpening? directives = none →
            ∃ fragments,
              (build settings directives).outcome = .ok fragments))) ∧
      ∀ source,
        (∀ fault,
          (Line.numbered source).findSome? Line.bareFault? = some fault →
            (compile settings source).outcome = .error fault) ∧
        ((Line.numbered source).findSome? Line.bareFault? = none →
          (compile settings source).outcome =
            (build settings
              ((Line.numbered source).filterMap Line.directive?)).outcome.map
                layoutText) := by
  constructor
  · intro directives
    constructor
    · intro index fault clean wrong
      exact (outcome_build_strict strict directives fault).mpr
        (diagnosis?_of_violation clean wrong)
    · intro clean
      have diagnosed := diagnosis?_of_clean directives directives.length
        fun earlier _ => clean earlier
      rw [List.take_length, List.drop_length, diagnosis?] at diagnosed
      constructor
      · intro opening found
        rw [found] at diagnosed
        exact (outcome_build_strict strict directives _).mpr diagnosed
      · intro nothing
        rw [nothing] at diagnosed
        cases outcome : (build settings directives).outcome with
        | ok fragments => exact ⟨fragments, rfl⟩
        | error fault =>
            have faulty :=
              (outcome_build_strict strict directives fault).mp outcome
            rw [diagnosed] at faulty
            cases faulty
  · intro source
    rw [compile_eq_compileLines, outcome_compileLines]
    constructor
    · intro fault bare
      rw [bare]
    · intro listed
      rw [listed]

/-- A struct begins inside another, and more is wrong behind it. -/
def interruptedStruct : List Directive :=
  [⟨1, .opening, "BEGIN_TILING_DATA_DEF", ["A"]⟩,
    ⟨2, .scalar, "TILING_DATA_FIELD_DEF", ["T", "x"]⟩,
    ⟨5, .opening, "BEGIN_TILING_DATA_DEF", ["B"]⟩,
    ⟨6, .array, "TILING_DATA_FIELD_DEF_ARRAY", [""]⟩]

theorem strict_diagnosis_nested :
    ({} : Settings).strict = true ∧
      (∀ earlier < 2, violationAt? interruptedStruct earlier = none) ∧
      violationAt? interruptedStruct 2 = some ⟨5, .nestedOpening "A"⟩ ∧
      (build {} interruptedStruct).outcome =
        .error ⟨5, .nestedOpening "A"⟩ := by
  have clean : ∀ earlier < 2,
      violationAt? interruptedStruct earlier = none := by
    decide
  have nested : violationAt? interruptedStruct 2 =
      some ⟨5, .nestedOpening "A"⟩ := by
    decide
  exact ⟨rfl, clean, nested,
    ((strict_diagnosis rfl).1 interruptedStruct).1 2 _ clean nested⟩

end Description

end TilingHeader
