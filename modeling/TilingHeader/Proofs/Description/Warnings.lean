import TilingHeader.Proofs.Description.Diagnosis
import TilingHeader.Proofs.Text.Brackets

namespace TilingHeader

/-! What tolerant building tells.  A directive can be announced three times: for
its word, for arguments that are too many and for its place behind the others.
The announcements of places, with that of a struct which stays open, run side by
side with the fragments that are not whole. -/

namespace Warning

/-- The line that the warning names. -/
def line? : Warning → Option Nat
  | .misspelled line _ _ => some line
  | .surplus line _ _ _ => some line
  | .nestedOpening line _ => some line
  | .strayClosing line => some line
  | .looseMember line _ => some line
  | .unclosed _ => none

/-- Whether the warning is about the nesting of structs. -/
def isNesting : Warning → Bool
  | .misspelled _ _ _ => false
  | .surplus _ _ _ _ => false
  | .nestedOpening _ _ => true
  | .strayClosing _ => true
  | .looseMember _ _ => true
  | .unclosed _ => true

theorem starts_message {warning : Warning} {line : Nat}
    (named : warning.line? = some line) :
    Text.Starts ("line " ++ line.repr ++ ": ") warning.message := by
  have opened {mark : String} (begun : Text.Starts ": " mark) :
      Text.Starts ("line " ++ line.repr ++ ": ")
        ("line " ++ line.repr ++ mark) :=
    begun.behind _
  have marked : Text.Starts ": " ": " := List.prefix_rfl
  cases warning with
  | misspelled _ word kind =>
      cases named
      exact (((opened (by decide +kernel)).append _).append _).append _
  | surplus _ kind expected extra =>
      cases named
      exact ((((((opened marked).append _).append _).append _).append
        _).append _).append _
  | nestedOpening _ name =>
      cases named
      exact ((opened (by decide +kernel)).append _).append _
  | strayClosing _ =>
      cases named
      exact opened (by decide +kernel)
  | looseMember _ name =>
      cases named
      exact ((opened (by decide +kernel)).append _).append _
  | unclosed name => cases named

end Warning

namespace Directive

/-- The last of the arguments that are used. -/
def memberName (directive : Directive) : String :=
  (directive.args.take (directive.kind.arity.getD 0)).getLastD ""

/-- The warning about the place of a directive, behind those before it. -/
def placeWarning? (before : List Directive) (directive : Directive) :
    Option Warning :=
  match directive.kind, lastOpening? before with
  | .opening, some opening =>
      some (.nestedOpening directive.line (opening.args.headD ""))
  | .opening, none => none
  | .closing, some _ => none
  | .closing, none => some (.strayClosing directive.line)
  | _, some _ => none
  | _, none => some (.looseMember directive.line directive.memberName)

/-- All that is told about a directive, behind those before it. -/
def warnings (before : List Directive) (directive : Directive) :
    List Warning :=
  directive.wordWarning?.toList ++ directive.surplusWarning?.toList ++
    (placeWarning? before directive).toList

/-- All that is told about directives that stand behind others. -/
def warningsFrom (before : List Directive) : List Directive → List Warning
  | [] => []
  | directive :: rest =>
      warnings before directive ++ warningsFrom (before ++ [directive]) rest

/-- The warning about the struct that the directives leave open. -/
def unclosedWarning? (directives : List Directive) : Option Warning :=
  (lastOpening? directives).map fun opening => .unclosed (opening.args.headD "")

/-! The lines and the kinds of warnings. -/

theorem line?_and_isNesting_of_wordWarning? {directive : Directive}
    {warning : Warning}
    (told : directive.wordWarning? = some warning) :
    warning.line? = some directive.line ∧ warning.isNesting = false := by
  unfold wordWarning? at told
  split at told
  · cases told
  · cases told
    exact ⟨rfl, rfl⟩

theorem line?_and_isNesting_of_surplusWarning? {directive : Directive}
    {warning : Warning}
    (told : directive.surplusWarning? = some warning) :
    warning.line? = some directive.line ∧ warning.isNesting = false := by
  unfold surplusWarning? at told
  split at told
  · cases told
  · split at told
    · cases told
    · cases told
      exact ⟨rfl, rfl⟩

theorem line?_and_isNesting_of_placeWarning? {before : List Directive}
    {directive : Directive} {warning : Warning}
    (told : placeWarning? before directive = some warning) :
    warning.line? = some directive.line ∧ warning.isNesting = true := by
  unfold placeWarning? at told
  split at told <;> cases told <;> exact ⟨rfl, rfl⟩

theorem line?_of_mem_warnings {before : List Directive}
    {directive : Directive} {warning : Warning}
    (told : warning ∈ warnings before directive) :
    warning.line? = some directive.line := by
  rw [warnings, List.mem_append, List.mem_append, Option.mem_toList,
    Option.mem_toList, Option.mem_toList] at told
  rcases told with (word | surplus) | place
  · exact (line?_and_isNesting_of_wordWarning? word).1
  · exact (line?_and_isNesting_of_surplusWarning? surplus).1
  · exact (line?_and_isNesting_of_placeWarning? place).1

theorem filter_warnings (before : List Directive) (directive : Directive) :
    (warnings before directive).filter Warning.isNesting =
      (placeWarning? before directive).toList := by
  have others_dropped :
      (directive.wordWarning?.toList ++
        directive.surplusWarning?.toList).filter Warning.isNesting = [] := by
    rw [List.filter_eq_nil_iff]
    intro warning told
    rw [List.mem_append, Option.mem_toList, Option.mem_toList] at told
    rcases told with word | surplus
    · simp [(line?_and_isNesting_of_wordWarning? word).2]
    · simp [(line?_and_isNesting_of_surplusWarning? surplus).2]
  have place_kept :
      (placeWarning? before directive).toList.filter Warning.isNesting =
        (placeWarning? before directive).toList := by
    rw [List.filter_eq_self]
    intro warning told
    exact (line?_and_isNesting_of_placeWarning? (Option.mem_toList.mp told)).2
  rw [warnings, List.filter_append, others_dropped, place_kept,
    List.nil_append]

/-! A directive in its place. -/

theorem placeWarning?_of_opening {directive : Directive} {name : String}
    (means : directive.Means (.opening name)) (before : List Directive) :
    placeWarning? before directive =
      (lastOpening? before).map fun opening =>
        .nestedOpening directive.line (opening.args.headD "") := by
  rw [placeWarning?, means.kind_eq, Event.kind]
  cases lastOpening? before <;> rfl

theorem placeWarning?_of_member {directive : Directive} {member : Member}
    (means : directive.Means (.member member)) (before : List Directive) :
    placeWarning? before directive =
      if (lastOpening? before).isSome then none
      else some (.looseMember directive.line member.name) := by
  have name_eq : directive.memberName = member.name := by
    obtain ⟨rest, args_eq⟩ := means.arguments_prefix
    rw [memberName, means.kind_eq, ← args_eq]
    cases member <;> rfl
  rw [placeWarning?, means.kind_eq, name_eq]
  cases member <;> cases lastOpening? before <;> rfl

theorem placeWarning?_of_closing {directive : Directive}
    (means : directive.Means .closing) (before : List Directive) :
    placeWarning? before directive =
      if (lastOpening? before).isSome then none
      else some (.strayClosing directive.line) := by
  rw [placeWarning?, means.kind_eq, Event.kind]
  cases lastOpening? before <;> rfl

theorem Means.headD_args {directive : Directive} {name : String}
    (means : directive.Means (.opening name)) :
    directive.args.headD "" = name := by
  obtain ⟨rest, args_eq⟩ := means.arguments_prefix
  rw [← args_eq]
  rfl

end Directive

namespace Fragment

open Directive

/-- A warning for each fragment that is not whole, in their order.  A struct is
left open by the beginning of another or by the end. -/
inductive Announced : List Fragment → List Warning → Prop
  | nothing : Announced [] []
  | whole (body : PackedStruct) {fragments : List Fragment}
      {warnings : List Warning} (rest : Announced fragments warnings) :
      Announced (.whole body :: fragments) warnings
  | interrupted (line : Nat) (body : PackedStruct)
      {fragments : List Fragment} {warnings : List Warning}
      (followed : fragments ≠ []) (rest : Announced fragments warnings) :
      Announced (.unclosed body :: fragments)
        (.nestedOpening line body.name :: warnings)
  | unclosed (body : PackedStruct) :
      Announced [.unclosed body] [.unclosed body.name]
  | loose (line : Nat) (member : Member) {fragments : List Fragment}
      {warnings : List Warning} (rest : Announced fragments warnings) :
      Announced (.loose member :: fragments)
        (.looseMember line member.name :: warnings)
  | stray (line : Nat) {fragments : List Fragment} {warnings : List Warning}
      (rest : Announced fragments warnings) :
      Announced (.strayClosing :: fragments) (.strayClosing line :: warnings)

/-- What tolerant reading makes of an event: the fragment that it completes,
the struct that is open after it and the warning that it gives. -/
inductive Tolerates (packAlignment line : Nat) : Option OpenStruct → Event →
    Option Fragment → Option OpenStruct → Option Warning → Prop
  | opened (name : String) :
      Tolerates packAlignment line none (.opening name)
        none (some (.start line packAlignment name)) none
  | interrupted (current : OpenStruct) (name : String) :
      Tolerates packAlignment line (some current) (.opening name)
        (some (.unclosed current.body))
        (some (.start line packAlignment name))
        (some (.nestedOpening line current.body.name))
  | added (current : OpenStruct) (member : Member) :
      Tolerates packAlignment line (some current) (.member member)
        none (some (current.add member)) none
  | loose (member : Member) :
      Tolerates packAlignment line none (.member member)
        (some (.loose member)) none (some (.looseMember line member.name))
  | closed (current : OpenStruct) :
      Tolerates packAlignment line (some current) .closing
        (some (.whole current.body)) none none
  | stray :
      Tolerates packAlignment line none .closing
        (some .strayClosing) none (some (.strayClosing line))

theorem step_tolerant {settings : Settings}
    (tolerant : settings.strict = false) (line : Nat)
    (current : Option OpenStruct) (event : Event) :
    ∃ completed next warning?,
      step settings line current event =
          ⟨warning?.toList, .ok (completed, next)⟩ ∧
        Tolerates settings.packAlignment line current event
          completed next warning? := by
  cases event with
  | opening name =>
      cases current with
      | none => exact ⟨_, _, _, rfl, .opened name⟩
      | some current =>
          refine ⟨_, _, _, ?_, .interrupted current name⟩
          simp only [step, tolerant]
          rfl
  | member member =>
      cases current with
      | none =>
          refine ⟨_, _, _, ?_, .loose member⟩
          simp only [step, tolerant]
          rfl
      | some current => exact ⟨_, _, _, rfl, .added current member⟩
  | closing =>
      cases current with
      | none =>
          refine ⟨_, _, _, ?_, .stray⟩
          simp only [step, tolerant]
          rfl
      | some current => exact ⟨_, _, _, rfl, .closed current⟩

section Step

variable {packAlignment line : Nat} {current next : Option OpenStruct}
  {event : Event} {completed : Option Fragment} {warning? : Option Warning}

/-- A struct that is open will still give a fragment. -/
theorem Tolerates.announced
    (tolerates : Tolerates packAlignment line current event
      completed next warning?)
    {fragments : List Fragment} {warnings : List Warning}
    (announced : Announced fragments warnings)
    (followed : next.isSome → fragments ≠ []) :
    Announced (completed.toList ++ fragments) (warning?.toList ++ warnings) ∧
      (current.isSome → completed.toList ++ fragments ≠ []) := by
  cases tolerates with
  | opened name => exact ⟨announced, nofun⟩
  | interrupted current name =>
      exact ⟨.interrupted line current.body (followed rfl) announced, nofun⟩
  | added current member => exact ⟨announced, fun _ => followed rfl⟩
  | loose member => exact ⟨.loose line member announced, nofun⟩
  | closed current => exact ⟨.whole current.body announced, nofun⟩
  | stray => exact ⟨.stray line announced, nofun⟩

theorem Tolerates.tracks {before : List Directive} {directive : Directive}
    (tolerates : Tolerates packAlignment directive.line current event
      completed next warning?)
    (tracks : Tracks before current) (means : directive.Means event) :
    warning? = placeWarning? before directive ∧
      Tracks (before ++ [directive]) next := by
  have last_eq := means.lastOpening?_concat before
  cases tolerates with
  | opened name =>
      cases tracks with
      | closed nothing =>
          rw [placeWarning?_of_opening means, nothing]
          exact ⟨rfl, .opened last_eq rfl means.headD_args.symm⟩
  | interrupted current name =>
      cases tracks with
      | opened found line_eq name_eq =>
          rw [placeWarning?_of_opening means, found, name_eq]
          exact ⟨rfl, .opened last_eq rfl means.headD_args.symm⟩
  | added current member =>
      cases tracks with
      | opened found line_eq name_eq =>
          rw [placeWarning?_of_member means, found]
          exact ⟨rfl, .opened (last_eq.trans found) line_eq name_eq⟩
  | loose member =>
      cases tracks with
      | closed nothing =>
          rw [placeWarning?_of_member means, nothing]
          exact ⟨rfl, .closed (last_eq.trans nothing)⟩
  | closed current =>
      cases tracks with
      | opened found line_eq name_eq =>
          rw [placeWarning?_of_closing means, found]
          exact ⟨rfl, .closed last_eq⟩
  | stray =>
      cases tracks with
      | closed nothing =>
          rw [placeWarning?_of_closing means, nothing]
          exact ⟨rfl, .closed last_eq⟩

end Step

/-! All directives. -/

section Run

variable {settings : Settings} {before : List Directive}
  {current : Option OpenStruct}

theorem finish_tolerant (tolerant : settings.strict = false)
    (tracks : Tracks before current) :
    ∃ fragments,
      finish settings current =
          ⟨(unclosedWarning? before).toList, .ok fragments⟩ ∧
        Announced fragments (unclosedWarning? before).toList ∧
        (current.isSome → fragments ≠ []) := by
  cases tracks with
  | closed nothing =>
      rw [unclosedWarning?, nothing]
      exact ⟨[], rfl, .nothing, nofun⟩
  | opened found line_eq name_eq =>
      rename_i opening current
      rw [unclosedWarning?, found, Option.map_some, ← name_eq]
      refine ⟨[.unclosed current.body], ?_, .unclosed current.body, nofun⟩
      simp only [finish, tolerant]
      rfl

/-- A directive that means an event is told about, and the rest is built on the
struct that is open behind it. -/
theorem exists_buildFrom_cons_of_event (tolerant : settings.strict = false)
    (tracks : Tracks before current) {directive : Directive} {event : Event}
    (understood : directive.event? = some event) (rest : List Directive) :
    ∃ completed next,
      Tolerates settings.packAlignment directive.line current event
          completed next (placeWarning? before directive) ∧
        Tracks (before ++ [directive]) next ∧
        buildFrom settings current (directive :: rest) =
          ⟨warnings before directive ++ (buildFrom settings next rest).notices,
            (buildFrom settings next rest).outcome.map
              (completed.toList ++ ·)⟩ := by
  obtain ⟨completed, next, warning?, stepped, tolerates⟩ :=
    step_tolerant tolerant directive.line current event
  have means := (event?_eq_some_iff directive event).mp understood
  obtain ⟨warning_eq, tracks_next⟩ := tolerates.tracks tracks means
  refine ⟨completed, next, warning_eq ▸ tolerates, tracks_next, ?_⟩
  rw [buildFrom_cons, tolerant, interpret_tolerant_of_event understood,
    Logged.bind_of_ok rfl, stepped, Logged.bind_of_ok rfl]
  dsimp only
  rw [Logged.bind_pure_eq, warning_eq, warnings, List.append_assoc _ _
    (buildFrom settings next rest).notices]

theorem buildFrom_of_event (tolerant : settings.strict = false)
    (tracks : Tracks before current) (rest : List Directive)
    (enough : ∀ directive ∈ rest, directive.shortage? = none) :
    ∃ fragments,
      buildFrom settings current rest =
          ⟨warningsFrom before rest ++
              (unclosedWarning? (before ++ rest)).toList, .ok fragments⟩ ∧
        Announced fragments
          ((warningsFrom before rest).filter Warning.isNesting ++
            (unclosedWarning? (before ++ rest)).toList) ∧
        (current.isSome → fragments ≠ []) := by
  induction rest generalizing before current with
  | nil =>
      rw [List.append_nil]
      exact finish_tolerant tolerant tracks
  | cons directive rest induction =>
      obtain ⟨enough_here, enough_rest⟩ := List.forall_mem_cons.mp enough
      obtain ⟨event, understood⟩ :=
        exists_event_of_shortage?_eq_none enough_here
      obtain ⟨completed, next, tolerates, tracks_next, built⟩ :=
        exists_buildFrom_cons_of_event tolerant tracks understood rest
      obtain ⟨others, others_built, announced, followed⟩ :=
        induction tracks_next enough_rest
      have regrouped : before ++ [directive] ++ rest =
          before ++ directive :: rest := by
        rw [List.append_assoc, List.singleton_append]
      rw [regrouped] at others_built announced
      obtain ⟨announced_all, followed_all⟩ :=
        tolerates.announced announced followed
      refine ⟨completed.toList ++ others, ?_, ?_, followed_all⟩
      · rw [built, others_built, warningsFrom, List.append_assoc]
        rfl
      · rw [warningsFrom, List.filter_append, filter_warnings,
          List.append_assoc]
        exact announced_all

theorem buildFrom_of_shortage (tolerant : settings.strict = false)
    (tracks : Tracks before current) {earlier : List Directive}
    (enough : ∀ directive ∈ earlier, directive.shortage? = none)
    {directive : Directive} {fault : Fault}
    (short : directive.shortage? = some fault) (later : List Directive) :
    buildFrom settings current (earlier ++ directive :: later) =
      ⟨warningsFrom before earlier ++ directive.wordWarning?.toList,
        .error fault⟩ := by
  induction earlier generalizing before current with
  | nil =>
      rw [List.nil_append, buildFrom_cons, tolerant,
        interpret_tolerant_of_shortage short, Logged.bind_of_error rfl]
      rfl
  | cons first earlier induction =>
      obtain ⟨enough_here, enough_rest⟩ := List.forall_mem_cons.mp enough
      obtain ⟨event, understood⟩ :=
        exists_event_of_shortage?_eq_none enough_here
      obtain ⟨completed, next, tolerates, tracks_next, built⟩ :=
        exists_buildFrom_cons_of_event tolerant tracks understood
          (earlier ++ directive :: later)
      rw [List.cons_append, built, induction tracks_next enough_rest,
        warningsFrom, List.append_assoc]
      rfl

end Run

theorem shortage?_of_outcome_build {settings : Settings}
    (tolerant : settings.strict = false) (directives : List Directive) :
    ((∃ fragments, (build settings directives).outcome = .ok fragments) →
        ∀ directive ∈ directives, directive.shortage? = none) ∧
      ∀ fault, (build settings directives).outcome = .error fault →
        directives.findSome? Directive.shortage? = some fault := by
  rw [build, outcome_buildFrom_tolerant tolerant]
  cases found : directives.findSome? Directive.shortage? with
  | none =>
      refine ⟨fun _ => List.findSome?_eq_none_iff.mp found, ?_⟩
      intro fault failed
      cases failed
  | some fault =>
      refine ⟨fun built => ?_, fun other failed => ?_⟩
      · obtain ⟨fragments, built⟩ := built
        cases built
      · cases failed
        rfl

/-- What tolerant building tells about each directive, on its own line; which
fragments the warnings about nesting announce; and where it stops. -/
theorem build_warnings {settings : Settings}
    (tolerant : settings.strict = false) (directives : List Directive) :
    (∀ fragments, (build settings directives).outcome = .ok fragments →
      (build settings directives).notices =
          warningsFrom [] directives ++
            (unclosedWarning? directives).toList ∧
        Announced fragments
          ((build settings directives).notices.filter Warning.isNesting)) ∧
      (∀ fault, (build settings directives).outcome = .error fault →
        ∃ earlier directive later,
          directives = earlier ++ directive :: later ∧
            (∀ other ∈ earlier, other.shortage? = none) ∧
            directive.shortage? = some fault ∧
            (build settings directives).notices =
              warningsFrom [] earlier ++ directive.wordWarning?.toList) ∧
      ∀ before directive, ∀ warning ∈ warnings before directive,
        warning.line? = some directive.line ∧
          Text.Starts ("line " ++ directive.line.repr ++ ": ")
            warning.message := by
  obtain ⟨enough_of_ok, found_of_error⟩ :=
    shortage?_of_outcome_build tolerant directives
  have tracks : Tracks [] none := .closed rfl
  refine ⟨?_, ?_, ?_⟩
  · intro fragments succeeded
    obtain ⟨others, built, announced, _⟩ :=
      buildFrom_of_event tolerant tracks directives
        (enough_of_ok ⟨fragments, succeeded⟩)
    rw [build, built] at succeeded ⊢
    cases succeeded
    have unclosed_kept :
        (unclosedWarning? directives).toList.filter Warning.isNesting =
          (unclosedWarning? directives).toList := by
      rw [unclosedWarning?]
      cases lastOpening? directives <;> rfl
    refine ⟨rfl, ?_⟩
    dsimp only
    rw [List.nil_append, List.filter_append, unclosed_kept]
    exact announced
  · intro fault failed
    obtain ⟨earlier, directive, later, parted, short, enough⟩ :=
      List.findSome?_eq_some_iff.mp (found_of_error fault failed)
    refine ⟨earlier, directive, later, parted, enough, short, ?_⟩
    rw [build, parted, buildFrom_of_shortage tolerant tracks enough short]
  · intro before directive warning told
    have named := line?_of_mem_warnings told
    exact ⟨named, Warning.starts_message named⟩

/-- Every way of being tolerated. -/
def carelessStructs : List Directive :=
  [⟨1, .closing, "END_TILING_DATA_DEF", []⟩,
    ⟨3, .opening, "BEGIN_TILING_DATA_DEFS", ["A", "B", "C"]⟩,
    ⟨4, .opening, "BEGIN_TILING_DATA_DEF", ["D"]⟩,
    ⟨5, .closing, "END_TILING_DATA_DEF", []⟩,
    ⟨7, .scalar, "TILING_DATA_FIELD_DEF_V2", ["T", "x", "7"]⟩,
    ⟨9, .opening, "BEGIN_TILING_DATA_DEF", ["E"]⟩]

/-- A misspelled member without a name. -/
def namelessMember : Directive :=
  ⟨10, .array, "TILING_DATA_FIELD_DEF_ARRAY", ["T", "4"]⟩

theorem build_warnings_careless :
    ((build { strict := false } carelessStructs).notices =
        [.strayClosing 1,
          .misspelled 3 "BEGIN_TILING_DATA_DEFS" .opening,
          .surplus 3 .opening 1 2,
          .nestedOpening 4 "A",
          .misspelled 7 "TILING_DATA_FIELD_DEF_V2" .scalar,
          .surplus 7 .scalar 2 1,
          .looseMember 7 "x",
          .unclosed "E"] ∧
      Announced
        [.strayClosing, .unclosed ⟨"A", 8, []⟩, .whole ⟨"D", 8, []⟩,
          .loose (.scalar "T" "x"), .unclosed ⟨"E", 8, []⟩]
        ((build { strict := false } carelessStructs).notices.filter
          Warning.isNesting)) ∧
      ∃ earlier directive later,
        carelessStructs ++ [namelessMember] =
            earlier ++ directive :: later ∧
          (∀ other ∈ earlier, other.shortage? = none) ∧
          directive.shortage? = some ⟨10, .wrongCount .array 3 2⟩ ∧
          (build { strict := false }
            (carelessStructs ++ [namelessMember])).notices =
              warningsFrom [] earlier ++ directive.wordWarning?.toList :=
  ⟨(build_warnings rfl carelessStructs).1 _ (by decide +kernel),
    (build_warnings rfl (carelessStructs ++ [namelessMember])).2.1 _
      (by decide +kernel)⟩

end Fragment

end TilingHeader
