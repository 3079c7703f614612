import Mathlib.Data.List.Forall2
import TilingHeader.Proofs.Directive.Meaning
import TilingHeader.Proofs.Layout.Arrangement

namespace TilingHeader

/-! Building, compared with the arrangement of the events that the directives
stand for.  Tolerant reading arranges them whatever they are.  Reading that
gives no notice, in either mode, arranges the events that are spelled out, and
they fall into whole structs. -/

/-- A check of the nesting: what is sound passes in silence, what is not is
refused by strict reading and noted by tolerant reading. -/
inductive Judged {α : Type} (strict : Bool) (sound : Prop) (value : α) :
    Reading α → Prop
  | passed (holds : sound) : Judged strict sound value (pure value)
  | refused (fails : ¬ sound) (mode : strict = true) (fault : Fault) :
      Judged strict sound value (.fail fault)
  | noted (fails : ¬ sound) (mode : strict = false) (warning : Warning) :
      Judged strict sound value (.note warning >>= fun _ => pure value)

namespace Judged

variable {α : Type} {strict : Bool} {sound : Prop} {value : α}
  {result : Reading α}

theorem of_unsound (strict : Bool) (fails : ¬ sound) (fault : Fault)
    (warning : Warning) :
    Judged strict sound value
      (if strict then .fail fault
        else .note warning >>= fun _ => pure value) := by
  cases strict with
  | true => exact .refused fails rfl fault
  | false => exact .noted fails rfl warning

theorem outcome_tolerant (judged : Judged strict sound value result)
    (tolerant : strict = false) : result.outcome = .ok value := by
  cases judged with
  | passed holds => rfl
  | refused fails mode fault =>
      rw [tolerant] at mode
      cases mode
  | noted fails mode warning => rfl

theorem notices_strict (judged : Judged strict sound value result)
    (mode : strict = true) : result.notices = [] := by
  cases judged with
  | passed holds => rfl
  | refused fails mode fault => rfl
  | noted fails tolerant warning =>
      rw [mode] at tolerant
      cases tolerant

theorem eq_of_outcome (judged : Judged strict sound value result) {other : α}
    (given : result.outcome = .ok other) : value = other := by
  cases judged with
  | passed holds => exact Except.ok.inj given
  | refused fails mode fault => cases given
  | noted fails mode warning => exact Except.ok.inj given

theorem eq_pure_iff (judged : Judged strict sound value result) (other : α) :
    result = pure other ↔ sound ∧ value = other := by
  cases judged with
  | passed holds =>
      rw [Logged.pure_eq_pure_iff]
      exact ⟨fun equality => ⟨holds, equality⟩, fun both => both.2⟩
  | refused fails mode fault =>
      exact ⟨fun equality => absurd equality (Logged.fail_ne_pure _ _),
        fun both => absurd both.1 fails⟩
  | noted fails mode warning =>
      constructor
      · intro equality
        have noted_pure := (Logged.check_bind_eq_pure_iff.mp equality).1
        exact absurd noted_pure (Logged.note_ne_pure _ _)
      · exact fun both => absurd both.1 fails

end Judged

namespace Fragment

/-- What a step can do, in either mode. -/
theorem step_judged (settings : Settings) (line : Nat)
    (current : Option OpenStruct) (event : Event) :
    ∃ completed next,
      advance settings.packAlignment (current.map OpenStruct.body) event =
          (completed, next.map OpenStruct.body) ∧
        Judged settings.strict (∀ fragment ∈ completed, fragment.IsWhole)
          (completed, next) (step settings line current event) := by
  cases event with
  | opening name =>
      let started := OpenStruct.start line settings.packAlignment name
      cases current with
      | none => exact ⟨none, some started, rfl, .passed (by simp)⟩
      | some current =>
          exact ⟨some (.unclosed current.body), some started, rfl,
            .of_unsound _ (by simp [IsWhole]) _ _⟩
  | member member =>
      cases current with
      | none =>
          exact ⟨some (.loose member), none, rfl,
            .of_unsound _ (by simp [IsWhole]) _ _⟩
      | some current =>
          exact ⟨none, some (current.add member), rfl, .passed (by simp)⟩
  | closing =>
      cases current with
      | none =>
          exact ⟨some .strayClosing, none, rfl,
            .of_unsound _ (by simp [IsWhole]) _ _⟩
      | some current =>
          exact ⟨some (.whole current.body), none, rfl,
            .passed (by simp [IsWhole])⟩

theorem finish_judged (settings : Settings) (current : Option OpenStruct) :
    Judged settings.strict
      (∀ fragment ∈ arrange settings.packAlignment
        (current.map OpenStruct.body) [], fragment.IsWhole)
      (arrange settings.packAlignment (current.map OpenStruct.body) [])
      (finish settings current) := by
  cases current with
  | none => exact .passed (by simp [arrange])
  | some current => exact .of_unsound _ (by simp [arrange, IsWhole]) _ _

theorem buildFrom_cons (settings : Settings) (current : Option OpenStruct)
    (directive : Directive) (rest : List Directive) :
    buildFrom settings current (directive :: rest) =
      directive.interpret settings.strict >>= fun event =>
        step settings directive.line current event >>= fun stepped =>
          buildFrom settings stepped.2 rest >>= fun others =>
            pure (stepped.1.toList ++ others) := rfl

/-- Tolerant building stops at the first directive with too few arguments. -/
theorem outcome_buildFrom_tolerant {settings : Settings}
    (tolerant : settings.strict = false) (current : Option OpenStruct)
    (directives : List Directive) :
    (buildFrom settings current directives).outcome =
      match directives.findSome? Directive.shortage? with
      | some fault => .error fault
      | none => .ok (arrange settings.packAlignment
          (current.map OpenStruct.body)
          (directives.filterMap Directive.event?)) := by
  induction directives generalizing current with
  | nil => exact (finish_judged settings current).outcome_tolerant tolerant
  | cons directive rest induction =>
      rw [buildFrom_cons, tolerant]
      cases short : directive.shortage? with
      | some fault =>
          rw [Logged.outcome_bind_of_error
            (Directive.outcome_interpret_of_shortage short)]
          simp only [List.findSome?_cons, short]
      | none =>
          obtain ⟨event, understood⟩ :=
            Directive.exists_event_of_shortage?_eq_none short
          obtain ⟨completed, next, advanced, judged⟩ :=
            step_judged settings directive.line current event
          rw [Logged.outcome_bind_of_ok
              (Directive.outcome_interpret_of_event understood),
            Logged.outcome_bind_of_ok (judged.outcome_tolerant tolerant),
            Logged.outcome_bind, induction]
          simp only [List.findSome?_cons, short,
            List.filterMap_cons_some understood, arrange, advanced]
          cases rest.findSome? Directive.shortage? <;> rfl

/-- Building is silent, in either mode, exactly if every directive is and the
events fall into whole structs. -/
theorem buildFrom_eq_pure_iff (settings : Settings)
    (current : Option OpenStruct) (directives : List Directive)
    (fragments : List Fragment) :
    buildFrom settings current directives = pure fragments ↔
      ∃ steps, List.Forall₂
          (fun directive event =>
            directive.interpret settings.strict = pure event)
          directives steps ∧
        arrange settings.packAlignment (current.map OpenStruct.body) steps =
          fragments ∧
        ∀ fragment ∈ fragments, fragment.IsWhole := by
  induction directives generalizing current fragments with
  | nil =>
      rw [buildFrom, (finish_judged settings current).eq_pure_iff]
      constructor
      · rintro ⟨whole, rfl⟩
        exact ⟨[], .nil, rfl, whole⟩
      · rintro ⟨steps, matched, rfl, whole⟩
        cases matched
        exact ⟨whole, rfl⟩
  | cons directive rest induction =>
      constructor
      · intro built
        obtain ⟨event, interpreted, built⟩ := Logged.bind_eq_pure_iff.mp built
        obtain ⟨completed, next, advanced, judged⟩ :=
          step_judged settings directive.line current event
        obtain ⟨_, stepped, built⟩ := Logged.bind_eq_pure_iff.mp built
        obtain ⟨completed_whole, equality⟩ := (judged.eq_pure_iff _).mp stepped
        cases equality
        obtain ⟨others, built, joined⟩ := Logged.bind_eq_pure_iff.mp built
        obtain ⟨steps, matched, arranged, others_whole⟩ :=
          (induction next others).mp built
        have fragments_eq : completed.toList ++ others = fragments :=
          (Logged.pure_eq_pure_iff _ _).mp joined
        subst fragments_eq
        refine ⟨event :: steps, .cons interpreted matched, ?_, ?_⟩
        · rw [arrange, advanced, arranged]
        · intro fragment member
          rcases List.mem_append.mp member with here | later
          · exact completed_whole fragment (Option.mem_toList.mp here)
          · exact others_whole fragment later
      · intro understood
        obtain ⟨steps, matched, arranged, whole⟩ := understood
        cases matched with
        | @cons _ event _ rest_steps interpreted matched =>
            obtain ⟨completed, next, advanced, judged⟩ :=
              step_judged settings directive.line current event
            rw [arrange, advanced] at arranged
            subst arranged
            have completed_whole : ∀ fragment ∈ completed, fragment.IsWhole :=
              fun fragment member => whole fragment
                (List.mem_append_left _ (Option.mem_toList.mpr member))
            have stepped := (judged.eq_pure_iff _).mpr ⟨completed_whole, rfl⟩
            have built := (induction next _).mpr ⟨rest_steps, matched, rfl,
              fun fragment member =>
                whole fragment (List.mem_append_right _ member)⟩
            rw [buildFrom_cons, interpreted, Logged.pure_bind, stepped,
              Logged.pure_bind, built, Logged.pure_bind]

theorem notices_buildFrom_strict {settings : Settings}
    (strict : settings.strict = true) (current : Option OpenStruct)
    (directives : List Directive) :
    (buildFrom settings current directives).notices = [] := by
  induction directives generalizing current with
  | nil => exact (finish_judged settings current).notices_strict strict
  | cons directive rest induction =>
      rw [buildFrom_cons, strict]
      refine Logged.notices_bind_eq_nil
        directive.notices_interpret_strict fun event => ?_
      obtain ⟨_, _, _, judged⟩ :=
        step_judged settings directive.line current event
      refine Logged.notices_bind_eq_nil (judged.notices_strict strict)
        fun stepped => ?_
      exact Logged.notices_bind_eq_nil (induction stepped.2) fun _ => rfl

theorem forall₂_means_iff (directives : List Directive)
    (steps : List Event) :
    List.Forall₂ Directive.Means directives steps ↔
      directives.findSome? Directive.shortage? = none ∧
        directives.filterMap Directive.event? = steps := by
  induction directives generalizing steps with
  | nil => simp [eq_comm]
  | cons directive rest induction =>
      constructor
      · rintro (_ | ⟨means, matched⟩)
        have understood := (Directive.event?_eq_some_iff _ _).mpr means
        obtain ⟨enough, filtered⟩ := (induction _).mp matched
        constructor
        · simp only [List.findSome?_cons, enough,
            Directive.shortage?_eq_none_of_event understood]
        · rw [List.filterMap_cons_some understood, filtered]
      · rintro ⟨enough, rfl⟩
        cases short : directive.shortage? with
        | some fault => simp [short] at enough
        | none =>
            obtain ⟨event, understood⟩ :=
              Directive.exists_event_of_shortage?_eq_none short
            rw [List.filterMap_cons_some understood]
            refine .cons ((Directive.event?_eq_some_iff _ _).mp understood)
              ((induction _).mpr ⟨?_, rfl⟩)
            simpa only [List.findSome?_cons, short] using enough

theorem filled_of_spells {directives : List Directive} {steps : List Event}
    (spells : List.Forall₂ Directive.Spells directives steps)
    (filled : ∀ event ∈ steps, "" ∉ event.arguments) :
    ∀ directive ∈ directives, directive.Filled := by
  induction spells with
  | nil => exact nofun
  | cons spelled _ induction =>
      obtain ⟨event_filled, rest_filled⟩ := List.forall_mem_cons.mp filled
      exact List.forall_mem_cons.mpr
        ⟨spelled.filled_iff.mpr event_filled, induction rest_filled⟩

theorem outcome_build_tolerant_iff {settings : Settings}
    (tolerant : settings.strict = false) (directives : List Directive)
    (fragments : List Fragment) :
    (build settings directives).outcome = .ok fragments ↔
      ∃ steps, List.Forall₂ Directive.Means directives steps ∧
        arrange settings.packAlignment none steps = fragments := by
  rw [build, outcome_buildFrom_tolerant tolerant]
  simp only [forall₂_means_iff, Option.map_none]
  cases directives.findSome? Directive.shortage? <;> simp

theorem notices_build_strict {settings : Settings}
    (strict : settings.strict = true) (directives : List Directive) :
    (build settings directives).notices = [] :=
  notices_buildFrom_strict strict none directives

theorem outcome_build_strict_iff {settings : Settings}
    (strict : settings.strict = true) (directives : List Directive)
    (fragments : List Fragment) :
    (build settings directives).outcome = .ok fragments ↔
      build settings directives = pure fragments := by
  rw [Logged.eq_pure_iff]
  exact (and_iff_right (notices_build_strict strict directives)).symm

theorem build_eq_pure_iff (settings : Settings) (directives : List Directive)
    (fragments : List Fragment) :
    build settings directives = pure fragments ↔
      (∀ directive ∈ directives,
          settings.strict = true → directive.Filled) ∧
        ∃ steps, List.Forall₂ Directive.Spells directives steps ∧
          arrange settings.packAlignment none steps = fragments ∧
          ∀ fragment ∈ fragments, fragment.IsWhole := by
  rw [build, buildFrom_eq_pure_iff]
  simp only [Directive.interpret_eq_pure_iff, List.forall₂_and_left, and_assoc,
    exists_and_left]
  rfl

/-- In either mode the fragments are the arrangement of what the directives
mean. -/
theorem exists_steps_of_build {settings : Settings}
    {directives : List Directive} {fragments : List Fragment}
    (built : (build settings directives).outcome = .ok fragments) :
    ∃ steps, List.Forall₂ Directive.Means directives steps ∧
      arrange settings.packAlignment none steps = fragments ∧
      (settings.strict = true → ∀ fragment ∈ fragments, fragment.IsWhole) := by
  cases mode : settings.strict with
  | false =>
      obtain ⟨steps, matched, arranged⟩ :=
        (outcome_build_tolerant_iff mode directives fragments).mp built
      exact ⟨steps, matched, arranged, nofun⟩
  | true =>
      obtain ⟨_, steps, matched, arranged, whole⟩ :=
        (build_eq_pure_iff settings directives fragments).mp
          ((outcome_build_strict_iff mode directives fragments).mp built)
      exact ⟨steps, matched.imp fun _ _ => Directive.Spells.means, arranged,
        fun _ => whole⟩

end Fragment

end TilingHeader
