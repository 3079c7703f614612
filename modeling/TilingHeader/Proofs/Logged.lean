import TilingHeader.Logged

namespace TilingHeader.Logged

/-! When a chain of logged results gives a value, and when it does so in
silence: a result that is `pure value` has the value and no notice. -/

variable {ν ε α β γ : Type}

theorem eq_pure_iff (result : Logged ν ε α) (value : α) :
    result = pure value ↔ result.notices = [] ∧ result.outcome = .ok value := by
  cases result with
  | mk notices outcome =>
      constructor
      · intro equality
        exact Logged.mk.inj equality
      · intro parts
        obtain ⟨silent, succeeded⟩ := parts
        exact congr (congrArg Logged.mk silent) succeeded

@[simp] theorem pure_eq_pure_iff (first second : α) :
    (pure first : Logged ν ε α) = pure second ↔ first = second := by
  simp [eq_pure_iff]

@[simp] theorem fail_ne_pure (failure : ε) (value : α) :
    (fail failure : Logged ν ε α) ≠ pure value := by
  simp [eq_pure_iff]

@[simp] theorem note_ne_pure (notice : ν) (value : Unit) :
    (note notice : Logged ν ε Unit) ≠ pure value := by
  simp [eq_pure_iff]

theorem outcome_bind (first : Logged ν ε α) (next : α → Logged ν ε β) :
    (first >>= next).outcome =
      first.outcome.bind fun value => (next value).outcome := by
  cases first with
  | mk notices outcome => cases outcome <;> rfl

theorem outcome_bind_of_ok {first : Logged ν ε α} {value : α}
    (succeeded : first.outcome = .ok value) (next : α → Logged ν ε β) :
    (first >>= next).outcome = (next value).outcome := by
  rw [bind_of_ok succeeded]

theorem outcome_bind_of_error {first : Logged ν ε α} {failure : ε}
    (failed : first.outcome = .error failure) (next : α → Logged ν ε β) :
    (first >>= next).outcome = .error failure := by
  rw [bind_of_error failed]

theorem outcome_bind_eq_ok_iff {first : Logged ν ε α}
    {next : α → Logged ν ε β} {result : β} :
    (first >>= next).outcome = .ok result ↔
      ∃ value, first.outcome = .ok value ∧
        (next value).outcome = .ok result := by
  rw [outcome_bind]
  cases first.outcome <;> simp [Except.bind]

theorem outcome_bind_eq_error_iff {first : Logged ν ε α}
    {next : α → Logged ν ε β} {failure : ε} :
    (first >>= next).outcome = .error failure ↔
      first.outcome = .error failure ∨
        ∃ value, first.outcome = .ok value ∧
          (next value).outcome = .error failure := by
  rw [outcome_bind]
  cases first.outcome <;> simp [Except.bind]

/-- A value that is only built on keeps the notices. -/
theorem bind_pure_eq (first : Logged ν ε α) (build : α → β) :
    (first >>= fun value => pure (build value)) =
      ⟨first.notices, first.outcome.map build⟩ := by
  cases outcome : first.outcome with
  | error failure => rw [bind_of_error outcome, Except.map]
  | ok value =>
      rw [bind_of_ok outcome, notices_pure, outcome_pure, List.append_nil,
        Except.map]

theorem bind_assoc (first : Logged ν ε α) (next : α → Logged ν ε β)
    (last : β → Logged ν ε γ) :
    first >>= next >>= last = first >>= fun value => next value >>= last := by
  cases first_outcome : first.outcome with
  | error failure =>
      have chained_outcome := outcome_bind_of_error first_outcome next
      rw [bind_of_error chained_outcome, bind_of_error first_outcome,
        bind_of_error first_outcome]
  | ok value =>
      rw [bind_of_ok first_outcome, bind_of_ok first_outcome]
      cases next_outcome : (next value).outcome with
      | error failure =>
          rw [bind_of_error next_outcome]
          exact bind_of_error rfl last
      | ok result =>
          rw [bind_of_ok next_outcome, bind_of_ok rfl, List.append_assoc]

theorem mapError_eq_ok_iff {δ : Type} (rename : ε → δ)
    (outcome : Except ε α) (value : α) :
    outcome.mapError rename = .ok value ↔ outcome = .ok value := by
  cases outcome with
  | error failure => constructor <;> rintro ⟨⟩
  | ok result => constructor <;> rintro ⟨⟩ <;> rfl

theorem mapError_eq_error_iff {δ : Type} (rename : ε → δ)
    (outcome : Except ε α) (failure : δ) :
    outcome.mapError rename = .error failure ↔
      ∃ cause, outcome = .error cause ∧ rename cause = failure := by
  cases outcome with
  | error found =>
      constructor
      · rintro ⟨⟩
        exact ⟨found, rfl, rfl⟩
      · rintro ⟨_, ⟨⟩, rfl⟩
        rfl
  | ok value =>
      constructor
      · rintro ⟨⟩
      · rintro ⟨_, ⟨⟩, _⟩

theorem map_eq_error_iff (build : α → β) (outcome : Except ε α) (failure : ε) :
    outcome.map build = .error failure ↔ outcome = .error failure := by
  cases outcome with
  | error found => constructor <;> rintro ⟨⟩ <;> rfl
  | ok value => constructor <;> rintro ⟨⟩

theorem outcome_mapFailure_eq_ok_iff {δ : Type} (rename : ε → δ)
    (result : Logged ν ε α) (value : α) :
    (result.mapFailure rename).outcome = .ok value ↔
      result.outcome = .ok value :=
  mapError_eq_ok_iff rename result.outcome value

theorem bind_eq_pure_iff {first : Logged ν ε α} {next : α → Logged ν ε β}
    {result : β} :
    first >>= next = pure result ↔
      ∃ value, first = pure value ∧ next value = pure result := by
  constructor
  · intro chained
    obtain ⟨silent, succeeded⟩ := (eq_pure_iff _ _).mp chained
    obtain ⟨value, first_ok, next_ok⟩ := outcome_bind_eq_ok_iff.mp succeeded
    rw [bind_of_ok first_ok] at silent
    obtain ⟨first_silent, next_silent⟩ := List.append_eq_nil_iff.mp silent
    exact ⟨value, (eq_pure_iff _ _).mpr ⟨first_silent, first_ok⟩,
      (eq_pure_iff _ _).mpr ⟨next_silent, next_ok⟩⟩
  · rintro ⟨value, rfl, next_pure⟩
    rw [pure_bind, next_pure]

theorem check_bind_eq_pure_iff {check : Logged ν ε Unit}
    {next : Unit → Logged ν ε β} {result : β} :
    check >>= next = pure result ↔ check = pure () ∧ next () = pure result := by
  rw [bind_eq_pure_iff]
  constructor
  · rintro ⟨⟨⟩, both⟩
    exact both
  · exact fun both => ⟨(), both⟩

theorem notices_bind_eq_nil {first : Logged ν ε α} {next : α → Logged ν ε β}
    (first_silent : first.notices = [])
    (next_silent : ∀ value, (next value).notices = []) :
    (first >>= next).notices = [] := by
  cases outcome : first.outcome with
  | error failure => rw [bind_of_error outcome, first_silent]
  | ok value =>
      rw [bind_of_ok outcome]
      exact List.append_eq_nil_iff.mpr ⟨first_silent, next_silent value⟩

theorem mem_notices_bind {first : Logged ν ε α} {next : α → Logged ν ε β}
    {notice : ν} (told : notice ∈ (first >>= next).notices) :
    notice ∈ first.notices ∨
      ∃ value, first.outcome = .ok value ∧ notice ∈ (next value).notices := by
  cases outcome : first.outcome with
  | error failure =>
      rw [bind_of_error outcome] at told
      exact .inl told
  | ok value =>
      rw [bind_of_ok outcome, List.mem_append] at told
      exact told.imp_right fun later => ⟨value, rfl, later⟩

end TilingHeader.Logged
