namespace TilingHeader

/-! A result together with the notices given on the way to it.  A failure keeps
the notices that came before it. -/

structure Logged (ν ε α : Type) where
  notices : List ν
  outcome : Except ε α

namespace Logged

variable {ν μ ε δ α β : Type}

protected def pure (value : α) : Logged ν ε α :=
  ⟨[], .ok value⟩

protected def bind (first : Logged ν ε α) (next : α → Logged ν ε β) :
    Logged ν ε β :=
  match first.outcome with
  | .error failure => ⟨first.notices, .error failure⟩
  | .ok value => ⟨first.notices ++ (next value).notices, (next value).outcome⟩

instance : Monad (Logged ν ε) where
  pure := Logged.pure
  bind := Logged.bind

def fail (failure : ε) : Logged ν ε α :=
  ⟨[], .error failure⟩

def note (notice : ν) : Logged ν ε Unit :=
  ⟨[notice], .ok ()⟩

def noteAll (notices : List ν) : Logged ν ε Unit :=
  ⟨notices, .ok ()⟩

def ofExcept (outcome : Except ε α) : Logged ν ε α :=
  ⟨[], outcome⟩

def mapNotices (rename : ν → μ) (result : Logged ν ε α) : Logged μ ε α :=
  ⟨result.notices.map rename, result.outcome⟩

def mapFailure (rename : ε → δ) (result : Logged ν ε α) : Logged ν δ α :=
  ⟨result.notices, result.outcome.mapError rename⟩

@[simp] theorem notices_pure (value : α) :
    (pure value : Logged ν ε α).notices = [] := rfl

@[simp] theorem outcome_pure (value : α) :
    (pure value : Logged ν ε α).outcome = .ok value := rfl

@[simp] theorem notices_fail (failure : ε) :
    (fail failure : Logged ν ε α).notices = [] := rfl

@[simp] theorem outcome_fail (failure : ε) :
    (fail failure : Logged ν ε α).outcome = .error failure := rfl

@[simp] theorem notices_note (notice : ν) :
    (note notice : Logged ν ε Unit).notices = [notice] := rfl

@[simp] theorem outcome_note (notice : ν) :
    (note notice : Logged ν ε Unit).outcome = .ok () := rfl

theorem bind_of_ok {first : Logged ν ε α} {value : α}
    (succeeded : first.outcome = .ok value) (next : α → Logged ν ε β) :
    first >>= next =
      ⟨first.notices ++ (next value).notices, (next value).outcome⟩ := by
  change Logged.bind first next = _
  simp [Logged.bind, succeeded]

theorem bind_of_error {first : Logged ν ε α} {failure : ε}
    (failed : first.outcome = .error failure) (next : α → Logged ν ε β) :
    first >>= next = ⟨first.notices, .error failure⟩ := by
  change Logged.bind first next = _
  simp [Logged.bind, failed]

@[simp] theorem pure_bind (value : α) (next : α → Logged ν ε β) :
    (pure value : Logged ν ε α) >>= next = next value := by
  rw [bind_of_ok (outcome_pure value)]
  simp

@[simp] theorem fail_bind (failure : ε) (next : α → Logged ν ε β) :
    (fail failure : Logged ν ε α) >>= next = fail failure :=
  bind_of_error (outcome_fail failure) next

end Logged

end TilingHeader
