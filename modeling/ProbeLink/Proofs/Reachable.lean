import ProbeLink.Proofs.Bounds
import ProbeLink.Proofs.Composition

/-!
# ProbeLink.Proofs.Reachable

**Wherever operations lead, the cursors are in bounds.** What every call keeps is kept by every run
that is made of calls (`Composed.inBounds`), and so by every history of operations, commands included
(`inBounds_stateAfter`).
-/

namespace ProbeLink.Transport

variable {β : Type} [Backend β] {t : Transport β} {declared : Nat}

/-- The cursors are in bounds, for some length of the last read operation, and the tuning is the
same. -/
def StaysInBounds (t t' : Transport β) : Prop :=
  t'.config = t.config ∧ ∃ declared, InBounds declared t'

theorem staysInBounds_perform (call : Call) (h : InBounds declared t) :
    StaysInBounds t (call.perform t).state :=
  ⟨config_perform call t h.regular, _, inBounds_perform call h⟩

/-- **A run that is made of calls leaves the cursors in bounds.** -/
theorem Composed.inBounds {alone : Prop} {α : Type} {run : Run (Transport β) α}
    (h : Composed alone run) (hbounds : InBounds declared t) :
    StaysInBounds t (run t).state := by
  induction h generalizing t declared with
  | idle result notices hrun =>
    rw [hrun t]
    exact ⟨rfl, declared, hbounds⟩
  | startWrite length _ => simpa using staysInBounds_perform (.startWrite length) hbounds
  | startRead length => simpa using staysInBounds_perform (.startRead length) hbounds
  | startWriteRead writeLength readLength =>
    simpa using staysInBounds_perform (.startWriteRead writeLength readLength) hbounds
  | write data => simpa using staysInBounds_perform (.write data) hbounds
  | read length => simpa using staysInBounds_perform (.read length) hbounds
  | @bind _ _ run next _ _ ihrun ihnext =>
    obtain ⟨hconfig, declared', hbounds'⟩ := ihrun hbounds
    cases hresult : (run t).result with
    | error e =>
      rw [Run.bind_of_result_error next hresult]
      exact ⟨hconfig, declared', hbounds'⟩
    | ok a =>
      rw [Run.bind_of_result_ok next hresult]
      obtain ⟨hconfig', hlast⟩ := ihnext a hbounds'
      exact ⟨hconfig'.trans hconfig, hlast⟩

/-- **After any history the cursors are in bounds.** -/
theorem inBounds_stateAfter (history : List Operation) (h : InBounds declared t) :
    StaysInBounds t (Operation.stateAfter history t) := by
  induction history generalizing t declared with
  | nil => exact ⟨rfl, declared, h⟩
  | cons operation later ih =>
    obtain ⟨hconfig, declared', hbounds⟩ := operation.composed_perform.inBounds h
    obtain ⟨hconfig', hlast⟩ := ih hbounds
    exact ⟨hconfig'.trans hconfig, hlast⟩

end ProbeLink.Transport
