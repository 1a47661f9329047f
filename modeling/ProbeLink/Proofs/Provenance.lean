import ProbeLink.Proofs.Composition
import ProbeLink.Proofs.Isolation

/-!
# ProbeLink.Proofs.Provenance

**Where the bytes of a read come from**, in runs that commands take part in. What a transport owes
after a run of operations is a stretch of what was received, as long as no write call of the run puts
other bytes in the place of owed ones (`backed_stateAfter`).

Only a call that the client makes itself can do that. A command begins by starting an exchange, which
gives up all that was owed, and from then on its staged bytes and its owed bytes are apart
(`Opens.faithful`). So a command needs nothing of what was before it but its own start.
-/

namespace ProbeLink.Transport

variable {β : Type} {t : Transport β} {received : Bytes}

/-- What is owed is a stretch of what was received, and nothing is owed while bytes are staged. -/
structure Faithful (received : Bytes) (t : Transport β) : Prop where
  regular : Regular t
  apart : Apart t
  backed : Backed received t

/-- An exchange starts with nothing owed, so whatever was received will do. -/
theorem faithful_asked (received : Bytes) (writeLength readLength : Nat) (t : Transport β) :
    Faithful received (t.asked writeLength readLength) where
  regular := regular_asked writeLength readLength t
  apart _ := owed_asked writeLength readLength t
  backed := backed_of_owed_eq_nil (owed_asked writeLength readLength t)

variable [Backend β]

/-! ### Commands -/

theorem Faithful.perform (h : Faithful received t) (call : Call) (horderly : OrderlyCall call t) :
    Faithful (received ++ receivedBytes (call.perform t).events) (call.perform t).state where
  regular := regular_perform call t h.regular
  apart := apart_perform h.regular h.apart horderly
  backed := backed_perform h.regular h.backed (sparedBy_of_apart call h.regular h.apart)

theorem receivedBytes_noted (notices : List Notice) :
    receivedBytes (notices.map .noted) = [] := by
  refine receivedBytes_eq_nil fun event hmem => ?_
  obtain ⟨notice, -, rfl⟩ := List.mem_map.1 hmem
  rfl

/-- A run made of calls that starts no write operation on its own stays faithful. -/
theorem Composed.faithful {α : Type} {run : Run (Transport β) α} (h : Composed False run)
    (hf : Faithful received t) :
    Faithful (received ++ receivedBytes (run t).events) (run t).state := by
  induction h generalizing t received with
  | idle result notices hrun =>
    rw [hrun t, receivedBytes_noted, List.append_nil]
    exact hf
  | startWrite length h => exact h.elim
  | startRead length => simpa using hf.perform (.startRead length) trivial
  | startWriteRead writeLength readLength =>
    simpa using hf.perform (.startWriteRead writeLength readLength) trivial
  | write data => simpa using hf.perform (.write data) trivial
  | read length => simpa using hf.perform (.read length) trivial
  | @bind _ _ run next _ _ ihrun ihnext =>
    have hfirst := ihrun hf
    cases hresult : (run t).result with
    | error e =>
      rw [Run.bind_of_result_error next hresult]
      exact hfirst
    | ok a =>
      rw [Run.bind_of_result_ok next hresult, Outcome.events_after, receivedBytes_append,
        ← List.append_assoc]
      exact ihnext a hfirst

/-- **A run that opens an exchange is faithful**, whatever was before it. -/
theorem Opens.faithful {α : Type} {run : Run (Transport β) α} (h : Opens run) (received : Bytes)
    (t : Transport β) :
    Faithful (received ++ receivedBytes (run t).events) (run t).state := by
  cases h with
  | @mk writeLength readLength next hw hr hnext =>
    have hquiet := receivedBytes_eq_nil (quiet_startWriteRead writeLength readLength t).2
    rw [Run.bind_of_ok next (startWriteRead_of_pos hw hr t), Outcome.events_after,
      receivedBytes_append, hquiet, List.nil_append]
    exact (hnext ()).faithful (faithful_asked received writeLength readLength t)

/-! ### Operations -/

/-- An operation leaves owed only what was received, if it is not a write call that puts other bytes
in the place of owed ones. -/
theorem backed_operation {operation : Operation} (h : Regular t) (hb : Backed received t)
    (hspared : ∀ data, operation = .write data → Spares data t) :
    Regular (operation.perform t).state ∧
      Backed (received ++ receivedBytes (operation.perform t).events)
        (operation.perform t).state := by
  obtain ⟨call, rfl⟩ | hrestarts | ⟨e, hrefused⟩ := operation.call_or_restarts_or_refused (β := β)
  · have hcall : SparedBy call t := by
      cases call with
      | write data => exact hspared data rfl
      | _ => trivial
    exact ⟨regular_perform call t h, backed_perform h hb hcall⟩
  · have hfaithful := (Operation.opens_perform operation hrestarts).faithful received t
    exact ⟨hfaithful.regular, hfaithful.backed⟩
  · rw [hrefused t, receivedBytes_nil, List.append_nil]
    exact ⟨h, hb⟩

/-- No write call of a run of operations changes an owed byte. -/
def KeepsOwed (operations : List Operation) (t : Transport β) : Prop :=
  ∀ before data later, operations = before ++ .write data :: later →
    (write data (Operation.stateAfter before t)).state.owed = (Operation.stateAfter before t).owed

/-- **What a run of operations leaves owed is a stretch of what was received.** -/
theorem backed_stateAfter {operations : List Operation} (h : Regular t) (hb : Backed received t)
    (hkeeps : KeepsOwed operations t) :
    Regular (Operation.stateAfter operations t) ∧
      Backed (received ++ receivedBytes ((Operation.run operations t).flatMap Outcome.events))
        (Operation.stateAfter operations t) := by
  induction operations generalizing t received with
  | nil => exact ⟨h, by simpa [Operation.stateAfter, Operation.run] using hb⟩
  | cons operation later ih =>
    have hspared : ∀ data, operation = .write data → Spares data t := by
      intro data hwrite
      exact (owed_write_iff data t).1 (hkeeps [] data later (by rw [hwrite, List.nil_append]))
    obtain ⟨hregular, hbacked⟩ := backed_operation h hb hspared
    have hlater : KeepsOwed later (operation.perform t).state := by
      intro before data rest hrest
      exact hkeeps (operation :: before) data rest (by rw [hrest, List.cons_append])
    rw [Operation.run, List.flatMap_cons, receivedBytes_append, ← List.append_assoc]
    exact ih hregular hbacked hlater

end ProbeLink.Transport
