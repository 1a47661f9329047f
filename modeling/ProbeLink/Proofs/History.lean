import ProbeLink.Operation
import ProbeLink.Proofs.Reading
import ProbeLink.Proofs.Writing

/-!
# ProbeLink.Proofs.History

**Runs of calls.** A client makes one call after the other on a transport, whether they succeed or
not. `Transport.after` is the state they lead to, `Transport.trace` is all that happens on the way.

What holds of a fresh transport and is kept by every call holds after every run
(`after_invariant`). The first such property is `Regular`: bytes are staged only while an operation
still waits for others, and a surplus is there only if nothing is due.
-/

namespace ProbeLink

/-- A call that a client makes on the transport itself. -/
inductive Call
  | startWrite (length : Nat)
  | startRead (length : Nat)
  | startWriteRead (writeLength readLength : Nat)
  | write (data : Bytes)
  | read (length : Nat)
  deriving Repr, DecidableEq

namespace Call

/-- The call as one of all the operations of a session. -/
def operation : Call → Operation
  | .startWrite length => .startWrite length
  | .startRead length => .startRead length
  | .startWriteRead writeLength readLength => .startWriteRead writeLength readLength
  | .write data => .write data
  | .read length => .read length

variable {β : Type} [Backend β]

/-- Makes the call. -/
def perform (call : Call) : Run (Transport β) Reply := call.operation.perform

@[simp] theorem perform_startWrite (length : Nat) (t : Transport β) :
    (startWrite length).perform t = (Transport.startWrite length t).map fun _ => .done :=
  Run.map_apply _ _ t

@[simp] theorem perform_startRead (length : Nat) (t : Transport β) :
    (startRead length).perform t = (Transport.startRead length t).map fun _ => .done :=
  Run.map_apply _ _ t

@[simp] theorem perform_startWriteRead (writeLength readLength : Nat) (t : Transport β) :
    (startWriteRead writeLength readLength).perform t =
      (Transport.startWriteRead writeLength readLength t).map fun _ => .done :=
  Run.map_apply _ _ t

@[simp] theorem perform_write (data : Bytes) (t : Transport β) :
    (write data).perform t = (Transport.write data t).map fun _ => .done :=
  Run.map_apply _ _ t

@[simp] theorem perform_read (length : Nat) (t : Transport β) :
    (read length).perform t = (Transport.read length t).map .bytes :=
  Run.map_apply _ _ t

end Call

namespace Transport

variable {β : Type}

/-! ### Regular states -/

/-- What holds between any two calls. -/
structure Regular (t : Transport β) : Prop where
  tidy : t.intake.Tidy
  staged : 0 < t.writeBuffered → 0 < t.writeRemaining

/-- A state is regular by its counters. -/
theorem regular_iff {t : Transport β} : Regular t ↔
    (0 < t.surplus → t.readRemaining = 0) ∧ (0 < t.writeBuffered → 0 < t.writeRemaining) :=
  ⟨fun h => ⟨(tidy_intake_iff t).1 h.tidy, h.staged⟩, fun h => ⟨(tidy_intake_iff t).2 h.1, h.2⟩⟩

/-- Nothing is staged while no write operation waits for bytes. -/
theorem Regular.writeBuffered_eq_zero {t : Transport β} (h : Regular t)
    (hw : t.writeRemaining = 0) : t.writeBuffered = 0 := by
  have := h.staged
  omega

/-- What leaves the write side alone and the read side tidy keeps a state regular. -/
theorem Regular.of_sameWriteSide {t t' : Transport β} (h : Regular t) (hside : SameWriteSide t t')
    (htidy : t'.intake.Tidy) : Regular t' := by
  refine ⟨htidy, ?_⟩
  rw [hside.writeBuffered, hside.writeRemaining]
  exact h.staged

theorem regular_fresh (config : ValidConfig) (backend : β) : Regular (fresh config backend) :=
  ⟨fun _ => rfl, fun h => absurd h (Nat.lt_irrefl 0)⟩

theorem regular_startWrite {length : Nat} {t : Transport β} (h : Regular t) :
    Regular (startWrite length t).state := by
  unfold startWrite
  split
  · exact h
  · exact ⟨fun hspare => absurd rfl hspare, fun hb => absurd hb (Nat.lt_irrefl 0)⟩

theorem writeBuffered_begun {length : Nat} {t : Transport β} (h : Regular t) :
    (t.begun length).writeBuffered = 0 := by
  -- Abandoning a write operation drops what is staged; without one nothing is.
  rw [begun, (resetRead_sameWriteSide length t.abandonWrite).writeBuffered, abandonWrite]
  split
  · rfl
  · exact h.writeBuffered_eq_zero (by omega)

theorem regular_startRead {length : Nat} {t : Transport β} (h : Regular t) :
    Regular (startRead length t).state := by
  unfold startRead
  split
  · exact h
  · refine ⟨tidy_begun length t, ?_⟩
    intro hb
    have hnone : (t.begun length).writeBuffered = 0 := writeBuffered_begun h
    exact absurd hb (Nat.not_lt_of_ge (Nat.le_of_eq hnone))

/-- An exchange starts in a regular state, whatever was before it. -/
theorem regular_asked (writeLength readLength : Nat) (t : Transport β) :
    Regular (t.asked writeLength readLength) := by
  have hnone : (t.asked writeLength readLength).writeBuffered = 0 :=
    (sameWriteSide_asked writeLength readLength t).writeBuffered
  exact ⟨tidy_resetRead readLength _,
    fun hb => absurd hb (Nat.not_lt_of_ge (Nat.le_of_eq hnone))⟩

theorem regular_startWriteRead {writeLength readLength : Nat} {t : Transport β} (h : Regular t) :
    Regular (startWriteRead writeLength readLength t).state := by
  unfold startWriteRead
  split
  · exact h
  · exact regular_asked writeLength readLength t

variable [Backend β]

theorem regular_write {data : Bytes} {t : Transport β} (h : Regular t) :
    Regular (write data t).state := by
  obtain ⟨-, hw⟩ | ⟨-, -, hw⟩ | ⟨hlt, -, hw⟩ | ⟨-, hsends⟩ := write_cases data t
  · rwa [hw]
  · rwa [hw]
  · rw [hw]
    refine ⟨(tidy_intake_iff _).2 ((tidy_intake_iff t).1 h.tidy), ?_⟩
    intro _
    simp only [stage]
    omega
  · rw [hsends.state]
    exact ⟨(tidy_intake_iff _).2 ((tidy_intake_iff t).1 h.tidy),
      fun hb => absurd hb (Nat.lt_irrefl 0)⟩

theorem regular_read {length : Nat} {t : Transport β} (h : Regular t) :
    Regular (read length t).state := by
  obtain ⟨-, hr⟩ | ⟨-, -, hr⟩ | ⟨-, -, hreads⟩ := read_cases h.tidy length
  · rwa [hr]
  · rwa [hr]
  · refine h.of_sameWriteSide hreads.writeSide ?_
    rw [hreads.intake]
    exact Intake.tidy_gather h.tidy

/-! ### Runs -/

/-- The state after a run of calls. -/
def after (calls : List Call) (t : Transport β) : Transport β :=
  Operation.stateAfter (calls.map Call.operation) t

/-- All events of a run of calls. -/
def trace (calls : List Call) (t : Transport β) : List Event :=
  (Operation.run (calls.map Call.operation) t).flatMap Outcome.events

@[simp] theorem after_nil (t : Transport β) : t.after [] = t := rfl

@[simp] theorem after_cons (call : Call) (later : List Call) (t : Transport β) :
    t.after (call :: later) = (call.perform t).state.after later := rfl

@[simp] theorem trace_nil (t : Transport β) : t.trace [] = [] := rfl

@[simp] theorem trace_cons (call : Call) (later : List Call) (t : Transport β) :
    t.trace (call :: later) = (call.perform t).events ++ (call.perform t).state.trace later := by
  simp only [trace, List.map_cons, Operation.run, List.flatMap_cons]
  rfl

theorem trace_append (calls later : List Call) (t : Transport β) :
    t.trace (calls ++ later) = t.trace calls ++ (t.after calls).trace later := by
  induction calls generalizing t with
  | nil => rfl
  | cons call calls ih =>
    rw [List.cons_append, trace_cons, trace_cons, after_cons, ih, List.append_assoc]

/-- What every call keeps is kept by every run. -/
theorem after_invariant {invariant : Transport β → Prop}
    (step : ∀ (call : Call) (t : Transport β), invariant t → invariant (call.perform t).state)
    (calls : List Call) {t : Transport β} (h : invariant t) : invariant (t.after calls) := by
  induction calls generalizing t with
  | nil => exact h
  | cons call later ih => exact ih (step call t h)

theorem regular_perform (call : Call) (t : Transport β) (h : Regular t) :
    Regular (call.perform t).state := by
  cases call with
  | startWrite length => simpa using regular_startWrite h
  | startRead length => simpa using regular_startRead h
  | startWriteRead writeLength readLength => simpa using regular_startWriteRead h
  | write data => simpa using regular_write h
  | read length => simpa using regular_read h

theorem regular_after (calls : List Call) {t : Transport β} (h : Regular t) :
    Regular (t.after calls) :=
  after_invariant regular_perform calls h

/-- No call changes the tuning. -/
theorem config_perform (call : Call) (t : Transport β) (h : Regular t) :
    (call.perform t).state.config = t.config := by
  cases call with
  | startWrite length =>
    simp only [Call.perform_startWrite, Outcome.state_map, startWrite]
    split <;> rfl
  | startRead length =>
    simp only [Call.perform_startRead, Outcome.state_map, startRead]
    split
    · rfl
    · exact config_begun length t
  | startWriteRead writeLength readLength =>
    simp only [Call.perform_startWriteRead, Outcome.state_map, startWriteRead]
    split
    · rfl
    · exact (sameWriteSide_asked writeLength readLength t).config
  | write data =>
    rw [Call.perform_write, Outcome.state_map]
    obtain ⟨-, hw⟩ | ⟨-, -, hw⟩ | ⟨-, -, hw⟩ | ⟨-, hsends⟩ := write_cases data t
    · rw [hw]
    · rw [hw]
    · rw [hw]
      rfl
    · rw [hsends.state]
      rfl
  | read length =>
    rw [Call.perform_read, Outcome.state_map]
    obtain ⟨-, hr⟩ | ⟨-, -, hr⟩ | ⟨-, -, hreads⟩ := read_cases h.tidy length
    · rw [hr]
    · rw [hr]
    · exact hreads.writeSide.config

theorem config_after (calls : List Call) {t : Transport β} (h : Regular t) :
    (t.after calls).config = t.config := by
  induction calls generalizing t with
  | nil => rfl
  | cons call later ih =>
    exact (ih (regular_perform call t h)).trans (config_perform call t h)

end Transport

end ProbeLink
