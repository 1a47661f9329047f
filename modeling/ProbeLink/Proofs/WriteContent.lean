import ProbeLink.Backend.Script
import ProbeLink.Proofs.History

/-!
# ProbeLink.Proofs.WriteContent

**What goes out is what was written.** A caller can keep a ledger of its write operations from
nothing but its calls and how they ended: the data of the accepted calls is the content of the
operation in progress, and the call that makes it as long as it was declared completes it.

The bytes that a transport sends over a whole run are those that the completed operations of this
ledger contribute, in order (`sentBytes_trace`): all of the content if the completing call
succeeded, a first part of it otherwise. No other call sends anything, and a completed operation
leaves nothing behind, so neither a failed operation nor an abandoned one can reach into the next.

The invariant is `Tracks`: the staged bytes are the content of the operation in progress.
-/

namespace ProbeLink

/-- A write operation in progress. -/
structure Draft where
  /-- How many bytes it was declared to have; none if there is no operation. -/
  declared : Nat
  /-- The data of its accepted calls, in order. -/
  content : Bytes
  deriving Repr, DecidableEq

/-- A write operation after the call that completed it. -/
structure Completed where
  content : Bytes
  /-- Did the completing call succeed? -/
  succeeded : Bool
  /-- What went out during the completing call. -/
  sent : Bytes
  deriving Repr, DecidableEq

/-- An operation contributes a first part of its content, and all of it exactly if it succeeded. -/
def Completed.Faithful (operation : Completed) : Prop :=
  operation.sent <+: operation.content ∧
    (operation.sent = operation.content ↔ operation.succeeded = true)

/-- What a caller knows of its write operations. -/
structure Ledger where
  draft : Draft
  completed : List Completed
  deriving Repr, DecidableEq

namespace Ledger

/-- Before any call. -/
def empty : Ledger := ⟨⟨0, []⟩, []⟩

/-- A new operation takes the place of the one in progress, of which nothing remains. -/
def declare (length : Nat) (ledger : Ledger) : Ledger := { ledger with draft := ⟨length, []⟩ }

/-- Was a write call rejected, for its length or for want of room? -/
def rejected {α : Type} : Except Error α → Bool
  | .error (.argument (.writeLengthExceeded _ _)) => true
  | .error (.argument (.bufferTooSmall _ _)) => true
  | _ => false

variable {σ : Type}

/-- An accepted write call completes the operation if it brings the content to the declared
length. With no operation in progress, a call that writes nothing completes an empty one. -/
def Completes (call : Call) (outcome : Outcome σ Reply) (ledger : Ledger) : Prop :=
  match call with
  | .write data => rejected outcome.result = false ∧
      ledger.draft.content.length + data.length = ledger.draft.declared
  | _ => False

instance (call : Call) (outcome : Outcome σ Reply) (ledger : Ledger) :
    Decidable (ledger.Completes call outcome) :=
  match call with
  | .write _ => inferInstanceAs (Decidable (_ ∧ _))
  | .startWrite _ | .startRead _ | .startWriteRead _ _ | .read _ =>
    inferInstanceAs (Decidable False)

/-- The ledger after a call. -/
def record (call : Call) (outcome : Outcome σ Reply) (ledger : Ledger) : Ledger :=
  match call with
  | .startWrite length => if outcome.result.isOk then ledger.declare length else ledger
  | .startRead _ => if outcome.result.isOk then ledger.declare 0 else ledger
  | .startWriteRead length _ => if outcome.result.isOk then ledger.declare length else ledger
  | .write data =>
    let content := ledger.draft.content ++ data
    if ledger.Completes (.write data) outcome then
      ⟨⟨0, []⟩, ledger.completed ++ [⟨content, outcome.result.isOk, sentBytes outcome.events⟩]⟩
    else if rejected outcome.result then ledger
    else { ledger with draft := { ledger.draft with content := content } }
  | .read _ => ledger

variable {data : Bytes} {outcome : Outcome σ Reply} {ledger : Ledger}

theorem record_of_rejected (h : rejected outcome.result = true) :
    ledger.record (.write data) outcome = ledger := by
  have hnot : ¬ledger.Completes (.write data) outcome := by
    rintro ⟨haccepted, -⟩
    rw [h] at haccepted
    cases haccepted
  simp only [record, if_neg hnot, if_pos h]

theorem record_of_completes (h : ledger.Completes (.write data) outcome) :
    ledger.record (.write data) outcome =
      ⟨⟨0, []⟩, ledger.completed ++ [⟨ledger.draft.content ++ data, outcome.result.isOk,
        sentBytes outcome.events⟩]⟩ :=
  if_pos h

theorem record_of_accepted (h : rejected outcome.result = false)
    (hnot : ¬ledger.Completes (.write data) outcome) :
    ledger.record (.write data) outcome =
      { ledger with draft := { ledger.draft with content := ledger.draft.content ++ data } } := by
  simp only [record, if_neg hnot, h, Bool.false_eq_true, if_false]

end Ledger

namespace Transport

variable {β : Type} {t : Transport β}

/-- The transport waits for what is missing from the operation in progress, and its content is what
is staged. -/
structure Tracks (t : Transport β) (draft : Draft) : Prop where
  declared : draft.content.length + t.writeRemaining = draft.declared
  staged : t.staged = draft.content

theorem tracks_declared {length : Nat} (hr : t.writeRemaining = length)
    (hb : t.writeBuffered = 0) : Tracks t ⟨length, []⟩ :=
  ⟨(Nat.zero_add _).trans hr, staged_eq_nil hb⟩

/-- An exchange starts with nothing written. -/
theorem tracks_startWriteRead {writeLength readLength : Nat}
    (hok : (startWriteRead writeLength readLength t).result = .ok ()) :
    Tracks (startWriteRead writeLength readLength t).state ⟨writeLength, []⟩ := by
  obtain ⟨hw, hr⟩ := startWriteRead_ok_iff.1 hok
  have hside := sameWriteSide_asked writeLength readLength t
  rw [startWriteRead_of_pos hw hr t]
  exact tracks_declared hside.writeRemaining hside.writeBuffered

/-- Nothing is staged while no operation waits for bytes. -/
theorem Tracks.of_idle {t' : Transport β} {draft : Draft} (ht : Tracks t draft) (h : Regular t)
    (hw : t.writeRemaining = 0) (hside : SameWriteSide t t') : Tracks t' draft := by
  have hb : t.writeBuffered = 0 := h.writeBuffered_eq_zero hw
  refine ⟨?_, ?_⟩
  · rw [hside.writeRemaining]
    exact ht.declared
  · rw [staged_eq_nil (hside.writeBuffered.trans hb), ← ht.staged, staged_eq_nil hb]

variable [Backend β]

/-- What a call does to a ledger that the transport tracks. -/
structure Accounts (call : Call) (t : Transport β) (ledger : Ledger) : Prop where
  tracks : Tracks (call.perform t).state (ledger.record call (call.perform t)).draft
  /-- A call that completes nothing sends nothing. -/
  silent : ¬ledger.Completes call (call.perform t) →
    NoSend (call.perform t).events ∧
      (ledger.record call (call.perform t)).completed = ledger.completed
  /-- A call that completes an operation sends what the operation contributes, and ends it. -/
  completes : ledger.Completes call (call.perform t) →
    (∃ operation : Completed, operation.Faithful ∧
        operation.sent = sentBytes (call.perform t).events ∧
        (ledger.record call (call.perform t)).completed = ledger.completed ++ [operation]) ∧
      (call.perform t).state.writeRemaining = 0 ∧ (call.perform t).state.writeBuffered = 0

variable {ledger : Ledger}

theorem accounts_startWrite (length : Nat) (ht : Tracks t ledger.draft) :
    Accounts (.startWrite length) t ledger := by
  have hquiet := quiet_startWrite length t
  refine ⟨?_, fun _ => ⟨by simpa using hquiet.1, ?_⟩, fun h => h.elim⟩
  · simp only [Call.perform_startWrite, Outcome.state_map, startWrite]
    split
    · exact ht
    · exact tracks_declared rfl rfl
  · simp only [Ledger.record]
    split <;> rfl

theorem accounts_startRead (length : Nat) (h : Regular t) (ht : Tracks t ledger.draft) :
    Accounts (.startRead length) t ledger := by
  have hquiet := quiet_startRead length t
  refine ⟨?_, fun _ => ⟨by simpa using hquiet.1, ?_⟩, fun h => h.elim⟩
  · simp only [Call.perform_startRead, Outcome.state_map, startRead]
    split
    · exact ht
    · exact tracks_declared (writeRemaining_begun length t) (writeBuffered_begun h)
  · simp only [Ledger.record]
    split <;> rfl

theorem accounts_startWriteRead (writeLength readLength : Nat) (ht : Tracks t ledger.draft) :
    Accounts (.startWriteRead writeLength readLength) t ledger := by
  have hquiet := quiet_startWriteRead writeLength readLength t
  refine ⟨?_, fun _ => ⟨by simpa using hquiet.1, ?_⟩, fun h => h.elim⟩
  · simp only [Call.perform_startWriteRead, Outcome.state_map, startWriteRead]
    split
    · exact ht
    · have hside := sameWriteSide_asked writeLength readLength t
      exact tracks_declared hside.writeRemaining hside.writeBuffered
  · simp only [Ledger.record]
    split <;> rfl

theorem accounts_read (length : Nat) (h : Regular t) (ht : Tracks t ledger.draft) :
    Accounts (.read length) t ledger := by
  suffices hread : Tracks (read length t).state ledger.draft ∧ NoSend (read length t).events from
    ⟨by rw [Call.perform_read]; exact hread.1, fun _ => ⟨by simpa using hread.2, rfl⟩,
      fun h => h.elim⟩
  obtain ⟨-, hr⟩ | ⟨-, -, hr⟩ | ⟨hw, -, hreads⟩ := read_cases h.tidy length
  · rw [hr]
    exact ⟨ht, (quiet_noted _).1⟩
  · rw [hr]
    exact ⟨ht, (quiet_noted _).1⟩
  · refine ⟨ht.of_idle h hw hreads.writeSide, ?_⟩
    rw [hreads.events]
    exact Intake.noSend_gather _

/-- A rejected call leaves everything as it was. -/
theorem accounts_of_rejected {data : Bytes} {e : Error} {notice : Notice}
    (hrejected : Ledger.rejected (.error e : Except Error Reply) = true)
    (hw : write data t = ⟨.error e, t, [.noted notice]⟩) (ht : Tracks t ledger.draft) :
    Accounts (.write data) t ledger := by
  have hperform : (Call.write data).perform t = ⟨.error e, t, [.noted notice]⟩ := by
    rw [Call.perform_write, hw]
    rfl
  have hrecord : ledger.record (.write data) ((Call.write data).perform t) = ledger :=
    Ledger.record_of_rejected (by rw [hperform]; exact hrejected)
  refine ⟨?_, fun _ => ⟨?_, by rw [hrecord]⟩, ?_⟩
  · rw [hrecord, hperform]
    exact ht
  · rw [hperform]
    exact (quiet_noted notice).1
  · intro h
    have haccepted := h.1
    rw [hperform, hrejected] at haccepted
    cases haccepted

/-- A staged call adds to the content. -/
theorem accounts_of_staged {data : Bytes} (hlt : data.length < t.writeRemaining)
    (hw : write data t = ⟨.ok (), t.stage data, []⟩) (ht : Tracks t ledger.draft) :
    Accounts (.write data) t ledger := by
  have hperform : (Call.write data).perform t = ⟨.ok .done, t.stage data, []⟩ := by
    rw [Call.perform_write, hw]
    rfl
  have hdeclared := ht.declared
  have hnot : ¬ledger.Completes (.write data) ((Call.write data).perform t) := by
    -- It does not complete the operation: more is missing than it brings.
    rintro ⟨-, hlength⟩
    omega
  have hrecord : ledger.record (.write data) ((Call.write data).perform t) =
      { ledger with draft := { ledger.draft with content := ledger.draft.content ++ data } } :=
    Ledger.record_of_accepted (by rw [hperform]; rfl) hnot
  refine ⟨?_, fun _ => ⟨?_, by rw [hrecord]⟩, fun h => absurd h hnot⟩
  · rw [hrecord, hperform]
    refine ⟨?_, ?_⟩
    · simp only [stage, List.length_append]
      omega
    · rw [staged_stage, ht.staged]
  · rw [hperform]
    exact noSend_nil

/-- The completing call sends the content, as far as sending succeeds. -/
theorem accounts_of_sends {data : Bytes} (heq : data.length = t.writeRemaining)
    (hsends : Sends (t.staged ++ data) (t.flushed data) (write data t))
    (ht : Tracks t ledger.draft) : Accounts (.write data) t ledger := by
  obtain ⟨rest, hbytes, hdone⟩ := hsends.sent
  -- Whatever the completing call fails with, it is not one of the two rejections.
  have hresult : ((Call.write data).perform t).result.isOk = true ↔ rest = [] := by
    rw [hdone, Call.perform_write, Outcome.result_map]
    cases (write data t).result <;> simp [Except.map, Except.isOk, Except.toBool]
  have haccepted : Ledger.rejected ((Call.write data).perform t).result = false := by
    rw [Call.perform_write, Outcome.result_map]
    cases hw : (write data t).result with
    | ok u => rfl
    | error e => obtain rfl | ⟨cause, rfl⟩ := hsends.cause e hw <;> rfl
  have hdeclared := ht.declared
  have hcompletes : ledger.Completes (.write data) ((Call.write data).perform t) :=
    ⟨haccepted, by omega⟩
  have hrecord := Ledger.record_of_completes hcompletes
  have hover : ((Call.write data).perform t).state.writeRemaining = 0 ∧
      ((Call.write data).perform t).state.writeBuffered = 0 := by
    rw [Call.perform_write, Outcome.state_map, hsends.state]
    exact ⟨rfl, rfl⟩
  rw [ht.staged] at hbytes
  refine ⟨?_, fun h => absurd hcompletes h, fun _ => ⟨⟨_, ⟨?_, ?_⟩, rfl, by rw [hrecord]⟩, hover⟩⟩
  · rw [hrecord]
    exact tracks_declared hover.1 hover.2
  · refine ⟨rest, ?_⟩
    simpa using hbytes.symm
  · rw [hresult]
    simp only [Call.perform_write, Outcome.events_map]
    rw [hbytes, List.self_eq_append_right]

/-- **A call keeps the ledger true.** -/
theorem accounts_perform (call : Call) (h : Regular t) (ht : Tracks t ledger.draft) :
    Accounts call t ledger := by
  cases call with
  | startWrite length => exact accounts_startWrite length ht
  | startRead length => exact accounts_startRead length h ht
  | startWriteRead writeLength readLength => exact accounts_startWriteRead writeLength readLength ht
  | read length => exact accounts_read length h ht
  | write data =>
    obtain ⟨-, hw⟩ | ⟨-, -, hw⟩ | ⟨hlt, -, hw⟩ | ⟨heq, hsends⟩ := write_cases data t
    · exact accounts_of_rejected rfl hw ht
    · exact accounts_of_rejected rfl hw ht
    · exact accounts_of_staged hlt hw ht
    · exact accounts_of_sends heq hsends ht

/-! ### Runs -/

/-- The ledger after a run of calls. -/
def recorded (calls : List Call) (t : Transport β) (ledger : Ledger) : Ledger :=
  match calls with
  | [] => ledger
  | call :: later => recorded later (call.perform t).state (ledger.record call (call.perform t))

/-- A run adds operations to the ledger. What goes out during it is what these contribute. -/
theorem recorded_accounts (calls : List Call) (ledger : Ledger) (h : Regular t)
    (ht : Tracks t ledger.draft) :
    Tracks (t.after calls) (recorded calls t ledger).draft ∧
      ∃ operations : List Completed,
        (recorded calls t ledger).completed = ledger.completed ++ operations ∧
          sentBytes (t.trace calls) = operations.flatMap Completed.sent ∧
          ∀ operation ∈ operations, operation.Faithful := by
  induction calls generalizing t ledger with
  | nil => exact ⟨ht, [], by simp [recorded]⟩
  | cons call later ih =>
    have hcall := accounts_perform call h ht
    obtain ⟨htracks, operations, hlater, hsent, hfaithful⟩ :=
      ih _ (regular_perform call t h) hcall.tracks
    refine ⟨htracks, ?_⟩
    rw [trace_cons, sentBytes_append, hsent]
    by_cases hc : ledger.Completes call (call.perform t)
    · obtain ⟨⟨operation, hop, hopsent, hadded⟩, -⟩ := hcall.completes hc
      refine ⟨operation :: operations, ?_, by rw [List.flatMap_cons, hopsent], ?_⟩
      · rw [recorded, hlater, hadded, List.append_assoc, List.singleton_append]
      · exact List.forall_mem_cons.2 ⟨hop, hfaithful⟩
    · obtain ⟨hsilent, hsame⟩ := hcall.silent hc
      refine ⟨operations, by rw [recorded, hlater, hsame], ?_, hfaithful⟩
      rw [sentBytes_eq_nil hsilent, List.nil_append]

/-- **What goes out over a run is what the completed operations contribute, in order.** Each of them
contributes a first part of its content, all of it exactly if its completing call succeeded. No
other call sends anything, and after a completing call, failed or not, nothing is left to be
sent. -/
theorem sentBytes_trace (config : ValidConfig) (backend : β) (calls : List Call) :
    let t := fresh config backend
    let ledger := recorded calls t Ledger.empty
    sentBytes (t.trace calls) = ledger.completed.flatMap Completed.sent ∧
      (∀ operation ∈ ledger.completed, operation.Faithful) ∧
      ∀ call : Call,
        let outcome := call.perform (t.after calls)
        (ledger.Completes call outcome →
          outcome.state.writeRemaining = 0 ∧ outcome.state.writeBuffered = 0) ∧
        (¬ledger.Completes call outcome → NoSend outcome.events) := by
  intro t ledger
  have hfresh : Regular t := regular_fresh config backend
  obtain ⟨htracks, operations, hcompleted, hsent, hfaithful⟩ :=
    recorded_accounts calls Ledger.empty hfresh (tracks_declared rfl rfl)
  have hall : ledger.completed = operations := hcompleted
  rw [hall]
  refine ⟨hsent, hfaithful, ?_⟩
  intro call
  have hcall := accounts_perform call (regular_after calls hfresh) htracks
  exact ⟨fun h => (hcall.completes h).2, fun h => (hcall.silent h).1⟩

/-- Of an operation that is started anew nothing goes out, though two of its bytes were staged. -/
example : sentBytes ((fresh ⟨⟨4, 8, 1000, 2, .reject⟩, by decide⟩
    (⟨[], []⟩ : Backend.Script)).trace
      [.startWrite 4, .write [1, 2], .startWrite 3, .write [3], .write [4, 5]]) = [3, 4, 5] := by
  cbv

end Transport

end ProbeLink
