import ProbeLink.Proofs.Isolation
import ProbeLink.Proofs.Ordering

/-!
# ProbeLink.Proofs.FailedFlush

**A write half that failed counts as written.** The call that completes an exchange takes its write
half for complete before it sends anything. If a transfer then fails, some of the command has not
gone out, and the counters say what they say after a success: nothing is left to be written, and the
whole answer is due.

So nothing keeps a later read from asking for that answer. It is refused only if it goes beyond the
operation, it receives as soon as it wants a byte that does not lie ready, and otherwise it returns
the bytes that do (`reads_after_failed_write`).
-/

namespace ProbeLink.Transport

variable {β : Type} {t : Transport β}

/-- What writing leaves alone: the counters of the read side. -/
structure SameReadSide (t t' : Transport β) : Prop where
  readRemaining : t'.readRemaining = t.readRemaining
  readAvailable : t'.readAvailable = t.readAvailable
  surplus : t'.surplus = t.surplus

theorem SameReadSide.refl (t : Transport β) : SameReadSide t t := ⟨rfl, rfl, rfl⟩

theorem SameReadSide.trans {t t' t'' : Transport β} (h : SameReadSide t t')
    (h' : SameReadSide t' t'') : SameReadSide t t'' :=
  ⟨h'.readRemaining.trans h.readRemaining, h'.readAvailable.trans h.readAvailable,
    h'.surplus.trans h.surplus⟩

variable [Backend β]

theorem sameReadSide_write (data : Bytes) (t : Transport β) :
    SameReadSide t (write data t).state :=
  have hleaves := write_leavesReadSide data t
  ⟨hleaves.readRemaining, hleaves.readAvailable, hleaves.surplus⟩

/-! ### While an exchange waits for bytes -/

/-- A call after which bytes are still waited for did not fail in a transfer. -/
theorem delivers_of_incomplete {call : Call} (hw : 0 < (call.perform t).state.writeRemaining) :
    Delivers call (call.perform t) := by
  rintro data rfl e he
  rw [Call.perform_write] at hw he
  obtain ⟨-, hcall⟩ | ⟨-, -, hcall⟩ | ⟨-, -, hcall⟩ | ⟨-, hsends⟩ := write_cases data t
  · rw [hcall] at he
    cases he
    exact ⟨by simp [Error.kind], by simp [Error.kind]⟩
  · rw [hcall] at he
    cases he
    exact ⟨by simp [Error.kind], by simp [Error.kind]⟩
  · rw [hcall] at he
    cases he
  · rw [Outcome.state_map, hsends.state] at hw
    exact absurd hw (Nat.lt_irrefl 0)

/-- While bytes are waited for, no call touches the read side. -/
theorem sameReadSide_perform {call : Call} (hw : 0 < t.writeRemaining)
    (hcontinues : Continues call (call.perform t)) : SameReadSide t (call.perform t).state := by
  obtain ⟨-, hstate, -⟩ | ⟨length, rfl⟩ | ⟨data, rfl⟩ := continues_cases hcontinues
  · rw [hstate]
    exact SameReadSide.refl t
  · rw [Call.perform_read, read_of_incomplete hw length]
    exact SameReadSide.refl t
  · rw [Call.perform_write]
    exact sameReadSide_write data t

/-- An exchange that waits for bytes has waited ever since it was started: nothing was transferred,
and the read side is as it was. -/
theorem waits_after {during : List Call} {declared : Nat} {content : Bytes} (h : Regular t)
    (ht : Tracks t ⟨declared, content⟩) (hcontinues : Throughout Continues during t)
    (hw : 0 < (t.after during).writeRemaining) :
    Quiet (t.trace during) ∧ Tracks (t.after during) ⟨declared, content ++ contributed during t⟩ ∧
      SameReadSide t (t.after during) := by
  have hbefore : ∀ {during : List Call} {t : Transport β}, Regular t →
      Throughout Continues during t → 0 < (t.after during).writeRemaining →
      0 < t.writeRemaining := by
    -- Once over, a write half stays over.
    intro during t h hcontinues hw
    refine Nat.pos_of_ne_zero fun hover => ?_
    rw [(idle_trace h hover hcontinues).2.2] at hw
    exact Nat.lt_irrefl 0 hw
  induction during generalizing t content with
  | nil =>
    rw [contributed, List.append_nil]
    exact ⟨quiet_nil, ht, SameReadSide.refl t⟩
  | cons call later ih =>
    have hregular := regular_perform call t h
    have hnow : 0 < t.writeRemaining := hbefore h hcontinues hw
    have hnext : 0 < (call.perform t).state.writeRemaining := hbefore hregular hcontinues.2 hw
    rcases waits_or_completes ht hnow hcontinues.1 (delivers_of_incomplete hnext) with
      hwaits | hcompletes
    · obtain ⟨hquiet, htracks, hside⟩ := ih hregular hwaits.tracks hcontinues.2 hw
      rw [trace_cons, contributed, ← List.append_assoc]
      exact ⟨quiet_append.2 ⟨hwaits.quiet, hquiet⟩, htracks,
        (sameReadSide_perform hnow hcontinues.1).trans hside⟩
    · rw [hcompletes.ended] at hnext
      exact absurd hnext (Nat.lt_irrefl 0)

/-! ### The call that fails -/

/-- Only a call that has something to send can fail in a transfer. -/
theorem incomplete_of_failed {data : Bytes} {e : Error} (h : Regular t)
    (heq : data.length = t.writeRemaining) (hfailed : (write data t).result = .error e) :
    0 < t.writeRemaining := by
  refine Nat.pos_of_ne_zero fun hw => ?_
  have hnil : data = [] := List.length_eq_zero_iff.1 (heq.trans hw)
  rw [hnil, write_nil h hw] at hfailed
  cases hfailed

/-- What is left of an exchange whose write half was `content` when a transfer failed. -/
structure Fails (content : Bytes) (e : Error) (t : Transport β)
    (outcome : Outcome (Transport β) Unit) : Prop where
  kind : e.kind = .timeout ∨ e.kind = .io
  missing : ∃ missing, missing ≠ [] ∧ content = sentBytes outcome.events ++ missing
  writeRemaining : outcome.state.writeRemaining = 0
  writeBuffered : outcome.state.writeBuffered = 0
  readSide : SameReadSide t outcome.state

theorem fails_of_error {data : Bytes} {draft : Draft} {e : Error} (ht : Tracks t draft)
    (heq : data.length = t.writeRemaining) (hfailed : (write data t).result = .error e) :
    Fails (draft.content ++ data) e t (write data t) := by
  have hsends : Sends (t.staged ++ data) (t.flushed data) (write data t) := by
    rw [write_of_eq heq]
    exact flush_sends data t
  rw [ht.staged] at hsends
  obtain ⟨missing, hbytes, hdone⟩ := hsends.sent
  refine ⟨?_, ⟨missing, ?_, hbytes⟩, ?_, ?_, sameReadSide_write data t⟩
  · obtain rfl | ⟨cause, rfl⟩ := hsends.cause e hfailed
    · exact .inl rfl
    · exact .inr rfl
  · intro hall
    rw [hdone.1 hall] at hfailed
    cases hfailed
  · rw [hsends.state]
    rfl
  · rw [hsends.state]
    rfl

/-! ### Reading without a write half -/

/-- Once the write half is over, a call that fits into the operation receives exactly if it wants a
byte that does not lie ready. -/
theorem noReceive_read_iff {length : Nat} (h : Regular t) (hw : t.writeRemaining = 0)
    (hl : length ≤ t.readExpected) :
    NoReceive (read length t).events ↔ length ≤ t.readAvailable := by
  rw [(read_reads hw hl h.tidy).events, gathered]
  have hready : t.intake.ready.length = t.readAvailable := length_ready t
  constructor
  · intro hnone
    refine Nat.le_of_not_lt fun hmore => ?_
    have hdue : 0 < t.intake.due := by
      simp only [readExpected] at hl
      simp only [due_intake]
      omega
    exact Intake.gather_receives (by omega) hdue hnone
  · intro hle
    rw [Intake.gather_of_le (by omega)]
    exact noReceive_nil

/-- Once the write half is over, a call that wants only bytes that lie ready returns the first of
them. -/
theorem read_of_ready {length : Nat} (h : Regular t) (hw : t.writeRemaining = 0)
    (hl : length ≤ t.readAvailable) : (read length t).result = .ok (t.owed.take length) := by
  have hready : length ≤ t.intake.ready.length := by rwa [ready_intake, length_ready]
  have hexpected : length ≤ t.readExpected := Nat.le_trans hl (Nat.le_add_left _ _)
  have hgathered : t.gathered length = ⟨.ok (), t.intake, []⟩ := Intake.gather_of_le hready
  rw [(read_reads hw hexpected h.tidy).result, hgathered, owed_eq,
    List.take_append_of_le_length hready]
  rfl

/-- Once the write half is over, no write call reaches an owed byte. -/
theorem sparing_of_idle {during : List Call} (h : Regular t) (hw : t.writeRemaining = 0)
    (hcontinues : Throughout Continues during t) : Sparing during t := by
  induction during generalizing t with
  | nil => trivial
  | cons call later ih =>
    have hapart : Apart t := fun hpos => absurd hw (Nat.ne_of_gt hpos)
    obtain ⟨-, hover, -⟩ := idle_perform h hw hcontinues.1
    exact ⟨sparedBy_of_apart call h hapart, ih (regular_perform call t h) hover hcontinues.2⟩

/-! ### After a failure -/

/-- **A write half that failed counts as written.** If the call that completes an exchange fails in
a transfer, a part of the command is missing on the device. Still nothing is left to be written, all
of the answer is due, and reads are served: until the next operation is started, a call that fits
into this one receives exactly if it wants a byte that does not lie ready. If it does not, it returns
the first bytes of those that are owed, and these were received since the failure. -/
theorem reads_after_failed_write (config : ValidConfig) (backend : β) (calls : List Call)
    (writeLength readLength : Nat) (during : List Call) (data : Bytes) :
    let t := (fresh config backend).after calls
    let started := startWriteRead writeLength readLength t
    let waiting := started.state.after during
    let failing := write data waiting
    started.result = .ok () → Throughout Continues during started.state →
      data.length = waiting.writeRemaining → ∀ e, failing.result = .error e →
        (e.kind = .timeout ∨ e.kind = .io) ∧
        (∃ missing, missing ≠ [] ∧
          contributed during started.state ++ data =
            sentBytes (started.state.trace during ++ failing.events) ++ missing ∧
          (contributed during started.state ++ data).length = writeLength) ∧
        failing.state.counters = [0, 0, readLength, 0, 0] ∧
        ∀ later, Throughout Continues later failing.state → ∀ length,
          let s := failing.state.after later
          s.writeRemaining = 0 ∧
            (s.readExpected < length →
              (read length s).result =
                  .error (.argument (.readLengthExceeded length s.readExpected)) ∧
                (read length s).state = s ∧ Quiet (read length s).events) ∧
            (length ≤ s.readExpected →
              (NoReceive (read length s).events ↔ length ≤ s.readAvailable)) ∧
            (length ≤ s.readAvailable →
              (read length s).result = .ok (s.owed.take length) ∧
                s.owed <:+: receivedBytes (failing.state.trace later)) := by
  intro t started waiting failing hok hcontinues heq e hfailed
  have hregular : Regular t := regular_after calls (regular_fresh config backend)
  obtain ⟨hw, hr⟩ := startWriteRead_ok_iff.1 hok
  have hstate : started.state = t.asked writeLength readLength :=
    congrArg Outcome.state (startWriteRead_of_pos hw hr t)
  have hstarted : Regular started.state := regular_startWriteRead hregular
  have hwaiting : Regular waiting := regular_after during hstarted
  obtain ⟨hquiet, htracks, hside⟩ := waits_after hstarted (tracks_startWriteRead hok) hcontinues
    (incomplete_of_failed hwaiting heq hfailed)
  have hfails := fails_of_error htracks heq hfailed
  have hdeclared := htracks.declared
  obtain ⟨missing, hmissing, hbytes⟩ := hfails.missing
  have hread := hside.trans hfails.readSide
  have hcounters : failing.state.counters = [0, 0, readLength, 0, 0] := by
    rw [counters, hfails.writeRemaining, hfails.writeBuffered, hread.readRemaining,
      hread.readAvailable, hread.surplus, hstate, asked_eq]
  refine ⟨hfails.kind, ⟨missing, hmissing, ?_, ?_⟩, hcounters, ?_⟩
  · rw [sentBytes_append, sentBytes_eq_nil hquiet.1, List.nil_append]
    exact hbytes
  · rw [List.length_append, heq]
    exact hdeclared
  · intro later hlater length s
    have hafter : Regular failing.state := regular_write hwaiting
    have hs : Regular s := regular_after later hafter
    have hover : s.writeRemaining = 0 := (idle_trace hafter hfails.writeRemaining hlater).2.2
    refine ⟨hover, ?_, noReceive_read_iff hs hover, ?_⟩
    · intro hexceeded
      rw [read_of_exceeded hover hexceeded]
      exact ⟨rfl, rfl, quiet_noted _⟩
    · intro hready
      have howed : failing.state.owed = [] := by
        rw [← List.length_eq_zero_iff, length_owed, hread.readAvailable, hread.surplus,
          ← length_owed, hstate, owed_asked, List.length_nil]
      have hbacked := backed_after [] hafter (backed_of_owed_eq_nil howed)
        (sparing_of_idle hafter hfails.writeRemaining hlater)
      exact ⟨read_of_ready hs hover hready, hbacked.part⟩

/-- The first chunk of a command goes out and the rest does not. A read that asks for too much is
refused, the next one may receive, and what it leaves ready is read without another transfer. -/
theorem reads_after_half_a_command :
    let t := fresh ⟨⟨4, 8, 1000, 2, .reject⟩, by decide⟩
      (⟨[.moved [8, 9]], [.moved 4, .failed ⟨.brokenPipe, "gone"⟩]⟩ : Backend.Script)
    let started := (startWriteRead 6 2 t).state
    let during : List Call := [.write [1, 2]]
    let failed := (write [3, 4, 5, 6] (started.after during)).state
    Throughout Continues during started ∧
      (write [3, 4, 5, 6] (started.after during)).result =
        .error (.io .send ⟨.brokenPipe, "gone"⟩) ∧
      failed.counters = [0, 0, 2, 0, 0] ∧
      Throughout Continues [.read 3, .read 1] failed ∧
      (NoReceive (read 2 (failed.after [.read 3])).events ↔
        2 ≤ (failed.after [.read 3]).readAvailable) ∧
      (read 1 (failed.after [.read 3, .read 1])).result = .ok [9] ∧
      (failed.after [.read 3, .read 1]).owed.take 1 = [9] := by
  intro t started during failed
  have hcontinues : Throughout Continues during started := ⟨continues_of_not_start rfl, trivial⟩
  have hfailed : (write [3, 4, 5, 6] (started.after during)).result =
      .error (.io .send ⟨.brokenPipe, "gone"⟩) := by cbv
  obtain ⟨-, -, hcounters, hreads⟩ := reads_after_failed_write t.config t.backend [] 6 2 during
    [3, 4, 5, 6] rfl hcontinues rfl _ hfailed
  have hrefused : Throughout Continues [.read 3] failed := ⟨continues_of_not_start rfl, trivial⟩
  have hlater : Throughout Continues [.read 3, .read 1] failed :=
    ⟨continues_of_not_start rfl, continues_of_not_start rfl, trivial⟩
  obtain ⟨-, -, hreceives, -⟩ := hreads [.read 3] hrefused 2
  obtain ⟨-, -, -, hserves⟩ := hreads [.read 3, .read 1] hlater 1
  have hready : 1 ≤ ((write [3, 4, 5, 6] ((startWriteRead 6 2 t).state.after
      [.write [1, 2]])).state.after [.read 3, .read 1]).readAvailable := by cbv
  have hnine : (read 1 ((write [3, 4, 5, 6] ((startWriteRead 6 2 t).state.after
      [.write [1, 2]])).state.after [.read 3, .read 1])).result = .ok [9] := by cbv
  have hserved := (hserves hready).1
  exact ⟨hcontinues, hfailed, hcounters, hlater, hreceives (by cbv), hnine,
    Except.ok.inj (hserved.symm.trans hnine)⟩

/-- Nothing of a command goes out, and still the read paired with it receives and succeeds. -/
theorem read_answers_unsent_command :
    let t := fresh ⟨⟨4, 8, 1000, 2, .reject⟩, by decide⟩
      (⟨[.moved [9, 9]], [.timedOut 0, .timedOut 0]⟩ : Backend.Script)
    let calls : List Call := [.startWriteRead 3 2, .write [1, 2, 3]]
    (write [1, 2, 3] (t.after (calls.take 1))).result = .error (.timeout .send) ∧
      sentBytes (t.trace calls) = [] ∧
      (read 2 (t.after calls)).result = .ok [9, 9] ∧
      ¬NoReceive (read 2 (t.after calls)).events := by
  intro t calls
  refine ⟨?_, ?_, ?_, ?_⟩
  · cbv
  · cbv
  · cbv
  · intro hnone
    have hevents : (read 2 (t.after calls)).events = [.received 4 (.moved [9, 9])] := by cbv
    rw [hevents] at hnone
    exact absurd (hnone _ List.mem_cons_self) (by decide)

end ProbeLink.Transport
