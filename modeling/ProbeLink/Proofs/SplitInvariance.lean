import Mathlib
import ProbeLink.Backend.Script
import ProbeLink.Proofs.Reading

/-!
# ProbeLink.Proofs.SplitInvariance

**How a read operation is cut into calls does not show.** Reading one length after the other is
gathering their sum (`readEach_reads`), so two ways to cut an operation differ neither in the bytes
or the error they end with, nor in the physical receives they make, nor in the bytes they leave
behind (`readOperation_split_invariant`).
-/

namespace ProbeLink.Transport

variable {β : Type}

/-! ### One read after the other -/

variable [Backend β]

/-- Reads one length after the other, and joins what the calls return. -/
def readEach : List Nat → Run (Transport β) Bytes
  | [] => pure []
  | length :: later => do
    let first ← read length
    let rest ← readEach later
    return first ++ rest

/-- Starts a read operation and reads it in calls of these lengths, up to the first that fails. -/
def readOperation (length : Nat) (calls : List Nat) : Run (Transport β) Bytes := do
  startRead length
  readEach calls

theorem readEach_cons (length : Nat) (later : List Nat) :
    readEach (β := β) (length :: later) =
      read length >>= fun first => (first ++ ·) <$> readEach later := rfl

/-- A call that fails leaves nothing for the calls after it to gather: it comes to the same as
having asked for more. -/
theorem Reads.stopped {t : Transport β} {need more : Nat} {outcome : Outcome (Transport β) Bytes}
    (h : Reads t need outcome) (hle : need ≤ more) (hneed : need ≤ t.readExpected) {e : Error}
    (hg : (t.gathered need).result = .error e) : Reads t more outcome := by
  have hmore : t.gathered more = t.gathered need := by
    have hon := Intake.gather_bind_gather t.config hle t.intake
    have hstop : Run.bind (Intake.gather t.config need)
        (fun _ => Intake.gather t.config more) t.intake = t.gathered need :=
      (Run.bind_of_result_error _ hg).trans (by rw [← hg]; rfl)
    exact hon.symm.trans hstop
  have hshort : (t.gathered need).state.ready.length < need := by
    refine Nat.lt_of_not_le ?_
    intro hle
    have hok : (t.gathered need).result = .ok () :=
      (Intake.gather_enough (by rwa [← readExpected_eq])).2 hle
    rw [hok] at hg
    cases hg
  refine ⟨?_, ?_, ?_, h.writeSide⟩
  · rw [h.result, hmore, hg]
    rfl
  · rw [h.events, hmore]
  · rw [h.intake, hmore]
    simp only [Intake.handOut]
    rw [List.drop_eq_nil_of_le (by omega), List.drop_eq_nil_of_le (by omega)]

/-- Gathering on after a call that succeeded. -/
theorem gathered_add {t : Transport β} {need : Nat} (more : Nat)
    (h : (t.gathered need).result = .ok ()) :
    t.gathered (need + more) =
      (Intake.gather t.config (need + more) (t.gathered need).state).after
        (t.gathered need).events := by
  have hon := Intake.gather_bind_gather t.config (Nat.le_add_right need more) t.intake
  exact hon.symm.trans (Run.bind_of_result_ok _ h)

/-- A call that succeeds and those that read on from the state it leaves read one length and the
other. -/
theorem Reads.continued {t : Transport β} {need more : Nat}
    {outcome later : Outcome (Transport β) Bytes} {first : Bytes} (h : Reads t need outcome)
    (hneed : need ≤ t.readExpected) (hok : outcome.result = .ok first)
    (hlater : Reads outcome.state more later) :
    Reads t (need + more) ((later.map (first ++ ·)).after outcome.events) := by
  obtain ⟨hg, hfirst⟩ : (t.gathered need).result = .ok () ∧
      first = (t.gathered need).state.ready.take need := by
    have hresult := h.result
    rw [hok] at hresult
    cases hg : (t.gathered need).result with
    | error e =>
      rw [hg] at hresult
      cases hresult
    | ok u =>
      rw [hg] at hresult
      cases hresult
      exact ⟨rfl, rfl⟩
  have henough : need ≤ (t.gathered need).state.ready.length :=
    (Intake.gather_enough (by rwa [← readExpected_eq])).1 hg
  -- The later calls start without the bytes that the first one has handed out.
  have hrest : outcome.state.gathered more =
      (Intake.gather t.config (need + more) (t.gathered need).state).inState
        (Intake.handOut need) := by
    rw [gathered, h.intake, h.writeSide.config, Intake.gather_handOut henough]
  have hon := gathered_add more hg
  have hresult : (t.gathered (need + more)).result = (outcome.state.gathered more).result := by
    rw [hon, hrest]
    rfl
  have hstate : (outcome.state.gathered more).state =
      (t.gathered (need + more)).state.handOut need := by
    rw [hon, hrest]
    rfl
  have htake : first = (t.gathered (need + more)).state.ready.take need := by
    obtain ⟨rest, hready⟩ := Intake.ready_isPrefix_gather t.config (need + more)
      (t.gathered need).state
    rw [hon, Outcome.state_after, ← hready, List.take_append_of_le_length henough, hfirst]
  refine ⟨?_, ?_, ?_, h.writeSide.trans hlater.writeSide⟩
  · rw [Outcome.result_after, Outcome.result_map, hlater.result, hresult, hstate, htake]
    cases (outcome.state.gathered more).result with
    | error e => rfl
    | ok u => simp only [Except.map, Intake.handOut, List.take_add]
  · rw [Outcome.events_after, Outcome.events_map, h.events, hlater.events, hon, hrest]
    rfl
  · rw [Outcome.state_after, Outcome.state_map, hlater.intake, hstate]
    simp only [Intake.handOut, List.drop_drop]

/-- A call that succeeds leaves the rest of the operation to be read. -/
theorem Reads.le_readExpected {t : Transport β} {need more : Nat}
    {outcome : Outcome (Transport β) Bytes} (h : Reads t need outcome)
    (hl : need + more ≤ t.readExpected) : more ≤ outcome.state.readExpected := by
  have hsum := Intake.length_ready_add_due t.config need t.intake
  rw [readExpected_eq] at hl
  rw [readExpected_eq, h.intake]
  simp only [Intake.handOut, List.length_drop]
  simp only [gathered]
  omega

/-- **Reading in several calls is gathering their sum.** -/
theorem readEach_reads {t : Transport β} {calls : List Nat} (hw : t.writeRemaining = 0)
    (hl : calls.sum ≤ t.readExpected) (htidy : t.intake.Tidy) :
    Reads t calls.sum (readEach calls t) := by
  induction calls generalizing t with
  | nil =>
    have hnone : t.gathered 0 = ⟨.ok (), t.intake, []⟩ := Intake.gather_of_le (Nat.zero_le _)
    rw [List.sum_nil]
    refine ⟨?_, ?_, ?_, SameWriteSide.refl t⟩ <;> rw [hnone] <;> rfl
  | cons length later ih =>
    rw [List.sum_cons] at hl ⊢
    have hlength : length ≤ t.readExpected := by omega
    have hread := read_reads hw hlength htidy
    cases hg : (t.gathered length).result with
    | error e =>
      have hfail : (read length t).result = .error e := by
        rw [hread.result, hg]
        rfl
      have hover : readEach (length :: later) t = read length t := by
        rw [readEach, Run.bind_of_result_error _ hfail, ← hfail]
      rw [hover]
      exact hread.stopped (Nat.le_add_right length later.sum) hlength hg
    | ok u =>
      have hok : (read length t).result = .ok ((t.gathered length).state.ready.take length) := by
        rw [hread.result, hg]
        rfl
      have htidy' : (read length t).state.intake.Tidy := by
        rw [hread.intake]
        exact Intake.tidy_gather htidy
      have hrest := ih (hread.writeSide.writeRemaining.trans hw) (hread.le_readExpected hl) htidy'
      rw [readEach_cons, Run.bind_of_result_ok _ hok, Run.map_apply]
      exact hread.continued hlength hok hrest

/-! ### A whole operation -/

/-- The calls of a read operation gather its length. -/
theorem readEach_begun {length : Nat} {calls : List Nat} (t : Transport β)
    (hsum : calls.sum = length) :
    Reads (t.begun length) length (readEach calls (t.begun length)) := by
  have hl : calls.sum ≤ (t.begun length).readExpected :=
    Nat.le_of_eq (hsum.trans (readExpected_begun length t).symm)
  have h := readEach_reads (writeRemaining_begun length t) hl (tidy_begun length t)
  rwa [hsum] at h

theorem readOperation_of_pos {length : Nat} {calls : List Nat} (t : Transport β)
    (h : 0 < length) :
    readOperation length calls t =
      (readEach calls (t.begun length)).after (startRead length t).events :=
  Run.bind_of_ok (fun _ => readEach calls) (startRead_of_pos h t)

/-- Two outcomes that read the same number of bytes from the same state do not differ in anything
that later calls can tell. -/
theorem Reads.agree {t : Transport β} {need : Nat} {outcome outcome' : Outcome (Transport β) Bytes}
    (h : Reads t need outcome) (h' : Reads t need outcome') :
    outcome.result = outcome'.result ∧ outcome.events = outcome'.events ∧
      outcome.state.intake = outcome'.state.intake ∧
      outcome.state.counters = outcome'.state.counters := by
  have hintake : outcome.state.intake = outcome'.state.intake := h.intake.trans h'.intake.symm
  have havailable := congrArg (fun s => s.ready.length) hintake
  have hsurplus := congrArg (fun s => s.spare.length) hintake
  simp only [ready_intake, length_ready, spare_intake, length_spare] at havailable hsurplus
  refine ⟨h.result.trans h'.result.symm, h.events.trans h'.events.symm, hintake, ?_⟩
  simp only [counters, List.cons.injEq, and_true]
  exact ⟨h.writeSide.writeRemaining.trans h'.writeSide.writeRemaining.symm,
    h.writeSide.writeBuffered.trans h'.writeSide.writeBuffered.symm,
    congrArg Intake.due hintake, havailable, hsurplus⟩

/-- **How a read operation is cut into calls does not show**: neither in what the calls return or
the error they stop at, nor in the physical receives, nor in what is left for later calls. The bytes
are the first of those that were adopted and received. -/
theorem readOperation_split_invariant (t : Transport β) {length : Nat} {calls calls' : List Nat}
    (hcalls : calls.sum = length) (hcalls' : calls'.sum = length) :
    (readOperation length calls t).result = (readOperation length calls' t).result ∧
      (readOperation length calls t).events = (readOperation length calls' t).events ∧
      (readOperation length calls t).state.intake = (readOperation length calls' t).state.intake ∧
      (readOperation length calls t).state.counters =
        (readOperation length calls' t).state.counters ∧
      RoomIs t.config.chunkSize (readOperation length calls t).events ∧
      ∀ bytes, (readOperation length calls t).result = .ok bytes →
        bytes.length = length ∧
          bytes = (t.adopted length ++
            receivedBytes (readOperation length calls t).events).take length := by
  by_cases hpos : 0 < length
  · have hreads := readEach_begun t hcalls
    obtain ⟨hresult, hevents, hintake, hcounters⟩ := hreads.agree (readEach_begun t hcalls')
    rw [readOperation_of_pos t hpos, readOperation_of_pos t hpos]
    have hstart := (quiet_startRead length t).2
    refine ⟨hresult, congrArg (_ ++ ·) hevents, hintake, hcounters, ?_, ?_⟩
    · refine roomIs_append.2 ⟨roomIs_of_noReceive hstart, ?_⟩
      rw [hreads.events, ← config_begun length t]
      exact Intake.roomIs_gather _
    · intro bytes hok
      obtain ⟨hlength, hbytes⟩ := (hreads.owed (Nat.le_of_eq (readExpected_begun length t).symm)
        (tidy_begun length t)).1 bytes hok
      have howed : (t.begun length).owed = t.adopted length := by
        rw [owed_eq, intake_begun, List.append_nil]
      have hall : t.adopted length ++
          receivedBytes ((startRead length t).events ++ (readEach calls (t.begun length)).events) =
            bytes ++ (readEach calls (t.begun length)).state.owed := by
        rw [receivedBytes_append, receivedBytes_eq_nil hstart, List.nil_append, ← howed, hbytes]
      refine ⟨hlength, ?_⟩
      rw [Outcome.events_after, hall, List.take_left' hlength]
  · -- There is no operation of length zero: both fail before they read anything.
    have hzero : length = 0 := by omega
    have hfail : ∀ calls, readOperation length calls t =
        ⟨.error (.argument .zeroLength), t, []⟩ := by
      intro calls
      refine Run.bind_of_error _ ?_
      simp only [startRead, if_pos hzero]
    rw [hfail, hfail]
    refine ⟨rfl, rfl, rfl, rfl, by simp [RoomIs], ?_⟩
    intro bytes h
    cases h

/-- Five bytes that arrive in two pieces with a pause between them, read in one call and in three:
the second of them asks for nothing. -/
theorem readOperation_one_call_three_calls :
    let t := fresh ⟨⟨4, 8, 1000, 2, .retain⟩, by decide⟩
      (⟨[.moved [1, 2, 3], .timedOut [], .moved [4, 5, 6, 7]], []⟩ : Backend.Script)
    [5].sum = 5 ∧ [2, 0, 3].sum = 5 ∧
      (readOperation 5 [5] t).result = (readOperation 5 [2, 0, 3] t).result ∧
      (readOperation 5 [2, 0, 3] t).result = .ok [1, 2, 3, 4, 5] := by
  intro t
  have hone : [5].sum = 5 := rfl
  have hthree : [2, 0, 3].sum = 5 := rfl
  obtain ⟨hresult, -⟩ := readOperation_split_invariant t hone hthree
  refine ⟨hone, hthree, hresult, ?_⟩
  cbv

end ProbeLink.Transport
