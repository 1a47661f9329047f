import ProbeLink.Fine
import ProbeLink.Proofs.Failures

/-!
# ProbeLink.Proofs.FineCalls

**What a FINE command does**, one lemma for each way it can go. Lengths that its header cannot express
are refused at once (`transfer_of_long_out`, `transfer_of_long_in`). Where the header has to wait for
the bytes that follow it and the scratch buffer is too short for it, the command ends there
(`transfer_of_full`). Any other command sends its request as one write operation (`sendRequest_sends`)
and reads its answer in two calls.

From there on only a transfer can fail (`transfer_error`): the two calls that write and the two that
read add up to what was declared for them.
-/

namespace ProbeLink.Fine

open Transport

variable {β : Type} [Backend β] {t : Transport β} {out : Bytes} {inLength : Nat} {param : UInt32}

/-! ### The parts of a command -/

/-- Writes the request: the header, and the bytes to shift out if there are any. -/
def sendRequest (out : Bytes) (inLength : Nat) (param : UInt32) : Run (Transport β) Unit := do
  write (header out.length inLength param)
  if !out.isEmpty then write out

/-- Reads the answer: the bytes that were shifted in, then the status. -/
def readAnswer (inLength : Nat) : Run (Transport β) FineAnswer := do
  let data ← read inLength
  let status ← read statusLength
  let status := UInt32.ofNat (Bytes.toNat status)
  if status ≠ 0 then Run.note (.fineStatus status)
  return ⟨data, status⟩

theorem sendRequest_nil (inLength : Nat) (param : UInt32) :
    sendRequest (β := β) [] inLength param = write (header 0 inLength param) :=
  bind_pure _

/-- Both lengths can be expressed in the header. -/
structure Fits (out : Bytes) (inLength : Nat) : Prop where
  out : out.length ≤ maxLength
  inLength : inLength ≤ maxLength

/-- The length of the request. -/
def requestLength (out : Bytes) : Nat := headerLength + out.length

/-- The length of the answer. -/
def answerLength (inLength : Nat) : Nat := statusLength + inLength

theorem requestLength_pos (out : Bytes) : 0 < requestLength out := Nat.add_pos_left (by decide) _

theorem answerLength_pos (inLength : Nat) : 0 < answerLength inLength :=
  Nat.add_pos_left (by decide) _

theorem transfer_of_fits (h : Fits out inLength) (param : UInt32) (t : Transport β) :
    transfer out inLength param t =
      ((sendRequest out inLength param >>= fun _ => readAnswer inLength)
        (t.asked (requestLength out) (answerLength inLength))).after
          (startWriteRead (requestLength out) (answerLength inLength) t).events := by
  have hsteps : transfer (β := β) out inLength param =
      (startWriteRead (requestLength out) (answerLength inLength) >>= fun _ =>
        sendRequest out inLength param >>= fun _ => readAnswer inLength) := by
    rw [transfer, if_neg (Nat.not_lt.2 h.out), if_neg (Nat.not_lt.2 h.inLength), sendRequest]
    -- What follows the condition is written once in the command, and in both branches here.
    cases out <;> simp [readAnswer, requestLength, answerLength, bind_assoc]
  rw [hsteps]
  exact Run.bind_of_ok _
    (startWriteRead_of_pos (requestLength_pos out) (answerLength_pos inLength) t)

/-! ### Commands that are refused -/

theorem transfer_of_long_out (h : maxLength < out.length) (inLength : Nat) (param : UInt32)
    (t : Transport β) :
    transfer out inLength param t = ⟨.error (.argument (.payloadTooLarge out.length)), t, []⟩ := by
  rw [transfer, if_pos h]
  rfl

theorem transfer_of_long_in (hout : out.length ≤ maxLength) (h : maxLength < inLength)
    (param : UInt32) (t : Transport β) :
    transfer out inLength param t = ⟨.error (.argument (.payloadTooLarge inLength)), t, []⟩ := by
  rw [transfer, if_neg (Nat.not_lt.2 hout), if_pos h]
  rfl

/-- The header is written before the bytes that follow it, so it has to fit into the scratch
buffer. -/
theorem transfer_of_full (h : Fits out inLength) (hout : out ≠ [])
    (hfull : t.config.bufferSize < headerLength) (param : UInt32) :
    transfer out inLength param t =
      ⟨.error (.argument (.bufferTooSmall headerLength t.config.bufferSize)),
        t.asked (requestLength out) (answerLength inLength),
        (startWriteRead (requestLength out) (answerLength inLength) t).events ++
          [.noted .writeTooLarge]⟩ := by
  have hshort : (header out.length inLength param).length < requestLength out := by
    rw [length_header]
    exact Nat.lt_add_of_pos_right (List.length_pos_iff.2 hout)
  have hwrite : write (header out.length inLength param)
      (t.asked (requestLength out) (answerLength inLength)) =
        ⟨.error (.argument (.bufferTooSmall headerLength t.config.bufferSize)),
          t.asked (requestLength out) (answerLength inLength), [.noted .writeTooLarge]⟩ := by
    rw [asked_eq, write_of_full hshort (by rw [length_header]; exact hfull), length_header]
    rfl
  rw [transfer_of_fits h, sendRequest, bind_assoc, Run.bind_of_error _ hwrite]
  rfl

/-! ### The request -/

/-- What a transport is like when an operation of both kinds has been started on it. -/
structure Started (writeLength readLength : Nat) (t s : Transport β) : Prop where
  backend : s.backend = t.backend
  config : s.config = t.config
  writeRemaining : s.writeRemaining = writeLength
  writeBuffered : s.writeBuffered = 0
  readRemaining : s.readRemaining = readLength
  readAvailable : s.readAvailable = 0
  surplus : s.surplus = 0

omit [Backend β] in
theorem started_asked (writeLength readLength : Nat) (t : Transport β) :
    Started writeLength readLength t (t.asked writeLength readLength) := by
  rw [asked_eq]
  exact ⟨rfl, rfl, rfl, rfl, rfl, rfl, rfl⟩

/-- A call that does not complete the operation waits in the scratch buffer for the one that does. -/
theorem write_write_eq {s : Transport β} {first second : Bytes}
    (hall : first.length + second.length = s.writeRemaining) (hsecond : second ≠ [])
    (hbuffered : s.writeBuffered = 0) (hroom : first.length ≤ s.config.bufferSize) :
    (write first >>= fun _ => write second : Run (Transport β) Unit) s =
      flush second (s.stage first) := by
  have hpos : 0 < second.length := List.length_pos_iff.2 hsecond
  have hstaged : write first s = ⟨.ok (), s.stage first, []⟩ :=
    write_of_fits (by omega) (by rw [hbuffered]; exact hroom)
  have hrest : second.length = (s.stage first).writeRemaining := by
    show second.length = s.writeRemaining - first.length
    omega
  rw [Run.bind_of_ok _ hstaged, write_of_eq hrest]
  rfl

/-- A header without any bytes after it goes out at once. -/
theorem sendRequest_of_nil {s : Transport β}
    (h : Started (requestLength []) (answerLength inLength) t s) (param : UInt32) :
    sendRequest [] inLength param s = flush (header 0 inLength param) s := by
  have hall : (header 0 inLength param).length = s.writeRemaining := by
    rw [length_header, h.writeRemaining]
    rfl
  rw [sendRequest_nil, write_of_eq hall]

/-- Otherwise it waits in the scratch buffer for the bytes that follow it. -/
theorem sendRequest_of_ne_nil {s : Transport β}
    (h : Started (requestLength out) (answerLength inLength) t s) (hout : out ≠ [])
    (hroom : headerLength ≤ t.config.bufferSize) (param : UInt32) :
    sendRequest out inLength param s =
      flush out (s.stage (header out.length inLength param)) := by
  have hall : (header out.length inLength param).length + out.length = s.writeRemaining := by
    rw [length_header, h.writeRemaining, requestLength]
  have hfits : (header out.length inLength param).length ≤ s.config.bufferSize := by
    rwa [length_header, h.config]
  have hwrite : sendRequest out inLength param s =
      (write (header out.length inLength param) >>= fun _ => write out :
        Run (Transport β) Unit) s := by
    rw [sendRequest, List.isEmpty_eq_false_iff.2 hout]
    rfl
  rw [hwrite, write_write_eq hall hout h.writeBuffered hfits]

/-- **The two calls send the request as one.** -/
theorem sendRequest_sends {s : Transport β}
    (h : Started (requestLength out) (answerLength inLength) t s)
    (hroom : out = [] ∨ headerLength ≤ t.config.bufferSize) (param : UInt32) :
    ∃ s', Awaits (answerLength inLength) t s' ∧ s'.backend = t.backend ∧
      Sends (header out.length inLength param ++ out) s' (sendRequest out inLength param s) := by
  have hstaged : s.staged = [] := staged_eq_nil h.writeBuffered
  rcases Decidable.em (out = []) with rfl | hout
  · have hsends := flush_sends (header 0 inLength param) s
    rw [hstaged, List.nil_append] at hsends
    refine ⟨s.flushed (header 0 inLength param), ?_, h.backend, ?_⟩
    · exact ⟨h.config, rfl, h.readRemaining, ready_eq_nil h.readAvailable, spare_eq_nil h.surplus⟩
    · rwa [List.append_nil, sendRequest_of_nil h]
  · have hsends := flush_sends out (s.stage (header out.length inLength param))
    rw [staged_stage, hstaged, List.nil_append] at hsends
    refine ⟨(s.stage (header out.length inLength param)).flushed out, ?_, h.backend, ?_⟩
    · exact ⟨h.config, rfl, h.readRemaining, ready_eq_nil h.readAvailable, spare_eq_nil h.surplus⟩
    · rwa [sendRequest_of_ne_nil h hout (hroom.resolve_left hout)]

/-! ### The answer -/

/-- The two reads ask for what was declared, so that only a transfer can fail. -/
theorem readAnswer_error {s : Transport β} {e : Error} (hw : s.writeRemaining = 0)
    (hexpected : s.readExpected = answerLength inLength) (htidy : s.intake.Tidy)
    (h : (readAnswer inLength s).result = .error e) : e.OfTransfer := by
  have hpart : inLength ≤ s.readExpected := by
    rw [hexpected]
    exact Nat.le_add_left _ _
  have hdata := read_reads hw hpart htidy
  cases hd : (read inLength s).result with
  | error e' =>
    rw [readAnswer, Run.bind_of_result_error _ hd] at h
    cases h
    exact hdata.error hd
  | ok data =>
    -- What is left after the first read is the length of the status word.
    have hleft : (read inLength s).state.readExpected = statusLength := by
      rw [(hdata.leaves hpart hd).2, hexpected, answerLength, Nat.add_sub_cancel]
    have hstatus := read_reads (hdata.writeSide.writeRemaining.trans hw)
      (Nat.le_of_eq hleft.symm) (hdata.tidy htidy)
    rw [readAnswer, Run.bind_of_result_ok _ hd, Outcome.result_after] at h
    cases hs : (read statusLength (read inLength s).state).result with
    | error e' =>
      rw [Run.bind_of_result_error _ hs] at h
      cases h
      exact hstatus.error hs
    | ok status =>
      rw [Run.bind_of_result_ok _ hs, Outcome.result_after] at h
      dsimp only at h
      split at h <;> cases h

/-! ### A command -/

/-- **A command whose request is sent reads the answer** that is due. -/
theorem transfer_of_sent (h : Fits out inLength)
    (hroom : out = [] ∨ headerLength ≤ t.config.bufferSize) (param : UInt32) :
    let started := t.asked (requestLength out) (answerLength inLength)
    let sent := sendRequest out inLength param started
    sent.result = .ok () →
      Awaits (answerLength inLength) t sent.state ∧
        transfer out inLength param t =
          (readAnswer inLength sent.state).after
            ((startWriteRead (requestLength out) (answerLength inLength) t).events ++
              sent.events) := by
  intro started sent hsent
  obtain ⟨s, hawaits, -, hsends⟩ := sendRequest_sends (started_asked _ _ t) hroom param
  constructor
  · rw [hsends.state]
    exact ⟨hawaits.config, hawaits.writeRemaining, hawaits.readRemaining, hawaits.ready,
      hawaits.spare⟩
  · rw [transfer_of_fits h, Run.bind_of_result_ok _ hsent]
    simp only [Outcome.after, List.append_assoc]
    rfl

/-- All that a command that fits can do: fail to send the request, or read the answer that is due. -/
theorem transfer_cases (h : Fits out inLength)
    (hroom : out = [] ∨ headerLength ≤ t.config.bufferSize) (param : UInt32) :
    let started := t.asked (requestLength out) (answerLength inLength)
    let sent := sendRequest out inLength param started
    (∃ e, e.OfTransfer ∧ (transfer out inLength param t).result = .error e) ∨
      (sent.result = .ok () ∧ Awaits (answerLength inLength) t sent.state ∧
        transfer out inLength param t =
          (readAnswer inLength sent.state).after
            ((startWriteRead (requestLength out) (answerLength inLength) t).events ++
              sent.events)) := by
  intro started sent
  cases hsent : sent.result with
  | error e =>
    obtain ⟨s, -, -, hsends⟩ := sendRequest_sends (started_asked _ _ t) hroom param
    have hfails : e.OfTransfer := by
      obtain rfl | ⟨cause, rfl⟩ := hsends.cause e hsent
      · exact .timeout .send
      · exact .io .send cause
    refine .inl ⟨e, hfails, ?_⟩
    rw [transfer_of_fits h, Outcome.result_after, Run.bind_of_result_error _ hsent]
  | ok u =>
    obtain ⟨hawaits, hrun⟩ := transfer_of_sent h hroom param hsent
    exact .inr ⟨rfl, hawaits, hrun⟩

/-- **Once a command is admitted, only a transfer can fail.** -/
theorem transfer_error {e : Error} (h : Fits out inLength)
    (hroom : out = [] ∨ headerLength ≤ t.config.bufferSize)
    (he : (transfer out inLength param t).result = .error e) : e.OfTransfer := by
  obtain ⟨e', htransfer, he'⟩ | ⟨-, hawaits, hrun⟩ := transfer_cases h hroom param
  · rw [he] at he'
    cases he'
    exact htransfer
  · rw [hrun, Outcome.result_after] at he
    exact readAnswer_error hawaits.writeRemaining hawaits.readExpected hawaits.tidy he

end ProbeLink.Fine
