import ProbeLink.Proofs.FineCalls
import ProbeLink.Proofs.Pieces
import ProbeLink.Proofs.SplitInvariance

/-!
# ProbeLink.Proofs.FineRoundTrip

**A FINE command, from one end to the other** (`transfer_of_served`). A device that takes the
request gets the header and the bytes that follow it, and what it answers is returned, wherever the
answer is cut.

The header waits in the scratch buffer for the bytes to shift out, so that the request goes out in
the two blocks of a call that completes an operation, of which the first begins with the header
(`sendRequest_eq`). The two calls that read the answer are as good as one that reads all of it
(`readAnswer_eq`), so only the pieces as a whole matter, and not which call a cut falls into.
-/

namespace ProbeLink

/-! ### Two blocks -/

namespace Backend

variable {β : Type} [Backend β]

/-- Sends data in two blocks. -/
def sendBlocks (maxTimeouts : Nat) (head tail : Bytes) : Run β Unit :=
  sendAll maxTimeouts head >>= fun _ => sendAll maxTimeouts tail

end Backend

namespace Transport

variable {β : Type} [Backend β] {t : Transport β}

theorem send_send_eq (head tail : Bytes) (t : Transport β) :
    (send head >>= fun _ => send tail : Run (Transport β) Unit) t =
      (Backend.sendBlocks t.config.maxTimeouts head tail t.backend).inState
        fun backend => { t with backend := backend } := by
  cases h : (Backend.sendAll t.config.maxTimeouts head t.backend).result with
  | error e =>
    have hsend : (send head t).result = .error e := h
    rw [Run.bind_of_result_error _ hsend, Backend.sendBlocks, Run.bind_of_result_error _ h]
    rfl
  | ok u =>
    have hsend : (send head t).result = .ok () := h
    rw [Run.bind_of_result_ok _ hsend, Backend.sendBlocks, Run.bind_of_result_ok _ h]
    rfl

/-- **Completing an operation sends its two blocks over the backend**, and nothing else. -/
theorem flush_outcome (data : Bytes) (t : Transport β) :
    flush data t =
      (Backend.sendBlocks t.config.maxTimeouts (t.headBlock data) (t.tailBlock data)
        t.backend).inState fun backend => { t.flushed data with backend := backend } := by
  rw [flush_eq, send_send_eq]
  rfl

omit [Backend β] in
/-- If bytes are staged, the two blocks are the content cut at a whole number of chunks. -/
theorem headBlock_tailBlock_eq (h : 0 < t.writeBuffered) (data : Bytes) :
    t.headBlock data = (t.staged ++ data).take (t.writeBuffered + t.fill) ∧
      t.tailBlock data = (t.staged ++ data).drop (t.writeBuffered + t.fill) := by
  have hstaged : ¬t.writeBuffered = 0 := Nat.ne_of_gt h
  rw [headBlock, tailBlock, if_neg hstaged, if_neg hstaged, ← length_staged t,
    List.take_length_add_append, List.drop_length_add_append]
  exact ⟨rfl, rfl⟩

end Transport

namespace Fine

open Transport

variable {β : Type} [Backend β] {t : Transport β} {out : Bytes} {inLength : Nat} {param : UInt32}
  {pieces : List Bytes}

/-! ### The request -/

/-- A request on the wire. -/
def encodeRequest (out : Bytes) (inLength : Nat) (param : UInt32) : Bytes :=
  header out.length inLength param ++ out

/-- The length of the first block of a request: the header, filled up to whole chunks. -/
def firstBlock (config : ValidConfig) : Nat :=
  (headerLength + config.chunkSize - 1) / config.chunkSize * config.chunkSize

theorem headerLength_le_firstBlock (config : ValidConfig) : headerLength ≤ firstBlock config :=
  le_whole_chunks config.valid.chunkSize_pos headerLength

/-- Sends a request over a backend. -/
def deliver (config : ValidConfig) (request : Bytes) : Run β Unit :=
  Backend.sendBlocks config.maxTimeouts (request.take (firstBlock config))
    (request.drop (firstBlock config))

/-- **The request goes out in its two blocks**, and only the backend tells how it went. -/
theorem sendRequest_eq {s : Transport β}
    (h : Started (requestLength out) (answerLength inLength) t s)
    (hroom : out = [] ∨ headerLength ≤ t.config.bufferSize) (param : UInt32) :
    ∃ s' : Transport β, sendRequest out inLength param s =
      (deliver t.config (encodeRequest out inLength param) t.backend).inState
        fun backend => { s' with backend := backend } := by
  have hfirst := headerLength_le_firstBlock t.config
  have hlength := length_header out.length inLength param
  rcases Decidable.em (out = []) with rfl | hout
  · -- The header is all there is, and fits into the first block.
    refine ⟨s.flushed (header 0 inLength param), ?_⟩
    rw [sendRequest_of_nil h, flush_outcome, h.config, h.backend, headBlock, tailBlock,
      if_pos h.writeBuffered, if_pos h.writeBuffered, deliver, encodeRequest, List.append_nil,
      List.take_of_length_le (hlength.trans_le hfirst),
      List.drop_eq_nil_of_le (hlength.trans_le hfirst)]
    rfl
  · generalize hhead : header out.length inLength param = head at hlength
    have hbuffered : (s.stage head).writeBuffered = headerLength := by
      show s.writeBuffered + head.length = headerLength
      rw [h.writeBuffered, hlength, Nat.zero_add]
    have hstaged : (s.stage head).staged = head := by
      rw [staged_stage, staged_eq_nil h.writeBuffered, List.nil_append]
    have hconfig : (s.stage head).config = t.config := h.config
    have hcut : (s.stage head).writeBuffered + (s.stage head).fill = firstBlock t.config := by
      rw [fill, hbuffered, hconfig]
      exact Nat.add_sub_cancel' hfirst
    obtain ⟨hfront, hback⟩ := headBlock_tailBlock_eq
      (by rw [hbuffered]; decide) out (t := s.stage head)
    rw [hcut, hstaged] at hfront hback
    refine ⟨(s.stage head).flushed out, ?_⟩
    rw [sendRequest_of_ne_nil h hout (hroom.resolve_left hout), hhead, flush_outcome, hfront, hback,
      hconfig, encodeRequest, hhead, deliver, ← h.backend]
    rfl

/-! ### The answer -/

/-- What a command makes of the status that it has read. -/
def conclude (data : Bytes) (status : UInt32) : Run (Transport β) FineAnswer := do
  if status ≠ 0 then Run.note (.fineStatus status)
  return ⟨data, status⟩

omit [Backend β] in
/-- Nothing but a log line depends on the status. -/
theorem conclude_outcome (data : Bytes) (status : UInt32) (s : Transport β) :
    (conclude data status s).result = .ok ⟨data, status⟩ ∧ (conclude data status s).state = s ∧
      Quiet (conclude data status s).events := by
  unfold conclude
  split
  · exact ⟨rfl, rfl, quiet_noted (.fineStatus status)⟩
  · exact ⟨rfl, rfl, quiet_nil⟩

/-- **The two calls that read the answer are as good as one** that reads all of it, and what they
return are its parts. -/
theorem readAnswer_eq {s : Transport β} (hw : s.writeRemaining = 0)
    (hpart : inLength ≤ s.readExpected) (htidy : s.intake.Tidy) :
    readAnswer inLength s =
      (readEach [inLength, statusLength] >>= fun bytes => conclude (bytes.take inLength)
        (UInt32.ofNat (Bytes.toNat (bytes.drop inLength))) : Run (Transport β) FineAnswer) s := by
  have hsteps : readAnswer (β := β) inLength = (read inLength >>= fun data =>
      read statusLength >>= fun word => conclude data (UInt32.ofNat (Bytes.toNat word))) := rfl
  rw [hsteps, readEach_cons, readEach_cons]
  cases hdata : (read inLength s).result with
  | error e =>
    rw [Run.bind_of_result_error _ hdata, bind_assoc, Run.bind_of_result_error _ hdata]
  | ok data =>
    have hlength : data.length = inLength := ((read_reads hw hpart htidy).leaves hpart hdata).1
    rw [Run.bind_of_result_ok _ hdata, bind_assoc, Run.bind_of_result_ok _ hdata]
    have hparts : ∀ word : Bytes, conclude (β := β) ((data ++ word).take inLength)
        (UInt32.ofNat (Bytes.toNat ((data ++ word).drop inLength))) =
          conclude data (UInt32.ofNat (Bytes.toNat word)) := by
      intro word
      rw [← hlength, List.take_left, List.drop_left]
    simp [readEach, hparts]

omit [Backend β] in
theorem length_encodeAnswer (answer : FineAnswer) :
    (encodeAnswer answer).length = answerLength answer.data.length := by
  rw [encodeAnswer, List.length_append, Bytes.length_ofNat, answerLength, Nat.add_comm]

/-- An answer can be told apart into its parts. -/
theorem parts_encodeAnswer (answer : FineAnswer) :
    (encodeAnswer answer).take answer.data.length = answer.data ∧
      UInt32.ofNat (Bytes.toNat ((encodeAnswer answer).drop answer.data.length)) =
        answer.status := by
  rw [encodeAnswer, List.take_left, List.drop_left,
    Bytes.toNat_ofNat_of_lt answer.status.toNat_lt, UInt32.ofNat_toNat]
  exact ⟨rfl, rfl⟩

/-- What reading the answer comes to if the device has sent it, and nothing else. -/
structure Answers (answer : FineAnswer) (outcome : Outcome (Transport β) FineAnswer) : Prop where
  result : outcome.result = .ok answer
  noSend : NoSend outcome.events
  writeRemaining : outcome.state.writeRemaining = 0
  readExpected : outcome.state.readExpected = 0
  surplus : outcome.state.surplus = 0

/-- **An answer is read, wherever it is cut**, and nothing is left of it. -/
theorem readAnswer_of_supplies {s : Transport β} {answer : FineAnswer}
    (h : Awaits (answerLength answer.data.length) t s)
    (hsupplies : Backend.Supplies s.config pieces s.backend)
    (hpieces : pieces.flatten = encodeAnswer answer) :
    Answers answer (readAnswer answer.data.length s) := by
  have hall : pieces.flatten.length = s.readRemaining := by
    rw [hpieces, length_encodeAnswer, h.readRemaining]
  have hsum : [answer.data.length, statusLength].sum = s.readExpected := by
    rw [h.readExpected, answerLength, Nat.add_comm]
    rfl
  have hpart : answer.data.length ≤ s.readExpected := by
    rw [h.readExpected]
    exact Nat.le_add_left _ _
  have hreads := readEach_reads h.writeRemaining (Nat.le_of_eq hsum) h.tidy
  rw [hsum] at hreads
  have hobtains := hreads.obtains hsupplies h.spare (Nat.le_of_eq hall.symm)
    (.inr (hall ▸ cutAt_all pieces))
  have hresult := hobtains.result
  rw [h.ready, List.nil_append, ← hall, List.take_length, hpieces] at hresult
  obtain ⟨hdata, hstatus⟩ := parts_encodeAnswer answer
  obtain ⟨hdone, hstate, hquiet⟩ := conclude_outcome answer.data answer.status
    (readEach [answer.data.length, statusLength] s).state
  rw [readAnswer_eq h.writeRemaining hpart h.tidy, Run.bind_of_result_ok _ hresult, hdata, hstatus]
  refine ⟨hdone, noSend_append.2 ⟨hobtains.noSend, hquiet.1⟩, ?_, ?_, ?_⟩ <;>
    rw [Outcome.state_after, hstate]
  · exact hobtains.writeSide.writeRemaining.trans h.writeRemaining
  · exact hobtains.complete
  · exact surplus_of_all (Nat.le_of_eq hall) hobtains.rest

/-! ### A command -/

/-- The device takes a request within the retry budget, and answers it with these pieces. -/
structure Served (config : ValidConfig) (request : Bytes) (pieces : List Bytes) (backend : β) :
    Prop where
  taken : (deliver config request backend).result = .ok ()
  answered : Backend.Supplies config pieces (deliver config request backend).state

/-- **A FINE command, from one end to the other**: whatever state the transport is in, if the device
takes the request and answers with data and a status word, cut into pieces anywhere, the command
sends header and bytes, returns what the device answered, and leaves nothing behind. -/
theorem transfer_of_served {data : Bytes} {status : UInt32} (hfits : Fits out data.length)
    (hroom : out = [] ∨ headerLength ≤ t.config.bufferSize)
    (h : Served t.config (encodeRequest out data.length param) pieces t.backend)
    (hpieces : pieces.flatten = data ++ Bytes.ofNat 4 status.toNat) :
    let outcome := transfer out data.length param t
    outcome.result = .ok ⟨data, status⟩ ∧
      sentBytes outcome.events = 0xe0 :: (Bytes.ofNat 4 out.length ++ Bytes.ofNat 4 data.length ++
        Bytes.ofNat 4 param.toNat ++ out) ∧
      outcome.state.writeRemaining = 0 ∧ outcome.state.readExpected = 0 ∧
      outcome.state.surplus = 0 := by
  have hstarted := started_asked (requestLength out) (answerLength data.length) t
  obtain ⟨s', hsend⟩ := sendRequest_eq hstarted hroom param
  obtain ⟨_, -, -, hsends⟩ := sendRequest_sends hstarted hroom param
  have hsent : (sendRequest out data.length param
      (t.asked (requestLength out) (answerLength data.length))).result = .ok () := by
    rw [hsend]
    exact h.taken
  obtain ⟨hawaits, hrun⟩ := transfer_of_sent hfits hroom param hsent
  have hanswers : Answers ⟨data, status⟩ (readAnswer data.length (sendRequest out data.length param
      (t.asked (requestLength out) (answerLength data.length))).state) := by
    refine readAnswer_of_supplies hawaits ?_ hpieces
    rw [hawaits.config, hsend]
    exact h.answered
  have hstart := (quiet_startWriteRead (requestLength out) (answerLength data.length) t).1
  rw [hrun]
  refine ⟨hanswers.result, ?_, hanswers.writeRemaining, hanswers.readExpected, hanswers.surplus⟩
  rw [Outcome.events_after, sentBytes_append, sentBytes_append, sentBytes_eq_nil hstart,
    hsends.sentBytes_of_ok hsent, sentBytes_eq_nil hanswers.noSend, List.append_nil,
    List.nil_append]
  rfl

/-- A header that goes out together with the first bytes, over a device that lets attempts go by,
and a status word in two pieces, the first of which begins with the data. An earlier operation was
abandoned. -/
theorem transfer_of_served_hesitant :
    let config : ValidConfig := ⟨⟨4, 16, 1000, 2, .reject⟩, by decide⟩
    let device : Backend.Script :=
      ⟨[.timedOut [], .moved [0xaa, 0x02], .timedOut [], .moved [0x01, 0, 0]],
        [.timedOut 0, .moved 10, .moved 6, .timedOut 1, .moved 1]⟩
    let abandoned :=
      ((startWriteRead 9 9 >>= fun _ => write [7] : Run (Transport Backend.Script) Unit)
        (fresh config device)).state
    let outcome := transfer [1, 2, 3, 4, 5] 1 0x0305 abandoned
    Served abandoned.config (encodeRequest [1, 2, 3, 4, 5] 1 0x0305)
        [[0xaa, 0x02], [0x01, 0, 0]] abandoned.backend ∧
      outcome.result = .ok ⟨[0xaa], 0x0102⟩ ∧
      sentBytes outcome.events =
        [0xe0, 5, 0, 0, 0, 1, 0, 0, 0, 0x05, 0x03, 0, 0, 1, 2, 3, 4, 5] ∧
      outcome.state.writeRemaining = 0 ∧ outcome.state.readExpected = 0 ∧
      outcome.state.surplus = 0 := by
  intro config device abandoned outcome
  have hfits : Fits [1, 2, 3, 4, 5] [(0xaa : UInt8)].length := ⟨by decide, by decide⟩
  have hbrings : Backend.Supplies config [[0xaa, 0x02], [0x01, 0, 0]]
      (⟨device.receives, []⟩ : Backend.Script) :=
    .pause rfl (.piece rfl (by decide) (by decide)
      (.pause rfl (.piece rfl (by decide) (by decide) (.nothing _ _))))
  have hdelivered : (deliver config (encodeRequest [1, 2, 3, 4, 5] 1 0x0305) device).state =
      ⟨device.receives, []⟩ := by cbv
  have hserved : Served config (encodeRequest [1, 2, 3, 4, 5] 1 0x0305)
      [[0xaa, 0x02], [0x01, 0, 0]] device :=
    ⟨by cbv, by rwa [hdelivered]⟩
  have hanswered : [[0xaa, 0x02], [0x01, 0, 0]].flatten =
      [0xaa] ++ Bytes.ofNat 4 (0x0102 : UInt32).toNat := by decide
  exact ⟨hserved, transfer_of_served hfits (.inr (by decide)) hserved hanswered⟩

end Fine

end ProbeLink
