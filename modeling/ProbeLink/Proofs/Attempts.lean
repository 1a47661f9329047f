import ProbeLink.Backend.Script
import ProbeLink.Proofs.Alignment
import ProbeLink.Proofs.Overrun

/-!
# ProbeLink.Proofs.Attempts

**Transfers end, whatever the backend does** (`transfers_end`). It may stall, fail, never end, and
move as little as it likes.

A try is spent by an attempt that moves nothing, and all tries come back with one that moves
something. So an attempt either leaves one try less for the same bytes, or less bytes. For `n` bytes
there can be `n` times the tries at most (`sendLoop_count`). A read spends its tries anew on every
piece, and what it still wants shrinks by a byte at least with each one: a piece is not empty, and
something is still due as long as something is wanted (`InRound.takes`).
-/

namespace ProbeLink

/-! ### Counting transfers -/

/-- The number of physical sends. -/
def sendCount (events : List Event) : Nat := events.countP Event.isSend

/-- The number of physical receives. -/
def receiveCount (events : List Event) : Nat := events.countP Event.isReceive

theorem sendCount_append (before after : List Event) :
    sendCount (before ++ after) = sendCount before + sendCount after :=
  List.countP_append

theorem receiveCount_append (before after : List Event) :
    receiveCount (before ++ after) = receiveCount before + receiveCount after :=
  List.countP_append

theorem sendCount_eq_zero {events : List Event} (h : NoSend events) : sendCount events = 0 := by
  rw [sendCount, List.countP_eq_zero]
  intro event hmem
  rw [h event hmem]
  exact Bool.false_ne_true

theorem receiveCount_eq_zero {events : List Event} (h : NoReceive events) :
    receiveCount events = 0 := by
  rw [receiveCount, List.countP_eq_zero]
  intro event hmem
  rw [h event hmem]
  exact Bool.false_ne_true

/-! ### One piece -/

namespace Backend

variable {β : Type} [Backend β] {maxTimeouts tries capacity : Nat} {data : Bytes} {backend : β}

theorem sendCount_sendEvents (offered : Bytes) (attempt : Attempt Nat) :
    sendCount (sendEvents offered attempt) = 1 := by
  unfold sendEvents
  split <;> rfl

theorem receiveCount_receiveEvents (capacity : Nat) (attempt : Attempt Bytes) :
    receiveCount (receiveEvents capacity attempt) = 1 := by
  unfold receiveEvents
  split <;> rfl

/-- **A send is over after as many attempts as there are tries for each byte.** Those that are spent
already do not count. -/
theorem sendLoop_count (htries : tries ≤ maxTimeouts) :
    sendCount (sendLoop maxTimeouts tries data backend).events ≤
      data.length * maxTimeouts - (maxTimeouts - tries) := by
  fun_induction sendLoop maxTimeouts tries data backend with
  | case1 tries backend => exact Nat.zero_le _
  | case2 byte rest backend => exact Nat.zero_le _
  | case3 tries byte rest backend sent cause h =>
    rw [sendCount_sendEvents, List.length_cons, Nat.succ_mul]
    omega
  | case4 tries byte rest backend sent h ih =>
    have hrest := ih (by omega)
    rw [Outcome.events_after, sendCount_append, sendCount_sendEvents]
    rw [List.length_cons, Nat.succ_mul] at hrest ⊢
    omega
  | case5 tries byte rest backend sent n h ih =>
    have hrest := ih (Nat.le_refl _)
    have hless : (rest.drop n).length * maxTimeouts ≤ rest.length * maxTimeouts :=
      Nat.mul_le_mul_right _ (by rw [List.length_drop]; omega)
    rw [Outcome.events_after, sendCount_append, sendCount_sendEvents, List.length_cons,
      Nat.succ_mul]
    omega

theorem sendAll_count (maxTimeouts : Nat) (data : Bytes) (backend : β) :
    sendCount (sendAll maxTimeouts data backend).events ≤ data.length * maxTimeouts :=
  Nat.le_trans (sendLoop_count (Nat.le_refl _)) (Nat.sub_le _ _)

/-- A receive is over after as many attempts as there are tries. -/
theorem receiveLoop_count (capacity tries : Nat) (backend : β) :
    receiveCount (receiveLoop capacity tries backend).events ≤ tries := by
  induction tries generalizing backend with
  | zero => exact Nat.le_refl 0
  | succ tries ih =>
    rw [receiveLoop]
    split
    · rw [receiveCount_receiveEvents]
      omega
    · have hrest := ih (receiveOnce backend capacity).2
      rw [Outcome.events_after, receiveCount_append, receiveCount_receiveEvents]
      omega
    · rw [receiveCount_receiveEvents]
      omega

end Backend

/-! ### Gathering -/

namespace Intake

variable {β : Type} [Backend β] {config : ValidConfig} {need : Nat} {s : Intake β}

theorem receive_count (config : ValidConfig) (s : Intake β) :
    receiveCount (s.receive config).events ≤ config.maxTimeouts :=
  Backend.receiveLoop_count config.chunkSize config.maxTimeouts s.backend

theorem arrival_count (config : ValidConfig) (s : Intake β) (piece : Bytes) :
    receiveCount (s.arrival config piece) ≤ config.maxTimeouts := by
  have hnote : receiveCount (Transport.noteIf (s.due < piece.length)
      (.overrun s.due piece.length)) = 0 := by
    unfold Transport.noteIf
    split <;> rfl
  rw [arrival, receiveCount_append, hnote, Nat.add_zero]
  exact receive_count config s

/-- **Gathering spends the tries once at most for each byte that is missing.** -/
theorem gather_count (config : ValidConfig) (need : Nat) (s : Intake β) :
    receiveCount (gather config need s).events ≤
      (need - s.ready.length) * config.maxTimeouts := by
  -- While something is missing, one piece can be received.
  have hmissing : ∀ s : Intake β, ¬(need ≤ s.ready.length ∨ s.due = 0) →
      config.maxTimeouts ≤ (need - s.ready.length) * config.maxTimeouts :=
    fun s hs => Nat.le_mul_of_pos_left _ (by omega)
  fun_induction gather config need s with
  | case1 s hs => exact Nat.zero_le _
  | case2 s hs e hr => exact Nat.le_trans (receive_count config s) (hmissing s hs)
  | case3 s hs piece hr href =>
    exact Nat.le_trans (arrival_count config s piece) (hmissing s hs)
  | case4 s hs piece hr href hlt ih =>
    have hpos : 0 < piece.length := length_receive_pos hr
    have hready : need - ((s.advance config).absorb piece).ready.length + 1 ≤
        need - s.ready.length := by
      simp only [absorb, advance, List.length_append, List.length_take]
      omega
    have hrest := Nat.mul_le_mul_right config.maxTimeouts hready
    rw [Nat.succ_mul] at hrest
    have hcount := arrival_count config s piece
    rw [Outcome.events_after, receiveCount_append]
    omega

end Intake

namespace Transport

variable {β : Type} [Backend β] {t : Transport β}

/-! ### Writing -/

theorem send_count (data : Bytes) (t : Transport β) :
    sendCount (send data t).events ≤ data.length * t.config.maxTimeouts :=
  Backend.sendAll_count t.config.maxTimeouts data t.backend

/-- Two blocks take no more attempts than one of their length. -/
theorem send_send_count (first second : Bytes) (t : Transport β) :
    sendCount ((send first >>= fun _ => send second : Run (Transport β) Unit) t).events ≤
      (first.length + second.length) * t.config.maxTimeouts := by
  have hfirst := send_count first t
  rw [Nat.add_mul]
  cases hresult : (send first t).result with
  | error e =>
    rw [Run.bind_of_result_error _ hresult]
    exact Nat.le_trans hfirst (Nat.le_add_right _ _)
  | ok u =>
    have hsecond : sendCount (send second (send first t).state).events ≤
        second.length * t.config.maxTimeouts := send_count second (send first t).state
    rw [Run.bind_of_result_ok _ hresult, Outcome.events_after, sendCount_append]
    exact Nat.add_le_add hfirst hsecond

theorem flush_count (data : Bytes) (t : Transport β) :
    sendCount (flush data t).events ≤ (t.writeBuffered + data.length) * t.config.maxTimeouts := by
  have hlength : (t.headBlock data).length + (t.tailBlock data).length =
      t.writeBuffered + data.length := by
    rw [← List.length_append, headBlock_append_tailBlock, List.length_append, length_staged]
  rw [flush_eq, ← hlength]
  exact send_send_count _ _ _

/-- **A write operation sends for its declared length at most**, in all of its calls together. -/
theorem trace_count {calls : List Call} {declared : Nat} {content : Bytes} (h : Regular t)
    (ht : Tracks t ⟨declared, content⟩) (hw : 0 < t.writeRemaining)
    (hcontinues : Throughout Continues calls t) :
    sendCount (t.trace calls) ≤ declared * t.config.maxTimeouts := by
  -- Nothing is sent until one call completes the operation, and nothing after that.
  induction calls generalizing t content with
  | nil => exact Nat.zero_le _
  | cons call later ih =>
    have hregular := regular_perform call t h
    rw [trace_cons, sendCount_append]
    obtain hwaits | ⟨data, rfl, heq⟩ := waits_or_flushes ht hw hcontinues.1
    · rw [sendCount_eq_zero hwaits.quiet.1, Nat.zero_add, ← config_perform call t h]
      exact ih hregular hwaits.tracks hwaits.waits hcontinues.2
    · have hended : ((Call.write data).perform t).state.writeRemaining = 0 := by
        rw [Call.perform_write, write_of_eq heq, Outcome.state_map, (flush_sends data t).state]
        rfl
      have hstaged : t.staged = content := ht.staged
      have hdeclared : content.length + t.writeRemaining = declared := ht.declared
      have hlength : t.writeBuffered + data.length = declared := by
        rw [← hdeclared, ← hstaged, length_staged, heq]
      have hcount := flush_count data t
      rw [hlength] at hcount
      rw [sendCount_eq_zero (idle_trace hregular hended hcontinues.2).1, Nat.add_zero,
        Call.perform_write, write_of_eq heq]
      exact hcount

/-! ### Reading -/

theorem read_count (htidy : t.intake.Tidy) (length : Nat) :
    receiveCount (read length t).events ≤
      (length - t.readAvailable) * t.config.maxTimeouts := by
  obtain ⟨hquiet, -⟩ | hreads := read_quiet_or_reads htidy length
  · rw [receiveCount_eq_zero hquiet.2]
    exact Nat.zero_le _
  · have hready : t.intake.ready.length = t.readAvailable := length_ready t
    rw [hreads.events, ← hready]
    exact Intake.gather_count t.config length t.intake

/-- What a round of a read does with the piece that it receives: the operation gets a byte of it at
least, which is no longer due then, and so does the call. -/
structure Advances (wanted : Nat) (s : Transport β) (piece : Bytes) : Prop where
  accepted : 0 < s.accepted piece
  taken : 0 < s.taken wanted piece
  due : (s.admitted wanted piece).readRemaining + s.accepted piece = s.readRemaining

/-- Something is due in every round, so the whole of a piece cannot be too much. -/
theorem InRound.advances {length wanted : Nat} {done piece : Bytes} {event : Event}
    {s : Transport β} (h : InRound length t done event wanted s)
    (hr : (receive s).result = .ok piece) : Advances wanted s piece := by
  have hpos := length_receive_pos hr
  have hpending := h.pending
  refine ⟨?_, ?_, ?_⟩
  · simp only [Transport.accepted]
    omega
  · simp only [Transport.taken, Transport.accepted]
    omega
  · rw [readRemaining_admitted]
    exact Nat.sub_add_cancel (Nat.min_le_right _ _)

/-- **Transfers end, whatever the backend does.** In every reachable state:

* Sending data takes as many attempts at most as there are tries for each byte, in whatever state
  the backend is and however many tries there are.
* This holds of the call that completes a write operation, counting what is staged, and of all calls
  of a write operation together, counting what was declared.
* A read takes as many attempts at most as there are tries for each byte that it wants, and every
  one of them belongs to a round of it that makes progress if something is received. -/
theorem transfers_end (config : ValidConfig) (backend : β) (history : List Operation) :
    let t := Operation.stateAfter history (fresh config backend)
    (∀ (maxTimeouts : Nat) (data : Bytes) (device : β),
        sendCount (Backend.sendAll maxTimeouts data device).events ≤ data.length * maxTimeouts) ∧
      (∀ data : Bytes, data.length = t.writeRemaining →
        sendCount (write data t).events ≤
          (t.writeBuffered + data.length) * config.maxTimeouts) ∧
      (∀ (start : Call) (length : Nat) (calls : List Call), start.writeLength? = some length →
        (start.perform t).result.isOk = true → Throughout Continues calls (start.perform t).state →
          sendCount ((start.perform t).state.trace calls) ≤ length * config.maxTimeouts) ∧
      ∀ length : Nat,
        receiveCount (read length t).events ≤ length * config.maxTimeouts ∧
          ∀ before event after, transfers (read length t).events = before ++ event :: after →
            ∃ wanted s,
              InRound (length - t.readAvailable) t.emptied (receivedBytes before) event wanted s ∧
                ∀ piece, (receive s).result = .ok piece → Advances wanted s piece := by
  intro t
  obtain ⟨hconfig, _, hbounds⟩ := inBounds_stateAfter history (inBounds_fresh config backend)
  have hmax : t.config = config := hconfig
  refine ⟨Backend.sendAll_count, ?complete, ?operation, ?read⟩
  case complete =>
    intro data heq
    rw [write_of_eq heq, ← hmax]
    exact flush_count data t
  case operation =>
    intro start length calls hdeclares hok hcontinues
    obtain ⟨hlength, htracks⟩ := tracks_start hdeclares hok
    have hwaits : 0 < (start.perform t).state.writeRemaining := by
      have hdeclared : 0 + (start.perform t).state.writeRemaining = length := htracks.declared
      omega
    have hcount := trace_count (regular_perform start t hbounds.regular) htracks hwaits hcontinues
    rwa [config_perform start t hbounds.regular, hmax] at hcount
  case read =>
    intro length
    refine ⟨?_, fun before event after h => ?_⟩
    · rw [← hmax]
      exact Nat.le_trans (read_count hbounds.regular.tidy length)
        (Nat.mul_le_mul_right _ (Nat.sub_le _ _))
    · obtain ⟨wanted, s, hround⟩ := read_inRound h
      exact ⟨wanted, s, hround, fun piece hr => hround.advances hr⟩

/-- Devices that use up the tries before every byte: no bound is too high. -/
theorem transfers_end_reluctant :
    let config : ValidConfig := ⟨⟨4, 8, 1000, 2, .reject⟩, by decide⟩
    let device : Backend.Script := ⟨[.timedOut [], .moved [9], .timedOut [], .timedOut []],
      [.timedOut 0, .moved 1, .timedOut 0, .moved 1, .timedOut 0, .timedOut 0]⟩
    let started := ((Call.startWrite 3).perform (fresh config device)).state
    let calls : List Call := [.write [1], .write [2, 3]]
    let writing := Operation.stateAfter [.startWrite 3, .write [1]] (fresh config device)
    let reading := Operation.stateAfter [.startRead 2] (fresh config device)
    (sendCount (started.trace calls) ≤ 3 * 2 ∧ sendCount (started.trace calls) = 6) ∧
      (sendCount (write [2, 3] writing).events ≤ (1 + 2) * 2 ∧
        sendCount (write [2, 3] writing).events = 6) ∧
      receiveCount (read 2 reading).events ≤ 2 * 2 ∧ receiveCount (read 2 reading).events = 4 ∧
      ∃ wanted s, InRound 2 reading.emptied [9] (.received 4 (.timedOut [])) wanted s := by
  intro config device started calls writing reading
  obtain ⟨-, -, hoperation, -⟩ := transfers_end config device []
  obtain ⟨-, hwrite, -, -⟩ := transfers_end config device [.startWrite 3, .write [1]]
  obtain ⟨-, -, -, hread⟩ := transfers_end config device [.startRead 2]
  have hcontinues : Throughout Continues calls started :=
    ⟨continues_of_not_start rfl, continues_of_not_start rfl, trivial⟩
  have htransfers : transfers (read 2 reading).events =
      [.received 4 (.timedOut []), .received 4 (.moved [9])] ++ .received 4 (.timedOut []) ::
        [.received 4 (.timedOut [])] := by cbv
  obtain ⟨hcount, hrounds⟩ := hread 2
  obtain ⟨wanted, s, hround, -⟩ := hrounds _ _ _ htransfers
  exact ⟨⟨hoperation (.startWrite 3) 3 calls rfl rfl hcontinues, by cbv⟩,
    ⟨hwrite [2, 3] (by cbv), by cbv⟩, hcount, by cbv, wanted, s, hround⟩

end Transport

end ProbeLink
