import ProbeLink.Proofs.ReadSide
import ProbeLink.Transport.Write

/-!
# ProbeLink.Proofs.Writing

**What a write call does**: it is refused and changes nothing, it stages its bytes and sends
nothing, or it completes the operation (`write_cases`).

The call that completes an operation sends the staged bytes and its own, in that order
(`flush_sends`). It does so in at most two blocks, of which the first is a whole number of chunks
unless it is all there is (`flush_eq`, `tailBlock_eq_nil_or_dvd`).
-/

namespace ProbeLink.Transport

variable {β : Type} {t : Transport β} {data : Bytes}

/-! ### Staging -/

@[simp] theorem length_staged (t : Transport β) : t.staged.length = t.writeBuffered := by
  simp [staged]

theorem staged_eq_nil (h : t.writeBuffered = 0) : t.staged = [] :=
  List.length_eq_zero_iff.1 ((length_staged t).trans h)

theorem staged_stage (data : Bytes) (t : Transport β) :
    (t.stage data).staged = t.staged ++ data := by
  simp only [staged, stage]
  rw [Scratch.read_add, Scratch.read_write_of_disjoint _ (.inl (Nat.le_of_eq (Nat.zero_add _))),
    Nat.zero_add, Scratch.read_write_self]

/-- The state in which the bytes of a complete operation are sent: the operation is over. -/
def flushed (data : Bytes) (t : Transport β) : Transport β :=
  { t with
    scratch :=
      if t.writeBuffered = 0 then t.scratch
      else t.scratch.write t.writeBuffered (data.take t.fill)
    writeRemaining := 0
    writeBuffered := 0 }

/-- What goes out first when an operation is completed. Staged bytes are filled up to a whole number
of chunks; if there are none, the data of the call goes out as it is. -/
def headBlock (data : Bytes) (t : Transport β) : Bytes :=
  if t.writeBuffered = 0 then data else t.staged ++ data.take t.fill

/-- What goes out after the head. -/
def tailBlock (data : Bytes) (t : Transport β) : Bytes :=
  if t.writeBuffered = 0 then [] else data.drop t.fill

/-! ### Sending -/

/-- An outcome of sending bytes. Some first part of them went out, and all of them exactly if it is
a success; nothing but the backend has changed. -/
structure Sends (data : Bytes) (t : Transport β) (outcome : Outcome (Transport β) Unit) : Prop where
  sent : ∃ rest, data = sentBytes outcome.events ++ rest ∧ (rest = [] ↔ outcome.result = .ok ())
  noReceive : NoReceive outcome.events
  cause : ∀ e, outcome.result = .error e → e = .timeout .send ∨ ∃ cause, e = .io .send cause
  state : outcome.state = { t with backend := outcome.state.backend }

/-- All of them are out after a success. -/
theorem Sends.sentBytes_of_ok {outcome : Outcome (Transport β) Unit} (h : Sends data t outcome)
    (hok : outcome.result = .ok ()) : sentBytes outcome.events = data := by
  obtain ⟨rest, hrest, hdone⟩ := h.sent
  rw [hdone.2 hok, List.append_nil] at hrest
  exact hrest.symm

variable [Backend β]

theorem send_sends (data : Bytes) (t : Transport β) : Sends data t (send data t) where
  sent :=
    Backend.sendLoop_sentBytes t.config.maxTimeouts t.config.maxTimeouts data t.backend
  noReceive :=
    Backend.noReceive_sendLoop t.config.maxTimeouts t.config.maxTimeouts data t.backend
  cause := fun e h =>
    have h' : (Backend.sendLoop t.config.maxTimeouts t.config.maxTimeouts data t.backend).result =
      .error e := h
    Backend.sendLoop_error h'
  state := rfl

/-- Sending nothing does nothing. -/
theorem send_nil : send (β := β) [] = pure () := by
  funext t
  rw [send, Backend.sendAll, Backend.sendLoop]
  rfl

/-- Sending in two parts is sending. -/
theorem sends_parts (first second : Bytes) (t : Transport β) :
    Sends (first ++ second) t ((send first >>= fun _ => send second : Run (Transport β) Unit) t) := by
  have hfirst := send_sends first t
  obtain ⟨rest, hrest, hdone⟩ := hfirst.sent
  cases hresult : (send first t).result with
  | error e =>
    -- The first part fails before all of it is out, so the second is not even tried.
    have hleft : rest ≠ [] := by
      rw [ne_eq, hdone, hresult]
      intro h
      cases h
    rw [Run.bind_of_result_error _ hresult]
    refine ⟨⟨rest ++ second, ?_, ?_⟩, hfirst.noReceive, ?_, hfirst.state⟩
    · rw [← List.append_assoc, ← hrest]
    · exact iff_of_false (by simp [hleft]) (fun h => by cases h)
    · intro e' he
      cases he
      exact hfirst.cause e hresult
  | ok u =>
    -- All of the first part is out; what is left over is left over from the second.
    have hall : sentBytes (send first t).events = first := hfirst.sentBytes_of_ok hresult
    have hsecond := send_sends second (send first t).state
    obtain ⟨rest', hrest', hdone'⟩ := hsecond.sent
    rw [Run.bind_of_result_ok _ hresult]
    refine ⟨⟨rest', ?_, hdone'⟩, noReceive_append.2 ⟨hfirst.noReceive, hsecond.noReceive⟩,
      hsecond.cause, ?_⟩
    · show first ++ second = sentBytes (_ ++ _) ++ rest'
      rw [sentBytes_append, List.append_assoc, hall]
      exact congrArg (first ++ ·) hrest'
    · exact hsecond.state.trans (by rw [hfirst.state]; rfl)

/-! ### Completing an operation -/

omit [Backend β] in
/-- The two blocks are the content of the operation. -/
theorem headBlock_append_tailBlock (data : Bytes) (t : Transport β) :
    t.headBlock data ++ t.tailBlock data = t.staged ++ data := by
  by_cases h : t.writeBuffered = 0
  · rw [headBlock, tailBlock, if_pos h, if_pos h, staged_eq_nil h, List.append_nil, List.nil_append]
  · rw [headBlock, tailBlock, if_neg h, if_neg h, List.append_assoc, List.take_append_drop]

/-- Whole chunks that make room for some bytes. -/
theorem le_whole_chunks {chunk : Nat} (h : 0 < chunk) (length : Nat) :
    length ≤ (length + chunk - 1) / chunk * chunk := by
  have hdiv := Nat.div_add_mod (length + chunk - 1) chunk
  have hmod := Nat.mod_lt (length + chunk - 1) h
  rw [Nat.mul_comm]
  omega

omit [Backend β] in
/-- Unless it is all there is, the head is a whole number of chunks. -/
theorem tailBlock_eq_nil_or_dvd (data : Bytes) (t : Transport β) :
    t.tailBlock data = [] ∨ t.config.chunkSize ∣ (t.headBlock data).length := by
  by_cases h : t.writeBuffered = 0
  · exact .inl (if_pos h)
  · rcases Nat.lt_or_ge t.fill data.length with hmore | hall
    · -- Filled up, the staged bytes reach the next multiple of a chunk.
      have hup := le_whole_chunks t.config.valid.chunkSize_pos t.writeBuffered
      have hlength : (t.headBlock data).length =
          (t.writeBuffered + t.config.chunkSize - 1) / t.config.chunkSize * t.config.chunkSize := by
        rw [headBlock, if_neg h, List.length_append, length_staged, List.length_take]
        simp only [fill] at hmore ⊢
        omega
      exact .inr (hlength ▸ Nat.dvd_mul_left _ _)
    · left
      rw [tailBlock, if_neg h]
      exact List.drop_eq_nil_of_le hall

/-- **Completing an operation is sending its two blocks**, one after the other. -/
theorem flush_eq (data : Bytes) (t : Transport β) :
    flush data t =
      (send (t.headBlock data) >>= fun _ => send (t.tailBlock data) : Run (Transport β) Unit)
        (t.flushed data) := by
  by_cases h : t.writeBuffered = 0
  · have hflushed : t.flushed data = { t with writeRemaining := 0 } := by
      rcases t with ⟨backend, config, scratch, writeRemaining, writeBuffered⟩
      simp only at h
      subst h
      rfl
    rw [flush, if_pos h, headBlock, tailBlock, if_pos h, if_pos h, hflushed, send_nil]
    exact (congrFun (Run.bind_pure_self (send data)) _).symm
  · have htail : (if !(data.drop t.fill).isEmpty then send (data.drop t.fill) else pure () :
        Run (Transport β) Unit) = send (data.drop t.fill) := by
      cases data.drop t.fill with
      | nil => exact send_nil.symm
      | cons byte later => rfl
    have hflushed : t.flushed data =
        { t.stage (data.take t.fill) with writeRemaining := 0, writeBuffered := 0 } := by
      simp only [flushed, if_neg h, stage]
    rw [flush, if_neg h, headBlock, tailBlock, if_neg h, if_neg h, hflushed, ← staged_stage,
      ← htail]

/-- **The call that completes an operation sends the staged bytes and its own.** -/
theorem flush_sends (data : Bytes) (t : Transport β) :
    Sends (t.staged ++ data) (t.flushed data) (flush data t) := by
  rw [flush_eq, ← headBlock_append_tailBlock]
  exact sends_parts _ _ _

/-! ### A call -/

theorem write_of_gt (h : t.writeRemaining < data.length) :
    write data t = ⟨.error (.argument (.writeLengthExceeded data.length t.writeRemaining)), t,
      [.noted (.writeLengthExceeded data.length t.writeRemaining)]⟩ := by
  rw [write, if_pos h]

theorem write_of_full (h : data.length < t.writeRemaining)
    (hfull : t.config.bufferSize - t.writeBuffered < data.length) :
    write data t = ⟨.error (.argument (.bufferTooSmall data.length
      (t.config.bufferSize - t.writeBuffered))), t, [.noted .writeTooLarge]⟩ := by
  rw [write, if_neg (by omega), if_pos h]
  exact if_pos hfull

theorem write_of_fits (h : data.length < t.writeRemaining)
    (hfits : data.length ≤ t.config.bufferSize - t.writeBuffered) :
    write data t = ⟨.ok (), t.stage data, []⟩ := by
  rw [write, if_neg (by omega), if_pos h]
  exact if_neg (by omega)

theorem write_of_eq (h : data.length = t.writeRemaining) : write data t = flush data t := by
  rw [write, if_neg (by omega), if_neg (by omega)]

/-- All that a write call can do: refuse to go beyond the operation, refuse what does not fit into
the scratch buffer, stage, or send everything. -/
theorem write_cases (data : Bytes) (t : Transport β) :
    (t.writeRemaining < data.length ∧
      write data t = ⟨.error (.argument (.writeLengthExceeded data.length t.writeRemaining)), t,
        [.noted (.writeLengthExceeded data.length t.writeRemaining)]⟩) ∨
    (data.length < t.writeRemaining ∧ t.config.bufferSize - t.writeBuffered < data.length ∧
      write data t = ⟨.error (.argument (.bufferTooSmall data.length
        (t.config.bufferSize - t.writeBuffered))), t, [.noted .writeTooLarge]⟩) ∨
    (data.length < t.writeRemaining ∧ data.length ≤ t.config.bufferSize - t.writeBuffered ∧
      write data t = ⟨.ok (), t.stage data, []⟩) ∨
    (data.length = t.writeRemaining ∧
      Sends (t.staged ++ data) (t.flushed data) (write data t)) := by
  rcases Nat.lt_trichotomy data.length t.writeRemaining with hlt | heq | hgt
  · by_cases hfits : data.length ≤ t.config.bufferSize - t.writeBuffered
    · exact .inr (.inr (.inl ⟨hlt, hfits, write_of_fits hlt hfits⟩))
    · have hfull : t.config.bufferSize - t.writeBuffered < data.length := Nat.lt_of_not_le hfits
      exact .inr (.inl ⟨hlt, hfull, write_of_full hlt hfull⟩)
  · refine .inr (.inr (.inr ⟨heq, ?_⟩))
    rw [write_of_eq heq]
    exact flush_sends data t
  · exact .inl ⟨hgt, write_of_gt hgt⟩

/-! ### The scratch buffer -/

/-- The bytes that a write call puts into the scratch buffer, behind the staged ones. -/
def deposit (data : Bytes) (t : Transport β) : Bytes :=
  if t.writeRemaining < data.length then []
  else if data.length < t.writeRemaining then
    if t.config.bufferSize - t.writeBuffered < data.length then [] else data
  else if t.writeBuffered = 0 then [] else data.take t.fill

/-- What a call does that is not part of reading: it receives nothing and leaves the counters of the
read side alone. -/
structure LeavesReadSide (t : Transport β) (outcome : Outcome (Transport β) Unit) : Prop where
  noReceive : NoReceive outcome.events
  readRemaining : outcome.state.readRemaining = t.readRemaining
  readAvailable : outcome.state.readAvailable = t.readAvailable
  readPos : outcome.state.readPos = t.readPos
  surplus : outcome.state.surplus = t.surplus

theorem write_leavesReadSide (data : Bytes) (t : Transport β) :
    LeavesReadSide t (write data t) := by
  obtain ⟨-, hw⟩ | ⟨-, -, hw⟩ | ⟨-, -, hw⟩ | ⟨-, hsends⟩ := write_cases data t
  · rw [hw]
    exact ⟨(quiet_noted _).2, rfl, rfl, rfl, rfl⟩
  · rw [hw]
    exact ⟨(quiet_noted _).2, rfl, rfl, rfl, rfl⟩
  · rw [hw]
    exact ⟨noReceive_nil, rfl, rfl, rfl, rfl⟩
  · refine ⟨hsends.noReceive, ?_, ?_, ?_, ?_⟩ <;> rw [hsends.state] <;> rfl

/-- The scratch buffer holds the deposit where it was put, and its old bytes elsewhere. -/
theorem get_scratch_write (data : Bytes) (t : Transport β) (i : Nat) :
    (write data t).state.scratch.get i =
      (t.scratch.write t.writeBuffered (t.deposit data)).get i := by
  -- A refused call deposits nothing, and so does one that completes an operation of which nothing
  -- is staged.
  have hnone : (t.scratch.write t.writeBuffered []).get i = t.scratch.get i := by
    rw [Scratch.get_write, if_neg (by simp only [List.length_nil]; omega)]
  obtain ⟨hgt, hw⟩ | ⟨hlt, hfull, hw⟩ | ⟨hlt, hfit, hw⟩ | ⟨heq, hsends⟩ := write_cases data t
  · rw [hw, deposit, if_pos hgt, hnone]
  · rw [hw, deposit, if_neg (by omega), if_pos hlt, if_pos hfull, hnone]
  · rw [hw, deposit, if_neg (by omega), if_pos hlt, if_neg (by omega)]
    rfl
  · rw [hsends.state, deposit, if_neg (by omega), if_neg (by omega)]
    simp only [flushed]
    split
    · exact hnone.symm
    · rfl

end ProbeLink.Transport
