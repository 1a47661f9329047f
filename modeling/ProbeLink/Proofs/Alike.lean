import ProbeLink.Proofs.Composition

/-!
# ProbeLink.Proofs.Alike

**Memory that no call looks at.** A transport reads its scratch buffer in two places only: the
staged bytes and the owed ones. Two transports that differ in nothing else than bytes outside of
these are `Alike`, and no call can tell them apart: it returns the same, makes the same transfers and
writes the same log lines on both, and leaves them alike (`Blind`). Neither can anything that is made
of calls (`Composed.blind`).

Whatever a call puts into the scratch buffer it puts there in both. So the one thing to see is that
a call never comes to count bytes as staged or owed that it has not written itself.
-/

namespace ProbeLink.Transport

variable {β : Type}

/-- The transport over other memory. -/
def withScratch (s : Scratch) (t : Transport β) : Transport β := { t with scratch := s }

/-- Two transports that differ at most in memory, and there neither in the staged bytes nor in the
owed ones. -/
structure Alike (t t' : Transport β) : Prop where
  regular : Regular t
  rest : ∃ s, t' = t.withScratch s
  staged : t'.staged = t.staged
  owed : t'.owed = t.owed

variable {t t' : Transport β}

theorem Alike.counters (h : Alike t t') : t'.counters = t.counters := by
  obtain ⟨s, rfl⟩ := h.rest
  rfl

theorem Alike.backend (h : Alike t t') : t'.backend = t.backend := by
  obtain ⟨s, rfl⟩ := h.rest
  rfl

/-! ### Starting an operation -/

theorem Alike.resetWrite (length : Nat) (h : Alike t t') :
    Alike (t.resetWrite length) (t'.resetWrite length) := by
  obtain ⟨s, rfl⟩ := h.rest
  refine ⟨⟨fun hs => absurd rfl hs, fun hb => absurd hb (Nat.lt_irrefl 0)⟩, ⟨s, rfl⟩, ?_, ?_⟩
  · rw [staged_eq_nil rfl, staged_eq_nil rfl]
  · exact Scratch.read_eq_of_within h.owed (Nat.le_refl _)
      (by simp only [Transport.resetWrite]; omega)

theorem resetRead_withScratch (length : Nat) (s : Scratch) (t : Transport β) :
    (t.withScratch s).resetRead length = (t.resetRead length).withScratch s := by
  show (if 0 < t.surplus ∧ t.surplus ≤ length then _ else _) =
    withScratch s (if 0 < t.surplus ∧ t.surplus ≤ length then _ else _)
  split <;> rfl

theorem abandonWrite_withScratch (s : Scratch) (t : Transport β) :
    (t.withScratch s).abandonWrite = t.abandonWrite.withScratch s := by
  show (if 0 < t.writeRemaining then _ else _) =
    withScratch s (if 0 < t.writeRemaining then _ else _)
  split <;> rfl

/-- What a read operation takes over was owed before. -/
theorem Alike.resetRead (length : Nat) (h : Alike t t') :
    Alike (t.resetRead length) (t'.resetRead length) := by
  obtain ⟨s, rfl⟩ := h.rest
  have hregular : Regular (t.resetRead length) :=
    h.regular.of_sameWriteSide (resetRead_sameWriteSide length t) (tidy_resetRead length t)
  have howed : s.read t.readPos (t.readAvailable + t.surplus) =
      t.scratch.read t.readPos (t.readAvailable + t.surplus) := h.owed
  rw [resetRead_withScratch]
  refine ⟨hregular, ⟨s, rfl⟩, ?_, ?_⟩
  · simp only [withScratch, Transport.resetRead]
    split <;> exact h.staged
  · simp only [withScratch, Transport.resetRead]
    split
    · exact Scratch.read_eq_of_within howed (by simp only; omega) (by simp only; omega)
    · rfl

theorem Alike.abandonWrite (h : Alike t t') : Alike t.abandonWrite t'.abandonWrite := by
  obtain ⟨s, rfl⟩ := h.rest
  rw [abandonWrite_withScratch, Transport.abandonWrite]
  split
  · exact ⟨⟨h.regular.tidy, fun hb => absurd hb (Nat.lt_irrefl 0)⟩, ⟨s, rfl⟩, rfl, h.owed⟩
  · exact ⟨h.regular, ⟨s, rfl⟩, h.staged, h.owed⟩

/-- The part of the owed bytes that belongs to the current operation. -/
theorem Alike.ready (h : Alike t t') : t'.ready = t.ready := by
  obtain ⟨s, rfl⟩ := h.rest
  exact Scratch.read_eq_of_within h.owed (Nat.le_refl _) (by simp only [withScratch]; omega)

/-- A call that lies ready in whole takes the first of the owed bytes. -/
theorem Alike.drop {length : Nat} (h : Alike t t') (hready : length ≤ t.readAvailable) :
    Alike { t with readAvailable := t.readAvailable - length, readPos := t.readPos + length }
      { t' with readAvailable := t'.readAvailable - length, readPos := t'.readPos + length } := by
  have hregular := regular_iff.1 h.regular
  have howed := h.owed
  obtain ⟨s, rfl⟩ := h.rest
  refine ⟨regular_iff.2 ⟨hregular.1, hregular.2⟩, ⟨s, rfl⟩, h.staged, ?_⟩
  refine Scratch.read_eq_of_within howed (by simp only [withScratch]; omega) ?_
  simp only [withScratch]
  omega

/-- A call that wants more than lies ready starts by taking all of it. As the operation is not
complete, nothing is owed then. -/
theorem Alike.drained (h : Alike t t') (hdue : 0 < t.readRemaining) :
    Alike { t with readAvailable := 0, readPos := 0 }
      { t' with readAvailable := 0, readPos := 0 } := by
  have hregular := regular_iff.1 h.regular
  have hsurplus : t.surplus = 0 := surplus_eq_zero h.regular.tidy hdue
  obtain ⟨s, rfl⟩ := h.rest
  refine ⟨regular_iff.2 ⟨hregular.1, hregular.2⟩, ⟨s, rfl⟩, h.staged, ?_⟩
  refine (Scratch.read_eq_read_iff _ _ _ _).2 ?_
  intro i _ hi
  simp only [withScratch, hsurplus] at hi
  omega

/-! ### Runs that see no difference -/

/-- Two outcomes that nobody can tell apart. -/
structure SameOutcome {α : Type} (o o' : Outcome (Transport β) α) : Prop where
  result : o'.result = o.result
  events : o'.events = o.events
  state : Alike o.state o'.state

/-- A run that cannot tell alike transports apart. -/
def Blind {α : Type} (run : Run (Transport β) α) : Prop :=
  ∀ t t', Alike t t' → SameOutcome (run t) (run t')

/-- A run that neither looks at the transport nor changes it. -/
theorem blind_of_constant {α : Type} {run : Run (Transport β) α} (result : Except Error α)
    (events : List Event) (h : ∀ t, run t = ⟨result, t, events⟩) : Blind run := by
  intro t t' ht
  rw [h, h]
  exact ⟨rfl, rfl, ht⟩

theorem blind_pure {α : Type} (a : α) : Blind (pure a : Run (Transport β) α) :=
  blind_of_constant (.ok a) [] fun _ => rfl

theorem Blind.bind {α γ : Type} {run : Run (Transport β) α} {next : α → Run (Transport β) γ}
    (h : Blind run) (hnext : ∀ a, Blind (next a)) : Blind (run >>= next) := by
  intro t t' ht
  have hrun := h t t' ht
  cases hresult : (run t).result with
  | error e =>
    rw [Run.bind_of_result_error _ hresult,
      Run.bind_of_result_error _ (hrun.result.trans hresult)]
    exact ⟨rfl, hrun.events, hrun.state⟩
  | ok a =>
    have hlater := hnext a _ _ hrun.state
    rw [Run.bind_of_result_ok _ hresult, Run.bind_of_result_ok _ (hrun.result.trans hresult)]
    refine ⟨hlater.result, ?_, hlater.state⟩
    rw [Outcome.events_after, Outcome.events_after, hrun.events, hlater.events]

/-- A decision that does not depend on the transport. -/
theorem blind_ite {α : Type} {c : Prop} [Decidable c] {run run' : Run (Transport β) α}
    (h : Blind run) (h' : Blind run') : Blind (if c then run else run') := by
  split
  · exact h
  · exact h'

theorem blind_startWrite (length : Nat) : Blind (startWrite (β := β) length) := by
  intro t t' h
  rcases Nat.eq_zero_or_pos length with hzero | hpos
  · simp only [startWrite, if_pos hzero]
    exact ⟨rfl, rfl, h⟩
  · have hevents : t'.resetWriteEvents = t.resetWriteEvents := by
      obtain ⟨s, rfl⟩ := h.rest
      rfl
    simp only [startWrite, if_neg (Nat.ne_of_gt hpos)]
    exact ⟨rfl, hevents, h.resetWrite length⟩

theorem Alike.resetReadEvents (length : Nat) (h : Alike t t') :
    t'.resetReadEvents length = t.resetReadEvents length := by
  obtain ⟨s, rfl⟩ := h.rest
  rfl

theorem blind_startRead (length : Nat) : Blind (startRead (β := β) length) := by
  intro t t' h
  rcases Nat.eq_zero_or_pos length with hzero | hpos
  · simp only [startRead, if_pos hzero]
    exact ⟨rfl, rfl, h⟩
  · have hevents : t'.abandonWriteEvents = t.abandonWriteEvents := by
      obtain ⟨s, rfl⟩ := h.rest
      rfl
    simp only [startRead, if_neg (Nat.ne_of_gt hpos)]
    exact ⟨rfl, by rw [hevents, h.abandonWrite.resetReadEvents], h.abandonWrite.resetRead length⟩

theorem blind_startWriteRead (writeLength readLength : Nat) :
    Blind (startWriteRead (β := β) writeLength readLength) := by
  intro t t' h
  by_cases hzero : writeLength = 0 ∨ readLength = 0
  · simp only [startWriteRead, if_pos hzero]
    exact ⟨rfl, rfl, h⟩
  · have hevents : t'.resetWriteEvents = t.resetWriteEvents := by
      obtain ⟨s, rfl⟩ := h.rest
      rfl
    simp only [startWriteRead, if_neg hzero]
    exact ⟨rfl, by rw [hevents, (h.resetWrite writeLength).resetReadEvents],
      (h.resetWrite writeLength).resetRead readLength⟩

/-! ### Writing -/

variable [Backend β]

theorem blind_send (data : Bytes) : Blind (send (β := β) data) := by
  intro t t' h
  obtain ⟨s, rfl⟩ := h.rest
  exact ⟨rfl, rfl, ⟨h.regular.tidy, h.regular.staged⟩, ⟨s, rfl⟩, h.staged, h.owed⟩

theorem blind_flush (data : Bytes) : Blind (flush (β := β) data) := by
  intro t t' h
  obtain ⟨s, rfl⟩ := h.rest
  by_cases hb : t.writeBuffered = 0
  · have hflush : flush data t = send data { t with writeRemaining := 0 } := if_pos hb
    have hflush' : flush data (t.withScratch s) =
        send data { t.withScratch s with writeRemaining := 0 } := if_pos hb
    rw [hflush, hflush']
    refine blind_send data _ _ ⟨⟨h.regular.tidy, ?_⟩, ⟨s, rfl⟩, h.staged, h.owed⟩
    intro hpos
    exact absurd hpos (by simp only; omega)
  · -- The same bytes are put behind the same staged ones.
    have hstaged : ((t.withScratch s).stage (data.take t.fill)).staged =
        (t.stage (data.take t.fill)).staged := by
      rw [staged_stage, staged_stage, h.staged]
    have hrun : Blind (do
        send (t.stage (data.take t.fill)).staged
        if !(data.drop t.fill).isEmpty then send (data.drop t.fill) : Run (Transport β) Unit) :=
      (blind_send _).bind fun _ => blind_ite (blind_send _) (blind_pure _)
    have hflush : flush data t = _ := if_neg hb
    have hflush' : flush data (t.withScratch s) = _ := if_neg hb
    rw [hflush, hflush']
    show SameOutcome _ ((do
        send ((t.withScratch s).stage (data.take t.fill)).staged
        if !(data.drop t.fill).isEmpty then send (data.drop t.fill) : Run (Transport β) Unit) _)
    rw [hstaged]
    refine hrun _ _ ⟨regular_iff.2 ⟨(regular_iff.1 h.regular).1, fun hpos => absurd hpos
      (Nat.lt_irrefl 0)⟩, ⟨_, rfl⟩, rfl, ?_⟩
    exact Scratch.read_write_congr h.owed _ _

theorem blind_write (data : Bytes) : Blind (write (β := β) data) := by
  intro t t' h
  have hflush := blind_flush data t t' h
  obtain ⟨s, rfl⟩ := h.rest
  rcases Nat.lt_trichotomy data.length t.writeRemaining with hlt | heq | hgt
  · by_cases hfits : data.length ≤ t.config.bufferSize - t.writeBuffered
    · rw [write_of_fits hlt hfits, write_of_fits (t := t.withScratch s) hlt hfits]
      refine ⟨rfl, rfl, regular_iff.2 ⟨(regular_iff.1 h.regular).1, ?_⟩, ⟨_, rfl⟩, ?_, ?_⟩
      · intro _
        simp only [stage]
        omega
      · rw [staged_stage, staged_stage, h.staged]
      · exact Scratch.read_write_congr h.owed _ _
    · have hfull : t.config.bufferSize - t.writeBuffered < data.length := Nat.lt_of_not_le hfits
      rw [write_of_full hlt hfull, write_of_full (t := t.withScratch s) hlt hfull]
      exact ⟨rfl, rfl, h⟩
  · rw [write_of_eq heq, write_of_eq (t := t.withScratch s) heq]
    exact hflush
  · rw [write_of_gt hgt, write_of_gt (t := t.withScratch s) hgt]
    exact ⟨rfl, rfl, h⟩

/-! ### Reading -/

/-- Two deliveries that nobody can tell apart. -/
structure SameDelivery (d d' : Delivery β) : Prop where
  copied : d'.copied = d.copied
  outcome : SameOutcome d.outcome d'.outcome

omit [Backend β] in
theorem SameDelivery.after {d d' : Delivery β} (h : SameDelivery d d') (copied : Bytes)
    (events : List Event) : SameDelivery (d.after copied events) (d'.after copied events) :=
  ⟨congrArg (copied ++ ·) h.copied, h.outcome.result, congrArg (events ++ ·) h.outcome.events,
    h.outcome.state⟩

variable {length : Nat} {piece : Bytes}

theorem Alike.receive (h : Alike t t') : SameOutcome (Transport.receive t) (Transport.receive t') := by
  obtain ⟨s, rfl⟩ := h.rest
  exact ⟨rfl, rfl, ⟨h.regular.tidy, h.regular.staged⟩, ⟨s, rfl⟩, h.staged, h.owed⟩

omit [Backend β] in
theorem Alike.arrive (h : Alike t t') : Alike (t.arrive length piece) (t'.arrive length piece) := by
  obtain ⟨s, rfl⟩ := h.rest
  cases hv : t.viaScratch length with
  | false =>
    have harrive : t.arrive length piece = t := if_neg (by rw [hv]; exact Bool.false_ne_true)
    have harrive' : (t.withScratch s).arrive length piece = t.withScratch s :=
      if_neg (by rw [show (t.withScratch s).viaScratch length = false from hv]
                 exact Bool.false_ne_true)
    rw [harrive, harrive']
    exact h
  | true =>
    have harrive : t.arrive length piece = { t with scratch := t.scratch.write 0 piece } :=
      if_pos hv
    have harrive' : (t.withScratch s).arrive length piece =
        { t with scratch := s.write 0 piece } := if_pos hv
    rw [harrive, harrive']
    have hregular := regular_iff.1 h.regular
    exact ⟨regular_iff.2 ⟨hregular.1, hregular.2⟩, ⟨_, rfl⟩,
      Scratch.read_write_congr h.staged _ _, Scratch.read_write_congr h.owed _ _⟩

omit [Backend β] in
/-- Taken in, a piece is all that is owed, and it has been written to both memories. -/
theorem Alike.takeIn (h : Alike t t') (ha : t.readAvailable = 0) (hs : t.surplus = 0)
    (hl : length ≤ t.readRemaining) (hp : piece.length ≤ t.config.chunkSize) :
    Alike ((t.arrive length piece).takeIn length piece)
      ((t'.arrive length piece).takeIn length piece) := by
  obtain ⟨s, rfl⟩ := h.rest
  have hside := (sameWriteSide_arrive length piece t).trans
    (sameWriteSide_takeIn length piece (t.arrive length piece))
  have hregular : Regular ((t.arrive length piece).takeIn length piece) := by
    refine h.regular.of_sameWriteSide hside ?_
    rw [intake_takeIn ha hs hl hp]
    exact Intake.tidy_absorb _ _
  cases hv : t.viaScratch length with
  | false =>
    have hacc := accepted_of_direct hv hl hp
    have hlen : piece.length ≤ t.readRemaining := by
      simp only [accepted] at hacc
      omega
    rw [takeIn_of_direct hv hlen] at hregular ⊢
    rw [takeIn_of_direct (t := t.withScratch s) hv hlen]
    exact ⟨hregular, ⟨s, rfl⟩, h.staged, h.owed⟩
  | true =>
    have htaken : t.taken length piece ≤ t.accepted piece := Nat.min_le_left _ _
    have haccepted : t.accepted piece ≤ piece.length := Nat.min_le_left _ _
    have hpiece : (s.write 0 piece).read 0 piece.length =
        (t.scratch.write 0 piece).read 0 piece.length := by
      rw [Scratch.read_write_self, Scratch.read_write_self]
    have howed : (s.write 0 piece).read (t.taken length piece)
          (t.accepted piece - t.taken length piece + (piece.length - t.accepted piece)) =
        (t.scratch.write 0 piece).read (t.taken length piece)
          (t.accepted piece - t.taken length piece + (piece.length - t.accepted piece)) :=
      Scratch.read_eq_of_within hpiece (Nat.zero_le _) (by omega)
    rw [takeIn_of_scratch hv hs] at hregular ⊢
    rw [takeIn_of_scratch (t := t.withScratch s) hv hs]
    exact ⟨hregular, ⟨_, rfl⟩, Scratch.read_write_congr h.staged _ _, howed⟩

/-- **The rounds of a read see no difference.** -/
theorem Alike.readLoop (length : Nat) (hl : length ≤ t.readRemaining) (h : Alike t t')
    (hl' : length ≤ t'.readRemaining) (ha : 0 < length → t.readAvailable = 0) :
    SameDelivery (readLoop length t hl) (readLoop length t' hl') := by
  refine readLoop_induction (motive := fun length t delivery =>
    ∀ t' (hl' : length ≤ t'.readRemaining), Alike t t' → (0 < length → t.readAvailable = 0) →
      SameDelivery delivery (Transport.readLoop length t' hl'))
    ?done ?failed ?refused ?round length t hl t' hl' h ha
  case done =>
    intro t t' hl' h _
    rw [readLoop_zero]
    exact ⟨rfl, rfl, rfl, h⟩
  case failed =>
    intro length t e hpos hl hr t' hl' h ha
    have hreceive := h.receive
    rw [readLoop_of_error hpos hl' (hreceive.result.trans hr)]
    exact ⟨rfl, rfl, hreceive.events, hreceive.state⟩
  case refused =>
    intro length t piece hpos hl hr hover t' hl' h ha
    have hreceive := h.receive
    have hover' : t'.overruns length piece = true := by
      obtain ⟨s, rfl⟩ := h.rest
      exact hover
    rw [readLoop_of_overruns hpos hl' (hreceive.result.trans hr) hover']
    refine ⟨rfl, ?_, ?_, hreceive.state.arrive⟩ <;> obtain ⟨s, rfl⟩ := h.rest <;> rfl
  case round =>
    intro length t piece rest hpos hl hr hover ih t' hl' h ha
    have hreceive := h.receive
    have hp : piece.length ≤ t.config.chunkSize := length_receive_le hr
    have hsurplus : t.surplus = 0 := surplus_eq_zero h.regular.tidy (Nat.lt_of_lt_of_le hpos hl)
    have hover' : t'.overruns length piece = false := by
      obtain ⟨s, rfl⟩ := h.rest
      exact hover
    have htaken : t'.taken length piece = t.taken length piece := by
      obtain ⟨s, rfl⟩ := h.rest
      rfl
    have hevents : t'.intake.arrival t'.config piece = t.intake.arrival t.config piece := by
      obtain ⟨s, rfl⟩ := h.rest
      rfl
    have hadmitted : Alike (t.admitted length piece) (t'.admitted length piece) :=
      hreceive.state.takeIn (ha hpos) hsurplus hl hp
    have hwanted : length - t'.taken length piece ≤ (t'.admitted length piece).readRemaining :=
      wanted_le_admitted hl' piece
    have hrest : SameDelivery rest (Transport.readLoop (length - t'.taken length piece)
        (t'.admitted length piece) hwanted) := by
      simp only [htaken] at hwanted ⊢
      exact ih _ hwanted hadmitted (readAvailable_admitted (ha hpos) hsurplus hl hp)
    rw [readLoop_of_ok hpos hl' (hreceive.result.trans hr) hover', hevents, ← htaken]
    exact hrest.after _ _

theorem Alike.readInto (length : Nat) (h : Alike t t') :
    SameDelivery (t.readInto length) (t'.readInto length) := by
  by_cases hw : t.writeRemaining = 0
  · by_cases hl : length ≤ t.readExpected
    · have hsum : length ≤ t.readRemaining + t.readAvailable := hl
      rcases Nat.lt_or_ge t.readAvailable length with hmore | hready
      · rcases Nat.eq_zero_or_pos t.readAvailable with hnone | hsome
        · have hrest : length ≤ t.readRemaining := by omega
          have hloop : ∀ hrest', SameDelivery (Transport.readLoop length t hrest)
              (Transport.readLoop length t' hrest') := fun hrest' =>
            Alike.readLoop length hrest h hrest' fun _ => hnone
          obtain ⟨s, rfl⟩ := h.rest
          rw [readInto_of_none hw hnone (by omega) hrest,
            readInto_of_none (t := t.withScratch s) hw hnone (by omega) hrest]
          exact hloop hrest
        · have hrest : length - t.readAvailable ≤ t.readRemaining := by omega
          have hready : t'.ready = t.ready := h.ready
          have hdrained := h.drained (by omega)
          have hloop : ∀ hrest', SameDelivery
              (Transport.readLoop (length - t.readAvailable)
                { t with readAvailable := 0, readPos := 0 } hrest)
              (Transport.readLoop (length - t.readAvailable)
                { t' with readAvailable := 0, readPos := 0 } hrest') := fun hrest' =>
            Alike.readLoop (t := { t with readAvailable := 0, readPos := 0 })
              (length - t.readAvailable) hrest hdrained hrest' fun _ => rfl
          obtain ⟨s, rfl⟩ := h.rest
          rw [readInto_of_some hw hl hmore hsome hrest,
            readInto_of_some (t := t.withScratch s) hw hl hmore hsome hrest, hready]
          exact (hloop hrest).after _ _
      · have hcopied : t'.scratch.read t'.readPos length = t.scratch.read t.readPos length := by
          obtain ⟨s, rfl⟩ := h.rest
          exact Scratch.read_eq_of_within h.owed (Nat.le_refl _)
            (by simp only [withScratch]; omega)
        have htaken := h.drop hready
        obtain ⟨s, rfl⟩ := h.rest
        rw [readInto_of_ready hw hready, readInto_of_ready (t := t.withScratch s) hw hready]
        exact ⟨hcopied, rfl, rfl, htaken⟩
    · have hexceeded : t.readExpected < length := Nat.lt_of_not_le hl
      obtain ⟨s, rfl⟩ := h.rest
      rw [readInto_of_exceeded hw hexceeded,
        readInto_of_exceeded (t := t.withScratch s) hw hexceeded]
      exact ⟨rfl, rfl, rfl, h⟩
  · have hincomplete : 0 < t.writeRemaining := Nat.pos_of_ne_zero hw
    obtain ⟨s, rfl⟩ := h.rest
    rw [readInto_of_incomplete hincomplete,
      readInto_of_incomplete (t := t.withScratch s) hincomplete]
    exact ⟨rfl, rfl, rfl, h⟩

theorem blind_read (length : Nat) : Blind (read (β := β) length) := by
  intro t t' h
  have hinto := h.readInto length
  refine ⟨?_, hinto.outcome.events, hinto.outcome.state⟩
  show (t'.readInto length).outcome.result.map _ = (t.readInto length).outcome.result.map _
  rw [hinto.copied, hinto.outcome.result]

/-- **No run made of calls sees a difference.** -/
theorem Composed.blind {α : Type} {alone : Prop} {run : Run (Transport β) α}
    (h : Composed alone run) : Blind run := by
  induction h with
  | idle result notices h => exact blind_of_constant result _ h
  | startWrite length _ => exact blind_startWrite length
  | startRead length => exact blind_startRead length
  | startWriteRead writeLength readLength => exact blind_startWriteRead writeLength readLength
  | write data => exact blind_write data
  | read length => exact blind_read length
  | bind _ _ ih ihnext => exact ih.bind ihnext

end ProbeLink.Transport
