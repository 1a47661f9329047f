import ProbeLink.Proofs.ReadSide
import ProbeLink.Transport.Read

/-!
# ProbeLink.Proofs.Reading

**Reading is gathering.** A read call drains the scratch buffer, receives into it, or receives past
it, as the lengths happen to fall. Seen as bytes (`Transport.intake`) all of this is one thing: a
call for `length` bytes gathers until `length` bytes lie ready, and takes those
(`Reads`, `read_cases`).

A receive overwrites whatever lies in the scratch buffer, so all of this is for a tidy read side
only: one on which a surplus means a complete operation. Reading keeps it tidy
(`Intake.tidy_gather`).
-/

namespace ProbeLink.Transport

variable {β : Type}

/-! ### One piece -/

theorem sameWriteSide_arrive (length : Nat) (piece : Bytes) (t : Transport β) :
    SameWriteSide t (t.arrive length piece) := by
  unfold arrive
  split <;> exact ⟨rfl, rfl, rfl⟩

theorem sameWriteSide_takeIn (length : Nat) (piece : Bytes) (t : Transport β) :
    SameWriteSide t (t.takeIn length piece) := by
  unfold takeIn
  dsimp only
  split <;> exact ⟨rfl, rfl, rfl⟩

variable {t : Transport β} {length : Nat} {piece : Bytes}

/-- A call that takes a piece into its own memory takes all of it. -/
theorem accepted_of_direct (hv : t.viaScratch length = false) (hl : length ≤ t.readRemaining)
    (hp : piece.length ≤ t.config.chunkSize) : t.accepted piece = piece.length := by
  have : ¬length < t.config.chunkSize := by simpa [viaScratch] using hv
  simp only [accepted]
  omega

/-- Only the policy decides about a piece that is too long: one that a call takes into its own
memory never is. -/
theorem overruns_iff (hl : length ≤ t.readRemaining) (hp : piece.length ≤ t.config.chunkSize) :
    t.overruns length piece = true ↔ t.intake.Refuses t.config piece := by
  simp only [overruns, Intake.Refuses, due_intake, viaScratch, Bool.and_eq_true, Bool.or_eq_true,
    decide_eq_true_eq, beq_iff_eq, Bool.not_eq_true', decide_eq_false_iff_not, Nat.not_lt]
  constructor
  · rintro ⟨hlong, hpolicy | hdirect⟩
    · exact ⟨hlong, hpolicy⟩
    · omega
  · rintro ⟨hlong, hpolicy⟩
    exact ⟨hlong, .inl hpolicy⟩

/-- Taken into the memory of the call, a piece leaves the scratch buffer and its counters alone. -/
theorem takeIn_of_direct (hv : t.viaScratch length = false)
    (hlen : piece.length ≤ t.readRemaining) :
    (t.arrive length piece).takeIn length piece =
      { t with readRemaining := t.readRemaining - piece.length } := by
  have hacc : t.accepted piece = piece.length := Nat.min_eq_left hlen
  simp only [arrive, takeIn, hv, hacc, Bool.false_eq_true, if_false]
  rw [if_neg (by omega)]

/-- Taken in through the scratch buffer, a piece lies there whole: first what the call takes, then
what is ready for the next one, then what is beyond the operation. -/
theorem takeIn_of_scratch (hv : t.viaScratch length = true) (hs : t.surplus = 0) :
    (t.arrive length piece).takeIn length piece =
      { t with
        scratch := t.scratch.write 0 piece
        readRemaining := t.readRemaining - t.accepted piece
        surplus := piece.length - t.accepted piece
        readAvailable := t.accepted piece - t.taken length piece
        readPos := t.taken length piece } := by
  have hsurplus : (if t.readRemaining < piece.length then piece.length - t.accepted piece
      else t.surplus) = piece.length - t.accepted piece := by
    split
    · rfl
    · simp only [accepted]
      omega
  have harrive : t.arrive length piece = { t with scratch := t.scratch.write 0 piece } :=
    if_pos hv
  rw [harrive, ← hsurplus]
  exact if_pos hv

/-- Where a piece goes makes no difference to the bytes: it is taken in, and the call takes its
part of it. -/
theorem intake_takeIn (ha : t.readAvailable = 0) (hs : t.surplus = 0)
    (hl : length ≤ t.readRemaining) (hp : piece.length ≤ t.config.chunkSize) :
    ((t.arrive length piece).takeIn length piece).intake =
      (t.intake.absorb piece).handOut (t.taken length piece) := by
  have hready : t.intake.ready = [] := ready_eq_nil ha
  cases hv : t.viaScratch length with
  | false =>
    -- The call still wants a whole chunk, so the piece is all its own.
    have hacc := accepted_of_direct hv hl hp
    have hlen : piece.length ≤ t.readRemaining := by
      simp only [accepted] at hacc
      omega
    have htaken : t.taken length piece = piece.length := by
      have : ¬length < t.config.chunkSize := by simpa [viaScratch] using hv
      simp only [taken, hacc]
      omega
    rw [takeIn_of_direct hv hlen, htaken]
    ext1
    · rfl
    · rfl
    · simp only [Intake.absorb, Intake.handOut, hready, List.nil_append, due_intake,
        List.take_of_length_le hlen, List.drop_length]
      exact ready_eq_nil ha
    · simp only [Intake.absorb, Intake.handOut, due_intake, List.drop_eq_nil_of_le hlen]
      exact spare_eq_nil hs
  | true =>
    -- Both regions that the counters name lie within the piece.
    have htaken : t.taken length piece ≤ t.accepted piece := Nat.min_le_left _ _
    have haccepted : t.accepted piece ≤ piece.length := Nat.min_le_left _ _
    have hinside : ∀ i n, i + n ≤ piece.length →
        (t.scratch.write 0 piece).read i n = (piece.drop i).take n := by
      intro i n h
      rw [← Scratch.read_write_inside t.scratch 0 h, Nat.zero_add]
    rw [takeIn_of_scratch hv hs]
    ext1
    · rfl
    · simp only [Intake.absorb, Intake.handOut, due_intake, accepted]
      omega
    · simp only [Intake.absorb, Intake.handOut, hready, List.nil_append, due_intake, ready_intake]
      rw [ready, hinside _ _ (by simp only; omega), List.drop_take, List.take_eq_take_iff,
        List.length_drop]
      simp only [accepted]
      omega
    · simp only [Intake.absorb, Intake.handOut, due_intake, spare_intake]
      rw [spare, hinside _ _ (by simp only; omega), List.take_of_length_le (by simp; omega),
        List.drop_eq_drop_iff]
      simp only [accepted] at htaken ⊢
      omega

/-! ### The loop -/

/-- What a delivery has to do with gathering until `need` bytes lie ready. It hands out the first
`need` of them, `before` being those that were handed out earlier. -/
structure Follows (t : Transport β) (need : Nat) (before : Bytes) (delivery : Delivery β)
    (gathered : Outcome (Intake β) Unit) : Prop where
  result : delivery.outcome.result = gathered.result
  events : delivery.outcome.events = gathered.events
  copied : before ++ delivery.copied = gathered.state.ready.take need
  intake : delivery.outcome.state.intake = gathered.state.handOut need
  writeSide : SameWriteSide t delivery.outcome.state

/-- A call that fails before anything lies ready for it hands nothing out. -/
theorem follows_of_nothing {t' : Transport β} {s : Intake β} {before : Bytes}
    {result : Except Error Unit} {events : List Event} (hs : s.ready = [])
    (hintake : t'.intake = s) (hside : SameWriteSide t t') :
    Follows t (before.length + length) before ⟨[], ⟨result, t', events⟩⟩
      ⟨result, s.prepend before, events⟩ := by
  have hready : (s.prepend before).ready = before := by simp [Intake.prepend, hs]
  refine ⟨rfl, rfl, ?_, ?_, hside⟩
  · rw [List.append_nil, hready, List.take_of_length_le (by omega)]
  · rw [hintake]
    ext1
    · rfl
    · rfl
    · rw [Intake.handOut, hready, hs, List.drop_eq_nil_of_le (by omega)]
    · rfl

variable [Backend β]

theorem readLoop_zero (hl : 0 ≤ t.readRemaining) : readLoop 0 t hl = ⟨[], ⟨.ok (), t, []⟩⟩ := by
  rw [readLoop, dif_pos rfl]

/-- The state after a piece was taken in. -/
def admitted (length : Nat) (piece : Bytes) (t : Transport β) : Transport β :=
  ((receive t).state.arrive length piece).takeIn length piece

theorem taken_arrive (t : Transport β) :
    ((receive t).state.arrive length piece).taken length piece = t.taken length piece := by
  simp only [taken, accepted, readRemaining_arrive, readRemaining_receive]

theorem readRemaining_admitted (t : Transport β) :
    (t.admitted length piece).readRemaining = t.readRemaining - t.accepted piece := by
  simp only [admitted, readRemaining_takeIn, accepted, readRemaining_arrive, readRemaining_receive]

theorem overruns_arrive (t : Transport β) :
    ((receive t).state.arrive length piece).overruns length piece = t.overruns length piece := by
  simp only [overruns, viaScratch, readRemaining_arrive, config_arrive, readRemaining_receive,
    config_receive]

/-- What a call still wants after a piece is part of what the operation still misses. -/
theorem wanted_le_admitted (hl : length ≤ t.readRemaining) (piece : Bytes) :
    length - t.taken length piece ≤ (t.admitted length piece).readRemaining := by
  rw [readRemaining_admitted]
  simp only [taken, accepted]
  omega

/-- One round of the loop. -/
theorem readLoop_step (h₀ : 0 < length) (hl : length ≤ t.readRemaining) :
    readLoop length t hl =
      match (receive t).result with
      | .error e => ⟨[], ⟨.error e, (receive t).state, (receive t).events⟩⟩
      | .ok piece =>
        if t.overruns length piece then
          ⟨[], ⟨.error (.protocol (.overrun t.readRemaining piece.length)),
            (receive t).state.arrive length piece, t.intake.arrival t.config piece⟩⟩
        else
          (readLoop (length - t.taken length piece) (t.admitted length piece)
              (wanted_le_admitted hl piece)).after
            (piece.take (t.taken length piece)) (t.intake.arrival t.config piece) := by
  rw [readLoop, dif_neg (by omega)]
  dsimp only
  split
  · next e h => rw [h]
  · next piece h =>
    simp only [h, overruns_arrive, taken_arrive, overrunEvents, readRemaining_arrive]
    rfl

theorem readLoop_of_error {e : Error} (h₀ : 0 < length) (hl : length ≤ t.readRemaining)
    (h : (receive t).result = .error e) :
    readLoop length t hl = ⟨[], ⟨.error e, (receive t).state, (receive t).events⟩⟩ := by
  rw [readLoop_step h₀ hl, h]

theorem readLoop_of_overruns (h₀ : 0 < length) (hl : length ≤ t.readRemaining)
    (h : (receive t).result = .ok piece) (hover : t.overruns length piece = true) :
    readLoop length t hl =
      ⟨[], ⟨.error (.protocol (.overrun t.readRemaining piece.length)),
        (receive t).state.arrive length piece, t.intake.arrival t.config piece⟩⟩ := by
  rw [readLoop_step h₀ hl, h]
  exact if_pos hover

theorem readLoop_of_ok (h₀ : 0 < length) (hl : length ≤ t.readRemaining)
    (h : (receive t).result = .ok piece) (hover : t.overruns length piece = false) :
    readLoop length t hl =
      (readLoop (length - t.taken length piece) (t.admitted length piece)
          (wanted_le_admitted hl piece)).after
        (piece.take (t.taken length piece)) (t.intake.arrival t.config piece) := by
  have hnot : ¬t.overruns length piece = true := by
    rw [hover]
    exact Bool.false_ne_true
  rw [readLoop_step h₀ hl, h]
  exact if_neg hnot

/-- **Induction along the rounds of a read.** A read ends because nothing more is wanted, because a
receive fails or because a piece is refused; otherwise it takes a piece and goes on with the rest. -/
theorem readLoop_induction {motive : Nat → Transport β → Delivery β → Prop}
    (done : ∀ t, motive 0 t ⟨[], ⟨.ok (), t, []⟩⟩)
    (failed : ∀ length t e, 0 < length → length ≤ t.readRemaining → (receive t).result = .error e →
      motive length t ⟨[], ⟨.error e, (receive t).state, (receive t).events⟩⟩)
    (refused : ∀ length t piece, 0 < length → length ≤ t.readRemaining →
      (receive t).result = .ok piece → t.overruns length piece = true →
      motive length t ⟨[], ⟨.error (.protocol (.overrun t.readRemaining piece.length)),
        (receive t).state.arrive length piece, t.intake.arrival t.config piece⟩⟩)
    (round : ∀ length t piece rest, 0 < length → length ≤ t.readRemaining →
      (receive t).result = .ok piece → t.overruns length piece = false →
      motive (length - t.taken length piece) (t.admitted length piece) rest →
      motive length t
        (rest.after (piece.take (t.taken length piece)) (t.intake.arrival t.config piece)))
    (length : Nat) (t : Transport β) (hl : length ≤ t.readRemaining) :
    motive length t (readLoop length t hl) := by
  induction length using Nat.strongRecOn generalizing t with
  | ind length ih =>
    rcases Nat.eq_zero_or_pos length with rfl | hpos
    · rw [readLoop_zero]
      exact done t
    · cases hr : (receive t).result with
      | error e =>
        rw [readLoop_of_error hpos hl hr]
        exact failed length t e hpos hl hr
      | ok piece =>
        cases hv : t.overruns length piece with
        | true =>
          rw [readLoop_of_overruns hpos hl hr hv]
          exact refused length t piece hpos hl hr hv
        | false =>
          have hlen : 0 < piece.length := length_receive_pos hr
          have hless : length - t.taken length piece < length := by
            simp only [taken, accepted]
            omega
          rw [readLoop_of_ok hpos hl hr hv]
          exact round length t piece _ hpos hl hr hv
            (ih _ hless (t.admitted length piece) (wanted_le_admitted hl piece))

/-- A piece in the scratch buffer changes nothing as long as nothing else lies there. -/
theorem intake_arrive (ha : t.readAvailable = 0) (hs : t.surplus = 0) :
    ((receive t).state.arrive length piece).intake = t.intake.advance t.config := by
  have hready : t.ready = [] := ready_eq_nil ha
  have hspare : t.spare = [] := spare_eq_nil hs
  unfold arrive
  split
  · ext1
    · rfl
    · rfl
    · exact (ready_eq_nil (by exact ha)).trans hready.symm
    · exact (spare_eq_nil (by exact hs)).trans hspare.symm
  · rfl

/-- The bytes after a piece was taken in by a call that still wants `length` bytes. -/
theorem intake_admitted (ha : t.readAvailable = 0) (hs : t.surplus = 0)
    (hl : length ≤ t.readRemaining) (hp : piece.length ≤ t.config.chunkSize) :
    (t.admitted length piece).intake =
      ((t.intake.advance t.config).absorb piece).handOut (t.taken length piece) :=
  intake_takeIn (t := (receive t).state) ha hs hl hp

/-- As long as the call wants more, nothing of a piece stays for the next one. -/
theorem readAvailable_admitted (ha : t.readAvailable = 0) (hs : t.surplus = 0)
    (hl : length ≤ t.readRemaining) (hp : piece.length ≤ t.config.chunkSize)
    (hmore : 0 < length - t.taken length piece) : (t.admitted length piece).readAvailable = 0 := by
  have hready : t.intake.ready = [] := ready_eq_nil ha
  rw [← length_ready, ← ready_intake, intake_admitted ha hs hl hp]
  simp only [Intake.handOut, Intake.absorb, Intake.advance, hready, List.nil_append,
    List.length_drop, List.length_take, due_intake]
  simp only [taken, accepted] at hmore ⊢
  omega

/-- Together with what was handed out before, the bytes are those of the piece taken in whole. -/
theorem prepend_admitted (before : Bytes) (ha : t.readAvailable = 0) (hs : t.surplus = 0)
    (hl : length ≤ t.readRemaining) (hp : piece.length ≤ t.config.chunkSize) :
    (t.admitted length piece).intake.prepend (before ++ piece.take (t.taken length piece)) =
      ((t.intake.prepend before).advance t.config).absorb piece := by
  have hready : t.intake.ready = [] := ready_eq_nil ha
  have hpart : piece.take (t.taken length piece) =
      (piece.take t.readRemaining).take (t.taken length piece) := by
    rw [List.take_take, Nat.min_eq_left]
    simp only [taken, accepted]
    omega
  rw [intake_admitted ha hs hl hp]
  ext1
  · rfl
  · rfl
  · simp only [Intake.prepend, Intake.handOut, Intake.absorb, Intake.advance, hready, due_intake,
      List.nil_append, List.append_nil]
    rw [hpart, List.append_assoc, List.take_append_drop]
  · rfl

theorem sameWriteSide_arrived (t : Transport β) :
    SameWriteSide t ((receive t).state.arrive length piece) := by
  have hreceive : SameWriteSide t (receive t).state := ⟨rfl, rfl, rfl⟩
  exact hreceive.trans (sameWriteSide_arrive length piece _)

theorem sameWriteSide_admitted (t : Transport β) : SameWriteSide t (t.admitted length piece) :=
  (sameWriteSide_arrived t).trans (sameWriteSide_takeIn length piece _)

omit [Backend β] in
theorem length_prepend_lt {before : Bytes} (hready : t.intake.ready = []) (hpos : 0 < length) :
    (t.intake.prepend before).ready.length < before.length + length := by
  simp only [Intake.prepend, hready, List.append_nil]
  omega

/-- **The loop gathers.** -/
theorem readLoop_follows (length : Nat) (hl : length ≤ t.readRemaining) (htidy : t.intake.Tidy)
    (ha : 0 < length → t.readAvailable = 0) (before : Bytes) :
    Follows t (before.length + length) before (readLoop length t hl)
      (Intake.gather t.config (before.length + length) (t.intake.prepend before)) := by
  -- Each round hands bytes out, and gathering keeps them: `before` grows by what the rounds so far
  -- have handed out, and the number of bytes to gather stays the same.
  refine readLoop_induction (motive := fun length t delivery => ∀ before, t.intake.Tidy →
    (0 < length → t.readAvailable = 0) → Follows t (before.length + length) before delivery
      (Intake.gather t.config (before.length + length) (t.intake.prepend before)))
    ?done ?failed ?refused ?round length t hl before htidy ha
  case done =>
    intro t before _ _
    rw [Intake.gather_of_le (by simp [Intake.prepend])]
    refine ⟨rfl, rfl, ?_, ?_, SameWriteSide.refl t⟩
    · simp [Intake.prepend]
    · simp [Intake.prepend, Intake.handOut, intake]
  case failed =>
    intro length t e hpos hl hr before htidy ha
    have hready : t.intake.ready = [] := ready_eq_nil (ha hpos)
    rw [Intake.gather_of_error (length_prepend_lt hready hpos) (Nat.lt_of_lt_of_le hpos hl) hr]
    exact follows_of_nothing (s := t.intake.advance t.config) hready rfl ⟨rfl, rfl, rfl⟩
  case refused =>
    intro length t piece hpos hl hr hv before htidy ha
    have hready : t.intake.ready = [] := ready_eq_nil (ha hpos)
    have hdue : 0 < t.intake.due := Nat.lt_of_lt_of_le hpos hl
    have href : t.intake.Refuses t.config piece := (overruns_iff hl (length_receive_le hr)).1 hv
    rw [Intake.gather_of_refuses (length_prepend_lt hready hpos) hdue hr href]
    exact follows_of_nothing (s := t.intake.advance t.config) hready
      (intake_arrive (ha hpos) (surplus_eq_zero htidy hdue)) (sameWriteSide_arrived t)
  case round =>
    intro length t piece rest hpos hl hr hv ih before htidy ha
    have hnone : t.readAvailable = 0 := ha hpos
    have hready : t.intake.ready = [] := ready_eq_nil hnone
    have hdue : 0 < t.intake.due := Nat.lt_of_lt_of_le hpos hl
    have hsurplus : t.surplus = 0 := surplus_eq_zero htidy hdue
    have hp : piece.length ≤ t.config.chunkSize := length_receive_le hr
    have href : ¬t.intake.Refuses t.config piece := by
      rw [← overruns_iff hl hp, hv]
      exact Bool.false_ne_true
    have htidy' : (t.admitted length piece).intake.Tidy := by
      rw [intake_admitted hnone hsurplus hl hp]
      exact Intake.tidy_absorb _ _
    have hrest : (before ++ piece.take (t.taken length piece)).length +
        (length - t.taken length piece) = before.length + length := by
      simp only [List.length_append, List.length_take, taken, accepted]
      omega
    have hnext := ih (before ++ piece.take (t.taken length piece)) htidy'
      (readAvailable_admitted hnone hsurplus hl hp)
    rw [hrest, prepend_admitted before hnone hsurplus hl hp, (sameWriteSide_admitted t).config]
      at hnext
    rw [Intake.gather_of_ok (length_prepend_lt hready hpos) hdue hr href]
    refine ⟨hnext.result, ?_, ?_, hnext.intake, (sameWriteSide_admitted t).trans hnext.writeSide⟩
    · exact congrArg (t.intake.arrival t.config piece ++ ·) hnext.events
    · rw [Outcome.state_after, ← hnext.copied, Delivery.after, List.append_assoc]

/-! ### A call -/

/-- What comes of gathering until `need` bytes lie ready. -/
def gathered (need : Nat) (t : Transport β) : Outcome (Intake β) Unit :=
  Intake.gather t.config need t.intake

theorem readInto_of_incomplete (h : 0 < t.writeRemaining) :
    t.readInto length = ⟨[], ⟨.error (.argument (.writeIncomplete t.writeRemaining)), t,
      [.noted (.readBeforeWrite t.writeRemaining)]⟩⟩ := by
  rw [readInto, if_pos h]

theorem readInto_of_exceeded (hw : t.writeRemaining = 0) (hl : t.readExpected < length) :
    t.readInto length = ⟨[], ⟨.error (.argument (.readLengthExceeded length t.readExpected)), t,
      [.noted (.readLengthExceeded length t.readExpected)]⟩⟩ := by
  rw [readInto, if_neg (by omega), dif_pos hl]

/-- All of it lies ready. -/
theorem readInto_of_ready (hw : t.writeRemaining = 0) (hready : length ≤ t.readAvailable) :
    t.readInto length = ⟨t.scratch.read t.readPos length, ⟨.ok (), { t with
      readAvailable := t.readAvailable - length
      readPos := t.readPos + length }, []⟩⟩ := by
  rw [readInto, if_neg (by omega), dif_neg (by rw [readExpected]; omega), if_pos hready]

/-- Some of it lies ready. -/
theorem readInto_of_some (hw : t.writeRemaining = 0) (hl : length ≤ t.readExpected)
    (hready : t.readAvailable < length) (hsome : 0 < t.readAvailable)
    (hrest : length - t.readAvailable ≤ t.readRemaining) :
    t.readInto length =
      (readLoop (length - t.readAvailable) { t with readAvailable := 0, readPos := 0 } hrest).after
        t.ready [] := by
  rw [readInto, if_neg (by omega), dif_neg (by omega), if_neg (by omega), dif_pos hsome]
  rfl

/-- Nothing of it lies ready. -/
theorem readInto_of_none (hw : t.writeRemaining = 0) (hnone : t.readAvailable = 0)
    (hpos : 0 < length) (hl : length ≤ t.readRemaining) :
    t.readInto length = readLoop length t hl := by
  rw [readInto, if_neg (by omega), dif_neg (by rw [readExpected]; omega), if_neg (by omega),
    dif_neg (by omega)]

/-- **A call that fits into the operation gathers**, wherever its bytes come from. -/
theorem readInto_follows (hw : t.writeRemaining = 0) (hl : length ≤ t.readExpected)
    (htidy : t.intake.Tidy) : Follows t length [] (t.readInto length) (t.gathered length) := by
  have hsum := hl
  simp only [readExpected] at hsum
  by_cases hready : length ≤ t.readAvailable
  · rw [readInto_of_ready hw hready, gathered, Intake.gather_of_le (by simpa using hready)]
    exact ⟨rfl, rfl, (Scratch.take_read t.scratch t.readPos hready).symm, intake_drain hready,
      ⟨rfl, rfl, rfl⟩⟩
  · rcases Nat.eq_zero_or_pos t.readAvailable with hnone | hsome
    · have hloop := readLoop_follows (t := t) length (by omega) htidy (fun _ => hnone) []
      rw [List.length_nil, Nat.zero_add, Intake.prepend_nil] at hloop
      rw [readInto_of_none hw hnone (by omega) (by omega)]
      exact hloop
    · have hsurplus : t.surplus = 0 := surplus_eq_zero htidy (by omega)
      have hdrained := intake_drained hsurplus
      have hall : ({ t with readAvailable := 0, readPos := 0 } : Transport β).intake.prepend
          t.ready = t.intake := by
        rw [hdrained]
        ext1 <;> simp [Intake.prepend, Intake.handOut]
      have hrest : length - t.readAvailable ≤ t.readRemaining := by omega
      have hloop := readLoop_follows (t := { t with readAvailable := 0, readPos := 0 })
        (length - t.readAvailable) hrest
        (by rw [hdrained]; exact htidy) (fun _ => rfl) t.ready
      rw [hall, length_ready, show t.readAvailable + (length - t.readAvailable) = length by omega]
        at hloop
      have hside : SameWriteSide t { t with readAvailable := 0, readPos := 0 } := ⟨rfl, rfl, rfl⟩
      rw [readInto_of_some hw hl (by omega) hsome hrest]
      exact ⟨hloop.result, hloop.events, hloop.copied, hloop.intake, hside.trans hloop.writeSide⟩

/-- An outcome that hands out the first `need` bytes that gathering makes ready. -/
structure Reads (t : Transport β) (need : Nat) (outcome : Outcome (Transport β) Bytes) : Prop where
  result : outcome.result =
    (t.gathered need).result.map fun _ => (t.gathered need).state.ready.take need
  events : outcome.events = (t.gathered need).events
  intake : outcome.state.intake = (t.gathered need).state.handOut need
  writeSide : SameWriteSide t outcome.state

theorem read_reads (hw : t.writeRemaining = 0) (hl : length ≤ t.readExpected)
    (htidy : t.intake.Tidy) : Reads t length (read length t) := by
  have h := readInto_follows hw hl htidy
  refine ⟨?_, h.events, h.intake, h.writeSide⟩
  rw [← h.copied, List.nil_append, ← h.result]
  rfl

/-- A read that succeeds returns what it handed out. -/
theorem copied_of_ok {bytes : Bytes} (h : (read length t).result = .ok bytes) :
    bytes = (t.readInto length).copied := by
  rw [read, Outcome.result_map] at h
  cases hinto : (t.readInto length).outcome.result with
  | error e =>
    rw [hinto] at h
    cases h
  | ok u =>
    rw [hinto] at h
    cases h
    rfl

theorem overran_read_iff :
    Overran (read length t).result ↔ Overran (t.readInto length).outcome.result := by
  rw [read, Outcome.result_map, overran_map]

/-- Every transfer of a call that gathers has room for a chunk. -/
theorem Reads.room {need : Nat} {outcome : Outcome (Transport β) Bytes} {event : Event}
    (h : Reads t need outcome) (hmem : event ∈ transfers outcome.events) :
    ∃ attempt, event = .received t.config.chunkSize attempt := by
  rw [h.events] at hmem
  exact received_of_mem_transfers (Intake.noSend_gather _) (Intake.roomIs_gather _) hmem

/-- A call that gathers fails for bytes that are too many as gathering does. -/
theorem Reads.overrun_iff {need : Nat} {outcome : Outcome (Transport β) Bytes}
    (h : Reads t need outcome) (expected received : Nat) :
    outcome.result = .error (.protocol (.overrun expected received)) ↔
      (t.gathered need).result = .error (.protocol (.overrun expected received)) := by
  rw [h.result]
  cases (t.gathered need).result with
  | error e => simp [Except.map]
  | ok u => simp [Except.map]

/-- A read that succeeds takes its bytes from those that were owed and those that it received, and
owes the others. One that fails owes nothing any more. -/
theorem Reads.owed {need : Nat} {outcome : Outcome (Transport β) Bytes} (h : Reads t need outcome)
    (hneed : need ≤ t.readExpected) (htidy : t.intake.Tidy) :
    (∀ bytes, outcome.result = .ok bytes → bytes.length = need ∧
      t.owed ++ receivedBytes outcome.events = bytes ++ outcome.state.owed) ∧
    ∀ e, outcome.result = .error e → outcome.state.owed = [] := by
  have hneed' : need ≤ t.intake.ready.length + t.intake.due := by rwa [← readExpected_eq]
  have henough : (t.gathered need).result = .ok () ↔
      need ≤ (t.gathered need).state.ready.length := Intake.gather_enough hneed'
  have hresult := h.result
  rw [owed_eq, owed_eq, h.intake, h.events]
  cases hg : (t.gathered need).result with
  | error e =>
    refine ⟨?_, ?_⟩
    · intro bytes hok
      rw [hok, hg] at hresult
      cases hresult
    · intro _ _
      -- Too few bytes lie ready, so the operation is not complete and nothing lies beyond it.
      have hshort : (t.gathered need).state.ready.length < need := by
        refine Nat.lt_of_not_le ?_
        intro hle
        rw [henough.2 hle] at hg
        cases hg
      have hsum : (t.gathered need).state.ready.length + (t.gathered need).state.due =
          t.intake.ready.length + t.intake.due := Intake.length_ready_add_due t.config need t.intake
      have hspare : (t.gathered need).state.spare = [] :=
        (Intake.tidy_gather htidy).spare_eq_nil (by unfold gathered at *; omega)
      simp only [Intake.handOut, hspare, List.append_nil]
      exact List.drop_eq_nil_of_le (Nat.le_of_lt hshort)
  | ok u =>
    refine ⟨?_, ?_⟩
    · intro bytes hok
      have hnot : ¬Overran (t.gathered need).result := by
        rintro ⟨expected, received, hover⟩
        cases hg.symm.trans hover
      have hbytes := Intake.gather_bytes t.config need htidy hnot
      have hready : bytes = (t.gathered need).state.ready.take need := by
        rw [hok, hg] at hresult
        cases hresult
        rfl
      have hlength : need ≤ (t.gathered need).state.ready.length := henough.1 hg
      refine ⟨by rw [hready, List.length_take, Nat.min_eq_left hlength], ?_⟩
      rw [hready]
      simp only [Intake.handOut]
      rw [← List.append_assoc, List.take_append_drop]
      exact hbytes
    · intro e he
      rw [he, hg] at hresult
      cases hresult

/-- **The books of a call balance**, whatever it ends with but for a piece that it refuses. The bytes
that were owed and those that it received are the ones that it handed out and the ones that are owed
now. What it handed out is not expected any more. -/
theorem readInto_balances (hw : t.writeRemaining = 0) (hl : length ≤ t.readExpected)
    (htidy : t.intake.Tidy) (hnot : ¬Overran (t.readInto length).outcome.result) :
    t.owed ++ receivedBytes (t.readInto length).outcome.events =
        (t.readInto length).copied ++ (t.readInto length).outcome.state.owed ∧
      (t.readInto length).copied.length + (t.readInto length).outcome.state.readExpected =
        t.readExpected := by
  have hfollows := readInto_follows hw hl htidy
  rw [hfollows.result] at hnot
  have hbytes := Intake.gather_bytes t.config length htidy hnot
  have hsum := Intake.length_ready_add_due t.config length t.intake
  have hcopied : (t.readInto length).copied = (t.gathered length).state.ready.take length := by
    rw [← hfollows.copied, List.nil_append]
  rw [owed_eq, owed_eq, readExpected_eq, readExpected_eq, hfollows.events, hfollows.intake, hcopied]
  simp only [Intake.handOut]
  refine ⟨?_, ?_⟩
  · rw [← List.append_assoc, List.take_append_drop]
    exact hbytes
  · rw [← Nat.add_assoc, ← List.length_append, List.take_append_drop]
    exact hsum

/-- A call that comes before the write half of its operation is refused. -/
theorem read_of_incomplete (hw : 0 < t.writeRemaining) (length : Nat) :
    read length t = ⟨.error (.argument (.writeIncomplete t.writeRemaining)), t,
      [.noted (.readBeforeWrite t.writeRemaining)]⟩ := by
  rw [read, readInto_of_incomplete hw]
  rfl

/-- A call that goes beyond the operation is refused. -/
theorem read_of_exceeded (hw : t.writeRemaining = 0) (hl : t.readExpected < length) :
    read length t = ⟨.error (.argument (.readLengthExceeded length t.readExpected)), t,
      [.noted (.readLengthExceeded length t.readExpected)]⟩ := by
  rw [read, readInto_of_exceeded hw hl]
  rfl

/-- All that a read call can do: refuse to come before the write half of its operation, refuse to
go beyond the operation, or gather. -/
theorem read_cases (htidy : t.intake.Tidy) (length : Nat) :
    (0 < t.writeRemaining ∧
      read length t = ⟨.error (.argument (.writeIncomplete t.writeRemaining)), t,
        [.noted (.readBeforeWrite t.writeRemaining)]⟩) ∨
    (t.writeRemaining = 0 ∧ t.readExpected < length ∧
      read length t = ⟨.error (.argument (.readLengthExceeded length t.readExpected)), t,
        [.noted (.readLengthExceeded length t.readExpected)]⟩) ∨
    (t.writeRemaining = 0 ∧ length ≤ t.readExpected ∧ Reads t length (read length t)) := by
  by_cases hw : t.writeRemaining = 0
  · by_cases hl : length ≤ t.readExpected
    · exact .inr (.inr ⟨hw, hl, read_reads hw hl htidy⟩)
    · have hexceeded : t.readExpected < length := Nat.lt_of_not_le hl
      exact .inr (.inl ⟨hw, hexceeded, read_of_exceeded hw hexceeded⟩)
  · have hincomplete : 0 < t.writeRemaining := Nat.pos_of_ne_zero hw
    exact .inl ⟨hincomplete, read_of_incomplete hincomplete length⟩

end ProbeLink.Transport
