import ProbeLink.Proofs.History

/-!
# ProbeLink.Proofs.Bounds

**Where the cursors of a transport can stand.** The staged bytes fit into the scratch buffer, the
bytes of the read side lie within its first chunk, a surplus means a complete operation and a policy
that keeps it, and no more is expected than the last read operation declared (`InBounds`).

All of it holds of a fresh transport and is kept by every call, failed ones included
(`inBounds_after`). The one call with a loop is a read. A round of it puts one piece at the start of
the scratch buffer and cuts it in three: what the call takes, what lies ready for the next one, and
what is beyond the operation. The three together are as long as the piece, and that is at most a
chunk (`InBounds.takeIn`).
-/

namespace ProbeLink

/-- The length of the last read operation that was started, after a call; `before` is that before
it. -/
def Call.declares {σ : Type} (call : Call) (outcome : Outcome σ Reply) (before : Nat) : Nat :=
  match call with
  | .startRead length => if outcome.result.isOk then length else before
  | .startWriteRead _ length => if outcome.result.isOk then length else before
  | .startWrite _ | .write _ | .read _ => before

namespace Transport

variable {β : Type}

/-- The cursors of a transport whose last read operation declared so many bytes. -/
structure InBounds (declared : Nat) (t : Transport β) : Prop where
  /-- The staged bytes fit into the scratch buffer. -/
  buffered : t.writeBuffered ≤ t.config.bufferSize
  /-- Bytes are staged only while a write operation waits for others. -/
  staged : 0 < t.writeBuffered → 0 < t.writeRemaining
  /-- The bytes of the read side lie within the first chunk. -/
  region : t.readPos + t.readAvailable + t.surplus ≤ t.config.chunkSize
  /-- Nothing is kept beyond an operation that is not complete, or against the policy. -/
  beyond : 0 < t.surplus → t.readRemaining = 0 ∧ t.config.overrun = .retain
  /-- What is still expected is part of the operation. -/
  expected : t.readRemaining + t.readAvailable ≤ declared

variable {declared : Nat} {t : Transport β}

theorem InBounds.regular (h : InBounds declared t) : Regular t :=
  regular_iff.2 ⟨fun hs => (h.beyond hs).1, h.staged⟩

/-- While bytes are due, nothing lies beyond the operation. -/
theorem InBounds.surplus_eq_zero (h : InBounds declared t) (hdue : 0 < t.readRemaining) :
    t.surplus = 0 := by
  have := h.beyond
  omega

theorem inBounds_fresh (config : ValidConfig) (backend : β) : InBounds 0 (fresh config backend) where
  buffered := Nat.zero_le _
  staged := fun h => absurd h (Nat.lt_irrefl 0)
  region := Nat.zero_le _
  beyond := fun h => absurd h (Nat.lt_irrefl 0)
  expected := Nat.le_refl 0

/-! ### Starting an operation -/

theorem InBounds.resetWrite (length : Nat) (h : InBounds declared t) :
    InBounds declared (t.resetWrite length) where
  buffered := Nat.zero_le _
  staged := fun hb => absurd hb (Nat.lt_irrefl 0)
  region := by
    have := h.region
    simp only [Transport.resetWrite]
    omega
  beyond := fun hs => absurd hs (Nat.lt_irrefl 0)
  expected := h.expected

/-- A surplus that becomes the start of an operation stays where it is. -/
theorem InBounds.resetRead (length : Nat) (h : InBounds declared t) :
    InBounds length (t.resetRead length) := by
  have hregion := h.region
  unfold Transport.resetRead
  split
  · refine ⟨h.buffered, h.staged, ?_, fun hs => absurd hs (Nat.lt_irrefl 0), ?_⟩
    · simp only
      omega
    · simp only
      omega
  · exact ⟨h.buffered, h.staged, Nat.zero_le _, fun hs => absurd hs (Nat.lt_irrefl 0),
      Nat.le_refl _⟩

theorem InBounds.abandonWrite (h : InBounds declared t) : InBounds declared t.abandonWrite := by
  unfold Transport.abandonWrite
  split
  · exact ⟨Nat.zero_le _, fun hb => absurd hb (Nat.lt_irrefl 0), h.region, h.beyond, h.expected⟩
  · exact h

/-! ### Reading -/

/-- Bytes that a call takes from the scratch buffer leave their room to nobody. -/
theorem InBounds.drain {length : Nat} (h : InBounds declared t) (hl : length ≤ t.readAvailable) :
    InBounds declared
      { t with readAvailable := t.readAvailable - length, readPos := t.readPos + length } where
  buffered := h.buffered
  staged := h.staged
  region := by
    have := h.region
    simp only
    omega
  beyond := h.beyond
  expected := by
    have := h.expected
    simp only
    omega

theorem InBounds.drained (h : InBounds declared t) :
    InBounds declared { t with readAvailable := 0, readPos := 0 } where
  buffered := h.buffered
  staged := h.staged
  region := by
    have := h.region
    simp only
    omega
  beyond := h.beyond
  expected := by
    have := h.expected
    simp only
    omega

variable {length : Nat} {piece : Bytes}

theorem InBounds.arrive (h : InBounds declared t) : InBounds declared (t.arrive length piece) := by
  unfold Transport.arrive
  split
  · exact ⟨h.buffered, h.staged, h.region, h.beyond, h.expected⟩
  · exact h

/-- A piece that is taken in fills at most a chunk, whatever part of it is whose. -/
theorem InBounds.takeIn (h : InBounds declared t) (ha : t.readAvailable = 0)
    (hpos : 0 < length) (hl : length ≤ t.readRemaining) (hp : piece.length ≤ t.config.chunkSize)
    (hover : t.overruns length piece = false) :
    InBounds declared ((t.arrive length piece).takeIn length piece) := by
  have hexpected := h.expected
  have hsurplus : t.surplus = 0 := h.surplus_eq_zero (by omega)
  cases hv : t.viaScratch length with
  | false =>
    have hacc := accepted_of_direct hv hl hp
    have hlen : piece.length ≤ t.readRemaining := by
      simp only [accepted] at hacc
      omega
    rw [takeIn_of_direct hv hlen]
    refine ⟨h.buffered, h.staged, h.region, ?_, ?_⟩
    · intro hs
      exact absurd hs (by simp only; omega)
    · simp only
      omega
  | true =>
    have htaken : t.taken length piece ≤ t.accepted piece := Nat.min_le_left _ _
    have haccepted : t.accepted piece ≤ piece.length := Nat.min_le_left _ _
    rw [takeIn_of_scratch hv hsurplus]
    refine ⟨h.buffered, h.staged, ?_, ?_, ?_⟩
    · simp only
      omega
    · -- Only a piece that is too long leaves a surplus, and that one was not refused.
      intro hs
      have hlong : t.readRemaining < piece.length := by
        simp only [accepted] at hs
        omega
      refine ⟨by simp only [accepted]; omega, ?_⟩
      have hkeeps : ¬t.intake.Refuses t.config piece := by
        rw [← overruns_iff hl hp, hover]
        exact Bool.false_ne_true
      cases hpolicy : t.config.overrun with
      | reject => exact absurd ⟨hlong, hpolicy⟩ hkeeps
      | retain => rfl
    · simp only [accepted] at htaken ⊢
      omega

variable [Backend β]

theorem InBounds.receive (h : InBounds declared t) : InBounds declared (receive t).state :=
  ⟨h.buffered, h.staged, h.region, h.beyond, h.expected⟩

theorem InBounds.admitted (h : InBounds declared t) (ha : t.readAvailable = 0)
    (hpos : 0 < length) (hl : length ≤ t.readRemaining)
    (hr : (Transport.receive t).result = .ok piece) (hover : t.overruns length piece = false) :
    InBounds declared (t.admitted length piece) :=
  have hp : piece.length ≤ t.config.chunkSize := length_receive_le hr
  h.receive.takeIn ha hpos hl hp hover

/-- What a call can still want once it has taken a piece is due, and nothing lies ready for it. -/
theorem InBounds.readAvailable_admitted (h : InBounds declared t) (ha : t.readAvailable = 0)
    (hpos : 0 < length) (hl : length ≤ t.readRemaining)
    (hr : (Transport.receive t).result = .ok piece) (hmore : 0 < length - t.taken length piece) :
    (t.admitted length piece).readAvailable = 0 :=
  Transport.readAvailable_admitted ha (h.surplus_eq_zero (by omega)) hl (length_receive_le hr) hmore

/-- **The rounds of a read keep the cursors in bounds**, whatever it ends with. -/
theorem InBounds.readLoop (length : Nat) (hl : length ≤ t.readRemaining) (h : InBounds declared t)
    (ha : 0 < length → t.readAvailable = 0) :
    InBounds declared (readLoop length t hl).outcome.state := by
  refine readLoop_induction (motive := fun length t delivery => InBounds declared t →
    (0 < length → t.readAvailable = 0) → InBounds declared delivery.outcome.state)
    ?done ?failed ?refused ?round length t hl h ha
  case done => exact fun t h _ => h
  case failed => exact fun length t e _ _ _ h _ => h.receive
  case refused => exact fun length t piece _ _ _ _ h _ => h.receive.arrive
  case round =>
    intro length t piece rest hpos hl hr hover ih h ha
    exact ih (h.admitted (ha hpos) hpos hl hr hover)
      (h.readAvailable_admitted (ha hpos) hpos hl hr)

theorem InBounds.read (length : Nat) (h : InBounds declared t) :
    InBounds declared (read length t).state := by
  suffices hinto : InBounds declared (t.readInto length).outcome.state from hinto
  unfold readInto
  split
  · exact h
  · split
    · exact h
    · split
      · next hready => exact h.drain hready
      · split
        · exact h.drained.readLoop _ _ (fun _ => rfl)
        · exact h.readLoop _ _ (fun _ => by omega)

/-! ### Writing -/

theorem InBounds.write (data : Bytes) (h : InBounds declared t) :
    InBounds declared (write data t).state := by
  have hbuffered := h.buffered
  obtain ⟨-, hw⟩ | ⟨-, -, hw⟩ | ⟨hlt, hfit, hw⟩ | ⟨-, hsends⟩ := write_cases data t
  · rwa [hw]
  · rwa [hw]
  · rw [hw]
    refine ⟨?_, ?_, h.region, h.beyond, h.expected⟩
    · simp only [stage]
      omega
    · intro _
      simp only [stage]
      omega
  · rw [hsends.state]
    exact ⟨Nat.zero_le _, fun hb => absurd hb (Nat.lt_irrefl 0), h.region, h.beyond, h.expected⟩

/-! ### Runs -/

/-- **A call keeps the cursors in bounds**, whether it succeeds or not. -/
theorem inBounds_perform (call : Call) (h : InBounds declared t) :
    InBounds (call.declares (call.perform t) declared) (call.perform t).state := by
  cases call with
  | startWrite length =>
    rw [Call.perform_startWrite, startWrite]
    split
    · exact h
    · exact h.resetWrite length
  | startRead length =>
    rw [Call.perform_startRead, startRead]
    split
    · exact h
    · exact h.abandonWrite.resetRead length
  | startWriteRead writeLength readLength =>
    rw [Call.perform_startWriteRead, startWriteRead]
    split
    · exact h
    · exact (h.resetWrite writeLength).resetRead readLength
  | write data =>
    rw [Call.perform_write]
    exact h.write data
  | read length =>
    rw [Call.perform_read]
    exact h.read length

/-- The length of the last read operation that was started, after a run. -/
def declaredRead : List Call → Transport β → Nat → Nat
  | [], _, declared => declared
  | call :: later, t, declared =>
    declaredRead later (call.perform t).state (call.declares (call.perform t) declared)

theorem inBounds_after (calls : List Call) (h : InBounds declared t) :
    InBounds (declaredRead calls t declared) (t.after calls) := by
  induction calls generalizing t declared with
  | nil => exact h
  | cons call later ih => exact ih (inBounds_perform call h)

end Transport

end ProbeLink
