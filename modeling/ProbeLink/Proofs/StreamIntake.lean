import ProbeLink.Backend.Stream
import ProbeLink.Proofs.Intake

/-!
# ProbeLink.Proofs.StreamIntake

**Gathering from a stream** on which everything has already arrived. A stream has no boundaries of
its own: each receive takes a whole chunk, and only the last one takes less. So it is the chunks
that decide whether a receive takes bytes from beyond the operation, and the policy whether that is
an error (`Fits`).

If the operation fits, its bytes are the next ones of the stream, and what was taken too many lies
beyond it (`gather_of_fits`). If not, it fails at the chunk that crosses its end
(`gather_of_not_fits`).
-/

namespace ProbeLink

namespace Backend.Stream

/-- A receive takes what has arrived, up to its room. -/
theorem receiveLoop_queued {stream : Stream} {capacity tries : Nat} (hline : stream.line = .up)
    (hc : 0 < capacity) (ht : 0 < tries) (hq : stream.incoming ≠ []) :
    receiveLoop capacity tries stream =
      ⟨.ok (stream.incoming.take capacity),
        { stream with incoming := stream.incoming.drop capacity },
        [.received capacity (.moved (stream.incoming.take capacity))]⟩ := by
  obtain ⟨tries, rfl⟩ : ∃ n, tries = n + 1 := ⟨tries - 1, by omega⟩
  obtain ⟨byte, rest, hqueue⟩ := List.exists_cons_of_ne_nil hq
  obtain ⟨capacity, rfl⟩ : ∃ n, capacity = n + 1 := ⟨capacity - 1, by omega⟩
  have honce : receiveOnce stream (capacity + 1) =
      (.moved (byte :: rest.take capacity), { stream with incoming := rest.drop capacity }) := by
    simp only [receiveOnce, hline, hqueue]
    rfl
  rw [receiveLoop, honce, hqueue]
  simp [Attempt.progress, receiveEvents, List.take_take]

end Backend.Stream

namespace Intake

open Backend (Stream)

variable {config : ValidConfig} {s : Intake Stream}

/-- Can the bytes that are due be received without taking others, or is taking others allowed? -/
def Fits (config : ValidConfig) (due queued : Nat) : Prop :=
  config.overrun = .retain ∨ queued = due ∨ config.chunkSize ∣ due

instance (config : ValidConfig) (due queued : Nat) : Decidable (Fits config due queued) :=
  inferInstanceAs (Decidable (_ ∨ _ ∨ _))

/-- The bytes of the next chunk. -/
def chunk (config : ValidConfig) (s : Intake Stream) : Bytes :=
  s.backend.incoming.take config.chunkSize

/-- The read side after the next chunk was taken in. -/
def chunked (config : ValidConfig) (s : Intake Stream) : Intake Stream :=
  (s.advance config).absorb (s.chunk config)

theorem length_chunk (config : ValidConfig) (s : Intake Stream) :
    (s.chunk config).length = min config.chunkSize s.backend.incoming.length :=
  List.length_take

/-- The next chunk comes first. -/
theorem take_incoming (config : ValidConfig) (s : Intake Stream) (n : Nat) :
    s.backend.incoming.take n = (s.chunk config).take n ++
      (s.backend.incoming.drop config.chunkSize).take (n - (s.chunk config).length) := by
  rw [← List.take_append, chunk, List.take_append_drop]

theorem drop_incoming (config : ValidConfig) (s : Intake Stream) (n : Nat) :
    s.backend.incoming.drop n = (s.chunk config).drop n ++
      (s.backend.incoming.drop config.chunkSize).drop (n - (s.chunk config).length) := by
  rw [← List.drop_append, chunk, List.take_append_drop]

/-- A stream that holds all that is due, and something is. -/
structure Supplied (s : Intake Stream) : Prop where
  line : s.backend.line = .up
  pos : 0 < s.due
  enough : s.due ≤ s.backend.incoming.length

namespace Supplied

theorem ne_nil (h : Supplied s) : s.backend.incoming ≠ [] :=
  List.length_pos_iff.1 (Nat.lt_of_lt_of_le h.pos h.enough)

/-- The next receive takes the next chunk. -/
theorem receive_eq (config : ValidConfig) (h : Supplied s) :
    s.receive config =
      ⟨.ok (s.chunk config),
        { s.backend with incoming := s.backend.incoming.drop config.chunkSize },
        [.received config.chunkSize (.moved (s.chunk config))]⟩ :=
  Backend.Stream.receiveLoop_queued h.line config.valid.chunkSize_pos
    config.valid.maxTimeouts_pos h.ne_nil

theorem receive_result (config : ValidConfig) (h : Supplied s) :
    (s.receive config).result = .ok (s.chunk config) := by
  rw [h.receive_eq]

theorem chunked_eq (config : ValidConfig) (h : Supplied s) :
    s.chunked config =
      { backend := { s.backend with incoming := s.backend.incoming.drop config.chunkSize }
        due := s.due - (s.chunk config).length
        ready := s.ready ++ (s.chunk config).take s.due
        spare := (s.chunk config).drop s.due } := by
  rw [chunked, advance, h.receive_eq]
  rfl

theorem line_chunked (config : ValidConfig) (h : Supplied s) :
    (s.chunked config).backend.line = .up := by
  rw [h.chunked_eq]
  exact h.line

variable (hle : (s.chunk config).length ≤ s.due)
include hle

/-- A chunk that belongs to the operation leaves less of it. -/
theorem due_chunked_lt (h : Supplied s) : (s.chunked config).due < s.due := by
  have hchunk := config.valid.chunkSize_pos
  have hlength := length_chunk config s
  have hpos := h.pos
  have henough := h.enough
  rw [h.chunked_eq]
  simp only
  omega

theorem enough_chunked (h : Supplied s) :
    (s.chunked config).due ≤ (s.chunked config).backend.incoming.length := by
  have hlength := length_chunk config s
  have henough := h.enough
  rw [h.chunked_eq]
  simp only [List.length_drop]
  omega

theorem need_chunked (h : Supplied s) :
    (s.chunked config).ready.length + (s.chunked config).due = s.ready.length + s.due := by
  rw [h.chunked_eq]
  simp only [List.length_append, List.length_take]
  omega

/-- What remains of both fits as before. -/
theorem fits_chunked (h : Supplied s) :
    Fits config (s.chunked config).due (s.chunked config).backend.incoming.length ↔
      Fits config s.due s.backend.incoming.length := by
  have hlength := length_chunk config s
  have henough := h.enough
  rw [h.chunked_eq]
  simp only [Fits, List.length_drop]
  by_cases hwhole : config.chunkSize ≤ s.backend.incoming.length
  · rw [hlength, Nat.min_eq_left hwhole] at hle ⊢
    have hqueued : s.backend.incoming.length - config.chunkSize = s.due - config.chunkSize ↔
        s.backend.incoming.length = s.due := by omega
    have hdvd : config.chunkSize ∣ s.due - config.chunkSize ↔ config.chunkSize ∣ s.due :=
      Nat.dvd_sub_iff_left hle (Nat.dvd_refl _)
    rw [hqueued, hdvd]
  · -- The last chunk takes all there is, and that is all that is due.
    exact iff_of_true (.inr (.inl (by omega))) (.inr (.inl (by omega)))

end Supplied

/-! ### A whole operation -/

/-- What a completely gathered operation has drawn from the stream. -/
structure Drawn (s : Intake Stream) (outcome : Outcome (Intake Stream) Unit) : Prop where
  result : outcome.result = .ok ()
  due : outcome.state.due = 0
  ready : outcome.state.ready = s.ready ++ s.backend.incoming.take s.due
  rest : outcome.state.spare ++ outcome.state.backend.incoming = s.backend.incoming.drop s.due
  line : outcome.state.backend.line = .up

/-- Whatever is drawn after a chunk that belongs to the operation follows that chunk. -/
theorem Drawn.chunk_first {outcome : Outcome (Intake Stream) Unit} (hs : Supplied s)
    (hle : (s.chunk config).length ≤ s.due) (h : Drawn (s.chunked config) outcome)
    (events : List Event) : Drawn s (outcome.after events) := by
  have hready := h.ready
  have hrest := h.rest
  rw [hs.chunked_eq] at hready hrest
  refine ⟨h.result, h.due, ?_, ?_, h.line⟩
  · rw [Outcome.state_after, hready, List.append_assoc, take_incoming config s s.due]
  · rw [Outcome.state_after, hrest, drop_incoming config s s.due, List.drop_eq_nil_of_le hle,
      List.nil_append]

/-- A chunk that crosses the end of the operation completes it. -/
theorem drawn_chunked (hs : Supplied s) (hlt : s.due < (s.chunk config).length)
    (events : List Event) : Drawn s ⟨.ok (), s.chunked config, events⟩ := by
  refine ⟨rfl, ?_, ?_, ?_, hs.line_chunked config⟩
  · rw [hs.chunked_eq]
    simp only
    omega
  · rw [take_incoming config s s.due, Nat.sub_eq_zero_of_le (by omega), List.take_zero,
      List.append_nil, hs.chunked_eq]
  · rw [drop_incoming config s s.due, Nat.sub_eq_zero_of_le (by omega), List.drop_zero,
      hs.chunked_eq]

/-- **An operation that fits gets the next bytes of the stream**, and what was taken too many lies
beyond it. -/
theorem gather_of_fits (hline : s.backend.line = .up)
    (hdue : s.due ≤ s.backend.incoming.length) (hspare : s.spare = [])
    (hfits : Fits config s.due s.backend.incoming.length) :
    Drawn s (gather config (s.ready.length + s.due) s) := by
  -- By induction on what is due. Each chunk leaves an operation that fits as well as before, on a
  -- stream that holds all of it.
  generalize hn : s.due = n
  induction n using Nat.strongRecOn generalizing s with
  | ind n ih =>
    subst hn
    by_cases hzero : s.due = 0
    · rw [gather_of_due_eq_zero hzero]
      exact ⟨rfl, hzero, by simp [hzero], by simp [hzero, hspare], hline⟩
    · have hs : Supplied s := ⟨hline, Nat.pos_of_ne_zero hzero, hdue⟩
      have hneed : s.ready.length < s.ready.length + s.due := Nat.lt_add_of_pos_right hs.pos
      by_cases hle : (s.chunk config).length ≤ s.due
      · have href : ¬s.Refuses config (s.chunk config) := fun h => Nat.not_lt_of_le hle h.1
        have hspare' : (s.chunked config).spare = [] := by
          rw [hs.chunked_eq]
          exact List.drop_eq_nil_of_le hle
        have hnext := ih _ (hs.due_chunked_lt hle) (hs.line_chunked config)
          (hs.enough_chunked hle) hspare' ((hs.fits_chunked hle).2 hfits) rfl
        rw [hs.need_chunked hle] at hnext
        rw [gather_of_ok hneed hs.pos (hs.receive_result config) href]
        exact hnext.chunk_first hs hle _
      · -- The chunk crosses the end of the operation, so it can only be here if that is allowed.
        have hlt : s.due < (s.chunk config).length := Nat.lt_of_not_le hle
        have hretain : config.overrun = .retain := by
          have hlength := length_chunk config s
          rcases hfits with hretain | hall | hdvd
          · exact hretain
          · omega
          · have := Nat.le_of_dvd hs.pos hdvd
            omega
        have href : ¬s.Refuses config (s.chunk config) := by
          rintro ⟨-, hreject⟩
          rw [hretain] at hreject
          cases hreject
        have hdone : (s.chunked config).due = 0 := by
          rw [hs.chunked_eq]
          simp only
          omega
        have hstop : gather config (s.ready.length + s.due) (s.chunked config) =
            ⟨.ok (), s.chunked config, []⟩ := gather_of_due_eq_zero hdone
        rw [gather_of_ok hneed hs.pos (hs.receive_result config) href]
        show Drawn s ((gather config (s.ready.length + s.due) (s.chunked config)).after _)
        rw [hstop]
        exact drawn_chunked hs hlt _

/-- **One that does not fit fails** at the chunk that crosses its end. -/
theorem gather_of_not_fits (hline : s.backend.line = .up)
    (hdue : s.due ≤ s.backend.incoming.length)
    (hfits : ¬Fits config s.due s.backend.incoming.length) :
    (gather config (s.ready.length + s.due) s).result =
      .error (.protocol (.overrun (s.due % config.chunkSize)
        (min config.chunkSize
          (s.backend.incoming.length - s.due + s.due % config.chunkSize)))) := by
  generalize hn : s.due = n
  induction n using Nat.strongRecOn generalizing s with
  | ind n ih =>
    subst hn
    obtain ⟨hpolicy, hmore, hcross⟩ : config.overrun ≠ .retain ∧
        s.backend.incoming.length ≠ s.due ∧ ¬config.chunkSize ∣ s.due := by
      simpa only [Fits, not_or] using hfits
    have hpos : 0 < s.due := by
      refine Nat.pos_of_ne_zero fun hzero => hcross ?_
      rw [hzero]
      exact Nat.dvd_zero _
    have hs : Supplied s := ⟨hline, hpos, hdue⟩
    have hneed : s.ready.length < s.ready.length + s.due := Nat.lt_add_of_pos_right hpos
    have hlength := length_chunk config s
    by_cases hle : (s.chunk config).length ≤ s.due
    · -- More is queued than is due, so this chunk is a whole one.
      have hwhole : (s.chunk config).length = config.chunkSize := by omega
      have href : ¬s.Refuses config (s.chunk config) := fun h => Nat.not_lt_of_le hle h.1
      have hmod : (s.chunked config).due % config.chunkSize = s.due % config.chunkSize := by
        rw [hs.chunked_eq, hwhole]
        exact (Nat.mod_eq_sub_mod (by omega)).symm
      have hbeyond : (s.chunked config).backend.incoming.length - (s.chunked config).due =
          s.backend.incoming.length - s.due := by
        rw [hs.chunked_eq]
        simp only [List.length_drop]
        omega
      have hnext := ih _ (hs.due_chunked_lt hle) (hs.line_chunked config) (hs.enough_chunked hle)
        (fun h => hfits ((hs.fits_chunked hle).1 h)) rfl
      rw [hmod, hbeyond, hs.need_chunked hle] at hnext
      rw [gather_of_ok hneed hpos (hs.receive_result config) href]
      exact hnext
    · have hreject : config.overrun = .reject := by
        cases h : config.overrun with
        | reject => rfl
        | retain => exact absurd h hpolicy
      have href : s.Refuses config (s.chunk config) := ⟨Nat.lt_of_not_le hle, hreject⟩
      have hmod : s.due % config.chunkSize = s.due := Nat.mod_eq_of_lt (by omega)
      rw [gather_of_refuses hneed hpos (hs.receive_result config) href, hmod,
        Nat.sub_add_cancel hdue, hlength]

end Intake

end ProbeLink
