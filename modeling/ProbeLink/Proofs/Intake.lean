import ProbeLink.Proofs.Traffic
import ProbeLink.Transport.Basic

/-!
# ProbeLink.Proofs.Intake

The **read side without its memory**. What a read operation does to the bytes of a device does not
depend on where the transport keeps them. An `Intake` has only the bytes: those that lie ready for
the next call, those beyond the operation, and how many are still due.

Its one action is `gather`, which receives piece after piece until enough bytes lie ready. Whatever
a caller asks for in one call or in several is a matter of how far to gather:

* gathering on from a shorter wish is gathering for the longer one (`gather_bind_gather`);
* bytes that are handed out in between do not matter (`gather_handOut`);
* no byte is lost, doubled or moved on the way (`gather_bytes`).
-/

namespace ProbeLink

/-- The call failed because the device sent more than the operation expects. -/
def Overran {α : Type} (result : Except Error α) : Prop :=
  ∃ expected received, result = .error (.protocol (.overrun expected received))

/-- Such a failure is not a matter of the value. -/
theorem overran_map {α γ : Type} (f : α → γ) (result : Except Error α) :
    Overran (result.map f) ↔ Overran result := by
  cases result with
  | error e => simp only [Overran, Except.map, Except.error.injEq]
  | ok value => simp only [Overran, Except.map, reduceCtorEq]

/-- The read side of a transport, as bytes. -/
@[ext] structure Intake (β : Type) where
  backend : β
  /-- How many bytes of the operation the device still has to deliver. -/
  due : Nat
  /-- Delivered bytes of the operation that no call has taken yet. -/
  ready : Bytes
  /-- Delivered bytes beyond the operation. -/
  spare : Bytes

namespace Intake

variable {β : Type}

/-- Takes a piece in: its first bytes belong to the operation, the rest is beyond it. -/
def absorb (piece : Bytes) (s : Intake β) : Intake β :=
  { s with
    due := s.due - piece.length
    ready := s.ready ++ piece.take s.due
    spare := piece.drop s.due }

/-- Hands the first ready bytes out. -/
def handOut (length : Nat) (s : Intake β) : Intake β :=
  { s with ready := s.ready.drop length }

/-- The same read side with bytes lying ready before its own. -/
def prepend (before : Bytes) (s : Intake β) : Intake β :=
  { s with ready := before ++ s.ready }

@[simp] theorem prepend_nil (s : Intake β) : s.prepend [] = s := rfl

/-- Bytes beyond an operation can only be there once the operation is complete. -/
def Tidy (s : Intake β) : Prop := s.spare ≠ [] → s.due = 0

theorem Tidy.spare_eq_nil {s : Intake β} (h : s.Tidy) (hdue : 0 < s.due) : s.spare = [] := by
  by_cases hs : s.spare = []
  · exact hs
  · have := h hs
    omega

theorem tidy_absorb (piece : Bytes) (s : Intake β) : (s.absorb piece).Tidy := by
  intro h
  simp only [absorb, ne_eq, List.drop_eq_nil_iff, Nat.not_le] at h ⊢
  omega

/-- Is a piece too long for what is due, and must not be? -/
def Refuses (config : ValidConfig) (s : Intake β) (piece : Bytes) : Prop :=
  s.due < piece.length ∧ config.overrun = .reject

instance (config : ValidConfig) (s : Intake β) (piece : Bytes) :
    Decidable (s.Refuses config piece) :=
  inferInstanceAs (Decidable (_ ∧ _))

/-- What was handed out before a piece is taken in is handed out just as well after it. -/
theorem absorb_handOut {length : Nat} {s : Intake β} (piece : Bytes)
    (h : length ≤ s.ready.length) :
    (s.handOut length).absorb piece = (s.absorb piece).handOut length := by
  simp only [absorb, handOut]
  rw [List.drop_append_of_le_length h]

variable [Backend β]

/-- The next piece. -/
def receive (config : ValidConfig) (s : Intake β) : Outcome β Bytes :=
  Backend.receiveSome config.chunkSize config.maxTimeouts s.backend

/-- The state after the next piece has arrived, before it is taken in. -/
def advance (config : ValidConfig) (s : Intake β) : Intake β :=
  { s with backend := (s.receive config).state }

/-- The events of a piece that arrives. -/
def arrival (config : ValidConfig) (piece : Bytes) (s : Intake β) : List Event :=
  (s.receive config).events ++
    Transport.noteIf (s.due < piece.length) (.overrun s.due piece.length)

theorem length_receive_pos {config : ValidConfig} {s : Intake β} {piece : Bytes}
    (h : (s.receive config).result = .ok piece) : 0 < piece.length :=
  Backend.length_receiveLoop_pos config.valid.chunkSize_pos h

/-- Receives until `need` bytes lie ready, or the operation is complete. -/
def gather (config : ValidConfig) (need : Nat) (s : Intake β) : Outcome (Intake β) Unit :=
  if hs : need ≤ s.ready.length ∨ s.due = 0 then ⟨.ok (), s, []⟩
  else
    match hr : (s.receive config).result with
    | .error e => ⟨.error e, s.advance config, (s.receive config).events⟩
    | .ok piece =>
      if s.Refuses config piece then
        ⟨.error (.protocol (.overrun s.due piece.length)), s.advance config,
          s.arrival config piece⟩
      else
        have : ((s.advance config).absorb piece).due < s.due := by
          have := length_receive_pos hr
          simp only [absorb, advance]
          omega
        (gather config need ((s.advance config).absorb piece)).after (s.arrival config piece)
termination_by s.due
decreasing_by assumption

/-! ### One step -/

variable {config : ValidConfig} {need : Nat} {s : Intake β}

/-- Nothing is received as long as enough bytes lie ready. -/
theorem gather_of_le (h : need ≤ s.ready.length) : gather config need s = ⟨.ok (), s, []⟩ := by
  rw [gather, dif_pos (.inl h)]

theorem gather_of_due_eq_zero (h : s.due = 0) : gather config need s = ⟨.ok (), s, []⟩ := by
  rw [gather, dif_pos (.inr h)]

/-- All that gathering does with bytes still to come: it receives the next piece, and stops or goes
on. -/
theorem gather_step (hneed : s.ready.length < need) (hdue : 0 < s.due) :
    gather config need s =
      match (s.receive config).result with
      | .error e => ⟨.error e, s.advance config, (s.receive config).events⟩
      | .ok piece =>
        if s.Refuses config piece then
          ⟨.error (.protocol (.overrun s.due piece.length)), s.advance config,
            s.arrival config piece⟩
        else
          (gather config need ((s.advance config).absorb piece)).after
            (s.arrival config piece) := by
  rw [gather, dif_neg (by omega)]
  split
  · next e h => rw [h]
  · next piece h => simp only [h]

theorem gather_of_error {e : Error} (hneed : s.ready.length < need) (hdue : 0 < s.due)
    (h : (s.receive config).result = .error e) :
    gather config need s = ⟨.error e, s.advance config, (s.receive config).events⟩ := by
  rw [gather_step hneed hdue, h]

theorem gather_of_refuses {piece : Bytes} (hneed : s.ready.length < need) (hdue : 0 < s.due)
    (h : (s.receive config).result = .ok piece) (href : s.Refuses config piece) :
    gather config need s = ⟨.error (.protocol (.overrun s.due piece.length)), s.advance config,
      s.arrival config piece⟩ := by
  rw [gather_step hneed hdue, h]
  exact if_pos href

theorem gather_of_ok {piece : Bytes} (hneed : s.ready.length < need) (hdue : 0 < s.due)
    (h : (s.receive config).result = .ok piece) (href : ¬s.Refuses config piece) :
    gather config need s =
      (gather config need ((s.advance config).absorb piece)).after (s.arrival config piece) := by
  rw [gather_step hneed hdue, h]
  exact if_neg href

/-- A received piece moves exactly its bytes, and nothing is sent on the way. -/
theorem receive_events (s : Intake β) :
    NoSend (s.receive config).events ∧ RoomIs config.chunkSize (s.receive config).events ∧
      receivedBytes (s.receive config).events =
        match (s.receive config).result with
        | .ok piece => piece
        | .error _ => [] :=
  Backend.receiveLoop_events _ _ _

theorem noSend_arrival (piece : Bytes) (s : Intake β) : NoSend (s.arrival config piece) := by
  refine noSend_append.2 ⟨(receive_events s).1, ?_⟩
  unfold Transport.noteIf
  split <;> simp [NoSend, Event.isSend]

theorem roomIs_arrival (piece : Bytes) (s : Intake β) :
    RoomIs config.chunkSize (s.arrival config piece) := by
  refine roomIs_append.2 ⟨(receive_events s).2.1, ?_⟩
  unfold Transport.noteIf
  split <;> simp [RoomIs]

theorem receivedBytes_arrival {piece : Bytes} (h : (s.receive config).result = .ok piece) :
    receivedBytes (s.arrival config piece) = piece := by
  have hnote : receivedBytes (Transport.noteIf (s.due < piece.length)
      (.overrun s.due piece.length)) = [] := by
    unfold Transport.noteIf
    split <;> rfl
  rw [arrival, receivedBytes_append, hnote, List.append_nil, (receive_events s).2.2, h]

/-- The transfers of a piece that arrives are those that brought it. -/
theorem transfers_arrival (piece : Bytes) (s : Intake β) :
    transfers (s.arrival config piece) = transfers (s.receive config).events := by
  have hnote : transfers (Transport.noteIf (s.due < piece.length)
      (.overrun s.due piece.length)) = [] := by
    unfold Transport.noteIf
    split <;> rfl
  rw [arrival, transfers_append, hnote, List.append_nil]

/-! ### Gathering -/

/-- Gathering on is gathering from the start. -/
theorem gather_bind_gather (config : ValidConfig) {more : Nat} (h : need ≤ more) (s : Intake β) :
    Run.bind (gather config need) (fun _ => gather config more) s = gather config more s := by
  unfold Run.bind
  fun_induction gather config need s with
  | case1 s hs => simp [Outcome.after]
  | case2 s hs e hr => rw [gather_of_error (by omega) (by omega) hr]
  | case3 s hs piece hr href => rw [gather_of_refuses (by omega) (by omega) hr href]
  | case4 s hs piece hr href hlt ih =>
    -- Both receive this piece first, and only then do they differ.
    rw [gather_of_ok (by omega) (by omega) hr href, ← ih]
    rcases gather config need ((s.advance config).absorb piece) with ⟨e | u, s', events'⟩
    · rfl
    · simp [Outcome.after]

/-- Bytes that were handed out before make no difference to what is gathered. -/
theorem gather_handOut {length : Nat} (h : length ≤ s.ready.length) :
    gather config need (s.handOut length) =
      (gather config (length + need) s).inState (handOut length) := by
  -- Handing out shortens what lies ready and what is still wanted by the same number, so both sides
  -- stop at the same piece.
  have hready : ∀ s : Intake β, (s.handOut length).ready.length = s.ready.length - length :=
    fun s => by simp [handOut]
  have hdue : ∀ s : Intake β, (s.handOut length).due = s.due := fun _ => rfl
  fun_induction gather config (length + need) s with
  | case1 s hs =>
    rcases hs with hs | hs
    · rw [gather_of_le (by rw [hready]; omega)]
      rfl
    · rw [gather_of_due_eq_zero ((hdue s).trans hs)]
      rfl
  | case2 s hs e hr =>
    have hneed : (s.handOut length).ready.length < need := by rw [hready]; omega
    rw [gather_of_error hneed (by rw [hdue]; omega) hr]
    rfl
  | case3 s hs piece hr href =>
    have hneed : (s.handOut length).ready.length < need := by rw [hready]; omega
    rw [gather_of_refuses hneed (by rw [hdue]; omega) hr href]
    rfl
  | case4 s hs piece hr href hlt ih =>
    have hneed : (s.handOut length).ready.length < need := by rw [hready]; omega
    have hle : length ≤ ((s.advance config).absorb piece).ready.length := by
      simp only [absorb, advance, List.length_append]
      omega
    have hstep : ((s.handOut length).advance config).absorb piece =
        ((s.advance config).absorb piece).handOut length :=
      absorb_handOut (s := s.advance config) piece h
    rw [gather_of_ok hneed (by rw [hdue]; omega) hr href, hstep, ih hle]
    rfl

/-- **No byte is lost, doubled or moved**: what lay there before and what was received is what lies
there after, unless a piece was refused. -/
theorem gather_bytes (config : ValidConfig) (need : Nat) (hs : s.Tidy)
    (hnot : ¬Overran (gather config need s).result) :
    s.ready ++ s.spare ++ receivedBytes (gather config need s).events =
      (gather config need s).state.ready ++ (gather config need s).state.spare := by
  fun_induction gather config need s with
  | case1 s h => exact List.append_nil _
  | case2 s h e hr =>
    rw [(receive_events s).2.2, hr]
    exact List.append_nil _
  | case3 s h piece hr href => exact absurd ⟨s.due, piece.length, rfl⟩ hnot
  | case4 s h piece hr href hlt ih =>
    -- A piece replaces what lies beyond the operation, so it matters that nothing does.
    have hspare : s.spare = [] := hs.spare_eq_nil (by omega)
    have hsplit : s.ready ++ piece = ((s.advance config).absorb piece).ready ++
        ((s.advance config).absorb piece).spare := by
      simp [absorb, advance]
    calc s.ready ++ s.spare ++ receivedBytes (s.arrival config piece ++ _)
      _ = s.ready ++ piece ++ receivedBytes
            (gather config need ((s.advance config).absorb piece)).events := by
          rw [receivedBytes_append, receivedBytes_arrival hr, hspare, List.append_nil,
            List.append_assoc]
      _ = _ := by rw [hsplit, ih (tidy_absorb _ _) hnot]; rfl

theorem tidy_gather (hs : s.Tidy) : (gather config need s).state.Tidy := by
  fun_induction gather config need s with
  | case1 s h => exact hs
  | case2 s h e hr => exact hs
  | case3 s h piece hr href => exact hs
  | case4 s h piece hr href hlt ih => exact ih (tidy_absorb _ _)

/-- What lies ready stays in front. -/
theorem ready_isPrefix_gather (config : ValidConfig) (need : Nat) (s : Intake β) :
    s.ready <+: (gather config need s).state.ready := by
  fun_induction gather config need s with
  | case1 s h => exact List.prefix_rfl
  | case2 s h e hr => exact List.prefix_rfl
  | case3 s h piece hr href => exact List.prefix_rfl
  | case4 s h piece hr href hlt ih => exact (List.prefix_append _ _).trans ih

/-- What lies ready and what is due make up the rest of the operation. -/
theorem length_ready_add_due (config : ValidConfig) (need : Nat) (s : Intake β) :
    (gather config need s).state.ready.length + (gather config need s).state.due =
      s.ready.length + s.due := by
  fun_induction gather config need s with
  | case1 s h => rfl
  | case2 s h e hr => rfl
  | case3 s h piece hr href => rfl
  | case4 s h piece hr href hlt ih =>
    rw [Outcome.state_after, ih]
    simp only [absorb, advance, List.length_append, List.length_take]
    omega

/-- Gathering stops without enough bytes only if it fails. -/
theorem gather_enough (h : need ≤ s.ready.length + s.due) :
    (gather config need s).result = .ok () ↔ need ≤ (gather config need s).state.ready.length := by
  fun_induction gather config need s with
  | case1 s hs =>
    have hready : need ≤ s.ready.length := by omega
    exact iff_of_true rfl hready
  | case2 s hs e hr =>
    have hready : ¬need ≤ s.ready.length := by omega
    exact iff_of_false (fun h => by cases h) hready
  | case3 s hs piece hr href =>
    have hready : ¬need ≤ s.ready.length := by omega
    exact iff_of_false (fun h => by cases h) hready
  | case4 s hs piece hr href hlt ih =>
    refine ih ?_
    simp only [absorb, advance, List.length_append, List.length_take]
    omega

theorem noSend_gather (s : Intake β) : NoSend (gather config need s).events := by
  fun_induction gather config need s with
  | case1 s h => exact noSend_nil
  | case2 s h e hr => exact (receive_events s).1
  | case3 s h piece hr href => exact noSend_arrival piece s
  | case4 s h piece hr href hlt ih => exact noSend_append.2 ⟨noSend_arrival piece s, ih⟩

/-- As long as bytes are missing that are still due, gathering receives. -/
theorem gather_receives (hneed : s.ready.length < need) (hdue : 0 < s.due) :
    ¬NoReceive (gather config need s).events := by
  have hreceive : ¬NoReceive (s.receive config).events :=
    Backend.receiveLoop_receives config.valid.maxTimeouts_pos
  cases hr : (s.receive config).result with
  | error e => rwa [gather_of_error hneed hdue hr]
  | ok piece =>
    by_cases href : s.Refuses config piece
    · rw [gather_of_refuses hneed hdue hr href]
      exact fun hnone => hreceive (noReceive_append.1 hnone).1
    · rw [gather_of_ok hneed hdue hr href]
      exact fun hnone => hreceive (noReceive_append.1 (noReceive_append.1 hnone).1).1

/-- **Each transfer of gathering is there for bytes that are still missing and still due.** -/
theorem gather_pending {before after : List Event} {event : Event}
    (h : transfers (gather config need s).events = before ++ event :: after) :
    s.ready.length + (receivedBytes before).length < need ∧
      (receivedBytes before).length < s.due := by
  -- Before the first piece nothing has arrived; after it, it has been taken in.
  fun_induction gather config need s generalizing before with
  | case1 s hs => simp [transfers] at h
  | case2 s hs e hr =>
    rw [Backend.receiveLoop_before before h]
    simp only [List.length_nil]
    omega
  | case3 s hs piece hr href =>
    rw [transfers_arrival] at h
    rw [Backend.receiveLoop_before before h]
    simp only [List.length_nil]
    omega
  | case4 s hs piece hr href hlt ih =>
    rw [Outcome.events_after, transfers_append, transfers_arrival] at h
    obtain ⟨rest, hfirst⟩ | ⟨rest, rfl, hlater⟩ := place_of_append h
    · rw [Backend.receiveLoop_before before hfirst]
      simp only [List.length_nil]
      omega
    · obtain ⟨hmissing, hdue⟩ := ih hlater
      have hpiece : receivedBytes (transfers (s.receive config).events) = piece := by
        rw [receivedBytes_transfers, (receive_events s).2.2, hr]
      rw [receivedBytes_append, hpiece, List.length_append]
      simp only [absorb, advance, List.length_append, List.length_take] at hmissing hdue
      omega

theorem roomIs_gather (s : Intake β) : RoomIs config.chunkSize (gather config need s).events := by
  fun_induction gather config need s with
  | case1 s h => simp [RoomIs]
  | case2 s h e hr => exact (receive_events s).2.1
  | case3 s h piece hr href => exact roomIs_arrival piece s
  | case4 s h piece hr href hlt ih => exact roomIs_append.2 ⟨roomIs_arrival piece s, ih⟩

end Intake

end ProbeLink
