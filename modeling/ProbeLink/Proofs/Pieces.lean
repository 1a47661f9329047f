import ProbeLink.Backend.Script
import ProbeLink.Proofs.Exchange

/-!
# ProbeLink.Proofs.Pieces

**An answer that comes in pieces.** A device may cut what it sends wherever it likes, and let attempts
go by in between, as long as they are fewer than the retry budget (`Backend.Brings`).

A read operation that gathers from such a device gets the next bytes, wherever the cuts are, and what
was received beyond them is kept (`gather_of_supplies`). Only a policy that keeps nothing asks for
something of the cuts: one of them has to be where the operation ends (`CutAt`).

An exchange with a device that takes the request and answers in pieces (`Served`) sends the request,
returns the first bytes of the answer, and leaves the rest of it for later (`exchange_of_served`).
-/

namespace ProbeLink

/-! ### A device that sends pieces -/

namespace Backend

variable {β : Type} [Backend β]

/-- The next receives bring these pieces, given this much room. Before each of them fewer than `budget`
attempts in a row bring nothing; for the first of them only `left` attempts are left. -/
inductive Brings (capacity budget : Nat) : (left : Nat) → (pieces : List Bytes) → β → Prop
  /-- Nothing is promised about receives to come. -/
  | nothing (left : Nat) (backend : β) : Brings capacity budget left [] backend
  /-- An attempt goes by. -/
  | pause {left : Nat} {pieces : List Bytes} {backend : β}
      (hprogress : (receiveOnce backend capacity).1.progress = .ok [])
      (h : Brings capacity budget left pieces (receiveOnce backend capacity).2) :
    Brings capacity budget (left + 1) pieces backend
  /-- A piece arrives, and the attempts are counted anew. -/
  | piece {left : Nat} {piece : Bytes} {later : List Bytes} {backend : β}
      (hprogress : (receiveOnce backend capacity).1.progress = .ok piece) (hne : piece ≠ [])
      (hfits : piece.length ≤ capacity)
      (h : Brings capacity budget budget later (receiveOnce backend capacity).2) :
    Brings capacity budget (left + 1) (piece :: later) backend

/-- Receiving waits for the next piece. -/
theorem receiveLoop_of_brings {capacity budget left : Nat} {piece : Bytes} {later : List Bytes}
    {backend : β} (h : Brings capacity budget left (piece :: later) backend) :
    (receiveLoop capacity left backend).result = .ok piece ∧
      Brings capacity budget budget later (receiveLoop capacity left backend).state := by
  generalize hpieces : piece :: later = pieces at h
  induction h with
  | nothing left backend => cases hpieces
  | pause hprogress h ih =>
    rw [receiveLoop]
    simp only [hprogress]
    exact ih hpieces
  | piece hprogress hne hfits h ih =>
    cases hpieces
    obtain ⟨byte, rest, rfl⟩ := List.exists_cons_of_ne_nil hne
    rw [receiveLoop]
    simp only [hprogress]
    exact ⟨congrArg Except.ok (List.take_of_length_le hfits), h⟩

/-- With this tuning, receiving brings these pieces next. -/
def Supplies (config : ValidConfig) (pieces : List Bytes) (backend : β) : Prop :=
  Brings config.chunkSize config.maxTimeouts config.maxTimeouts pieces backend

end Backend

/-! ### Gathering from it -/

/-- One of the cuts between the pieces is after so many bytes. -/
def CutAt (length : Nat) (pieces : List Bytes) : Prop :=
  ∃ before after, pieces = before ++ after ∧ before.flatten.length = length

/-- The last piece ends where all of them do. -/
theorem cutAt_all (pieces : List Bytes) : CutAt pieces.flatten.length pieces :=
  ⟨pieces, [], (List.append_nil pieces).symm, rfl⟩

/-- If there is a cut further on, the first piece does not go beyond it. -/
theorem CutAt.of_cons {length : Nat} {piece : Bytes} {later : List Bytes}
    (h : CutAt length (piece :: later)) (hpos : 0 < length) :
    piece.length ≤ length ∧ CutAt (length - piece.length) later := by
  obtain ⟨before, after, hpieces, hlength⟩ := h
  cases before with
  | nil =>
    rw [← hlength] at hpos
    exact absurd hpos (Nat.lt_irrefl 0)
  | cons first before =>
    obtain ⟨rfl, hlater⟩ := List.cons.inj hpieces
    rw [List.flatten_cons, List.length_append] at hlength
    exact ⟨by omega, before, after, hlater, by omega⟩

namespace Intake

variable {β : Type} [Backend β] {config : ValidConfig} {s : Intake β} {pieces : List Bytes}

/-- The next receive brings the next piece, and the others are still to come. -/
theorem receive_of_supplies {piece : Bytes} {later : List Bytes}
    (h : Backend.Supplies config (piece :: later) s.backend) :
    (s.receive config).result = .ok piece ∧
      Backend.Supplies config later (s.advance config).backend :=
  Backend.receiveLoop_of_brings h

/-- What a completely gathered operation has taken of the pieces. -/
structure Collects (config : ValidConfig) (pieces : List Bytes) (s : Intake β)
    (outcome : Outcome (Intake β) Unit) : Prop where
  result : outcome.result = .ok ()
  due : outcome.state.due = 0
  ready : outcome.state.ready = s.ready ++ pieces.flatten.take s.due
  rest : ∃ later, Backend.Supplies config later outcome.state.backend ∧
    outcome.state.spare ++ later.flatten = pieces.flatten.drop s.due

/-- Nothing is taken for an operation that is complete. -/
theorem collects_of_due_eq_zero (hzero : s.due = 0) (hspare : s.spare = [])
    (h : Backend.Supplies config pieces s.backend) :
    Collects config pieces s ⟨.ok (), s, []⟩ := by
  refine ⟨rfl, hzero, ?_, pieces, h, ?_⟩
  · rw [hzero, List.take_zero, List.append_nil]
  · rw [hzero, List.drop_zero, hspare, List.nil_append]

section Step

variable {piece : Bytes} {later : List Bytes}

/-- A piece that belongs to the operation comes before all that is collected after it. -/
theorem Collects.piece_first {outcome : Outcome (Intake β) Unit} (hle : piece.length ≤ s.due)
    (h : Collects config later ((s.advance config).absorb piece) outcome) (events : List Event) :
    Collects config (piece :: later) s (outcome.after events) := by
  obtain ⟨last, hsupplies, hrest⟩ := h.rest
  refine ⟨h.result, h.due, ?_, last, hsupplies, ?_⟩
  · rw [Outcome.state_after, h.ready, List.flatten_cons, List.take_append]
    simp only [absorb, advance, List.append_assoc]
  · rw [Outcome.state_after, hrest, List.flatten_cons, List.drop_append,
      List.drop_eq_nil_of_le hle, List.nil_append]
    rfl

/-- A piece that goes beyond the operation completes it, and the rest of it is kept. -/
theorem collects_of_crossing (hlt : s.due < piece.length)
    (h : Backend.Supplies config later (s.advance config).backend) (events : List Event) :
    Collects config (piece :: later) s
      ⟨.ok (), (s.advance config).absorb piece, events⟩ := by
  have hle : s.due ≤ piece.length := Nat.le_of_lt hlt
  refine ⟨rfl, ?_, ?_, later, h, ?_⟩
  · simp only [absorb, advance]
    omega
  · rw [List.flatten_cons, List.take_append_of_le_length hle]
    rfl
  · rw [List.flatten_cons, List.drop_append_of_le_length hle]
    rfl

end Step

/-- **Gathering collects the next bytes, wherever the cuts are**, unless the policy keeps nothing: then
one cut has to be where the operation ends. -/
theorem gather_of_supplies (h : Backend.Supplies config pieces s.backend) (hspare : s.spare = [])
    (hdue : s.due ≤ pieces.flatten.length)
    (hcut : config.overrun = .retain ∨ CutAt s.due pieces) :
    Collects config pieces s (gather config (s.ready.length + s.due) s) := by
  -- By induction on the pieces. One that belongs to the operation leaves the others to what is left
  -- of it; one that goes beyond it is the last.
  induction pieces generalizing s with
  | nil =>
    have hzero : s.due = 0 := Nat.le_zero.1 hdue
    rw [gather_of_due_eq_zero hzero]
    exact collects_of_due_eq_zero hzero hspare h
  | cons piece later ih =>
    rcases Nat.eq_zero_or_pos s.due with hzero | hpos
    · rw [gather_of_due_eq_zero hzero]
      exact collects_of_due_eq_zero hzero hspare h
    · obtain ⟨hreceive, hlater⟩ := receive_of_supplies h
      have hneed : s.ready.length < s.ready.length + s.due := Nat.lt_add_of_pos_right hpos
      have hkeeps : ¬s.Refuses config piece := by
        rintro ⟨hlong, hreject⟩
        rcases hcut with hretain | hcut
        · rw [hretain] at hreject
          cases hreject
        · exact Nat.not_lt_of_le (hcut.of_cons hpos).1 hlong
      rw [gather_of_ok hneed hpos hreceive hkeeps]
      by_cases hle : piece.length ≤ s.due
      · have hlength : ((s.advance config).absorb piece).ready.length +
            ((s.advance config).absorb piece).due = s.ready.length + s.due := by
          simp only [absorb, advance, List.length_append, List.length_take]
          omega
        have hspare' : ((s.advance config).absorb piece).spare = [] := List.drop_eq_nil_of_le hle
        have hdue' : ((s.advance config).absorb piece).due ≤ later.flatten.length := by
          simp only [List.flatten_cons, List.length_append] at hdue
          simp only [absorb, advance]
          omega
        have hcut' : config.overrun = .retain ∨
            CutAt ((s.advance config).absorb piece).due later :=
          hcut.imp_right fun hcut => (hcut.of_cons hpos).2
        have hnext := ih (s := (s.advance config).absorb piece) hlater hspare' hdue' hcut'
        rw [hlength] at hnext
        exact hnext.piece_first hle _
      · have hlt : s.due < piece.length := Nat.lt_of_not_le hle
        have hdone : ((s.advance config).absorb piece).due = 0 := by
          simp only [absorb, advance]
          omega
        rw [gather_of_due_eq_zero hdone]
        exact collects_of_crossing hlt hlater _

end Intake

namespace Transport

variable {β : Type} [Backend β] {t : Transport β} {pieces : List Bytes}

/-! ### Reading all of an operation -/

/-- What reading all of an operation comes to if its missing bytes are the next ones that the device
sends. -/
structure Obtains (pieces : List Bytes) (t : Transport β) (outcome : Outcome (Transport β) Bytes) :
    Prop where
  result : outcome.result = .ok (t.ready ++ pieces.flatten.take t.readRemaining)
  complete : outcome.state.readExpected = 0
  rest : ∃ later, Backend.Supplies t.config later outcome.state.backend ∧
    outcome.state.spare ++ later.flatten = pieces.flatten.drop t.readRemaining
  noSend : NoSend outcome.events
  writeSide : SameWriteSide t outcome.state

/-- **Reading all of an operation takes its bytes from the pieces**, in whatever calls. -/
theorem Reads.obtains {outcome : Outcome (Transport β) Bytes}
    (hreads : Reads t t.readExpected outcome) (h : Backend.Supplies t.config pieces t.backend)
    (hspare : t.spare = []) (hdue : t.readRemaining ≤ pieces.flatten.length)
    (hcut : t.config.overrun = .retain ∨ CutAt t.readRemaining pieces) :
    Obtains pieces t outcome := by
  have hcollects : Intake.Collects t.config pieces t.intake (t.gathered t.readExpected) := by
    rw [gathered, readExpected_eq]
    exact Intake.gather_of_supplies (s := t.intake) h hspare hdue hcut
  have hlength : (t.gathered t.readExpected).state.ready.length = t.readExpected := by
    have hdue' : t.intake.due ≤ pieces.flatten.length := hdue
    rw [hcollects.ready, readExpected_eq, List.length_append, List.length_take,
      Nat.min_eq_left hdue']
  obtain ⟨later, hsupplies, hrest⟩ := hcollects.rest
  refine ⟨?_, ?_, ⟨later, ?_, ?_⟩, ?_, hreads.writeSide⟩
  · rw [hreads.result, hcollects.result, List.take_of_length_le (Nat.le_of_eq hlength),
      hcollects.ready]
    rfl
  · rw [readExpected_eq, hreads.intake]
    simp only [Intake.handOut, hcollects.due, List.length_drop, hlength, Nat.sub_self]
  · rw [← backend_intake, hreads.intake]
    exact hsupplies
  · rw [← spare_intake, hreads.intake]
    exact hrest
  · rw [hreads.events]
    exact Intake.noSend_gather _

theorem read_obtains (hw : t.writeRemaining = 0) (h : Backend.Supplies t.config pieces t.backend)
    (hspare : t.spare = []) (hdue : t.readRemaining ≤ pieces.flatten.length)
    (hcut : t.config.overrun = .retain ∨ CutAt t.readRemaining pieces) :
    Obtains pieces t (read t.readExpected t) :=
  (read_reads hw (Nat.le_refl _) fun hne => absurd hspare hne).obtains h hspare hdue hcut

/-- A read that has taken all of the pieces keeps no surplus. -/
theorem surplus_of_all {config : ValidConfig} {length : Nat}
    (hall : pieces.flatten.length ≤ length)
    (hrest : ∃ later, Backend.Supplies config later t.backend ∧
      t.spare ++ later.flatten = pieces.flatten.drop length) : t.surplus = 0 := by
  obtain ⟨later, -, hbytes⟩ := hrest
  rw [List.drop_eq_nil_of_le hall] at hbytes
  rw [← length_spare, (List.append_eq_nil_iff.1 hbytes).1, List.length_nil]

/-! ### An exchange -/

/-- The device takes a request within the retry budget, and answers it with these pieces. -/
structure Served (request : Bytes) (pieces : List Bytes) (t : Transport β) : Prop where
  taken : (Backend.sendAll t.config.maxTimeouts request t.backend).result = .ok ()
  answered : Backend.Supplies t.config pieces
    (Backend.sendAll t.config.maxTimeouts request t.backend).state

/-- What an exchange comes to if the device takes the request and answers in pieces. -/
structure Exchanged (request : Bytes) (answerLength : Nat) (pieces : List Bytes) (t : Transport β)
    (outcome : Outcome (Transport β) Bytes) : Prop where
  result : outcome.result = .ok (pieces.flatten.take answerLength)
  sent : sentBytes outcome.events = request
  rest : ∃ later, Backend.Supplies t.config later outcome.state.backend ∧
    outcome.state.spare ++ later.flatten = pieces.flatten.drop answerLength
  config : outcome.state.config = t.config
  written : outcome.state.writeRemaining = 0
  complete : outcome.state.readExpected = 0

/-- **An exchange with a device that answers in pieces** sends the request and returns the first bytes
of the answer. -/
theorem exchange_of_served {request : Bytes} {answerLength : Nat} (hr : 0 < request.length)
    (ha : 0 < answerLength) (h : Served request pieces t)
    (hlength : answerLength ≤ pieces.flatten.length)
    (hcut : t.config.overrun = .retain ∨ CutAt answerLength pieces) :
    Exchanged request answerLength pieces t (exchange request answerLength t) := by
  obtain ⟨hresult, -, hbackend⟩ := write_asked_outcome request answerLength t
  have hawaits := awaits_asked request answerLength t
  have hsent : (write request (t.asked request.length answerLength)).result = .ok () :=
    hresult.trans h.taken
  have hall : sentBytes (write request (t.asked request.length answerLength)).events = request := by
    rw [write_asked] at hsent ⊢
    exact (send_sends request _).sentBytes_of_ok hsent
  rw [exchange_of_sent hr ha hsent]
  generalize hwritten : write request (t.asked request.length answerLength) = written at *
  have hobtains : Obtains pieces written.state (read answerLength written.state) := by
    rw [← hawaits.readExpected]
    refine read_obtains hawaits.writeRemaining ?_ hawaits.spare ?_ ?_
    · rw [hawaits.config, hbackend]
      exact h.answered
    · rwa [hawaits.readRemaining]
    · rwa [hawaits.config, hawaits.readRemaining]
  have hstart := (quiet_startWriteRead request.length answerLength t).1
  have hresult' := hobtains.result
  have hrest := hobtains.rest
  rw [hawaits.ready, List.nil_append, hawaits.readRemaining] at hresult'
  rw [hawaits.config, hawaits.readRemaining] at hrest
  refine ⟨hresult', ?_, hrest, ?_, ?_, hobtains.complete⟩
  · rw [Outcome.events_after, sentBytes_append, sentBytes_append, sentBytes_eq_nil hstart, hall,
      sentBytes_eq_nil hobtains.noSend, List.append_nil, List.nil_append]
  · exact hobtains.writeSide.config.trans hawaits.config
  · exact hobtains.writeSide.writeRemaining.trans hawaits.writeRemaining

end Transport

/-! ### A scripted device -/

namespace Backend.Script

open Transport

variable {config : ValidConfig}

/-- A script that says nothing about sends takes a request in one transfer. -/
theorem sendAll_eq (config : ValidConfig) (data : Bytes) (receives : List (Attempt Bytes)) :
    let script : Script := ⟨receives, []⟩
    let sent := sendAll config.maxTimeouts data script
    sent.result = .ok () ∧ sent.state = script := by
  obtain ⟨budget, hbudget⟩ := Nat.exists_eq_succ_of_ne_zero
    (Nat.ne_of_gt config.valid.maxTimeouts_pos)
  rw [hbudget]
  cases data with
  | nil => simp [sendAll, sendLoop]
  | cons byte rest => simp [sendAll, sendLoop, sendOnce, Attempt.progress]

/-- A script brings the pieces that it lists. -/
theorem supplies {pieces : List Bytes}
    (h : ∀ piece ∈ pieces, piece ≠ [] ∧ piece.length ≤ config.chunkSize) :
    Supplies config pieces (⟨pieces.map .moved, []⟩ : Script) := by
  obtain ⟨budget, hbudget⟩ := Nat.exists_eq_succ_of_ne_zero
    (Nat.ne_of_gt config.valid.maxTimeouts_pos)
  rw [Supplies, hbudget]
  induction pieces with
  | nil => exact .nothing _ _
  | cons piece later ih =>
    obtain ⟨⟨hne, hfits⟩, hlater⟩ := List.forall_mem_cons.1 h
    exact .piece rfl hne hfits (ih hlater)

/-- So it takes a request and answers with these pieces. -/
theorem served (request : Bytes) {pieces : List Bytes}
    (h : ∀ piece ∈ pieces, piece ≠ [] ∧ piece.length ≤ config.chunkSize) :
    Served request pieces (fresh config (⟨pieces.map .moved, []⟩ : Script)) := by
  obtain ⟨hresult, hstate⟩ := sendAll_eq config request (pieces.map .moved)
  have hsupplies := supplies h
  rw [← hstate] at hsupplies
  exact ⟨hresult, hsupplies⟩

end Backend.Script

end ProbeLink
