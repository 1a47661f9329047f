import ProbeLink.Proofs.Exchange

/-!
# ProbeLink.Proofs.Failures

**What can fail, and what success means.** Once a call is admitted, only a transfer can fail: nothing
moves in time, the connection breaks, or the device sends too much (`Error.OfTransfer`). An exchange
is always admitted (`exchange_error`).

A read of all that an operation still expects leaves it complete (`Reads.complete`). So an exchange
that succeeds has its answer, and leaves nothing to write and nothing to read (`exchange_complete`).
-/

namespace ProbeLink

/-- Failures of a transfer. The others are about the call, or about what the bytes mean. -/
inductive Error.OfTransfer : Error → Prop
  | timeout (direction : Direction) : OfTransfer (.timeout direction)
  | io (direction : Direction) (cause : IoError) : OfTransfer (.io direction cause)
  | overrun (expected received : Nat) : OfTransfer (.protocol (.overrun expected received))

variable {β : Type} [Backend β]

/-! ### Transfers -/

theorem Backend.sendAll_error {maxTimeouts : Nat} {data : Bytes} {backend : β} {e : Error}
    (h : (sendAll maxTimeouts data backend).result = .error e) : e.OfTransfer := by
  rcases sendLoop_error h with rfl | ⟨cause, rfl⟩
  · exact .timeout .send
  · exact .io .send cause

/-- Gathering fails for want of time, with the failure of a transfer, or for a piece that is too
long. -/
theorem Intake.gather_fails {config : ValidConfig} {need : Nat} {s : Intake β} {e : Error}
    (h : (gather config need s).result = .error e) :
    e = .timeout .receive ∨ (∃ cause, e = .io .receive cause) ∨
      ∃ expected received, e = .protocol (.overrun expected received) := by
  fun_induction gather config need s with
  | case1 s hs => cases h
  | case2 s hs e' hr =>
    cases h
    obtain rfl | ⟨cause, rfl⟩ := Backend.receiveLoop_error hr
    · exact .inl rfl
    · exact .inr (.inl ⟨cause, rfl⟩)
  | case3 s hs piece hr href =>
    cases h
    exact .inr (.inr ⟨s.due, piece.length, rfl⟩)
  | case4 s hs piece hr href hlt ih => exact ih h

namespace Transport

variable {t : Transport β}

/-! ### Reading -/

theorem Reads.fails {need : Nat} {outcome : Outcome (Transport β) Bytes} {e : Error}
    (h : Reads t need outcome) (he : outcome.result = .error e) :
    e = .timeout .receive ∨ (∃ cause, e = .io .receive cause) ∨
      ∃ expected received, e = .protocol (.overrun expected received) := by
  have hresult := h.result
  cases hg : (t.gathered need).result with
  | error e' =>
    rw [he, hg] at hresult
    cases hresult
    exact Intake.gather_fails hg
  | ok u =>
    rw [he, hg] at hresult
    cases hresult

theorem Reads.error {need : Nat} {outcome : Outcome (Transport β) Bytes} {e : Error}
    (h : Reads t need outcome) (he : outcome.result = .error e) : e.OfTransfer := by
  obtain rfl | ⟨cause, rfl⟩ | ⟨expected, received, rfl⟩ := h.fails he
  · exact .timeout .receive
  · exact .io .receive cause
  · exact .overrun expected received

/-- A read that succeeds gives as many bytes as it was asked for, and that much less is expected. -/
theorem Reads.leaves {outcome : Outcome (Transport β) Bytes} {need : Nat} {bytes : Bytes}
    (h : Reads t need outcome) (hneed : need ≤ t.readExpected) (hok : outcome.result = .ok bytes) :
    bytes.length = need ∧ outcome.state.readExpected = t.readExpected - need := by
  have hall : t.readExpected = t.intake.ready.length + t.intake.due := readExpected_eq t
  have hsum : (t.gathered need).state.ready.length + (t.gathered need).state.due =
      t.intake.ready.length + t.intake.due := Intake.length_ready_add_due t.config need t.intake
  have hresult := h.result
  cases hg : (t.gathered need).result with
  | error e =>
    rw [hok, hg] at hresult
    cases hresult
  | ok u =>
    rw [hok, hg] at hresult
    cases hresult
    have henough : need ≤ (t.gathered need).state.ready.length :=
      (Intake.gather_enough (hall ▸ hneed)).1 hg
    refine ⟨List.length_take_of_le henough, ?_⟩
    rw [readExpected_eq, h.intake]
    simp only [Intake.handOut, List.length_drop]
    omega

/-- A read of all that is expected gives that many bytes, and expects nothing any more. -/
theorem Reads.complete {outcome : Outcome (Transport β) Bytes} {need : Nat} {bytes : Bytes}
    (h : Reads t need outcome) (hneed : t.readExpected = need) (hok : outcome.result = .ok bytes) :
    bytes.length = need ∧ outcome.state.readExpected = 0 := by
  obtain ⟨hlength, hleft⟩ := h.leaves (Nat.le_of_eq hneed.symm) hok
  exact ⟨hlength, by rw [hleft, hneed, Nat.sub_self]⟩

theorem Reads.tidy {outcome : Outcome (Transport β) Bytes} {need : Nat} (h : Reads t need outcome)
    (htidy : t.intake.Tidy) : outcome.state.intake.Tidy := by
  rw [h.intake]
  exact Intake.tidy_gather htidy

/-! ### Exchanges -/

variable {request : Bytes} {answerLength : Nat}

/-- All that an exchange can do: fail to send the request, or read the answer. -/
theorem exchange_cases (hr : 0 < request.length) (ha : 0 < answerLength) (t : Transport β) :
    let written := write request (t.asked request.length answerLength)
    (∃ e, e.OfTransfer ∧ (exchange request answerLength t).result = .error e) ∨
      (written.state.readExpected = answerLength ∧
        (exchange request answerLength t).result = (read answerLength written.state).result ∧
        (exchange request answerLength t).state = (read answerLength written.state).state ∧
        Reads written.state answerLength (read answerLength written.state)) := by
  intro written
  have hawaits : Awaits answerLength t written.state := awaits_asked request answerLength t
  cases hsent : written.result with
  | error e =>
    have hfails : e.OfTransfer :=
      Backend.sendAll_error ((write_asked_outcome request answerLength t).1.symm.trans hsent)
    have hstart := startWriteRead_of_pos hr ha t
    have hexchange := Run.bind_of_ok (fun _ => write request >>= fun _ => read answerLength) hstart
    refine .inl ⟨e, hfails, ?_⟩
    refine (congrArg Outcome.result hexchange).trans ?_
    rw [Outcome.result_after, Run.bind_of_result_error _ hsent]
  | ok u =>
    rw [exchange_of_sent hr ha hsent]
    exact .inr ⟨hawaits.readExpected, rfl, rfl,
      read_reads hawaits.writeRemaining (Nat.le_of_eq hawaits.readExpected.symm) hawaits.tidy⟩

theorem exchange_error {e : Error} (hr : 0 < request.length) (ha : 0 < answerLength)
    (h : (exchange request answerLength t).result = .error e) : e.OfTransfer := by
  obtain ⟨e', hfails, he'⟩ | ⟨-, hresult, -, hreads⟩ := exchange_cases hr ha t
  · rw [h] at he'
    cases he'
    exact hfails
  · exact hreads.error (hresult.symm.trans h)

/-- **An exchange that succeeds is complete.** -/
theorem exchange_complete {answer : Bytes} (hr : 0 < request.length) (ha : 0 < answerLength)
    (h : (exchange request answerLength t).result = .ok answer) :
    answer.length = answerLength ∧ (exchange request answerLength t).state.writeRemaining = 0 ∧
      (exchange request answerLength t).state.readExpected = 0 := by
  have hawaits := awaits_asked request answerLength t
  obtain ⟨e, -, he⟩ | ⟨hexpected, hresult, hstate, hreads⟩ := exchange_cases hr ha t
  · rw [h] at he
    cases he
  · obtain ⟨hlength, hcomplete⟩ := hreads.complete hexpected (hresult.symm.trans h)
    rw [hstate]
    exact ⟨hlength, hreads.writeSide.writeRemaining.trans hawaits.writeRemaining, hcomplete⟩

end Transport

end ProbeLink
