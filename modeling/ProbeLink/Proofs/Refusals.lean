import ProbeLink.Proofs.FineCalls
import ProbeLink.Proofs.Ordering
import ProbeLink.Proofs.RegistryRobust

/-!
# ProbeLink.Proofs.Refusals

**A call that is wrong transfers nothing** (`refused_transfers_nothing`).

A call on the transport decides first and acts afterwards: one that is refused leaves the transport as
it was. A command is made of several such calls, and its first call starts an exchange before the
others are even looked at. What the later ones ask for is always what the first one declared, so that
none of them is refused, with one exception: the header of a FINE command may find no room to wait for
the bytes that follow it.
-/

namespace ProbeLink

/-! ### Refused calls -/

/-- The call was wrong: it fails with an error about its arguments. -/
def Outcome.Refused {σ α : Type} (outcome : Outcome σ α) : Prop :=
  ∃ e, outcome.result = .error e ∧ e.kind = .argument

theorem Outcome.refused_map {σ α γ : Type} {f : α → γ} {outcome : Outcome σ α} :
    (outcome.map f).Refused ↔ outcome.Refused := by
  unfold Refused
  cases h : outcome.result with
  | error e => simp [h, Except.map]
  | ok a => simp [h, Except.map]

theorem Outcome.not_refused_of_foreign {σ α : Type} {outcome : Outcome σ α}
    (h : ∀ e, outcome.result = .error e → e.Foreign) : ¬outcome.Refused := by
  rintro ⟨e, he, hkind⟩
  exact (h e he).1 hkind

theorem Outcome.not_refused_of_transfer {σ α : Type} {outcome : Outcome σ α}
    (h : ∀ e, outcome.result = .error e → e.OfTransfer) : ¬outcome.Refused :=
  not_refused_of_foreign fun e he => (h e he).foreign

/-- The call did nothing but write log lines. -/
structure Outcome.Unmoved {β α : Type} (t : Transport β) (outcome : Outcome (Transport β) α) :
    Prop where
  state : outcome.state = t
  quiet : Quiet outcome.events

namespace Transport

variable {β : Type} [Backend β] {t : Transport β}

theorem write_refused {data : Bytes} (h : (write data t).Refused) : (write data t).Unmoved t := by
  obtain ⟨-, hw⟩ | ⟨-, -, hw⟩ | ⟨-, -, hw⟩ | ⟨-, hsends⟩ := write_cases data t
  · rw [hw]
    exact ⟨rfl, quiet_noted _⟩
  · rw [hw]
    exact ⟨rfl, quiet_noted _⟩
  · rw [hw] at h
    obtain ⟨e, he, -⟩ := h
    cases he
  · refine absurd h (Outcome.not_refused_of_transfer ?_)
    intro e he
    obtain rfl | ⟨cause, rfl⟩ := hsends.cause e he
    · exact .timeout .send
    · exact .io .send cause

theorem read_refused {length : Nat} (hregular : Regular t) (h : (read length t).Refused) :
    (read length t).Unmoved t := by
  obtain ⟨-, hr⟩ | ⟨-, -, hr⟩ | ⟨-, -, hreads⟩ := read_cases hregular.tidy length
  · rw [hr]
    exact ⟨rfl, quiet_noted _⟩
  · rw [hr]
    exact ⟨rfl, quiet_noted _⟩
  · exact absurd h (Outcome.not_refused_of_transfer fun _ => hreads.error)

/-- **A refused call leaves the transport as it was.** -/
theorem call_refused (call : Call) (hregular : Regular t) (h : (call.perform t).Refused) :
    (call.perform t).Unmoved t := by
  have hstart (hs : call.isStart = true) : (call.perform t).Unmoved t := by
    obtain ⟨e, he, -⟩ := h
    obtain ⟨hstate, hevents⟩ := perform_of_refused hs (by rw [he]; rfl)
    exact ⟨hstate, by rw [hevents]; exact quiet_nil⟩
  cases call with
  | startWrite length => exact hstart rfl
  | startRead length => exact hstart rfl
  | startWriteRead writeLength readLength => exact hstart rfl
  | write data =>
    rw [Call.perform_write] at h ⊢
    have hunmoved := write_refused (Outcome.refused_map.1 h)
    exact ⟨hunmoved.state, hunmoved.quiet⟩
  | read length =>
    rw [Call.perform_read] at h ⊢
    have hunmoved := read_refused hregular (Outcome.refused_map.1 h)
    exact ⟨hunmoved.state, hunmoved.quiet⟩

end Transport

/-! ### Refused commands -/

/-- Is the operation a command, one that sends a request and reads its answer? -/
def Operation.isCommand : Operation → Bool
  | .askCapabilities | .askExtendedCapabilities | .fine _ _ _ | .register _ | .unregister _ => true
  | _ => false

/-- Is the operation a FINE command with a length that its header cannot express, or with bytes to
shift out over a scratch buffer that has no room for the header? -/
def Operation.Misfits (config : ValidConfig) : Operation → Prop
  | .fine out inLength _ =>
    UInt32.size ≤ out.length ∨ UInt32.size ≤ inLength ∨
      (out ≠ [] ∧ config.bufferSize < Fine.headerLength)
  | _ => False

namespace Transport

variable {β : Type} [Backend β] {t : Transport β}

/-- A FINE command is refused exactly if it does not fit, and then without a transfer. -/
theorem transfer_refused (out : Bytes) (inLength : Nat) (param : UInt32) (t : Transport β) :
    ((Fine.transfer out inLength param t).Refused ↔
        (Operation.fine out inLength param).Misfits t.config) ∧
      ((Fine.transfer out inLength param t).Refused →
        Quiet (Fine.transfer out inLength param t).events) := by
  have hmax : UInt32.size = Fine.maxLength + 1 := rfl
  by_cases hout : Fine.maxLength < out.length
  · rw [Fine.transfer_of_long_out hout]
    exact ⟨iff_of_true ⟨_, rfl, rfl⟩ (.inl (by omega)), fun _ => quiet_nil⟩
  by_cases hin : Fine.maxLength < inLength
  · rw [Fine.transfer_of_long_in (Nat.le_of_not_lt hout) hin]
    exact ⟨iff_of_true ⟨_, rfl, rfl⟩ (.inr (.inl (by omega))), fun _ => quiet_nil⟩
  have hfits : Fine.Fits out inLength := ⟨Nat.le_of_not_lt hout, Nat.le_of_not_lt hin⟩
  by_cases hfull : out ≠ [] ∧ t.config.bufferSize < Fine.headerLength
  · rw [Fine.transfer_of_full hfits hfull.1 hfull.2]
    refine ⟨iff_of_true ⟨_, rfl, rfl⟩ (.inr (.inr hfull)), fun _ => ?_⟩
    exact quiet_append.2 ⟨quiet_startWriteRead _ _ t, quiet_noted _⟩
  · have hroom : out = [] ∨ Fine.headerLength ≤ t.config.bufferSize := by
      rcases eq_or_ne out [] with hnil | hne
      · exact .inl hnil
      · exact .inr (Nat.le_of_not_lt fun hlt => hfull ⟨hne, hlt⟩)
    have haccepted : ¬(Fine.transfer out inLength param t).Refused :=
      Outcome.not_refused_of_transfer fun _ => Fine.transfer_error hfits hroom
    refine ⟨iff_of_false haccepted ?_, fun h => absurd h haccepted⟩
    rintro (hlong | hlong | hmisfits)
    · omega
    · omega
    · exact hfull hmisfits

/-- **Of all commands only a FINE command that does not fit is refused**, and then without a
transfer. -/
theorem command_refused {operation : Operation} (hcommand : operation.isCommand = true)
    (t : Transport β) :
    ((operation.perform t).Refused ↔ operation.Misfits t.config) ∧
      ((operation.perform t).Refused → Quiet (operation.perform t).events) := by
  have hother (hmisfits : ¬operation.Misfits t.config) (haccepted : ¬(operation.perform t).Refused) :
      ((operation.perform t).Refused ↔ operation.Misfits t.config) ∧
        ((operation.perform t).Refused → Quiet (operation.perform t).events) :=
    ⟨iff_of_false haccepted hmisfits, fun h => absurd h haccepted⟩
  cases operation with
  | startWrite length => cases hcommand
  | startRead length => cases hcommand
  | startWriteRead writeLength readLength => cases hcommand
  | write data => cases hcommand
  | read length => cases hcommand
  | askCapabilities =>
    refine hother id ?_
    simp only [Operation.perform, Capabilities.ask, Run.map_apply, Outcome.refused_map]
    exact Outcome.not_refused_of_transfer fun _ => exchange_error (by decide) (by decide)
  | askExtendedCapabilities =>
    refine hother id ?_
    simp only [Operation.perform, Capabilities.askExtended, Run.map_apply, Outcome.refused_map]
    exact Outcome.not_refused_of_transfer fun _ => exchange_error (by decide) (by decide)
  | fine out inLength param =>
    simp only [Operation.perform, Run.map_apply, Outcome.refused_map, Outcome.events_map]
    exact transfer_refused out inLength param t
  | register connection =>
    refine hother id ?_
    simp only [Operation.perform, Run.map_apply, Outcome.refused_map]
    exact Outcome.not_refused_of_foreign fun _ => Registry.register_foreign
  | unregister connection =>
    refine hother id ?_
    simp only [Operation.perform, Run.map_apply, Outcome.refused_map]
    exact Outcome.not_refused_of_foreign fun _ => Registry.unregister_foreign

/-- **A call that is wrong transfers nothing.** After any history, a call on the transport that is
refused leaves all of the transport as it was, and a command that is refused transfers nothing. Of the
commands, a FINE command is refused if one of its lengths takes more than 32 bits, or if it has bytes to
shift out and the scratch buffer is shorter than its header; no other command ever is. -/
theorem refused_transfers_nothing (config : ValidConfig) (backend : β) (history : List Operation) :
    let t := Operation.stateAfter history (fresh config backend)
    (∀ call : Call, (call.perform t).Refused →
        (call.perform t).state = t ∧ Quiet (call.perform t).events) ∧
      ∀ operation : Operation, operation.isCommand = true →
        ((operation.perform t).Refused → Quiet (operation.perform t).events) ∧
          ((operation.perform t).Refused ↔ operation.Misfits config) := by
  intro t
  obtain ⟨hconfig, _, hbounds⟩ := inBounds_stateAfter history (inBounds_fresh config backend)
  refine ⟨?calls, ?commands⟩
  case calls =>
    intro call hrefused
    have hunmoved := call_refused call hbounds.regular hrefused
    exact ⟨hunmoved.state, hunmoved.quiet⟩
  case commands =>
    intro operation hcommand
    obtain ⟨hiff, hquiet⟩ := command_refused hcommand t
    rw [show t.config = config from hconfig] at hiff
    exact ⟨hquiet, hiff⟩

/-- A read before its command is complete is refused, and so is a FINE command whose header finds no
room in a scratch buffer of eight bytes. -/
theorem refused_before_the_command_is_out :
    let config : ValidConfig := ⟨⟨4, 8, 1000, 2, .reject⟩, by decide⟩
    let t := Operation.stateAfter [.startWriteRead 3 2, .write [1]]
      (fresh config (⟨[], []⟩ : Backend.Script))
    let shift := Operation.fine [7] 1 0
    (((Call.read 2).perform t).Refused ∧ ((Call.read 2).perform t).state = t ∧
        Quiet ((Call.read 2).perform t).events) ∧
      shift.isCommand = true ∧ shift.Misfits config ∧ (shift.perform t).Refused ∧
        Quiet (shift.perform t).events := by
  intro config t shift
  obtain ⟨hcalls, hcommands⟩ := refused_transfers_nothing config (⟨[], []⟩ : Backend.Script)
    [.startWriteRead 3 2, .write [1]]
  have hearly : ((Call.read 2).perform t).Refused := ⟨.argument (.writeIncomplete 2), by cbv, rfl⟩
  have hmisfits : shift.Misfits config := .inr (.inr ⟨by decide, by decide⟩)
  obtain ⟨hquiet, hiff⟩ := hcommands shift rfl
  exact ⟨⟨hearly, hcalls _ hearly⟩, rfl, hmisfits, hiff.2 hmisfits, hquiet (hiff.2 hmisfits)⟩

end Transport

end ProbeLink
