import ProbeLink.Proofs.History

/-!
# ProbeLink.Proofs.Composition

**Every operation is made of calls.** A command acts on a transport only by starting operations, by
writing and by reading. In between it decides, writes log lines or gives up (`Composed`,
`composed_perform`). So what holds of every call, and of two runs one after the other, holds of every
operation.

Apart from the calls themselves, all operations begin by starting an exchange (`Opens`,
`opens_perform`), if they are not refused. None of those starts a write operation on its own.
-/

namespace ProbeLink

namespace Transport

variable {β : Type} [Backend β] {α γ : Type} {alone : Prop}

/-! ### Runs made of calls -/

/-- A run that acts on a transport only through calls. It starts a write operation on its own only if
`alone` holds. -/
inductive Composed (alone : Prop) : {α : Type} → Run (Transport β) α → Prop
  /-- It does nothing but decide and write log lines. -/
  | idle {α : Type} {run : Run (Transport β) α} (result : Except Error α) (notices : List Notice)
      (h : ∀ t, run t = ⟨result, t, notices.map .noted⟩) : Composed alone run
  | startWrite (length : Nat) (h : alone) : Composed alone (startWrite length)
  | startRead (length : Nat) : Composed alone (startRead length)
  | startWriteRead (writeLength readLength : Nat) :
    Composed alone (startWriteRead writeLength readLength)
  | write (data : Bytes) : Composed alone (write data)
  | read (length : Nat) : Composed alone (read length)
  | bind {α γ : Type} {run : Run (Transport β) α} {next : α → Run (Transport β) γ}
      (h : Composed alone run) (hnext : ∀ a, Composed alone (next a)) :
    Composed alone (run >>= next)

theorem composed_pure (a : α) : Composed alone (pure a : Run (Transport β) α) :=
  .idle (.ok a) [] fun _ => rfl

theorem composed_fail (error : Error) :
    Composed alone (Run.fail error : Run (Transport β) α) :=
  .idle (.error error) [] fun _ => rfl

theorem composed_note (notice : Notice) :
    Composed alone (Run.note notice : Run (Transport β) Unit) :=
  .idle (.ok ()) [notice] fun _ => rfl

theorem composed_noteAndFail (notice : Notice) (error : Error) :
    Composed alone (Run.noteAndFail notice error : Run (Transport β) α) :=
  .idle (.error error) [notice] fun _ => rfl

theorem Composed.map {run : Run (Transport β) α} (h : Composed alone run) (f : α → γ) :
    Composed alone (f <$> run) := by
  rw [map_eq_pure_bind]
  exact h.bind fun a => composed_pure (f a)

theorem composed_ite {c : Prop} [Decidable c] {run run' : Run (Transport β) α}
    (h : Composed alone run) (h' : Composed alone run') :
    Composed alone (if c then run else run') := by
  split
  · exact h
  · exact h'

/-- A step that is taken under a condition, and what follows it in any case. -/
theorem composed_when {c : Prop} [Decidable c] {step : Run (Transport β) Unit}
    {next : Unit → Run (Transport β) α} (h : Composed alone step)
    (hnext : ∀ u, Composed alone (next u)) :
    Composed alone (if c then step >>= next else next ()) :=
  composed_ite (h.bind hnext) (hnext ())

/-- What no run may do, a run need not do where it may. -/
theorem Composed.of_false {run : Run (Transport β) α} (h : Composed False run) :
    Composed alone run := by
  induction h with
  | idle result notices h => exact .idle result notices h
  | startWrite length h => exact h.elim
  | startRead length => exact .startRead length
  | startWriteRead writeLength readLength => exact .startWriteRead writeLength readLength
  | write data => exact .write data
  | read length => exact .read length
  | bind _ _ ih ihnext => exact ih.bind ihnext

/-! ### Runs that begin with an exchange -/

/-- A run made of calls whose first call starts an exchange. It starts no write operation on its
own. -/
inductive Opens : {α : Type} → Run (Transport β) α → Prop
  | mk {α : Type} {writeLength readLength : Nat} {next : Unit → Run (Transport β) α}
      (hw : 0 < writeLength) (hr : 0 < readLength) (hnext : ∀ u, Composed False (next u)) :
    Opens (startWriteRead writeLength readLength >>= next)

theorem Opens.composed {run : Run (Transport β) α} (h : Opens run) : Composed False run := by
  cases h with
  | mk hw hr hnext => exact (Composed.startWriteRead _ _).bind hnext

theorem Opens.bind {run : Run (Transport β) α} {next : α → Run (Transport β) γ}
    (h : Opens run) (hnext : ∀ a, Composed False (next a)) : Opens (run >>= next) := by
  cases h with
  | mk hw hr hfirst =>
    rw [bind_assoc]
    exact .mk hw hr fun u => (hfirst u).bind hnext

theorem Opens.map {run : Run (Transport β) α} (h : Opens run) (f : α → γ) : Opens (f <$> run) := by
  rw [map_eq_pure_bind]
  exact h.bind fun a => composed_pure (f a)

theorem opens_startWriteRead {writeLength readLength : Nat} (hw : 0 < writeLength)
    (hr : 0 < readLength) : Opens (startWriteRead (β := β) writeLength readLength) := by
  rw [← bind_pure (startWriteRead (β := β) writeLength readLength)]
  exact .mk hw hr composed_pure

theorem opens_exchange {request : Bytes} {answerLength : Nat} (hw : 0 < request.length)
    (hr : 0 < answerLength) : Opens (exchange (β := β) request answerLength) :=
  .mk hw hr fun _ => (Composed.write request).bind fun _ => .read answerLength

theorem opens_transfer {out : Bytes} {inLength : Nat} (param : UInt32)
    (hout : out.length ≤ Fine.maxLength) (hin : inLength ≤ Fine.maxLength) :
    Opens (Fine.transfer (β := β) out inLength param) := by
  rw [Fine.transfer, if_neg (Nat.not_lt.2 hout), if_neg (Nat.not_lt.2 hin)]
  refine .mk (Nat.add_pos_left (by decide) _) (Nat.add_pos_left (by decide) _) fun _ => ?_
  refine (Composed.write _).bind fun _ => ?_
  refine composed_when (.write out) fun _ => ?_
  refine (Composed.read _).bind fun _ => (Composed.read _).bind fun _ => ?_
  exact composed_when (composed_note _) fun _ => composed_pure _

theorem composed_checkHeader (header : Registry.Header) :
    Composed alone (Registry.checkHeader (β := β) header) := by
  unfold Registry.checkHeader
  split
  · exact composed_pure _
  · split
    · exact composed_noteAndFail _ _
    · exact composed_fail _

theorem composed_readRest (length : Nat) :
    Composed alone (Registry.readRest (β := β) length) :=
  composed_ite ((Composed.startRead _).bind fun _ => .read _) (composed_pure _)

theorem opens_registryExchange (command : Registry.Command) (c : Connection) :
    Opens (Registry.exchange (β := β) command c) :=
  (opens_exchange (by rw [Registry.length_request]; decide) (by decide)).bind fun _ =>
    (composed_checkHeader _).bind fun _ => (composed_readRest _).bind fun _ => composed_pure _

theorem opens_register (c : Connection) : Opens (Registry.register (β := β) c) :=
  (opens_registryExchange .register c).bind fun _ =>
    composed_ite (composed_noteAndFail _ _) (composed_pure _)

theorem opens_unregister (c : Connection) : Opens (Registry.unregister (β := β) c) :=
  (opens_registryExchange .unregister c).bind fun _ => composed_pure _

end Transport

/-! ### Operations -/

namespace Operation

/-- The bytes that an operation writes if it comes that far. -/
def written : Operation → Bytes
  | .write data => data
  | .askCapabilities => Capabilities.request
  | .askExtendedCapabilities => Capabilities.extendedRequest
  | .fine out inLength param => Fine.header out.length inLength param ++ out
  | .register connection => Registry.request .register connection
  | .unregister connection => Registry.request .unregister connection
  | _ => []

/-- Does an operation begin by starting an exchange? -/
def Restarts : Operation → Prop
  | .startWriteRead writeLength readLength => 0 < writeLength ∧ 0 < readLength
  | .askCapabilities => True
  | .askExtendedCapabilities => True
  | .fine out inLength _ => out.length ≤ Fine.maxLength ∧ inLength ≤ Fine.maxLength
  | .register _ => True
  | .unregister _ => True
  | _ => False

variable {β : Type} [Backend β]

open Transport

theorem opens_perform (operation : Operation) (h : operation.Restarts) :
    Opens (operation.perform (β := β)) := by
  cases operation with
  | startWrite length => exact h.elim
  | startRead length => exact h.elim
  | startWriteRead writeLength readLength => exact (opens_startWriteRead h.1 h.2).map _
  | write data => exact h.elim
  | read length => exact h.elim
  | askCapabilities => exact ((opens_exchange (by decide) (by decide)).map _).map _
  | askExtendedCapabilities => exact ((opens_exchange (by decide) (by decide)).map _).map _
  | fine out inLength param => exact (opens_transfer param h.1 h.2).map _
  | register connection => exact (opens_register connection).map _
  | unregister connection => exact (opens_unregister connection).map _

/-- An operation is a call, begins by starting an exchange, or is refused at once. -/
theorem call_or_restarts_or_refused (operation : Operation) :
    (∃ call : Call, operation = call.operation) ∨ operation.Restarts ∨
      ∃ e, ∀ t : Transport β, operation.perform t = ⟨.error e, t, []⟩ := by
  cases operation with
  | startWrite length => exact .inl ⟨.startWrite length, rfl⟩
  | startRead length => exact .inl ⟨.startRead length, rfl⟩
  | startWriteRead writeLength readLength =>
    exact .inl ⟨.startWriteRead writeLength readLength, rfl⟩
  | write data => exact .inl ⟨.write data, rfl⟩
  | read length => exact .inl ⟨.read length, rfl⟩
  | askCapabilities => exact .inr (.inl trivial)
  | askExtendedCapabilities => exact .inr (.inl trivial)
  | fine out inLength param =>
    right
    by_cases hout : out.length ≤ Fine.maxLength
    · by_cases hin : inLength ≤ Fine.maxLength
      · exact .inl ⟨hout, hin⟩
      · refine .inr ⟨.argument (.payloadTooLarge inLength), fun t => ?_⟩
        rw [perform, Run.map_apply, Fine.transfer, if_neg (Nat.not_lt.2 hout),
          if_pos (Nat.lt_of_not_le hin)]
        rfl
    · refine .inr ⟨.argument (.payloadTooLarge out.length), fun t => ?_⟩
      rw [perform, Run.map_apply, Fine.transfer, if_pos (Nat.lt_of_not_le hout)]
      rfl
  | register connection => exact .inr (.inl trivial)
  | unregister connection => exact .inr (.inl trivial)

/-- **Every operation is made of calls.** -/
theorem composed_perform (operation : Operation) :
    Composed True (operation.perform (β := β)) := by
  obtain ⟨call, rfl⟩ | hrestarts | ⟨e, hrefused⟩ := operation.call_or_restarts_or_refused (β := β)
  · cases call with
    | startWrite length => exact (Composed.startWrite length trivial).map _
    | startRead length => exact (Composed.startRead length).map _
    | startWriteRead writeLength readLength =>
      exact (Composed.startWriteRead writeLength readLength).map _
    | write data => exact (Composed.write data).map _
    | read length => exact (Composed.read length).map _
  · exact (opens_perform operation hrestarts).composed.of_false
  · exact .idle (.error e) [] hrefused

end Operation

end ProbeLink
