import ProbeLink.Proofs.Failures
import ProbeLink.Proofs.RegistryCodec
import ProbeLink.Registry.Register

/-!
# ProbeLink.Proofs.RegistryCalls

**What a call of the registry does**, one lemma for each way it can go. The request is exchanged for
the first part of the answer (`opening`). Then the header decides: it is refused
(`exchange_of_fault`), or the rest that it announces is read and the whole decoded
(`exchange_of_opened`).

Registering is such a call, unless the device gives out the handle of no connection; unregistering is
such a call always.
-/

namespace ProbeLink.Registry

variable {β : Type} [Backend β] {t : Transport β} {command : Command} {c : Connection}

/-! ### The exchange -/

/-- The request and the part of the answer that always comes. -/
def opening (command : Command) (c : Connection) : Run (Transport β) Bytes :=
  Transport.exchange (request command c) firstLength

theorem request_ne_nil (command : Command) (c : Connection) : request command c ≠ [] := by
  intro h
  have hlength := length_request command c
  rw [h] at hlength
  exact absurd hlength (by decide)

theorem length_request_pos (command : Command) (c : Connection) :
    0 < (request command c).length :=
  List.length_pos_iff.2 (request_ne_nil command c)

/-- The request is always accepted, so only its transfers can fail. -/
theorem opening_error {e : Error} (h : (opening command c t).result = .error e) : e.OfTransfer :=
  Transport.exchange_error (length_request_pos command c) (by decide) h

theorem opening_complete {first : Bytes} (h : (opening command c t).result = .ok first) :
    first.length = firstLength ∧ (opening command c t).state.writeRemaining = 0 ∧
      (opening command c t).state.readExpected = 0 :=
  Transport.exchange_complete (length_request_pos command c) (by decide) h

/-- Without the first part there is no answer. -/
theorem exchange_of_error {e : Error} (h : (opening command c t).result = .error e) :
    exchange command c t =
      ⟨.error e, (opening command c t).state, (opening command c t).events⟩ :=
  Run.bind_of_result_error _ h

/-- A header that no device may send is the end: nothing follows but a log line. -/
theorem exchange_of_fault {first : Bytes} {fault : ProtocolError}
    (h : (opening command c t).result = .ok first)
    (hfault : (Header.decode first).fault? = some fault) :
    exchange command c t =
      ⟨.error (.protocol fault), (opening command c t).state,
        (opening command c t).events ++ (faultNotice fault).toList.map .noted⟩ := by
  refine (Run.bind_of_result_ok _ h).trans ?_
  have hcheck : checkHeader (Header.decode first) (opening command c t).state =
      ⟨.error (.protocol fault), (opening command c t).state,
        (faultNotice fault).toList.map .noted⟩ := by
    rw [checkHeader, hfault]
    cases hnotice : faultNotice fault with
    | none =>
      simp only [hnotice]
      rfl
    | some notice =>
      simp only [hnotice]
      rfl
  rw [Run.bind_of_error _ hcheck]
  rfl

/-- Any other header announces the rest of the answer, and the two parts are decoded as one. -/
theorem exchange_of_opened {first : Bytes} (h : (opening command c t).result = .ok first)
    (hfault : (Header.decode first).fault? = none) :
    exchange command c t =
      ((readRest (Header.decode first).answerLength (opening command c t).state).map fun rest =>
        Answer.decode (Header.decode first) (first ++ rest)).after (opening command c t).events := by
  refine (Run.bind_of_result_ok _ h).trans ?_
  have hcheck : (checkHeader (Header.decode first) : Run (Transport β) Unit) = pure () := by
    rw [checkHeader, hfault]
  rw [hcheck, pure_bind, ← map_eq_pure_bind, Run.map_apply]

/-! ### The rest of the answer -/

/-- There is no rest: nothing is done about it. -/
theorem readRest_of_le {length : Nat} (h : length ≤ firstLength) (t : Transport β) :
    readRest length t = ⟨.ok [], t, []⟩ := by
  rw [readRest, if_neg (Nat.not_lt_of_le h)]
  rfl

/-- The rest is a read operation of its own. -/
theorem readRest_of_gt {length : Nat} (h : firstLength < length) (t : Transport β) :
    readRest length t =
      (Transport.read (length - firstLength) (t.begun (length - firstLength))).after
        (Transport.startRead (length - firstLength) t).events := by
  have hstart := Transport.startRead_of_pos (Nat.sub_pos_of_lt h) t
  rw [readRest, if_pos h]
  exact Run.bind_of_ok (fun _ => Transport.read (length - firstLength)) hstart

/-- The operation that reads the rest is started anew, so a read of all of it is admitted. -/
theorem readRest_reads (length : Nat) (t : Transport β) :
    let rest := length - firstLength
    Transport.Reads (t.begun rest) rest (Transport.read rest (t.begun rest)) :=
  Transport.read_reads (Transport.writeRemaining_begun _ t)
    (Nat.le_of_eq (Transport.readExpected_begun _ t).symm) (Transport.tidy_begun _ t)

theorem readRest_error {length : Nat} {e : Error} (h : (readRest length t).result = .error e) :
    e.OfTransfer := by
  rcases Nat.lt_or_ge firstLength length with hlong | hshort
  · rw [readRest_of_gt hlong] at h
    exact (readRest_reads length t).error h
  · rw [readRest_of_le hshort] at h
    cases h

theorem length_of_readRest {length : Nat} {rest : Bytes} (h : (readRest length t).result = .ok rest) :
    rest.length = length - firstLength := by
  rcases Nat.lt_or_ge firstLength length with hlong | hshort
  · rw [readRest_of_gt hlong] at h
    exact ((readRest_reads length t).complete (Transport.readExpected_begun _ t) h).1
  · rw [readRest_of_le hshort] at h
    cases h
    exact (Nat.sub_eq_zero_of_le hshort).symm

/-! ### An answer that a device may give -/

variable {answer : Answer}

/-- **The two parts of an answer are read back as the whole of it.** -/
theorem exchange_of_parts (hv : answer.Valid)
    (hfirst : (opening command c t).result = .ok (answer.encode.take firstLength))
    (hrest : (readRest answer.header.answerLength (opening command c t).state).result =
      .ok (answer.encode.drop firstLength)) :
    (exchange command c t).result = .ok answer := by
  have hheader := Answer.decode_first hv
  have hfault : (Header.decode (answer.encode.take firstLength)).fault? = none := by
    rw [hheader, Answer.fault?_header hv]
  rw [exchange_of_opened hfirst hfault, Outcome.result_after, Outcome.result_map, hheader, hrest]
  simp only [Except.map, List.take_append_drop, Answer.decode_encode hv]

/-! ### Registering and unregistering -/

/-- The registration that an answer encodes for a client: the handle is the one that the device
chose, and the time that of the entry with this handle, if there is one. -/
def Answer.registration (c : Connection) (answer : Answer) : Registration where
  connection :=
    { c with
      handle := answer.handle
      timestamp :=
        ((answer.connections.find? fun entry => entry.handle = answer.handle).map
          Connection.timestamp).getD c.timestamp }
  connections := answer.connections
  info := answer.info

theorem register_of_error {e : Error} (h : (exchange .register c t).result = .error e) :
    register c t =
      ⟨.error e, (exchange .register c t).state, (exchange .register c t).events⟩ :=
  Run.bind_of_result_error _ h

/-- The handle of no connection is refused. -/
theorem register_of_no_handle (h : (exchange .register c t).result = .ok answer)
    (hh : answer.handle = 0) :
    register c t =
      ⟨.error (.protocol .invalidHandle), (exchange .register c t).state,
        (exchange .register c t).events ++ [.noted .invalidHandle]⟩ := by
  refine (Run.bind_of_result_ok _ h).trans ?_
  rw [if_pos hh]
  rfl

/-- Any other handle is that of a registration. -/
theorem register_of_handle (h : (exchange .register c t).result = .ok answer)
    (hh : answer.handle ≠ 0) :
    register c t =
      ⟨.ok (answer.registration c), (exchange .register c t).state,
        (exchange .register c t).events⟩ := by
  have hassigned : assigned c answer = (answer.registration c).connection := by
    simp only [assigned, Answer.registration]
    cases answer.connections.find? fun entry => entry.handle = answer.handle <;> rfl
  refine (Run.bind_of_result_ok _ h).trans ?_
  rw [if_neg hh, Run.pure_apply, hassigned, Outcome.after, List.append_nil]
  rfl

/-- Every registration comes from an answer with a handle. -/
theorem register_ok {registration : Registration} (h : (register c t).result = .ok registration) :
    ∃ answer, (exchange .register c t).result = .ok answer ∧ answer.handle ≠ 0 ∧
      registration = answer.registration c := by
  cases hexchange : (exchange .register c t).result with
  | error e =>
    rw [register_of_error hexchange] at h
    cases h
  | ok answer =>
    by_cases hh : answer.handle = 0
    · rw [register_of_no_handle hexchange hh] at h
      cases h
    · rw [register_of_handle hexchange hh] at h
      cases h
      exact ⟨answer, rfl, hh, rfl⟩

theorem register_of_exchange (c : Connection) (hh : answer.handle ≠ 0)
    (h : (exchange .register c t).result = .ok answer) :
    (register c t).result = .ok (answer.registration c) := by
  rw [register_of_handle h hh]

theorem unregister_eq (c : Connection) (t : Transport β) :
    unregister c t =
      (exchange .unregister c t).map fun answer => ⟨answer.connections, answer.info⟩ := by
  rw [unregister, ← map_eq_pure_bind, Run.map_apply]

end ProbeLink.Registry
