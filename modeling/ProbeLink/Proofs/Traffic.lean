import ProbeLink.Backend.Retry

/-!
# ProbeLink.Proofs.Traffic

The **bytes that moved** in a list of events, in each direction, and what the retry policy does to
them.

* `sentBytes` and `receivedBytes` read the bytes off the physical transfers alone. An attempt that
  ran out of time counts with what it moved; one that failed moved nothing.
* A send moves a prefix of what it was given, and all of it exactly if it succeeds
  (`sendLoop_sentBytes`). A receive moves exactly the piece that it returns (`receiveLoop_events`).
-/

namespace ProbeLink

namespace Event

/-- The bytes that a physical send moved, at most those it was given. -/
def sentBytes : Event → Bytes
  | .sent offered (.moved n) => offered.take n
  | .sent offered (.timedOut n) => offered.take n
  | _ => []

/-- The piece that a physical receive moved, at most as long as the room there was. -/
def receivedBytes : Event → Bytes
  | .received capacity (.moved bytes) => bytes.take capacity
  | .received capacity (.timedOut bytes) => bytes.take capacity
  | _ => []

/-- What a send moved goes by its progress, in time or not. -/
theorem sentBytes_sent (offered : Bytes) (attempt : Attempt Nat) :
    (Event.sent offered attempt).sentBytes = match attempt.progress with
      | .ok n => offered.take n
      | .error _ => [] := by
  cases attempt <;> rfl

theorem receivedBytes_received (capacity : Nat) (attempt : Attempt Bytes) :
    (Event.received capacity attempt).receivedBytes = match attempt.progress with
      | .ok bytes => bytes.take capacity
      | .error _ => [] := by
  cases attempt <;> rfl

end Event

/-- All bytes sent, in order. -/
def sentBytes (events : List Event) : Bytes := events.flatMap Event.sentBytes

/-- All bytes received, in order. -/
def receivedBytes (events : List Event) : Bytes := events.flatMap Event.receivedBytes

/-- Nothing was sent: there is no physical send among the events. -/
def NoSend (events : List Event) : Prop := ∀ event ∈ events, event.isSend = false

/-- Nothing was received: there is no physical receive among the events. -/
def NoReceive (events : List Event) : Prop := ∀ event ∈ events, event.isReceive = false

/-- Nothing was transferred at all. -/
def Quiet (events : List Event) : Prop := NoSend events ∧ NoReceive events

/-- Every physical receive among the events was given this much room. -/
def RoomIs (capacity : Nat) (events : List Event) : Prop :=
  ∀ room attempt, .received room attempt ∈ events → room = capacity

@[simp] theorem sentBytes_nil : sentBytes [] = [] := rfl

@[simp] theorem receivedBytes_nil : receivedBytes [] = [] := rfl

@[simp] theorem sentBytes_append (before after : List Event) :
    sentBytes (before ++ after) = sentBytes before ++ sentBytes after := by
  simp [sentBytes]

@[simp] theorem receivedBytes_append (before after : List Event) :
    receivedBytes (before ++ after) = receivedBytes before ++ receivedBytes after := by
  simp [receivedBytes]

@[simp] theorem noSend_nil : NoSend [] := by simp [NoSend]

@[simp] theorem noReceive_nil : NoReceive [] := by simp [NoReceive]

@[simp] theorem noSend_append {before after : List Event} :
    NoSend (before ++ after) ↔ NoSend before ∧ NoSend after := by
  simp only [NoSend, List.forall_mem_append]

@[simp] theorem noReceive_append {before after : List Event} :
    NoReceive (before ++ after) ↔ NoReceive before ∧ NoReceive after := by
  simp only [NoReceive, List.forall_mem_append]

@[simp] theorem quiet_nil : Quiet [] := ⟨noSend_nil, noReceive_nil⟩

@[simp] theorem quiet_append {before after : List Event} :
    Quiet (before ++ after) ↔ Quiet before ∧ Quiet after := by
  simp only [Quiet, noSend_append, noReceive_append]
  exact ⟨fun ⟨⟨hs, hs'⟩, hr, hr'⟩ => ⟨⟨hs, hr⟩, hs', hr'⟩,
    fun ⟨⟨hs, hr⟩, hs', hr'⟩ => ⟨⟨hs, hs'⟩, hr, hr'⟩⟩

@[simp] theorem quiet_noted (notice : Notice) : Quiet [.noted notice] := by
  simp [Quiet, NoSend, NoReceive, Event.isSend, Event.isReceive]

@[simp] theorem roomIs_append {capacity : Nat} {before after : List Event} :
    RoomIs capacity (before ++ after) ↔ RoomIs capacity before ∧ RoomIs capacity after := by
  constructor
  · intro h
    exact ⟨fun room attempt hmem => h room attempt (List.mem_append_left _ hmem),
      fun room attempt hmem => h room attempt (List.mem_append_right _ hmem)⟩
  · rintro ⟨hb, ha⟩ room attempt hmem
    rcases List.mem_append.1 hmem with hmem | hmem
    · exact hb room attempt hmem
    · exact ha room attempt hmem

theorem sentBytes_eq_nil {events : List Event} (h : NoSend events) : sentBytes events = [] := by
  rw [sentBytes, List.flatMap_eq_nil_iff]
  intro event hmem
  cases event with
  | sent offered attempt => exact absurd (h _ hmem) (by simp [Event.isSend])
  | received capacity attempt => rfl
  | noted notice => rfl

theorem receivedBytes_eq_nil {events : List Event} (h : NoReceive events) :
    receivedBytes events = [] := by
  rw [receivedBytes, List.flatMap_eq_nil_iff]
  intro event hmem
  cases event with
  | sent offered attempt => rfl
  | received capacity attempt => exact absurd (h _ hmem) (by simp [Event.isReceive])
  | noted notice => rfl

theorem roomIs_of_noReceive {capacity : Nat} {events : List Event} (h : NoReceive events) :
    RoomIs capacity events :=
  fun _ _ hmem => absurd (h _ hmem) (by simp [Event.isReceive])

/-! ### Transfers -/

/-- The physical transfers among events, in order. -/
def transfers (events : List Event) : List Event := events.filter Event.isTransfer

@[simp] theorem transfers_append (before after : List Event) :
    transfers (before ++ after) = transfers before ++ transfers after :=
  List.filter_append before after

theorem transfers_eq_nil {events : List Event} (h : Quiet events) : transfers events = [] := by
  refine List.filter_eq_nil_iff.2 ?_
  intro event hmem
  rw [Event.isTransfer, h.1 event hmem, h.2 event hmem]
  exact Bool.false_ne_true

theorem sentBytes_transfers (events : List Event) :
    sentBytes (transfers events) = sentBytes events := by
  induction events with
  | nil => rfl
  | cons event later ih =>
    cases event with
    | sent offered attempt => exact congrArg (_ ++ ·) ih
    | received capacity attempt => exact ih
    | noted notice => exact ih

/-- Log lines bring no bytes. -/
theorem receivedBytes_transfers (events : List Event) :
    receivedBytes (transfers events) = receivedBytes events := by
  induction events with
  | nil => rfl
  | cons event later ih =>
    cases event with
    | sent offered attempt => exact ih
    | received capacity attempt => exact congrArg (_ ++ ·) ih
    | noted notice => exact ih

theorem sent_of_mem_transfers {events : List Event} {event : Event} (h : NoReceive events)
    (hmem : event ∈ transfers events) : ∃ offered attempt, event = .sent offered attempt := by
  obtain ⟨hevents, htransfer⟩ := List.mem_filter.1 hmem
  cases event with
  | sent offered attempt => exact ⟨offered, attempt, rfl⟩
  | received room attempt => exact absurd (h _ hevents) (by simp [Event.isReceive])
  | noted notice => simp [Event.isTransfer, Event.isSend, Event.isReceive] at htransfer

theorem received_of_mem_transfers {capacity : Nat} {events : List Event} {event : Event}
    (h : NoSend events) (hroom : RoomIs capacity events) (hmem : event ∈ transfers events) :
    ∃ attempt, event = .received capacity attempt := by
  obtain ⟨hevents, htransfer⟩ := List.mem_filter.1 hmem
  cases event with
  | sent offered attempt => exact absurd (h _ hevents) (by simp [Event.isSend])
  | received room attempt => exact ⟨attempt, by rw [hroom room attempt hevents]⟩
  | noted notice => simp [Event.isTransfer, Event.isSend, Event.isReceive] at htransfer

/-- An event of two lists of events, one after the other, lies in the first or in the second. -/
theorem place_of_append {first later before after : List Event} {event : Event}
    (h : first ++ later = before ++ event :: after) :
    (∃ rest, first = before ++ event :: rest) ∨
      ∃ rest, before = first ++ rest ∧ later = rest ++ event :: after := by
  rcases List.append_eq_append_iff.1 h with ⟨rest, hbefore, hlater⟩ | ⟨rest, hfirst, hrest⟩
  · exact .inr ⟨rest, hbefore, hlater⟩
  · cases rest with
    | nil => exact .inr ⟨[], by simpa using hfirst.symm, by simpa using hrest.symm⟩
    | cons found rest =>
      obtain ⟨rfl, -⟩ := List.cons.inj hrest
      exact .inl ⟨rest, hfirst⟩

/-! ### Sending -/

namespace Backend

variable {β : Type} [Backend β]

theorem noReceive_sendEvents (offered : Bytes) (attempt : Attempt Nat) :
    NoReceive (sendEvents offered attempt) := by
  unfold sendEvents
  split <;> simp [NoReceive, Event.isReceive]

/-- The log line of an attempt moves nothing. -/
theorem sentBytes_sendEvents (offered : Bytes) (attempt : Attempt Nat) :
    sentBytes (sendEvents offered attempt) = (Event.sent offered attempt).sentBytes := by
  unfold sendEvents
  split <;> simp [sentBytes, Event.sentBytes]

theorem transfers_sendEvents (offered : Bytes) (attempt : Attempt Nat) :
    transfers (sendEvents offered attempt) = [.sent offered attempt] := by
  unfold sendEvents
  split <;> rfl

/-- Sending moves a prefix of the data, and something is left over exactly if it fails. -/
theorem sendLoop_sentBytes (maxTimeouts tries : Nat) (data : Bytes) (backend : β) :
    ∃ rest, data = sentBytes (sendLoop maxTimeouts tries data backend).events ++ rest ∧
      (rest = [] ↔ (sendLoop maxTimeouts tries data backend).result = .ok ()) := by
  -- One case per way an attempt can go. Only the last one moves anything.
  fun_induction sendLoop maxTimeouts tries data backend with
  | case1 tries backend => exact ⟨[], by simp, by simp⟩
  | case2 byte rest backend => exact ⟨byte :: rest, by simp [sentBytes, Event.sentBytes], by simp⟩
  | case3 tries byte rest backend sent cause h =>
    refine ⟨byte :: rest, ?_, by simp⟩
    rw [sentBytes_sendEvents, Event.sentBytes_sent, h, List.nil_append]
  | case4 tries byte rest backend sent h ih =>
    obtain ⟨left, hdata, hleft⟩ := ih
    refine ⟨left, ?_, hleft⟩
    rw [Outcome.events_after, sentBytes_append, sentBytes_sendEvents, Event.sentBytes_sent, h]
    exact hdata
  | case5 tries byte rest backend sent n h ih =>
    obtain ⟨left, hdata, hleft⟩ := ih
    refine ⟨left, ?_, hleft⟩
    rw [Outcome.events_after, sentBytes_append, sentBytes_sendEvents, Event.sentBytes_sent, h,
      List.append_assoc, ← hdata]
    simp

/-- Sending fails for want of time, or with the failure of a transfer. -/
theorem sendLoop_error {maxTimeouts tries : Nat} {data : Bytes} {backend : β} {e : Error}
    (h : (sendLoop maxTimeouts tries data backend).result = .error e) :
    e = .timeout .send ∨ ∃ cause, e = .io .send cause := by
  fun_induction sendLoop maxTimeouts tries data backend with
  | case1 tries backend => cases h
  | case2 byte rest backend =>
    cases h
    exact .inl rfl
  | case3 tries byte rest backend sent cause hsent =>
    cases h
    exact .inr ⟨cause, rfl⟩
  | case4 tries byte rest backend sent hsent ih => exact ih h
  | case5 tries byte rest backend sent n hsent ih => exact ih h

/-- **Each transfer is given what is left of the data**, and there is something left. -/
theorem sendLoop_offers {maxTimeouts tries : Nat} {data : Bytes} {backend : β}
    (before : List Event) {after : List Event} {offered : Bytes} {attempt : Attempt Nat}
    (h : transfers (sendLoop maxTimeouts tries data backend).events =
      before ++ .sent offered attempt :: after) :
    offered ≠ [] ∧ offered = data.drop (sentBytes before).length := by
  -- The transfer is the first of the loop, or one of those after it.
  fun_induction sendLoop maxTimeouts tries data backend generalizing before with
  | case1 tries backend => simp [transfers] at h
  | case2 byte rest backend => simp [transfers, Event.isTransfer, Event.isSend, Event.isReceive] at h
  | case3 tries byte rest backend sent cause hsent =>
    rw [transfers_sendEvents] at h
    cases before with
    | nil =>
      cases h
      exact ⟨List.cons_ne_nil _ _, rfl⟩
    | cons event before => simp at h
  | case4 tries byte rest backend sent hsent ih =>
    rw [Outcome.events_after, transfers_append, transfers_sendEvents] at h
    cases before with
    | nil =>
      cases h
      exact ⟨List.cons_ne_nil _ _, rfl⟩
    | cons event before =>
      obtain ⟨rfl, hlater⟩ := List.cons.inj h
      have hnone : (Event.sent (byte :: rest) sent.1).sentBytes = [] := by
        simp [Event.sentBytes_sent, hsent]
      rw [sentBytes, List.flatMap_cons, hnone, List.nil_append]
      exact ih before hlater
  | case5 tries byte rest backend sent n hsent ih =>
    rw [Outcome.events_after, transfers_append, transfers_sendEvents] at h
    cases before with
    | nil =>
      cases h
      exact ⟨List.cons_ne_nil _ _, rfl⟩
    | cons event before =>
      obtain ⟨rfl, hlater⟩ := List.cons.inj h
      obtain ⟨hoffered, hrest⟩ := ih before hlater
      -- A transfer that claims more than it was given has left nothing.
      have hleft : rest.drop n =
          (byte :: rest).drop (Event.sent (byte :: rest) sent.1).sentBytes.length := by
        rw [Event.sentBytes_sent, hsent, ← List.drop_succ_cons (a := byte), List.drop_eq_drop_iff,
          List.length_take]
        omega
      rw [sentBytes, List.flatMap_cons, List.length_append, ← List.drop_drop, ← hleft]
      exact ⟨hoffered, hrest⟩

theorem noReceive_sendLoop (maxTimeouts tries : Nat) (data : Bytes) (backend : β) :
    NoReceive (sendLoop maxTimeouts tries data backend).events := by
  fun_induction sendLoop maxTimeouts tries data backend with
  | case1 tries backend => exact noReceive_nil
  | case2 byte rest backend => simp [NoReceive, Event.isReceive]
  | case3 tries byte rest backend sent cause h => exact noReceive_sendEvents _ _
  | case4 tries byte rest backend sent h ih =>
    exact noReceive_append.2 ⟨noReceive_sendEvents _ _, ih⟩
  | case5 tries byte rest backend sent n h ih =>
    exact noReceive_append.2 ⟨noReceive_sendEvents _ _, ih⟩

/-! ### Receiving -/

theorem noSend_receiveEvents (capacity : Nat) (attempt : Attempt Bytes) :
    NoSend (receiveEvents capacity attempt) := by
  unfold receiveEvents
  split <;> simp [NoSend, Event.isSend]

theorem receivedBytes_receiveEvents (capacity : Nat) (attempt : Attempt Bytes) :
    receivedBytes (receiveEvents capacity attempt) =
      (Event.received capacity attempt).receivedBytes := by
  unfold receiveEvents
  split <;> simp [receivedBytes, Event.receivedBytes]

theorem transfers_receiveEvents (capacity : Nat) (attempt : Attempt Bytes) :
    transfers (receiveEvents capacity attempt) = [.received capacity attempt] := by
  unfold receiveEvents
  split <;> rfl

theorem roomIs_receiveEvents (capacity : Nat) (attempt : Attempt Bytes) :
    RoomIs capacity (receiveEvents capacity attempt) := by
  intro room attempt' hmem
  unfold receiveEvents at hmem
  split at hmem <;> simp at hmem <;> exact hmem.1

/-- Whatever comes of it, receiving takes at least one transfer. -/
theorem receiveLoop_receives {capacity tries : Nat} {backend : β} (h : 0 < tries) :
    ¬NoReceive (receiveLoop capacity tries backend).events := by
  have hattempt : ∀ attempt, ¬NoReceive (receiveEvents capacity attempt) :=
    fun attempt hnone => absurd (hnone _ List.mem_cons_self) (by simp [Event.isReceive])
  fun_cases receiveLoop capacity tries backend with
  | case1 => exact absurd h (Nat.lt_irrefl 0)
  | case2 tries received cause hreceived => exact hattempt _
  | case3 tries received hreceived => exact fun hnone => hattempt _ (noReceive_append.1 hnone).1
  | case4 tries received byte rest hreceived => exact hattempt _

/-- Receiving fails for want of time, or with the failure of a transfer. -/
theorem receiveLoop_error {capacity tries : Nat} {backend : β} {e : Error}
    (h : (receiveLoop capacity tries backend).result = .error e) :
    e = .timeout .receive ∨ ∃ cause, e = .io .receive cause := by
  fun_induction receiveLoop capacity tries backend with
  | case1 backend =>
    cases h
    exact .inl rfl
  | case2 tries backend received cause hreceived =>
    cases h
    exact .inr ⟨cause, rfl⟩
  | case3 tries backend received hreceived ih => exact ih h
  | case4 tries backend received byte rest hreceived => cases h

/-- Before each transfer nothing has arrived. -/
theorem receiveLoop_before {capacity tries : Nat} {backend : β} (before : List Event)
    {after : List Event} {event : Event}
    (h : transfers (receiveLoop capacity tries backend).events = before ++ event :: after) :
    receivedBytes before = [] := by
  fun_induction receiveLoop capacity tries backend generalizing before with
  | case1 backend => simp [transfers, Event.isTransfer, Event.isSend, Event.isReceive] at h
  | case2 tries backend received cause hreceived =>
    rw [transfers_receiveEvents] at h
    cases before with
    | nil => rfl
    | cons first before => simp at h
  | case3 tries backend received hreceived ih =>
    rw [Outcome.events_after, transfers_append, transfers_receiveEvents] at h
    cases before with
    | nil => rfl
    | cons first before =>
      obtain ⟨rfl, hlater⟩ := List.cons.inj h
      have hnone : (Event.received capacity received.1).receivedBytes = [] := by
        simp [Event.receivedBytes_received, hreceived]
      rw [receivedBytes, List.flatMap_cons, hnone, List.nil_append]
      exact ih before hlater
  | case4 tries backend received byte rest hreceived =>
    rw [transfers_receiveEvents] at h
    cases before with
    | nil => rfl
    | cons first before => simp at h

/-- A successful receive moves the piece that it returns; one that fails moves nothing. -/
theorem receiveLoop_events (capacity tries : Nat) (backend : β) :
    NoSend (receiveLoop capacity tries backend).events ∧
      RoomIs capacity (receiveLoop capacity tries backend).events ∧
      receivedBytes (receiveLoop capacity tries backend).events =
        match (receiveLoop capacity tries backend).result with
        | .ok piece => piece
        | .error _ => [] := by
  fun_induction receiveLoop capacity tries backend with
  | case1 backend =>
    refine ⟨by simp [NoSend, Event.isSend], ?_, rfl⟩
    intro room attempt hmem
    simp at hmem
  | case2 tries backend received cause h =>
    refine ⟨noSend_receiveEvents _ _, roomIs_receiveEvents _ _, ?_⟩
    rw [receivedBytes_receiveEvents, Event.receivedBytes_received, h]
  | case3 tries backend received h ih =>
    -- An attempt that came back empty adds nothing to those after it.
    obtain ⟨hsend, hroom, hbytes⟩ := ih
    refine ⟨noSend_append.2 ⟨noSend_receiveEvents _ _, hsend⟩,
      roomIs_append.2 ⟨roomIs_receiveEvents _ _, hroom⟩, ?_⟩
    rw [Outcome.events_after, receivedBytes_append, receivedBytes_receiveEvents,
      Event.receivedBytes_received, h, hbytes, Outcome.result_after]
    simp only [List.take_nil, List.nil_append]
  | case4 tries backend received byte rest h =>
    refine ⟨noSend_receiveEvents _ _, roomIs_receiveEvents _ _, ?_⟩
    rw [receivedBytes_receiveEvents, Event.receivedBytes_received, h]

end Backend

end ProbeLink
