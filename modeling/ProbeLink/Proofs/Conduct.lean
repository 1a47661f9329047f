import ProbeLink.CommandLine
import ProbeLink.Proofs.Composition
import ProbeLink.Proofs.Exchange

/-!
# ProbeLink.Proofs.Conduct

**What a command sends and says** over a connection that takes everything (`conducts_perform`): one
request in one transfer, and nothing that is meant for the user. Whatever the device answers, and
whether or not it does, this stays so, and the connection stays as it is.

The parts of a command that read are silent: they send nothing. So the request of a command is that of
the one part that writes (`Conducted.bind`).
-/

namespace ProbeLink

/-! ### Requests and lines -/

/-- What a physical send was given. -/
def Event.request? : Event → Option Bytes
  | .sent offered _ => some offered
  | _ => none

/-- What the user is told. -/
def Event.line? : Event → Option String
  | .noted (.told text) => some text
  | _ => none

/-- All that was sent, one element for each transfer. -/
def requests (events : List Event) : List Bytes := events.filterMap Event.request?

/-- All that the user is told. -/
def lines (events : List Event) : List String := events.filterMap Event.line?

@[simp] theorem requests_nil : requests [] = [] := rfl

@[simp] theorem lines_nil : lines [] = [] := rfl

@[simp] theorem requests_append (before after : List Event) :
    requests (before ++ after) = requests before ++ requests after :=
  List.filterMap_append

@[simp] theorem lines_append (before after : List Event) :
    lines (before ++ after) = lines before ++ lines after :=
  List.filterMap_append

@[simp] theorem requests_noted (notices : List Notice) :
    requests (notices.map .noted) = [] := by
  simp [requests, Event.request?]

/-- Nothing is sent, and nothing is said. -/
structure Silent (events : List Event) : Prop where
  requests : requests events = []
  lines : lines events = []

theorem silent_nil : Silent [] := ⟨rfl, rfl⟩

theorem Silent.append {before after : List Event} (h : Silent before) (h' : Silent after) :
    Silent (before ++ after) :=
  ⟨by rw [requests_append, h.requests, h'.requests]; rfl,
    by rw [lines_append, h.lines, h'.lines]; rfl⟩

/-- A notice that is not meant for the user. -/
theorem silent_noted {notice : Notice} (h : (Event.noted notice).line? = none) :
    Silent [.noted notice] :=
  ⟨rfl, by simp [lines, h]⟩

theorem silent_noteIf {notice : Notice} (applies : Bool) (h : (Event.noted notice).line? = none) :
    Silent (Transport.noteIf applies notice) := by
  cases applies with
  | false => exact silent_nil
  | true => exact silent_noted h

/-! ### A connection that takes everything -/

/-- A connection in such a state takes every request at once and can be given up, and it stays in such
a state, whatever it delivers. -/
structure Obliging {β : Type} [Backend β] (willing : β → Prop) : Prop where
  takes : ∀ backend data, willing backend →
    (Backend.sendOnce backend data).1 = .moved data.length
  afterSend : ∀ backend data, willing backend → willing (Backend.sendOnce backend data).2
  afterReceive : ∀ backend capacity, willing backend →
    willing (Backend.receiveOnce backend capacity).2
  releases : ∀ backend, willing backend → Backend.releaseError? backend = none

variable {β α γ : Type} [Backend β] {willing : β → Prop}

namespace Backend

theorem sendAll_obliging (h : Obliging willing) {maxTimeouts : Nat} (hm : 0 < maxTimeouts)
    {data : Bytes} (hd : data ≠ []) {backend : β} (hw : willing backend) :
    sendAll maxTimeouts data backend =
      ⟨.ok (), (sendOnce backend data).2, [.sent data (.moved data.length)]⟩ := by
  obtain ⟨byte, rest, rfl⟩ := List.exists_cons_of_ne_nil hd
  obtain ⟨budget, rfl⟩ := Nat.exists_eq_succ_of_ne_zero (Nat.ne_of_gt hm)
  have hmoved := h.takes backend (byte :: rest) hw
  have hprogress : (sendOnce backend (byte :: rest)).1.progress = .ok (rest.length + 1) := by
    rw [hmoved]
    rfl
  have hevents : sendEvents (byte :: rest) (sendOnce backend (byte :: rest)).1 =
      [.sent (byte :: rest) (.moved (rest.length + 1))] := by
    rw [hmoved]
    rfl
  rw [sendAll, sendLoop]
  simp only [hprogress, hevents, List.drop_length, sendLoop]
  rfl

theorem silent_receiveEvents (capacity : Nat) (attempt : Attempt Bytes) :
    Silent (receiveEvents capacity attempt) := by
  unfold receiveEvents
  split <;> exact ⟨rfl, rfl⟩

theorem receiveLoop_obliging (h : Obliging willing) {capacity tries : Nat} {backend : β}
    (hw : willing backend) :
    Silent (receiveLoop capacity tries backend).events ∧
      willing (receiveLoop capacity tries backend).state := by
  fun_induction receiveLoop capacity tries backend with
  | case1 backend => exact ⟨silent_noted rfl, hw⟩
  | case2 tries backend received cause hreceived =>
    exact ⟨silent_receiveEvents _ _, h.afterReceive backend capacity hw⟩
  | case3 tries backend received hreceived ih =>
    obtain ⟨hevents, hstate⟩ := ih (h.afterReceive backend capacity hw)
    exact ⟨(silent_receiveEvents _ _).append hevents, hstate⟩
  | case4 tries backend received byte rest hreceived =>
    exact ⟨silent_receiveEvents _ _, h.afterReceive backend capacity hw⟩

end Backend

namespace Transport

/-- A call that sent these requests and said nothing, over a connection that is still willing. -/
structure Conducted {β α : Type} (willing : β → Prop) (sent : List Bytes)
    (outcome : Outcome (Transport β) α) : Prop where
  requests : requests outcome.events = sent
  lines : lines outcome.events = []
  willing : willing outcome.state.backend

variable {t : Transport β}

/-! ### Calls -/

omit [Backend β] in
theorem silent_resetWriteEvents (t : Transport β) : Silent t.resetWriteEvents :=
  ((silent_noteIf _ rfl).append (silent_noteIf _ rfl)).append
    (silent_noteIf _ rfl)

omit [Backend β] in
theorem silent_resetReadEvents (length : Nat) (t : Transport β) :
    Silent (t.resetReadEvents length) :=
  ((silent_noteIf _ rfl).append (silent_noteIf _ rfl)).append
    (silent_noteIf _ rfl)

omit [Backend β] in
theorem silent_startWriteRead (writeLength readLength : Nat) (t : Transport β) :
    Silent (startWriteRead writeLength readLength t).events := by
  unfold startWriteRead
  split
  · exact silent_nil
  · exact (silent_resetWriteEvents t).append (silent_resetReadEvents readLength _)

omit [Backend β] in
theorem silent_startRead (length : Nat) (t : Transport β) :
    Silent (startRead length t).events := by
  unfold startRead
  split
  · exact silent_nil
  · exact (silent_noteIf _ rfl).append (silent_resetReadEvents length _)

omit [Backend β] in
theorem backend_startRead (length : Nat) (t : Transport β) :
    (startRead length t).state.backend = t.backend := by
  unfold startRead
  split
  · rfl
  · exact congrArg Intake.backend (intake_begun length t)

theorem silent_arrival (h : Obliging willing) (hw : willing t.backend) (piece : Bytes) :
    Silent (t.intake.arrival t.config piece) :=
  (Backend.receiveLoop_obliging h hw).1.append (silent_noteIf _ rfl)

omit [Backend β] in
theorem backend_arrive (length : Nat) (piece : Bytes) (t : Transport β) :
    (t.arrive length piece).backend = t.backend := by
  unfold arrive
  split <;> rfl

theorem backend_admitted (length : Nat) (piece : Bytes) (t : Transport β) :
    (t.admitted length piece).backend = (receive t).state.backend := by
  simp only [admitted, takeIn]
  split <;> exact backend_arrive length piece (receive t).state

/-- Whatever a read receives, it says nothing and sends nothing. -/
theorem readLoop_obliging (h : Obliging willing) (length : Nat) (t : Transport β)
    (hl : length ≤ t.readRemaining) : willing t.backend →
      Silent (readLoop length t hl).outcome.events ∧
        willing (readLoop length t hl).outcome.state.backend := by
  have hreceive {t : Transport β} (hw : willing t.backend) :
      Silent (receive t).events ∧ willing (receive t).state.backend :=
    Backend.receiveLoop_obliging h hw
  refine readLoop_induction (motive := fun _ t delivery => willing t.backend →
    Silent delivery.outcome.events ∧ willing delivery.outcome.state.backend) ?done ?failed ?refused
    ?round length t hl
  case done => exact fun t hw => ⟨silent_nil, hw⟩
  case failed => exact fun length t e _ _ _ hw => hreceive hw
  case refused =>
    intro length t piece _ _ _ _ hw
    refine ⟨silent_arrival h hw piece, ?_⟩
    rw [backend_arrive]
    exact (hreceive hw).2
  case round =>
    intro length t piece rest _ _ _ _ ih hw
    have hadmitted : willing (t.admitted length piece).backend := by
      rw [backend_admitted]
      exact (hreceive hw).2
    obtain ⟨hevents, hstate⟩ := ih hadmitted
    exact ⟨(silent_arrival h hw piece).append hevents, hstate⟩

theorem read_conducted (h : Obliging willing) (length : Nat) (hw : willing t.backend) :
    Conducted willing [] (read length t) := by
  have hinto : Silent (t.readInto length).outcome.events ∧
      willing (t.readInto length).outcome.state.backend := by
    unfold readInto
    split
    · exact ⟨silent_noted rfl, hw⟩
    · split
      · exact ⟨silent_noted rfl, hw⟩
      · split
        · exact ⟨silent_nil, hw⟩
        · split
          · exact readLoop_obliging h _ _ _ hw
          · exact readLoop_obliging h _ _ _ hw
  exact ⟨hinto.1.requests, hinto.1.lines, hinto.2⟩

/-! ### One call after the other -/

variable {sent : List Bytes}

omit [Backend β] in
/-- What follows a call may read, but sends nothing of its own. -/
theorem Conducted.bind {run : Run (Transport β) α} {next : α → Run (Transport β) γ}
    (h : Conducted willing sent (run t))
    (hnext : ∀ a, Conducted willing [] (next a (run t).state)) :
    Conducted willing sent ((run >>= next) t) := by
  cases hresult : (run t).result with
  | error e =>
    rw [Run.bind_of_result_error next hresult]
    exact ⟨h.requests, h.lines, h.willing⟩
  | ok a =>
    rw [Run.bind_of_result_ok next hresult]
    obtain ⟨hrequests, hlines, hwilling⟩ := hnext a
    refine ⟨?_, ?_, hwilling⟩
    · rw [Outcome.events_after, requests_append, h.requests, hrequests, List.append_nil]
    · rw [Outcome.events_after, lines_append, h.lines, hlines, List.append_nil]

omit [Backend β] in
theorem Conducted.map {run : Run (Transport β) α} (h : Conducted willing sent (run t))
    (f : α → γ) : Conducted willing sent ((f <$> run) t) := by
  rw [Run.map_apply]
  exact ⟨h.requests, h.lines, h.willing⟩

omit [Backend β] in
/-- A step that does nothing but decide and write a log line, which is not for the user. -/
theorem conducted_idle {run : Run (Transport β) α} {result : Except Error α} {events : List Event}
    (hrun : run t = ⟨result, t, events⟩) (h : Silent events) (hw : willing t.backend) :
    Conducted willing [] (run t) := by
  rw [hrun]
  exact ⟨h.requests, h.lines, hw⟩

/-! ### Commands -/

/-- **An exchange sends its request in one transfer**, and nothing else. -/
theorem exchange_conducted (h : Obliging willing) {request : Bytes} {answerLength : Nat}
    (hr : request ≠ []) (ha : 0 < answerLength) (hw : willing t.backend) :
    Conducted willing [request] (exchange request answerLength t) := by
  have hsend := Backend.sendAll_obliging h t.config.valid.maxTimeouts_pos hr hw
  obtain ⟨hresult, hevents, hbackend⟩ := write_asked_outcome request answerLength t
  rw [hsend] at hresult hevents hbackend
  have hstart := silent_startWriteRead request.length answerLength t
  have hwilling : willing (write request (t.asked request.length answerLength)).state.backend := by
    rw [hbackend]
    exact h.afterSend t.backend request hw
  have hread := read_conducted h answerLength hwilling
  rw [exchange_of_sent (List.length_pos_iff.2 hr) ha hresult, hevents]
  refine ⟨?_, ?_, hread.willing⟩
  · rw [Outcome.events_after, requests_append, requests_append, hstart.requests, hread.requests]
    rfl
  · rw [Outcome.events_after, lines_append, lines_append, hstart.lines, hread.lines]
    rfl

omit [Backend β] in
theorem checkHeader_conducted (header : Registry.Header) (hw : willing t.backend) :
    Conducted willing [] (Registry.checkHeader header t) := by
  rw [Registry.checkHeader]
  cases header.fault? with
  | none => exact conducted_idle rfl silent_nil hw
  | some fault =>
    cases hnotice : Registry.faultNotice fault with
    | none => exact conducted_idle (by simp only [hnotice]; rfl) silent_nil hw
    | some notice =>
      have hline : (Event.noted notice).line? = none := by
        cases fault <;> cases hnotice <;> rfl
      exact conducted_idle (by simp only [hnotice]; rfl) (silent_noted hline) hw

theorem readRest_conducted (h : Obliging willing) (length : Nat) (hw : willing t.backend) :
    Conducted willing [] (Registry.readRest length t) := by
  unfold Registry.readRest
  split
  · have hstart := silent_startRead (length - Registry.firstLength) t
    have hstarted : Conducted willing [] (startRead (length - Registry.firstLength) t) := by
      refine ⟨hstart.requests, hstart.lines, ?_⟩
      rw [backend_startRead]
      exact hw
    exact hstarted.bind fun _ => read_conducted h _ hstarted.willing
  · exact conducted_idle rfl silent_nil hw

theorem registryExchange_conducted (h : Obliging willing) (command : Registry.Command)
    (c : Connection) (hw : willing t.backend) :
    Conducted willing [Registry.request command c] (Registry.exchange command c t) := by
  have hopened : Conducted willing [Registry.request command c]
      (exchange (Registry.request command c) Registry.firstLength t) :=
    exchange_conducted h (by simp [Registry.request]) (by decide) hw
  refine hopened.bind fun first => ?_
  have hchecked := checkHeader_conducted (Registry.Header.decode first) hopened.willing
  refine hchecked.bind fun _ => ?_
  have hrest := readRest_conducted h (Registry.Header.decode first).answerLength hchecked.willing
  exact hrest.bind fun _ => conducted_idle rfl silent_nil hrest.willing

theorem register_conducted (h : Obliging willing) (c : Connection) (hw : willing t.backend) :
    Conducted willing [Registry.request .register c] (Registry.register c t) := by
  have hexchange := registryExchange_conducted h .register c hw
  refine hexchange.bind fun answer => ?_
  split
  · exact conducted_idle rfl (silent_noted rfl) hexchange.willing
  · exact conducted_idle rfl silent_nil hexchange.willing

theorem unregister_conducted (h : Obliging willing) (c : Connection) (hw : willing t.backend) :
    Conducted willing [Registry.request .unregister c] (Registry.unregister c t) := by
  have hexchange := registryExchange_conducted h .unregister c hw
  exact hexchange.bind fun _ => conducted_idle rfl silent_nil hexchange.willing

end Transport

/-- Is the operation one of the commands that ask a device what it can do, or go through its registry? -/
def Operation.isInquiry : Operation → Bool
  | .askCapabilities | .askExtendedCapabilities | .register _ | .unregister _ => true
  | _ => false

open Transport in
/-- **A command sends its request, and nothing else**, and leaves it to others to tell the user. -/
theorem Operation.perform_conducted (h : Obliging willing) {operation : Operation}
    (hinquiry : operation.isInquiry = true) {t : Transport β} (hw : willing t.backend) :
    Conducted willing [operation.written] (operation.perform t) := by
  cases operation with
  | askCapabilities =>
    exact ((exchange_conducted h (by decide) (by decide) hw).map _).map _
  | askExtendedCapabilities =>
    exact ((exchange_conducted h (by decide) (by decide) hw).map _).map _
  | register connection => exact (register_conducted h connection hw).map _
  | unregister connection => exact (unregister_conducted h connection hw).map _
  | startWrite length => cases hinquiry
  | startRead length => cases hinquiry
  | startWriteRead writeLength readLength => cases hinquiry
  | write data => cases hinquiry
  | read length => cases hinquiry
  | fine out inLength param => cases hinquiry

end ProbeLink
