import ProbeLink.Proofs.Pieces
import ProbeLink.Proofs.RegistryGuarded

/-!
# ProbeLink.Proofs.RegistryRobust

**Nothing that a device sends can confuse the registry.** A call of the registry runs on the machine
that stops at the first slip, and it never blames the caller or an answer that it cannot take apart
(`Error.Foreign`).

Once the first part of the answer is there, its header decides (`HeaderDecides`). The first rule that
it breaks ends the call, with nothing left to do on the transport. If it breaks none, what it
announces beyond the first part is read in one more operation, and the answer has exactly the
connections and the text that the header announces.
-/

namespace ProbeLink

/-- An error that is neither about the call nor about the layout of an answer. -/
def Error.Foreign (e : Error) : Prop :=
  e.kind ≠ .argument ∧ ∀ reason, e ≠ .protocol (.malformed reason)

theorem Error.OfTransfer.foreign {e : Error} (h : e.OfTransfer) : e.Foreign := by
  cases h <;> simp [Error.Foreign, Error.kind]

namespace Registry

open Transport

variable {β α γ : Type}

/-! ### How a call goes on -/

/-- A call that does nothing more on the transport than what was done before: it only writes log
lines. -/
structure Ends (opened : Outcome (Transport β) Bytes) (outcome : Outcome (Transport β) α) :
    Prop where
  state : outcome.state = opened.state
  events : ∃ lines, Quiet lines ∧ outcome.events = opened.events ++ lines

/-- A call that refuses a header: it ends, with nothing left to write or to read. -/
structure Refuses (fault : ProtocolError) (opened : Outcome (Transport β) Bytes)
    (outcome : Outcome (Transport β) α) : Prop extends Ends opened outcome where
  result : outcome.result = .error (.protocol fault)
  written : outcome.state.writeRemaining = 0
  complete : outcome.state.readExpected = 0

/-- A call that goes on with a read operation of so many bytes. It fails if that fails; what else
comes of it, `good` says. -/
structure ReadsOn [Backend β] (length : Nat) (opened : Outcome (Transport β) Bytes)
    (good : Except Error α → Prop) (outcome : Outcome (Transport β) α) : Prop where
  started : (startRead length opened.state).result = .ok ()
  state : outcome.state = (read length (startRead length opened.state).state).state
  events : ∃ lines, Quiet lines ∧ outcome.events =
    opened.events ++ ((startRead length opened.state).events ++
      (read length (startRead length opened.state).state).events) ++ lines
  failed : ∀ e, (read length (startRead length opened.state).state).result = .error e →
    outcome.result = .error e
  succeeded : ∀ rest, (read length (startRead length opened.state).state).result = .ok rest →
    good outcome.result

/-- How a call of the registry goes on with this header: `good` says what a complete answer
gives. -/
structure HeaderDecides [Backend β] (header : Header) (opened : Outcome (Transport β) Bytes)
    (good : Except Error α → Prop) (outcome : Outcome (Transport β) α) : Prop where
  tooManyConnections : maxConnections < header.count →
    Refuses (.tooManyConnections header.count) opened outcome
  invalidEntrySize : header.count ≤ maxConnections →
    header.entryLength ≠ Connection.entryLength →
      Refuses (.invalidEntrySize header.entryLength) opened outcome
  responseTooLarge : header.count ≤ maxConnections →
    header.entryLength = Connection.entryLength → maxLength < header.answerLength →
      Refuses (.responseTooLarge header.answerLength) opened outcome
  complete : header.count ≤ maxConnections →
    header.entryLength = Connection.entryLength → header.answerLength ≤ firstLength →
      Ends opened outcome ∧ good outcome.result
  incomplete : header.count ≤ maxConnections →
    header.entryLength = Connection.entryLength → header.answerLength ≤ maxLength →
      firstLength < header.answerLength →
        ReadsOn (header.answerLength - firstLength) opened good outcome

/-- The connections and the text that a header announces. -/
structure Announced (header : Header) (connections : List Connection) (info : Option Bytes) :
    Prop where
  connections : connections.length = header.count
  noInfo : info = none ↔ header.infoLength = 0
  info : ∀ text, info = some text → text.length = header.infoLength

/-- What a complete answer with this header gives for registering. -/
def Registers (header : Header) (result : Except Error Registration) : Prop :=
  (header.handle = 0 → result = .error (.protocol .invalidHandle)) ∧
    (header.handle ≠ 0 → ∃ registration, result = .ok registration ∧
      Announced header registration.connections registration.info)

/-- What a complete answer with this header gives for unregistering. -/
def Unregisters (header : Header) (result : Except Error Unregistration) : Prop :=
  ∃ unregistration, result = .ok unregistration ∧
    Announced header unregistration.connections unregistration.info

/-- What a complete answer with this header gives for either. -/
def Answers (header : Header) (result : Except Error Answer) : Prop :=
  ∃ answer, result = .ok answer ∧ answer.handle = header.handle ∧
    Announced header answer.connections answer.info

/-! ### What comes after the answer -/

section After

variable {opened : Outcome (Transport β) Bytes} {outcome : Outcome (Transport β) α}
  {outcome' : Outcome (Transport β) γ}

/-- An outcome that differs from another one by log lines and by what it makes of a good result. -/
structure Concludes (outcome : Outcome (Transport β) α) (outcome' : Outcome (Transport β) γ) :
    Prop where
  state : outcome'.state = outcome.state
  events : ∃ lines, Quiet lines ∧ outcome'.events = outcome.events ++ lines
  failed : ∀ e, outcome.result = .error e → outcome'.result = .error e

theorem ends_of_quiet {lines : List Event} {result : Except Error α} {state : Transport β}
    (hstate : state = opened.state) (h : Quiet lines) :
    Ends opened ⟨result, state, opened.events ++ lines⟩ :=
  ⟨hstate, lines, h, rfl⟩

theorem refuses_of_quiet {lines : List Event} {fault : ProtocolError} (h : Quiet lines)
    (hwritten : opened.state.writeRemaining = 0) (hcomplete : opened.state.readExpected = 0) :
    Refuses fault opened
      (⟨.error (.protocol fault), opened.state, opened.events ++ lines⟩ : Outcome _ α) :=
  ⟨ends_of_quiet rfl h, rfl, hwritten, hcomplete⟩

theorem Concludes.ends (h : Concludes outcome outcome') (hends : Ends opened outcome) :
    Ends opened outcome' := by
  obtain ⟨lines, hquiet, hevents⟩ := hends.events
  obtain ⟨lines', hquiet', hevents'⟩ := h.events
  refine ⟨h.state.trans hends.state, lines ++ lines', quiet_append.2 ⟨hquiet, hquiet'⟩, ?_⟩
  rw [hevents', hevents, List.append_assoc]

theorem Concludes.refuses {fault : ProtocolError} (h : Concludes outcome outcome')
    (hrefuses : Refuses fault opened outcome) : Refuses fault opened outcome' where
  toEnds := h.ends hrefuses.toEnds
  result := h.failed _ hrefuses.result
  written := by
    rw [h.state]
    exact hrefuses.written
  complete := by
    rw [h.state]
    exact hrefuses.complete

variable [Backend β] {header : Header} {good : Except Error α → Prop}
  {good' : Except Error γ → Prop}

theorem Concludes.readsOn {length : Nat} (h : Concludes outcome outcome')
    (hgood : good outcome.result → good' outcome'.result)
    (hreads : ReadsOn length opened good outcome) : ReadsOn length opened good' outcome' := by
  obtain ⟨lines, hquiet, hevents⟩ := hreads.events
  obtain ⟨lines', hquiet', hevents'⟩ := h.events
  refine ⟨hreads.started, h.state.trans hreads.state, ⟨lines ++ lines', ?_, ?_⟩, ?_, ?_⟩
  · exact quiet_append.2 ⟨hquiet, hquiet'⟩
  · rw [hevents', hevents, List.append_assoc]
  · exact fun e he => h.failed e (hreads.failed e he)
  · exact fun rest hrest => hgood (hreads.succeeded rest hrest)

theorem Concludes.headerDecides (h : Concludes outcome outcome')
    (hgood : good outcome.result → good' outcome'.result)
    (hdecides : HeaderDecides header opened good outcome) :
    HeaderDecides header opened good' outcome' where
  tooManyConnections hcount := h.refuses (hdecides.tooManyConnections hcount)
  invalidEntrySize hcount hentry := h.refuses (hdecides.invalidEntrySize hcount hentry)
  responseTooLarge hcount hentry hlong := h.refuses (hdecides.responseTooLarge hcount hentry hlong)
  complete hcount hentry hshort :=
    have ⟨hends, hresult⟩ := hdecides.complete hcount hentry hshort
    ⟨h.ends hends, hgood hresult⟩
  incomplete hcount hentry hmax hlong :=
    h.readsOn hgood (hdecides.incomplete hcount hentry hmax hlong)

end After

/-! ### The answer -/

theorem length_entries (count : Nat) (table : Bytes) :
    (Answer.entries count table).length = count := by
  induction count generalizing table with
  | zero => rfl
  | succ count ih => rw [Answer.entries, List.length_cons, ih]

/-- **An answer as long as its header announces has what the header announces.** -/
theorem announced_decode {header : Header} {answer : Bytes}
    (hlength : header.answerLength ≤ answer.length) :
    Announced header (Answer.decode header answer).connections
      (Answer.decode header answer).info := by
  rw [Header.answerLength] at hlength
  have htext : (Bytes.slice (headerLength + header.tableLength) header.infoLength answer).length =
      header.infoLength := by
    rw [Bytes.slice, List.length_take, List.length_drop]
    omega
  refine ⟨?_, ?_, ?_⟩
  · rw [Answer.decode, List.length_map, length_entries]
  · simp [Answer.decode]
  · intro text hinfo
    simp only [Answer.decode] at hinfo
    split at hinfo
    · cases hinfo
      exact htext
    · cases hinfo

variable [Backend β] {t : Transport β} {command : Command} {c : Connection}

/-- An exchange whose answer is longer than its first part reads the rest. -/
theorem readsOn_readRest {length : Nat} (hlong : firstLength < length)
    (opened : Outcome (Transport β) Bytes) {good : Except Error α → Prop} (value : Bytes → α)
    (hgood : ∀ rest, rest.length = length - firstLength → good (.ok (value rest))) :
    ReadsOn (length - firstLength) opened good
      (((readRest length opened.state).map value).after opened.events) := by
  have hstart := startRead_of_pos (Nat.sub_pos_of_lt hlong) opened.state
  have hstate := congrArg Outcome.state hstart
  have hlength : ∀ rest, (readRest length opened.state).result = .ok rest →
      rest.length = length - firstLength := fun _ => length_of_readRest
  rw [readRest_of_gt hlong] at hlength ⊢
  constructor
  case started => exact congrArg Outcome.result hstart
  case state =>
    rw [hstate]
    rfl
  case events =>
    refine ⟨[], quiet_nil, ?_⟩
    rw [hstate, List.append_nil]
    rfl
  case failed =>
    intro e he
    rw [hstate] at he
    rw [Outcome.result_after, Outcome.result_map, Outcome.result_after, he]
    rfl
  case succeeded =>
    intro rest hrest
    rw [hstate] at hrest
    rw [Outcome.result_after, Outcome.result_map, Outcome.result_after, hrest]
    exact hgood rest (hlength rest hrest)

/-- **The header decides an exchange.** -/
theorem exchange_decides {first : Bytes} (hfirst : (opening command c t).result = .ok first) :
    HeaderDecides (Header.decode first) (opening command c t) (Answers (Header.decode first))
      (exchange command c t) := by
  obtain ⟨hlength, hwritten, hcomplete⟩ := opening_complete hfirst
  generalize hheader : Header.decode first = header
  have hrefuses : ∀ fault, header.fault? = some fault →
      Refuses fault (opening command c t) (exchange command c t) := by
    intro fault hfault
    rw [exchange_of_fault hfirst (hheader ▸ hfault)]
    refine refuses_of_quiet ?_ hwritten hcomplete
    cases faultNotice fault <;> simp
  have haccepts : header.count ≤ maxConnections →
      header.entryLength = Connection.entryLength → header.answerLength ≤ maxLength →
        exchange command c t = ((readRest header.answerLength (opening command c t).state).map
          fun rest => Answer.decode header (first ++ rest)).after (opening command c t).events := by
    intro hcount hentry hmax
    have hnone := Header.fault?_eq_none hcount hentry hmax
    rw [exchange_of_opened hfirst (hheader ▸ hnone), hheader]
  refine ⟨?_, ?_, ?_, ?_, ?_⟩
  · intro hcount
    exact hrefuses _ (if_pos hcount)
  · intro hcount hentry
    refine hrefuses _ ?_
    rw [Header.fault?, if_neg (Nat.not_lt_of_le hcount), if_pos hentry]
  · intro hcount hentry hlong
    refine hrefuses _ ?_
    rw [Header.fault?, if_neg (Nat.not_lt_of_le hcount), if_neg (fun h => h hentry), if_pos hlong]
  · intro hcount hentry hshort
    rw [haccepts hcount hentry (Nat.le_trans hshort (by decide)), readRest_of_le hshort]
    have hall : header.answerLength ≤ (first ++ []).length := by
      rw [List.append_nil, hlength]
      exact hshort
    exact ⟨ends_of_quiet rfl quiet_nil, Answer.decode header (first ++ []), rfl, rfl,
      announced_decode hall⟩
  · intro hcount hentry hmax hlong
    rw [haccepts hcount hentry hmax]
    refine readsOn_readRest hlong _ _ fun rest hrest => ?_
    have hall : header.answerLength ≤ (first ++ rest).length := by
      rw [List.length_append, hlength, hrest]
      omega
    exact ⟨Answer.decode header (first ++ rest), rfl, rfl, announced_decode hall⟩

theorem foreign_of_fault {header : Header} {fault : ProtocolError}
    (h : header.fault? = some fault) : (Error.protocol fault).Foreign := by
  unfold Header.fault? at h
  split at h
  · cases h
    simp [Error.Foreign, Error.kind]
  · split at h
    · cases h
      simp [Error.Foreign, Error.kind]
    · split at h
      · cases h
        simp [Error.Foreign, Error.kind]
      · cases h

/-- An exchange fails only in its transfers or by the header. -/
theorem exchange_foreign {e : Error} (h : (exchange command c t).result = .error e) :
    e.Foreign := by
  cases hopening : (opening command c t).result with
  | error e' =>
    rw [exchange_of_error hopening] at h
    cases h
    exact (opening_error hopening).foreign
  | ok first =>
    cases hfault : (Header.decode first).fault? with
    | some fault =>
      rw [exchange_of_fault hopening hfault] at h
      cases h
      exact foreign_of_fault hfault
    | none =>
      rw [exchange_of_opened hopening hfault] at h
      cases hrest : (readRest (Header.decode first).answerLength (opening command c t).state).result with
      | error e' =>
        rw [Outcome.result_after, Outcome.result_map, hrest] at h
        cases h
        exact (readRest_error hrest).foreign
      | ok rest =>
        rw [Outcome.result_after, Outcome.result_map, hrest] at h
        cases h

/-! ### The calls -/

theorem concludes_register (c : Connection) (t : Transport β) :
    Concludes (exchange .register c t) (register c t) := by
  cases hresult : (exchange .register c t).result with
  | error e =>
    rw [register_of_error hresult]
    refine ⟨rfl, ⟨[], quiet_nil, (List.append_nil _).symm⟩, fun e' he => ?_⟩
    rw [hresult] at he
    cases he
    rfl
  | ok answer =>
    by_cases hh : answer.handle = 0
    · rw [register_of_no_handle hresult hh]
      refine ⟨rfl, ⟨_, quiet_noted _, rfl⟩, fun e he => ?_⟩
      rw [he] at hresult
      cases hresult
    · rw [register_of_handle hresult hh]
      refine ⟨rfl, ⟨[], quiet_nil, (List.append_nil _).symm⟩, fun e he => ?_⟩
      rw [he] at hresult
      cases hresult

theorem concludes_unregister (c : Connection) (t : Transport β) :
    Concludes (exchange .unregister c t) (unregister c t) := by
  rw [unregister_eq]
  refine ⟨rfl, ⟨[], quiet_nil, (List.append_nil _).symm⟩, fun e he => ?_⟩
  rw [Outcome.result_map, he]
  rfl

theorem register_foreign {e : Error} (h : (register c t).result = .error e) : e.Foreign := by
  cases hresult : (exchange .register c t).result with
  | error e' =>
    have hsame := (concludes_register c t).failed e' hresult
    rw [h] at hsame
    cases hsame
    exact exchange_foreign hresult
  | ok answer =>
    by_cases hh : answer.handle = 0
    · rw [register_of_no_handle hresult hh] at h
      cases h
      simp [Error.Foreign, Error.kind]
    · rw [register_of_handle hresult hh] at h
      cases h

theorem unregister_foreign {e : Error} (h : (unregister c t).result = .error e) : e.Foreign := by
  rw [unregister_eq, Outcome.result_map] at h
  cases hresult : (exchange .unregister c t).result with
  | error e' =>
    rw [hresult] at h
    cases h
    exact exchange_foreign hresult
  | ok answer =>
    rw [hresult] at h
    cases h

theorem registers_of_answers {header : Header}
    (h : Answers header (exchange .register c t).result) :
    Registers header (register c t).result := by
  obtain ⟨answer, hresult, hhandle, hannounced⟩ := h
  constructor
  · intro hzero
    rw [register_of_no_handle hresult (hhandle.trans hzero)]
  · intro hne
    rw [register_of_handle hresult (fun h => hne (hhandle.symm.trans h))]
    exact ⟨_, rfl, hannounced⟩

theorem unregisters_of_answers {header : Header}
    (h : Answers header (exchange .unregister c t).result) :
    Unregisters header (unregister c t).result := by
  obtain ⟨answer, hresult, -, hannounced⟩ := h
  rw [unregister_eq, Outcome.result_map, hresult]
  exact ⟨_, rfl, hannounced⟩

/-- **Nothing that a device sends can confuse the registry.** Whatever operations came before, and
whatever the device does, a call of the registry runs on the machine that stops at the first slip,
and blames neither the caller nor the layout of an answer. If the first part of the answer comes in,
it is complete, and its header decides how the call goes on. -/
theorem registry_robust (config : ValidConfig) (backend : β) (history : List Operation)
    (c : Connection) (hmemory : config.bufferSize < UInt64.size) :
    let t := Operation.stateAfter history (fresh config backend)
    (registerGuarded c t = some (register c t) ∧ unregisterGuarded c t = some (unregister c t)) ∧
    ((∀ e, (register c t).result = .error e → e.Foreign) ∧
      ∀ e, (unregister c t).result = .error e → e.Foreign) ∧
    (∀ first, (opening .register c t).result = .ok first → first.length = firstLength ∧
      HeaderDecides (Header.decode first) (opening .register c t) (Registers (Header.decode first))
        (register c t)) ∧
    ∀ first, (opening .unregister c t).result = .ok first → first.length = firstLength ∧
      HeaderDecides (Header.decode first) (opening .unregister c t)
        (Unregisters (Header.decode first)) (unregister c t) := by
  intro t
  obtain ⟨hconfig, _, hbounds⟩ := inBounds_stateAfter history (inBounds_fresh config backend)
  have hmemory' : t.config.bufferSize < UInt64.size := by rwa [show t.config = config from hconfig]
  refine ⟨⟨?_, ?_⟩, ⟨fun _ => register_foreign, fun _ => unregister_foreign⟩, ?_, ?_⟩
  · exact registerGuarded_eq c hbounds hmemory'
  · exact unregisterGuarded_eq c hbounds hmemory'
  · intro first hfirst
    exact ⟨(opening_complete hfirst).1, (concludes_register c t).headerDecides registers_of_answers
      (exchange_decides hfirst)⟩
  · intro first hfirst
    exact ⟨(opening_complete hfirst).1,
      (concludes_unregister c t).headerDecides unregisters_of_answers (exchange_decides hfirst)⟩

/-- A device that counts seventeen connections is refused, although a read operation was left open
before. -/
theorem seventeen_connections_refused :
    let first : Bytes := [1, 0, 17, 0, 16, 0, 0, 0] ++ List.replicate 68 0
    let t := Operation.stateAfter [.startRead 9]
      (fresh ValidConfig.default (⟨[.moved first], []⟩ : Backend.Script))
    let c := Connection.unregistered 1
    ValidConfig.default.bufferSize < UInt64.size ∧
      registerGuarded c t = some (register c t) ∧
      (register c t).result = .error (.protocol (.tooManyConnections 17)) ∧
      (register c t).state.writeRemaining = 0 ∧ (register c t).state.readExpected = 0 := by
  intro first t c
  have hmemory : ValidConfig.default.bufferSize < UInt64.size := by decide
  have hfits : ∀ piece ∈ [first], piece ≠ [] ∧ piece.length ≤ ValidConfig.default.chunkSize := by
    decide
  have hserved : Served (request .register c) [first] t :=
    ⟨(Backend.Script.served (request .register c) hfits).taken,
      (Backend.Script.served (request .register c) hfits).answered⟩
  have hopened := exchange_of_served (length_request_pos .register c) (show 0 < firstLength by decide)
    hserved (by decide) (.inr (cutAt_all [first]))
  have hfirst : (opening .register c t).result = .ok first := hopened.result
  obtain ⟨⟨hguarded, -⟩, -, hregister, -⟩ := registry_robust ValidConfig.default
    (⟨[.moved first], []⟩ : Backend.Script) [.startRead 9] c hmemory
  have hrefuses := (hregister first hfirst).2.tooManyConnections (by decide)
  exact ⟨hmemory, hguarded, hrefuses.result, hrefuses.written, hrefuses.complete⟩

end Registry

end ProbeLink
