import Mathlib
import ProbeLink.Backend.Responder
import ProbeLink.Proofs.RegistryCalls
import ProbeLink.Proofs.Sequence

/-!
# ProbeLink.Proofs.Visit

**A visit of the command line goes through its requests in order, and stops at the first that fails**
(`disciplined`, `visit_disciplined`).

The answer to the first question settles which commands there are (`canonicalCommands`): its bits say
whether there is a second question, and whether the device keeps a registry. Who has registered
unregisters, under the handle that the device gave out, and tells about everybody else.
-/

namespace ProbeLink

variable {β : Type} [Backend β]

namespace CommandLine

open Transport

variable {willing : β → Prop} {t : Transport β}

/-! ### The commands of a visit -/

/-- The first answer of a device to a new session, if it comes: four bytes of a bit field. -/
def capabilityAnswer (t : Transport β) : Bytes :=
  match (exchange Capabilities.request 4 t).result with
  | .ok answer => answer
  | .error _ => []

/-- Is a bit of a bit field set? -/
def bitOf (field : Bytes) (k : Nat) : Bool := (field.getD (k / 8) 0).toNat.testBit (k % 8)

/-- The client as the device registers it, if it does. -/
def registeredAs (processId : UInt32) (t : Transport β) : Connection :=
  match (Registry.register (Connection.unregistered processId) t).result with
  | .ok registration => registration.connection
  | .error _ => Connection.unregistered processId

/-- The commands that ask the device what it can do. -/
def questions (answer : Bytes) : List Operation :=
  .askCapabilities :: if bitOf answer 31 then [.askExtendedCapabilities] else []

/-- The commands that register with a device and leave it again, if it keeps a registry. -/
def stay (processId : UInt32) (answer : Bytes) (registered : Connection) : List Operation :=
  if bitOf answer 27 then [.register (Connection.unregistered processId), .unregister registered]
  else []

/-- All commands of a visit. -/
def canonicalCommands (processId : UInt32) (answer : Bytes) (registered : Connection) :
    List Operation :=
  questions answer ++ stay processId answer registered

omit [Backend β] in
theorem hasBit_ofRaw (raw : Bytes) {k : Nat} (h : k < 256) :
    (Capabilities.ofRaw raw).hasBit k = bitOf raw k := by
  rw [Capabilities.hasBit, bitOf, Capabilities.getD_field_ofRaw raw (by omega)]

/-- The capabilities are what the first answer says. -/
theorem ask_ok {capabilities : Capabilities} (h : (Capabilities.ask t).result = .ok capabilities) :
    Capabilities.ofRaw (capabilityAnswer t) = capabilities := by
  rw [Capabilities.ask, Run.map_apply, Outcome.result_map] at h
  rw [capabilityAnswer]
  cases hexchange : (exchange Capabilities.request 4 t).result with
  | error e =>
    rw [hexchange] at h
    cases h
  | ok raw =>
    rw [hexchange] at h
    exact Except.ok.inj h

theorem state_askCapabilities (t : Transport β) :
    (Operation.perform .askCapabilities t).state = (Capabilities.ask t).state := by
  rw [Operation.perform, Run.map_apply, Outcome.state_map]

theorem state_askExtendedCapabilities (t : Transport β) :
    (Operation.perform .askExtendedCapabilities t).state = (Capabilities.askExtended t).state := by
  rw [Operation.perform, Run.map_apply, Outcome.state_map]

/-- The visit of a registry. -/
theorem visitRegistry_plays (h : Obliging willing) (processId : UInt32) (hw : willing t.backend) :
    Plays willing [] [.register (Connection.unregistered processId),
      .unregister (registeredAs processId t)] t (visitRegistry processId t) := by
  refine plays_cons h (Run.map_apply _ _ t) rfl hw ?_
  intro registration hregistered hw'
  have hconnection : registeredAs processId t = registration.connection := by
    rw [registeredAs, hregistered]
  have hsaid : otherLines (.ok (.registration registration)) =
      (registration.others.map otherLine).filter isOtherLine ++ [] := by
    have hall : ∀ line ∈ registration.others.map otherLine, isOtherLine line = true := by
      intro line hmem
      obtain ⟨c, -, rfl⟩ := List.mem_map.1 hmem
      exact isOtherLine_otherLine c
    rw [List.append_nil, List.filter_eq_self.2 hall]
    rfl
  rw [hconnection, hsaid]
  refine Plays.note ?_ (isOtherLine_registered registration.connection.handle)
  have htold : registration.others.map (fun c => Notice.told (otherLine c)) =
      (registration.others.map otherLine).map Notice.told := by
    rw [List.map_map]
    rfl
  rw [htold]
  refine Plays.noteAll ?_ _
  refine plays_cons h (Run.map_apply _ _ _) rfl hw' ?_
  intro unregistration hunregistered hw''
  exact plays_last hw'' (isOtherLine_unregistered _)

/-- The stay with a device that keeps a registry. -/
theorem stay_plays (h : Obliging willing) (processId : UInt32) {answer : Bytes}
    {capabilities : Capabilities}
    (hbit : capabilities.contains .register = bitOf answer 27) (hw : willing t.backend) :
    Plays willing [] (stay processId answer (registeredAs processId t)) t
      ((if capabilities.contains .register then visitRegistry processId else pure ()) t) := by
  rw [hbit, stay]
  cases bitOf answer 27 with
  | false => exact plays_nothing hw
  | true => exact visitRegistry_plays h processId hw

/-- What follows the first question: the second one if bit 31 says so, and the stay. -/
theorem rest_plays (h : Obliging willing) (processId : UInt32) {answer : Bytes}
    {capabilities : Capabilities}
    (hextended : capabilities.contains .getExtCaps = bitOf answer 31)
    (hregister : capabilities.contains .register = bitOf answer 27) (hw : willing t.backend) :
    let extended : List Operation := if bitOf answer 31 then [.askExtendedCapabilities] else []
    let registered := registeredAs processId (Operation.stateAfter extended t)
    let last : Run (Transport β) Unit :=
      if capabilities.contains .register then visitRegistry processId else pure ()
    Plays willing [] (extended ++ stay processId answer registered) t
      ((if capabilities.contains .getExtCaps then do
          let set ← Capabilities.askExtended
          Run.note (.told ("ext caps " ++ set.describe))
          last
        else last) t) := by
  intro extended registered last
  rw [hextended]
  cases hbit : bitOf answer 31 with
  | false =>
    have hnone : extended = [] := by simp only [extended, hbit]; rfl
    simp only [registered, hnone]
    exact stay_plays h processId hregister hw
  | true =>
    have hone : extended = [.askExtendedCapabilities] := by simp only [extended, hbit]; rfl
    simp only [registered, hone]
    refine plays_cons h (Run.map_apply _ _ t) rfl hw ?_
    intro set hasked hw'
    refine Plays.note ?_ (isOtherLine_extended _)
    have hstate : Operation.stateAfter [.askExtendedCapabilities] t =
        (Capabilities.askExtended t).state := state_askExtendedCapabilities t
    rw [hstate]
    exact stay_plays h processId hregister hw'

/-- **An inspection goes through the commands of a visit.** -/
theorem inspect_plays (h : Obliging willing) (processId : UInt32) (hw : willing t.backend) :
    let answer := capabilityAnswer t
    let registered := registeredAs processId (Operation.stateAfter (questions answer) t)
    Plays willing [] (canonicalCommands processId answer registered) t (inspect processId t) := by
  intro answer registered
  refine plays_cons h (Run.map_apply _ _ t) rfl hw ?_
  intro capabilities hasked hw'
  obtain rfl : Capabilities.ofRaw answer = capabilities := ask_ok hasked
  refine Plays.note ?_ (isOtherLine_capabilities _)
  have hstate : Operation.stateAfter (questions answer) t =
      Operation.stateAfter (if bitOf answer 31 then [.askExtendedCapabilities] else [])
        (Capabilities.ask t).state :=
    congrArg (Operation.stateAfter _) (state_askCapabilities t)
  simp only [registered, hstate]
  exact rest_plays h processId (hasBit_ofRaw answer (by decide)) (hasBit_ofRaw answer (by decide)) hw'

/-! ### The requests of a visit -/

/-- A request to the registry of a client on this host: the process that runs it, no address of its own,
and a handle. -/
def registryRequest (action : UInt8) (processId : UInt32) (handle : UInt16) : Bytes :=
  [0x09, action] ++ Bytes.ofNat 4 processId.toNat ++ [0, 0, 0, 0, 0, 0] ++
    Bytes.ofNat 2 handle.toNat

/-- The requests of a whole visit, given the first answer of the device and the handle that it gives
out: `e8`; then `ed`, if bit 31 of the answer is set; then, if bit 27 of it is set, the request that
registers a client without a handle and the one that unregisters it under its handle. -/
def canonicalRequests (processId : UInt32) (answer : Bytes) (handle : UInt16) : List Bytes :=
  [0xe8] :: ((if bitOf answer 31 then [[0xed]] else []) ++
    if bitOf answer 27 then
      [registryRequest 0x64 processId 0, registryRequest 0x65 processId handle]
    else [])

/-- Registering changes the handle and the time of a client, and the time is not sent. -/
theorem request_registeredAs (processId : UInt32) (t : Transport β) :
    Registry.request .unregister (registeredAs processId t) =
      registryRequest 0x65 processId (registeredAs processId t).handle := by
  have hsame : (registeredAs processId t).pid = processId ∧
      (registeredAs processId t).hid = IPv4.unspecified ∧
      (registeredAs processId t).iid = 0 ∧ (registeredAs processId t).cid = 0 := by
    rw [registeredAs]
    cases hregister : (Registry.register (Connection.unregistered processId) t).result with
    | error e => exact ⟨rfl, rfl, rfl, rfl⟩
    | ok registration =>
      obtain ⟨answer, -, -, rfl⟩ := Registry.register_ok hregister
      exact ⟨rfl, rfl, rfl, rfl⟩
  obtain ⟨hpid, hhid, hiid, hcid⟩ := hsame
  simp [Registry.request, registryRequest, hpid, hhid, hiid, hcid, IPv4.octets, IPv4.unspecified,
    Registry.Command.code]

theorem written_canonicalCommands (processId : UInt32) (answer : Bytes) (t : Transport β) :
    (canonicalCommands processId answer (registeredAs processId t)).map Operation.written =
      canonicalRequests processId answer (registeredAs processId t).handle := by
  have hfirst : Registry.request .register (Connection.unregistered processId) =
      registryRequest 0x64 processId 0 := by
    simp [Registry.request, registryRequest, Connection.unregistered, IPv4.octets,
      IPv4.unspecified, Registry.Command.code]
  rw [canonicalCommands, canonicalRequests, questions, stay, List.map_append]
  cases bitOf answer 31 <;> cases bitOf answer 27 <;>
    simp [Operation.written, Capabilities.request, Capabilities.extendedRequest, hfirst,
      request_registeredAs]

/-! ### A session for a visit -/

/-- A session just opened on a device just found. -/
def opened (device : Device) (t : Transport β) : Session β where
  device := device
  isOpen := true
  references := 2
  kept := 0
  transport? := some t

omit [Backend β] in
theorem openWith_found {memory : Nat} {config : ValidConfig} {device : Device} {backend : β}
    (h : config.bufferSize ≤ memory) :
    Session.openWith memory config (.ok backend) (Session.found device) =
      ⟨.ok (), opened device (fresh config backend), []⟩ := by
  simp [Session.openWith, Session.found, Session.connect, Transport.create, h, opened]

omit [Backend β] in
theorem use_opened (run : Run (Transport β) Unit) (device : Device) (t : Transport β) :
    Session.use run (opened device t) = (run t).inState (opened device) := rfl

/-- A connection that can be given up is closed without a word. -/
theorem finish_opened {device : Device} (h : Backend.releaseError? t.backend = none) :
    Session.finish (opened device t) = ⟨.ok (), (opened device t).ended, []⟩ := by
  show Session.close t (opened device t) = _
  rw [Session.close, h]

/-- Opening and closing a session adds nothing to an inspection: no event, and no failure. -/
theorem visit_inspects (h : Obliging willing) {env : Environment β} {device : Device} {backend : β}
    (hconnect : env.connect device = .ok backend)
    (hmemory : ValidConfig.default.bufferSize ≤ env.memory) (hw : willing backend) :
    let inspected := inspect env.processId (fresh ValidConfig.default backend)
    let visited := visit env device (Session.found device)
    visited.events = inspected.events ∧ visited.result = inspected.result := by
  intro inspected visited
  have hplays : willing inspected.state.backend := (inspect_plays h env.processId hw).willing
  have hvisited : visited = (Session.use (inspect env.processId) >>= fun _ => Session.finish)
      (opened device (fresh ValidConfig.default backend)) := by
    have hopened : Session.openWith env.memory ValidConfig.default (env.connect device)
        (Session.found device) = ⟨.ok (), opened device (fresh ValidConfig.default backend), []⟩ := by
      rw [hconnect]
      exact openWith_found hmemory
    simp only [visited, visit]
    rw [Run.bind_of_ok _ hopened]
    rfl
  have hused := use_opened (inspect env.processId) device (fresh ValidConfig.default backend)
  cases hresult : inspected.result with
  | error e =>
    have hfails : (Session.use (inspect env.processId)
        (opened device (fresh ValidConfig.default backend))).result = .error e := by
      rw [hused]
      exact hresult
    rw [hvisited, Run.bind_of_result_error _ hfails]
    exact ⟨rfl, rfl⟩
  | ok u =>
    have hsucceeds : (Session.use (inspect env.processId)
        (opened device (fresh ValidConfig.default backend))).result = .ok u := by
      rw [hused]
      exact hresult
    have hfinished : Session.finish (opened device inspected.state) =
        ⟨.ok (), (opened device inspected.state).ended, []⟩ := finish_opened (h.releases _ hplays)
    rw [hvisited, Run.bind_of_result_ok _ hsucceeds, hused]
    show (Outcome.after _ (Session.finish (opened device inspected.state))).events = _ ∧
      (Outcome.after _ (Session.finish (opened device inspected.state))).result = _
    rw [hfinished]
    exact ⟨List.append_nil _, rfl⟩

/-- The command line, given the selector of a device on the network, comes to this connection: the host
has an address, somebody listens there, and there is memory for the buffer. -/
structure Reaches (env : Environment β) (text : String) (backend : β) : Prop where
  found : ∃ host port device, DeviceSelector.ofText text = .ok (.tcp host port) ∧
    env.surroundings.find (.tcp host port) = .ok device ∧ env.connect device = .ok backend
  memory : ValidConfig.default.bufferSize ≤ env.memory

/-- The report on a visit is that on its inspection. -/
theorem run_inspects (h : Obliging willing) {env : Environment β} {text : String} {backend : β}
    (hreaches : Reaches env text backend) (hw : willing backend) :
    let inspected := inspect env.processId (fresh ValidConfig.default backend)
    let report := run env (some text)
    report.events = inspected.events ∧
      (report.exitCode = 0 ↔ inspected.result.isOk = true) := by
  intro inspected report
  obtain ⟨⟨host, port, device, htext, hfind, hconnect⟩, hmemory⟩ := hreaches
  obtain ⟨hevents, hresult⟩ := visit_inspects h hconnect hmemory hw
  have hcandidates : candidates env (.tcp host port) = .ok [] := if_neg (by simp)
  simp only [report, run, htext, runSelector, hcandidates, hfind, hresult, List.map_nil,
    List.nil_append]
  cases inspected.result with
  | error e =>
    refine ⟨hevents, iff_of_false ?_ (fun hok => by cases hok)⟩
    simp [Report.failed, Report.exitCode]
  | ok u => exact ⟨hevents, iff_of_true rfl rfl⟩

/-! ### The discipline of a visit -/

/-- What there is to say about a visit, given the requests of the whole visit and what the commands
behind them come to, one after the other. -/
structure Disciplined (processId : UInt32) (canonical : List Bytes)
    (outcomes : List (Outcome (Transport β) Reply)) (report : Report) : Prop where
  /-- Each request is that of one command. -/
  paired : outcomes.length = canonical.length
  /-- The requests are sent in order, from the first on. -/
  inOrder : report.requests <+: canonical
  /-- The first is sent in any case. -/
  first : 0 < report.requests.length
  /-- Any other is sent exactly if the one before it is, and its command succeeds. -/
  next : ∀ i, i + 1 < canonical.length →
    (i + 1 < report.requests.length ↔
      i < report.requests.length ∧ Operation.Succeeded outcomes i)
  /-- Who has registered unregisters, under the handle that the device gave out, and that is all. -/
  leaves : ∀ i outcome registration, i < report.requests.length → outcomes[i]? = some outcome →
    outcome.result = .ok (.registration registration) →
      report.requests.length = i + 2 ∧ report.requests.getLast? =
        some (registryRequest 0x65 processId registration.connection.handle)
  /-- The exit status tells whether all of them are sent and answered well. -/
  exit : report.exitCode = 0 ↔
    report.requests = canonical ∧ ∀ outcome ∈ outcomes, outcome.result.isOk = true
  /-- There is a line about each of the other clients that the registration found, in the order of the
  table and about nobody else: it gives the client's handle, process, address and time. -/
  others : report.exitCode = 0 → report.told.filter isOtherLine =
    outcomes.flatMap fun outcome => (otherClients outcome.result).map fun c =>
      "  other connection: handle " ++ Nat.repr c.handle.toNat ++
        " pid " ++ Nat.repr c.pid.toNat ++
        " host " ++ (Nat.repr c.hid.a.toNat ++ "." ++ Nat.repr c.hid.b.toNat ++ "." ++
          Nat.repr c.hid.c.toNat ++ "." ++ Nat.repr c.hid.d.toNat) ++
        " (" ++ Nat.repr c.timestamp.toNat ++ " ms)"

/-- **Going through commands is disciplined**, if a command that registers is the last but one, and the
last one leaves again. -/
theorem Plays.disciplined {commands : List Operation} {played : Outcome (Transport β) Unit}
    (h : Plays willing [] commands t played) (hcommands : 0 < commands.length) {processId : UInt32}
    (hleaves : ∀ {i outcome registration}, (Operation.run commands t)[i]? = some outcome →
      outcome.result = .ok (.registration registration) →
        commands.length = i + 2 ∧ (commands.map Operation.written).getLast? =
          some (registryRequest 0x65 processId registration.connection.handle))
    {report : Report} (hevents : report.events = played.events)
    (hexit : report.exitCode = 0 ↔ played.result.isOk = true) :
    Disciplined processId (commands.map Operation.written) (Operation.run commands t) report := by
  have hrequests : report.requests =
      (commands.take (Operation.tried commands t).length).map Operation.written := by
    show ProbeLink.requests report.events = _
    rw [hevents, h.requests]
  have hcount : report.requests.length = (Operation.tried commands t).length := by
    rw [hrequests, List.length_map, List.length_take,
      Nat.min_eq_left (Operation.length_tried_le commands t)]
  have hall (htried : (Operation.tried commands t).length = commands.length) :
      report.requests = commands.map Operation.written := by
    rw [hrequests, htried, List.take_length]
  refine ⟨?paired, ?inOrder, ?first, ?next, ?leaves, ?exit, ?others⟩
  case paired => rw [Operation.length_run, List.length_map]
  case inOrder =>
    rw [hrequests, List.map_take]
    exact List.take_prefix _ _
  case first =>
    obtain ⟨operation, later, rfl⟩ := List.exists_cons_of_length_pos hcommands
    rw [hcount]
    exact Operation.length_tried_pos operation later t
  case next =>
    intro i hi
    rw [List.length_map] at hi
    rw [hcount]
    exact Operation.lt_length_tried_iff commands t hi
  case leaves =>
    intro i outcome registration hsent houtcome hresult
    obtain ⟨hlength, hlast⟩ := hleaves houtcome hresult
    have hok : outcome.result.isOk = true := by
      rw [hresult]
      rfl
    have htried := Operation.length_tried_of_last hlength (hcount ▸ hsent) ⟨outcome, houtcome, hok⟩
    rw [hcount, htried, hall htried]
    exact ⟨hlength, hlast⟩
  case exit =>
    rw [hexit, h.result]
    refine ⟨fun hok => ⟨hall ?_, hok⟩, And.right⟩
    rw [Operation.tried_eq_run hok, Operation.length_run]
  case others =>
    intro hzero
    have hok := h.result.1 (hexit.1 hzero)
    show (lines report.events).filter isOtherLine = _
    rw [hevents, h.others, Operation.tried_eq_run hok, List.nil_append]
    simp only [otherLines, funext otherLine_eq]

/-- Only registering gives a registration. -/
theorem perform_registration {operation : Operation} {registration : Registration}
    (h : (operation.perform t).result = .ok (.registration registration)) :
    ∃ c, operation = .register c ∧ (Registry.register c t).result = .ok registration := by
  have hmap {α : Type} {run : Run (Transport β) α} {wrap : α → Reply}
      (hrun : ((wrap <$> run) t).result = .ok (.registration registration)) :
      ∃ a, (run t).result = .ok a ∧ wrap a = .registration registration := by
    rw [Run.map_apply, Outcome.result_map] at hrun
    cases hresult : (run t).result with
    | error e => rw [hresult] at hrun; cases hrun
    | ok a => rw [hresult] at hrun; exact ⟨a, rfl, Except.ok.inj hrun⟩
  cases operation with
  | register c =>
    obtain ⟨registered, hregister, hsame⟩ := hmap h
    cases hsame
    exact ⟨c, rfl, hregister⟩
  | _ =>
    obtain ⟨_, _, hother⟩ := hmap h
    cases hother

theorem register_not_mem_questions (answer : Bytes) (c : Connection) :
    Operation.register c ∉ questions answer := by
  cases hbit : bitOf answer 31 <;> simp [questions, hbit]

theorem register_stay {processId : UInt32} {answer : Bytes} {registered c : Connection} {k : Nat}
    (h : (stay processId answer registered)[k]? = some (.register c)) :
    bitOf answer 27 = true ∧ k = 0 ∧ c = Connection.unregistered processId := by
  rw [stay] at h
  split at h
  case isFalse => cases h
  case isTrue hbit =>
    match k with
    | 0 =>
      cases h
      exact ⟨hbit, rfl, rfl⟩
    | 1 => cases h
    | k + 2 => cases h

/-- In a visit only the client of this process registers, right after the questions. -/
theorem register_canonicalCommands {processId : UInt32} {answer : Bytes} {registered c : Connection}
    {i : Nat}
    (h : (canonicalCommands processId answer registered)[i]? = some (.register c)) :
    bitOf answer 27 = true ∧ i = (questions answer).length ∧
      c = Connection.unregistered processId := by
  rw [canonicalCommands, List.getElem?_append] at h
  split at h
  case isTrue => exact absurd (List.mem_of_getElem? h) (register_not_mem_questions answer c)
  case isFalse hlate =>
    obtain ⟨hbit, hfirst, hc⟩ := register_stay h
    exact ⟨hbit, by omega, hc⟩

/-- **A registration is the last but one of the commands of a visit**, and what follows it leaves under
the handle that the device gave out. -/
theorem leaves_canonicalCommands (processId : UInt32) (t : Transport β) {i : Nat}
    {outcome : Outcome (Transport β) Reply} {registration : Registration} :
    let answer := capabilityAnswer t
    let registered := registeredAs processId (Operation.stateAfter (questions answer) t)
    let commands := canonicalCommands processId answer registered
    (Operation.run commands t)[i]? = some outcome →
      outcome.result = .ok (.registration registration) →
        commands.length = i + 2 ∧ (commands.map Operation.written).getLast? =
          some (registryRequest 0x65 processId registration.connection.handle) := by
  intro answer registered commands houtcome hresult
  rw [Operation.getElem?_run, Option.map_eq_some_iff] at houtcome
  obtain ⟨operation, hoperation, rfl⟩ := houtcome
  obtain ⟨c, rfl, hregister⟩ := perform_registration hresult
  obtain ⟨hbit, rfl, rfl⟩ := register_canonicalCommands hoperation
  have hcommands : commands = questions answer ++
      [.register (Connection.unregistered processId), .unregister registered] := by
    simp only [commands, canonicalCommands, stay, hbit, if_true]
  have hquestions : commands.take (questions answer).length = questions answer := by
    rw [hcommands, List.take_left]
  rw [hquestions] at hregister
  have hregistered : registered = registration.connection := by
    simp only [registered, registeredAs, hregister]
  have hlast : (commands.map Operation.written).getLast? =
      some (Registry.request .unregister registered) := by
    rw [hcommands]
    simp [Operation.written]
  refine ⟨?_, ?_⟩
  · rw [hcommands, List.length_append]
    rfl
  · rw [hlast, ← hregistered]
    exact congrArg some (request_registeredAs processId _)

/-- **A visit is disciplined**, over any connection that takes everything. -/
theorem disciplined (h : Obliging willing) {env : Environment β} {text : String} {backend : β}
    (hreaches : Reaches env text backend) (hw : willing backend) :
    let t := fresh ValidConfig.default backend
    let answer := capabilityAnswer t
    let registered := registeredAs env.processId (Operation.stateAfter (questions answer) t)
    Disciplined env.processId (canonicalRequests env.processId answer registered.handle)
      (Operation.run (canonicalCommands env.processId answer registered) t)
      (run env (some text)) := by
  intro t answer registered
  have hplays : Plays willing [] (canonicalCommands env.processId answer registered) t
      (inspect env.processId t) := inspect_plays h env.processId hw
  have hwritten : (canonicalCommands env.processId answer registered).map Operation.written =
      canonicalRequests env.processId answer registered.handle :=
    written_canonicalCommands env.processId answer (Operation.stateAfter (questions answer) t)
  obtain ⟨hevents, hexit⟩ := run_inspects h hreaches hw
  rw [← hwritten]
  exact hplays.disciplined (Nat.succ_pos _) (leaves_canonicalCommands env.processId t) hevents hexit

end CommandLine

/-! ### A peer that answers with what it has prepared -/

namespace Backend.Responder

/-- Its connection is not reset. -/
def Up (responder : Responder) : Prop := responder.stream.line = .up

theorem up_settle {responder : Responder} (h : Up responder) : Up responder.settle := by
  unfold settle
  split <;> exact h

theorem up_connected (replies : List Bytes) : Up (connected replies) := up_settle rfl

/-- The peer takes all requests, with or without a reply left, and never resets the connection. -/
theorem obliging : Obliging Up where
  takes responder data h := by
    rcases responder with ⟨⟨incoming, ended, outgoing, line⟩, replies⟩
    obtain rfl : line = .up := h
    rfl
  afterSend responder data h := by
    rcases responder with ⟨⟨incoming, ended, outgoing, line⟩, replies⟩
    obtain rfl : line = .up := h
    cases replies with
    | nil => rfl
    | cons reply later => exact up_settle rfl
  afterReceive responder capacity h := by
    rcases responder with ⟨⟨incoming, ended, outgoing, line⟩, replies⟩
    obtain rfl : line = .up := h
    cases incoming with
    | nil => rfl
    | cons byte rest => rfl
  releases responder h := if_pos h

end Backend.Responder

namespace CommandLine

open Transport

/-- **A visit to a peer is disciplined, whatever its replies**: the requests are, from the first on,
those that the answer to the first of them settles, and each is sent exactly if all before it went
well. -/
theorem visit_disciplined {env : Environment Backend.Responder} {text : String}
    {replies : List Bytes}
    (hreaches : Reaches env text (Backend.Responder.connected replies)) :
    let t := fresh ValidConfig.default (Backend.Responder.connected replies)
    let answer := capabilityAnswer t
    let registered := registeredAs env.processId (Operation.stateAfter (questions answer) t)
    Disciplined env.processId (canonicalRequests env.processId answer registered.handle)
      (Operation.run (canonicalCommands env.processId answer registered) t)
      (run env (some text)) :=
  disciplined Backend.Responder.obliging hreaches (Backend.Responder.up_connected replies)

/-- A device that keeps a registry, with one client in it already. -/
theorem visit_disciplined_two_clients :
    let own : Connection := ⟨5, 7, IPv4.unspecified, 0, 0, 500⟩
    let other : Connection := ⟨3, 9, IPv4.unspecified, 0, 0, 400⟩
    let backend := Backend.Responder.connected [[0, 0, 0, 8],
      Registry.Answer.encode ⟨5, [own, other], none⟩, Registry.Answer.encode ⟨5, [other], none⟩]
    let env : Environment Backend.Responder := ⟨Surroundings.none, 7, 4096, fun _ => .ok backend⟩
    let report := run env (some "tcp:127.0.0.1")
    Reaches env "tcp:127.0.0.1" backend ∧
      report.requests = [[0xe8], registryRequest 0x64 7 0, registryRequest 0x65 7 5] ∧
      report.exitCode = 0 ∧ report.told.filter isOtherLine =
        ["  other connection: handle 3 pid 9 host 0.0.0.0 (400 ms)"] := by
  intro own other backend env report
  have hreaches : Reaches env "tcp:127.0.0.1" backend :=
    ⟨⟨"127.0.0.1", _, _, by cbv, rfl, rfl⟩, by decide⟩
  let t := fresh ValidConfig.default backend
  have hanswer : capabilityAnswer t = [0, 0, 0, 8] := by cbv
  have hregistered : registeredAs 7 (Operation.stateAfter (questions [0, 0, 0, 8]) t) = own := by
    cbv
  have hvisit : Disciplined 7 (canonicalRequests 7 (capabilityAnswer t)
      (registeredAs 7 (Operation.stateAfter (questions (capabilityAnswer t)) t)).handle)
      (Operation.run (canonicalCommands 7 (capabilityAnswer t)
        (registeredAs 7 (Operation.stateAfter (questions (capabilityAnswer t)) t))) t) report :=
    visit_disciplined hreaches
  rw [hanswer, hregistered] at hvisit
  have hok : ((Operation.run (canonicalCommands 7 [0, 0, 0, 8] own) t).all
      fun outcome => outcome.result.isOk) = true := by cbv
  rw [List.all_eq_true] at hok
  have hsecond : 1 < report.requests.length :=
    (hvisit.next 0 (by decide)).2 ⟨hvisit.first, _, rfl, hok _ List.mem_cons_self⟩
  have hthird : 2 < report.requests.length :=
    (hvisit.next 1 (by decide)).2
      ⟨hsecond, _, rfl, hok _ (List.mem_cons_of_mem _ List.mem_cons_self)⟩
  have hrequests : report.requests = canonicalRequests 7 [0, 0, 0, 8] own.handle :=
    hvisit.inOrder.eq_of_length_le hthird
  have hexit : report.exitCode = 0 := hvisit.exit.2 ⟨hrequests, hok⟩
  have hclients : (Operation.run (canonicalCommands 7 [0, 0, 0, 8] own) t).map
      (fun outcome => otherClients outcome.result) = [[], [other], []] := by cbv
  have hothers := hvisit.others hexit
  rw [← List.flatMap_map, hclients] at hothers
  have htext : report.told.filter isOtherLine =
      ["  other connection: handle 3 pid 9 host 0.0.0.0 (400 ms)"] := hothers.trans (by cbv)
  exact ⟨hreaches, hrequests, hexit, htext⟩

end CommandLine

end ProbeLink
