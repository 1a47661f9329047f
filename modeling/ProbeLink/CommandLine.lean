import ProbeLink.Discovery
import ProbeLink.Session

/-!
# ProbeLink.CommandLine

The **command line**: finds a device, opens it, and tells what it can do and who else uses it.

* The device is asked for its capabilities, and for the extended ones if it has those.
* A device that keeps a registry is registered with and left again, so the visit leaves no trace.
* The first thing that fails ends the visit.
-/

namespace ProbeLink.CommandLine

/-- What a visit depends on. -/
structure Environment (β : Type) where
  surroundings : Surroundings
  /-- The process that registers with the device. -/
  processId : UInt32
  /-- Memory for the scratch buffer. -/
  memory : Nat
  connect : Device → Except OpenError β

/-- Why a visit ended early. -/
inductive Failure
  | selector (error : SelectorError)
  | operation (error : Error)
  deriving Repr, DecidableEq

/-- The wording of a failure. -/
def Failure.message : Failure → String
  | .selector error => error.message
  | .operation error => error.message

/-- What came of a visit. -/
structure Report where
  failure? : Option Failure
  events : List Event

namespace Report

/-- A visit that failed before it began. -/
def failed (events : List Event) (failure : Failure) : Report := ⟨some failure, events⟩

/-- The exit status: zero if nothing failed. -/
def exitCode (report : Report) : Nat := if report.failure?.isNone then 0 else 1

/-- What the user is told, in order. -/
def told (report : Report) : List String :=
  report.events.filterMap fun event =>
    match event with
    | .noted (.told text) => some text
    | _ => none

/-- What was sent to the device, one element per transfer. -/
def requests (report : Report) : List Bytes :=
  report.events.filterMap fun event =>
    match event with
    | .sent offered _ => some offered
    | _ => none

end Report

/-- The line about another client of the device. -/
def otherLine (c : Connection) : String :=
  let host := String.ofList c.hid.text
  s!"  other connection: handle {c.handle} pid {c.pid} host {host} ({c.timestamp} ms)"

/-- Registers with the device, tells who else is registered, and leaves. -/
def visitRegistry {β : Type} [Backend β] (processId : UInt32) : Run (Transport β) Unit := do
  let registration ← Registry.register (Connection.unregistered processId)
  Run.note (.told s!"registered with handle {registration.connection.handle}")
  Run.noteAll (registration.others.map fun c => .told (otherLine c))
  let unregistration ← Registry.unregister registration.connection
  Run.note (.told s!"unregistered, {unregistration.connections.length} connections left")

/-- Asks an open device what it can do, and goes through its registry if it has one. -/
def inspect {β : Type} [Backend β] (processId : UInt32) : Run (Transport β) Unit := do
  let capabilities ← Capabilities.ask
  Run.note (.told ("caps " ++ capabilities.describe))
  if capabilities.contains .getExtCaps then
    let extended ← Capabilities.askExtended
    Run.note (.told ("ext caps " ++ extended.describe))
  if capabilities.contains .register then visitRegistry processId

/-- Opens a device, inspects it, and closes it. -/
def visit {β : Type} [Backend β] (env : Environment β) (device : Device) :
    Run (Session β) Unit := do
  Session.openWith env.memory ValidConfig.default (env.connect device)
  Session.use (inspect env.processId)
  Session.finish

/-- The devices that are told about before one is chosen: those on USB, if any of them will do. -/
def candidates {β : Type} (env : Environment β) (selector : DeviceSelector) :
    Except OpenError (List Device) :=
  if selector = .usb none then env.surroundings.probes else .ok []

/-- Visits the device that a selector names. -/
def runSelector {β : Type} [Backend β] (env : Environment β) (selector : DeviceSelector) :
    Report :=
  match candidates env selector with
  | .error error => .failed [] (.operation (.opening error))
  | .ok devices =>
    let events := devices.map fun device => Event.noted (.told ("found " ++ device.text))
    match env.surroundings.find selector with
    | .error error => .failed events (.operation (.opening error))
    | .ok device =>
      let outcome := visit env device (Session.found device)
      match outcome.result with
      | .ok () => ⟨none, events ++ outcome.events⟩
      | .error error => .failed (events ++ outcome.events) (.operation error)

/-- Runs the command line with its argument; without one, the only device on USB is meant. -/
def run {β : Type} [Backend β] (env : Environment β) (argument : Option String) : Report :=
  match argument with
  | none => runSelector env (.usb none)
  | some text =>
    match DeviceSelector.ofText text with
    | .ok selector => runSelector env selector
    | .error error => .failed [] (.selector error)

end ProbeLink.CommandLine
