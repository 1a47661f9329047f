import ProbeLink.Registry.Wire
import ProbeLink.Transport.Exchange

/-!
# ProbeLink.Registry.Register

**Registering and unregistering** a connection. Both send a request and read the whole registry
back: the part of the answer that always comes in the exchange itself, and the rest, if the header
announces one, in a read operation of its own.
-/

namespace ProbeLink

/-- What a client gets for registering. -/
structure Registration where
  /-- The client's connection, with the handle and, if it is listed, the time the device gave it. -/
  connection : Connection
  /-- All connections of the device. -/
  connections : List Connection
  info : Option Bytes
  deriving Repr, DecidableEq

/-- The connections of other clients. -/
def Registration.others (r : Registration) : List Connection :=
  r.connections.filter fun c => c.handle ≠ r.connection.handle

/-- What a client gets for unregistering. -/
structure Unregistration where
  /-- The connections that remain. -/
  connections : List Connection
  info : Option Bytes
  deriving Repr, DecidableEq

namespace Registry

/-- The log line about a header that no device may send. -/
def faultNotice : ProtocolError → Option Notice
  | .tooManyConnections count => some (.tooManyConnections count)
  | .invalidEntrySize size => some (.invalidEntrySize size)
  | .responseTooLarge size => some (.responseTooLarge size)
  | _ => none

variable {β : Type} [Backend β]

/-- Stops at a header that no device may send. -/
def checkHeader (h : Header) : Run (Transport β) Unit :=
  match h.fault? with
  | none => pure ()
  | some fault =>
    match faultNotice fault with
    | some notice => Run.noteAndFail notice (.protocol fault)
    | none => Run.fail (.protocol fault)

/-- Reads the rest of an answer of which the first part is there. -/
def readRest (length : Nat) : Run (Transport β) Bytes :=
  if firstLength < length then do
    Transport.startRead (length - firstLength)
    Transport.read (length - firstLength)
  else pure []

/-- Sends a request and reads the answer. -/
def exchange (command : Command) (c : Connection) : Run (Transport β) Answer := do
  let first ← Transport.exchange (request command c) firstLength
  let header := Header.decode first
  checkHeader header
  let rest ← readRest header.answerLength
  return Answer.decode header (first ++ rest)

/-- The client's connection as the device registered it. -/
def assigned (c : Connection) (answer : Answer) : Connection :=
  { c with
    handle := answer.handle
    timestamp :=
      match answer.connections.find? fun entry => entry.handle = answer.handle with
      | some own => own.timestamp
      | none => c.timestamp }

/-- Registers a connection. -/
def register (c : Connection) : Run (Transport β) Registration := do
  let answer ← exchange .register c
  if answer.handle = 0 then Run.noteAndFail .invalidHandle (.protocol .invalidHandle)
  else return ⟨assigned c answer, answer.connections, answer.info⟩

/-- Unregisters a connection. -/
def unregister (c : Connection) : Run (Transport β) Unregistration := do
  let answer ← exchange .unregister c
  return ⟨answer.connections, answer.info⟩

end Registry

end ProbeLink
