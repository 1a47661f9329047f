import ProbeLink.Capability
import ProbeLink.Fine
import ProbeLink.Registry.Register

/-!
# ProbeLink.Operation

The **calls** a client can make on a transport, as data. A history of a transport is then a list of
calls, `Operation.run` plays it, and "every run of calls" is a quantifier over lists.

A call after a failed one runs on the state that the failure left.
-/

namespace ProbeLink

/-- A call on a transport. -/
inductive Operation
  | startWrite (length : Nat)
  | startRead (length : Nat)
  | startWriteRead (writeLength readLength : Nat)
  | write (data : Bytes)
  | read (length : Nat)
  | askCapabilities
  | askExtendedCapabilities
  | fine (out : Bytes) (inLength : Nat) (param : UInt32)
  | register (connection : Connection)
  | unregister (connection : Connection)
  deriving Repr, DecidableEq

/-- What a call returns. -/
inductive Reply
  | done
  | bytes (data : Bytes)
  | capabilities (set : Capabilities)
  | fine (answer : FineAnswer)
  | registration (registration : Registration)
  | unregistration (unregistration : Unregistration)
  deriving Repr, DecidableEq

namespace Operation

variable {β : Type} [Backend β]

/-- Makes the call. -/
def perform : Operation → Run (Transport β) Reply
  | .startWrite length => (fun _ => .done) <$> Transport.startWrite length
  | .startRead length => (fun _ => .done) <$> Transport.startRead length
  | .startWriteRead writeLength readLength =>
    (fun _ => .done) <$> Transport.startWriteRead writeLength readLength
  | .write data => (fun _ => .done) <$> Transport.write data
  | .read length => .bytes <$> Transport.read length
  | .askCapabilities => .capabilities <$> Capabilities.ask
  | .askExtendedCapabilities => .capabilities <$> Capabilities.askExtended
  | .fine out inLength param => .fine <$> Fine.transfer out inLength param
  | .register connection => .registration <$> Registry.register connection
  | .unregister connection => .unregistration <$> Registry.unregister connection

/-- Makes one call after the other, and lists what each did. -/
def run : List Operation → Transport β → List (Outcome (Transport β) Reply)
  | [], _ => []
  | operation :: later, t =>
    let outcome := operation.perform t
    outcome :: run later outcome.state

/-- The state after a list of calls. -/
def stateAfter (operations : List Operation) (t : Transport β) : Transport β :=
  operations.foldl (fun t operation => (operation.perform t).state) t

end Operation

end ProbeLink
