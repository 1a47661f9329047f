import ProbeLink.Device
import ProbeLink.Operation

/-!
# ProbeLink.Session

**Sessions on a device**: opening, using and closing them, and counting who still refers to the
device.

Design points:

* A device can have one session at a time. Whether it has one is a mark of its own, set before the
  connection is made and taken back if that fails, so nobody else can get in between.
* An open session refers to its device, like everyone who keeps it does.
* Whether connecting works is not decided here: the connection, or the reason why there is none, is
  an input, and so is the memory there is for the scratch buffer.
-/

namespace ProbeLink

/-- A device with its session and its references. -/
structure Session (β : Type) where
  device : Device
  /-- The mark of an open session. -/
  isOpen : Bool
  /-- Live references to the device, that of an open session included. -/
  references : Nat
  /-- References that were taken and not yet given back, besides the first. -/
  kept : Nat
  /-- The transport of the open session. -/
  transport? : Option (Transport β)

namespace Session

variable {β : Type}

/-- A device just found: one reference, no session. -/
def found (device : Device) : Session β where
  device := device
  isOpen := false
  references := 1
  kept := 0
  transport? := none

/-- Takes another reference. -/
def acquire (s : Session β) : Session β :=
  { s with references := s.references + 1, kept := s.kept + 1 }

/-- Gives the last taken reference back, if there is one. -/
def release (s : Session β) : Session β :=
  if s.kept = 0 then s else { s with references := s.references - 1, kept := s.kept - 1 }

/-- The transport over a connection, if there is one and it has memory for its buffer. -/
def connect (memory : Nat) (config : ValidConfig) :
    Except OpenError β → Except Error (Transport β) × List Event
  | .ok backend => Transport.create memory config backend
  | .error error => (.error (.opening error), [])

/-- Opens a session over a connection. -/
def openWith (memory : Nat) (config : ValidConfig) (connection : Except OpenError β) :
    Run (Session β) Unit := fun s =>
  if s.isOpen then
    ⟨.error (.opening .alreadyOpen), s, [.noted (.alreadyOpen s.device.text)]⟩
  else
    let (transport, events) := connect memory config connection
    match transport with
    | .ok transport =>
      ⟨.ok (),
        { s with isOpen := true, references := s.references + 1, transport? := some transport },
        events⟩
    | .error error =>
      ⟨.error error, s, events ++ [.noted (.openFailed s.device.text error)]⟩

/-- The device after its session is gone. -/
def ended (s : Session β) : Session β :=
  { s with isOpen := false, references := s.references - 1, transport? := none }

/-- Drops the session, if there is one. -/
def drop (s : Session β) : Session β := if s.transport?.isSome then s.ended else s

/-- Closes a session. The device can be opened again even if giving up the connection fails. -/
def close [Backend β] (t : Transport β) : Run (Session β) Unit := fun s =>
  match Backend.releaseError? t.backend with
  | none => ⟨.ok (), s.ended, []⟩
  | some cause =>
    ⟨.error (.release cause), s.ended, [.noted (.releaseFailed s.device.text cause)]⟩

/-- Makes a call on the transport of the session. -/
def call [Backend β] (operation : Operation) (t : Transport β) : Run (Session β) Reply := fun s =>
  (operation.perform t).inState fun t => { s with transport? := some t }

/-- Runs something on the transport of the session. Without a session there is nothing to run on,
and nothing happens. -/
def use (run : Run (Transport β) Unit) : Run (Session β) Unit := fun s =>
  match s.transport? with
  | some t => (run t).inState fun t => { s with transport? := some t }
  | none => ⟨.ok (), s, []⟩

/-- Closes the session, if there is one. -/
def finish [Backend β] : Run (Session β) Unit := fun s =>
  match s.transport? with
  | some t => close t s
  | none => ⟨.ok (), s, []⟩

/-- What the open session still expects: bytes to write and bytes to read. -/
def remaining (s : Session β) : Option (Nat × Nat) :=
  s.transport?.map fun t => (t.writeRemaining, t.readExpected)

/-! ### Histories -/

/-- Something a client does with a device. -/
inductive Step (β : Type)
  | acquire
  | release
  | open (memory : Nat) (config : ValidConfig) (connection : Except OpenError β)
  | close
  | drop
  | call (operation : Operation)

/-- Does it. Without a session, closing and calling have nothing to act on: the answer is `none`. -/
def perform [Backend β] (s : Session β) : Step β → Option (Outcome (Session β) Reply)
  | .acquire => some ⟨.ok .done, s.acquire, []⟩
  | .release => some ⟨.ok .done, s.release, []⟩
  | .open memory config connection =>
    some ((openWith memory config connection s).map fun _ => .done)
  | .close => s.transport?.map fun t => (close t s).map fun _ => .done
  | .drop => some ⟨.ok .done, s.drop, []⟩
  | .call operation => s.transport?.map fun t => call operation t s

end Session

end ProbeLink
