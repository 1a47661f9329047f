import ProbeLink.Backend.Retry
import ProbeLink.Config
import ProbeLink.Scratch

/-!
# ProbeLink.Transport.Basic

A **transport** frames the bytes of a backend into operations. An operation declares its length
first, and then moves its bytes in as many calls as the caller likes.

Design points:

* Small writes are staged in the scratch buffer until the operation is complete; reads are served
  from the scratch buffer if the device delivered more than was asked for. Both share the one
  buffer, each with its own position.
* Starting an operation never moves a byte. It abandons what is left of the operations before it,
  with a warning, and decides about the surplus: bytes received beyond the last read operation. A
  new command drops them, a plain read operation takes them if they fit into it.
-/

namespace ProbeLink

/-- The framing of a backend. -/
structure Transport (β : Type) where
  backend : β
  config : ValidConfig
  scratch : Scratch
  /-- Bytes still expected for the current write operation. -/
  writeRemaining : Nat
  /-- Bytes staged at the start of the scratch buffer. -/
  writeBuffered : Nat
  /-- Bytes the device still has to deliver for the current read operation. -/
  readRemaining : Nat
  /-- Bytes of the current read operation in the scratch buffer. -/
  readAvailable : Nat
  /-- Where in the scratch buffer those bytes begin. -/
  readPos : Nat
  /-- Bytes received beyond the current read operation, following the available ones. -/
  surplus : Nat

namespace Transport

variable {β : Type}

/-- A transport with no operation in progress. -/
def fresh (config : ValidConfig) (backend : β) : Transport β where
  backend := backend
  config := config
  scratch := Scratch.empty
  writeRemaining := 0
  writeBuffered := 0
  readRemaining := 0
  readAvailable := 0
  readPos := 0
  surplus := 0

/-- The most memory that one buffer can have: half of the address space. -/
def addressableBytes : Nat := UInt64.size / 2 - 1

/-- Sets up a transport, with at most `memory` bytes for its scratch buffer. -/
def create (memory : Nat) (config : ValidConfig) (backend : β) :
    Except Error (Transport β) × List Event :=
  if config.bufferSize ≤ memory then (.ok (fresh config backend), [])
  else (.error (.allocation config.bufferSize), [.noted (.allocationFailed config.bufferSize)])

/-- Bytes the current read operation still expects, delivered or not. -/
def readExpected (t : Transport β) : Nat := t.readRemaining + t.readAvailable

/-- The five counters that describe the operations in progress. -/
def counters (t : Transport β) : List Nat :=
  [t.writeRemaining, t.writeBuffered, t.readRemaining, t.readAvailable, t.surplus]

/-- A one-line description, given that of the backend. -/
def describe (backend : String) (t : Transport β) : String :=
  s!"Transport \x7b backend: {backend}, write_remaining: {t.writeRemaining}, " ++
    s!"write_buffered: {t.writeBuffered}, read_remaining: {t.readRemaining}, " ++
    s!"read_available: {t.readAvailable}, surplus: {t.surplus} \x7d"

/-! ### Starting operations -/

/-- A log line, if it applies. -/
def noteIf (applies : Bool) (notice : Notice) : List Event :=
  if applies then [.noted notice] else []

/-- What is to be said about a write side that is about to be declared anew. -/
def resetWriteEvents (t : Transport β) : List Event :=
  noteIf (0 < t.writeBuffered) (.stagedBytesLeft t.writeBuffered) ++
  noteIf (0 < t.writeRemaining) .writeNotPerformed ++
  noteIf (0 < t.surplus) (.surplusBeforeWrite t.surplus)

/-- The write side, declared anew. Data that arrived before a command cannot answer it, so the
surplus goes. -/
def resetWrite (length : Nat) (t : Transport β) : Transport β :=
  { t with writeRemaining := length, writeBuffered := 0, surplus := 0 }

/-- What is to be said about a read side that is about to be declared anew. -/
def resetReadEvents (length : Nat) (t : Transport β) : List Event :=
  noteIf (0 < t.readAvailable) (.availableBytesLeft t.readAvailable) ++
  noteIf (0 < t.readRemaining) (.bytesLeftOnDevice t.readRemaining) ++
  noteIf (length < t.surplus) (.surplusBeforeRead t.surplus length)

/-- The read side, declared anew. A surplus that fits becomes the first bytes of the operation. -/
def resetRead (length : Nat) (t : Transport β) : Transport β :=
  if 0 < t.surplus ∧ t.surplus ≤ length then
    { t with
      readPos := t.readPos + t.readAvailable
      readAvailable := t.surplus
      readRemaining := length - t.surplus
      surplus := 0 }
  else
    { t with readRemaining := length, readAvailable := 0, readPos := 0, surplus := 0 }

/-- What is to be said when a plain read operation abandons a write operation. -/
def abandonWriteEvents (t : Transport β) : List Event :=
  noteIf (0 < t.writeRemaining) (.stagedBytesDropped t.writeBuffered)

/-- A plain read operation has no write half: whatever is staged will never be sent. -/
def abandonWrite (t : Transport β) : Transport β :=
  if 0 < t.writeRemaining then { t with writeRemaining := 0, writeBuffered := 0 } else t

/-- Starts a write operation of `length` bytes. -/
def startWrite (length : Nat) : Run (Transport β) Unit := fun t =>
  if length = 0 then ⟨.error (.argument .zeroLength), t, []⟩
  else ⟨.ok (), t.resetWrite length, t.resetWriteEvents⟩

/-- Starts a read operation of `length` bytes. -/
def startRead (length : Nat) : Run (Transport β) Unit := fun t =>
  if length = 0 then ⟨.error (.argument .zeroLength), t, []⟩
  else
    ⟨.ok (), t.abandonWrite.resetRead length,
      t.abandonWriteEvents ++ t.abandonWrite.resetReadEvents length⟩

/-- Starts a write operation whose answer is a read operation: the write has to be complete before
the first byte of the answer is requested. -/
def startWriteRead (writeLength readLength : Nat) : Run (Transport β) Unit := fun t =>
  if writeLength = 0 ∨ readLength = 0 then ⟨.error (.argument .zeroLength), t, []⟩
  else
    ⟨.ok (), (t.resetWrite writeLength).resetRead readLength,
      t.resetWriteEvents ++ (t.resetWrite writeLength).resetReadEvents readLength⟩

end Transport

end ProbeLink
