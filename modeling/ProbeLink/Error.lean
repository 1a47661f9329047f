/-!
# ProbeLink.Error

**Why an operation fails**: the causes, their wording and their coarse classes.

Design points:

* An error is a cause with the numbers that matter, never a text. `message` is the one place where
  causes become words.
* The class of an error (`Error.kind`) tells a caller what to do about it: mend the call
  (`argument`), try again (`timeout`), or give the session up (`io`, `protocol`).
* `Error.sources` lists the texts of the underlying causes. An error that only wraps a more
  specific one has that one as its first source, so its wording comes twice.
-/

namespace ProbeLink

/-- The direction of a transfer, seen from the host. -/
inductive Direction
  /-- From the host to the device. -/
  | send
  /-- From the device to the host. -/
  | receive
  deriving Repr, DecidableEq

/-- What a transfer in this direction does. -/
def Direction.activity : Direction → String
  | .send => "sending data to device"
  | .receive => "receiving data from device"

/-- The kinds of input/output failures that a connection reports. -/
inductive IoKind
  | timedOut
  | wouldBlock
  | interrupted
  | brokenPipe
  | connectionReset
  | unexpectedEof
  | writeZero
  | notConnected
  | other
  deriving Repr, DecidableEq

/-- A failure reported by the connection itself, in its own words. -/
structure IoError where
  kind : IoKind
  message : String
  deriving Repr, DecidableEq

/-- Does the failure only say that nothing moved in time? -/
def IoError.stalled (e : IoError) : Bool :=
  e.kind = .timedOut || e.kind = .wouldBlock

/-- A call that does not fit the operation in progress. -/
inductive ArgumentError
  /-- An operation of no bytes. -/
  | zeroLength
  /-- More is written than the operation still expects. -/
  | writeLengthExceeded (requested expected : Nat)
  /-- More is read than the operation still expects. -/
  | readLengthExceeded (requested expected : Nat)
  /-- A write that does not complete the operation does not fit into the scratch buffer. -/
  | bufferTooSmall (requested available : Nat)
  /-- A command cannot express a length of this size. -/
  | payloadTooLarge (length : Nat)
  /-- A read comes before the write half of the operation is complete. -/
  | writeIncomplete (remaining : Nat)
  deriving Repr, DecidableEq

/-- The wording of an argument error. -/
def ArgumentError.message : ArgumentError → String
  | .zeroLength => "Operation length must not be zero."
  | .writeLengthExceeded requested expected =>
    s!"Requested to write {requested} bytes but only {expected} bytes are expected " ++
      "for the write operation."
  | .readLengthExceeded requested expected =>
    s!"Requested to read {requested} bytes but only {expected} bytes are expected " ++
      "for the read operation."
  | .bufferTooSmall requested available =>
    s!"Write request of {requested} bytes is too large for the buffer ({available} bytes free)."
  | .payloadTooLarge length => s!"{length} bytes of data do not fit into a single command."
  | .writeIncomplete remaining =>
    s!"Read requested while {remaining} bytes of the preceding write are still expected."

/-- Something the device must not send. -/
inductive ProtocolError
  /-- More arrived than the operation expects. -/
  | overrun (expected received : Nat)
  /-- The registry answer counts more connections than a device can have. -/
  | tooManyConnections (count : Nat)
  /-- The registry answer has entries of an unknown size. -/
  | invalidEntrySize (size : Nat)
  /-- The registry answer is longer than any device sends. -/
  | responseTooLarge (size : Nat)
  /-- The device gave out the handle of no connection. -/
  | invalidHandle
  /-- An answer cannot be decoded. -/
  | malformed (reason : String)
  deriving Repr, DecidableEq

/-- The wording of a protocol error. -/
def ProtocolError.message : ProtocolError → String
  | .overrun expected received =>
    s!"Expected {expected} bytes from device but {received} bytes received."
  | .tooManyConnections count => s!"Maximum number of device connections exceeded ({count})."
  | .invalidEntrySize size => s!"Invalid connection entry size ({size} bytes)."
  | .responseTooLarge size => s!"Registration response of {size} bytes exceeds the maximum size."
  | .invalidHandle => "Obtained invalid connection handle."
  | .malformed reason => s!"Malformed response: {reason}"

/-- A field of an answer that would start at this offset lies outside of it. -/
def ProtocolError.badOffset (offset : Nat) : ProtocolError :=
  .malformed s!"bad offset {offset}"

/-- Why a device was not found or not opened. -/
inductive OpenError
  | notFound
  | alreadyOpen
  | ambiguous
  | usb (activity : String) (cause : IoError)
  | interfaceNotFound (number : UInt8)
  | endpointNotFound (name : String)
  | connect (cause : IoError)
  | unsupported (backend : String)
  deriving Repr, DecidableEq

/-- The wording of an open error. -/
def OpenError.message : OpenError → String
  | .notFound => "No matching device found."
  | .alreadyOpen => "Device already has an open session."
  | .ambiguous => "Multiple devices match, refusing to guess."
  | .usb activity _ => s!"USB error while {activity}."
  | .interfaceNotFound number => s!"USB interface {number} not found."
  | .endpointNotFound name => s!"Interface {name} endpoint not found."
  | .connect _ => "Could not connect to remote host."
  | .unsupported backend => s!"The {backend} backend is not available in this build."

/-- The failure underneath an open error. -/
def OpenError.cause? : OpenError → Option IoError
  | .usb _ cause => some cause
  | .connect cause => some cause
  | _ => none

/-- Why an operation of the library failed. -/
inductive Error
  | argument (error : ArgumentError)
  | timeout (direction : Direction)
  | io (direction : Direction) (cause : IoError)
  | protocol (error : ProtocolError)
  | allocation (size : Nat)
  | opening (error : OpenError)
  | release (cause : IoError)
  deriving Repr, DecidableEq

/-- Coarse classes of errors. -/
inductive ErrorKind
  /-- A wrong call; nothing was transferred. -/
  | argument
  /-- Nothing moved within the retry budget. -/
  | timeout
  /-- The connection failed. -/
  | io
  /-- The device broke the protocol. -/
  | protocol
  /-- There is no memory for the scratch buffer. -/
  | resource
  /-- The device was not found or not opened. -/
  | device
  deriving Repr, DecidableEq

namespace Error

/-- The class of an error. -/
def kind : Error → ErrorKind
  | .argument _ => .argument
  | .timeout _ => .timeout
  | .io _ _ => .io
  | .protocol _ => .protocol
  | .allocation _ => .resource
  | .opening _ => .device
  | .release _ => .io

/-- The wording of an error. -/
def message : Error → String
  | .argument error => error.message
  | .timeout direction => s!"Timeout while {direction.activity}."
  | .io direction _ => s!"I/O error while {direction.activity}."
  | .protocol error => error.message
  | .allocation size => s!"Failed to allocate a transport buffer of {size} bytes."
  | .opening error => error.message
  | .release _ => "Failed to release the device."

/-- The texts of the underlying causes, outermost first. -/
def sources : Error → List String
  | .argument error => [error.message]
  | .timeout _ => []
  | .io _ cause => [cause.message]
  | .protocol error => [error.message]
  | .allocation _ => []
  | .opening error => error.message :: (error.cause?.map IoError.message).toList
  | .release cause => [cause.message]

end Error

end ProbeLink
