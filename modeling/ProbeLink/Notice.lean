import ProbeLink.Error
import ProbeLink.Text.Digits

/-!
# ProbeLink.Notice

**What is logged** on the way: warnings about operations that were left unfinished or data that was
dropped, and errors as they are met.

A notice is a value with its numbers; its level and its wording are functions of it. Whether a call
warned is therefore a question about values, not about text.
-/

namespace ProbeLink

/-- The weight of a notice. -/
inductive Level
  | info
  | warn
  | error
  deriving Repr, DecidableEq

/-- The name of a level at the start of a log line. -/
def Level.name : Level → String
  | .info => "INFO"
  | .warn => "WARN"
  | .error => "ERROR"

/-- An event worth a log line. -/
inductive Notice
  /-- Something that the command line tells its user. -/
  | told (text : String)
  /-- A read operation starts although staged bytes of a write operation were never sent. -/
  | stagedBytesDropped (staged : Nat)
  /-- A write operation starts over staged bytes of the one before. -/
  | stagedBytesLeft (staged : Nat)
  /-- A write operation starts although the one before was not completed. -/
  | writeNotPerformed
  /-- A new command drops bytes that arrived before it. -/
  | surplusBeforeWrite (surplus : Nat)
  /-- A read operation starts over delivered bytes of the one before. -/
  | availableBytesLeft (available : Nat)
  /-- A read operation starts although the device still owes bytes of the one before. -/
  | bytesLeftOnDevice (remaining : Nat)
  /-- A read operation drops a surplus that is longer than itself. -/
  | surplusBeforeRead (surplus length : Nat)
  | writeLengthExceeded (requested expected : Nat)
  | writeTooLarge
  | readBeforeWrite (remaining : Nat)
  | readLengthExceeded (requested expected : Nat)
  | overrun (expected received : Nat)
  | sendTimedOut (sent : Nat)
  | sendFailed (cause : IoError)
  | sendGaveUp
  | receiveTimedOut (received : Nat)
  | receiveFailed (cause : IoError)
  | receiveGaveUp
  | tooManyConnections (count : Nat)
  | invalidEntrySize (size : Nat)
  | responseTooLarge (size : Nat)
  | invalidHandle
  /-- A command was carried out with a status that is not zero. -/
  | fineStatus (status : UInt32)
  | allocationFailed (size : Nat)
  | alreadyOpen (device : String)
  | openFailed (device : String) (error : Error)
  | releaseFailed (device : String) (cause : IoError)
  deriving Repr, DecidableEq

namespace Notice

/-- The weight of a notice: what may have been meant is a warning, what failed is an error. -/
def level : Notice → Level
  | .told _ => .info
  | .stagedBytesDropped _ | .stagedBytesLeft _ | .writeNotPerformed | .surplusBeforeWrite _
  | .availableBytesLeft _ | .bytesLeftOnDevice _ | .surplusBeforeRead _ _
  | .sendTimedOut _ | .receiveTimedOut _ | .fineStatus _ | .releaseFailed _ _ => .warn
  | _ => .error

/-- The wording of a notice. -/
def message : Notice → String
  | .told text => text
  | .stagedBytesDropped staged =>
    s!"Last write operation was not performed, dropping {staged} staged bytes."
  | .stagedBytesLeft staged => s!"Last write operation left {staged} bytes in the buffer."
  | .writeNotPerformed => "Last write operation was not performed."
  | .surplusBeforeWrite surplus =>
    s!"Discarding {surplus} bytes received ahead of a write operation."
  | .availableBytesLeft available =>
    s!"Last read operation left {available} bytes in the buffer."
  | .bytesLeftOnDevice remaining =>
    s!"Last read operation left {remaining} bytes on the device."
  | .surplusBeforeRead surplus length =>
    s!"Discarding {surplus} bytes received ahead of a read operation of {length} bytes."
  | .writeLengthExceeded requested expected =>
    (ArgumentError.writeLengthExceeded requested expected).message
  | .writeTooLarge => "Write request is too large for the buffer."
  | .readBeforeWrite remaining =>
    s!"Requested to read while {remaining} bytes of the write operation are still expected."
  | .readLengthExceeded requested expected =>
    (ArgumentError.readLengthExceeded requested expected).message
  | .overrun expected received => (ProtocolError.overrun expected received).message
  | .sendTimedOut sent => s!"Failed to send data to device: timeout ({sent} bytes sent)."
  | .sendFailed cause => s!"Failed to send data to device: {cause.message}."
  | .sendGaveUp => "Sending data to device timed out."
  | .receiveTimedOut received =>
    s!"Failed to receive data from device: timeout ({received} bytes received)."
  | .receiveFailed cause => s!"Failed to receive data from device: {cause.message}."
  | .receiveGaveUp => "Receiving data from device timed out."
  | .tooManyConnections count => s!"Maximum number of device connections exceeded: {count}."
  | .invalidEntrySize size => s!"Invalid connection entry size: {size} bytes."
  | .responseTooLarge size => s!"Maximum registration information size exceeded: {size} bytes."
  | .invalidHandle => "Obtained invalid connection handle."
  | .fineStatus status =>
    "FINE I/O finished with status 0x" ++ String.ofList (Text.hexDigits 8 status.toNat) ++ "."
  | .allocationFailed size => s!"Transport buffer allocation of {size} bytes failed."
  | .alreadyOpen device => s!"{device} already has an open session."
  | .openFailed device error => s!"Failed to open {device}: {error.message}"
  | .releaseFailed device cause => s!"Failed to release {device}: {cause.message}"

/-- The log line: level, then wording. -/
def line (notice : Notice) : String :=
  notice.level.name ++ " " ++ notice.message

end Notice

end ProbeLink
