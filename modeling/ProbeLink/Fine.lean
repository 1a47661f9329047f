import ProbeLink.Transport.Exchange

/-!
# ProbeLink.Fine

The **FINE** single-wire debug interface: one command that shifts bytes out to the target and as
many as asked for back in.

The request is a header with both lengths and a parameter, followed by the bytes to shift out. The
answer is the bytes shifted in, followed by a status word.
-/

namespace ProbeLink

/-- The answer to a FINE command. -/
structure FineAnswer where
  data : Bytes
  /-- Its meaning is not documented, other than that zero is good. -/
  status : UInt32
  deriving Repr, DecidableEq

namespace Fine

/-- The largest length that the header can express. -/
def maxLength : Nat := UInt32.size - 1

/-- The header of a request. -/
def header (outLength inLength : Nat) (param : UInt32) : Bytes :=
  0xe0 :: (Bytes.ofNat 4 outLength ++ Bytes.ofNat 4 inLength ++ Bytes.ofNat 4 param.toNat)

/-- The length of the header. -/
def headerLength : Nat := 13

/-- The length of the status word. -/
def statusLength : Nat := 4

@[simp] theorem length_header (outLength inLength : Nat) (param : UInt32) :
    (header outLength inLength param).length = headerLength := by
  simp [header, headerLength]

/-- The answer of a device on the wire. -/
def encodeAnswer (answer : FineAnswer) : Bytes :=
  answer.data ++ Bytes.ofNat statusLength answer.status.toNat

/-- Shifts `out` to the target and reads `inLength` bytes back. -/
def transfer {β : Type} [Backend β] (out : Bytes) (inLength : Nat) (param : UInt32) :
    Run (Transport β) FineAnswer := do
  if maxLength < out.length then
    Run.fail (.argument (.payloadTooLarge out.length))
  else if maxLength < inLength then
    Run.fail (.argument (.payloadTooLarge inLength))
  else
    Transport.startWriteRead (headerLength + out.length) (statusLength + inLength)
    Transport.write (header out.length inLength param)
    if !out.isEmpty then Transport.write out
    let data ← Transport.read inLength
    let status ← Transport.read statusLength
    let status := UInt32.ofNat (Bytes.toNat status)
    if status ≠ 0 then Run.note (.fineStatus status)
    return ⟨data, status⟩

end Fine

end ProbeLink
