import ProbeLink.Transport.Basic

/-!
# ProbeLink.Transport.Write

**Writing** the bytes of an operation.

* A call that does not complete the operation only stages its bytes in the scratch buffer.
* The call that completes it sends everything. If bytes are staged, they are first filled up from
  the call's own bytes to a whole number of chunks, so that only the last transfer of the operation
  can be short; the rest goes out straight from the caller.
* The operation is over before its bytes are sent. If sending fails, nothing of it is left to send.
-/

namespace ProbeLink.Transport

variable {β : Type}

/-- Sends bytes through the backend. -/
def send [Backend β] (data : Bytes) : Run (Transport β) Unit := fun t =>
  (Backend.sendAll t.config.maxTimeouts data t.backend).inState fun backend =>
    { t with backend := backend }

/-- How many bytes are missing from the staged ones to a whole number of chunks. -/
def fill (t : Transport β) : Nat :=
  (t.writeBuffered + t.config.chunkSize - 1) / t.config.chunkSize * t.config.chunkSize
    - t.writeBuffered

/-- The staged bytes. -/
def staged (t : Transport β) : Bytes := t.scratch.read 0 t.writeBuffered

/-- Puts bytes behind the staged ones. -/
def stage (data : Bytes) (t : Transport β) : Transport β :=
  { t with
    scratch := t.scratch.write t.writeBuffered data
    writeRemaining := t.writeRemaining - data.length
    writeBuffered := t.writeBuffered + data.length }

/-- Sends the staged bytes and those of the call that completes the operation. -/
def flush [Backend β] (data : Bytes) : Run (Transport β) Unit := fun t =>
  if t.writeBuffered = 0 then send data { t with writeRemaining := 0 }
  else
    let head := data.take t.fill
    let tail := data.drop t.fill
    let t := t.stage head
    let run : Run (Transport β) Unit := do
      send t.staged
      if !tail.isEmpty then send tail
    run { t with writeRemaining := 0, writeBuffered := 0 }

/-- Writes bytes as part of the current write operation. -/
def write [Backend β] (data : Bytes) : Run (Transport β) Unit := fun t =>
  if t.writeRemaining < data.length then
    ⟨.error (.argument (.writeLengthExceeded data.length t.writeRemaining)), t,
      [.noted (.writeLengthExceeded data.length t.writeRemaining)]⟩
  else if data.length < t.writeRemaining then
    let available := t.config.bufferSize - t.writeBuffered
    if available < data.length then
      ⟨.error (.argument (.bufferTooSmall data.length available)), t, [.noted .writeTooLarge]⟩
    else ⟨.ok (), t.stage data, []⟩
  else flush data t

end ProbeLink.Transport
