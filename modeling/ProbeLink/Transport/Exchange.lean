import ProbeLink.Transport.Read
import ProbeLink.Transport.Write

/-!
# ProbeLink.Transport.Exchange

An **exchange** is what every command is made of: a request that goes out as one write operation,
and an answer of known length that comes back as the read operation paired with it.
-/

namespace ProbeLink.Transport

variable {β : Type} [Backend β]

/-- Sends a request and reads the first `answerLength` bytes of the answer. -/
def exchange (request : Bytes) (answerLength : Nat) : Run (Transport β) Bytes := do
  startWriteRead request.length answerLength
  write request
  read answerLength

end ProbeLink.Transport
