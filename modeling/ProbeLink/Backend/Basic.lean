import ProbeLink.Outcome

/-!
# ProbeLink.Backend.Basic

A **backend** is a physical byte pipe to one device. It moves bytes in single physical transfers,
knows nothing about operations, and never tries again.

A backend is a state together with what each kind of transfer does to it. Nothing is assumed about
the amounts it reports: it may claim to have sent more than it was given and may deliver more than
there was room for. Whoever uses a backend has to cope with that.
-/

namespace ProbeLink

/-- A physical byte pipe to one device. -/
class Backend (β : Type) where
  /-- Sends a prefix of the bytes in one transfer and reports how many went out. -/
  sendOnce : β → Bytes → Attempt Nat × β
  /-- Receives in one transfer, given room for a number of bytes, and reports what arrived. -/
  receiveOnce : β → Nat → Attempt Bytes × β
  /-- What goes wrong when the connection is given up. -/
  releaseError? : β → Option IoError

end ProbeLink
