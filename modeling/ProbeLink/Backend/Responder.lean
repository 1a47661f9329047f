import ProbeLink.Backend.Stream

/-!
# ProbeLink.Backend.Responder

A stream connection to a peer that **answers each request at once** with the next of its replies.
With the last reply it ends its data, but it goes on taking requests.
-/

namespace ProbeLink.Backend

/-- A peer with replies prepared. -/
structure Responder where
  stream : Stream
  /-- The replies to the requests to come. -/
  replies : List Bytes
  deriving Repr, DecidableEq

namespace Responder

/-- The peer ends its data as soon as it has no reply left. -/
def settle (responder : Responder) : Responder :=
  if responder.replies.isEmpty then { responder with stream := responder.stream.finish }
  else responder

/-- A connection to a peer with these replies. -/
def connected (replies : List Bytes) : Responder := settle ⟨.connected, replies⟩

/-- The peer has taken a request. -/
def answer (responder : Responder) : Responder :=
  match responder.replies with
  | [] => responder
  | reply :: later => settle ⟨responder.stream.deliver reply, later⟩

instance : Backend Responder where
  sendOnce responder data :=
    let sent := Backend.sendOnce responder.stream data
    (sent.1, answer { responder with stream := sent.2 })
  receiveOnce responder capacity :=
    let received := Backend.receiveOnce responder.stream capacity
    (received.1, { responder with stream := received.2 })
  releaseError? responder := Backend.releaseError? responder.stream

end Responder

end ProbeLink.Backend
