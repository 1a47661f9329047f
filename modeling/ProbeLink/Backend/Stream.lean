import ProbeLink.Backend.Basic

/-!
# ProbeLink.Backend.Stream

A **stream connection** to a device on the network, seen as two byte queues: what the peer has sent
and the host has not yet received, and what the host has sent.

* A receive takes whatever is queued, up to the room it is given. Where the peer's writes began and
  ended is not visible. With nothing queued it times out, or fails once the peer has ended its data.
* A send takes everything.
* An error of the connection is settled before it is reported, so a receive that finds nothing in time
  is a timeout. The end of the data is found by the receive itself and is a failure as it stands.
* After a reset the queued data is lost. The first transfer reports the reset; from then on sends
  find a broken pipe and receives the end of the data. Giving up such a connection fails too.
-/

namespace ProbeLink.Backend

/-- The state of a connection that may have been reset. -/
inductive Line
  /-- Nothing happened to it. -/
  | up
  /-- It was reset, and no transfer has reported it yet. -/
  | resetPending
  /-- It was reset. -/
  | down
  deriving Repr, DecidableEq

/-- A stream connection. -/
structure Stream where
  /-- Bytes from the peer that wait to be received. -/
  incoming : Bytes
  /-- Has the peer ended its data? -/
  ended : Bool
  /-- Sends whose bytes the peer has not taken yet, in order. -/
  outgoing : List Bytes
  /-- Was the connection reset? -/
  line : Line
  deriving Repr, DecidableEq

namespace Stream

/-- A connection just made. -/
def connected : Stream := ⟨[], false, [], .up⟩

/-- The peer sends bytes. -/
def deliver (stream : Stream) (bytes : Bytes) : Stream :=
  { stream with incoming := stream.incoming ++ bytes }

/-- The peer ends its data. -/
def finish (stream : Stream) : Stream := { stream with ended := true }

/-- The peer resets the connection. -/
def reset (stream : Stream) : Stream := { stream with incoming := [], line := .resetPending }

/-- What the peer takes: all the bytes sent to it so far. -/
def taken (stream : Stream) : Bytes := stream.outgoing.flatten

/-- The connection after the peer took everything. -/
def drained (stream : Stream) : Stream := { stream with outgoing := [] }

/-- The peer ended its data and everything was received. -/
def endOfData : IoError := ⟨.unexpectedEof, "connection closed by device"⟩

/-- Nothing arrived in time. -/
def nothingYet : IoError := ⟨.wouldBlock, "Resource temporarily unavailable (os error 11)"⟩

/-- The peer reset the connection. -/
def resetByPeer : IoError := ⟨.connectionReset, "Connection reset by peer (os error 104)"⟩

/-- A send after a reset. -/
def brokenPipe : IoError := ⟨.brokenPipe, "Broken pipe (os error 32)"⟩

/-- The connection is gone before it was given up. -/
def notConnected : IoError :=
  ⟨.notConnected, "Transport endpoint is not connected (os error 107)"⟩

instance : Backend Stream where
  sendOnce stream data :=
    match stream.line with
    | .up => (.moved data.length, { stream with outgoing := stream.outgoing ++ [data] })
    | .resetPending => (Attempt.settle 0 (.failed resetByPeer), { stream with line := .down })
    | .down => (Attempt.settle 0 (.failed brokenPipe), stream)
  receiveOnce stream capacity :=
    match stream.line with
    | .up =>
      if stream.incoming.isEmpty then
        (if stream.ended then .failed endOfData else Attempt.settle [] (.failed nothingYet), stream)
      else
        (.moved (stream.incoming.take capacity),
          { stream with incoming := stream.incoming.drop capacity })
    | .resetPending => (Attempt.settle [] (.failed resetByPeer), { stream with line := .down })
    | .down => (.failed endOfData, stream)
  releaseError? stream := if stream.line = .up then none else some notConnected

end Stream

end ProbeLink.Backend
