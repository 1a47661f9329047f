import ProbeLink.Backend.Stream
import ProbeLink.Session

/-!
# ProbeLink.Loopback

A device whose **peer is at hand**: the same history tells what the client does and what the other
end of the connection does, so both sides of a session can be looked at.

The peer's end of a connection stays when the client's session is gone. A new session has a new
connection.
-/

namespace ProbeLink

open Backend (Stream)

/-- A device and the other end of its connection. -/
structure Loopback where
  session : Session Stream
  /-- Does the peer still accept connections? -/
  listening : Bool
  /-- The last connection, once its session is gone. -/
  left? : Option Stream

namespace Loopback

/-- Something that the client or the peer does. -/
inductive Step
  | acquire
  | release
  | open (config : ValidConfig)
  | close
  | drop
  | call (operation : Operation)
  /-- The peer stops accepting connections. -/
  | unlisten
  | peerSend (bytes : Bytes)
  /-- The peer takes what was sent to it. -/
  | peerTake
  /-- The peer ends its data. -/
  | peerFinish
  /-- The client writes an operation of one byte, and the peer resets the connection. -/
  | peerReset

/-- Why a step has nothing to act on. -/
inductive Missing
  | session
  | peer
  deriving Repr, DecidableEq

/-- A device just found, whose peer may accept connections. -/
def found (listening : Bool) (device : Device) : Loopback := ⟨Session.found device, listening, none⟩

/-- The peer's end of the connection. -/
def peer? (l : Loopback) : Option Stream :=
  match l.session.transport? with
  | some t => some t.backend
  | none => l.left?

/-- The state after the peer did something to the connection. -/
def withPeer (l : Loopback) (stream : Stream) : Loopback :=
  match l.session.transport? with
  | some t => { l with session.transport? := some { t with backend := stream } }
  | none => { l with left? := some stream }

/-- Connecting takes some time, and a peer that accepts connections. -/
def connection (l : Loopback) (config : ValidConfig) : Except OpenError Stream :=
  if l.listening && 0 < config.timeoutMs then .ok Stream.connected
  else .error (.connect ⟨.other, "Connection refused (os error 111)"⟩)

/-- What the client does, in the session's own terms. -/
def clientStep? (l : Loopback) : Step → Option (Session.Step Stream)
  | .acquire => some .acquire
  | .release => some .release
  | .open config => some (.open Transport.addressableBytes config (l.connection config))
  | .close => some .close
  | .drop => some .drop
  | .call operation => some (.call operation)
  | _ => none

/-- Lets the peer act. -/
def onPeer (l : Loopback) (act : Stream → Reply × Stream) :
    Except Missing (Outcome Loopback Reply) :=
  match l.peer? with
  | none => .error .peer
  | some stream => .ok ⟨.ok (act stream).1, l.withPeer (act stream).2, []⟩

/-- Lets the client act. -/
def onSession (l : Loopback) (step : Session.Step Stream) :
    Except Missing (Outcome Loopback Reply) :=
  match l.session.perform step with
  | none => .error .session
  | some outcome =>
    .ok (outcome.inState fun session =>
      { l with
        session := session
        left? := if session.transport?.isSome then none else l.peer? })

/-- Makes a step. -/
def perform (l : Loopback) (step : Step) : Except Missing (Outcome Loopback Reply) :=
  match l.clientStep? step, step with
  | some step, _ => l.onSession step
  | none, .peerSend bytes => l.onPeer fun stream => (.done, stream.deliver bytes)
  | none, .peerTake => l.onPeer fun stream => (.bytes stream.taken, stream.drained)
  | none, .peerFinish => l.onPeer fun stream => (.done, stream.finish)
  | none, .peerReset => do
    let started ← l.onSession (.call (.startWrite 1))
    let written ← started.state.onSession (.call (.write [0]))
    let reset ← written.state.onPeer fun stream => (.done, stream.reset)
    return reset.after (started.events ++ written.events)
  | none, _ => .ok ⟨.ok .done, { l with listening := false }, []⟩

end Loopback

end ProbeLink
