import ProbeLink.Registry.Connection
import ProbeLink.Error

/-!
# ProbeLink.Registry.Wire

The **messages of the registry**: the request of a client, and the answer of the device, which
consists of a header, the table of connections, and an optional information text.

The first 76 bytes of an answer always come, padded if need be; their header says how long the
answer really is. No device has more than 16 connections or sends more than 512 bytes.
-/

namespace ProbeLink.Registry

/-- What a client asks of the registry. -/
inductive Command
  | register
  | unregister
  deriving Repr, DecidableEq

/-- The byte that stands for a command. -/
def Command.code : Command → UInt8
  | .register => 0x64
  | .unregister => 0x65

/-- The most connections a device can have. -/
def maxConnections : Nat := 16

/-- The length of a request. -/
def requestLength : Nat := 14

/-- The length of the header of an answer. -/
def headerLength : Nat := 8

/-- The length of the part of an answer that always comes. -/
def firstLength : Nat := 76

/-- The most bytes an answer can have. -/
def maxLength : Nat := 512

/-- A request. -/
def request (command : Command) (c : Connection) : Bytes :=
  [0x09, command.code] ++ Bytes.ofNat 4 c.pid.toNat ++ c.hid.octets ++ [c.iid, c.cid] ++
    Bytes.ofNat 2 c.handle.toNat

@[simp] theorem length_request (command : Command) (c : Connection) :
    (request command c).length = requestLength := by
  simp [request, IPv4.octets, requestLength]

/-- The header of an answer. -/
structure Header where
  handle : UInt16
  count : Nat
  entryLength : Nat
  infoLength : Nat
  deriving Repr, DecidableEq

namespace Header

/-- Reads the header from the start of an answer. -/
def decode (answer : Bytes) : Header where
  handle := UInt16.ofNat (Bytes.word 0 2 answer)
  count := Bytes.word 2 2 answer
  entryLength := Bytes.word 4 2 answer
  infoLength := Bytes.word 6 2 answer

/-- The length of the table. -/
def tableLength (h : Header) : Nat := h.count * h.entryLength

/-- The length of the answer. -/
def answerLength (h : Header) : Nat := headerLength + h.tableLength + h.infoLength

/-- What no device may announce. -/
def fault? (h : Header) : Option ProtocolError :=
  if maxConnections < h.count then some (.tooManyConnections h.count)
  else if h.entryLength ≠ Connection.entryLength then some (.invalidEntrySize h.entryLength)
  else if maxLength < h.answerLength then some (.responseTooLarge h.answerLength)
  else none

end Header

/-- An answer of the registry. -/
structure Answer where
  handle : UInt16
  connections : List Connection
  /-- There is no information text of length zero. -/
  info : Option Bytes
  deriving Repr, DecidableEq

namespace Answer

/-- The first `count` entries of a table. -/
def entries : (count : Nat) → Bytes → List Bytes
  | 0, _ => []
  | count + 1, table =>
    table.take Connection.entryLength :: entries count (table.drop Connection.entryLength)

/-- Reads a whole answer with this header. -/
def decode (h : Header) (answer : Bytes) : Answer where
  handle := h.handle
  connections := (entries h.count (Bytes.slice headerLength h.tableLength answer)).map
    Connection.decode
  info :=
    if 0 < h.infoLength then some (Bytes.slice (headerLength + h.tableLength) h.infoLength answer)
    else none

/-- An answer on the wire. -/
def encode (answer : Answer) : Bytes :=
  let info := answer.info.getD []
  Bytes.padTo firstLength
    (Bytes.ofNat 2 answer.handle.toNat ++ Bytes.ofNat 2 answer.connections.length ++
      Bytes.ofNat 2 Connection.entryLength ++ Bytes.ofNat 2 info.length ++
      answer.connections.flatMap Connection.encode ++ info)

end Answer

end ProbeLink.Registry
