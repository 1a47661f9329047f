import ProbeLink.Net.Address

/-!
# ProbeLink.Registry.Connection

The **connections** that a device keeps in its registry, and how they are written on the wire: as
table entries in what the device answers, and in the request of a client.

A handle of zero belongs to no connection; it stands in one that is not registered yet.
-/

namespace ProbeLink

/-- A client of a device. -/
structure Connection where
  /-- What the device calls the connection. -/
  handle : UInt16
  /-- The client process, usually its process id. -/
  pid : UInt32
  /-- The client's address. -/
  hid : IPv4
  iid : UInt8
  cid : UInt8
  /-- When it last registered, in milliseconds since the device was switched on. -/
  timestamp : UInt32
  deriving Repr, DecidableEq

namespace Connection

/-- A client on this host that is not registered yet. -/
def unregistered (pid : UInt32) : Connection := ⟨0, pid, IPv4.unspecified, 0, 0, 0⟩

/-- The length of a table entry. -/
def entryLength : Nat := 16

/-- A connection as a table entry. -/
def encode (c : Connection) : Bytes :=
  Bytes.ofNat 4 c.pid.toNat ++ c.hid.octets ++ [c.iid, c.cid] ++ Bytes.ofNat 2 c.handle.toNat ++
    Bytes.ofNat 4 c.timestamp.toNat

/-- Reads a table entry. -/
def decode (entry : Bytes) : Connection where
  pid := UInt32.ofNat (Bytes.word 0 4 entry)
  hid := IPv4.ofOctets (Bytes.slice 4 4 entry)
  iid := entry.getD 8 0
  cid := entry.getD 9 0
  handle := UInt16.ofNat (Bytes.word 10 2 entry)
  timestamp := UInt32.ofNat (Bytes.word 12 4 entry)

@[simp] theorem length_encode (c : Connection) : c.encode.length = entryLength := by
  simp [encode, IPv4.octets, entryLength]

/-- Reading a written entry gives the connection. -/
@[simp] theorem decode_encode (c : Connection) : decode c.encode = c := by
  have hp : Bytes.word 0 4 c.encode = c.pid.toNat := by
    have : Bytes.slice 0 4 c.encode = Bytes.ofNat 4 c.pid.toNat := by
      simp [encode, Bytes.slice, IPv4.octets, Bytes.ofNat]
    rw [Bytes.word, this, Bytes.toNat_ofNat_of_lt c.pid.toNat_lt]
  have hh : Bytes.word 10 2 c.encode = c.handle.toNat := by
    have : Bytes.slice 10 2 c.encode = Bytes.ofNat 2 c.handle.toNat := by
      simp [encode, Bytes.slice, IPv4.octets, Bytes.ofNat]
    rw [Bytes.word, this, Bytes.toNat_ofNat_of_lt c.handle.toNat_lt]
  have ht : Bytes.word 12 4 c.encode = c.timestamp.toNat := by
    have : Bytes.slice 12 4 c.encode = Bytes.ofNat 4 c.timestamp.toNat := by
      simp [encode, Bytes.slice, IPv4.octets, Bytes.ofNat]
    rw [Bytes.word, this, Bytes.toNat_ofNat_of_lt c.timestamp.toNat_lt]
  have hi : IPv4.ofOctets (Bytes.slice 4 4 c.encode) = c.hid := by
    simp [encode, Bytes.slice, IPv4.octets, Bytes.ofNat, IPv4.ofOctets]
  simp only [decode, hp, hh, ht, hi]
  simp [encode, IPv4.octets, Bytes.ofNat]

end Connection

end ProbeLink
