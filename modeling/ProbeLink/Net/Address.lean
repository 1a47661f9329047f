import ProbeLink.Bytes
import ProbeLink.Text.Digits
import ProbeLink.Text.Field

/-!
# ProbeLink.Net.Address

**Network addresses** and their canonical text.

Design points:

* An IPv4 address is its four octets, an IPv6 address its eight groups.
* The canonical text of an IPv6 address is in lower case, without leading zeros, and with the
  longest run of two or more zero groups written as `::`, the first one where two are as long. An
  address that stands for an IPv4 address (`::ffff:a.b.c.d`) shows it.
* A socket address adds the port, and for IPv6 the scope, which is shown only if it is not zero.
-/

namespace ProbeLink

/-- An IPv4 address. -/
structure IPv4 where
  a : UInt8
  b : UInt8
  c : UInt8
  d : UInt8
  deriving Repr, DecidableEq

namespace IPv4

/-- The address `0.0.0.0`. -/
def unspecified : IPv4 := ⟨0, 0, 0, 0⟩

/-- The four octets in network order. -/
def octets (ip : IPv4) : Bytes := [ip.a, ip.b, ip.c, ip.d]

/-- The address with these octets; missing ones are zero. -/
def ofOctets (octets : Bytes) : IPv4 :=
  ⟨octets.getD 0 0, octets.getD 1 0, octets.getD 2 0, octets.getD 3 0⟩

@[simp] theorem ofOctets_octets (ip : IPv4) : ofOctets ip.octets = ip := rfl

/-- Dotted decimal notation. -/
def text (ip : IPv4) : List Char :=
  Text.joinFields '.' (ip.octets.map fun octet => (Nat.repr octet.toNat).toList)

end IPv4

/-- An IPv6 address, as its eight groups. -/
structure IPv6 where
  groups : List UInt16
  length_groups : groups.length = 8
  deriving Repr, DecidableEq

namespace IPv6

/-- The address with these groups; missing ones are zero, and only the first eight count. -/
def ofGroups (groups : List UInt16) : IPv6 where
  groups := (groups ++ List.replicate 8 0).take 8
  length_groups := by simp

/-- The IPv4 address that this address stands for. -/
def toIPv4Mapped? (ip : IPv6) : Option IPv4 :=
  match ip.groups with
  | [0, 0, 0, 0, 0, 0xffff, high, low] =>
    some ⟨UInt8.ofNat (high.toNat / 256), UInt8.ofNat high.toNat,
      UInt8.ofNat (low.toNat / 256), UInt8.ofNat low.toNat⟩
  | _ => none

/-- How many zeros a list of groups starts with. -/
def leadingZeros : List UInt16 → Nat
  | [] => 0
  | group :: rest => if group = 0 then leadingZeros rest + 1 else 0

/-- The first of the longest runs of zero groups, as its position and length. -/
def longestZeroRun (groups : List UInt16) : Nat × Nat :=
  go 0 (0, 0) groups
where
  /-- `best` is the longest run that starts before position `start`, where `rest` begins. -/
  go (start : Nat) (best : Nat × Nat) : List UInt16 → Nat × Nat
    | [] => best
    | group :: rest =>
      let here := leadingZeros (group :: rest)
      go (start + 1) (if best.2 < here then (start, here) else best) rest

/-- Groups in hexadecimal with colons between them. -/
def groupsText (groups : List UInt16) : List Char :=
  Text.joinFields ':' (groups.map fun group => Text.hex group.toNat)

/-- The canonical text of an address. -/
def text (ip : IPv6) : List Char :=
  match ip.toIPv4Mapped? with
  | some mapped => "::ffff:".toList ++ mapped.text
  | none =>
    let (start, length) := longestZeroRun ip.groups
    if 1 < length then
      groupsText (ip.groups.take start) ++ [':', ':'] ++
        groupsText (ip.groups.drop (start + length))
    else groupsText ip.groups

end IPv6

/-- An IP address of either version. -/
inductive IPAddress
  | v4 (ip : IPv4)
  | v6 (ip : IPv6)
  deriving Repr, DecidableEq

/-- The canonical text of an address. -/
def IPAddress.text : IPAddress → List Char
  | .v4 ip => ip.text
  | .v6 ip => ip.text

/-- An address and a port; for IPv6 also the scope within which the address has its meaning. -/
inductive SocketAddress
  | v4 (ip : IPv4) (port : UInt16)
  | v6 (ip : IPv6) (port : UInt16) (scope : UInt32)
  deriving Repr, DecidableEq

namespace SocketAddress

/-- A socket address without scope. -/
def ofIP (port : UInt16) : IPAddress → SocketAddress
  | .v4 ip => .v4 ip port
  | .v6 ip => .v6 ip port 0

/-- The address without port and scope. -/
def ip : SocketAddress → IPAddress
  | .v4 ip _ => .v4 ip
  | .v6 ip _ _ => .v6 ip

/-- The port. -/
def port : SocketAddress → UInt16
  | .v4 _ port => port
  | .v6 _ port _ => port

/-- Address and port with a colon between them, an IPv6 address in brackets. -/
def text : SocketAddress → String
  | .v4 ip port => String.ofList (ip.text ++ ':' :: (Nat.repr port.toNat).toList)
  | .v6 ip port scope =>
    let inside := if scope = 0 then ip.text else ip.text ++ '%' :: (Nat.repr scope.toNat).toList
    String.ofList ('[' :: inside ++ [']', ':'] ++ (Nat.repr port.toNat).toList)

@[simp] theorem ip_ofIP (port : UInt16) (ip : IPAddress) : (ofIP port ip).ip = ip := by
  cases ip <;> rfl

@[simp] theorem port_ofIP (port : UInt16) (ip : IPAddress) : (ofIP port ip).port = port := by
  cases ip <;> rfl

end SocketAddress

end ProbeLink
