import ProbeLink.Net.Address

/-!
# ProbeLink.Net.Reader

**Reading addresses** from text.

Design points:

* IPv4: four decimal octets of at most three digits, without leading zeros.
* IPv6: groups of one to four hexadecimal digits between colons. Either all eight are there, or one
  `::` stands for at least one zero group. The last two groups may be written as an IPv4 address.
* A socket address closes with a port; an IPv6 address in it stands in brackets and may name its
  scope after a percent sign.
-/

namespace ProbeLink

/-- One octet: at most three digits, and no zero in front of another digit. -/
def IPv4.octet? (digits : List Char) : Option UInt8 :=
  if 3 < digits.length ∨ (digits.head? = some '0' ∧ 1 < digits.length) then none
  else (Text.readPlain? 255 digits).map UInt8.ofNat

/-- Reads dotted decimal notation. -/
def IPv4.ofText? (text : List Char) : Option IPv4 :=
  match Text.fields '.' text with
  | [a, b, c, d] => do
    let a ← octet? a
    let b ← octet? b
    let c ← octet? c
    let d ← octet? d
    return ⟨a, b, c, d⟩
  | _ => none

namespace IPv6

/-- The number that a run of hexadecimal digits adds to `n`. -/
def hexValue? : Nat → List Char → Option Nat
  | n, [] => some n
  | n, c :: rest => (Text.hexDigit? c).bind fun d => hexValue? (n * 16 + d) rest

/-- One group: one to four hexadecimal digits. -/
def group? (digits : List Char) : Option UInt16 :=
  if digits.isEmpty ∨ 4 < digits.length then none else (hexValue? 0 digits).map UInt16.ofNat

/-- An IPv4 address as the two groups it takes. -/
def groupsOfIPv4 (ip : IPv4) : List UInt16 :=
  [UInt16.ofNat (ip.a.toNat * 256 + ip.b.toNat), UInt16.ofNat (ip.c.toNat * 256 + ip.d.toNat)]

/-- The groups written in a list of fields, the last of which may hold an IPv4 address. -/
def groupsOfFields? : List (List Char) → Option (List UInt16)
  | [] => some []
  | [last] =>
    match group? last with
    | some group => some [group]
    | none => (IPv4.ofText? last).map groupsOfIPv4
  | field :: others => do
    let group ← group? field
    let rest ← groupsOfFields? others
    return group :: rest

/-- The groups on one side of `::`, where there may be none. -/
def groupsOfText? (text : List Char) : Option (List UInt16) :=
  if text.isEmpty then some [] else groupsOfFields? (Text.fields ':' text)

/-- Reads the text of an IPv6 address. -/
def ofText? (text : List Char) : Option IPv6 :=
  match Text.cutDouble? ':' text with
  | none => do
    let groups ← groupsOfFields? (Text.fields ':' text)
    if h : groups.length = 8 then some ⟨groups, h⟩ else none
  | some (front, back) => do
    -- An IPv4 address closes the whole text, so none stands before the gap.
    let front ← if front.isEmpty then some [] else (Text.fields ':' front).mapM group?
    let back ← groupsOfText? back
    if front.length + back.length < 8 then
      some (ofGroups (front ++ List.replicate (8 - (front.length + back.length)) 0 ++ back))
    else none

end IPv6

/-- Reads an address of either version. -/
def IPAddress.ofText? (text : List Char) : Option IPAddress :=
  match IPv4.ofText? text with
  | some ip => some (.v4 ip)
  | none => (IPv6.ofText? text).map .v6

/-- Reads an IPv6 address and, after a percent sign, its scope. -/
def SocketAddress.scoped? (text : List Char) : Option (IPv6 × UInt32) :=
  match Text.cutFirst? '%' text with
  | none => (IPv6.ofText? text).map fun ip => (ip, 0)
  | some (ip, scope) => do
    let ip ← IPv6.ofText? ip
    let scope ← Text.readPlain? (UInt32.size - 1) scope
    return (ip, UInt32.ofNat scope)

/-- Reads a socket address. -/
def SocketAddress.ofText? (text : List Char) : Option SocketAddress :=
  match text with
  | '[' :: rest => do
    let (inside, rest) ← Text.cutFirst? ']' rest
    let (ip, scope) ← scoped? inside
    let port ← Text.afterPrefix? [':'] rest
    let port ← Text.readPlain? (UInt16.size - 1) port
    return .v6 ip (UInt16.ofNat port) scope
  | _ => do
    let (ip, port) ← Text.cutFirst? ':' text
    let ip ← IPv4.ofText? ip
    let port ← Text.readPlain? (UInt16.size - 1) port
    return .v4 ip (UInt16.ofNat port)

end ProbeLink
