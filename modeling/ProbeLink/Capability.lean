import ProbeLink.Transport.Exchange

/-!
# ProbeLink.Capability

**What a device can do**: a field of 256 bits, some of which have a known meaning.

Design points:

* The field is kept as its 32 bytes. Bit `k` is bit `k % 8` of byte `k / 8`.
* A device answers with the first 4 bytes of the field; one that has the capability `getExtCaps` can
  be asked for all 32. Both answers are read by `Capabilities.ofRaw`: what is missing is zero.
-/

namespace ProbeLink

/-- A capability with a known meaning. -/
inductive Capability
  | getHwVersion
  | adaptiveClocking
  | readConfig
  | writeConfig
  | getFreeMemory
  | setTargetPower
  | selectTif
  | swo
  | register
  | getExtCaps
  deriving Repr, DecidableEq

namespace Capability

/-- The bit that stands for a capability. -/
def bit : Capability → Nat
  | .getHwVersion => 1
  | .adaptiveClocking => 3
  | .readConfig => 4
  | .writeConfig => 5
  | .getFreeMemory => 11
  | .setTargetPower => 13
  | .selectTif => 17
  | .swo => 23
  | .register => 27
  | .getExtCaps => 31

/-- The name of a capability in a description. -/
def name : Capability → String
  | .getHwVersion => "GetHwVersion"
  | .adaptiveClocking => "AdaptiveClocking"
  | .readConfig => "ReadConfig"
  | .writeConfig => "WriteConfig"
  | .getFreeMemory => "GetFreeMemory"
  | .setTargetPower => "SetTargetPower"
  | .selectTif => "SelectTif"
  | .swo => "Swo"
  | .register => "Register"
  | .getExtCaps => "GetExtCaps"

/-- All of them, by increasing bit. -/
def all : List Capability :=
  [.getHwVersion, .adaptiveClocking, .readConfig, .writeConfig, .getFreeMemory, .setTargetPower,
    .selectTif, .swo, .register, .getExtCaps]

theorem mem_all (capability : Capability) : capability ∈ all := by
  cases capability <;> simp [all]

end Capability

/-- A set of capabilities, as the bytes of its bit field. -/
structure Capabilities where
  field : Bytes
  length_field : field.length = 32
  deriving Repr, DecidableEq

namespace Capabilities

/-- Reads a bit field: of a longer one the first 32 bytes count, a shorter one ends in zeros. -/
def ofRaw (raw : Bytes) : Capabilities where
  field := Bytes.padTo 32 (raw.take 32)
  length_field := by simp only [Bytes.length_padTo, List.length_take]; omega

/-- The bit field. -/
def toRaw (capabilities : Capabilities) : Bytes := capabilities.field

/-- The set with no bit set. -/
def empty : Capabilities := ofRaw []

/-- Is a bit of the field set? -/
def hasBit (capabilities : Capabilities) (k : Nat) : Bool :=
  (capabilities.field.getD (k / 8) 0).toNat.testBit (k % 8)

/-- Is the capability in the set? -/
def contains (capabilities : Capabilities) (capability : Capability) : Bool :=
  capabilities.hasBit capability.bit

/-- The known capabilities in the set, by increasing bit. -/
def toList (capabilities : Capabilities) : List Capability :=
  Capability.all.filter capabilities.contains

/-- The known capabilities in braces. -/
def describe (capabilities : Capabilities) : String :=
  "\x7b" ++ String.intercalate ", " (capabilities.toList.map Capability.name) ++ "\x7d"

@[ext] theorem ext {a b : Capabilities} (h : a.field = b.field) : a = b := by
  cases a; cases b; cases h; rfl

/-- Reading a written field gives the set. -/
@[simp] theorem ofRaw_toRaw (capabilities : Capabilities) :
    ofRaw capabilities.toRaw = capabilities := by
  apply ext
  simp only [ofRaw, toRaw]
  rw [List.take_of_length_le (by simp [capabilities.length_field]),
    Bytes.padTo_of_length_le (by simp [capabilities.length_field])]

/-- A byte of the field is that of the bit field that was read, zero where that one had ended. -/
theorem getD_field_ofRaw (raw : Bytes) {k : Nat} (h : k < 32) :
    (ofRaw raw).field.getD k 0 = raw.getD k 0 := by
  show (Bytes.padTo 32 (raw.take 32)).getD k 0 = raw.getD k 0
  rw [Bytes.getD_padTo, List.getD_eq_getElem?_getD, List.getElem?_take, if_pos h,
    List.getD_eq_getElem?_getD]

/-! ### Asking a device -/

/-- The request for the first 4 bytes of the field. -/
def request : Bytes := [0xe8]

/-- The request for the whole field. -/
def extendedRequest : Bytes := [0xed]

/-- Asks the device for the first 4 bytes of its field. -/
def ask {β : Type} [Backend β] : Run (Transport β) Capabilities :=
  ofRaw <$> Transport.exchange request 4

/-- Asks the device for its whole field. Only one with the capability `getExtCaps` answers. -/
def askExtended {β : Type} [Backend β] : Run (Transport β) Capabilities :=
  ofRaw <$> Transport.exchange extendedRequest 32

end Capabilities

end ProbeLink
