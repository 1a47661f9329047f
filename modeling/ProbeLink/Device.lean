import ProbeLink.Net.Address

/-!
# ProbeLink.Device

**Devices**: debug probes that are reached over the network or over USB, and how they are told
apart.
-/

namespace ProbeLink

/-- Where a device sits on the USB. -/
structure UsbLocation where
  bus : Nat
  address : Nat
  deriving Repr, DecidableEq

/-- How a device is reached. -/
inductive DeviceAddress
  | usb (location : UsbLocation)
  | tcp (address : SocketAddress)
  deriving Repr, DecidableEq

namespace DeviceAddress

/-- Is the device reached over USB? -/
def isUsb : DeviceAddress → Bool
  | .usb _ => true
  | .tcp _ => false

/-- The name of an address in messages. -/
def text : DeviceAddress → String
  | .usb location =>
    "usb " ++ Text.paddedDecimal 3 location.bus ++ ":" ++ Text.paddedDecimal 3 location.address
  | .tcp address => "tcp " ++ address.text

end DeviceAddress

/-- A debug probe. -/
structure Device where
  address : DeviceAddress
  serial : Option UInt32
  deriving Repr, DecidableEq

namespace Device

/-- A device on the network. -/
def tcp (address : SocketAddress) (serial : Option UInt32) : Device := ⟨.tcp address, serial⟩

/-- The name of a device in messages. -/
def text (device : Device) : String :=
  match device.serial with
  | some serial => s!"J-Link {serial} ({device.address.text})"
  | none => s!"J-Link ({device.address.text})"

/-- The USB address that a probe was set to, which its product id tells: probes with address `n`
have the product id `0x0101 + n`, up to the fourth. -/
def usbAddress? (productId : UInt16) : Option UInt8 :=
  if 0x0101 ≤ productId ∧ productId ≤ 0x0104 then some (productId - 0x0101).toUInt8 else none

end Device

end ProbeLink
