import ProbeLink.Device
import ProbeLink.Net.Reader
import ProbeLink.Text.Blank
import ProbeLink.Text.Quoted

/-!
# ProbeLink.Selector

A **selector** names a device. It is written as

* `usb`: the only device on USB;
* `usb:SERIAL` or just `SERIAL`: the device on USB with this serial number;
* `tcp:HOST` or `tcp:HOST:PORT`: the device on the network at this host.

The last colon of a network selector begins a port if there is no other colon before it, or if a
closing bracket stands in front of it: an IPv6 address has colons of its own and needs brackets if a
port follows. Brackets around the host are not part of it.
-/

namespace ProbeLink

/-- Names a device. -/
inductive DeviceSelector
  | usb (serial : Option UInt32)
  | tcp (host : String) (port : UInt16)
  deriving Repr, DecidableEq

/-- Why a text is no selector. -/
inductive SelectorError
  /-- What follows `usb:` is no serial number. -/
  | invalidSerial (text : String)
  /-- What follows the last colon is no port. -/
  | invalidPort (error : Text.NumberError)
  /-- There is nothing but brackets in the place of the host. -/
  | missingHost (text : String)
  /-- The text is none of the forms. -/
  | invalidSelector (text : String)
  deriving Repr, DecidableEq

/-- The wording of a selector error. -/
def SelectorError.message : SelectorError → String
  | .invalidSerial text => "invalid serial number " ++ Text.quote text
  | .invalidPort error => error.message
  | .missingHost text => "missing host in " ++ Text.quote text
  | .invalidSelector text => "invalid device selector " ++ Text.quote text

/-- Reads a serial number: decimal digits, with white space around them and zeros in front as one
likes. -/
def readSerial? (text : List Char) : Option UInt32 :=
  (Text.readPlain? (UInt32.size - 1) (Text.trim text)).map UInt32.ofNat

namespace DeviceSelector

/-- The port that network devices listen on unless told otherwise. -/
def defaultPort : UInt16 := 19020

/-- A host without the brackets around it: all opening ones at its start and all closing ones at its
end. -/
def stripBrackets (host : List Char) : List Char :=
  ((host.dropWhile (· = '[')).reverse.dropWhile (· = ']')).reverse

/-- The host part of an address, still in brackets, and the text of its port, if it has one. -/
def splitPort (address : List Char) : List Char × Option (List Char) :=
  match Text.cutLast? ':' address with
  | some (host, port) =>
    if ':' ∉ host ∨ host.getLast? = some ']' then (host, some port) else (address, none)
  | none => (address, none)

/-- Reads the port; without one, it is the default. -/
def readPort : Option (List Char) → Except SelectorError UInt16
  | none => .ok defaultPort
  | some digits =>
    match Text.readUnsigned (UInt16.size - 1) digits with
    | .ok port => .ok (UInt16.ofNat port)
    | .error error => .error (.invalidPort error)

/-- Reads a selector. -/
def ofChars (text : List Char) : Except SelectorError DeviceSelector :=
  if text = ['u', 's', 'b'] then .ok (.usb none)
  else
    match Text.afterPrefix? ['u', 's', 'b', ':'] text with
    | some serial =>
      match readSerial? serial with
      | some serial => .ok (.usb (some serial))
      | none => .error (.invalidSerial (String.ofList serial))
    | none =>
      match Text.afterPrefix? ['t', 'c', 'p', ':'] text with
      | some address => do
        let (host, port) := splitPort address
        let port ← readPort port
        let host := stripBrackets host
        if host.isEmpty then .error (.missingHost (String.ofList text))
        else return .tcp (String.ofList host) port
      | none =>
        match readSerial? text with
        | some serial => .ok (.usb (some serial))
        | none => .error (.invalidSelector (String.ofList text))

/-- Reads a selector. -/
def ofText (text : String) : Except SelectorError DeviceSelector := ofChars text.toList

/-- A selector in writing. -/
def text : DeviceSelector → String
  | .usb none => "usb"
  | .usb (some serial) => "usb:" ++ Nat.repr serial.toNat
  | .tcp host port =>
    if ':' ∈ host.toList then "tcp:[" ++ host ++ "]:" ++ Nat.repr port.toNat
    else "tcp:" ++ host ++ ":" ++ Nat.repr port.toNat

/-- Does the selector name the device? A host is compared as an address, so every spelling of the
address will do, and a host name names no device. -/
def selects (selector : DeviceSelector) (device : Device) : Bool :=
  match selector, device.address with
  | .usb none, .usb _ => true
  | .usb (some serial), .usb _ => device.serial = some serial
  | .tcp host port, .tcp address =>
    IPAddress.ofText? host.toList = some address.ip && port = address.port
  | _, _ => false

/-- The selector that names a device. -/
def ofDevice (device : Device) : DeviceSelector :=
  match device.address with
  | .tcp address => .tcp (String.ofList address.ip.text) address.port
  | .usb _ => .usb device.serial

end DeviceSelector

end ProbeLink
