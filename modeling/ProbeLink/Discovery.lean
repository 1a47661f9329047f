import ProbeLink.Error
import ProbeLink.Selector

/-!
# ProbeLink.Discovery

**Finding a device** by its selector.

What the host sees around it is an input: the probes on USB, and the addresses that host names stand
for. A host that is an address stands for itself and needs nobody to look it up.
-/

namespace ProbeLink

/-- What can be found from this host. -/
structure Surroundings where
  /-- The devices on USB. -/
  probes : Except OpenError (List Device)
  /-- The addresses of a host name. -/
  lookUp : String → Except OpenError (List IPAddress)

namespace Surroundings

/-- Nothing is plugged in, and no host name is known. -/
def none : Surroundings where
  probes := .ok []
  lookUp _ := .error (.connect ⟨.other, "failed to lookup address information"⟩)

/-- The addresses that a host stands for. -/
def resolve (s : Surroundings) (host : String) : Except OpenError (List IPAddress) :=
  match IPAddress.ofText? host.toList with
  | some ip => .ok [ip]
  | Option.none => s.lookUp host

/-- The one device that a selector names. Of several addresses of a host the first is taken; of
several probes none is. -/
def find (s : Surroundings) (selector : DeviceSelector) : Except OpenError Device :=
  match selector with
  | .tcp host port => do
    match ← s.resolve host with
    | [] => .error .notFound
    | ip :: _ => .ok (Device.tcp (SocketAddress.ofIP port ip) Option.none)
  | .usb _ => do
    let probes ← s.probes
    match probes.filter selector.selects with
    | [] => .error .notFound
    | [device] => .ok device
    | _ => .error .ambiguous

end Surroundings

end ProbeLink
