import Mathlib
import ProbeLink.Discovery
import ProbeLink.Proofs.Lifecycle
import ProbeLink.Proofs.SelectorText

/-!
# ProbeLink.Proofs.NetworkText

**The spellings of a network selector agree** (`network_selectors`).

An address is cut at its last colon, and this is the one in front of a port if there is no other or
if a bracket closes before it (`splitPort_port`). The last colon of an IPv6 address without brackets
has others before it, and no bracket. So it begins no port (`splitPort_of_colons`), whatever the
last group looks like, and brackets around the address do not change that: the opening one stands in
front of all colons, the closing one behind.

A host that is an address is read as one twice, when the device is looked for and when the selector
is compared with it. Both times it is the same reader, and the text of the address that it gives is
read as that address again.
-/

namespace ProbeLink

namespace DeviceSelector

/-! ### The last colon -/

variable {host front back : List Char}

theorem splitPort_of_no_colon (h : ':' ∉ host) : splitPort host = (host, none) := by
  rw [splitPort, Text.cutLast?_eq_none_iff.2 h]

/-- The last colon begins no port if there are others, and no bracket closes before it. -/
theorem splitPort_of_colons (hback : ':' ∉ back) (hcolon : ':' ∈ front) (hbracket : ']' ∉ front) :
    splitPort (front ++ ':' :: back) = (front ++ ':' :: back, none) := by
  have hlast : front.getLast? ≠ some ']' := fun h => hbracket (List.mem_of_getLast? h)
  rw [splitPort, Text.cutLast?_append ':' front hback]
  exact if_neg (not_or.2 ⟨not_not.2 hcolon, hlast⟩)

/-- The last colon of an IPv6 address, and the others before it. -/
theorem exists_last_colon (h : 2 ≤ host.count ':') :
    ∃ front group, host = front ++ ':' :: group ∧ ':' ∈ front ∧ ':' ∉ group := by
  cases hcut : Text.cutLast? ':' host with
  | none =>
    have hnone := List.count_eq_zero.2 (Text.cutLast?_eq_none_iff.1 hcut)
    omega
  | some parts =>
    obtain ⟨front, group⟩ := parts
    obtain ⟨rfl, hgroup⟩ := Text.eq_of_cutLast? hcut
    rw [List.count_append, List.count_cons_self, List.count_eq_zero.2 hgroup] at h
    exact ⟨front, group, rfl, List.count_pos_iff.1 (by omega), hgroup⟩

/-- **An address without a port is all host**, in brackets or not. -/
theorem splitPort_bare (hcolons : ':' ∉ host ∨ 2 ≤ host.count ':') (hbracket : ']' ∉ host) :
    splitPort host = (host, none) ∧
      splitPort ('[' :: (host ++ [']'])) = ('[' :: (host ++ [']']), none) := by
  rcases hcolons with hcolon | hcolons
  · exact ⟨splitPort_of_no_colon hcolon, splitPort_of_no_colon (by simp [hcolon])⟩
  · obtain ⟨front, group, rfl, hfront, hgroup⟩ := exists_last_colon hcolons
    have hopen : ']' ∉ front := fun hmem => hbracket (List.mem_append_left _ hmem)
    refine ⟨splitPort_of_colons hgroup hfront hopen, ?_⟩
    have hbracketed : '[' :: (front ++ ':' :: group ++ [']']) =
        ('[' :: front) ++ ':' :: (group ++ [']']) := by simp
    rw [hbracketed]
    exact splitPort_of_colons (by simpa using hgroup) (List.mem_cons_of_mem _ hfront)
      (by simpa using hopen)

/-! ### Hosts without a port -/

variable {name : String}

/-- **Without a port, a host gets the default**, in brackets or not. -/
theorem ofText_bare (h : Clean name.toList)
    (hcolons : ':' ∉ name.toList ∨ 2 ≤ name.toList.count ':') (hbracket : ']' ∉ name.toList) :
    ofText ("tcp:" ++ name) = .ok (.tcp name defaultPort) ∧
      ofText ("tcp:[" ++ name ++ "]") = .ok (.tcp name defaultPort) := by
  obtain ⟨hbare, hbracketed⟩ := splitPort_bare hcolons hbracket
  constructor
  · refine ofText_address name.toList String.toList_append ?_ ?_ h.ne_nil
    · rw [hbare]
      rfl
    · rw [hbare]
      exact h.stripBrackets
  · refine ofText_address ('[' :: (name.toList ++ [']'])) ?_ ?_ ?_ h.ne_nil
    · simp only [String.toList_append, List.append_assoc]
      rfl
    · rw [hbracketed]
      rfl
    · rw [hbracketed]
      exact h.stripBrackets_bracketed

/-- What stands for the port of a host without colons, and is none, is refused. -/
theorem ofText_no_port {written : String} (hcolon : ':' ∉ name.toList)
    (hwritten : ':' ∉ written.toList) (h : ∀ port, ¬SpellsPort port written.toList) :
    ∃ e, ofText ("tcp:" ++ name ++ ":" ++ written) = .error (.invalidPort e) := by
  obtain ⟨e, he⟩ := readPort_eq_error h
  have htext : ("tcp:" ++ name ++ ":" ++ written).toList =
      ['t', 'c', 'p', ':'] ++ (name.toList ++ ':' :: written.toList) := by
    simp only [String.toList_append, List.append_assoc]
    rfl
  rw [ofText, htext, ofChars_tcp, splitPort_port hwritten (.inl hcolon), he]
  exact ⟨e, rfl⟩

/-! ### Addresses -/

/-- A device that is found at an address: nobody has opened it, it goes by the selector, and is
found again by its own. -/
structure FoundFor (surroundings : Surroundings) (selector : DeviceSelector) (device : Device) :
    Prop where
  found : surroundings.find selector = .ok device
  closed : ∀ β : Type, (Session.found device : Session β).references = 1 ∧
    Session.Openable (Session.found device : Session β)
  selected : selector.selects device = true
  again : ∃ again, surroundings.find (ofDevice device) = .ok again ∧ again.address = device.address

/-- An address is found without looking it up, with no port other than that of the selector. -/
theorem find_of_address (surroundings : Surroundings) {ip : IPAddress} (port : UInt16)
    (h : IPAddress.ofText? name.toList = some ip) :
    surroundings.find (.tcp name port) = .ok (Device.tcp (SocketAddress.ofIP port ip) none) := by
  have hresolve : surroundings.resolve name = .ok [ip] := by rw [Surroundings.resolve, h]
  rw [Surroundings.find, hresolve]
  rfl

theorem foundFor_address (surroundings : Surroundings) {ip : IPAddress} (port : UInt16)
    (h : IPAddress.ofText? name.toList = some ip) :
    FoundFor surroundings (.tcp name port) (Device.tcp (SocketAddress.ofIP port ip) none) where
  found := find_of_address surroundings port h
  closed β := ⟨rfl, Session.openable_idle _ 0⟩
  selected := by simp [selects, Device.tcp, h]
  again := by
    refine ⟨_, ?_, rfl⟩
    have hname : ofDevice (Device.tcp (SocketAddress.ofIP port ip) none) =
        .tcp (String.ofList ip.text) port := by simp [ofDevice, Device.tcp]
    rw [hname]
    exact find_of_address surroundings port (by rw [String.toList_ofList, ip.ofText?_text])

/-- **All spellings of a network selector agree.** A host with two colons or more, such as any IPv6
address, means the same alone, in brackets, and in brackets with the default port after them: none
of its own colons begins a port. A host without colons may have a port in brackets or not, and what
stands in the place of its port and is none is refused. A port may be spelled with zeros and a plus
sign in front. If the host is an address, a device is found there in all surroundings. Nobody has
opened it yet, it goes by the selector, and the selector that is made of it leads to the same
address. -/
theorem network_selectors :
    (∀ host : String, 2 ≤ host.toList.count ':' → '[' ∉ host.toList ∧ ']' ∉ host.toList →
      ofText ("tcp:" ++ host) = .ok (.tcp host 19020) ∧
        ofText ("tcp:[" ++ host ++ "]") = .ok (.tcp host 19020) ∧
        ofText ("tcp:[" ++ host ++ "]:19020") = .ok (.tcp host 19020) ∧
        ∀ (port : UInt16) (written : String), SpellsPort port written.toList →
          ofText ("tcp:[" ++ host ++ "]:" ++ written) = .ok (.tcp host port)) ∧
      (∀ host : String, host ≠ "" → ':' ∉ host.toList → '[' ∉ host.toList ∧ ']' ∉ host.toList →
        ofText ("tcp:" ++ host) = .ok (.tcp host 19020) ∧
          ofText ("tcp:[" ++ host ++ "]") = .ok (.tcp host 19020) ∧
          (∀ (port : UInt16) (written : String), SpellsPort port written.toList →
            ofText ("tcp:" ++ host ++ ":" ++ written) = .ok (.tcp host port) ∧
              ofText ("tcp:[" ++ host ++ "]:" ++ written) = .ok (.tcp host port)) ∧
          ∀ written : String, ':' ∉ written.toList → (∀ port, ¬SpellsPort port written.toList) →
            ∃ e, ofText ("tcp:" ++ host ++ ":" ++ written) = .error (.invalidPort e)) ∧
      (∀ port : UInt16, SpellsPort port (Nat.repr port.toNat).toList) ∧
      ∀ (surroundings : Surroundings) (host : String) (ip : IPAddress) (port : UInt16),
        IPAddress.ofText? host.toList = some ip →
          IPAddress.Shape host.toList ∧
            ∃ device, FoundFor surroundings (.tcp host port) device := by
  refine ⟨?colons, ?plain, spellsPort_repr, ?address⟩
  case colons =>
    intro host hcolons hbracket
    have hfull : host.toList ≠ [] := by
      intro hempty
      rw [hempty] at hcolons
      cases hcolons
    have hclean := clean_of_no_bracket hfull hbracket
    obtain ⟨hbare, hbracketed⟩ := ofText_bare hclean (.inr hcolons) hbracket.2
    have hport (port : UInt16) (written : String) (h : SpellsPort port written.toList) :=
      ofText_bracketed_port hclean h
    refine ⟨hbare, hbracketed, ?_, hport⟩
    have hwritten := hport defaultPort "19020" (spellsPort_repr defaultPort)
    rwa [String.append_assoc] at hwritten
  case plain =>
    intro host hne hcolon hbracket
    have hclean := clean_of_no_bracket (by simpa using hne) hbracket
    obtain ⟨hbare, hbracketed⟩ := ofText_bare hclean (.inl hcolon) hbracket.2
    exact ⟨hbare, hbracketed, fun port written h => ⟨ofText_port hclean hcolon h,
      ofText_bracketed_port hclean h⟩, fun written => ofText_no_port hcolon⟩
  case address =>
    intro surroundings host ip port h
    exact ⟨IPAddress.shape_of_ofText? h, _, foundFor_address surroundings port h⟩

/-- The last group of an address that could be a port, a port that could be a group, and a port that
is too large. -/
theorem network_selectors_of_decimal_groups :
    (ofText "tcp:fe80::80" = .ok (.tcp "fe80::80" 19020) ∧
        ofText "tcp:[fe80::80]" = .ok (.tcp "fe80::80" 19020) ∧
        ofText "tcp:[fe80::80]:19020" = .ok (.tcp "fe80::80" 19020) ∧
        ofText "tcp:[fe80::80]:+080" = .ok (.tcp "fe80::80" 80)) ∧
      (ofText "tcp:box:+080" = .ok (.tcp "box" 80) ∧
        ofText "tcp:[box]:+080" = .ok (.tcp "box" 80)) ∧
      (∃ e, ofText "tcp:box:65536" = .error (.invalidPort e)) ∧
      ∃ device, FoundFor Surroundings.none (.tcp "fe80::80" 80) device := by
  obtain ⟨hcolons, hplain, -, haddress⟩ := network_selectors
  have hport : SpellsPort 80 "+080".toList :=
    ⟨['0', '8', '0'], .inr rfl, Text.denotes_replicate_append 1 80⟩
  have hlarge (port : UInt16) : ¬SpellsPort port "65536".toList := by
    intro h
    have hread : readPort (some "65536".toList) = .error (.invalidPort .tooLarge) := by cbv
    rw [readPort_eq_ok_iff.2 h] at hread
    cases hread
  have hip : IPAddress.ofText? "fe80::80".toList =
      some (.v6 ⟨[0xfe80, 0, 0, 0, 0, 0, 0, 0x80], rfl⟩) := by cbv
  obtain ⟨hbare, hbracketed, hdefault, hcolonPort⟩ :=
    hcolons "fe80::80" (by decide) ⟨by decide, by decide⟩
  obtain ⟨-, -, hplainPort, hnoPort⟩ := hplain "box" (by decide) (by decide) ⟨by decide, by decide⟩
  exact ⟨⟨hbare, hbracketed, hdefault, hcolonPort 80 "+080" hport⟩, hplainPort 80 "+080" hport,
    hnoPort "65536" (by decide) hlarge, (haddress Surroundings.none _ _ 80 hip).2⟩

end DeviceSelector

end ProbeLink
