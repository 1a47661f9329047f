import Mathlib
import ProbeLink.Proofs.AddressText
import ProbeLink.Proofs.SerialText

/-!
# ProbeLink.Proofs.SelectorText

**A selector is read back from its text** (`text_round_trip`).

A reader takes any number of brackets off both ends of a host, so that no host that it gives has one
there (`Clean`). Colons and brackets inside of a host are its own, in balance or not. When a clean host
is written, it gets brackets exactly if it has a colon. Then the last colon of the text is the one in
front of the port, and the brackets that come off are those that were put on.
-/

namespace ProbeLink

namespace DeviceSelector

/-! ### Hosts -/

/-- A host with no bracket to take off. -/
structure Clean (host : List Char) : Prop where
  ne_nil : host ≠ []
  head : ∀ h : host ≠ [], host.head h ≠ '['
  last : ∀ h : host ≠ [], host.getLast h ≠ ']'

variable {host : List Char}

theorem clean_of_no_bracket (hne : host ≠ []) (h : '[' ∉ host ∧ ']' ∉ host) : Clean host where
  ne_nil := hne
  head hne hhead := h.1 (hhead ▸ List.head_mem hne)
  last hne hlast := h.2 (hlast ▸ List.getLast_mem hne)

theorem stripBrackets_eq (host : List Char) :
    stripBrackets host = (host.dropWhile (· = '[')).rdropWhile (· = ']') := rfl

theorem Clean.stripOpening (h : Clean host) : host.dropWhile (· = '[') = host := by
  obtain ⟨c, rest, rfl⟩ := List.exists_cons_of_ne_nil h.ne_nil
  have hc : c ≠ '[' := h.head h.ne_nil
  exact List.dropWhile_cons_of_neg (by simpa using hc)

theorem Clean.stripClosing (h : Clean host) : host.rdropWhile (· = ']') = host := by
  rw [List.rdropWhile_eq_self_iff]
  intro hne
  simpa using h.last hne

/-- Nothing comes off a clean host. -/
theorem Clean.stripBrackets (h : Clean host) : stripBrackets host = host := by
  rw [stripBrackets_eq, h.stripOpening, h.stripClosing]

/-- Of a clean host in brackets just these come off. -/
theorem Clean.stripBrackets_bracketed (h : Clean host) :
    DeviceSelector.stripBrackets ('[' :: (host ++ [']'])) = host := by
  have hopening : (host ++ [']']).dropWhile (· = '[') = host ++ [']'] := by
    obtain ⟨c, rest, rfl⟩ := List.exists_cons_of_ne_nil h.ne_nil
    have hc : c ≠ '[' := h.head h.ne_nil
    exact List.dropWhile_cons_of_neg (by simpa using hc)
  rw [stripBrackets_eq, List.dropWhile_cons_of_pos (by simp), hopening,
    List.rdropWhile_concat_pos _ _ _ (by simp), h.stripClosing]

/-- Whatever the brackets come off, what is left is clean. -/
theorem clean_stripBrackets (h : stripBrackets host ≠ []) : Clean (stripBrackets host) := by
  rw [stripBrackets_eq] at h ⊢
  refine ⟨h, ?_, ?_⟩
  · intro hne
    -- The closing brackets are taken off the end, so the head is still that of the part before.
    have hfront := List.rdropWhile_prefix (· = ']') (host.dropWhile (· = '['))
    rw [hfront.head hne]
    simpa using List.head_dropWhile_not (· = '[') _
  · intro hne
    simpa using List.rdropWhile_last_not (· = ']') _ hne

/-! ### Ports -/

/-- The port in decimal digits, with zeros in front and a plus sign before them as one likes. -/
def SpellsPort (port : UInt16) (written : List Char) : Prop :=
  ∃ digits, (written = digits ∨ written = '+' :: digits) ∧ Text.Denotes port.toNat digits

theorem spellsPort_repr (port : UInt16) : SpellsPort port (Nat.repr port.toNat).toList :=
  ⟨_, .inl rfl, Text.denotes_repr port.toNat⟩

theorem SpellsPort.no_colon {port : UInt16} {written : List Char} (h : SpellsPort port written) :
    ':' ∉ written := by
  obtain ⟨digits, hsign, hdigits⟩ := h
  have hcolon : ':' ∉ digits := fun hmem => nomatch hdigits.isDigit ':' hmem
  rcases hsign with rfl | rfl
  · exact hcolon
  · simpa using hcolon

/-- **The ports that are read** are those that are spelled. -/
theorem readPort_eq_ok_iff {port : UInt16} {written : List Char} :
    readPort (some written) = .ok port ↔ SpellsPort port written := by
  have hlt : port.toNat < UInt16.size := port.toNat_lt
  constructor
  · intro h
    rw [readPort] at h
    split at h
    · next n hread =>
      cases h
      obtain ⟨⟨digits, hsign, hdigits⟩, hle⟩ := Text.readUnsigned_eq_ok_iff.1 hread
      exact ⟨digits, hsign, by rwa [UInt16.toNat_ofNat_of_lt' (by omega)]⟩
    · cases h
  · rintro h
    have hread : Text.readUnsigned (UInt16.size - 1) written = .ok port.toNat :=
      Text.readUnsigned_eq_ok_iff.2 ⟨h, by omega⟩
    rw [readPort, hread]
    exact congrArg Except.ok UInt16.ofNat_toNat

/-- What spells no port is refused as one. -/
theorem readPort_eq_error {written : List Char} (h : ∀ port, ¬SpellsPort port written) :
    ∃ e, readPort (some written) = .error (.invalidPort e) := by
  cases hread : Text.readUnsigned (UInt16.size - 1) written with
  | ok n =>
    have hport : readPort (some written) = .ok (UInt16.ofNat n) := by rw [readPort, hread]
    exact absurd (readPort_eq_ok_iff.1 hport) (h _)
  | error e => exact ⟨e, by rw [readPort, hread]⟩

/-- The last colon is the one in front of the port. -/
theorem splitPort_port {front digits : List Char} (hdigits : ':' ∉ digits)
    (h : ':' ∉ front ∨ front.getLast? = some ']') :
    splitPort (front ++ ':' :: digits) = (front, some digits) := by
  rw [splitPort, Text.cutLast?_append ':' front hdigits]
  exact if_pos h

/-! ### Reading -/

/-- The selectors that a reader gives. -/
def Canonical : DeviceSelector → Prop
  | .usb _ => True
  | .tcp host _ => Clean host.toList

/-- **The network selectors that are read.** -/
theorem ofChars_eq_tcp_iff {text : List Char} {host : String} {port : UInt16} :
    ofChars text = .ok (.tcp host port) ↔
      ∃ address, text = ['t', 'c', 'p', ':'] ++ address ∧
        readPort (splitPort address).2 = .ok port ∧
        host.toList = stripBrackets (splitPort address).1 ∧ host.toList ≠ [] := by
  constructor
  · intro h
    rcases forms text with rfl | ⟨digits, rfl⟩ | ⟨address, rfl⟩ | hbare
    · cases h
    · rw [ofChars_usb] at h
      split at h <;> cases h
    · refine ⟨address, rfl, ?_⟩
      rw [ofChars_tcp] at h
      cases hport : readPort (splitPort address).2 with
      | error e =>
        rw [hport] at h
        cases h
      | ok port =>
        rw [hport] at h
        simp only [Except.bind] at h
        split at h
        · cases h
        · next hfull =>
          cases h
          rw [String.toList_ofList]
          exact ⟨rfl, rfl, by simpa using hfull⟩
    · rw [hbare] at h
      split at h <;> cases h
  · rintro ⟨address, rfl, hport, hhost, hfull⟩
    rw [ofChars_tcp, hport, ← hhost, String.ofList_toList]
    exact if_neg (mt List.isEmpty_iff.1 hfull)

/-- A network selector, given what the parts of its address are read as. -/
theorem ofText_address {written host : String} {port : UInt16} (address : List Char)
    (hwritten : written.toList = ['t', 'c', 'p', ':'] ++ address)
    (hport : readPort (splitPort address).2 = .ok port)
    (hhost : stripBrackets (splitPort address).1 = host.toList) (hfull : host.toList ≠ []) :
    ofText written = .ok (.tcp host port) :=
  ofChars_eq_tcp_iff.2 ⟨address, hwritten, hport, hhost.symm, hfull⟩

/-- **A host in brackets with a port.** It may have colons and brackets inside. -/
theorem ofText_bracketed_port {host written : String} {port : UInt16} (h : Clean host.toList)
    (hport : SpellsPort port written.toList) :
    ofText ("tcp:[" ++ host ++ "]:" ++ written) = .ok (.tcp host port) := by
  have hlast : ('[' :: (host.toList ++ [']'])).getLast? = some ']' := by
    rw [← List.cons_append, List.getLast?_concat]
  have hsplit := splitPort_port hport.no_colon (.inr hlast)
  refine ofText_address ('[' :: (host.toList ++ [']']) ++ ':' :: written.toList) ?_ ?_ ?_ h.ne_nil
  · simp only [String.toList_append, List.append_assoc, List.cons_append]
    rfl
  · rw [hsplit]
    exact readPort_eq_ok_iff.2 hport
  · rw [hsplit]
    exact h.stripBrackets_bracketed

/-- **A host with a port.** Here it may have no colon. -/
theorem ofText_port {host written : String} {port : UInt16} (h : Clean host.toList)
    (hcolon : ':' ∉ host.toList) (hport : SpellsPort port written.toList) :
    ofText ("tcp:" ++ host ++ ":" ++ written) = .ok (.tcp host port) := by
  have hsplit := splitPort_port hport.no_colon (.inl hcolon)
  refine ofText_address (host.toList ++ ':' :: written.toList) ?_ ?_ ?_ h.ne_nil
  · simp only [String.toList_append, List.append_assoc]
    rfl
  · rw [hsplit]
    exact readPort_eq_ok_iff.2 hport
  · rw [hsplit]
    exact h.stripBrackets

theorem canonical_of_ofChars {text : List Char} {selector : DeviceSelector}
    (h : ofChars text = .ok selector) : selector.Canonical := by
  cases selector with
  | usb serial => trivial
  | tcp host port =>
    obtain ⟨address, -, -, hhost, hfull⟩ := ofChars_eq_tcp_iff.1 h
    rw [hhost] at hfull
    rw [Canonical, hhost]
    exact clean_stripBrackets hfull

/-! ### Writing -/

/-- **A canonical selector is read back from its text.** -/
theorem ofText_text {selector : DeviceSelector} (h : selector.Canonical) :
    ofText selector.text = .ok selector := by
  cases selector with
  | usb serial =>
    cases serial with
    | none => rfl
    | some serial =>
      have htext : (text (.usb (some serial))).toList =
          ['u', 's', 'b', ':'] ++ (Nat.repr serial.toNat).toList := by
        rw [text, String.toList_append]
        rfl
      rw [ofText, htext]
      exact ofChars_usb_eq_ok_iff.2 (Text.denotes_repr serial.toNat).spells
  | tcp host port =>
    rw [text]
    split
    · next hcolon => exact ofText_bracketed_port h (spellsPort_repr port)
    · next hcolon => exact ofText_port h hcolon (spellsPort_repr port)

/-! ### The selector of a device -/

/-- An address is a clean host. -/
theorem clean_text (ip : IPAddress) : Clean ip.text :=
  clean_of_no_bracket ip.shape_text.ne_nil ip.shape_text.no_bracket

theorem canonical_ofDevice (device : Device) : (ofDevice device).Canonical := by
  rw [ofDevice]
  split
  · next address _ =>
    rw [Canonical, String.toList_ofList]
    exact clean_text address.ip
  · trivial

/-- The selector of a network device names it. -/
theorem selects_ofDevice (address : SocketAddress) (serial : Option UInt32) :
    (ofDevice (Device.tcp address serial)).selects (Device.tcp address serial) = true := by
  simp [ofDevice, Device.tcp, selects, IPAddress.ofText?_text]

/-- **Selectors survive being written.** The text of any selector that can be read is read as the same
selector, so that writing it again gives the same text. And every network device, of whatever address,
port, scope and serial number, is named by its selector and by what is read from the text of that,
which is the same selector. -/
theorem text_round_trip :
    (∀ (written : String) (selector : DeviceSelector), ofText written = .ok selector →
        ofText selector.text = .ok selector) ∧
      (∀ written normal : String, (ofText written).map text = .ok normal →
        (ofText normal).map text = .ok normal) ∧
      ∀ (address : SocketAddress) (serial : Option UInt32),
        let device := Device.tcp address serial
        let named := ofDevice device
        named.selects device = true ∧
          ∃ again, ofText named.text = .ok again ∧ again = named ∧ again.selects device = true := by
  have hread (written : String) (selector : DeviceSelector) (h : ofText written = .ok selector) :
      ofText selector.text = .ok selector := ofText_text (canonical_of_ofChars h)
  refine ⟨hread, ?normal, ?device⟩
  case normal =>
    intro written normal h
    cases hw : ofText written with
    | error e =>
      rw [hw] at h
      cases h
    | ok selector =>
      rw [hw] at h
      cases h
      rw [hread written selector hw]
      rfl
  case device =>
    intro address serial device named
    exact ⟨selects_ofDevice address serial, named, ofText_text (canonical_ofDevice device), rfl,
      selects_ofDevice address serial⟩

/-- Brackets, a sign and a leading zero that are too many go with the first reading. -/
theorem text_round_trip_of_brackets :
    let written := "tcp:[[fe80::1]]]:+080"
    let selector := DeviceSelector.tcp "fe80::1" 80
    let normal := "tcp:[fe80::1]:80"
    (ofText written = .ok selector ∧ ofText selector.text = .ok selector) ∧
      (ofText written).map text = .ok normal ∧ (ofText normal).map text = .ok normal := by
  intro written selector normal
  have hread : ofText written = .ok selector := by cbv
  have hnormal : (ofText written).map text = .ok normal := by cbv
  obtain ⟨hselector, hagain, -⟩ := text_round_trip
  exact ⟨⟨hread, hselector _ _ hread⟩, hnormal, hagain _ _ hnormal⟩

end DeviceSelector

end ProbeLink
