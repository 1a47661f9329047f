import Mathlib
import ProbeLink.Proofs.Numerals
import ProbeLink.Selector

/-!
# ProbeLink.Proofs.SerialText

**Which texts name a device on USB** (`serial_exact`).

A serial number is written in decimal digits with white space around them (`Spells`). Trimming takes
just this white space off, because a digit is no white space. So what is left are the digits
(`spells_iff`), and the reader takes all numbers that fit into a word (`readSerial?_eq_some_iff`).

The texts that are no serial number are described on their own, by what is wrong with them
(`NoSerial`). Then `noSerial_iff` says that there is nothing else that could be wrong.
-/

namespace ProbeLink

namespace Text

/-! ### White space -/

variable {front core back text : List Char}

theorem isBlank_of_isDigit {c : Char} (h : c.isDigit = true) : isBlank c = false := by
  have hrange : 48 ≤ c.toNat ∧ c.toNat ≤ 57 := Char.isDigit_iff_toNat.1 h
  have hoff : ∀ range ∈ blankRanges, range.2 < 48 ∨ 57 < range.1 := by decide
  rw [isBlank, List.any_eq_false]
  intro range hmem
  simp only [Bool.and_eq_true, decide_eq_true_eq]
  have hout := hoff range hmem
  omega

/-- Nothing but white space. -/
def Blank (text : List Char) : Prop := ∀ c ∈ text, isBlank c = true

-- The instance that is found for the statement itself tries all characters there are.
instance : Decidable (Blank text) := List.decidableBAll _ text

theorem trim_eq (text : List Char) :
    trim text = (text.dropWhile isBlank).rdropWhile isBlank := rfl

/-- What is taken off a text is white space. -/
theorem exists_trim (text : List Char) :
    ∃ front back, text = front ++ (trim text ++ back) ∧ Blank front ∧ Blank back := by
  refine ⟨text.takeWhile isBlank, (text.dropWhile isBlank).rtakeWhile isBlank, ?_,
    fun c hc => List.mem_takeWhile_imp hc, fun c hc => List.mem_rtakeWhile_imp hc⟩
  rw [trim_eq, List.rdropWhile_append_rtakeWhile, List.takeWhile_append_dropWhile]

theorem mem_of_mem_trim {c : Char} (h : c ∈ trim text) : c ∈ text := by
  obtain ⟨front, back, htext, -, -⟩ := exists_trim text
  rw [htext]
  simp [h]

/-- White space is trimmed to nothing, and nothing else is. -/
theorem trim_eq_nil_iff : trim text = [] ↔ Blank text := by
  constructor
  · intro hnil
    obtain ⟨front, back, htext, hfront, hback⟩ := exists_trim text
    rw [htext, hnil]
    exact List.forall_mem_append.2 ⟨hfront, hback⟩
  · intro hblank
    rw [trim_eq, List.dropWhile_eq_nil_iff.2 hblank, List.rdropWhile_nil]

/-- White space that is put around a text comes off, and no more if the text has none itself. -/
theorem trim_append (hfront : Blank front) (hback : Blank back) (hne : core ≠ [])
    (hcore : ∀ c ∈ core, isBlank c = false) : trim (front ++ (core ++ back)) = core := by
  obtain ⟨c, rest, rfl⟩ := List.exists_cons_of_ne_nil hne
  have hhead : isBlank c = false := hcore c List.mem_cons_self
  have hopening : (front ++ (c :: rest ++ back)).dropWhile isBlank = c :: rest ++ back := by
    rw [List.dropWhile_append_of_pos hfront]
    exact List.dropWhile_cons_of_neg (by simp [hhead])
  have hclosing : (c :: rest).rdropWhile isBlank = c :: rest := by
    rw [List.rdropWhile_eq_self_iff]
    intro hlast
    simp [hcore _ (List.getLast_mem hlast)]
  rw [trim_eq, hopening, List.rdropWhile, List.reverse_append,
    List.dropWhile_append_of_pos (by simpa [Blank] using hback)]
  exact hclosing

/-- A trimmed text does not begin in white space. -/
theorem isBlank_head_trim {c : Char} {rest : List Char} (h : trim text = c :: rest) :
    isBlank c = false := by
  -- White space is taken off the end last, so the head is that of the part before.
  have hfront : trim text <+: text.dropWhile isBlank := List.rdropWhile_prefix isBlank _
  obtain ⟨more, hmore⟩ := h ▸ hfront
  have hhead : text.dropWhile isBlank = c :: (rest ++ more) := hmore.symm
  have hnot := List.head_dropWhile_not isBlank (by rw [hhead]; exact List.cons_ne_nil _ _)
  simpa [hhead] using hnot

/-- A trimmed text does not end in white space. -/
theorem isBlank_getLast_trim {c : Char} {rest : List Char} (h : trim text = rest ++ [c]) :
    isBlank c = false := by
  have hlast : (text.dropWhile isBlank).rdropWhile isBlank = rest ++ [c] := h
  have hnot := List.rdropWhile_last_not isBlank (text.dropWhile isBlank) (by simp [hlast])
  simpa [hlast] using hnot

/-- **White space stays in a text exactly if it is between other characters.** -/
theorem mem_trim_iff {c : Char} (hc : isBlank c = true) :
    c ∈ trim text ↔ ∃ before after, text = before ++ c :: after ∧ ¬Blank before ∧ ¬Blank after := by
  constructor
  · intro hmem
    obtain ⟨before, after, hsplit⟩ := List.append_of_mem hmem
    obtain ⟨front, back, htext, -, -⟩ := exists_trim text
    refine ⟨front ++ before, after ++ back, by rw [htext, hsplit]; simp, ?front, ?back⟩
    case front =>
      intro hblank
      cases before with
      | nil => rw [isBlank_head_trim hsplit] at hc; cases hc
      | cons d rest =>
        have hd := hblank d (by simp)
        rw [isBlank_head_trim hsplit] at hd
        cases hd
    case back =>
      intro hblank
      rcases List.eq_nil_or_concat after with rfl | ⟨rest, d, rfl⟩
      · rw [isBlank_getLast_trim hsplit] at hc; cases hc
      · have hd := hblank d (by simp)
        have hlast : trim text = (before ++ c :: rest) ++ [d] := by
          rw [hsplit]
          simp
        rw [isBlank_getLast_trim hlast] at hd
        cases hd
  · rintro ⟨before, after, rfl, hbefore, hafter⟩
    have hopening : (before ++ c :: after).dropWhile isBlank =
        before.dropWhile isBlank ++ c :: after := by
      rw [List.dropWhile_append, if_neg (by simpa [Blank] using hbefore)]
    have hclosing (front : List Char) : c ∈ (front ++ c :: after).rdropWhile isBlank := by
      rw [List.rdropWhile, List.reverse_append, List.reverse_cons, List.append_assoc,
        List.dropWhile_append, if_neg (by simpa [Blank] using hafter)]
      simp
    rw [trim_eq, hopening]
    exact hclosing _

/-! ### Numbers among white space -/

/-- The number in decimal digits, zeros in front and white space around them as one likes. -/
def Spells (value : Nat) (text : List Char) : Prop :=
  ∃ front digits back, text = front ++ (digits ++ back) ∧ Blank front ∧ Denotes value digits ∧
    Blank back

theorem Denotes.spells {value : Nat} {digits : List Char} (h : Denotes value digits) :
    Spells value digits :=
  ⟨[], digits, [], by simp, nofun, h, nofun⟩

/-- A number is spelled as it is written, with any zeros in front and any white space around it. -/
theorem spells_iff_padded {value : Nat} :
    Spells value text ↔ ∃ front zeros back,
      text = front ++ (List.replicate zeros '0' ++ (Nat.repr value).toList ++ back) ∧
        Blank front ∧ Blank back := by
  constructor
  · rintro ⟨front, digits, back, rfl, hfront, hdigits, hback⟩
    obtain ⟨zeros, rfl⟩ := denotes_iff.1 hdigits
    exact ⟨front, zeros, back, rfl, hfront, hback⟩
  · rintro ⟨front, zeros, back, rfl, hfront, hback⟩
    exact ⟨front, _, back, rfl, hfront, denotes_replicate_append zeros value, hback⟩

/-- **Trimming leaves the digits of a number**, and only if there were such. -/
theorem spells_iff {value : Nat} : Spells value text ↔ Denotes value (trim text) := by
  constructor
  · rintro ⟨front, digits, back, rfl, hfront, hdigits, hback⟩
    have hsolid : ∀ c ∈ digits, isBlank c = false :=
      fun c hc => isBlank_of_isDigit (hdigits.isDigit c hc)
    rwa [trim_append hfront hback hdigits.ne_nil hsolid]
  · intro h
    obtain ⟨front, back, htext, hfront, hback⟩ := exists_trim text
    exact ⟨front, trim text, back, htext, hfront, h, hback⟩

/-- A text spells one number at most. -/
theorem Spells.unique {n m : Nat} (hn : Spells n text) (hm : Spells m text) : n = m :=
  (spells_iff.1 hn).value.symm.trans (spells_iff.1 hm).value

/-- There is nothing but digits and white space around a number. -/
theorem Spells.isDigit {value : Nat} {c : Char} (h : Spells value text) (hmem : c ∈ text)
    (hblank : isBlank c = false) : c.isDigit = true := by
  obtain ⟨front, digits, back, rfl, hfront, hdigits, hback⟩ := h
  rcases List.mem_append.1 hmem with hmem | hmem
  · exact absurd (hfront c hmem) (by simp [hblank])
  rcases List.mem_append.1 hmem with hmem | hmem
  · exact hdigits.isDigit c hmem
  · exact absurd (hback c hmem) (by simp [hblank])

end Text

/-! ### Serial numbers -/

/-- What can be wrong with the text of a serial number. -/
inductive NoSerial (text : List Char) : Prop
  /-- There is nothing but white space. -/
  | blank (h : Text.Blank text)
  /-- There is a character that is neither white space nor a digit, such as a sign. -/
  | stray (c : Char) (hmem : c ∈ text) (hblank : Text.isBlank c = false)
      (hdigit : c.isDigit = false)
  /-- There is white space between other characters. -/
  | inner (front : List Char) (c : Char) (back : List Char) (htext : text = front ++ c :: back)
      (hblank : Text.isBlank c = true) (hfront : ¬Text.Blank front) (hback : ¬Text.Blank back)
  /-- The number does not fit into a word. -/
  | large (value : Nat) (hvalue : Text.Spells value text) (hlarge : UInt32.size ≤ value)

/-- **The serial numbers that are read** are those that are spelled. -/
theorem readSerial?_eq_some_iff {text : List Char} {serial : UInt32} :
    readSerial? text = some serial ↔ Text.Spells serial.toNat text := by
  have hlt : serial.toNat < UInt32.size := serial.toNat_lt
  rw [readSerial?, Option.map_eq_some_iff, Text.spells_iff]
  constructor
  · rintro ⟨n, hread, rfl⟩
    obtain ⟨hdenotes, hle⟩ := Text.readPlain?_eq_some_iff.1 hread
    rwa [UInt32.toNat_ofNat_of_lt' (by omega)]
  · intro h
    exact ⟨serial.toNat, Text.readPlain?_eq_some_iff.2 ⟨h, by omega⟩, UInt32.ofNat_toNat⟩

theorem NoSerial.readSerial?_eq_none {text : List Char} (h : NoSerial text) :
    readSerial? text = none := by
  rw [Option.eq_none_iff_forall_ne_some]
  intro serial hserial
  have hspells := readSerial?_eq_some_iff.1 hserial
  have hdenotes := Text.spells_iff.1 hspells
  cases h with
  | blank h =>
    obtain ⟨c, hc⟩ := List.exists_mem_of_ne_nil _ hdenotes.ne_nil
    have hmem : c ∈ text := Text.mem_of_mem_trim hc
    have hnot := Text.isBlank_of_isDigit (hdenotes.isDigit c hc)
    rw [h c hmem] at hnot
    cases hnot
  | stray c hmem hblank hdigit =>
    rw [hspells.isDigit hmem hblank] at hdigit
    cases hdigit
  | inner front c back htext hblank hfront hback =>
    have hc : c ∈ Text.trim text := (Text.mem_trim_iff hblank).2 ⟨front, back, htext, hfront, hback⟩
    rw [Text.isBlank_of_isDigit (hdenotes.isDigit c hc)] at hblank
    cases hblank
  | large value hvalue hlarge =>
    have hlt : serial.toNat < UInt32.size := serial.toNat_lt
    have hsame := hvalue.unique hspells
    omega

/-- **A text is read as a serial number unless something is wrong with it.** -/
theorem noSerial_iff {text : List Char} : NoSerial text ↔ readSerial? text = none := by
  refine ⟨NoSerial.readSerial?_eq_none, fun hnone => ?_⟩
  by_cases hdigits : ∀ c ∈ Text.trim text, c.isDigit = true
  case neg =>
    obtain ⟨c, hc, hdigit⟩ : ∃ c ∈ Text.trim text, c.isDigit = false := by simpa using hdigits
    cases hblank : Text.isBlank c with
    | false => exact .stray c (Text.mem_of_mem_trim hc) hblank hdigit
    | true =>
      obtain ⟨front, back, htext, hfront, hback⟩ := (Text.mem_trim_iff hblank).1 hc
      exact .inner front c back htext hblank hfront hback
  case pos =>
    by_cases hempty : Text.trim text = []
    · exact .blank (Text.trim_eq_nil_iff.1 hempty)
    · have hspells : Text.Spells (Nat.ofDigitChars 10 (Text.trim text) 0) text :=
        Text.spells_iff.2 ⟨hempty, hdigits, rfl⟩
      refine .large _ hspells (Nat.le_of_not_lt fun hlt => ?_)
      have hread : readSerial? text = some (UInt32.ofNat _) :=
        readSerial?_eq_some_iff.2 (by rwa [UInt32.toNat_ofNat_of_lt' hlt])
      rw [hnone] at hread
      cases hread

namespace DeviceSelector

/-! ### The forms of a selector -/

variable {text : List Char}

/-- A network selector, given the parts of its address. -/
theorem ofChars_tcp (address : List Char) :
    ofChars (['t', 'c', 'p', ':'] ++ address) =
      (readPort (splitPort address).2).bind fun port =>
        if (stripBrackets (splitPort address).1).isEmpty then
          .error (.missingHost (String.ofList (['t', 'c', 'p', ':'] ++ address)))
        else .ok (.tcp (String.ofList (stripBrackets (splitPort address).1)) port) := by
  have hname : ['t', 'c', 'p', ':'] ++ address ≠ ['u', 's', 'b'] := by simp
  have hbus : Text.afterPrefix? ['u', 's', 'b', ':'] (['t', 'c', 'p', ':'] ++ address) = none := by
    simp [Text.afterPrefix?]
  have hnet : Text.afterPrefix? ['t', 'c', 'p', ':'] (['t', 'c', 'p', ':'] ++ address) =
      some address := Text.afterPrefix?_eq_some_iff.2 rfl
  rw [ofChars, if_neg hname, hbus]
  dsimp only
  rw [hnet]
  rfl

/-- A network selector is none of a device on USB. -/
theorem ofChars_tcp_ne_usb (address : List Char) (serial : Option UInt32) :
    ofChars (['t', 'c', 'p', ':'] ++ address) ≠ .ok (.usb serial) := by
  rw [ofChars_tcp]
  cases readPort (splitPort address).2 with
  | error e => exact nofun
  | ok port =>
    simp only [Except.bind]
    split <;> exact nofun

theorem ofChars_usb (digits : List Char) :
    ofChars (['u', 's', 'b', ':'] ++ digits) =
      match readSerial? digits with
      | some serial => .ok (.usb (some serial))
      | none => .error (.invalidSerial (String.ofList digits)) := by
  have hname : ['u', 's', 'b', ':'] ++ digits ≠ ['u', 's', 'b'] := by simp
  have hbus : Text.afterPrefix? ['u', 's', 'b', ':'] (['u', 's', 'b', ':'] ++ digits) =
      some digits := Text.afterPrefix?_eq_some_iff.2 rfl
  cases hserial : readSerial? digits with
  | none => simp only [ofChars, if_neg hname, hbus, hserial]
  | some serial => simp only [ofChars, if_neg hname, hbus, hserial]

/-- A text that is none of the other forms is a serial number. -/
theorem ofChars_bare (hname : text ≠ ['u', 's', 'b'])
    (hbus : ∀ digits, text ≠ ['u', 's', 'b', ':'] ++ digits)
    (hnet : ∀ address, text ≠ ['t', 'c', 'p', ':'] ++ address) :
    ofChars text =
      match readSerial? text with
      | some serial => .ok (.usb (some serial))
      | none => .error (.invalidSelector (String.ofList text)) := by
  have hbus' : Text.afterPrefix? ['u', 's', 'b', ':'] text = none :=
    Option.eq_none_iff_forall_ne_some.2 fun digits h =>
      hbus digits (Text.afterPrefix?_eq_some_iff.1 h)
  have hnet' : Text.afterPrefix? ['t', 'c', 'p', ':'] text = none :=
    Option.eq_none_iff_forall_ne_some.2 fun address h =>
      hnet address (Text.afterPrefix?_eq_some_iff.1 h)
  cases hserial : readSerial? text with
  | none => simp only [ofChars, if_neg hname, hbus', hnet', hserial]
  | some serial => simp only [ofChars, if_neg hname, hbus', hnet', hserial]

/-- **The four forms of a selector.** -/
theorem forms (text : List Char) :
    text = ['u', 's', 'b'] ∨ (∃ digits, text = ['u', 's', 'b', ':'] ++ digits) ∨
      (∃ address, text = ['t', 'c', 'p', ':'] ++ address) ∨
      ofChars text =
        match readSerial? text with
        | some serial => .ok (.usb (some serial))
        | none => .error (.invalidSelector (String.ofList text)) := by
  by_cases hname : text = ['u', 's', 'b']
  · exact .inl hname
  by_cases hbus : ∃ digits, text = ['u', 's', 'b', ':'] ++ digits
  · exact .inr (.inl hbus)
  by_cases hnet : ∃ address, text = ['t', 'c', 'p', ':'] ++ address
  · exact .inr (.inr (.inl hnet))
  · exact .inr (.inr (.inr (ofChars_bare hname (not_exists.1 hbus) (not_exists.1 hnet))))

/-- A number alone is none of the other forms, as these have letters. -/
theorem ofChars_of_spells {serial : UInt32} (h : Text.Spells serial.toNat text) :
    ofChars text = .ok (.usb (some serial)) := by
  have hno (c : Char) (hblank : Text.isBlank c = false) (hdigit : c.isDigit = false) :
      c ∉ text := by
    intro hmem
    rw [h.isDigit hmem hblank] at hdigit
    cases hdigit
  have hu : 'u' ∉ text := hno 'u' rfl rfl
  have ht : 't' ∉ text := hno 't' rfl rfl
  rw [ofChars_bare (fun heq => hu (by simp [heq])) (fun _ heq => hu (by simp [heq]))
    (fun _ heq => ht (by simp [heq])), readSerial?_eq_some_iff.2 h]

theorem ofChars_usb_eq_ok_iff {serial : UInt32} {digits : List Char} :
    ofChars (['u', 's', 'b', ':'] ++ digits) = .ok (.usb (some serial)) ↔
      Text.Spells serial.toNat digits := by
  rw [ofChars_usb, ← readSerial?_eq_some_iff]
  cases readSerial? digits <;> simp

theorem ofChars_usb_eq_error_iff {digits : List Char} :
    ofChars (['u', 's', 'b', ':'] ++ digits) = .error (.invalidSerial (String.ofList digits)) ↔
      NoSerial digits := by
  rw [ofChars_usb, noSerial_iff]
  cases readSerial? digits <;> simp

/-- **The serial numbers in selectors** stand on their own or after the bus. -/
theorem ofChars_eq_usb_some_iff {serial : UInt32} :
    ofChars text = .ok (.usb (some serial)) ↔
      Text.Spells serial.toNat text ∨
        ∃ digits, text = ['u', 's', 'b', ':'] ++ digits ∧ Text.Spells serial.toNat digits := by
  constructor
  · intro h
    rcases forms text with rfl | ⟨digits, rfl⟩ | ⟨address, rfl⟩ | hbare
    · cases h
    · exact .inr ⟨digits, rfl, ofChars_usb_eq_ok_iff.1 h⟩
    · exact absurd h (ofChars_tcp_ne_usb address (some serial))
    · rw [hbare] at h
      split at h
      · next hserial =>
        cases h
        exact .inl (readSerial?_eq_some_iff.1 hserial)
      · cases h
  · rintro (h | ⟨digits, rfl, h⟩)
    · exact ofChars_of_spells h
    · exact ofChars_usb_eq_ok_iff.2 h

theorem ofChars_eq_usb_none_iff : ofChars text = .ok (.usb none) ↔ text = ['u', 's', 'b'] := by
  constructor
  · intro h
    rcases forms text with hname | ⟨digits, rfl⟩ | ⟨address, rfl⟩ | hbare
    · exact hname
    · rw [ofChars_usb] at h
      split at h <;> cases h
    · exact absurd h (ofChars_tcp_ne_usb address none)
    · rw [hbare] at h
      split at h <;> cases h
  · rintro rfl
    rfl

/-- What follows the beginning of a string, as characters or as a string. -/
theorem exists_append_iff (front written : String) (P : List Char → Prop) :
    (∃ rest, written.toList = front.toList ++ rest ∧ P rest) ↔
      ∃ rest : String, written = front ++ rest ∧ P rest.toList := by
  constructor
  · rintro ⟨rest, htext, h⟩
    refine ⟨String.ofList rest, ?_, by rwa [String.toList_ofList]⟩
    rw [← String.toList_inj, String.toList_append, String.toList_ofList, htext]
  · rintro ⟨rest, rfl, h⟩
    exact ⟨rest.toList, String.toList_append, h⟩

/-- **Serial numbers are accepted exactly.** A text names the device on USB with a serial number if
and only if the number is spelled by it, or by what follows `usb:` in it, and the only device on USB
if and only if it is `usb`. So any zeros in front of a number and any white space around it make no
difference. After `usb:` all that is not the text of a serial number, and that only, is refused:
what has no digits, has a sign or another character that is no ASCII digit, has white space between
the digits, or is too large for a word. Without `usb:` it is refused too, unless it is a selector of
another form. -/
theorem serial_exact :
    (∀ (written : String) (serial : UInt32), ofText written = .ok (.usb (some serial)) ↔
        Text.Spells serial.toNat written.toList ∨
          ∃ digits : String, written = "usb:" ++ digits ∧ Text.Spells serial.toNat digits.toList) ∧
      (∀ written : String, ofText written = .ok (.usb none) ↔ written = "usb") ∧
      (∀ (serial : UInt32) (zeros : Nat) (front back : String),
        Text.Blank front.toList → Text.Blank back.toList →
          let written := front ++
            (String.ofList (List.replicate zeros '0') ++ Nat.repr serial.toNat ++ back)
          ofText written = .ok (.usb (some serial)) ∧
            ofText ("usb:" ++ written) = .ok (.usb (some serial))) ∧
      (∀ written : String, NoSerial written.toList ↔
        ofText ("usb:" ++ written) = .error (.invalidSerial written)) ∧
      ∀ written : String, NoSerial written.toList →
        written = "usb" ∨ (∃ digits, written = "usb:" ++ digits) ∨
          (∃ address, written = "tcp:" ++ address) ∨
          ofText written = .error (.invalidSelector written) := by
  have hname : "usb".toList = ['u', 's', 'b'] := rfl
  have hbus : "usb:".toList = ['u', 's', 'b', ':'] := rfl
  have hnet : "tcp:".toList = ['t', 'c', 'p', ':'] := rfl
  refine ⟨?exact, ?only, ?padded, ?refused, ?bare⟩
  case exact =>
    intro written serial
    rw [ofText, ofChars_eq_usb_some_iff, ← hbus, exists_append_iff]
  case only =>
    intro written
    rw [ofText, ofChars_eq_usb_none_iff, ← hname, String.toList_inj]
  case padded =>
    intro serial zeros front back hfront hback written
    have hspells : Text.Spells serial.toNat written.toList := by
      refine Text.spells_iff_padded.2 ⟨front.toList, zeros, back.toList, ?_, hfront, hback⟩
      simp only [written, String.toList_append, String.toList_ofList]
    refine ⟨ofChars_of_spells hspells, ?_⟩
    rw [ofText, String.toList_append, hbus]
    exact ofChars_usb_eq_ok_iff.2 hspells
  case refused =>
    intro written
    rw [ofText, String.toList_append, hbus, ← ofChars_usb_eq_error_iff, String.ofList_toList]
  case bare =>
    intro written h
    have hbegins {front : String} (hfront : ∃ rest, written.toList = front.toList ++ rest) :
        ∃ rest, written = front ++ rest := by
      simpa using (exists_append_iff front written fun _ => True).1 (by simpa using hfront)
    rcases forms written.toList with heq | h' | h' | hbare
    · exact .inl (String.toList_inj.1 heq)
    · exact .inr (.inl (hbegins h'))
    · exact .inr (.inr (.inl (hbegins h')))
    · rw [noSerial_iff.1 h, String.ofList_toList] at hbare
      exact .inr (.inr (.inr hbare))

/-- A tab, an ideographic space and zeros, then a sign, a space, a foreign digit and the first
number that is too large. -/
theorem serial_exact_of_probe :
    (ofText "\t00050123\u3000" = .ok (.usb (some 50123)) ∧
        ofText "usb:\t00050123\u3000" = .ok (.usb (some 50123))) ∧
      ofText "usb:+5" = .error (.invalidSerial "+5") ∧
      ofText "usb:1 2" = .error (.invalidSerial "1 2") ∧
      ofText "usb:\u0663" = .error (.invalidSerial "\u0663") ∧
      ofText "usb:4294967296" = .error (.invalidSerial "4294967296") := by
  obtain ⟨-, -, hpadded, hrefused, -⟩ := serial_exact
  have hsign : NoSerial "+5".toList := .stray '+' (by simp) rfl rfl
  have hspace : NoSerial "1 2".toList := .inner ['1'] ' ' ['2'] rfl rfl (by decide) (by decide)
  have hforeign : NoSerial "\u0663".toList := .stray '\u0663' (by simp) (by decide) rfl
  have hlarge : NoSerial "4294967296".toList :=
    .large 4294967296 (Text.denotes_repr 4294967296).spells (by decide)
  exact ⟨hpadded 50123 3 "\t" "\u3000" (by decide) (by decide), (hrefused _).1 hsign,
    (hrefused _).1 hspace, (hrefused _).1 hforeign, (hrefused _).1 hlarge⟩

end DeviceSelector

end ProbeLink
