import ProbeLink.Net.Reader

/-!
# ProbeLink.Proofs.Numerals

**What is read as a number, and that numbers survive being written.**

The decimal readers take the digits of a number (`Denotes`) that is within their limit, and nothing
else (`readPlain?_eq_some_iff`, `readUnsigned_eq_ok_iff`). A number is looked at after each digit,
not only at the end. This makes no difference, since the digits to come do not make it smaller
(`le_ofDigitChars`). A number is written in digits of its own, and all others that it has begin with
zeros (`denotes_iff`).

In hexadecimal there is only the way back (`group?_hex`). The reader takes the digits from the left,
while a number is written from its last digit on. So the induction is on the number without its last
digit, and the reader is cut in two there (`hexValue?_append`).
-/

namespace ProbeLink

namespace Text

/-! ### Decimal digits -/

/-- A decimal digit is the digit of a number below ten. -/
theorem isDigit_of_decimalDigit? {c : Char} {d : Nat} (h : decimalDigit? c = some d) :
    c.isDigit = true := by
  rw [decimalDigit?] at h
  split at h
  · next hc =>
    simp only [Char.isDigit, Bool.and_eq_true, decide_eq_true_eq]
    exact hc
  · cases h

theorem decimalDigit?_of_isDigit {c : Char} (h : c.isDigit = true) :
    decimalDigit? c = some (c.toNat - '0'.toNat) := by
  have hrange : '0' ≤ c ∧ c ≤ '9' := by
    simp only [Char.isDigit, Bool.and_eq_true, decide_eq_true_eq] at h
    exact h
  exact if_pos hrange

/-- What was read as a number is made of digits. -/
theorem isDigit_of_readDigits {limit n m : Nat} {digits : List Char}
    (h : readDigits limit n digits = .ok m) : ∀ c ∈ digits, c.isDigit = true := by
  induction digits generalizing n with
  | nil => simp
  | cons c rest ih =>
    rw [readDigits] at h
    cases hd : decimalDigit? c with
    | none =>
      rw [hd] at h
      cases h
    | some d =>
      rw [hd] at h
      dsimp only at h
      split at h
      · intro c' hmem
        rcases List.mem_cons.1 hmem with rfl | hmem
        · exact isDigit_of_decimalDigit? hd
        · exact ih h c' hmem
      · cases h

/-- More digits do not make a number smaller. -/
theorem le_ofDigitChars (n : Nat) (digits : List Char) : n ≤ Nat.ofDigitChars 10 digits n := by
  induction digits generalizing n with
  | nil => exact Nat.le_refl n
  | cons c rest ih =>
    rw [Nat.ofDigitChars_cons]
    have hrest := ih (10 * n + (c.toNat - '0'.toNat))
    omega

/-- **Digits are read as what they stand for**, if that is within the limit. -/
theorem readDigits_eq_ok_iff {limit n m : Nat} {digits : List Char} (hn : n ≤ limit) :
    readDigits limit n digits = .ok m ↔
      (∀ c ∈ digits, c.isDigit = true) ∧ Nat.ofDigitChars 10 digits n = m ∧ m ≤ limit := by
  constructor
  · intro h
    refine ⟨isDigit_of_readDigits h, ?_, readDigits_le hn h⟩
    induction digits generalizing n with
    | nil => exact Except.ok.inj h
    | cons c rest ih =>
      have hdigit := isDigit_of_readDigits h c List.mem_cons_self
      rw [readDigits, decimalDigit?_of_isDigit hdigit] at h
      dsimp only at h
      split at h
      · next hle =>
        rw [Nat.ofDigitChars_cons, Nat.mul_comm]
        exact ih hle h
      · cases h
  · rintro ⟨hdigits, rfl, hle⟩
    induction digits generalizing n with
    | nil => rfl
    | cons c rest ih =>
      obtain ⟨hdigit, hrest⟩ := List.forall_mem_cons.1 hdigits
      rw [Nat.ofDigitChars_cons, Nat.mul_comm] at hle ⊢
      have hsofar : n * 10 + (c.toNat - '0'.toNat) ≤ limit :=
        Nat.le_trans (le_ofDigitChars _ rest) hle
      rw [readDigits, decimalDigit?_of_isDigit hdigit]
      dsimp only
      rw [if_pos hsofar]
      exact ih hsofar hrest hle

/-! ### The digits of a number -/

/-- Digits of this value, at least one. There may be zeros in front. -/
structure Denotes (value : Nat) (digits : List Char) : Prop where
  ne_nil : digits ≠ []
  isDigit : ∀ c ∈ digits, c.isDigit = true
  value : Nat.ofDigitChars 10 digits 0 = value

theorem isDigit_of_mem_repr {n : Nat} {c : Char} (h : c ∈ (Nat.repr n).toList) :
    c.isDigit = true := by
  rw [Nat.toList_repr] at h
  exact Nat.isDigit_of_mem_toDigits (by decide) (by decide) h

/-- No character that is not a digit occurs in a number. -/
theorem not_mem_repr {c : Char} (h : c.isDigit = false) (n : Nat) : c ∉ (Nat.repr n).toList := by
  intro hmem
  rw [isDigit_of_mem_repr hmem] at h
  cases h

/-- Zeros in front of a number make no difference. -/
theorem denotes_replicate_append (zeros n : Nat) :
    Denotes n (List.replicate zeros '0' ++ (Nat.repr n).toList) where
  ne_nil := by simp [Nat.toList_repr, Nat.toDigits_ne_nil]
  isDigit c hc := by
    rcases List.mem_append.1 hc with hc | hc
    · rw [List.eq_of_mem_replicate hc]
      rfl
    · exact isDigit_of_mem_repr hc
  value := by
    have hzeros : Nat.ofDigitChars 10 (List.replicate zeros '0') 0 = 0 := by
      induction zeros with
      | zero => rfl
      | succ k ih => exact ih
    rw [Nat.ofDigitChars_append, hzeros, Nat.toList_repr]
    exact Nat.ofDigitChars_toDigits (by decide) (by decide)

theorem denotes_repr (n : Nat) : Denotes n (Nat.repr n).toList := denotes_replicate_append 0 n

/-- A digit is that of its value, which is below ten. -/
theorem digitChar_of_isDigit {c : Char} (h : c.isDigit = true) :
    c.toNat - '0'.toNat < 10 ∧ Nat.digitChar (c.toNat - '0'.toNat) = c := by
  have hrange := Char.isDigit_iff_toNat.1 h
  have hzero : '0'.toNat = 48 := rfl
  have hnine : '9'.toNat = 57 := rfl
  refine ⟨by omega, Char.toNat_inj.1 ?_⟩
  rw [Nat.toNat_digitChar_of_lt_ten (by omega)]
  omega

/-- Digits after a number that is not zero are the last ones of what they make of it. -/
theorem toDigits_ofDigitChars {n : Nat} {digits : List Char} (hn : 0 < n)
    (h : ∀ c ∈ digits, c.isDigit = true) :
    Nat.toDigits 10 (Nat.ofDigitChars 10 digits n) = Nat.toDigits 10 n ++ digits := by
  induction digits generalizing n with
  | nil => rw [Nat.ofDigitChars_nil, List.append_nil]
  | cons c rest ih =>
    obtain ⟨hdigit, hrest⟩ := List.forall_mem_cons.1 h
    obtain ⟨hlt, hchar⟩ := digitChar_of_isDigit hdigit
    rw [Nat.ofDigitChars_cons, ih (by omega) hrest,
      ← Nat.toDigits_append_toDigits (by decide) hn hlt, Nat.toDigits_of_lt_base hlt, hchar,
      List.append_assoc, List.singleton_append]

/-- **The digits of a number are those that it is written in, with any zeros in front.** -/
theorem denotes_iff {n : Nat} {digits : List Char} :
    Denotes n digits ↔ ∃ zeros, digits = List.replicate zeros '0' ++ (Nat.repr n).toList := by
  constructor
  · rintro ⟨hne, hdigits, rfl⟩
    rw [Nat.toList_repr]
    induction digits with
    | nil => exact absurd rfl hne
    | cons c rest ih =>
      obtain ⟨hdigit, hrest⟩ := List.forall_mem_cons.1 hdigits
      rw [Nat.ofDigitChars_cons, Nat.mul_zero, Nat.zero_add]
      by_cases hc : c = '0'
      case pos =>
        subst hc
        cases rest with
        | nil => exact ⟨0, rfl⟩
        | cons d more =>
          -- There are more digits, so this zero is one of those in front.
          obtain ⟨zeros, hzeros⟩ := ih (List.cons_ne_nil d more) hrest
          exact ⟨zeros + 1, congrArg (List.cons '0') hzeros⟩
      case neg =>
        obtain ⟨hlt, hchar⟩ := digitChar_of_isDigit hdigit
        have hpos : 0 < c.toNat - '0'.toNat := by
          refine Nat.pos_of_ne_zero fun hzero => hc ?_
          rw [← hchar, hzero]
          rfl
        refine ⟨0, ?_⟩
        rw [toDigits_ofDigitChars hpos hrest, Nat.toDigits_of_lt_base hlt, hchar]
        rfl
  · rintro ⟨zeros, rfl⟩
    exact denotes_replicate_append zeros n

/-! ### The numbers that are read -/

/-- The digits of a number are read as that number. -/
theorem readDigits_eq_ok_iff_denotes {limit n : Nat} {digits : List Char} (hne : digits ≠ []) :
    readDigits limit 0 digits = .ok n ↔ Denotes n digits ∧ n ≤ limit := by
  rw [readDigits_eq_ok_iff (Nat.zero_le limit)]
  exact ⟨fun ⟨hdigits, hvalue, hle⟩ => ⟨⟨hne, hdigits, hvalue⟩, hle⟩,
    fun ⟨hdenotes, hle⟩ => ⟨hdenotes.isDigit, hdenotes.value, hle⟩⟩

/-- **Without a sign, just the digits of a number are read**, if it is within the limit. -/
theorem readPlain?_eq_some_iff {limit n : Nat} {text : List Char} :
    readPlain? limit text = some n ↔ Denotes n text ∧ n ≤ limit := by
  rw [readPlain?]
  split
  · next hempty =>
    refine iff_of_false nofun ?_
    rintro ⟨hdenotes, -⟩
    exact hdenotes.ne_nil (List.isEmpty_iff.1 hempty)
  · next hfull =>
    rw [← readDigits_eq_ok_iff_denotes (mt List.isEmpty_iff.2 hfull)]
    cases readDigits limit 0 text <;> simp [Except.toOption]

theorem readPlain?_repr {limit n : Nat} (h : n ≤ limit) :
    readPlain? limit (Nat.repr n).toList = some n :=
  readPlain?_eq_some_iff.2 ⟨denotes_repr n, h⟩

/-- A sign is optional: without one, all of the text is digits. -/
theorem readUnsigned_of_no_sign {digits : List Char} (limit : Nat) (hne : digits ≠ [])
    (h : '+' ∉ digits) : readUnsigned limit digits = readDigits limit 0 digits := by
  unfold readUnsigned
  split
  · exact absurd rfl hne
  · exact absurd (List.mem_singleton_self '+') h
  · exact absurd List.mem_cons_self h
  · rfl

/-- What follows a sign is read as if it stood alone. -/
theorem readUnsigned_plus {digits : List Char} (limit : Nat) (hne : digits ≠ []) :
    readUnsigned limit ('+' :: digits) = readDigits limit 0 digits := by
  obtain ⟨c, rest, rfl⟩ := List.exists_cons_of_ne_nil hne
  rfl

/-- **With a sign allowed, the digits of a number are read after at most one plus.** -/
theorem readUnsigned_eq_ok_iff {limit n : Nat} {text : List Char} :
    readUnsigned limit text = .ok n ↔
      (∃ digits, (text = digits ∨ text = '+' :: digits) ∧ Denotes n digits) ∧ n ≤ limit := by
  constructor
  · intro h
    unfold readUnsigned at h
    split at h
    · cases h
    · cases h
    · next digits hmore =>
      obtain ⟨hdenotes, hle⟩ := (readDigits_eq_ok_iff_denotes hmore).1 h
      exact ⟨⟨digits, .inr rfl, hdenotes⟩, hle⟩
    · next hne _ _ =>
      obtain ⟨hdenotes, hle⟩ := (readDigits_eq_ok_iff_denotes hne).1 h
      exact ⟨⟨text, .inl rfl, hdenotes⟩, hle⟩
  · rintro ⟨⟨digits, hsign, hdenotes⟩, hle⟩
    have hread := (readDigits_eq_ok_iff_denotes hdenotes.ne_nil).2 ⟨hdenotes, hle⟩
    rcases hsign with rfl | rfl
    · rwa [readUnsigned_of_no_sign limit hdenotes.ne_nil fun hplus =>
        nomatch hdenotes.isDigit '+' hplus]
    · rwa [readUnsigned_plus limit hdenotes.ne_nil]

theorem digitChar_ne_zero : ∀ d < 10, 0 < d → Nat.digitChar d ≠ '0' := by
  decide

/-- No zero leads a number. -/
theorem head?_toDigits {n : Nat} (h : 0 < n) : (Nat.toDigits 10 n).head? ≠ some '0' := by
  induction n using Nat.strongRecOn with
  | ind n ih =>
    rw [Nat.toDigits_eq_if (by decide)]
    split
    · next hlt =>
      rw [List.head?_cons]
      exact fun hzero => digitChar_ne_zero n hlt h (Option.some.inj hzero)
    · next hge =>
      cases hfront : Nat.toDigits 10 (n / 10) with
      | nil => exact absurd hfront Nat.toDigits_ne_nil
      | cons c rest =>
        have hrest := ih (n / 10) (by omega) (by omega)
        rwa [hfront] at hrest

/-! ### Hexadecimal -/

theorem hexDigit?_hexDigit : ∀ d < 16, hexDigit? (hexDigit d) = some d := by
  decide

/-- Decimal digits are hexadecimal ones. -/
theorem hexDigit?_of_isDigit {c : Char} (h : c.isDigit = true) : hexDigit? c ≠ none := by
  have hrange : '0' ≤ c ∧ c ≤ '9' := by
    simp only [Char.isDigit, Bool.and_eq_true, decide_eq_true_eq] at h
    exact h
  rw [hexDigit?, if_pos hrange]
  exact Option.some_ne_none _

theorem hex_ne_nil (n : Nat) : hex n ≠ [] := by
  rw [hex]
  split <;> simp

/-- A number is written in hexadecimal digits only. -/
theorem hexDigit?_of_mem_hex {n : Nat} {c : Char} (h : c ∈ hex n) : hexDigit? c ≠ none := by
  induction n using Nat.strongRecOn with
  | ind n ih =>
    rw [hex] at h
    split at h
    · next hlt =>
      rw [List.mem_singleton.1 h, hexDigit?_hexDigit n hlt]
      exact Option.some_ne_none n
    · next hge =>
      rcases List.mem_append.1 h with h | h
      · exact ih (n / 16) (by omega) h
      · rw [List.mem_singleton.1 h, hexDigit?_hexDigit _ (Nat.mod_lt n (by decide))]
        exact Option.some_ne_none _

theorem not_mem_hex {c : Char} (h : hexDigit? c = none) (n : Nat) : c ∉ hex n :=
  fun hmem => hexDigit?_of_mem_hex hmem h

/-- As many digits as it takes. -/
theorem length_hex_le {n k : Nat} (hk : 0 < k) (h : n < Nat.pow 16 k) : (hex n).length ≤ k := by
  induction k generalizing n with
  | zero => cases hk
  | succ k ih =>
    rw [hex]
    split
    · exact hk
    · next hge =>
      -- A number of two digits or more has room for a second one.
      have hrest : n / 16 < Nat.pow 16 k := by
        have hall : n < Nat.pow 16 k * 16 := h
        exact Nat.div_lt_of_lt_mul (by rwa [Nat.mul_comm] at hall)
      have hk' : 0 < k := by
        rcases Nat.eq_zero_or_pos k with rfl | hpos
        · exact absurd h hge
        · exact hpos
      rw [List.length_append, List.length_singleton]
      exact Nat.succ_le_succ (ih hk' hrest)

end Text

namespace IPv6

/-- Hexadecimal digits read in two parts are read as one. -/
theorem hexValue?_append (n : Nat) (front back : List Char) :
    hexValue? n (front ++ back) = (hexValue? n front).bind fun m => hexValue? m back := by
  induction front generalizing n with
  | nil => rfl
  | cons c rest ih =>
    simp only [List.cons_append, hexValue?]
    cases Text.hexDigit? c with
    | none => rfl
    | some d => exact ih _

/-- What was read as a number is made of hexadecimal digits. -/
theorem hexDigit?_of_hexValue? {n m : Nat} {digits : List Char} (h : hexValue? n digits = some m) :
    ∀ c ∈ digits, Text.hexDigit? c ≠ none := by
  induction digits generalizing n with
  | nil => simp
  | cons c rest ih =>
    rw [hexValue?] at h
    obtain ⟨d, hd, hrest⟩ := Option.bind_eq_some_iff.1 h
    intro c' hmem
    rcases List.mem_cons.1 hmem with rfl | hmem
    · rw [hd]
      exact Option.some_ne_none d
    · exact ih hrest c' hmem

/-- **A number is read back from its hexadecimal digits.** -/
theorem hexValue?_hex (n : Nat) : hexValue? 0 (Text.hex n) = some n := by
  induction n using Nat.strongRecOn with
  | ind n ih =>
    rw [Text.hex]
    split
    · next hlt => simp [hexValue?, Text.hexDigit?_hexDigit n hlt]
    · next hge =>
      have hlast := Text.hexDigit?_hexDigit (n % 16) (Nat.mod_lt n (by decide))
      have hvalue : n / 16 * 16 + n % 16 = n := Nat.div_add_mod' n 16
      rw [hexValue?_append, ih (n / 16) (by omega)]
      simp [hexValue?, hlast, hvalue]

theorem group?_hex (group : UInt16) : group? (Text.hex group.toNat) = some group := by
  have hlength : (Text.hex group.toNat).length ≤ 4 :=
    Text.length_hex_le (by decide) group.toNat_lt
  have hshort : ¬((Text.hex group.toNat).isEmpty = true ∨ 4 < (Text.hex group.toNat).length) := by
    rw [List.isEmpty_iff]
    rintro (hnil | hlong)
    · exact Text.hex_ne_nil _ hnil
    · omega
  rw [group?, if_neg hshort, hexValue?_hex]
  exact congrArg some UInt16.ofNat_toNat

end IPv6

end ProbeLink
