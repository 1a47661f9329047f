import ProbeLink.Json.Basic
import ProbeLink.Text.Digits
import ProbeLink.Text.Field

/-!
# ProbeLink.Json.Token

**The tokens of a JSON text**: punctuation, literals, numbers and strings, with the white space
between them dropped.

Every token takes at least one character, which is why `Token.ofText?` ends. A number or a literal
reaches as far as the characters that can stand in one, and is then checked as a whole.
-/

namespace ProbeLink.Json

/-- A token of a JSON text. -/
inductive Token
  | openArray
  | closeArray
  | openObject
  | closeObject
  | comma
  | colon
  | null
  | bool (value : Bool)
  | number (spelling : String)
  | string (text : Option String)
  deriving Repr, DecidableEq

/-- The four characters that may stand between tokens. -/
def isSpace (c : Char) : Bool := c = ' ' || c = '\t' || c = '\n' || c = '\r'

/-! ### Numbers -/

/-- May the character stand in a number? -/
def inNumber (c : Char) : Bool :=
  c.isDigit || c = '-' || c = '+' || c = '.' || c = 'e' || c = 'E'

/-- One or more digits and nothing else. -/
def isDigits (cs : List Char) : Bool := !cs.isEmpty && cs.all Char.isDigit

/-- The text after the exponent mark. -/
def isExponent : List Char → Bool
  | '+' :: digits => isDigits digits
  | '-' :: digits => isDigits digits
  | digits => isDigits digits

/-- The text after the integer part. -/
def isFraction : List Char → Bool
  | [] => true
  | '.' :: rest =>
    let after := rest.dropWhile Char.isDigit
    isDigits (rest.takeWhile Char.isDigit) && match after with
      | [] => true
      | c :: exponent => (c = 'e' || c = 'E') && isExponent exponent
  | c :: exponent => (c = 'e' || c = 'E') && isExponent exponent

/-- A number without its sign: no zero stands before another digit. -/
def isUnsigned : List Char → Bool
  | '0' :: rest => isFraction rest
  | c :: rest => c.isDigit && isFraction (rest.dropWhile Char.isDigit)
  | [] => false

/-- Is the spelling one of a number? -/
def isNumber : List Char → Bool
  | '-' :: rest => isUnsigned rest
  | rest => isUnsigned rest

/-! ### Strings -/

/-- The value of four hexadecimal digits. -/
def codeUnit? (a b c d : Char) : Option Nat := do
  let a ← Text.hexDigit? a
  let b ← Text.hexDigit? b
  let c ← Text.hexDigit? c
  let d ← Text.hexDigit? d
  return ((a * 16 + b) * 16 + c) * 16 + d

/-- What a one-character escape stands for. -/
def escaped? (c : Char) : Option Char :=
  match c with
  | '"' => some '"'
  | '\\' => some '\\'
  | '/' => some '/'
  | 'b' => some '\x08'
  | 'f' => some '\x0c'
  | 'n' => some '\n'
  | 'r' => some '\r'
  | 't' => some '\t'
  | _ => none

/-- The code units of a string up to its closing quote, and the text after it. -/
def stringUnits? : List Char → Option (List Nat × List Char)
  | '"' :: rest => some ([], rest)
  | '\\' :: 'u' :: a :: b :: c :: d :: rest => do
    let unit ← codeUnit? a b c d
    let (units, rest) ← stringUnits? rest
    return (unit :: units, rest)
  | '\\' :: c :: rest => do
    let c ← escaped? c
    let (units, rest) ← stringUnits? rest
    return (c.toNat :: units, rest)
  | c :: rest =>
    if c.toNat < 0x20 ∨ c = '\\' then none
    else do
      let (units, rest) ← stringUnits? rest
      return (c.toNat :: units, rest)
  | [] => none

/-- The text that code units stand for: two halves of a surrogate pair are one character, and a
half alone is none. -/
def textOfUnits? : List Nat → Option (List Char)
  | [] => some []
  | high :: rest =>
    if 0xd800 ≤ high ∧ high < 0xdc00 then
      match rest with
      | low :: rest =>
        if 0xdc00 ≤ low ∧ low < 0xe000 then
          (textOfUnits? rest).map
            (Char.ofNat (0x10000 + (high - 0xd800) * 0x400 + (low - 0xdc00)) :: ·)
        else none
      | [] => none
    else if 0xdc00 ≤ high ∧ high < 0xe000 then none
    else (textOfUnits? rest).map (Char.ofNat high :: ·)

theorem length_of_stringUnits? {text : List Char} {units : List Nat} {rest : List Char}
    (h : stringUnits? text = some (units, rest)) : rest.length < text.length := by
  fun_induction stringUnits? text generalizing units rest with
  | case1 tail => simp_all
  | case2 a b c d tail ih =>
    simp only [Option.bind_eq_bind, Option.bind_eq_some_iff, Option.pure_def,
      Option.some.injEq] at h
    obtain ⟨_, _, ⟨u, r⟩, hr, heq⟩ := h
    cases heq
    have := ih hr
    simp only [List.length_cons]
    omega
  | case3 c tail _ ih =>
    simp only [Option.bind_eq_bind, Option.bind_eq_some_iff, Option.pure_def,
      Option.some.injEq] at h
    obtain ⟨_, _, ⟨u, r⟩, hr, heq⟩ := h
    cases heq
    have := ih hr
    simp only [List.length_cons]
    omega
  | case4 => simp at h
  | case5 c tail _ _ _ _ ih =>
    simp only [Option.bind_eq_bind, Option.bind_eq_some_iff, Option.pure_def,
      Option.some.injEq] at h
    obtain ⟨⟨u, r⟩, hr, heq⟩ := h
    cases heq
    have := ih hr
    simp only [List.length_cons]
    omega
  | case6 => simp at h

/-! ### Texts -/

/-- The token that a single character is. -/
def punctuation? (c : Char) : Option Token :=
  match c with
  | '[' => some .openArray
  | ']' => some .closeArray
  | '\x7b' => some .openObject
  | '\x7d' => some .closeObject
  | ',' => some .comma
  | ':' => some .colon
  | _ => none

/-- The literal that a word is. -/
def literal? (word : String) : Option Token :=
  if word = "null" then some .null
  else if word = "true" then some (.bool true)
  else if word = "false" then some (.bool false)
  else none

theorem length_dropWhile_le (p : Char → Bool) (text : List Char) :
    (text.dropWhile p).length ≤ text.length := by
  induction text with
  | nil => simp
  | cons c rest ih =>
    rw [List.dropWhile_cons]
    split
    · simp only [List.length_cons]; omega
    · simp

/-- Cuts a text into tokens; `none` if something in it is no token. -/
def Token.ofText? : List Char → Option (List Token)
  | [] => some []
  | c :: rest =>
    if isSpace c then ofText? rest
    else if c = '"' then
      match h : stringUnits? rest with
      | none => none
      | some (units, after) =>
        have : after.length < rest.length := length_of_stringUnits? h
        (ofText? after).map (Token.string ((textOfUnits? units).map String.ofList) :: ·)
    else if inNumber c && !c.isAlpha then
      let spelling := c :: rest.takeWhile inNumber
      have : (rest.dropWhile inNumber).length ≤ rest.length := length_dropWhile_le inNumber rest
      if isNumber spelling then
        (ofText? (rest.dropWhile inNumber)).map (Token.number (String.ofList spelling) :: ·)
      else none
    else if c.isAlpha then
      have : (rest.dropWhile Char.isAlpha).length ≤ rest.length :=
        length_dropWhile_le Char.isAlpha rest
      match literal? (String.ofList (c :: rest.takeWhile Char.isAlpha)) with
      | none => none
      | some token => (ofText? (rest.dropWhile Char.isAlpha)).map (token :: ·)
    else
      match punctuation? c with
      | none => none
      | some token => (ofText? rest).map (token :: ·)
termination_by text => text.length
decreasing_by all_goals simp only [List.length_cons]; omega

end ProbeLink.Json
