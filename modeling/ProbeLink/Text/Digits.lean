/-!
# ProbeLink.Text.Digits

**Unsigned numbers in text**: reading decimal and hexadecimal digits under a limit, and writing
hexadecimal ones.

Design points:

* A reader is given the largest number it may return (`limit`), so one reader serves words of every
  width, and "too large" is a result and not a wrapped number.
* Digits are read from the left. A character that is no digit is refused where it stands, before
  the size of the number so far is looked at, so `1x` and `99999x` may fail for different reasons.
-/

namespace ProbeLink.Text

/-- Why a text is not a number of the wanted width. -/
inductive NumberError
  /-- There is nothing to read. -/
  | empty
  /-- A character is not a digit. -/
  | invalidDigit
  /-- The number is above the limit. -/
  | tooLarge
  deriving Repr, DecidableEq

/-- The wording of a number error. -/
def NumberError.message : NumberError → String
  | .empty => "cannot parse integer from empty string"
  | .invalidDigit => "invalid digit found in string"
  | .tooLarge => "number too large to fit in target type"

/-- The value of a decimal digit. Only the ten ASCII digits are digits. -/
def decimalDigit? (c : Char) : Option Nat :=
  if '0' ≤ c ∧ c ≤ '9' then some (c.toNat - '0'.toNat) else none

/-- The value of a hexadecimal digit, in either case. -/
def hexDigit? (c : Char) : Option Nat :=
  if '0' ≤ c ∧ c ≤ '9' then some (c.toNat - '0'.toNat)
  else if 'a' ≤ c ∧ c ≤ 'f' then some (c.toNat - 'a'.toNat + 10)
  else if 'A' ≤ c ∧ c ≤ 'F' then some (c.toNat - 'A'.toNat + 10)
  else none

/-- Appends decimal digits to a number read so far. -/
def readDigits (limit : Nat) : Nat → List Char → Except NumberError Nat
  | n, [] => .ok n
  | n, c :: rest =>
    match decimalDigit? c with
    | none => .error .invalidDigit
    | some d => if n * 10 + d ≤ limit then readDigits limit (n * 10 + d) rest else .error .tooLarge

/-- Reads an unsigned number: decimal digits after at most one plus sign. -/
def readUnsigned (limit : Nat) : List Char → Except NumberError Nat
  | [] => .error .empty
  | ['+'] => .error .invalidDigit
  | '+' :: digits => readDigits limit 0 digits
  | digits => readDigits limit 0 digits

/-- Reads one or more decimal digits, with no sign. -/
def readPlain? (limit : Nat) (digits : List Char) : Option Nat :=
  if digits.isEmpty then none else (readDigits limit 0 digits).toOption

/-- The digit that stands for `d`, in lower case. -/
def hexDigit (d : Nat) : Char :=
  if d < 10 then Char.ofNat ('0'.toNat + d) else Char.ofNat ('a'.toNat + (d - 10))

/-- The last `width` hexadecimal digits of `n`. -/
def hexDigits : (width n : Nat) → List Char
  | 0, _ => []
  | width + 1, n => hexDigits width (n / 16) ++ [hexDigit (n % 16)]

/-- `n` in hexadecimal without leading zeros. -/
def hex (n : Nat) : List Char :=
  if n < 16 then [hexDigit n] else hex (n / 16) ++ [hexDigit (n % 16)]

/-- `n` in decimal with at least `width` digits, zeros in front. -/
def paddedDecimal (width n : Nat) : String :=
  let digits := Nat.repr n
  String.ofList (List.replicate (width - digits.length) '0') ++ digits

/-- A number that was read is within the limit, if the part read before was. -/
theorem readDigits_le {limit n m : Nat} {digits : List Char} (hn : n ≤ limit)
    (h : readDigits limit n digits = .ok m) : m ≤ limit := by
  induction digits generalizing n with
  | nil => simp only [readDigits, Except.ok.injEq] at h; omega
  | cons c rest ih =>
    rw [readDigits] at h
    split at h
    · simp at h
    · split at h
      · next hle => exact ih hle h
      · simp at h

end ProbeLink.Text
