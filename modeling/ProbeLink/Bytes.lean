/-!
# ProbeLink.Bytes

**Byte strings**, and the fixed-width words that travel in them.

Design points:

* A byte string is a plain list, so every law of lists is a law of what goes over the wire.
* A word is read and written least significant byte first. The only field in the other order is an
  IPv4 address, which is kept as its four octets and needs no word.
* `padTo` is the one rule for short fields: what is missing is zero.
-/

namespace ProbeLink

/-- A string of bytes, first byte first. -/
abbrev Bytes := List UInt8

namespace Bytes

/-- The low `width` bytes of `n`, least significant first. -/
def ofNat : (width n : Nat) → Bytes
  | 0, _ => []
  | width + 1, n => UInt8.ofNat n :: ofNat width (n / 256)

/-- The number a byte string denotes, least significant byte first. -/
def toNat : Bytes → Nat
  | [] => 0
  | b :: rest => b.toNat + 256 * toNat rest

/-- How many words there are of a width. -/
def words : (width : Nat) → Nat
  | 0 => 1
  | width + 1 => 256 * words width

/-- `bytes` with zero bytes appended until it is `length` long; longer strings stay as they are. -/
def padTo (length : Nat) (bytes : Bytes) : Bytes :=
  bytes ++ List.replicate (length - bytes.length) 0

/-- The `length` bytes from position `start`, fewer where the string ends before them. -/
def slice (start length : Nat) (bytes : Bytes) : Bytes :=
  (bytes.drop start).take length

/-- The word in the `width` bytes from position `start`. -/
def word (start width : Nat) (bytes : Bytes) : Nat :=
  toNat (slice start width bytes)

@[simp] theorem length_ofNat (width n : Nat) : (ofNat width n).length = width := by
  induction width generalizing n with
  | zero => rfl
  | succ width ih => simp [ofNat, ih]

/-- Reading a written word gives the word, cut to its width. -/
theorem toNat_ofNat (width n : Nat) : toNat (ofNat width n) = n % words width := by
  induction width generalizing n with
  | zero => simp [ofNat, toNat, words, Nat.mod_one]
  | succ width ih =>
    rw [ofNat, toNat, ih, words, Nat.mod_mul]
    simp

/-- A written word that fits its width is read back unchanged. -/
theorem toNat_ofNat_of_lt {width n : Nat} (h : n < words width) : toNat (ofNat width n) = n := by
  rw [toNat_ofNat, Nat.mod_eq_of_lt h]

@[simp] theorem length_padTo (length : Nat) (bytes : Bytes) :
    (padTo length bytes).length = max length bytes.length := by
  simp only [padTo, List.length_append, List.length_replicate]
  omega

@[simp] theorem padTo_of_length_le {length : Nat} {bytes : Bytes} (h : length ≤ bytes.length) :
    padTo length bytes = bytes := by
  simp [padTo, Nat.sub_eq_zero_of_le h]

/-- What is missing is zero, with or without the padding. -/
theorem getD_padTo (length k : Nat) (bytes : Bytes) :
    (padTo length bytes).getD k 0 = bytes.getD k 0 := by
  simp only [padTo, List.getD_eq_getElem?_getD, List.getElem?_append, List.getElem?_replicate]
  split
  · rfl
  · next hbeyond =>
    rw [List.getElem?_eq_none (Nat.le_of_not_lt hbeyond)]
    split <;> rfl

end Bytes

end ProbeLink
