import ProbeLink.Bytes

/-!
# ProbeLink.Scratch

The **scratch buffer** of a transport: one block of memory, zero at first, in which small writes
are collected and in which short reads keep what the device delivered too early.

Writes and reads use the same bytes, each with its own position. Only the bytes touched so far are
kept; every byte beyond them still has its first value, so a buffer of any size costs nothing until
it is used. The view is `Scratch.get`: what the buffer holds at each position.
-/

namespace ProbeLink

/-- A block of memory that starts out zero, given by its touched prefix. -/
structure Scratch where
  touched : Bytes
  deriving Repr, DecidableEq

namespace Scratch

/-- Memory nobody has written to. -/
def empty : Scratch := ⟨[]⟩

/-- The byte at position `i`. -/
def get (s : Scratch) (i : Nat) : UInt8 := s.touched.getD i 0

/-- The `length` bytes from position `start`. -/
def read (s : Scratch) (start length : Nat) : Bytes :=
  Bytes.padTo length (Bytes.slice start length s.touched)

/-- Puts `data` at position `start`, leaving every other byte alone. -/
def write (s : Scratch) (start : Nat) (data : Bytes) : Scratch :=
  ⟨Bytes.padTo start (s.touched.take start) ++ data ++ s.touched.drop (start + data.length)⟩

@[simp] theorem length_read (s : Scratch) (start length : Nat) :
    (s.read start length).length = length := by
  simp only [read, Bytes.length_padTo, Bytes.slice, List.length_take]
  omega

/-- Reading is looking at one position after another. -/
theorem getElem_read (s : Scratch) (start length i : Nat) (h : i < (s.read start length).length) :
    (s.read start length)[i] = s.get (start + i) := by
  have hi : i < length := by simpa using h
  simp only [read, Bytes.padTo, Bytes.slice, get, List.getD_eq_getElem?_getD]
  rw [List.getElem_append]
  split
  · next hin =>
    rw [List.getElem_take, List.getElem_drop, List.getElem?_eq_getElem, Option.getD_some]
  · next hout =>
    simp only [List.length_take, List.length_drop, Nat.not_lt] at hout
    rw [List.getElem_replicate, List.getElem?_eq_none (by omega), Option.getD_none]

/-- Two buffers read the same where they hold the same bytes. -/
theorem read_eq_read_iff (s s' : Scratch) (start length : Nat) :
    s.read start length = s'.read start length ↔
      ∀ i, start ≤ i → i < start + length → s.get i = s'.get i := by
  constructor
  · intro h i hstart hlength
    have hi : i - start < (s.read start length).length := by
      rw [length_read]
      omega
    have hi' : i - start < (s'.read start length).length := by
      rw [length_read]
      omega
    have hbyte : (s.read start length)[i - start] = (s'.read start length)[i - start] := by
      simp only [h]
    rw [getElem_read, getElem_read, Nat.add_sub_cancel' hstart] at hbyte
    exact hbyte
  · intro h
    apply List.ext_getElem (by simp)
    intro i h₁ h₂
    have hi : i < length := by simpa using h₁
    rw [getElem_read, getElem_read, h _ (by omega) (by omega)]

/-- A write changes exactly the bytes it covers. -/
theorem get_write (s : Scratch) (start : Nat) (data : Bytes) (i : Nat) :
    (s.write start data).get i =
      if start ≤ i ∧ i < start + data.length then data.getD (i - start) 0 else s.get i := by
  have hpre : (Bytes.padTo start (s.touched.take start)).length = start := by
    simp only [Bytes.length_padTo, List.length_take]; omega
  simp only [write, get, List.getD_eq_getElem?_getD, List.append_assoc]
  by_cases h₁ : i < start
  · rw [List.getElem?_append_left (by omega), if_neg (by omega), Bytes.padTo]
    by_cases h₂ : i < s.touched.length
    · rw [List.getElem?_append_left (by simp only [List.length_take]; omega),
        List.getElem?_take_of_lt h₁]
    · rw [List.getElem?_append_right (by simp only [List.length_take]; omega),
        List.getElem?_eq_none (l := s.touched) (by omega), List.getElem?_replicate]
      split <;> rfl
  · rw [List.getElem?_append_right (by omega), hpre]
    by_cases h₂ : i < start + data.length
    · rw [if_pos ⟨by omega, h₂⟩, List.getElem?_append_left (by omega)]
    · rw [if_neg (by omega), List.getElem?_append_right (by omega), List.getElem?_drop]
      congr 2
      omega

/-- What was just written is what is read there. -/
@[simp] theorem read_write_self (s : Scratch) (start : Nat) (data : Bytes) :
    (s.write start data).read start data.length = data := by
  apply List.ext_getElem (by simp)
  intro i h₁ h₂
  rw [getElem_read, get_write, if_pos (by omega), Nat.add_sub_cancel_left,
    List.getD_eq_getElem?_getD, List.getElem?_eq_getElem h₂, Option.getD_some]

/-- Two neighbouring reads are one longer read. -/
theorem read_add (s : Scratch) (start m n : Nat) :
    s.read start (m + n) = s.read start m ++ s.read (start + m) n := by
  apply List.ext_getElem (by simp)
  intro i h₁ h₂
  rw [getElem_read, List.getElem_append]
  split
  · next h => rw [getElem_read]
  · next h =>
    rw [getElem_read]
    simp only [length_read] at h ⊢
    congr 1
    omega

/-- The first bytes of a read are a shorter read. -/
theorem take_read (s : Scratch) (start : Nat) {n length : Nat} (h : n ≤ length) :
    (s.read start length).take n = s.read start n := by
  obtain ⟨rest, rfl⟩ := Nat.exists_eq_add_of_le h
  rw [read_add, List.take_left' (length_read s start n)]

/-- What follows the first bytes of a read is a read further on. -/
theorem drop_read (s : Scratch) (start : Nat) {n length : Nat} (h : n ≤ length) :
    (s.read start length).drop n = s.read (start + n) (length - n) := by
  obtain ⟨rest, rfl⟩ := Nat.exists_eq_add_of_le h
  rw [read_add, List.drop_left' (length_read s start n), Nat.add_sub_cancel_left]

/-- A read inside of what was just written is a part of it. -/
theorem read_write_inside (s : Scratch) (start : Nat) {data : Bytes} {i n : Nat}
    (h : i + n ≤ data.length) :
    (s.write start data).read (start + i) n = (data.drop i).take n := by
  have hdrop : data.drop i = (s.write start data).read (start + i) (data.length - i) := by
    rw [← drop_read _ start (by omega), read_write_self]
  rw [hdrop, take_read _ _ (by omega)]

/-- A write does not show in a read that stays clear of it. -/
theorem read_write_of_disjoint (s : Scratch) {start pos length : Nat} {data : Bytes}
    (h : pos + length ≤ start ∨ start + data.length ≤ pos) :
    (s.write start data).read pos length = s.read pos length := by
  apply List.ext_getElem (by simp)
  intro i h₁ h₂
  have hi : i < length := by simpa using h₁
  rw [getElem_read, getElem_read, get_write, if_neg (by omega)]

/-- Buffers that read the same somewhere read the same in every part of it. -/
theorem read_eq_of_within {s s' : Scratch} {start length pos n : Nat}
    (h : s'.read start length = s.read start length) (hlow : start ≤ pos)
    (hhigh : pos + n ≤ start + length) : s'.read pos n = s.read pos n := by
  rw [read_eq_read_iff] at h ⊢
  intro i hi hi'
  exact h i (by omega) (by omega)

/-- Buffers that read the same somewhere still do after the same write. -/
theorem read_write_congr {s s' : Scratch} {pos n : Nat} (h : s'.read pos n = s.read pos n)
    (start : Nat) (data : Bytes) :
    (s'.write start data).read pos n = (s.write start data).read pos n := by
  rw [read_eq_read_iff] at h ⊢
  intro i hi hi'
  rw [get_write, get_write, h i hi hi']

end Scratch

end ProbeLink
