/-!
# Hexadecimal digits

A `Nibble` is half a byte, and every hexadecimal text in the library is spelled from
nibbles: the forty digits of an account, the bytes of a signed transaction, the code
of a character that has no printed form.

Two facts carry all reading of such texts.  Each nibble is read back from either of
its digits (`nibble?_lowerDigit`, `nibble?_upperDigit`), and nothing else is read as
that nibble (`eq_digit_of_nibble?`), so reading a digit and writing it again changes
at most its case.
-/

namespace Outbox
namespace Text

/-- Half a byte. -/
abbrev Nibble := Fin 16

namespace Nibble

/-- The last four bits of a number. -/
def ofNat (n : Nat) : Nibble := ⟨n % 16, Nat.mod_lt n (by decide)⟩

/-- The digit of a nibble, a letter in lower case. -/
def lowerDigit (n : Nibble) : Char :=
  if n.val < 10 then Char.ofNat (0x30 + n.val) else Char.ofNat (0x57 + n.val)

/-- The digit of a nibble, a letter in upper case. -/
def upperDigit (n : Nibble) : Char :=
  if n.val < 10 then Char.ofNat (0x30 + n.val) else Char.ofNat (0x37 + n.val)

end Nibble

/-- The nibble that a digit stands for, whatever the case of a letter. -/
def nibble? (c : Char) : Option Nibble :=
  if h : 0x30 ≤ c.toNat ∧ c.toNat ≤ 0x39 then some ⟨c.toNat - 0x30, by omega⟩
  else if h : 0x61 ≤ c.toNat ∧ c.toNat ≤ 0x66 then some ⟨c.toNat - 0x57, by omega⟩
  else if h : 0x41 ≤ c.toNat ∧ c.toNat ≤ 0x46 then some ⟨c.toNat - 0x37, by omega⟩
  else none

@[simp] theorem nibble?_lowerDigit (n : Nibble) : nibble? n.lowerDigit = some n := by
  revert n; decide

@[simp] theorem nibble?_upperDigit (n : Nibble) : nibble? n.upperDigit = some n := by
  revert n; decide

/-- A character that is read as a nibble is one of the nibble's two digits. -/
theorem eq_digit_of_nibble? {c : Char} {n : Nibble} (h : nibble? c = some n) :
    c = n.lowerDigit ∨ c = n.upperDigit := by
  have hc := Char.ofNat_toNat c
  unfold nibble? at h
  split at h
  · rename_i hr
    left
    cases h
    have : c.toNat - 48 < 10 := by omega
    simp only [Nibble.lowerDigit, this, if_true]
    rw [← hc]; congr 1; simp; omega
  split at h
  · rename_i hr
    left
    cases h
    have : ¬ c.toNat - 87 < 10 := by omega
    simp only [Nibble.lowerDigit, this, if_false]
    rw [← hc]; congr 1; simp; omega
  split at h
  · rename_i hr
    right
    cases h
    have : ¬ c.toNat - 55 < 10 := by omega
    simp only [Nibble.upperDigit, this, if_false]
    rw [← hc]; congr 1; simp; omega
  · exact absurd h (by simp)

/-! ## Numbers and bytes in hexadecimal -/

/-- The last `width` hexadecimal digits of a number. -/
def fixedHex : Nat → Nat → List Char
  | 0, _ => []
  | width + 1, n => fixedHex width (n / 16) ++ [Nibble.lowerDigit (Nibble.ofNat n)]

@[simp] theorem length_fixedHex (width n : Nat) : (fixedHex width n).length = width := by
  induction width generalizing n with
  | zero => rfl
  | succ width ih => simp [fixedHex, ih]

/-- The hexadecimal digits of a number, without leading zeros. -/
def plainHex (n : Nat) : List Char := Nat.toDigits 16 n

/-- Two digits for each byte. -/
def bytesHex (bytes : List UInt8) : List Char := bytes.flatMap fun byte => fixedHex 2 byte.toNat

end Text
end Outbox
