import Outbox.Fault.Basic
import Outbox.Number.Shortest

/-!
# Prices in gwei

Nodes count prices in wei, people in gwei, which are a thousand million wei.  The cap on
prices is a setting in gwei and has to become wei; a node's price is shown in gwei when it
is above the cap.

## From gwei to wei

The cap is a binary number, but what counts is the decimal that was written for it: the
shortest one that reads back.  That decimal times `10 ^ 9`, cut to a whole number, is the
price.  Below one gwei, when the decimal is written with a point, the binary number's own
value is taken instead, rounded to as many significant digits as there are characters after
the point.

## From wei to gwei

A price in wei is divided exactly, and the quotient is written out, or with a power of ten
when its leading digit is more than six places behind the point.

Both directions accept what fits into 256 bits and nothing else.
-/

namespace Outbox
namespace Gwei

open Number

/-- The largest price in wei. -/
def maxWei : Nat := Nat.pow 2 256 - 1

/-- Why a price has no counterpart in the other unit. -/
inductive Error where
  /-- The price in gwei is out of range. -/
  | gweiOutOfRange
  /-- The price in gwei is not a number. -/
  | notANumber
  /-- The price in wei is out of range. -/
  | weiOutOfRange
  deriving DecidableEq, Repr

/-- The fault of a price that cannot be converted. -/
def Error.fault : Error → Fault
  | .gweiOutOfRange => .badValue "Resulting wei value must be between 0 and 2**256 - 1"
  | .notANumber => .foreign "InvalidOperation" "[<class 'decimal.InvalidOperation'>]"
  | .weiOutOfRange => .badValue "value must be between 0 and 2**256 - 1"

/-- The whole part of `c * 10 ^ k`. -/
def wholePart (c : Nat) (k : Int) : Nat := c * powerAbove 10 k / powerBelow 10 k

/-- The quotient `num / den` rounded to so many significant digits, as `c * 10 ^ k`. -/
def roundToDigits (digits : Nat) (num den : Nat) : Nat × Int :=
  let k := floorLog 10 num den + 1 - digits
  (divHalfEven (num * powerBelow 10 k) (den * powerAbove 10 k), k)

/-- The characters after the point of a number as it is printed. -/
def afterPoint (cs : List Char) : List Char := (cs.dropWhile (· != '.')).drop 1

/-- The price in wei of the positive number `m * 2 ^ q` of gwei that is printed as `cs`. -/
def weiOf (m : Nat) (q : Int) (cs : List Char) : Nat :=
  let num := m * powerAbove 2 q
  let den := powerBelow 2 q
  if num < den && cs.contains '.' then
    let places := (afterPoint cs).length
    let (c, k) := roundToDigits places (num * powerAbove 10 places) den
    wholePart c (k + 9 - places)
  else
    let (c, k) := Binary64.shortest m q
    wholePart c (k + 9)

/-- A price in gwei, in wei. -/
def toWei (x : Binary64) : Except Error Nat :=
  match x with
  | .nan .. => .error .notANumber
  | .infinite _ => .error .gweiOutOfRange
  | .finite negative m q _ =>
    if m = 0 then .ok 0
    else if negative then .error .gweiOutOfRange
    else
      let wei := weiOf m q x.chars
      if maxWei < wei then .error .gweiOutOfRange else .ok wei

/-- A price in gwei never exceeds 256 bits in wei. -/
theorem toWei_le {x : Binary64} {wei : Nat} (h : toWei x = .ok wei) : wei ≤ maxWei := by
  unfold toWei at h
  split at h
  · exact absurd h (by simp)
  · exact absurd h (by simp)
  · split at h
    · cases h; exact Nat.zero_le _
    split at h
    · exact absurd h (by simp)
    simp only at h
    split at h
    · exact absurd h (by simp)
    · cases h; omega

/-! ## Writing wei as gwei -/

/-- The decimal without zeros at its end, as far as its exponent stays below `ideal`. -/
def stripZeros (ideal : Int) : Nat → Nat → Int → Nat × Int
  | 0, c, k => (c, k)
  | fuel + 1, c, k =>
    if c % 10 = 0 && k < ideal then stripZeros ideal fuel (c / 10) (k + 1) else (c, k)

/-- A decimal `c * 10 ^ k` as prices are written. -/
def decimalText (c : Nat) (k : Int) : String :=
  let digits := Nat.toDigits 10 c
  let place : Int := digits.length - 1 + k
  let chars :=
    if k ≤ 0 && -6 ≤ place then
      let behind := (-k).toNat
      if behind = 0 then digits
      else if behind < digits.length then
        digits.take (digits.length - behind) ++ '.' :: digits.drop (digits.length - behind)
      else '0' :: '.' :: List.replicate (behind - digits.length) '0' ++ digits
    else
      let mantissa := match digits with
        | [] => []
        | [d] => [d]
        | d :: ds => d :: '.' :: ds
      mantissa ++ 'E' :: (if place < 0 then '-' else '+') :: Nat.toDigits 10 place.natAbs
  String.ofList chars

/-- A number as an exact decimal `c * 10 ^ k` with `k` at most nought, its sign aside. -/
def exactDecimal : Numeral → Nat × Int
  | .whole i => (i.natAbs, 0)
  | .real (.finite _ m q _) =>
    stripZeros 0 (-q).toNat (m * powerAbove 2 q * powerBelow 5 q) (-(-q).toNat)
  | .real _ => (0, 0)

/-- A price in wei, written in gwei. -/
def fromWei (wei : Numeral) : Except Error String :=
  if wei.same (.whole 0) then .ok "0"
  else if wei.lt (.whole 0) || Numeral.lt (.whole maxWei) wei then .error .weiOutOfRange
  else
    let (c, ideal) := exactDecimal wei
    let (c, k) := stripZeros ideal 9 c (ideal - 9)
    .ok (decimalText c k)

/-- A whole price in wei is written in gwei if it is within 256 bits. -/
theorem fromWei_of_le {price : Int} (hpos : 0 ≤ price) (hle : price ≤ maxWei) :
    ∃ text, fromWei (.whole price) = .ok text := by
  have hlow : ¬ price < 0 := by omega
  have hhigh : ¬ (maxWei : Int) < price := by omega
  unfold fromWei
  rw [Numeral.same_whole, Numeral.lt_whole, Numeral.lt_whole]
  split
  · exact ⟨_, rfl⟩
  · rw [decide_eq_false hlow, decide_eq_false hhigh]
    exact ⟨_, rfl⟩

/-- **A price beyond 256 bits cannot be written in gwei.** -/
theorem fromWei_of_lt {price : Int} (h : (maxWei : Int) < price) :
    fromWei (.whole price) = .error .weiOutOfRange := by
  have hne : ¬ price = 0 := by omega
  unfold fromWei
  rw [Numeral.same_whole, Numeral.lt_whole, Numeral.lt_whole, decide_eq_false hne,
    decide_eq_true h, Bool.or_true]
  rfl

end Gwei
end Outbox
