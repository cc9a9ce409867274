import Outbox.Number.Rounding

/-!
# Binary floating-point numbers

A number with a fraction is held as the processor holds it: a sign, a significand of
at most 53 bits, and a power of two.  Waiting times, price factors and price caps are
such numbers, and so is any fraction a caller puts into a field.

## Why not the built-in type

The arithmetic of the built-in floating-point type is not open to proof: the logic
knows nothing of what its operations compute.  Nothing here needs fast arithmetic.  The
numbers are read from text, compared with whole numbers, printed, and turned into a
price, and all four are exact statements about `m * 2 ^ q`.  So a `Binary64` carries
`m` and `q`, and every question about it is a question about whole numbers.

The condition `Representable` makes the pair unique for each value: the significand
uses all its 53 bits unless the exponent is already the least one.  Hence equal numbers
are equal as data, zeros of the two signs apart, and the printer can tell from `m` alone
where the neighbours of a number lie.

## Not-a-number

What is not a number equals nothing, itself included, and yet a list that holds it equals
itself, because the items of a list are first asked whether they are one and the same
thing.  So there are many of them, told apart by a number of their own, and only whoever
compares what stands in a list looks at that number.
-/

namespace Outbox

/-- The least significand that uses all 53 bits. -/
def fullSignificand : Nat := Nat.pow 2 52

/-- The least number that does not fit into 53 bits. -/
def significandLimit : Nat := Nat.pow 2 53

/-- The significands and exponents of the finite numbers. -/
def Representable (m : Nat) (q : Int) : Prop :=
  m < significandLimit ∧ -1074 ≤ q ∧ q ≤ 971 ∧ (fullSignificand ≤ m ∨ q = -1074)

instance (m : Nat) (q : Int) : Decidable (Representable m q) := by
  unfold Representable; infer_instance

/-- A binary floating-point number of 64 bits: not a number, an infinity, or
`m * 2 ^ q` with a sign. -/
inductive Binary64 where
  /-- Not a number: which one it is of those that came from outside, and how often something has
  been added to it since. -/
  | nan (object sums : Nat)
  | infinite (negative : Bool)
  | finite (negative : Bool) (m : Nat) (q : Int) (representable : Representable m q)
  deriving DecidableEq

namespace Binary64

open Number

/-- Zero, which has a sign. -/
def zero (negative : Bool) : Binary64 := .finite negative 0 (-1074) (by decide)

instance : Inhabited Binary64 := ⟨zero false⟩

/-- A number that is neither infinite nor missing. -/
def isFinite : Binary64 → Bool
  | .finite .. => true
  | _ => false

/-- The number `m * 2 ^ q`, or an infinity if it is out of range. -/
def ofParts (negative : Bool) (m : Nat) (q : Int) : Binary64 :=
  if h : Representable m q then .finite negative m q h else .infinite negative

/-- The number nearest to `num / den`, ties to an even significand. -/
def ofRatio (negative : Bool) (num den : Nat) : Binary64 :=
  if num = 0 then zero negative
  else
    let q : Int := max (floorLog 2 num den - 52) (-1074)
    let m := divHalfEven (num * powerBelow 2 q) (den * powerAbove 2 q)
    if m = significandLimit then ofParts negative fullSignificand (q + 1)
    else ofParts negative m q

/-- The number nearest to `n * 10 ^ e`.  Beyond 310 places the answer does not depend on
the digits any more: it is infinite above and zero below. -/
def ofDecimal (negative : Bool) (n : Nat) (e : Int) : Binary64 :=
  if n = 0 then zero negative
  else
    let places : Int := digitCount 10 n + e
    if 310 < places then .infinite negative
    else if places < -330 then zero negative
    else ofRatio negative (n * powerAbove 10 e) (powerBelow 10 e)

/-- The number nearest to a whole number. -/
def ofInt (i : Int) : Binary64 := ofDecimal (i < 0) i.natAbs 0

/-- The value of a finite number as a numerator over a power of two. -/
def ratio? : Binary64 → Option (Int × Nat)
  | .finite negative m q _ =>
    let num := Int.ofNat (m * powerAbove 2 q)
    some (if negative then -num else num, powerBelow 2 q)
  | _ => none

/-- The number nearest to the sum with a whole number.  An infinity stays what it is, and what is
not a number becomes another that is none. -/
def addWhole (x : Binary64) (i : Int) : Binary64 :=
  match x with
  | .nan object sums => .nan object (sums + 1)
  | x =>
    match x.ratio? with
    | some (num, den) =>
      let sum := num + i * den
      ofRatio (sum < 0) sum.natAbs den
    | none => x

end Binary64

/-! ## Numbers as they are compared -/

/-- A number as a caller may give it: whole, of any size, or a fraction. -/
inductive Numeral where
  | whole (i : Int)
  | real (x : Binary64)
  deriving DecidableEq

/-- A point of the number line with its two ends. -/
inductive LinePoint where
  | negativeEnd
  | ratio (num : Int) (den : Nat)
  | positiveEnd

namespace LinePoint

/-- The order of the line; denominators are positive. -/
def cmp : LinePoint → LinePoint → Ordering
  | .negativeEnd, .negativeEnd => .eq
  | .negativeEnd, _ => .lt
  | _, .negativeEnd => .gt
  | .positiveEnd, .positiveEnd => .eq
  | .positiveEnd, _ => .gt
  | _, .positiveEnd => .lt
  | .ratio a b, .ratio c d => compare (a * d) (c * b)

end LinePoint

namespace Numeral

/-- Where a number stands on the line; not-a-number stands nowhere. -/
def point? : Numeral → Option LinePoint
  | .whole i => some (.ratio i 1)
  | .real (.nan ..) => none
  | .real (.infinite true) => some .negativeEnd
  | .real (.infinite false) => some .positiveEnd
  | .real (.finite negative m q h) =>
    ((Binary64.finite negative m q h).ratio?).map fun r => .ratio r.1 r.2

/-- The exact comparison of two numbers; none with not-a-number. -/
def cmp? (a b : Numeral) : Option Ordering :=
  match a.point?, b.point? with
  | some p, some q => some (p.cmp q)
  | _, _ => none

/-- One number is below the other. -/
def lt (a b : Numeral) : Bool := a.cmp? b == some .lt

/-- One number is at most the other. -/
def le (a b : Numeral) : Bool := a.cmp? b == some .lt || a.cmp? b == some .eq

/-- The two numbers have one value, whatever their form. -/
def same (a b : Numeral) : Bool := a.cmp? b == some .eq

/-- A number that has a value. -/
def isFinite : Numeral → Bool
  | .whole _ => true
  | .real x => x.isFinite

@[simp] theorem lt_whole (a b : Int) : lt (.whole a) (.whole b) = decide (a < b) := by
  simp only [lt, cmp?, point?, LinePoint.cmp, Int.natCast_one, Int.mul_one]
  rcases Int.lt_trichotomy a b with h | h | h
  · have : compare a b = .lt := Int.compare_eq_lt.mpr h
    simp [this, h]
  · subst h
    simp
  · have : compare a b = .gt := Int.compare_eq_gt.mpr h
    have hnot : ¬ a < b := by omega
    simp [this, hnot]

@[simp] theorem same_whole (a b : Int) : same (.whole a) (.whole b) = decide (a = b) := by
  simp only [same, cmp?, point?, LinePoint.cmp, Int.natCast_one, Int.mul_one]
  rcases Int.lt_trichotomy a b with h | h | h
  · have : compare a b = .lt := Int.compare_eq_lt.mpr h
    have hne : ¬ a = b := by omega
    simp [this, hne]
  · subst h
    simp
  · have : compare a b = .gt := Int.compare_eq_gt.mpr h
    have hne : ¬ a = b := by omega
    simp [this, hne]

@[simp] theorem le_whole (a b : Int) : le (.whole a) (.whole b) = decide (a ≤ b) := by
  simp only [le, cmp?, point?, LinePoint.cmp, Int.natCast_one, Int.mul_one]
  rcases Int.lt_trichotomy a b with h | h | h
  · have : compare a b = .lt := Int.compare_eq_lt.mpr h
    have hle : a ≤ b := by omega
    simp [this, hle]
  · subst h
    simp
  · have : compare a b = .gt := Int.compare_eq_gt.mpr h
    have hnot : ¬ a ≤ b := by omega
    simp [this, hnot]

/-- A whole number that is not below a number is at least that number, if the number stands
anywhere. -/
theorem lt_whole_left_eq_false_iff (a : Int) (b : Numeral) :
    lt (.whole a) b = false ↔ b.point? = none ∨ b.le (.whole a) = true := by
  unfold lt le cmp?
  cases b.point? with
  | none => simp [point?]
  | some p =>
    cases p with
    | negativeEnd => simp [point?, LinePoint.cmp]
    | positiveEnd => simp [point?, LinePoint.cmp]
    | ratio num den =>
      simp only [point?, LinePoint.cmp, Int.natCast_one, Int.mul_one]
      rcases Int.lt_trichotomy (a * den) num with h | h | h
      · rw [Int.compare_eq_lt.mpr h, Int.compare_eq_gt.mpr h]
        simp
      · rw [h, Int.compare_eq_eq.mpr rfl]
        simp
      · rw [Int.compare_eq_gt.mpr h, Int.compare_eq_lt.mpr h]
        simp

theorem cmp?_nan_left (object sums : Nat) (b : Numeral) :
    cmp? (.real (.nan object sums)) b = none := rfl

theorem cmp?_nan_right (object sums : Nat) (a : Numeral) :
    cmp? a (.real (.nan object sums)) = none := by
  unfold cmp?
  cases a.point? <;> rfl

end Numeral
end Outbox
