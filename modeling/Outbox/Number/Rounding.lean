/-!
# Rounding quotients

Two conversions of the library lose digits: a decimal literal becomes a binary number
of 53 bits, and a price below one gwei is cut to as many significant digits as it was
written with.  Both round a quotient of whole numbers to the nearest whole number, and
a quotient half way between two goes to the even one.

`divHalfEven` is that quotient.  `floorLog` is the other half of either conversion: it
says where the leading digit of a quotient stands, which is how the divisor is chosen.

A divisor is a power, and its exponent may be negative.  `powerAbove` and `powerBelow` are the
two whole numbers of which such a power is the quotient; one of them is always one.
-/

namespace Outbox
namespace Number

/-- The whole number nearest to `num / den`; of two equally near ones the even one. -/
def divHalfEven (num den : Nat) : Nat :=
  let floor := num / den
  let rest := 2 * (num % den)
  if rest < den then floor
  else if den < rest then floor + 1
  else if floor % 2 = 0 then floor else floor + 1

/-- The rounded quotient is at most half a divisor away. -/
theorem divHalfEven_near (num den : Nat) (hden : 0 < den) :
    2 * num ≤ 2 * (divHalfEven num den * den) + den ∧
      2 * (divHalfEven num den * den) ≤ 2 * num + den := by
  have hsplit : num / den * den + num % den = num := by
    rw [Nat.mul_comm]; exact Nat.div_add_mod num den
  have hrest : num % den < den := Nat.mod_lt num hden
  unfold divHalfEven
  simp only
  generalize num / den = floor at hsplit
  generalize num % den = rest at hsplit hrest
  have hsucc : (floor + 1) * den = floor * den + den := by rw [Nat.add_mul, Nat.one_mul]
  split
  · omega
  split
  · rw [hsucc]; omega
  split
  · omega
  · rw [hsucc]; omega

/-- Nothing is rounded where nothing is left over. -/
theorem divHalfEven_mul (n den : Nat) (hden : 0 < den) : divHalfEven (n * den) den = n := by
  unfold divHalfEven
  rw [Nat.mul_div_cancel _ hden, Nat.mul_mod_left]
  simp [hden]

/-- How many digits a number has in a base. -/
def digitCount (base n : Nat) : Nat := (Nat.toDigits base n).length

/-- A power with any whole exponent is a fraction, and this stands above its bar. -/
def powerAbove (base : Nat) (k : Int) : Nat := Nat.pow base k.toNat

/-- What stands below the bar of a power. -/
def powerBelow (base : Nat) (k : Int) : Nat := Nat.pow base (-k).toNat

theorem powerAbove_pos {base : Nat} (hbase : 0 < base) (k : Int) : 0 < powerAbove base k :=
  Nat.pow_pos hbase

theorem powerBelow_pos {base : Nat} (hbase : 0 < base) (k : Int) : 0 < powerBelow base k :=
  Nat.pow_pos hbase

/-- The place of the leading digit of `num / den`, counted from the units: the largest
`k` with `base ^ k ≤ num / den`.  Both numbers are positive. -/
def floorLog (base num den : Nat) : Int :=
  let k : Int := digitCount base num - digitCount base den
  if den * powerAbove base k ≤ num * powerBelow base k then k else k - 1

end Number
end Outbox
