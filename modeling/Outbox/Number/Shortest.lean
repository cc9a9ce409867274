import Outbox.Number.Binary64

/-!
# The shortest decimal of a binary number

A binary number is printed with the fewest significant digits that still read back as
the same number.  Between its two neighbours every finite number owns an interval of the
line: the decimals in it are exactly those that are read as that number.  So the
question is which decimal with the fewest digits lies in the interval, and if several
do, which is nearest.

## Why two candidates are enough

For `n` digits the decimals form a grid, and the number lies between two neighbours of
that grid.  If any point of the grid lies in the interval then so does one of these two,
because the interval is convex and contains the number.  `candidate?` therefore tests
two points for each `n`, and `shortest` takes the first `n` that has a hit.  Seventeen
digits always have one.

How the digits are then laid out --- where the point goes, when a power of ten is
written --- is a decision of the format and not of the arithmetic, and it is one record,
`Layout`.
-/

namespace Outbox
namespace Binary64

open Number

/-- Which of `c * 10 ^ k` and `b * 2 ^ e` is the larger. -/
def cmpDecimal (c : Nat) (k : Int) (b : Nat) (e : Int) : Ordering :=
  compare (c * powerAbove 10 k * powerBelow 2 e) (b * powerAbove 2 e * powerBelow 10 k)

/-- The decimal `c * 10 ^ k` is read as the number `m * 2 ^ q`.  The interval reaches
half way to the neighbours; below a power of two the neighbour is at half the distance,
unless the exponent is already the least.  Its ends are read as the number with the even
significand. -/
def owns (m : Nat) (q : Int) (c : Nat) (k : Int) : Bool :=
  let low := if m = fullSignificand && -1074 < q then 4 * m - 1 else 4 * m - 2
  let ends := m % 2 == 0
  let aboveLow := cmpDecimal c k low (q - 2)
  let belowHigh := cmpDecimal c k (4 * m + 2) (q - 2)
  (aboveLow == .gt || ends && aboveLow == .eq) && (belowHigh == .lt || ends && belowHigh == .eq)

/-- The decimal with digits up to the place `k` that is read as the number `m * 2 ^ q`
and nearest to it, if there is one. -/
def candidate? (m : Nat) (q : Int) (k : Int) : Option Nat :=
  let num := m * powerAbove 2 q * powerBelow 10 k
  let den := powerBelow 2 q * powerAbove 10 k
  let below := num / den
  match owns m q below k, owns m q (below + 1) k with
  | true, true => some (divHalfEven num den)
  | true, false => some below
  | false, true => some (below + 1)
  | false, false => none

/-- The shortest decimal `c * 10 ^ k` that is read as the positive number `m * 2 ^ q`. -/
def shortest (m : Nat) (q : Int) : Nat × Int :=
  let lead := floorLog 10 (m * powerAbove 2 q) (powerBelow 2 q)
  let attempt (n : Nat) : Option (Nat × Int) :=
    let k := lead - n
    (candidate? m q k).map fun c => (c, k)
  ((List.range 17).findSome? attempt).getD (0, 0)

/-! ## Layout -/

/-- Where the point goes.  The leading digit's place decides whether a number is written
out or with a power of ten, which has at least `exponentDigits` digits. -/
structure Layout where
  leastPlace : Int
  placeLimit : Int
  exponentDigits : Nat

/-- Numbers from a ten-thousandth to below ten quadrillions are written out; a power of
ten has at least two digits. -/
def layout : Layout := ⟨-4, 16, 2⟩

/-- The digits of a positive decimal `c * 10 ^ k` in the layout. -/
def Layout.write (layout : Layout) (c : Nat) (k : Int) : List Char :=
  let all := Nat.toDigits 10 c
  let point : Int := all.length + k
  let digits := (all.reverse.dropWhile (· == '0')).reverse
  let place := point - 1
  if layout.leastPlace ≤ place && place < layout.placeLimit then
    if point ≤ 0 then '0' :: '.' :: List.replicate (-point).toNat '0' ++ digits
    else if digits.length ≤ point.toNat then
      digits ++ List.replicate (point.toNat - digits.length) '0' ++ ['.', '0']
    else digits.take point.toNat ++ '.' :: digits.drop point.toNat
  else
    let mantissa := match digits with
      | [] => []
      | [d] => [d]
      | d :: ds => d :: '.' :: ds
    let power := Nat.toDigits 10 place.natAbs
    let padding := List.replicate (layout.exponentDigits - power.length) '0'
    mantissa ++ 'e' :: (if place < 0 then '-' else '+') :: padding ++ power

/-- A number as it is printed. -/
def chars : Binary64 → List Char
  | .nan .. => ['n', 'a', 'n']
  | .infinite negative => (if negative then ['-'] else []) ++ ['i', 'n', 'f']
  | .finite negative m q _ =>
    let magnitude := if m = 0 then ['0', '.', '0']
      else
        let (c, k) := shortest m q
        layout.write c k
    (if negative then ['-'] else []) ++ magnitude

/-- A number as it is printed. -/
def text (x : Binary64) : String := String.ofList x.chars

instance : ToString Binary64 := ⟨text⟩

end Binary64
end Outbox
