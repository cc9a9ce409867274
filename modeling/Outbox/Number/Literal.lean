import Outbox.Number.Binary64
import Outbox.Text.Blank
import Outbox.Text.DecimalDigit
import Outbox.Text.Quoted

/-!
# Number literals

Settings are texts, and some of them stand for numbers.  A literal may have blanks
around it and a sign, its digits may be those of any script, and a single underscore
may stand between two digits to group them.

## Reading a whole number

`digits?` reads a nonempty run of digits with single underscores between them, and
`readInteger` applies it to the longest run of digits and underscores after the sign.
What follows the run decides last: first the run itself has to be well formed, then its
length has to be within `digitLimit`, and only then must nothing be left.  So a run that
is both too long and followed by something else is reported as too long.

## Reading a fraction

`readReal` knows the three names of the numbers that are not finite, in any case of
their letters, and otherwise a decimal with an optional point and an optional power of
ten.  A point may stand at either end of the digits but not alone.

## Writing a whole number

What may not be read may not be written either: a whole number of more than `digitLimit`
digits has no decimal text (`isWritable`), whatever it is to be written into.  Its
hexadecimal text is not limited.
-/

namespace Outbox

/-- Why a text is no number literal. -/
inductive LiteralError where
  /-- The text is not a whole number. -/
  | integer (given : String)
  /-- The whole number has more digits than may be read. -/
  | tooLong (digits : Nat)
  /-- The text is not a number. -/
  | real (given : String)
  deriving DecidableEq

namespace Literal

open Text

/-- The most digits a whole number may have. -/
def digitLimit : Nat := 4300

/-- How much of the quoted text a complaint about a whole number shows. -/
def shownLimit : Nat := 200

end Literal

/-- The complaint about a text that is no number literal. -/
def LiteralError.message : LiteralError → String
  | .integer given =>
    "invalid literal for int() with base 10: " ++
      String.ofList ((Text.quoted given.toList).take Literal.shownLimit)
  | .tooLong digits =>
    s!"Exceeds the limit ({Literal.digitLimit} digits) for integer string conversion: value has {digits} digits; use sys.set_int_max_str_digits() to increase the limit"
  | .real given => "could not convert string to float: " ++ String.ofList (Text.quoted given.toList)

namespace Literal

open Text

/-! ## Digits -/

/-- A nonempty run of digits with single underscores between them. -/
def digits? : List Char → Option (List Nat)
  | [] => none
  | c :: cs =>
    match decimalValue? c with
    | none => none
    | some d =>
      match cs with
      | [] => some [d]
      | '_' :: rest => (digits? rest).map (d :: ·)
      | rest => (digits? rest).map (d :: ·)

/-- The number that a list of digits stands for. -/
def ofDigits (ds : List Nat) : Nat := ds.foldl (fun n d => 10 * n + d) 0

/-- A digit or an underscore. -/
def isDigitOrUnderscore (c : Char) : Bool := (decimalValue? c).isSome || c == '_'

/-- The sign in front of a literal, and what follows it. -/
def signed : List Char → Bool × List Char
  | '-' :: cs => (true, cs)
  | '+' :: cs => (false, cs)
  | cs => (false, cs)

/-! ## Whole numbers -/

/-- The whole number that a text stands for. -/
def readInteger (given : String) : Except LiteralError Int :=
  let (negative, cs) := signed (stripWhile isLiteralBlank given.toList)
  match digits? (cs.takeWhile isDigitOrUnderscore) with
  | none => .error (.integer given)
  | some ds =>
    if digitLimit < ds.length then .error (.tooLong ds.length)
    else if (cs.dropWhile isDigitOrUnderscore).isEmpty then
      .ok (if negative then -(ofDigits ds : Int) else ofDigits ds)
    else .error (.integer given)

/-! ## Fractions -/

/-- The names of the numbers that are not finite. -/
def named? (cs : List Char) : Option (Bool → Binary64) :=
  let name := cs.map Char.toLower
  if name = "inf".toList || name = "infinity".toList then some .infinite
  else if name = "nan".toList then some fun _ => .nan 0 0
  else none

/-- A run of digits that may be empty. -/
def digitsOrNone? (cs : List Char) : Option (List Nat) :=
  if cs.isEmpty then some [] else digits? cs

/-- The power of ten at the end of a literal; none written is the zeroth. -/
def power? : List Char → Option Int
  | [] => some 0
  | c :: cs =>
    if c = 'e' || c = 'E' then
      let (negative, ds) := signed cs
      (digits? ds).map fun ds => if negative then -(ofDigits ds : Int) else ofDigits ds
    else none

/-- An unsigned decimal with an optional point and an optional power of ten. -/
def decimal? (cs : List Char) : Option (Nat × Int) :=
  let whole := cs.takeWhile isDigitOrUnderscore
  let rest := cs.dropWhile isDigitOrUnderscore
  let (fraction, tail) := match rest with
    | '.' :: rest => (rest.takeWhile isDigitOrUnderscore, rest.dropWhile isDigitOrUnderscore)
    | rest => ([], rest)
  if whole.isEmpty && fraction.isEmpty then none
  else
    match digitsOrNone? whole, digitsOrNone? fraction, power? tail with
    | some ws, some fs, some e => some (ofDigits (ws ++ fs), e - fs.length)
    | _, _, _ => none

/-- The number that a text stands for. -/
def readReal (given : String) : Except LiteralError Binary64 :=
  let (negative, cs) := signed (stripWhile isLiteralBlank given.toList)
  match named? cs with
  | some name => .ok (name negative)
  | none =>
    match decimal? cs with
    | some (n, e) => .ok (Binary64.ofDecimal negative n e)
    | none => .error (.real given)

/-! ## Writing a whole number -/

/-- A number has at most so many digits. -/
def fitsIn : Nat → Nat → Bool
  | 0, _ => false
  | digits + 1, n => n < 10 || fitsIn digits (n / 10)

/-- A whole number has few enough digits to be written in decimal. -/
def isWritable (i : Int) : Bool := fitsIn digitLimit i.natAbs

theorem fitsIn_iff {digits : Nat} (hpos : 0 < digits) (n : Nat) :
    fitsIn digits n = true ↔ n < Nat.pow 10 digits := by
  induction digits generalizing n with
  | zero => exact absurd hpos (by decide)
  | succ digits ih =>
    rcases Nat.eq_zero_or_pos digits with rfl | hdigits
    · simp [fitsIn]
    · have hpow : Nat.pow 10 (digits + 1) = Nat.pow 10 digits * 10 := rfl
      have hten : 0 < Nat.pow 10 digits := Nat.pow_pos (by decide)
      rw [fitsIn, Bool.or_eq_true, decide_eq_true_eq, ih hdigits,
        Nat.div_lt_iff_lt_mul (by decide), hpow]
      omega

/-- **A whole number can be written exactly if it lies within the limit of digits.** -/
theorem isWritable_iff (i : Int) : isWritable i = true ↔ i.natAbs < Nat.pow 10 digitLimit :=
  fitsIn_iff (by decide) i.natAbs

/-- The least whole number that has too many digits to be written. -/
@[irreducible]
def tooLong : Int := (Nat.pow 10 digitLimit : Nat)

@[simp] theorem isWritable_tooLong : isWritable tooLong = false := by
  refine Bool.eq_false_iff.mpr fun h => ?_
  have hless := (isWritable_iff tooLong).mp h
  rw [tooLong, Int.natAbs_natCast] at hless
  exact Nat.lt_irrefl _ hless

end Literal
end Outbox
