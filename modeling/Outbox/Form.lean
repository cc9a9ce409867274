import Outbox.Fault.Basic

/-!
# Forms

A form is a text with gaps, and one number is put into it.  A gap opens with a percent sign
and ends with a letter that says how the number is written; between them may stand flags, a
width, a precision and a letter for the size of the number.  Two percent signs in a row are
no gap.

What the filled form looks like does not matter here.  What matters is whether it can be
filled, and why not: a form wants exactly one number, a gap may ask for what the number cannot
be, and a gap may be no gap at all.

## Reading a form

A form is read from left to right, and the first thing that is wrong with it decides the
complaint.  So a form is read one sign at a time by `step`, which knows the place in the gap,
and `fill` is what is left to ask at the end.  That the number is used up already comes before
anything that the second gap does with it.

Forms of characters and forms of bytes differ in a few letters and in some complaints.
-/

namespace Outbox
namespace Form

/-- What a form is made of. -/
inductive Medium where
  | characters
  | bytes
  deriving DecidableEq

/-- Why a number cannot be put into a form. -/
inductive Error where
  /-- The form ends within a gap. -/
  | unfinished
  /-- A gap asks for an entry of a dictionary. -/
  | wantsEntry
  /-- A gap asks for another number. -/
  | wantsAnother
  /-- No gap asks for the number. -/
  | leftOver (medium : Medium)
  /-- The width of a gap is no word. -/
  | wideWidth
  /-- The precision of a gap is no half word. -/
  | widePrecision (medium : Medium)
  /-- The number itself is asked for as a width. -/
  | numberAsWidth
  /-- The number itself is asked for as a precision. -/
  | numberAsPrecision
  /-- The precision leaves no place for what stands around the digits. -/
  | longPrecision
  /-- There is no room for the filled form. -/
  | noRoom
  /-- The number is no character. -/
  | noCharacter (medium : Medium)
  /-- The number is no row of bytes. -/
  | noBytes
  /-- A gap of bytes ends with a byte that is no character, and so cannot be shown. -/
  | strayByte
  /-- A gap ends with a sign that means nothing. -/
  | unknownSign (medium : Medium) (sign : Char) (index : Nat)
  deriving DecidableEq

/-- A sign as complaints about it show it. -/
def shownSign (medium : Medium) (sign : Char) : Char :=
  if medium = .characters && (sign.toNat < 31 || 126 < sign.toNat) then '?' else sign

/-- A number was too large for what it was used as. -/
def overflow (message : String) : Fault := .foreign "OverflowError" message

/-- The fault of a form that cannot be filled. -/
def Error.fault : Error → Fault
  | .unfinished => .badValue "incomplete format"
  | .wantsEntry => .badType "format requires a mapping"
  | .wantsAnother => .badType "not enough arguments for format string"
  | .leftOver .characters => .badType "not all arguments converted during string formatting"
  | .leftOver .bytes => .badType "not all arguments converted during bytes formatting"
  | .wideWidth => .badValue "width too big"
  | .widePrecision .characters => .badValue "precision too big"
  | .widePrecision .bytes => .badValue "prec too big"
  | .numberAsWidth => overflow "Python int too large to convert to C ssize_t"
  | .numberAsPrecision => overflow "Python int too large to convert to C int"
  | .longPrecision => overflow "precision too large"
  | .noRoom => { kind := .foreign "MemoryError", args := [] }
  | .noCharacter .characters => overflow "%c arg not in range(0x110000)"
  | .noCharacter .bytes => overflow "%c arg not in range(256)"
  | .noBytes =>
    .badType "%b requires a bytes-like object, or an object that implements __bytes__, not 'int'"
  | .strayByte => { kind := .foreign "ValueError", args := [] }
  | .unknownSign medium sign index =>
    let code := String.ofList (Nat.toDigits 16 sign.toNat)
    .badValue s!"unsupported format character '{shownSign medium sign}' (0x{code}) at index {index}"

/-! ## The signs of a gap -/

/-- The sign that opens a gap. -/
def mark : Char := '%'

/-- A flag. -/
def isFlag (medium : Medium) (c : Char) : Bool :=
  ['-', '+', ' ', '#', '0'].contains c || (medium = .bytes && c = 'z')

/-- A letter for the size of the number, which means nothing. -/
def isSize (c : Char) : Bool := ['h', 'l', 'L'].contains c

/-- A letter that writes a number in whole digits. -/
def isWhole (c : Char) : Bool := ['d', 'i', 'u', 'o', 'x', 'X'].contains c

/-- A letter that writes a number as a fraction. -/
def isFraction (c : Char) : Bool := ['e', 'E', 'f', 'F', 'g', 'G'].contains c

/-- A letter that writes a number as it is shown. -/
def isShown (medium : Medium) (c : Char) : Bool :=
  c = 'r' || c = 'a' || (medium = .characters && c = 's')

/-- A letter that writes a row of bytes. -/
def isRow (medium : Medium) (c : Char) : Bool := medium = .bytes && (c = 'b' || c = 's')

/-- The largest width. -/
def widthLimit : Nat := Nat.pow 2 63 - 1

/-- The largest precision. -/
def precisionLimit : Nat := Nat.pow 2 31 - 1

/-- The largest precision of whole digits, which may have a sign and two letters in front. -/
def wholePrecisionLimit : Nat := precisionLimit - 3

/-- A width for which there is no room. -/
def roomLimit : Nat := Nat.pow 2 34

/-! ## Reading a form -/

/-- Where in a form one is. -/
inductive Place where
  /-- Between the gaps. -/
  | outside
  /-- After the mark. -/
  | opened
  /-- After a flag. -/
  | flags
  /-- Within the width. -/
  | width
  /-- After the point. -/
  | point
  /-- Within the precision. -/
  | precision
  /-- After the letter for the size. -/
  | size
  deriving DecidableEq

/-- What is known of a form that has been read so far. -/
structure Reader where
  place : Place := .outside
  /-- The width of the gap. -/
  width : Nat := 0
  /-- The precision of the gap. -/
  precision : Nat := 0
  /-- The number has been put into a gap. -/
  isFilled : Bool := false
  /-- How many signs have been read. -/
  index : Nat := 0

/-- The number with a digit more. -/
def withDigit (n : Nat) (c : Char) : Nat := 10 * n + (c.toNat - '0'.toNat)

namespace Reader

/-- The last sign was a digit. -/
def isAfterDigit (r : Reader) : Bool := r.place = .width || r.place = .precision

/-- What is wrong with writing the number in the way of a letter.  A byte that is no character is
shown as the character of its code only if it follows a digit. -/
def complaint? (medium : Medium) (c : Char) (r : Reader) : Option Error :=
  if isWhole c then if wholePrecisionLimit < r.precision then some .longPrecision else none
  else if isFraction c || isShown medium c then none
  else if isRow medium c then some .noBytes
  else if c = 'c' then some (.noCharacter medium)
  else if medium = .bytes && 0x80 ≤ c.toNat && !r.isAfterDigit then some .strayByte
  else some (.unknownSign medium c r.index)

/-- Ends the gap with a letter. -/
def close (medium : Medium) (c : Char) (r : Reader) : Except Error Reader :=
  if r.isFilled then .error .wantsAnother
  else match r.complaint? medium c with
    | some e => .error e
    | none =>
      if roomLimit ≤ r.width then .error .noRoom else .ok { r with place := .outside, isFilled := true }

/-- Reads a size or what comes after it. -/
def readSize (medium : Medium) (c : Char) (r : Reader) : Except Error Reader :=
  if isSize c then .ok { r with place := .size } else r.close medium c

/-- Reads a point or what comes after the precision. -/
def readPoint (medium : Medium) (c : Char) (r : Reader) : Except Error Reader :=
  if c = '.' then .ok { r with place := .point } else r.readSize medium c

/-- Reads a digit of the width or what comes after it. -/
def readWidth (medium : Medium) (c : Char) (r : Reader) : Except Error Reader :=
  if c.isDigit then
    let width := withDigit r.width c
    if widthLimit < width then .error .wideWidth else .ok { r with place := .width, width }
  else r.readPoint medium c

/-- Reads a digit of the precision or what comes after it. -/
def readPrecision (medium : Medium) (c : Char) (r : Reader) : Except Error Reader :=
  if c.isDigit then
    let precision := withDigit r.precision c
    if precisionLimit < precision then .error (.widePrecision medium)
    else .ok { r with place := .precision, precision }
  else r.readSize medium c

/-- A star asks for the number itself. -/
def star (e : Error) (r : Reader) : Except Error Reader :=
  .error (if r.isFilled then .wantsAnother else e)

/-- Reads a flag or what comes after the flags. -/
def readFlag (medium : Medium) (c : Char) (r : Reader) : Except Error Reader :=
  if isFlag medium c then .ok { r with place := .flags }
  else if c = '*' then r.star .numberAsWidth
  else r.readWidth medium c

/-- Reads a sign at the place where one is. -/
def read (medium : Medium) (c : Char) (r : Reader) : Except Error Reader :=
  match r.place with
  | .outside => .ok (if c = mark then { r with place := .opened, width := 0, precision := 0 } else r)
  | .opened =>
    if c = mark then .ok { r with place := .outside }
    else if c = '(' then .error .wantsEntry
    else r.readFlag medium c
  | .flags => r.readFlag medium c
  | .width => r.readWidth medium c
  | .point => if c = '*' then r.star .numberAsPrecision else r.readPrecision medium c
  | .precision => r.readPrecision medium c
  | .size => r.close medium c

/-- Reads a sign and goes on to the next. -/
def step (medium : Medium) (r : Reader) (c : Char) : Except Error Reader :=
  (r.read medium c).map fun r => { r with index := r.index + 1 }

end Reader

/-- Puts a number into a form. -/
def fill (medium : Medium) (form : List Char) : Except Error Unit := do
  let r ← form.foldlM (Reader.step medium) {}
  if r.place ≠ .outside then .error .unfinished
  else if r.isFilled then .ok ()
  else .error (.leftOver medium)

/-! ## Forms without gaps -/

/-- Between the gaps nothing but the mark matters. -/
theorem Reader.step_of_outside {medium : Medium} {r : Reader} {c : Char}
    (hr : r.place = .outside) (hc : c ≠ mark) :
    r.step medium c = .ok { r with index := r.index + 1 } := by
  simp [Reader.step, Reader.read, hr, hc, Except.map]

theorem Reader.foldlM_step_of_notMem {medium : Medium} {form : List Char} (h : mark ∉ form) :
    ∀ r : Reader, r.place = .outside →
      form.foldlM (Reader.step medium) r = .ok { r with index := r.index + form.length } := by
  induction form with
  | nil => intro r _; rfl
  | cons c form ih =>
    intro r hr
    rw [List.mem_cons, not_or] at h
    rw [List.foldlM_cons, Reader.step_of_outside hr (Ne.symm h.1)]
    refine (ih h.2 { r with index := r.index + 1 } hr).trans ?_
    simp [Nat.add_comm, Nat.add_left_comm]

/-- **A form without a mark has no place for the number.** -/
theorem fill_of_notMem {medium : Medium} {form : List Char} (h : mark ∉ form) :
    fill medium form = .error (.leftOver medium) := by
  unfold fill
  rw [Reader.foldlM_step_of_notMem h _ rfl]
  rfl

end Form
end Outbox
