import Outbox.Keccak

/-!
# Accounts

An account is named by an address of twenty bytes, that is forty nibbles.  People write
it with hexadecimal digits in many ways; the library keeps the nibbles and writes one of
those ways itself, the checksummed one.  So two spellings of one account become one
address as soon as they are read, and everything that is kept per account --- nonces,
pending transactions, signers --- is kept under the address or its one text.

## The checksum

In the checksummed text the digits that are letters are capital or not according to the
digest of the lower-case digits: a letter is capital when the nibble of the digest at its
place is at least eight.  Of the digest nothing more is used than that it is a fixed
function of the lower-case digits, which is why reading a checksummed text gives back the
address it was made from (`nibbles?_checksumDigits`).
-/

namespace Outbox

/-- An account: twenty bytes, as forty nibbles. -/
structure Address where
  nibbles : List Text.Nibble
  length_nibbles : nibbles.length = 40
  deriving DecidableEq

namespace Address

open Text

theorem ext_nibbles {a b : Address} (h : a.nibbles = b.nibbles) : a = b := by
  cases a; cases b; simp_all

/-- The account with the given nibbles, if there are forty. -/
def ofNibbles? (ns : List Nibble) : Option Address :=
  if h : ns.length = 40 then some ⟨ns, h⟩ else none

/-- The account whose nibbles are all nought. -/
def zero : Address := ⟨List.replicate 40 (.ofNat 0), by simp⟩

/-- The account whose nibbles are all the same. -/
def uniform (n : Nibble) : Address := ⟨List.replicate 40 n, List.length_replicate⟩

/-- The digits of an account, letters in lower case. -/
def lowerDigits (a : Address) : List Char := a.nibbles.map Nibble.lowerDigit

/-- The digest that decides which letters are capital. -/
def digestNibbles (digits : List Char) : List Nibble :=
  Keccak.nibbles (digits.map fun c => c.toNat.toUInt8)

/-- A digit under its nibble of the digest: a letter is capital when that is at least
eight. -/
def checksumDigit (n : Nibble) (digest : Nibble) : Char :=
  if n.val < 10 then n.lowerDigit
  else if 8 ≤ digest.val then n.upperDigit
  else n.lowerDigit

/-- The digits of an account, letters capital as the checksum says. -/
def checksumDigits (a : Address) : List Char :=
  let digest := digestNibbles a.lowerDigits
  a.nibbles.mapIdx fun i n => checksumDigit n (digest.getD i (.ofNat 0))

/-- The text of an account. -/
def chars (a : Address) : List Char := '0' :: 'x' :: a.checksumDigits

/-- The text of an account. -/
def text (a : Address) : String := String.ofList a.chars

instance : ToString Address := ⟨text⟩

/-! ## Reading digits -/

/-- The nibbles of a text of digits. -/
def nibbles? : List Char → Option (List Nibble)
  | [] => some []
  | c :: cs =>
    match nibble? c, nibbles? cs with
    | some n, some ns => some (n :: ns)
    | _, _ => none

/-- The account with the given digits. -/
def ofDigits? (cs : List Char) : Option Address := (nibbles? cs).bind ofNibbles?

theorem nibble?_checksumDigit (n digest : Nibble) : nibble? (checksumDigit n digest) = some n := by
  unfold checksumDigit
  split
  · simp
  split <;> simp

theorem length_of_nibbles? {cs : List Char} {ns : List Nibble} (h : nibbles? cs = some ns) :
    ns.length = cs.length := by
  induction cs generalizing ns with
  | nil => cases h; rfl
  | cons c cs ih =>
    unfold nibbles? at h
    split at h
    · rename_i n ms hn hms
      cases h
      simp [ih hms]
    · exact absurd h (by simp)

/-- A text made digit by digit from nibbles is read as those nibbles. -/
theorem nibbles?_mapIdx (f : Nat → Nibble → Char) (hf : ∀ i n, nibble? (f i n) = some n)
    (ns : List Nibble) : nibbles? (ns.mapIdx f) = some ns := by
  induction ns generalizing f with
  | nil => rfl
  | cons n ns ih =>
    rw [List.mapIdx_cons, nibbles?, hf, ih (fun i => f (i + 1)) fun i => hf (i + 1)]

theorem nibbles?_checksumDigits (a : Address) : nibbles? a.checksumDigits = some a.nibbles :=
  nibbles?_mapIdx _ (fun _ n => nibble?_checksumDigit n _) a.nibbles

theorem nibbles?_map_lowerDigit (ns : List Nibble) :
    nibbles? (ns.map Nibble.lowerDigit) = some ns := by
  induction ns with
  | nil => rfl
  | cons n ns ih => rw [List.map_cons, nibbles?, nibble?_lowerDigit, ih]

theorem nibbles?_lowerDigits (a : Address) : nibbles? a.lowerDigits = some a.nibbles :=
  nibbles?_map_lowerDigit a.nibbles

@[simp] theorem ofNibbles?_nibbles (a : Address) : ofNibbles? a.nibbles = some a := by
  simp [ofNibbles?, a.length_nibbles]

@[simp] theorem ofDigits?_checksumDigits (a : Address) : ofDigits? a.checksumDigits = some a := by
  simp [ofDigits?, nibbles?_checksumDigits]

@[simp] theorem ofDigits?_lowerDigits (a : Address) : ofDigits? a.lowerDigits = some a := by
  simp [ofDigits?, nibbles?_lowerDigits]

@[simp] theorem length_checksumDigits (a : Address) : a.checksumDigits.length = 40 := by
  simp [checksumDigits, a.length_nibbles]

/-- **An account has one text, and the text names one account.** -/
theorem text_injective {a b : Address} (h : a.text = b.text) : a = b := by
  have hchars : a.chars = b.chars := String.ofList_injective h
  have hdigits : a.checksumDigits = b.checksumDigits := by
    simpa [chars] using hchars
  have hread := nibbles?_checksumDigits a
  rw [hdigits, nibbles?_checksumDigits b] at hread
  exact ext_nibbles (Option.some.inj hread).symm

end Address
end Outbox
