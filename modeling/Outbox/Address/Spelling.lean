import Outbox.Address.Basic
import Outbox.Value.Text

/-!
# Spellings of an account

An account arrives as a value, and in many spellings.  This module says which are
accepted as the sender of a transaction, and which of two complaints a refused one gets.

## What a sender may look like

A sender is a text of forty hexadecimal digits with or without `0x` in front, in lower
or upper case or, if letters of both cases occur, exactly in the checksummed text.  The
mixed case is a promise: whoever writes it claims to have computed the checksum, so a
wrong letter is a wrong digit.  The account of all zeros is nobody's, and a transaction
from it is one whose sender was forgotten; it is refused like a missing sender, and
after the complaints about the form.

## Why acceptance is stable

The checksummed text of an account other than zero is itself accepted, and as that
account (`accept_text`).  The library relies on it: what it has accepted it passes on by
its text, and the next reader accepts that again.
-/

namespace Outbox

/-- Why a value is not accepted as a sender. -/
inductive SenderError where
  /-- There is no sender, or it is nobody. -/
  | missing
  /-- The text is no address. -/
  | malformed (given : String)
  /-- The letters are of both cases and not as the checksum says. -/
  | badChecksum (given : String)
  deriving DecidableEq

/-- The complaint about a sender. -/
def SenderError.message : SenderError → String
  | .missing => "sender address must be specified"
  | .malformed given =>
    "sender address " ++ String.ofList (Text.quoted given.toList) ++ " is not a valid address"
  | .badChecksum given =>
    "sender address " ++ String.ofList (Text.quoted given.toList) ++ " has an invalid checksum"

namespace Address

open Text

/-- What follows the `0x` of a text, or the whole text if it has none. -/
def unprefixed : List Char → List Char
  | '0' :: 'x' :: cs => cs
  | '0' :: 'X' :: cs => cs
  | cs => cs

/-- The account that a text spells, whatever the case of its letters. -/
def spelled? (cs : List Char) : Option Address := ofDigits? (unprefixed cs)

/-- Letters of both cases occur. -/
def hasBothCases (cs : List Char) : Bool := cs.any Char.isUpper && cs.any Char.isLower

/-- The account that a value names as the sender of a transaction. -/
def accept : Value → Except SenderError Address
  | .text given =>
    if given = "" then .error .missing
    else
      match spelled? given.toList with
      | none => .error (.malformed given)
      | some a =>
        if hasBothCases (unprefixed given.toList) && given != a.text then
          .error (.badChecksum given)
        else if a = zero then .error .missing
        else .ok a
  | _ => .error .missing

@[simp] theorem unprefixed_chars (a : Address) : unprefixed a.chars = a.checksumDigits := rfl

@[simp] theorem spelled?_chars (a : Address) : spelled? a.chars = some a := by
  simp [spelled?]

theorem text_ne_empty (a : Address) : a.text ≠ "" := by
  intro h
  have := congrArg String.toList h
  simp [text, chars] at this

/-- **The text of an account is accepted as that account.** -/
theorem accept_text {a : Address} (ha : a ≠ zero) : accept (.text a.text) = .ok a := by
  have hspelled : spelled? a.text.toList = some a := by simp [text]
  simp [accept, text_ne_empty, hspelled, ha]

/-- An accepted sender is not the account of all zeros. -/
theorem ne_zero_of_accept {v : Value} {a : Address} (h : accept v = .ok a) : a ≠ zero := by
  unfold accept at h
  split at h
  · split at h
    · exact absurd h (by simp)
    split at h
    · exact absurd h (by simp)
    split at h
    · exact absurd h (by simp)
    split at h
    · exact absurd h (by simp)
    · rename_i hne
      cases h
      exact hne
  · exact absurd h (by simp)

/-- What has been accepted is accepted again. -/
theorem accept_text_of_accept {v : Value} {a : Address} (h : accept v = .ok a) :
    accept (.text a.text) = .ok a :=
  accept_text (ne_zero_of_accept h)

end Address
end Outbox
