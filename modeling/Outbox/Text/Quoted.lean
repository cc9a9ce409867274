import Outbox.Text.Hex
import Outbox.Text.Printable

/-!
# Quoted text

A message that complains about a text shows it in quotes, so that its ends, its
blanks and its unprintable characters can be seen.  The quotes are single ones,
unless the text has a single quote and no double one, when double quotes save the
escape.  Inside, the backslash and the quote in use are escaped, the three common
line characters have a letter each, every other character without a printed form is
given by its code in the shortest of three widths, and the rest stand for themselves.

Bytes are quoted by the same rule with a `b` in front.  A byte is no character, so
all bytes outside printable ASCII are given by their code.
-/

namespace Outbox
namespace Text

/-- The single quotation mark. -/
def singleQuote : Char := '\x27'

/-- The double quotation mark. -/
def doubleQuote : Char := '\x22'

/-- The marks to put around a text. -/
def quotationMark (cs : List Char) : Char :=
  if cs.contains singleQuote && !cs.contains doubleQuote then doubleQuote else singleQuote

/-- The escapes that are the same for characters and bytes: the backslash, the mark in
use, and the three common line characters. -/
def commonEscape? (mark c : Char) : Option (List Char) :=
  if c = mark || c = '\\' then some ['\\', c]
  else if c = '\n' then some ['\\', 'n']
  else if c = '\r' then some ['\\', 'r']
  else if c = '\t' then some ['\\', 't']
  else none

/-- The code of a character in the shortest of the three widths. -/
def codeEscape (code : Nat) : List Char :=
  if code < 0x100 then '\\' :: 'x' :: fixedHex 2 code
  else if code < 0x10000 then '\\' :: 'u' :: fixedHex 4 code
  else '\\' :: 'U' :: fixedHex 8 code

/-- One character between the marks. -/
def escapeChar (mark c : Char) : List Char :=
  match commonEscape? mark c with
  | some cs => cs
  | none => if isPrintable c then [c] else codeEscape c.toNat

/-- A text between marks. -/
def quoted (cs : List Char) : List Char :=
  let mark := quotationMark cs
  mark :: cs.flatMap (escapeChar mark) ++ [mark]

/-- One byte between the marks. -/
def escapeByte (mark : Char) (byte : UInt8) : List Char :=
  match commonEscape? mark (Char.ofNat byte.toNat) with
  | some cs => cs
  | none =>
    if 0x20 ≤ byte.toNat && byte.toNat < 0x7f then [Char.ofNat byte.toNat]
    else '\\' :: 'x' :: fixedHex 2 byte.toNat

/-- Bytes between marks. -/
def quotedBytes (bytes : List UInt8) : List Char :=
  let mark := quotationMark (bytes.map fun byte => Char.ofNat byte.toNat)
  'b' :: mark :: bytes.flatMap (escapeByte mark) ++ [mark]

theorem quotationMark_eq (cs : List Char) :
    quotationMark cs = singleQuote ∨ quotationMark cs = doubleQuote := by
  unfold quotationMark
  split
  · exact Or.inr rfl
  · exact Or.inl rfl

/-- A plain text is quoted by putting single marks around it. -/
theorem quoted_of_plain {cs : List Char} (hplain : ∀ c ∈ cs, isPrintable c = true)
    (hmark : singleQuote ∉ cs) (hslash : '\\' ∉ cs) :
    quoted cs = singleQuote :: cs ++ [singleQuote] := by
  have hq : quotationMark cs = singleQuote := by simp [quotationMark, hmark]
  have hline : ∀ c ∈ cs, escapeChar singleQuote c = [c] := by
    intro c hc
    have h1 : c ≠ singleQuote := fun h => hmark (h ▸ hc)
    have h2 : c ≠ '\\' := fun h => hslash (h ▸ hc)
    have h3 : isPrintable c = true := hplain c hc
    have h4 : c ≠ '\n' := by rintro rfl; exact absurd h3 (by decide)
    have h5 : c ≠ '\r' := by rintro rfl; exact absurd h3 (by decide)
    have h6 : c ≠ '\t' := by rintro rfl; exact absurd h3 (by decide)
    simp [escapeChar, commonEscape?, h1, h2, h3, h4, h5, h6]
  simp only [quoted, hq]
  congr 1
  congr 1
  clear hmark hslash hplain hq
  induction cs with
  | nil => rfl
  | cons c cs ih =>
    rw [List.flatMap_cons, hline c (by simp), ih fun d hd => hline d (List.mem_cons_of_mem c hd)]
    rfl

end Text
end Outbox
