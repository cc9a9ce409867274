import Outbox.Number.Literal
import Outbox.Number.Shortest
import Outbox.Text.Quoted
import Outbox.Value.Basic

/-!
# The text of a value

Messages and log lines show values.  A value has two texts: the one that a reader of the
source would write for it (`quotedChars`), and the one that a message uses for the value
as a whole (`chars`).  They differ for a text alone, which a message shows without its
quotes.  Inside a list or a dictionary every text has its quotes.

A value has neither of them if there is a whole number in it that has too many digits
(`isWritable`), however deep it lies.  `chars` and `quotedChars` are what would be written
otherwise; whoever writes a message asks first whether it can be written.
-/

namespace Outbox
namespace Value

/-- Items between separators: a comma and a space. -/
def separated : List (List Char) → List Char
  | [] => []
  | [item] => item
  | item :: items => item ++ ',' :: ' ' :: separated items

/-- A whole number in decimal. -/
def intChars (i : Int) : List Char := (toString i).toList

mutual

/-- A value as it would be written. -/
def quotedChars : Value → List Char
  | .null => "None".toList
  | .bool b => if b then "True".toList else "False".toList
  | .int i => intChars i
  | .real x => x.chars
  | .text s => Text.quoted s.toList
  | .bytes bs => Text.quotedBytes bs
  | .list vs => '[' :: separated (quotedItems vs) ++ [']']
  | .dict entries => '\x7b' :: separated (quotedEntries entries) ++ ['\x7d']
  | .sent hash nonce sender chain gasPrice raw =>
    "SentTransaction(hash=".toList ++ hash.quotedChars ++ ", nonce=".toList ++ nonce.quotedChars ++
      ", sender=".toList ++ sender.quotedChars ++ ", chain_id=".toList ++ chain.quotedChars ++
      ", gas_price=".toList ++ gasPrice.quotedChars ++ ", raw=".toList ++ raw.quotedChars ++ [')']

/-- The items of a list as they would be written. -/
def quotedItems : List Value → List (List Char)
  | [] => []
  | v :: vs => v.quotedChars :: quotedItems vs

/-- The entries of a dictionary as they would be written. -/
def quotedEntries : List (String × Value) → List (List Char)
  | [] => []
  | (key, v) :: entries =>
    (Text.quoted key.toList ++ ':' :: ' ' :: v.quotedChars) :: quotedEntries entries

end

/-- A value in a message. -/
def chars : Value → List Char
  | .text s => s.toList
  | v => v.quotedChars

/-- Several values together, between round brackets. -/
def tupleChars (vs : List Value) : List Char :=
  match vs with
  | [v] => '(' :: v.quotedChars ++ [',', ')']
  | vs => '(' :: separated (quotedItems vs) ++ [')']

mutual

/-- Every whole number in a value has few enough digits to be written. -/
def isWritable : Value → Bool
  | .int i => Literal.isWritable i
  | .list vs => areWritable vs
  | .dict entries => areEntriesWritable entries
  | .sent hash nonce sender chain gasPrice raw =>
    hash.isWritable && nonce.isWritable && sender.isWritable && chain.isWritable &&
      gasPrice.isWritable && raw.isWritable
  | _ => true

/-- All of the values can be written. -/
def areWritable : List Value → Bool
  | [] => true
  | v :: vs => v.isWritable && areWritable vs

/-- All that is kept in a dictionary can be written. -/
def areEntriesWritable : List (String × Value) → Bool
  | [] => true
  | (_, v) :: entries => v.isWritable && areEntriesWritable entries

end

@[simp] theorem isWritable_text (s : String) : isWritable (.text s) = true := by
  simp [isWritable]

@[simp] theorem isWritable_int (i : Int) : isWritable (.int i) = Literal.isWritable i := by
  simp [isWritable]

@[simp] theorem areWritable_eq_all (vs : List Value) : areWritable vs = vs.all isWritable := by
  induction vs with
  | nil => simp [areWritable]
  | cons v vs ih => simp [areWritable, ih]

@[simp] theorem areEntriesWritable_eq_all (entries : List (String × Value)) :
    areEntriesWritable entries = entries.all fun e => e.2.isWritable := by
  induction entries with
  | nil => simp [areEntriesWritable]
  | cons e entries ih => simp [areEntriesWritable, ih]

@[simp] theorem chars_text (s : String) : chars (.text s) = s.toList := rfl

@[simp] theorem quotedItems_eq_map (vs : List Value) : quotedItems vs = vs.map quotedChars := by
  induction vs with
  | nil => rfl
  | cons v vs ih => simp [quotedItems, ih]

end Value
end Outbox
