import Outbox.Address.Spelling
import Outbox.Fault.Basic

/-!
# Accounts in a nonce query

A query for a pending nonce takes an account more freely than a request does.  The value
is first turned into a hexadecimal text --- a text is put into lower case and gets its
`0x`, a number or a row of bytes is written in hexadecimal --- and the account is that
text, if it has forty digits.  No checksum is looked at and the account of all zeros may
be asked about.

For every spelling that a request accepts, a query finds the same account
(`coerce_of_accept`), so the two never speak of different accounts.
-/

namespace Outbox

/-- Why a value names no account in a nonce query. -/
inductive AccountError where
  /-- A text that is not hexadecimal. -/
  | notHex (given : String)
  /-- There is nothing to make a text of. -/
  | absent
  /-- A hexadecimal text without forty digits. -/
  | wrongLength (given : Value) (hex : String)
  /-- A value that has no hexadecimal text. -/
  | unsupported (typeName : String)

/-- The complaint about an account, if it can be written. -/
def AccountError.message : AccountError → Except Fault String
  | .notHex given =>
    .ok ("when sending a str, it must be a hex string. Got: " ++
      String.ofList (Text.quoted given.toList))
  | .absent =>
    .ok "Exactly one of the passed values can be specified. Instead, values were: (None,), \x7b\x7d"
  | .wrongLength given hex => do
    let given ← given.quoted
    return "Unknown format " ++ given ++ ", attempted to normalize to " ++
      String.ofList (Text.quoted hex.toList)
  | .unsupported typeName =>
    .ok s!"Unsupported type: '<class '{typeName}'>'. Must be one of: bool, str, bytes, bytearray or int."

namespace Address

open Text

/-- The name of a value's type with the module that defines it. -/
def qualifiedTypeName : Value → String
  | .sent .. => "txdispatch.services.web3_sender.SentTransaction"
  | v => v.typeName

/-- A number in hexadecimal, with `0x` after its sign. -/
def intHex (i : Int) : List Char :=
  (if i < 0 then ['-'] else []) ++ '0' :: 'x' :: plainHex i.natAbs

/-- The hexadecimal text of a value. -/
def hexOf : Value → Except AccountError (List Char)
  | .text given =>
    if (unprefixed given.toList).all fun c => (nibble? c).isSome then
      .ok ('0' :: 'x' :: (unprefixed given.toList).map Char.toLower)
    else .error (.notHex given)
  | .bool b => .ok (intHex (if b then 1 else 0))
  | .int i => .ok (intHex i)
  | .bytes bs => .ok ('0' :: 'x' :: bytesHex bs)
  | .null => .error .absent
  | v => .error (.unsupported (qualifiedTypeName v))

/-- The account that a value names in a nonce query. -/
def coerce (v : Value) : Except AccountError Address :=
  match hexOf v with
  | .error e => .error e
  | .ok hex =>
    match spelled? hex with
    | some a => .ok a
    | none => .error (.wrongLength v (String.ofList hex))

theorem nibble?_toLower (c : Char) {n : Nibble} (h : nibble? c = some n) :
    nibble? c.toLower = some n := by
  rcases eq_digit_of_nibble? h with rfl | rfl
  · revert n; decide
  · revert n; decide

theorem nibbles?_map_toLower {cs : List Char} {ns : List Nibble} (h : nibbles? cs = some ns) :
    nibbles? (cs.map Char.toLower) = some ns := by
  induction cs generalizing ns with
  | nil => exact h
  | cons c cs ih =>
    unfold nibbles? at h
    split at h
    · rename_i n ms hn hms
      cases h
      rw [List.map_cons, nibbles?, nibble?_toLower c hn, ih hms]
    · exact absurd h (by simp)

theorem all_of_nibbles? {cs : List Char} {ns : List Nibble} (h : nibbles? cs = some ns) :
    (cs.all fun c => (nibble? c).isSome) = true := by
  induction cs generalizing ns with
  | nil => rfl
  | cons c cs ih =>
    unfold nibbles? at h
    split at h
    · rename_i n ms hn hms
      simp [hn, ih hms]
    · exact absurd h (by simp)

/-- A text that spells an account names that account in a query. -/
theorem coerce_of_spelled? {given : String} {a : Address} (h : spelled? given.toList = some a) :
    coerce (.text given) = .ok a := by
  unfold spelled? ofDigits? at h
  obtain ⟨ns, hns, ha⟩ := Option.bind_eq_some_iff.mp h
  have hlower := nibbles?_map_toLower hns
  have hread : spelled? ('0' :: 'x' :: (unprefixed given.toList).map Char.toLower) = some a := by
    show ofDigits? ((unprefixed given.toList).map Char.toLower) = some a
    simp [ofDigits?, hlower, ha]
  simp only [coerce, hexOf, all_of_nibbles? hns, if_true, hread]

/-- **A query asks about the account that a request has accepted.** -/
theorem coerce_of_accept {v : Value} {a : Address} (h : accept v = .ok a) : coerce v = .ok a := by
  unfold accept at h
  split at h
  · rename_i given
    split at h
    · exact absurd h (by simp)
    split at h
    · exact absurd h (by simp)
    rename_i b hb
    split at h
    · exact absurd h (by simp)
    split at h
    · exact absurd h (by simp)
    cases h
    exact coerce_of_spelled? hb
  · exact absurd h (by simp)

end Address
end Outbox
