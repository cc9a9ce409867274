import Outbox.Number.Binary64

/-!
# Values of callers and nodes

A transaction, the fields of a node's complaint, a field of the escalation terms: all
of these come from outside, and nothing is known about them before they have been
looked at.  `Value` is the type of what may come.  It is the one dynamic type of the
library, and it stands only at its edge --- what has been checked is an `Address`, a
number, a nonce.

## Equality is not identity of data

Whether a mined transaction is the one that was registered is a question of equality
of hashes, and equality of values is coarser than equality of data in one way and finer
in another.  It is coarser because numbers are compared by value: a truth value counts as
nought or one, and a fraction may equal a whole number.  It is finer because
not-a-number equals nothing, itself included.  Lists are compared place by place and
dictionaries key by key, in whatever order the keys stand.  So `same` is a relation of
its own, and it is not reflexive.

What stands in a list, in a dictionary or in a sent transaction is asked first whether it
is one and the same thing as its counterpart, and only then whether it is equal
(`matching`).  This makes a difference for not-a-number alone: as the item of a list it
goes with itself, so a list that holds it equals itself.
-/

namespace Outbox

/-- A value from outside. -/
inductive Value where
  | null
  | bool (b : Bool)
  | int (i : Int)
  | real (x : Binary64)
  | text (s : String)
  | bytes (bs : List UInt8)
  | list (vs : List Value)
  /-- A dictionary; its keys are distinct. -/
  | dict (entries : List (String × Value))
  /-- A transaction that has been sent. -/
  | sent (hash nonce sender chain gasPrice raw : Value)

namespace Value

instance : Inhabited Value := ⟨.null⟩

/-- The number that a value is, a truth value counting as nought or one. -/
def numeral? : Value → Option Numeral
  | .bool b => some (.whole (if b then 1 else 0))
  | .int i => some (.whole i)
  | .real x => some (.real x)
  | _ => none

/-- The number that a value is, a truth value being none. -/
def properNumeral? : Value → Option Numeral
  | .bool _ => none
  | v => v.numeral?

/-- A number as a value. -/
def ofNumeral : Numeral → Value
  | .whole i => .int i
  | .real x => .real x

@[simp] theorem properNumeral?_ofNumeral (n : Numeral) : (ofNumeral n).properNumeral? = some n := by
  cases n <;> rfl

/-- The whole number that a value is, a truth value counting as nought or one. -/
def wholeNumber? (v : Value) : Option Int :=
  match v.numeral? with
  | some (.whole i) => some i
  | _ => none

/-- A value that counts as true: one that is neither missing, nor zero, nor empty. -/
def truthy : Value → Bool
  | .null => false
  | .bool b => b
  | .int i => i != 0
  | .real x => !(Numeral.same (.real x) (.whole 0))
  | .text s => s != ""
  | .bytes bs => !bs.isEmpty
  | .list vs => !vs.isEmpty
  | .dict entries => !entries.isEmpty
  | .sent .. => true

/-- The name of a value's type. -/
def typeName : Value → String
  | .null => "NoneType"
  | .bool _ => "bool"
  | .int _ => "int"
  | .real _ => "float"
  | .text _ => "str"
  | .bytes _ => "bytes"
  | .list _ => "list"
  | .dict _ => "dict"
  | .sent .. => "SentTransaction"

/-- The type of the first part of a value that can be changed later: a list, a dictionary, or such
a part of a transaction that has been sent. -/
def changeable? : Value → Option String
  | .list _ => some "list"
  | .dict _ => some "dict"
  | .sent hash nonce sender chain gasPrice raw =>
    hash.changeable?.or (nonce.changeable?.or (sender.changeable?.or
      (chain.changeable?.or (gasPrice.changeable?.or raw.changeable?))))
  | _ => none

/-- What a value holds, one after another, if it is a row of things: the items of a list, the keys
of a dictionary, the characters of a text, the numbers of bytes. -/
def items? : Value → Option (List Value)
  | .list vs => some vs
  | .dict entries => some (entries.map fun e => .text e.1)
  | .text s => some (s.toList.map fun c => .text (String.singleton c))
  | .bytes bs => some (bs.map fun b => .int b.toNat)
  | _ => none

/-- Two values are one and the same not-a-number. -/
def isSameNan : Value → Value → Bool
  | .real (.nan object sums), .real (.nan object' sums') => object == object' && sums == sums'
  | _, _ => false

mutual

/-- Two values are equal. -/
def same : Value → Value → Bool
  | .null, .null => true
  | .text s, .text t => s == t
  | .bytes bs, .bytes cs => bs == cs
  | .list vs, .list ws => sameList vs ws
  | .dict es, .dict fs => es.length == fs.length && sameEntries es fs
  | .sent a b c d e f, .sent a' b' c' d' e' f' =>
    (a.isSameNan a' || a.same a') && (b.isSameNan b' || b.same b') &&
      (c.isSameNan c' || c.same c') && (d.isSameNan d' || d.same d') &&
      (e.isSameNan e' || e.same e') && (f.isSameNan f' || f.same f')
  | v, w =>
    match v.numeral?, w.numeral? with
    | some m, some n => m.same n
    | _, _ => false

/-- Two lists are equal place by place. -/
def sameList : List Value → List Value → Bool
  | [], [] => true
  | v :: vs, w :: ws => (v.isSameNan w || v.same w) && sameList vs ws
  | _, _ => false

/-- Every entry of the first dictionary is in the second. -/
def sameEntries : List (String × Value) → List (String × Value) → Bool
  | [], _ => true
  | (key, v) :: es, fs =>
    (match fs.lookup key with
      | some w => v.isSameNan w || v.same w
      | none => false) && sameEntries es fs

end

/-- Two values that stand in a list or under a key go together: they are one and the same thing,
or equal. -/
def matching (v w : Value) : Bool := v.isSameNan w || v.same w

/-- Whole numbers are equal when they are the same number. -/
@[simp] theorem same_int (a b : Int) : same (.int a) (.int b) = decide (a = b) := by
  simp only [same, numeral?, Numeral.same, Numeral.cmp?, Numeral.point?, LinePoint.cmp,
    Int.natCast_one, Int.mul_one]
  by_cases h : a = b
  · subst h; simp
  · have : compare a b ≠ .eq := fun hc => h (Int.compare_eq_eq.mp hc)
    simp [this, h]

@[simp] theorem same_text (s t : String) : same (.text s) (.text t) = (s == t) := by
  simp [same]

/-- Nothing but the text itself equals a text. -/
theorem same_text_iff (v : Value) (s : String) : v.same (.text s) = true ↔ v = .text s := by
  cases v <;> simp [same, numeral?]

/-- A text is equal to itself alone. -/
theorem text_same_iff (v : Value) (s : String) : same (.text s) v = true ↔ v = .text s := by
  cases v with
  | text t => rw [same_text, beq_iff_eq, text.injEq, eq_comm]
  | _ => simp [same, numeral?]

/-- Not-a-number equals nothing. -/
theorem same_nan (object sums : Nat) (v : Value) : same (.real (.nan object sums)) v = false := by
  cases v <;> simp [same, numeral?, Numeral.same, Numeral.cmp?_nan_left]

/-- As the item of a list not-a-number goes with itself. -/
theorem matching_nan (object sums : Nat) :
    matching (.real (.nan object sums)) (.real (.nan object sums)) = true := by
  simp [matching, isSameNan]

/-- Nothing but the text itself goes with a text. -/
theorem matching_text_iff (v : Value) (s : String) : v.matching (.text s) = true ↔ v = .text s := by
  rw [← same_text_iff]
  cases v <;> simp [matching, isSameNan]

/-- A text goes with itself alone. -/
theorem text_matching_iff (v : Value) (s : String) :
    matching (.text s) v = true ↔ v = .text s := by
  rw [← text_same_iff]
  simp [matching, isSameNan]

/-! ## Transactions -/

/-- The hash by which a transaction is known: a dictionary's entry, the hash of a
transaction that has been sent, and any other value itself. -/
def hash : Value → Value
  | .dict entries => (entries.lookup "hash").getD .null
  | .sent hash _ _ _ _ _ => hash
  | v => v

end Value
end Outbox
