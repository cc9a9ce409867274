import Outbox.Fault.Basic

/-!
# Keys

Something can be kept under a value only if the value cannot be changed afterwards, for a
value that changed could never be found again.  A `Key` is such a value, and whoever wants to
look something up under a value from outside makes a key of it first, which may fail.

Two keys are the same when they are one and the same thing or equal as values.  So the number
one, the fraction one and the truth value are one key, and a text is the
same key as that text alone (`same_ofText`), which is the case that matters: accounts are kept
under their texts.  Entries are kept in the order in which their keys were first used.
-/

namespace Outbox

/-- A value that something can be kept under. -/
structure Key where
  value : Value
  unchangeable : value.changeable? = none

namespace Key

/-- A text as a key. -/
def ofText (s : String) : Key := ⟨.text s, rfl⟩

/-- A value as a key, unless it can be changed. -/
def ofValue (v : Value) : Except Fault Key :=
  match h : v.changeable? with
  | none => .ok ⟨v, h⟩
  | some typeName => .error (.badType s!"unhashable type: '{typeName}'")

/-- The two keys are the same. -/
def same (k l : Key) : Bool := k.value.matching l.value

/-- A key in a message, if it can be written. -/
def message (k : Key) : Except Fault String := k.value.message

/-- The name of a field that is kept under a key. -/
def fieldName (k : Key) : String :=
  match k.value with
  | .null => "null"
  | .bool b => if b then "true" else "false"
  | .real (.nan ..) => "NaN"
  | .real (.infinite negative) => if negative then "-Infinity" else "Infinity"
  | v => String.ofList v.chars

@[simp] theorem value_ofText (s : String) : (ofText s).value = .text s := rfl

@[simp] theorem message_ofText (s : String) : (ofText s).message = .ok s := by
  simp [message]

@[simp] theorem fieldName_ofText (s : String) : (ofText s).fieldName = s := by
  simp [fieldName]

theorem ext_value {k l : Key} (h : k.value = l.value) : k = l := by
  cases k; cases l; simp_all

/-- **Nothing but the text itself is the same key as a text.** -/
theorem same_ofText (k : Key) (s : String) : k.same (ofText s) = true ↔ k = ofText s := by
  rw [same, value_ofText, Value.matching_text_iff]
  constructor
  · intro h
    exact ext_value h
  · intro h
    rw [h]
    rfl

/-- A text is the same key as itself alone. -/
theorem ofText_same (k : Key) (s : String) : (ofText s).same k = true ↔ k = ofText s := by
  rw [same, value_ofText, Value.text_matching_iff]
  constructor
  · intro h
    exact ext_value h
  · intro h
    rw [h]
    rfl

/-- Different texts are different keys. -/
theorem ofText_injective {s t : String} (h : ofText s = ofText t) : s = t :=
  Value.text.inj (congrArg value h)

/-! ## What is kept under keys -/

variable {α : Type}

/-- What is kept under a key. -/
def find? (key : Key) : List (Key × α) → Option α
  | [] => none
  | (k, a) :: entries => if k.same key then some a else find? key entries

/-- The entries with something put under a key: where the key has an entry, in its place, and
otherwise at the end. -/
def put (key : Key) (a : α) : List (Key × α) → List (Key × α)
  | [] => [(key, a)]
  | (k, b) :: entries => if k.same key then (k, a) :: entries else (k, b) :: put key a entries

/-- **Putting something under a text changes what is kept under that text and under no other key.** -/
theorem find?_put (s : String) (key : Key) (a : α) (entries : List (Key × α)) :
    find? key (put (ofText s) a entries) =
      if (ofText s).same key then some a else find? key entries := by
  induction entries with
  | nil => rfl
  | cons entry entries ih =>
    obtain ⟨k, b⟩ := entry
    unfold put
    by_cases hk : k.same (ofText s) = true
    · rw [if_pos hk]
      obtain rfl := (same_ofText k s).mp hk
      simp only [find?]
      split <;> rfl
    · rw [if_neg hk]
      simp only [find?, ih]
      by_cases hkey : (ofText s).same key = true
      · -- two entries under one key would be two under the text
        obtain rfl := (ofText_same key s).mp hkey
        rw [if_neg hk, if_pos hkey, if_pos hkey]
      · rw [if_neg hkey, if_neg hkey]

/-- Under another text there is what was there before. -/
theorem find?_put_ofText (s t : String) (a : α) (entries : List (Key × α)) :
    find? (ofText t) (put (ofText s) a entries) =
      if t = s then some a else find? (ofText t) entries := by
  rw [find?_put]
  by_cases h : t = s
  · rw [if_pos h, if_pos ((ofText_same _ s).mpr (congrArg ofText h))]
  · rw [if_neg h, if_neg]
    intro hsame
    exact h (ofText_injective ((ofText_same _ s).mp hsame))

/-- A text is always a key. -/
@[simp] theorem ofValue_text (s : String) : ofValue (.text s) = .ok (ofText s) := rfl

end Key
end Outbox
