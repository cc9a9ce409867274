import Outbox.Fault.Basic

/-!
# Terms of escalation

A transaction that stays pending is sent again at a higher price.  The terms say by what
factor the price rises, what it may reach, how long to wait before it rises, and how
often to look whether the transaction has been mined.  The library does not escalate
itself; it checks the terms before anything is sent and hands them on with the
transaction.

## Two rounds of checks

The four fields come from outside and may hold anything.  First every field has to be a
number with a value, in the order of the fields; a truth value is no number here.  Only
then are the numbers compared with their bounds, again in order.  So a field of the
wrong form is reported before a field that is merely too small, wherever the two stand.
-/

namespace Outbox

/-- The terms under which the price of a pending transaction is raised. -/
structure Terms where
  priceMultiplier : Value
  maxPrice : Value
  increaseInterval : Value
  checkInterval : Value

/-- The fields of the terms. -/
inductive TermsField where
  | priceMultiplier
  | maxPrice
  | increaseInterval
  | checkInterval
  deriving DecidableEq, Repr

namespace TermsField

/-- The fields in order. -/
def all : List TermsField := [.priceMultiplier, .maxPrice, .increaseInterval, .checkInterval]

theorem mem_all (field : TermsField) : field ∈ all := by cases field <;> decide

/-- The name of a field in a message. -/
def label : TermsField → String
  | .priceMultiplier => "price multiplier"
  | .maxPrice => "max price"
  | .increaseInterval => "increase interval"
  | .checkInterval => "check interval"

/-- The number that a field has to exceed. -/
def bound : TermsField → Int
  | .priceMultiplier => 1
  | _ => 0

end TermsField

/-- Why terms are not accepted. -/
inductive TermsError where
  | notNumber (field : TermsField) (given : Value)
  | notFinite (field : TermsField) (given : Value)
  | tooSmall (field : TermsField)

/-- The complaint about terms, if it can be written. -/
def TermsError.message : TermsError → Except Fault String
  | .notNumber field given => do
    let given ← given.quoted
    return s!"{field.label} must be a number, got {given}"
  | .notFinite field given => do
    let given ← given.quoted
    return s!"{field.label} must be finite, got {given}"
  | .tooSmall field => .ok s!"{field.label} must be greater than {field.bound}"

/-- A complaint that cannot be written would show a number of too many digits. -/
theorem TermsError.message_cases (e : TermsError) :
    (∃ text, e.message = .ok text) ∨ e.message = .error .tooManyDigits := by
  cases e with
  | notNumber field given | notFinite field given =>
    simp only [message, Value.quoted_bind]
    split
    · exact .inl ⟨_, rfl⟩
    · exact .inr rfl
  | tooSmall field => exact .inl ⟨_, rfl⟩

namespace Terms

/-- What a field holds. -/
def get (terms : Terms) : TermsField → Value
  | .priceMultiplier => terms.priceMultiplier
  | .maxPrice => terms.maxPrice
  | .increaseInterval => terms.increaseInterval
  | .checkInterval => terms.checkInterval

/-- What is wrong with the form of a field. -/
def formError? (terms : Terms) (field : TermsField) : Option TermsError :=
  match (terms.get field).properNumeral? with
  | none => some (.notNumber field (terms.get field))
  | some n => if n.isFinite then none else some (.notFinite field (terms.get field))

/-- What is wrong with the size of a field that holds a number. -/
def sizeError? (terms : Terms) (field : TermsField) : Option TermsError :=
  match (terms.get field).properNumeral? with
  | none => none
  | some n => if n.le (.whole field.bound) then some (.tooSmall field) else none

/-- The first thing that is wrong with the terms. -/
def error? (terms : Terms) : Option TermsError :=
  match TermsField.all.findSome? terms.formError? with
  | some e => some e
  | none => TermsField.all.findSome? terms.sizeError?

/-- The terms are accepted. -/
def check (terms : Terms) : Except TermsError Unit :=
  match terms.error? with
  | some e => .error e
  | none => .ok ()

end Terms
end Outbox
