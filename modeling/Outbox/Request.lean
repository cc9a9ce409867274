import Outbox.Address.Spelling
import Outbox.Terms

/-!
# Requests

Whoever wants a transaction to be sent hands over a request: who sends it, on what terms
its price may be raised, and whether to skip the question of room in the queue.  A
request is checked before anyone else hears of it, and what the check returns is the
account itself and the terms, so that nothing later has to look at the spelling again.

The sender is checked before the terms, and terms that are not terms at all before their
fields.  Every refusal is a fault of one kind, whose text is the complaint, unless the complaint
would show a value that cannot be written.
-/

namespace Outbox

/-- What a caller gives as terms, which may be something else. -/
inductive GivenTerms where
  | terms (terms : Terms)
  | other (v : Value)

/-- What a caller asks for. -/
structure Request where
  sender : Value
  terms : GivenTerms
  /-- Skips the question whether there is room and a signer. -/
  force : Value := .bool false

/-- Why a request is not accepted. -/
inductive RequestError where
  | sender (e : SenderError)
  | noTerms
  | terms (e : TermsError)

namespace RequestError

/-- The complaint about a request, if it can be written. -/
def message : RequestError → Except Fault String
  | .sender e => .ok e.message
  | .noTerms => .ok "gas price incrementor options must be specified"
  | .terms e => e.message

/-- The fault of a request that is not accepted. -/
def fault (e : RequestError) : Fault := .forming e.message (.own .invalidOptions)

/-- A complaint that cannot be written would show a number of too many digits. -/
theorem message_cases (e : RequestError) :
    (∃ text, e.message = .ok text) ∨ e.message = .error .tooManyDigits := by
  cases e with
  | sender e => exact .inl ⟨_, rfl⟩
  | noTerms => exact .inl ⟨_, rfl⟩
  | terms e => exact e.message_cases

theorem fault_of_message {e : RequestError} {text : String} (h : e.message = .ok text) :
    e.fault = .own .invalidOptions text := by
  rw [fault, h, Fault.forming_ok]

/-- **A request that is not accepted ends in a fault of one kind, or in the fault of writing the
complaint.** -/
theorem fault_cases (e : RequestError) :
    (∃ text, e.message = .ok text ∧ e.fault = .own .invalidOptions text) ∨
      e.message = .error .tooManyDigits ∧ e.fault = .tooManyDigits := by
  obtain ⟨text, h⟩ | h := e.message_cases
  · exact .inl ⟨text, h, fault_of_message h⟩
  · exact .inr ⟨h, by rw [fault, h, Fault.forming_error]⟩

@[simp] theorem isInterrupt_fault (e : RequestError) : e.fault.isInterrupt = false := by
  obtain ⟨text, -, h⟩ | ⟨-, h⟩ := e.fault_cases <;> rw [h] <;> rfl

/-- It is no fault of another kind of the library. -/
theorem kind_fault_ne (e : RequestError) {family : Family} (h : family ≠ .invalidOptions) :
    e.fault.kind ≠ .own family := by
  obtain ⟨text, -, hfault⟩ | ⟨-, hfault⟩ := e.fault_cases <;> rw [hfault]
  · exact fun hkind => h (FaultKind.own.inj hkind).symm
  · simp [Fault.tooManyDigits, Fault.badValue, Fault.foreign]

end RequestError

namespace Request

/-- The account and the terms of a request, if both are accepted. -/
def accept (request : Request) : Except RequestError (Address × Terms) :=
  match Address.accept request.sender with
  | .error e => .error (.sender e)
  | .ok sender =>
    match request.terms with
    | .other _ => .error .noTerms
    | .terms terms =>
      match terms.check with
      | .error e => .error (.terms e)
      | .ok () => .ok (sender, terms)

/-- The request skips the question of room and signer. -/
def isForced (request : Request) : Bool := request.force.truthy

/-- **A request is accepted exactly when its sender and its terms are.** -/
theorem accept_eq_ok_iff (request : Request) (sender : Address) (terms : Terms) :
    request.accept = .ok (sender, terms) ↔
      Address.accept request.sender = .ok sender ∧ request.terms = .terms terms ∧
        terms.check = .ok () := by
  unfold accept
  cases hs : Address.accept request.sender with
  | error e => simp
  | ok a =>
    cases ht : request.terms with
    | other v => simp
    | terms t =>
      cases hc : t.check with
      | error e =>
        simp only [hc, reduceCtorEq, false_iff, not_and]
        rintro - h
        cases h
        simp [hc]
      | ok u =>
        simp only [hc, Except.ok.injEq, Prod.mk.injEq, GivenTerms.terms.injEq]
        constructor
        · rintro ⟨rfl, rfl⟩
          exact ⟨rfl, rfl, hc⟩
        · rintro ⟨rfl, rfl, -⟩
          exact ⟨rfl, rfl⟩

end Request
end Outbox
