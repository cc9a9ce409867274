import Outbox.Fault.Basic
import Outbox.Text.Case
import Outbox.Text.Search

/-!
# Recognising a nonce clash

A node that refuses a transaction says why in words, and there is no code to go by.  Six
phrases mean that the nonce was the reason: another transaction has it, or it leaves a
gap.  Only after such a refusal may the transaction be tried again with a fresh nonce,
so this is the test that decides whether a transaction is sent twice.

## Where the words stand

The phrase may be in the text of the fault, or in the `message` of a dictionary among
its arguments, which is how a node's structured answer arrives.  All these texts are
joined by spaces and put into lower case, and then the phrases are searched for.

A fault without a text cannot be asked, and neither can one with a `message` that cannot be
written.  To ask it is a fault itself (`askClash`), and that one is no nonce clash.
-/

namespace Outbox

/-- The phrases by which a node says that the nonce was the reason. -/
def nonceClashPhrases : List String :=
  ["nonce too low", "nonce too high", "already known", "known transaction",
   "replacement transaction underpriced", "invalid nonce"]

namespace Fault

/-- The `message` of a dictionary. -/
def messageOf? : Value → Option Value
  | .dict entries => entries.lookup "message"
  | _ => none

/-- The text of the `message` of a dictionary. -/
def messageChars? (v : Value) : Option (List Char) := (messageOf? v).map Value.chars

/-- Every text in which a node's words may stand: that of the fault, and the messages among
its arguments. -/
def texts (fault : Fault) : List (List Char) := fault.chars :: fault.args.filterMap messageChars?

/-- One of the phrases stands in the text, whatever the case of its letters. -/
def speaksOfNonce (cs : List Char) : Bool :=
  nonceClashPhrases.any fun phrase => Text.occurs phrase.toList (Text.lower cs)

/-- The fault says that the nonce was the reason. -/
def isNonceClash (fault : Fault) : Bool := speaksOfNonce ([' '].intercalate fault.texts)

/-- Asks a fault whether the nonce was the reason. -/
def askClash (fault : Fault) : Except Fault Bool := do
  let _ ← fault.askText
  if (fault.args.filterMap messageOf?).all Value.isWritable then return fault.isNonceClash
  else .error tooManyDigits

/-- What a fault answers, it answers by the phrases. -/
theorem eq_isNonceClash_of_askClash {fault : Fault} {answer : Bool}
    (h : fault.askClash = .ok answer) : answer = fault.isNonceClash := by
  unfold askClash at h
  cases htext : fault.askText with
  | error e => simp [htext, bind, Except.bind] at h
  | ok text =>
    simp only [htext, bind, Except.bind] at h
    split at h
    · exact (Except.ok.inj h).symm
    · exact absurd h (by simp)

/-- A fault can be asked: it has a text, and the messages among its arguments can be written. -/
structure CanBeAsked (fault : Fault) : Prop where
  speaks : ∃ text, fault.askText = .ok text
  shows : (fault.args.filterMap messageOf?).all Value.isWritable = true

/-- A fault that can be asked answers by the phrases. -/
theorem CanBeAsked.askClash {fault : Fault} (h : fault.CanBeAsked) :
    fault.askClash = .ok fault.isNonceClash := by
  obtain ⟨text, htext⟩ := h.speaks
  simp only [Fault.askClash, htext, bind, Except.bind, h.shows, if_true, pure, Except.pure]

/-- A fault that cannot be asked does not answer. -/
theorem exists_error_of_not_canBeAsked {fault : Fault} (h : ¬ fault.CanBeAsked) :
    ∃ e, fault.askClash = .error e := by
  cases htext : fault.askText with
  | error e => exact ⟨e, by simp [askClash, htext, bind, Except.bind]⟩
  | ok text =>
    have hshows : ¬ (fault.args.filterMap messageOf?).all Value.isWritable = true :=
      fun hshows => h ⟨⟨text, htext⟩, hshows⟩
    exact ⟨tooManyDigits, by simp only [askClash, htext, bind, Except.bind, if_neg hshows]⟩

/-- A fault that answers has a text. -/
theorem exists_askText_of_askClash {fault : Fault} {answer : Bool}
    (h : fault.askClash = .ok answer) : ∃ text, fault.askText = .ok text := by
  cases htext : fault.askText with
  | error e => simp [askClash, htext, bind, Except.bind] at h
  | ok text => exact ⟨text, rfl⟩

/-- A fault without a text does not answer. -/
theorem askClash_of_askText_error {fault e : Fault} (h : fault.askText = .error e) :
    fault.askClash = .error e := by
  simp [askClash, h, bind, Except.bind]

/-- A fault that does not answer has no text, or a message among its arguments cannot be written. -/
theorem cases_of_askClash_error {fault e : Fault} (h : fault.askClash = .error e) :
    fault.askText = .error e ∨ (∃ text, fault.askText = .ok text) ∧ e = tooManyDigits := by
  unfold askClash at h
  cases htext : fault.askText with
  | error f =>
    rw [htext] at h
    exact .inl (congrArg _ (Except.error.inj h))
  | ok text =>
    simp only [htext, bind, Except.bind] at h
    split at h
    · exact absurd h (by simp [pure, Except.pure])
    · exact .inr ⟨⟨text, rfl⟩, (Except.error.inj h).symm⟩

/-- A phrase in a text is a phrase in that text with more around it. -/
theorem speaksOfNonce_append {cs : List Char} (before after : List Char)
    (h : speaksOfNonce cs = true) : speaksOfNonce (before ++ cs ++ after) = true := by
  simp only [speaksOfNonce, List.any_eq_true] at h ⊢
  obtain ⟨phrase, hmem, hocc⟩ := h
  exact ⟨phrase, hmem, by simpa using Text.occurs_append (Text.lower before) (Text.lower after) hocc⟩

end Fault
end Outbox
