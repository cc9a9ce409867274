import Outbox.Fault.Named
import Outbox.Proofs.HonestNetwork

/-!
# Which faults are taken for a nonce clash

Whether a transaction is sent a second time is decided by searching texts for phrases.  The texts are
joined before they are searched, and so two questions arise: whether a phrase in one of the texts can be
lost, and whether the joint can make a phrase that none of the texts has.

## What is found

Nothing is lost.  A phrase in any one of the texts is found, whatever the others are, if all of
them can be written.  A fault that cannot be asked answers nothing at all, and that may be because
of an argument that has nothing to do with the phrase.

Of the joint, the blank between two texts is the only thing that could make a phrase, and it makes one
only where the first text ends with the first words of a phrase and the second begins with its other
words (`IsDivided`, `hasPhrase_append_blank`).  The text that comes first is that of the fault, and a
text that is made of a dictionary among the arguments ends with a bracket, which is no part of any
phrase (`not_isDivided_of_bracket`).  So a single message is not joined to anything.

## Faults with a text of their own

A fault of the system or of syntax has a text of its own, which may end with any words at all
although there is a dictionary among its arguments.  Such are the only faults whose text and
message can make a phrase together (`isRecognised`), and they can
(`not_always_found_nor_in_one_text`).
-/

namespace Outbox
namespace Fault

open Text

/-! ## 1.  Phrases in joined texts -/

/-- One of the phrases stands in the text when it is put into lower case. -/
def HasPhrase (cs : List Char) : Prop :=
  ∃ phrase ∈ nonceClashPhrases, phrase.toList <:+: lower cs

/-- The first words of a phrase are the end of one text, and its other words are the beginning of
another. -/
def IsDivided (before after : List Char) : Prop :=
  ∃ phrase ∈ nonceClashPhrases, ∃ front back, phrase.toList = front ++ ' ' :: back ∧
    front <:+ lower before ∧ back <+: lower after

theorem speaksOfNonce_iff (cs : List Char) : speaksOfNonce cs = true ↔ HasPhrase cs := by
  simp [speaksOfNonce, HasPhrase, occurs_iff]

instance (cs : List Char) : Decidable (HasPhrase cs) :=
  decidable_of_iff _ (speaksOfNonce_iff cs)

/-- A phrase begins with a letter and has no brackets. -/
theorem phrase_letters : ∀ phrase ∈ nonceClashPhrases,
    (∃ c cs, phrase.toList = c :: cs ∧ c ≠ ' ') ∧ ')' ∉ phrase.toList ∧ '\x7d' ∉ phrase.toList := by
  simp [nonceClashPhrases]

/-- **A blank between two texts makes a phrase only by dividing it.** -/
theorem hasPhrase_append_blank (before after : List Char) :
    HasPhrase (before ++ ' ' :: after) ↔
      HasPhrase before ∨ HasPhrase after ∨ IsDivided before after := by
  have hlower : lower (before ++ ' ' :: after) = lower before ++ ' ' :: lower after := by
    rw [lower_append]
    rfl
  constructor
  · rintro ⟨phrase, hphrase, hinfix⟩
    obtain ⟨⟨c, cs, hcs, hc⟩, -⟩ := phrase_letters phrase hphrase
    rw [hlower] at hinfix
    rcases List.infix_append_iff.mp hinfix with hbefore | hafter | ⟨front, back, heq, hfront, hback⟩
    · exact .inl ⟨phrase, hphrase, hbefore⟩
    · -- the blank is no beginning of a phrase
      rcases List.infix_cons_iff.mp hafter with hprefix | hafter
      · rw [hcs, List.cons_prefix_cons] at hprefix
        exact absurd hprefix.1 hc
      · exact .inr (.inl ⟨phrase, hphrase, hafter⟩)
    · rcases List.prefix_cons_iff.mp hback with rfl | ⟨words, rfl, hwords⟩
      · rw [List.append_nil] at heq
        exact .inl ⟨phrase, hphrase, heq ▸ hfront.isInfix⟩
      · exact .inr (.inr ⟨phrase, hphrase, front, words, heq, hfront, hwords⟩)
  · rintro (⟨phrase, hphrase, hbefore⟩ | ⟨phrase, hphrase, hafter⟩ |
      ⟨phrase, hphrase, front, back, heq, hfront, hback⟩)
    · exact ⟨phrase, hphrase, hlower ▸ List.infix_append_iff.mpr (.inl hbefore)⟩
    · refine ⟨phrase, hphrase, hlower ▸ List.infix_append_iff.mpr (.inr (.inl ?_))⟩
      exact List.infix_cons hafter
    · refine ⟨phrase, hphrase, hlower ▸ List.infix_append_iff.mpr (.inr (.inr ?_))⟩
      exact ⟨front, ' ' :: back, heq, hfront, List.cons_prefix_cons.mpr ⟨rfl, hback⟩⟩

/-- **A text that ends with a bracket ends with no words of a phrase.** -/
theorem not_isDivided_of_bracket {cs after : List Char} {bracket : Char}
    (hbracket : bracket = ')' ∨ bracket = '\x7d') : ¬ IsDivided (cs ++ [bracket]) after := by
  rintro ⟨phrase, hphrase, front, back, heq, hfront, -⟩
  obtain ⟨⟨c, ds, hds, hc⟩, hround, hcurly⟩ := phrase_letters phrase hphrase
  have hlower : lower (cs ++ [bracket]) = lower cs ++ [bracket] := by
    rw [lower_append]
    rcases hbracket with rfl | rfl <;> rfl
  rw [hlower] at hfront
  rcases List.suffix_concat_iff.mp hfront with rfl | ⟨words, rfl, -⟩
  · -- no words at all: then the phrase would begin with a blank
    rw [hds, List.nil_append] at heq
    exact hc (List.cons.inj heq).1
  · have hmem : bracket ∈ phrase.toList := by simp [heq]
    rcases hbracket with rfl | rfl
    · exact hround hmem
    · exact hcurly hmem

/-! ## 2.  The texts of a fault -/

/-- The messages in the dictionaries among the arguments of a fault. -/
def messages (e : Fault) : List (List Char) := e.args.filterMap messageChars?

theorem texts_eq (e : Fault) : e.texts = e.chars :: e.messages := rfl

/-- **A phrase in any of the texts makes a clash.** -/
theorem isNonceClash_of_mem {e : Fault} {text : List Char} (hmem : text ∈ e.texts)
    (hphrase : HasPhrase text) : e.isNonceClash = true := by
  obtain ⟨before, after, heq⟩ := exists_intercalate_eq [' '] hmem
  rw [isNonceClash, heq]
  exact speaksOfNonce_append before after ((speaksOfNonce_iff text).mpr hphrase)

/-- Without a message the text alone decides. -/
theorem isNonceClash_of_no_message {e : Fault} (h : e.messages = []) :
    e.isNonceClash = true ↔ HasPhrase e.chars := by
  rw [isNonceClash, texts_eq, h, List.intercalate_singleton, speaksOfNonce_iff]

/-- With messages the text, the messages and the blank between them decide. -/
theorem isNonceClash_of_messages {e : Fault} (h : e.messages ≠ []) :
    e.isNonceClash = true ↔ HasPhrase e.chars ∨ HasPhrase ([' '].intercalate e.messages) ∨
      IsDivided e.chars ([' '].intercalate e.messages) := by
  obtain ⟨message, more, hmessages⟩ := List.exists_cons_of_ne_nil h
  rw [isNonceClash, texts_eq, hmessages, List.intercalate_cons_cons, List.append_assoc,
    speaksOfNonce_iff]
  exact hasPhrase_append_blank _ _

/-- Only a dictionary has a message, and as it would be written it ends with a curly bracket. -/
theorem quotedChars_of_message {v : Value} (h : messageChars? v ≠ none) :
    ∃ cs, v.quotedChars = cs ++ ['\x7d'] ∧ v.chars = v.quotedChars := by
  cases v with
  | dict entries =>
    exact ⟨'\x7b' :: Value.separated (Value.quotedEntries entries), rfl, rfl⟩
  | _ => exact absurd rfl h

/-- The text that the arguments make ends with a bracket if there is a message among them. -/
theorem argChars_ends {e : Fault} (h : e.messages ≠ []) :
    ∃ cs bracket, e.argChars = cs ++ [bracket] ∧ (bracket = ')' ∨ bracket = '\x7d') := by
  unfold messages at h
  unfold argChars
  match hargs : e.args with
  | [] =>
    rw [hargs] at h
    exact absurd rfl h
  | [arg] =>
    have hmessage : messageChars? arg ≠ none := by
      intro hnone
      rw [hargs, List.filterMap_cons_none hnone] at h
      exact h rfl
    obtain ⟨cs, hquoted, hchars⟩ := quotedChars_of_message hmessage
    refine ⟨cs, '\x7d', ?_, .inr rfl⟩
    simp only [hchars, hquoted, ite_self]
  | first :: second :: more =>
    exact ⟨'(' :: Value.separated (Value.quotedItems (first :: second :: more)), ')', rfl, .inl rfl⟩

/-- **A text that the arguments make is not joined to a message.** -/
theorem not_isDivided_of_ofArgs {e : Fault} (hspeech : e.speech = .ofArgs) (h : e.messages ≠ [])
    (after : List Char) : ¬ IsDivided e.chars after := by
  have hchars : e.chars = e.argChars := by rw [chars, hspeech]
  obtain ⟨cs, bracket, hends, hbracket⟩ := argChars_ends h
  rw [hchars, hends]
  exact not_isDivided_of_bracket hbracket

/-- A single message is searched apart from the text, unless the text is the fault's own. -/
theorem exists_hasPhrase_of_isNonceClash {e : Fault} (hone : e.messages.length ≤ 1)
    (h : e.isNonceClash = true) :
    (∃ text ∈ e.texts, HasPhrase text) ∨
      e.speech ≠ .ofArgs ∧ ∃ message ∈ e.messages, IsDivided e.chars message := by
  match hmessages : e.messages with
  | [] => exact .inl ⟨e.chars, List.mem_cons_self, (isNonceClash_of_no_message hmessages).mp h⟩
  | [message] =>
    have hne : e.messages ≠ [] := by simp [hmessages]
    have hmem : message ∈ e.messages := by simp [hmessages]
    have hclash := (isNonceClash_of_messages hne).mp h
    rw [hmessages, List.intercalate_singleton] at hclash
    rcases hclash with htext | hmessage | hdivided
    · exact .inl ⟨e.chars, List.mem_cons_self, htext⟩
    · exact .inl ⟨message, List.mem_cons_of_mem _ hmem, hmessage⟩
    · refine .inr ⟨fun hspeech => ?_, message, by simp, hdivided⟩
      exact not_isDivided_of_ofArgs hspeech hne message hdivided
  | first :: second :: more => simp [hmessages] at hone

/-! ## 3.  What is recognised -/

/-- How a fault is recognised as a nonce clash. -/
structure IsRecognised (e : Fault) : Prop where
  /-- A phrase in one of the texts is enough, whatever the others are, if the fault can be asked. -/
  complete : e.CanBeAsked → ∀ text ∈ e.texts, HasPhrase text → e.askClash = .ok true
  /-- A fault that cannot be asked gives no answer. -/
  unasked : ¬ e.CanBeAsked → ∃ failure, e.askClash = .error failure
  /-- With one message at most there is no other way, except that a text which is not made of the
  arguments may end with the first words of a phrase and the message begin with the others. -/
  sound : e.messages.length ≤ 1 → e.askClash = .ok true →
    (∃ text ∈ e.texts, HasPhrase text) ∨
      e.speech ≠ .ofArgs ∧ ∃ message ∈ e.messages, IsDivided e.chars message

/-- **How a fault is recognised as a nonce clash**, whatever its kind, its arguments and its
text. -/
theorem isRecognised (e : Fault) : e.IsRecognised where
  complete hasked text hmem hphrase := by
    rw [hasked.askClash, isNonceClash_of_mem hmem hphrase]
  unasked := exists_error_of_not_canBeAsked
  sound hone hask :=
    exists_hasPhrase_of_isNonceClash hone (eq_isNonceClash_of_askClash hask).symm

/-- A refusal with a number beside the node's words that has too many digits to be written. -/
def crowdedRefusal : Fault :=
  raised "ValueError" [.dict [("message", .text "nonce too low")], .int Literal.tooLong]

/-- A fault of the system whose meaning is the first word of a phrase, and whose number is a
dictionary with the others in its message. -/
def dividedRefusal : Fault := raised systemName [.dict [("message", .text "too low")], .text "nonce"]

/-- **A phrase may be lost, and it need not be in one text.**  The refusal with the number of too many
digits cannot be asked, although its text would be made of its arguments; and the fault of the system
has a text of its own, which ends with the first word. -/
theorem not_always_found_nor_in_one_text :
    (¬ ∀ e : Fault, e.speech = .ofArgs → (∃ text ∈ e.messages, HasPhrase text) →
        e.askClash = .ok true) ∧
      ¬ ∀ e : Fault, e.messages.length ≤ 1 → e.askClash = .ok true →
        ∃ text ∈ e.texts, HasPhrase text := by
  constructor
  · intro h
    have hasked : crowdedRefusal.askClash = .ok true :=
      h crowdedRefusal rfl ⟨"nonce too low".toList, List.mem_singleton.mpr rfl, by decide⟩
    have hunasked : crowdedRefusal.askClash = .error tooManyDigits := by
      refine askClash_of_askText_error ?_
      have hargs : crowdedRefusal.args.all Value.isWritable = false := by
        show (Value.isWritable (.dict _) && (Value.isWritable (.int Literal.tooLong) && true)) = false
        rw [Value.isWritable_int, Literal.isWritable_tooLong, Bool.false_and, Bool.and_false]
      show (if crowdedRefusal.args.all Value.isWritable then _ else _) = _
      rw [hargs]
      rfl
    exact absurd (hasked.symm.trans hunasked) (by simp)
  · intro h
    obtain ⟨text, hmem, hphrase⟩ := h dividedRefusal (by decide) (by rfl)
    revert hphrase
    revert text
    decide

end Fault
end Outbox
