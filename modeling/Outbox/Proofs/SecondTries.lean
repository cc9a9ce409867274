import Outbox.Proofs.ClashPhrases
import Outbox.Proofs.Endings

/-!
# Which transactions are sent twice

A transaction whose first submission fails is submitted again if the fault is taken for a nonce
clash, and given up otherwise.  So the texts that are taken for one decide about sending twice, and
this file says exactly which these are: `Fault.TellsOfNonce` says where a phrase stands, and a
settlement ends with the first submission if and only if it stands nowhere
(`Desk.settle_onlyOnce_iff`).

## Phrases within words

A phrase is searched for as letters, not as words.  Thus a node that does not know a transaction
says that it is unknown, and that holds a phrase by which a node says that it knows the transaction.
A phrase that stands alone is a narrower notion (`HasPhraseAlone`), and `Twice.not_isSound` has
faults that are taken for a clash without one: the transaction is submitted a second time.
-/

namespace Outbox

variable {ν σ : Type}

namespace Fault

open Text

/-! ## 1.  Where a phrase stands -/

/-- The messages of a fault with blanks between them. -/
def joinedMessages (e : Fault) : List Char := [' '].intercalate e.messages

/-- A phrase stands in the text of the fault or in its messages.  If the text is not made of the
arguments, then the phrase may also be divided between the text and the messages. -/
def TellsOfNonce (e : Fault) : Prop :=
  HasPhrase e.chars ∨ HasPhrase e.joinedMessages ∨
    e.speech ≠ .ofArgs ∧ IsDivided e.chars e.joinedMessages

/-- No phrase ends with a blank. -/
theorem phrase_getLast_ne : ∀ phrase ∈ nonceClashPhrases, phrase.toList.getLast? ≠ some ' ' := by
  decide

theorem not_hasPhrase_nil : ¬ HasPhrase [] := by
  decide

theorem not_isDivided_nil (before : List Char) : ¬ IsDivided before [] := by
  rintro ⟨phrase, hphrase, front, back, heq, -, hback⟩
  obtain rfl : back = [] := List.prefix_nil.mp hback
  refine phrase_getLast_ne phrase hphrase ?_
  rw [heq, List.getLast?_concat]

/-- **Which faults are nonce clashes.** -/
theorem isNonceClash_iff (e : Fault) : e.isNonceClash = true ↔ e.TellsOfNonce := by
  unfold TellsOfNonce
  by_cases hmessages : e.messages = []
  · have hjoined : e.joinedMessages = [] := by
      rw [joinedMessages, hmessages]
      rfl
    simp only [isNonceClash_of_no_message hmessages, hjoined, not_hasPhrase_nil,
      not_isDivided_nil, and_false, or_false]
  · rw [isNonceClash_of_messages hmessages]
    have hdivided : IsDivided e.chars e.joinedMessages → e.speech ≠ .ofArgs :=
      fun hdivided hspeech => not_isDivided_of_ofArgs hspeech hmessages _ hdivided
    exact or_congr_right (or_congr_right ⟨fun h => ⟨hdivided h, h⟩, And.right⟩)

/-- An ordinary fault that can be asked is a clash exactly if a phrase stands in it. -/
theorem isClash_iff {e : Fault} (hordinary : e.isInterrupt = false) (hasked : e.CanBeAsked) :
    e.IsClash ↔ e.TellsOfNonce := by
  rw [IsClash, hasked.askClash, Except.ok.injEq, isNonceClash_iff]
  exact and_iff_right hordinary

end Fault

/-! ## 2.  Settlements with one submission -/

section

variable {given : Value → Prop} {chain : Int} {account : Key} {cached : Option Numeral} {t : Talk}
  {ending : Ending} {nonce : Value} {e : Fault}

namespace Desk

/-- A fault that can be asked and gives no second chance is a transaction that was not sent. -/
theorem notRetried_of_canBeAsked (h : e.CanBeAsked) : notRetried e = notSent e := by
  rw [notRetried, h.askClash]

end Desk

/-- A settlement whose first submission fails with an ordinary fault ends with it unless the fault
is a clash. -/
theorem Sending.endsOnce_iff (h : Sending given chain account cached t ending)
    (htry : t.tries.head? = some (nonce, .error e)) (hordinary : e.isInterrupt = false)
    (hasked : e.CanBeAsked) :
    (t.tries = [(nonce, .error e)] ∧ t.calls.getLast? = some (.send nonce (.error e)) ∧
      ending.result = .error (Desk.notSent e)) ↔ ¬ e.IsClash := by
  cases h with
  | unstarted hnone => simp [hnone.tries_eq] at htry
  | sent hfirst => simp [hfirst.tries_eq] at htry
  | @stopped t v refusal hfirst hclash =>
    obtain ⟨rfl, rfl⟩ : v = nonce ∧ refusal = e := by simpa [hfirst.tries_eq] using htry
    refine iff_of_true ⟨by simp [hfirst.tries_eq], by simp, ?_⟩ hclash
    show Except.error (refusal.rewrite Desk.notRetried) = _
    rw [Fault.rewrite_of_fault _ hordinary, Desk.notRetried_of_canBeAsked hasked]
  | @unsynced t t' v refusal e' hfirst hclash hnone =>
    obtain ⟨rfl, rfl⟩ : v = nonce ∧ refusal = e := by
      simpa [hfirst.tries_eq, hnone.tries_eq] using htry
    refine iff_of_false (fun hends => ?_) (not_not_intro hclash)
    -- the last call is the question for another nonce
    cases hnone with
    | unanswered cause => simpa using hends.2.1
    | unshown hgiven hline => simpa using hends.2.1
  -- the other two submit the transaction twice
  | @lost t v m refusal e' hfirst hclash hgiven =>
    obtain ⟨rfl, rfl⟩ : v = nonce ∧ refusal = e := by simpa [hfirst.tries_eq] using htry
    refine iff_of_false (fun hends => ?_) (not_not_intro hclash)
    simpa [hfirst.tries_eq] using hends.1
  | @recovered t v m tx refusal hfirst hclash hgiven =>
    obtain ⟨rfl, rfl⟩ : v = nonce ∧ refusal = e := by simpa [hfirst.tries_eq] using htry
    refine iff_of_false (fun hends => ?_) (not_not_intro hclash)
    simpa [hfirst.tries_eq] using hends.1

/-- **Which refused transactions are given up after the first submission.**  The first submission of
a settlement fails with an ordinary fault that can be asked.  Then the settlement ends with it, and
as a transaction that was not sent, if and only if the fault does not tell of the nonce. -/
theorem Desk.settle_onlyOnce_iff (source : NonceSource ν σ) (chain : Int) (account : Key)
    (send : SendCallback ν σ) (d : Desk σ) {nonce : Value} {e : Fault}
    (htry : (settleTalk source chain account send d).tries.head? = some (nonce, .error e))
    (hordinary : e.isInterrupt = false) (hasked : e.CanBeAsked) :
    ((settleTalk source chain account send d).tries = [(nonce, .error e)] ∧
      (settleTalk source chain account send d).calls.getLast? = some (.send nonce (.error e)) ∧
      (settle source chain account send d).result = .error (notSent e)) ↔ ¬ e.TellsOfNonce := by
  obtain ⟨ending, hsending, hresult, -⟩ := settle_sending source send chain account d
  rw [hresult, hsending.endsOnce_iff htry hordinary hasked, Fault.isClash_iff hordinary hasked]

end

/-! ## 3.  Phrases that stand alone -/

namespace Fault

/-- A word stands in a text with no letter of the alphabet directly before or after it. -/
def StandsAlone (word cs : List Char) : Prop :=
  ∃ before after, cs = before ++ word ++ after ∧
    before.getLast?.any Char.isAlpha = false ∧ after.head?.any Char.isAlpha = false

theorem standsAlone_iff (word cs : List Char) :
    StandsAlone word cs ↔ ∃ place < cs.length + 1,
      cs = cs.take place ++ word ++ cs.drop (place + word.length) ∧
        (cs.take place).getLast?.any Char.isAlpha = false ∧
        (cs.drop (place + word.length)).head?.any Char.isAlpha = false := by
  constructor
  · rintro ⟨before, after, rfl, hbefore, hafter⟩
    have htake : (before ++ word ++ after).take before.length = before := by simp
    have hdrop : (before ++ word ++ after).drop (before.length + word.length) = after := by
      rw [← List.length_append, List.drop_left]
    refine ⟨before.length, by simp only [List.length_append]; omega, ?_⟩
    rw [htake, hdrop]
    exact ⟨rfl, hbefore, hafter⟩
  · rintro ⟨place, -, heq, hbefore, hafter⟩
    exact ⟨_, _, heq, hbefore, hafter⟩

instance (word cs : List Char) : Decidable (StandsAlone word cs) :=
  decidable_of_iff _ (standsAlone_iff word cs).symm

/-- One of the phrases stands alone in the text when it is put into lower case. -/
def HasPhraseAlone (cs : List Char) : Prop :=
  ∃ phrase ∈ nonceClashPhrases, StandsAlone phrase.toList (Text.lower cs)

instance (cs : List Char) : Decidable (HasPhraseAlone cs) :=
  inferInstanceAs (Decidable (∃ phrase ∈ nonceClashPhrases, _))

/-- If a fault is taken for a nonce clash, then a phrase stands alone in one of its texts. -/
def IsSound (e : Fault) : Prop :=
  e.askClash = .ok true → ∃ text ∈ e.texts, HasPhraseAlone text

end Fault

namespace Twice

/-- A node does not know a transaction. -/
def unknown : Fault := .badValue "unknown transaction"

/-- Two messages that are a phrase when they are joined. -/
def joined : Fault :=
  .raised "ValueError" [.dict [("message", .text "nonce")], .dict [("message", .text "too low")]]

/-- A network whose answer is always five. -/
def source : NonceSource Empty Unit := fun _ _ => pure (.int 5)

/-- What is heard when a transaction is settled whose submissions all fail with a fault. -/
def talk (e : Fault) : Talk :=
  Desk.settleTalk source 1 (.ofText "0x1111111111111111111111111111111111111111")
    (fun _ => .fail e) TwoChains.desk

/-- Want of funds is no matter of the nonce, and the transaction is submitted once. -/
theorem funds_onlyOnce :
    (talk (.badValue "insufficient funds")).tries =
      [(.int 5, .error (.badValue "insufficient funds"))] := by
  refine ((Desk.settle_onlyOnce_iff source 1 _ _ TwoChains.desk rfl rfl ?_).mpr ?_).1
  · exact ⟨⟨"insufficient funds", rfl⟩, rfl⟩
  · rw [← Fault.isNonceClash_iff]
    decide

/-- **A fault is taken for a nonce clash although no phrase stands alone in its texts**, and the
transaction is submitted a second time. -/
theorem not_isSound :
    (¬ unknown.IsSound ∧ (talk unknown).tries.length = 2) ∧
      ¬ joined.IsSound ∧ (talk joined).tries.length = 2 := by
  have hunknown : ¬ ∃ text ∈ unknown.texts, Fault.HasPhraseAlone text := by decide +kernel
  have hjoined : ¬ ∃ text ∈ joined.texts, Fault.HasPhraseAlone text := by decide +kernel
  exact ⟨⟨fun hsound => hunknown (hsound rfl), rfl⟩, fun hsound => hjoined (hsound rfl), rfl⟩

end Twice
end Outbox
