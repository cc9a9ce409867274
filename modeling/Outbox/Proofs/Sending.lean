import Outbox.Proofs.Listening

/-!
# What settling a transaction comes to

To settle a transaction the desk asks a network for nonces and a callback for submissions, at
most twice each, and there are a few ways in which that may go.  This file says which: `Sending`
is the relation between what the book has for the account, what is said, and how it ends.

* `Sending.unstarted`: there is no nonce to begin with.
* `Sending.sent`: the first submission returns.
* `Sending.stopped`: the first submission fails, and not because of its nonce.
* `Sending.unsynced`: the first nonce is refused, and there is no other.
* `Sending.lost`: the second submission fails.
* `Sending.recovered`: the second submission returns.

There is no nonce if the network does not give one, and also if the nonce that it gives, or that
the book has, has too many digits to be written into the log (`NoNonce`, `NoFirstNonce`).
All but the first come in two kinds, by where the first nonce is from (`FirstNonce`).  What the
network may answer at all is a parameter, since a network that answers with whole numbers only
leaves fewer ways open than one that may answer with anything (`NonceSource.Gives`).

The main statement is `settle_goes`: **settling a transaction goes in one of these ways, its
result is that of the ending, and the book is changed as the ending says and in no other way.**
Whatever is claimed of single settlements and of runs of them follows from it by cases, and the
acts of the desk are not opened again.
-/

namespace Outbox

variable {ν σ : Type}

/-! ## Questions with their answers -/

/-- The network is asked for a nonce, and answers. -/
def Talk.asksNonce (chain : Int) (account : Key) (answer : Except Fault Value) : Talk :=
  [.asksNonce chain account.value, .passes (.nonce chain account.value answer)]

/-- A transaction is submitted with a nonce, and the callback answers. -/
def Talk.submits (nonce : Value) (answer : Except Fault Value) : Talk :=
  [.sends nonce, .passes (.send nonce answer)]

/-- A fault that says that the nonce was the reason, and is no order to stop. -/
def Fault.IsClash (e : Fault) : Prop := e.isInterrupt = false ∧ e.askClash = .ok true

/-- The source may answer a question with a value: in some state of the world it does. -/
def NonceSource.Gives (source : NonceSource ν σ) (chain : Int) (account v : Value) : Prop :=
  ∃ w, (source chain account w).result = .ok v

/-- A whole number. -/
def Value.IsWhole (v : Value) : Prop := ∃ i : Int, v = .int i

/-- A source of whole numbers gives whole numbers. -/
theorem NonceSource.isWhole_of_gives {answer : Int → Value → Act ν σ Int} {chain : Int}
    {account v : Value} (h : (NonceSource.whole answer).Gives chain account v) : v.IsWhole := by
  obtain ⟨w, hw⟩ := h
  rw [NonceSource.whole, Act.map_eq] at hw
  cases hanswer : (answer chain account w).result with
  | error e =>
    rw [hanswer] at hw
    exact absurd hw (by simp [Except.map])
  | ok i =>
    rw [hanswer] at hw
    exact ⟨i, (Except.ok.inj hw).symm⟩

namespace Desk

/-- What the fault of a first submission comes to if it gives no second chance. -/
def notRetried (e : Fault) : Fault :=
  match e.askClash with
  | .ok _ => notSent e
  | .error f => f

end Desk

/-! ## The ways of a settlement -/

/-- How a settlement ends: with a fault, or with a submission that has returned. -/
inductive Ending where
  | failed (e : Fault)
  | sent (nonce tx : Value)

namespace Ending

/-- The result of a settlement. -/
def result : Ending → Except Fault Value
  | .failed e => .error e
  | .sent nonce tx => (Nonce.next nonce).map fun _ => tx

@[simp] theorem result_sent (nonce tx : Value) :
    (sent nonce tx).result = (Nonce.next nonce).map fun _ => tx := rfl

/-- The book after a settlement. -/
def book (account : Key) (before : NonceBook) : Ending → NonceBook
  | .failed _ => before
  | .sent nonce _ =>
    match Nonce.next nonce with
    | .ok next => before.put account next
    | .error _ => before

end Ending

section Ways

variable (given : Value → Prop) (chain : Int) (account : Key)

/-- A nonce that the network may give, and that can be written into the log. -/
structure IsGiven (v : Value) : Prop where
  gives : given v
  isShown : ∃ text, Desk.givenLine account chain v = .ok text

/-- How a question for a nonce may come to nothing: the network fails to answer, or it answers with
a nonce that cannot be written into the log. -/
inductive NoNonce : Talk → Fault → Prop
  | unanswered (e : Fault) :
      NoNonce (Talk.asksNonce chain account (.error e)) (e.rewrite Desk.notLookedUp)
  | unshown {v : Value} {e : Fault} (hgiven : given v)
      (hline : Desk.givenLine account chain v = .error e) :
      NoNonce (Talk.asksNonce chain account (.ok v)) e

/-- How the first nonce is come by: from the book if the book has one, and otherwise from the
network. -/
inductive FirstNonce : Option Numeral → Talk → Value → Prop
  | cached (n : Numeral) (hline : ∃ text, Desk.usedLine account (.ofNumeral n) = .ok text) :
      FirstNonce (some n) [] (.ofNumeral n)
  | answered {v : Value} (hgiven : IsGiven given chain account v) :
      FirstNonce none (Talk.asksNonce chain account (.ok v)) v

/-- How there may be no nonce to begin with: that of the book cannot be written into the log, or
the book has none and the question for one comes to nothing. -/
inductive NoFirstNonce : Option Numeral → Talk → Fault → Prop
  | unshown (n : Numeral) {e : Fault} (hline : Desk.usedLine account (.ofNumeral n) = .error e) :
      NoFirstNonce (some n) [] e
  | unasked {t : Talk} {e : Fault} (hnone : NoNonce given chain account t e) :
      NoFirstNonce none t e

/-- How a settlement may go: what the book has for the account, what is said, and the ending. -/
inductive Sending (cached : Option Numeral) : Talk → Ending → Prop
  | unstarted {t : Talk} {e : Fault} (hnone : NoFirstNonce given chain account cached t e) :
      Sending cached t (.failed e)
  | sent {t : Talk} {v tx : Value} (hfirst : FirstNonce given chain account cached t v) :
      Sending cached (t ++ Talk.submits v (.ok tx)) (.sent v tx)
  | stopped {t : Talk} {v : Value} {e : Fault} (hfirst : FirstNonce given chain account cached t v)
      (hclash : ¬ e.IsClash) :
      Sending cached (t ++ Talk.submits v (.error e))
        (.failed (e.rewrite Desk.notRetried))
  | unsynced {t t' : Talk} {v : Value} {e e' : Fault}
      (hfirst : FirstNonce given chain account cached t v) (hclash : e.IsClash)
      (hnone : NoNonce given chain account t' e') :
      Sending cached (t ++ Talk.submits v (.error e) ++ t') (.failed e')
  | lost {t : Talk} {v m : Value} {e e' : Fault}
      (hfirst : FirstNonce given chain account cached t v) (hclash : e.IsClash)
      (hgiven : IsGiven given chain account m) :
      Sending cached
        (t ++ Talk.submits v (.error e) ++ Talk.asksNonce chain account (.ok m) ++
          Talk.submits m (.error e'))
        (.failed (e'.rewrite Desk.notRecovered))
  | recovered {t : Talk} {v m tx : Value} {e : Fault}
      (hfirst : FirstNonce given chain account cached t v) (hclash : e.IsClash)
      (hgiven : IsGiven given chain account m) :
      Sending cached
        (t ++ Talk.submits v (.error e) ++ Talk.asksNonce chain account (.ok m) ++
          Talk.submits m (.ok tx))
        (.sent m tx)

variable {given chain account} {given' : Value → Prop} {cached : Option Numeral} {t : Talk}

/-- A first nonce and its account can be written. -/
theorem FirstNonce.isWritable {v : Value} (h : FirstNonce given chain account cached t v) :
    v.isWritable = true ∧ account.value.isWritable = true := by
  cases h with
  | cached n hline => exact (Desk.exists_usedLine_iff account _).mp hline
  | answered hgiven =>
    obtain ⟨haccount, -, hv⟩ := (Desk.exists_givenLine_iff account chain v).mp hgiven.isShown
    exact ⟨hv, haccount⟩

/-- The log can be told that a first nonce has been refused. -/
theorem FirstNonce.exists_refusedLine {v : Value} {e : Fault}
    (h : FirstNonce given chain account cached t v) (hclash : e.IsClash) :
    ∃ text, Desk.refusedLine account v e = .ok text :=
  Desk.exists_refusedLine h.isWritable.1 h.isWritable.2 (Fault.exists_askText_of_askClash hclash.2)

theorem IsGiven.mono {v : Value} (hmono : ∀ w, given w → given' w)
    (h : IsGiven given chain account v) : IsGiven given' chain account v :=
  ⟨hmono v h.gives, h.isShown⟩

/-- If the network has answered then it is the answer that cannot be written. -/
theorem NoNonce.givenLine_eq {v : Value} {e : Fault}
    (h : NoNonce given chain account (Talk.asksNonce chain account (.ok v)) e) :
    Desk.givenLine account chain v = .error e := by
  generalize htalk : Talk.asksNonce chain account (.ok v) = t at h
  cases h with
  | unanswered e => simp [Talk.asksNonce] at htalk
  | @unshown w e hgiven hline =>
    obtain rfl : v = w := by simpa [Talk.asksNonce] using htalk
    exact hline

theorem NoNonce.mono {e : Fault} (hmono : ∀ w, given w → given' w)
    (h : NoNonce given chain account t e) : NoNonce given' chain account t e := by
  cases h with
  | unanswered e => exact .unanswered e
  | unshown hgiven hline => exact .unshown (hmono _ hgiven) hline

theorem FirstNonce.mono {v : Value} (hmono : ∀ w, given w → given' w)
    (h : FirstNonce given chain account cached t v) :
    FirstNonce given' chain account cached t v := by
  cases h with
  | cached n hline => exact .cached n hline
  | answered hgiven => exact .answered (hgiven.mono hmono)

theorem NoFirstNonce.mono {e : Fault} (hmono : ∀ w, given w → given' w)
    (h : NoFirstNonce given chain account cached t e) :
    NoFirstNonce given' chain account cached t e := by
  cases h with
  | unshown n hline => exact .unshown n hline
  | unasked hnone => exact .unasked (hnone.mono hmono)

/-- A network that may answer with more leaves more ways open. -/
theorem Sending.mono {ending : Ending} (hmono : ∀ w, given w → given' w)
    (h : Sending given chain account cached t ending) :
    Sending given' chain account cached t ending := by
  cases h with
  | unstarted hnone => exact .unstarted (hnone.mono hmono)
  | sent hfirst => exact .sent (hfirst.mono hmono)
  | stopped hfirst hclash => exact .stopped (hfirst.mono hmono) hclash
  | unsynced hfirst hclash hnone => exact .unsynced (hfirst.mono hmono) hclash (hnone.mono hmono)
  | lost hfirst hclash hgiven => exact .lost (hfirst.mono hmono) hclash (hgiven.mono hmono)
  | recovered hfirst hclash hgiven => exact .recovered (hfirst.mono hmono) hclash (hgiven.mono hmono)

end Ways

namespace Desk

/-! ## The desk after a question -/

/-- The desk after the network has been asked for a nonce. -/
def afterLookup (source : NonceSource ν σ) (chain : Int) (account : Key) (reason : LookupReason)
    (d : Desk σ) : Desk σ :=
  { d with
    counters := d.counters.add (.nonceLookup reason.label)
    world := (source chain account.value d.world).next }

/-- The desk after a submission. -/
def afterSubmission (send : SendCallback ν σ) (nonce : Value) (d : Desk σ) : Desk σ :=
  { d with world := (send nonce d.world).next }

/-- The desk at which a first nonce has been found to be refused. -/
def afterClash (d : Desk σ) : Desk σ := { d with counters := d.counters.add .nonceRetry }

/-- The desk with the book as an ending leaves it. -/
def closed (account : Key) (ending : Ending) (d : Desk σ) : Desk σ :=
  { d with book := ending.book account d.book }

variable (source : NonceSource ν σ) (send : SendCallback ν σ) (chain : Int) (account : Key)

@[simp] theorem book_afterSubmission (nonce : Value) (d : Desk σ) :
    (afterSubmission send nonce d).book = d.book := rfl

@[simp] theorem book_closed (ending : Ending) (d : Desk σ) :
    (closed account ending d).book = ending.book account d.book := rfl

variable {source send} {d d₁ d₂ : Desk σ} {t t₁ t₂ : Talk} {v tx : Value} {e e' : Fault}

/-! ## The single acts -/

/-- The question itself, before its answer is looked at. -/
theorem ask_goes (source : NonceSource ν σ) (d : Desk σ) :
    Goes
      (do
        Act.note (.asksNonce chain account.value)
        outside (source.heard chain account.value))
      d (source chain account.value d.world).result
      (Talk.asksNonce chain account (source chain account.value d.world).result)
      { d with world := (source chain account.value d.world).next } :=
  (goes_note rfl d).bind (goes_outside _ _ _)

theorem lookup_goes_ok (reason : LookupReason)
    (h : (source chain account.value d.world).result = .ok v)
    (hline : ∃ text, givenLine account chain v = .ok text) :
    Goes (lookup source.heard chain account reason) d (.ok v)
      (Talk.asksNonce chain account (.ok v)) (afterLookup source chain account reason d) := by
  obtain ⟨text, hline⟩ := hline
  have hask := ask_goes chain account source
    { d with counters := d.counters.add (.nonceLookup reason.label) }
  rw [h] at hask
  exact (goes_count _ d).bind (hask.rescue_ok.bind ((goes_log hline _ _ _).bind (goes_pure v _)))

theorem lookup_goes_error (reason : LookupReason)
    (h : (source chain account.value d.world).result = .error e) :
    Goes (lookup source.heard chain account reason) d (.error (e.rewrite notLookedUp))
      (Talk.asksNonce chain account (.error e)) (afterLookup source chain account reason d) := by
  have hask := ask_goes chain account source
    { d with counters := d.counters.add (.nonceLookup reason.label) }
  rw [h] at hask
  exact (goes_count _ d).bind (hask.rescue_rewrite notLookedUp).bind_error

/-- A nonce that cannot be written into the log is not given to anyone. -/
theorem lookup_goes_unshown (reason : LookupReason)
    (h : (source chain account.value d.world).result = .ok v)
    (hline : givenLine account chain v = .error e) :
    Goes (lookup source.heard chain account reason) d (.error e)
      (Talk.asksNonce chain account (.ok v)) (afterLookup source chain account reason d) := by
  have hask := ask_goes chain account source
    { d with counters := d.counters.add (.nonceLookup reason.label) }
  rw [h] at hask
  exact (goes_count _ d).bind (hask.rescue_ok.bind (goes_log_error hline _ _ _).bind_error)

/-- A question for a nonce is answered with one that can be used, or it comes to nothing. -/
theorem lookup_goes (source : NonceSource ν σ) (reason : LookupReason) (d : Desk σ) :
    (∃ v, (source chain account.value d.world).result = .ok v ∧
      IsGiven (source.Gives chain account.value) chain account v) ∨
    ∃ e, NoNonce (source.Gives chain account.value) chain account
        (Talk.asksNonce chain account (source chain account.value d.world).result) e ∧
      Goes (lookup source.heard chain account reason) d (.error e)
        (Talk.asksNonce chain account (source chain account.value d.world).result)
        (afterLookup source chain account reason d) := by
  cases hanswer : (source chain account.value d.world).result with
  | error e => exact .inr ⟨_, .unanswered e, lookup_goes_error chain account reason hanswer⟩
  | ok v =>
    cases hline : givenLine account chain v with
    | error e =>
      have hgoes := lookup_goes_unshown chain account reason hanswer hline
      exact .inr ⟨e, .unshown ⟨_, hanswer⟩ hline, hgoes⟩
    | ok text => exact .inl ⟨v, rfl, ⟨_, hanswer⟩, text, hline⟩

theorem submit_goes_ok (h : (send v d.world).result = .ok tx) :
    Goes (submit send.heard v) d (.ok (v, tx)) (Talk.submits v (.ok tx))
      (afterSubmission send v d) := by
  have hcall := goes_outside (send v) (.send v) d
  rw [h] at hcall
  exact (goes_note rfl d).bind (hcall.bind (goes_pure (v, tx) _))

theorem submit_goes_error (h : (send v d.world).result = .error e) :
    Goes (submit send.heard v) d (.error e) (Talk.submits v (.error e))
      (afterSubmission send v d) := by
  have hcall := goes_outside (send v) (.send v) d
  rw [h] at hcall
  exact (goes_note rfl d).bind hcall.bind_error

theorem firstNonce_goes_cached (source : NonceSource ν σ) {n : Numeral}
    (h : d.book.get? account = some n)
    (hline : ∃ text, usedLine account (.ofNumeral n) = .ok text) :
    Goes (firstNonce source.heard chain account) d (.ok (.ofNumeral n)) [] d := by
  obtain ⟨text, hline⟩ := hline
  have hcached := goes_cached (ν := Call) account d
  rw [h] at hcached
  exact hcached.bind ((goes_log hline _ _ d).bind (goes_pure _ d))

theorem firstNonce_goes_unshown (source : NonceSource ν σ) {n : Numeral}
    (h : d.book.get? account = some n) (hline : usedLine account (.ofNumeral n) = .error e) :
    Goes (firstNonce source.heard chain account) d (.error e) [] d := by
  have hcached := goes_cached (ν := Call) account d
  rw [h] at hcached
  exact hcached.bind (goes_log_error hline _ _ d).bind_error

/-- If the book has no nonce, then what becomes of the question for one becomes of it all. -/
theorem Goes.firstNonce_of_none {r : Except Fault Value} (hnone : d.book.get? account = none)
    (h : Goes (lookup source.heard chain account .cacheMiss) d r t d₁) :
    Goes (firstNonce source.heard chain account) d r t d₁ := by
  have hcached := goes_cached (ν := Call) account d
  rw [hnone] at hcached
  exact hcached.bind h

theorem firstNonce_goes_ok (hnone : d.book.get? account = none)
    (h : (source chain account.value d.world).result = .ok v)
    (hline : ∃ text, givenLine account chain v = .ok text) :
    Goes (firstNonce source.heard chain account) d (.ok v)
      (Talk.asksNonce chain account (.ok v)) (afterLookup source chain account .cacheMiss d) :=
  (lookup_goes_ok chain account .cacheMiss h hline).firstNonce_of_none chain account hnone

theorem markUsed_goes (nonce tx : Value) (d : Desk σ) :
    Goes (markUsed account nonce) d ((Nonce.next nonce).map fun _ => ()) ([] : Talk)
      (closed account (.sent nonce tx) d) := by
  have hnext := goes_ofExcept (ν := Call) (Nonce.next nonce) d
  cases h : Nonce.next nonce with
  | error e =>
    rw [h] at hnext
    have hclosed : closed account (.sent nonce tx) d = d := by
      simp only [closed, Ending.book, h]
    rw [hclosed]
    show Goes (Act.ofExcept (Nonce.next nonce) >>= writeNext account) _ _ _ _
    rw [h]
    exact hnext.bind_error
  | ok next =>
    rw [h] at hnext
    have hclosed :
        closed account (.sent nonce tx) d = { d with book := d.book.put account next } := by
      simp only [closed, Ending.book, h]
    rw [hclosed]
    show Goes (Act.ofExcept (Nonce.next nonce) >>= writeNext account) _ _ _ _
    rw [h]
    exact hnext.bind (goes_change _ d)

/-! ## The second chance -/

theorem afterRefusal_of_clash (v : Value) (h : e.IsClash) :
    afterRefusal source chain account send v e = resync source chain account send v e := by
  unfold afterRefusal
  rw [h.2]

/-- A fault that is no order to stop and no nonce clash ends the settlement, whether it says so or
cannot be asked. -/
theorem afterRefusal_of_not_clash (v : Value) (hinterrupt : e.isInterrupt = false)
    (h : ¬ e.IsClash) : afterRefusal source chain account send v e = .fail (notRetried e) := by
  unfold afterRefusal notRetried
  cases hask : e.askClash with
  | error f => rfl
  | ok clash =>
    cases clash with
    | false => rfl
    | true => exact absurd ⟨hinterrupt, hask⟩ h

/-- When the log has been told of the refusal, what becomes of the question for another nonce becomes
of it all. -/
theorem Goes.secondNonce {refused : Value} {refusal : Fault} {r : Except Fault Value}
    (hline : ∃ text, refusedLine account refused refusal = .ok text)
    (h : Goes (lookup source.heard chain account .nonceError) (afterClash d) r t d₁) :
    Goes (secondNonce source.heard chain account refused refusal) d r t d₁ := by
  obtain ⟨text, hline⟩ := hline
  exact (goes_log hline _ _ d).bind ((goes_count _ d).bind h)

theorem secondNonce_goes_ok {refused : Value} {refusal : Fault}
    (hrefused : ∃ text, refusedLine account refused refusal = .ok text)
    (h : (source chain account.value d.world).result = .ok v)
    (hline : ∃ text, givenLine account chain v = .ok text) :
    Goes (secondNonce source.heard chain account refused refusal) d (.ok v)
      (Talk.asksNonce chain account (.ok v))
      (afterLookup source chain account .nonceError (afterClash d)) :=
  Goes.secondNonce chain account hrefused (lookup_goes_ok chain account .nonceError h hline)

theorem secondNonce_goes_untold (source : NonceSource ν σ) {refused : Value} {refusal : Fault}
    (hline : refusedLine account refused refusal = .error e) (d : Desk σ) :
    Goes (secondNonce source.heard chain account refused refusal) d (.error e) ([] : Talk) d :=
  (goes_log_error hline _ _ d).bind_error

/-! ## The submissions

The first submission, and the second chance if there is one, are a piece of the settlement of
their own.  It begins at the desk `d`, where the nonce `v` has been chosen. -/

/-- The submissions of a settlement whose first nonce has been chosen. -/
def submissions (source : NonceSource ν σ) (chain : Int) (account : Key)
    (send : SendCallback ν σ) (v : Value) : Act (Deed ν) (Desk σ) (Value × Value) :=
  Act.rescue (submit send v) (afterRefusal source chain account send v)

theorem submissions_goes_ok (source : NonceSource ν σ) (h : (send v d.world).result = .ok tx) :
    Goes (submissions source.heard chain account send.heard v) d (.ok (v, tx))
      (Talk.submits v (.ok tx)) (afterSubmission send v d) :=
  (submit_goes_ok h).rescue_ok

theorem submissions_goes_stopped (source : NonceSource ν σ)
    (h : (send v d.world).result = .error e) (hclash : ¬ e.IsClash) :
    Goes (submissions source.heard chain account send.heard v) d
      (.error (e.rewrite notRetried)) (Talk.submits v (.error e)) (afterSubmission send v d) := by
  have hsubmit : Goes (submit send.heard v) d (.error e) (Talk.submits v (.error e))
      (afterSubmission send v d) := submit_goes_error h
  cases he : e.isInterrupt with
  | true =>
    rw [Fault.rewrite_of_interrupt _ he]
    exact hsubmit.rescue_interrupt he
  | false =>
    rw [Fault.rewrite_of_fault _ he, ← List.append_nil (Talk.submits v (.error e))]
    refine hsubmit.rescue_fault he ?_
    rw [afterRefusal_of_not_clash chain account v he hclash]
    exact goes_fail _ _

/-- After a clash the submissions go on as the second chance does. -/
theorem submissions_goes_clash {r : Except Fault (Value × Value)}
    (h : (send v d.world).result = .error e) (hclash : e.IsClash)
    (hresync : Goes (resync source.heard chain account send.heard v e) (afterSubmission send v d)
      r t d₂) :
    Goes (submissions source.heard chain account send.heard v) d r
      (Talk.submits v (.error e) ++ t) d₂ := by
  refine (submit_goes_error h).rescue_fault hclash.1 ?_
  rw [afterRefusal_of_clash chain account v hclash]
  exact hresync

/-- The desk at which the second nonce has been given. -/
def afterResync (source : NonceSource ν σ) (chain : Int) (account : Key) (d : Desk σ) : Desk σ :=
  afterLookup source chain account .nonceError (afterClash d)

theorem resync_goes_unsynced (send : SendCallback ν σ) {refused : Value}
    (hrefused : ∃ text, refusedLine account refused e = .ok text)
    (h : Goes (lookup source.heard chain account .nonceError) (afterClash d) (.error e') t d₁) :
    Goes (resync source.heard chain account send.heard refused e) d (.error e') t d₁ :=
  (Goes.secondNonce chain account hrefused h).bind_error

theorem resync_goes_lost {refused : Value}
    (hrefused : ∃ text, refusedLine account refused e = .ok text)
    (h : (source chain account.value d.world).result = .ok v)
    (hline : ∃ text, givenLine account chain v = .ok text)
    (hsend : (send v (afterResync source chain account d).world).result = .error e') :
    Goes (resync source.heard chain account send.heard refused e) d
      (.error (e'.rewrite notRecovered))
      (Talk.asksNonce chain account (.ok v) ++ Talk.submits v (.error e'))
      (afterSubmission send v (afterResync source chain account d)) :=
  (secondNonce_goes_ok chain account hrefused h hline).bind
    ((submit_goes_error hsend).rescue_rewrite notRecovered)

theorem resync_goes_recovered {refused : Value}
    (hrefused : ∃ text, refusedLine account refused e = .ok text)
    (h : (source chain account.value d.world).result = .ok v)
    (hline : ∃ text, givenLine account chain v = .ok text)
    (hsend : (send v (afterResync source chain account d).world).result = .ok tx) :
    Goes (resync source.heard chain account send.heard refused e) d (.ok (v, tx))
      (Talk.asksNonce chain account (.ok v) ++ Talk.submits v (.ok tx))
      (afterSubmission send v (afterResync source chain account d)) :=
  (secondNonce_goes_ok chain account hrefused h hline).bind (submit_goes_ok hsend).rescue_ok

/-! ## The whole settlement -/

theorem Goes.settle_unstarted
    (hfirst : Goes (firstNonce source.heard chain account) d (.error e) t d₁) :
    Goes (settle source.heard chain account send.heard) d (.error e) t d₁ :=
  hfirst.bind_error

theorem Goes.settle_failed (hfirst : Goes (firstNonce source.heard chain account) d (.ok v) t₁ d₁)
    (hsubmissions :
      Goes (submissions source.heard chain account send.heard v) d₁ (.error e) t₂ d₂) :
    Goes (settle source.heard chain account send.heard) d (.error e) (t₁ ++ t₂) d₂ :=
  hfirst.bind hsubmissions.bind_error

theorem Goes.settle_sent {m : Value}
    (hfirst : Goes (firstNonce source.heard chain account) d (.ok v) t₁ d₁)
    (hsubmissions : Goes (submissions source.heard chain account send.heard v) d₁ (.ok (m, tx))
      t₂ d₂) :
    Goes (settle source.heard chain account send.heard) d (Ending.sent m tx).result (t₁ ++ t₂)
      (closed account (.sent m tx) d₂) := by
  refine hfirst.bind ?_
  rw [← List.append_nil t₂]
  refine hsubmissions.bind ?_
  have hmark := markUsed_goes account m tx d₂
  show Goes (markUsed account m >>= fun _ => pure tx) _ _ _ _
  rw [Ending.result_sent]
  cases h : Nonce.next m with
  | error f =>
    rw [h] at hmark
    exact hmark.bind_error
  | ok next =>
    rw [h] at hmark
    exact hmark.bind (goes_pure tx _)

variable (source send)

/-- The first nonce is come by in one of the two ways, or there is none. -/
theorem firstNonce_goes (d : Desk σ) :
    (∃ v t d₁, FirstNonce (source.Gives chain account.value) chain account
        (d.book.get? account) t v ∧
      Goes (firstNonce source.heard chain account) d (.ok v) t d₁ ∧ d₁.book = d.book) ∨
    (∃ t e d₁, NoFirstNonce (source.Gives chain account.value) chain account
        (d.book.get? account) t e ∧
      Goes (firstNonce source.heard chain account) d (.error e) t d₁ ∧ d₁.book = d.book) := by
  cases hcached : d.book.get? account with
  | some n =>
    cases hline : usedLine account (.ofNumeral n) with
    | ok text =>
      have hgoes := firstNonce_goes_cached chain account source hcached ⟨text, hline⟩
      exact .inl ⟨_, _, d, .cached n ⟨text, hline⟩, hgoes, rfl⟩
    | error e =>
      have hgoes := firstNonce_goes_unshown chain account source hcached hline
      exact .inr ⟨_, e, d, .unshown n hline, hgoes, rfl⟩
  | none =>
    obtain ⟨v, hanswer, hgiven⟩ | ⟨e, hnone, hgoes⟩ :=
      lookup_goes chain account source .cacheMiss d
    · have hgoes := firstNonce_goes_ok chain account hcached hanswer hgiven.isShown
      exact .inl ⟨v, _, _, .answered hgiven, hgoes, rfl⟩
    · exact .inr ⟨_, e, _, .unasked hnone, hgoes.firstNonce_of_none chain account hcached, rfl⟩

/-- **Settling a transaction goes in one of these ways.**  Its result is that of the ending,
and the book is changed as the ending says and in no other way. -/
theorem settle_goes (d : Desk σ) :
    ∃ t ending d',
      Sending (source.Gives chain account.value) chain account (d.book.get? account) t ending ∧
      Goes (settle source.heard chain account send.heard) d ending.result t d' ∧
      d'.book = ending.book account d.book := by
  obtain ⟨v, t, d₁, hfirst, hgoes, hbook⟩ | ⟨t, e, d₁, hnone, hgoes, hbook⟩ :=
    firstNonce_goes source chain account d
  · cases hsend : (send v d₁.world).result with
    | ok tx =>
      have hsubmissions := submissions_goes_ok chain account source hsend
      refine ⟨_, _, _, .sent hfirst, hgoes.settle_sent chain account hsubmissions, ?_⟩
      rw [book_closed, book_afterSubmission, hbook]
    | error e =>
      by_cases hclash : e.IsClash
      · -- the second chance: the network first, then the callback
        have hbook₂ : (afterSubmission send v d₁).book = d.book := hbook
        have hrefused := hfirst.exists_refusedLine hclash
        obtain ⟨m, hanswer, hgiven⟩ | ⟨e', hnone, hlookup⟩ :=
          lookup_goes chain account source .nonceError (afterClash (afterSubmission send v d₁))
        · cases hsend' :
            (send m (afterResync source chain account (afterSubmission send v d₁)).world).result with
          | error e' =>
            have hresync := resync_goes_lost (d := afterSubmission send v d₁) chain account
              hrefused hanswer hgiven.isShown hsend'
            have hsubmissions := submissions_goes_clash chain account hsend hclash hresync
            have hsettle := hgoes.settle_failed chain account hsubmissions
            rw [← List.append_assoc, ← List.append_assoc] at hsettle
            exact ⟨_, _, _, .lost hfirst hclash hgiven, hsettle, hbook₂⟩
          | ok tx =>
            have hresync := resync_goes_recovered (d := afterSubmission send v d₁) chain account
              hrefused hanswer hgiven.isShown hsend'
            have hsubmissions := submissions_goes_clash chain account hsend hclash hresync
            have hsettle := hgoes.settle_sent chain account hsubmissions
            rw [← List.append_assoc, ← List.append_assoc] at hsettle
            refine ⟨_, _, _, .recovered hfirst hclash hgiven, hsettle, ?_⟩
            show (Ending.sent m tx).book account (afterSubmission send v d₁).book = _
            rw [hbook₂]
        · have hresync := resync_goes_unsynced chain account send hrefused hlookup
          have hsubmissions := submissions_goes_clash chain account hsend hclash hresync
          have hsettle := hgoes.settle_failed chain account hsubmissions
          rw [← List.append_assoc] at hsettle
          exact ⟨_, _, _, .unsynced hfirst hclash hnone, hsettle, hbook₂⟩
      · have hsubmissions := submissions_goes_stopped chain account source hsend hclash
        have hsettle := hgoes.settle_failed chain account hsubmissions
        exact ⟨_, _, _, .stopped hfirst hclash, hsettle, hbook⟩
  · exact ⟨_, _, _, .unstarted hnone, hgoes.settle_unstarted chain account, hbook⟩

/-- What a listener hears of a settlement. -/
def settleTalk (source : NonceSource ν σ) (chain : Int) (account : Key) (send : SendCallback ν σ)
    (d : Desk σ) : Talk :=
  said (settle source.heard chain account send.heard d).notes

/-- **A settlement that nobody listens to goes in one of these ways, too.** -/
theorem settle_sending (d : Desk σ) :
    ∃ ending,
      Sending (source.Gives chain account.value) chain account (d.book.get? account)
        (settleTalk source chain account send d) ending ∧
      (settle source chain account send d).result = ending.result ∧
      (settle source chain account send d).next.book = ending.book account d.book := by
  obtain ⟨t, ending, d', hsending, hgoes, hbook⟩ := settle_goes source send chain account d
  obtain ⟨hresult, hnext, -⟩ := hgoes.of_agree (agree_settle source send chain account)
  refine ⟨ending, ?_, hresult, ?_⟩
  · rw [settleTalk, hgoes.said]
    exact hsending
  · rw [hnext]
    exact hbook

end Desk
end Outbox
