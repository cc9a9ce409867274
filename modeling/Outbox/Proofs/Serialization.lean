import Outbox.Proofs.BookHolder
import Outbox.Proofs.Moves

/-!
# One settlement after another

Workers who share a desk act in any order, and still their settlements do not mix: what happens
while one of them has the book is a settlement of its own, and the next one finds the book as that
one leaves it.  So everything that is said of nonces and submissions, and the book itself, are
those of a single worker who settles the same errands one after another, in the order in which the
book was taken, and who gets the same answers.

## 1.  A settlement that is under way

`Halfway` relates the stage of an errand that holds the book to what has been said since the book
was taken.  Every passage leads from halfway to halfway, and at the end stands one of the ways of a
settlement (`Halfway.passage`).

## 2.  Settlements in turn

`InTurn` is a list of settlements, each at the book that the last one left.  `Scene.IsSerial` says
of a crew that its traffic is such a list, and a settlement halfway if the book is taken.  Every
turn keeps this (`Scene.IsSerial.turn`).

## 3.  The single worker

`Answers` is a network that answers what stands in a list, and `settleEach` is what a single worker
does with it.  The main statement is `Crew.settlesInTurn`.
-/

namespace Outbox

variable {ν σ : Type} {gate : Gate ν σ} {source : NonceSource ν σ}
  {sink : Option (ErrorSink ν σ)} {e : Errand ν σ}

/-! ## 1.  A settlement that is under way -/

theorem Stage.afterFault_first_of_clash {f : Fault} (nonce : Value) (h : f.IsClash) :
    Stage.afterFault .first nonce f = .refused nonce f := by
  simp [afterFault, h.1, h.2]

theorem Stage.afterFault_first_of_not_clash {f : Fault} (nonce : Value) (h : ¬ f.IsClash) :
    Stage.afterFault .first nonce f = .leaving (.error (f.rewrite Desk.notRetried)) := by
  unfold afterFault Fault.rewrite Desk.notRetried
  cases hf : f.isInterrupt with
  | true => rfl
  | false =>
    cases hask : f.askClash with
    | error g => rfl
    | ok clash =>
      cases clash with
      | false => rfl
      | true => exact absurd ⟨hf, hask⟩ h

theorem Stage.afterFault_second (nonce : Value) (f : Fault) :
    Stage.afterFault .second nonce f = .leaving (.error (f.rewrite Desk.notRecovered)) := by
  unfold afterFault Fault.rewrite
  cases f.isInterrupt <;> rfl

/-- How the first nonce of an errand is come by, at a book. -/
abbrev Errand.Begins (source : NonceSource ν σ) (e : Errand ν σ) (b : NonceBook) :
    Talk → Value → Prop :=
  FirstNonce (source.Gives e.chain e.sender.key.value) e.chain e.sender.key (b.get? e.sender.key)

/-- A nonce that the network may give to an errand, and that can be written into the log. -/
abbrev Errand.IsGiven (source : NonceSource ν σ) (e : Errand ν σ) : Value → Prop :=
  Outbox.IsGiven (source.Gives e.chain e.sender.key.value) e.chain e.sender.key

/-- How the settlement of an errand may go, at a book. -/
abbrev Errand.Settles (source : NonceSource ν σ) (e : Errand ν σ) (b : NonceBook) :
    Talk → Ending → Prop :=
  Sending (source.Gives e.chain e.sender.key.value) e.chain e.sender.key (b.get? e.sender.key)

/-- How far a settlement has come: the stage of its errand, what has been said since the book was
taken, and the book, which was `b` then. -/
inductive Halfway (source : NonceSource ν σ) (e : Errand ν σ) (b : NonceBook) :
    Stage → Talk → NonceBook → Prop
  | reading : Halfway source e b .reading [] b
  | chosen {t : Talk} {v : Value} (hfirst : e.Begins source b t v) :
      Halfway source e b (.chosen .first v) t b
  | sending {t : Talk} {v : Value} (hfirst : e.Begins source b t v) :
      Halfway source e b (.sending .first v) (t ++ [.sends v]) b
  | refused {t : Talk} {v : Value} {f : Fault} (hfirst : e.Begins source b t v)
      (hclash : f.IsClash) :
      Halfway source e b (.refused v f) (t ++ Talk.submits v (.error f)) b
  | chosenAgain {t : Talk} {v m : Value} {f : Fault} (hfirst : e.Begins source b t v)
      (hclash : f.IsClash) (hgiven : e.IsGiven source m) :
      Halfway source e b (.chosen .second m)
        (t ++ Talk.submits v (.error f) ++ Talk.asksNonce e.chain e.sender.key (.ok m)) b
  | sendingAgain {t : Talk} {v m : Value} {f : Fault} (hfirst : e.Begins source b t v)
      (hclash : f.IsClash) (hgiven : e.IsGiven source m) :
      Halfway source e b (.sending .second m)
        (t ++ Talk.submits v (.error f) ++ Talk.asksNonce e.chain e.sender.key (.ok m) ++
          [.sends m]) b
  | sent {t : Talk} {v tx : Value} (hsettles : e.Settles source b t (.sent v tx)) :
      Halfway source e b (.sent v tx) t b
  | leaving {t : Talk} {ending : Ending} (hsettles : e.Settles source b t ending) :
      Halfway source e b (.leaving ending.result) t (ending.book e.sender.key b)

namespace Halfway

variable {b book book' : NonceBook} {w w' : σ} {stage stage' : Stage} {t t' : Talk}

/-- A settlement that ends with a fault leaves the book alone. -/
theorem leavingFailed {f : Fault} (hsettles : e.Settles source b t (.failed f)) :
    Halfway source e b (.leaving (.error f)) t b :=
  .leaving hsettles

/-- What a submission says is the call and its answer. -/
theorem submits_eq (t : Talk) (v : Value) (answer : Except Fault Value) :
    t ++ [.sends v] ++ [.passes (.send v answer)] = t ++ Talk.submits v answer := by
  rw [List.append_assoc]
  rfl

/-- The first passage gives a nonce, or ends the settlement. -/
theorem passage_reading
    (hpassage : Passage gate source sink e b w .reading t' stage' book' w') :
    Halfway source e b stage' (Talk.traffic t') book' := by
  cases hpassage with
  | reads hcached hline =>
    refine .chosen ?_
    rw [Errand.Begins, hcached]
    exact .cached _ hline
  | cannotRead hcached hline =>
    refine .leavingFailed (.unstarted ?_)
    rw [hcached]
    exact .unshown _ hline
  | asks hcached hanswer hline =>
    refine .chosen ?_
    rw [Errand.Begins, hcached]
    exact .answered ⟨⟨w, hanswer⟩, hline⟩
  | asksInVain hcached hanswer hnone =>
    refine .leavingFailed (.unstarted ?_)
    rw [hcached]
    exact .unasked hnone

/-- The passage of a first callback. -/
theorem passage_sending {v : Value} (hfirst : e.Begins source b t v)
    (hpassage : Passage gate source sink e b w (.sending .first v) t' stage' book' w') :
    Halfway source e b stage' (t ++ [.sends v] ++ Talk.traffic t') book' := by
  cases hpassage with
  | @returns _ _ tx hanswer =>
    show Halfway source e b _ (t ++ [.sends v] ++ [.passes (.send v (.ok tx))]) b
    rw [submits_eq]
    exact .sent (.sent hfirst)
  | @fails _ _ f hanswer =>
    show Halfway source e b _ (t ++ [.sends v] ++ [.passes (.send v (.error f))]) b
    rw [submits_eq]
    by_cases hclash : f.IsClash
    · rw [Stage.afterFault_first_of_clash v hclash]
      exact .refused hfirst hclash
    · rw [Stage.afterFault_first_of_not_clash v hclash]
      exact .leavingFailed (.stopped hfirst hclash)

/-- The passage of a second callback. -/
theorem passage_sendingAgain {v m : Value} {f : Fault} (hfirst : e.Begins source b t v)
    (hclash : f.IsClash) (hgiven : e.IsGiven source m)
    (hpassage : Passage gate source sink e b w (.sending .second m) t' stage' book' w') :
    Halfway source e b stage'
      (t ++ Talk.submits v (.error f) ++ Talk.asksNonce e.chain e.sender.key (.ok m) ++
          [.sends m] ++
        Talk.traffic t') book' := by
  cases hpassage with
  | @returns _ _ tx hanswer =>
    show Halfway source e b _ (_ ++ [.sends m] ++ [.passes (.send m (.ok tx))]) b
    rw [submits_eq]
    exact .sent (.recovered hfirst hclash hgiven)
  | @fails _ _ f' hanswer =>
    show Halfway source e b _ (_ ++ [.sends m] ++ [.passes (.send m (.error f'))]) b
    rw [submits_eq, Stage.afterFault_second]
    exact .leavingFailed (.lost hfirst hclash hgiven)

/-- The passage after a refusal. -/
theorem passage_refused {v : Value} {f : Fault} (hfirst : e.Begins source b t v)
    (hclash : f.IsClash)
    (hpassage : Passage gate source sink e b w (.refused v f) t' stage' book' w') :
    Halfway source e b stage' (t ++ Talk.submits v (.error f) ++ Talk.traffic t') book' := by
  cases hpassage with
  | asksAgain hrefused hanswer hline => exact .chosenAgain hfirst hclash ⟨⟨w, hanswer⟩, hline⟩
  | asksAgainInVain hrefused hanswer hnone => exact .leavingFailed (.unsynced hfirst hclash hnone)
  | cannotAskAgain hrefused =>
    -- a nonce that has been shown before can be shown again
    obtain ⟨text, hline⟩ := hfirst.exists_refusedLine hclash
    exact absurd (hline.symm.trans hrefused) (by simp)

/-- The passage that marks a nonce. -/
theorem passage_sent {v tx : Value} (hsettles : e.Settles source b t (.sent v tx))
    (hpassage : Passage gate source sink e b w (.sent v tx) t' stage' book' w') :
    Halfway source e b stage' (t ++ Talk.traffic t') book' := by
  have hleaving := Halfway.leaving hsettles
  cases hpassage with
  | marks hnext =>
    rw [Ending.result_sent, Ending.book, hnext, ← List.append_nil t] at hleaving
    exact hleaving
  | cannotMark hnext =>
    rw [Ending.result_sent, Ending.book, hnext, ← List.append_nil t] at hleaving
    exact hleaving

/-- **A passage leads from halfway to halfway.** -/
theorem passage (h : Halfway source e b stage t book)
    (hpassage : Passage gate source sink e book w stage t' stage' book' w') :
    Halfway source e b stage' (t ++ Talk.traffic t') book' := by
  cases h with
  | reading => exact passage_reading hpassage
  | chosen hfirst =>
    cases hpassage with
    | calls => exact .sending hfirst
  | sending hfirst => exact passage_sending hfirst hpassage
  | refused hfirst hclash => exact passage_refused hfirst hclash hpassage
  | chosenAgain hfirst hclash hgiven =>
    cases hpassage with
    | calls => exact .sendingAgain hfirst hclash hgiven
  | sendingAgain hfirst hclash hgiven => exact passage_sendingAgain hfirst hclash hgiven hpassage
  | sent hsettles => exact passage_sent hsettles hpassage
  | leaving hsettles => cases hpassage

/-- A chosen nonce can be submitted, and the submission may return. -/
theorem exists_settles_of_begins {v : Value} (hfirst : e.Begins source b t v) :
    ∃ rest ending, e.Settles source b (t ++ rest) ending :=
  ⟨Talk.submits v (.ok .null), .sent v .null, .sent hfirst⟩

/-- **What is halfway can be brought to an end.** -/
theorem exists_settles (h : Halfway source e b stage t book) :
    ∃ rest ending, e.Settles source b (t ++ rest) ending := by
  cases h with
  | reading =>
    cases hcached : b.get? e.sender.key with
    | none =>
      refine ⟨Talk.asksNonce e.chain e.sender.key (.error default),
        .failed ((default : Fault).rewrite Desk.notLookedUp), .unstarted ?_⟩
      rw [hcached]
      exact .unasked (.unanswered default)
    | some n =>
      cases hline : Desk.usedLine e.sender.key (.ofNumeral n) with
      | error f =>
        refine ⟨[], .failed f, .unstarted ?_⟩
        rw [hcached]
        exact .unshown n hline
      | ok text =>
        have hfirst : e.Begins source b [] (.ofNumeral n) := by
          rw [Errand.Begins, hcached]
          exact .cached n ⟨text, hline⟩
        exact exists_settles_of_begins hfirst
  | chosen hfirst => exact exists_settles_of_begins hfirst
  | @sending t v hfirst =>
    refine ⟨[.passes (.send v (.ok .null))], .sent v .null, ?_⟩
    rw [submits_eq]
    exact .sent hfirst
  | refused hfirst hclash =>
    exact ⟨Talk.asksNonce _ _ (.error default), _, .unsynced hfirst hclash (.unanswered default)⟩
  | @chosenAgain t v m f hfirst hclash hgiven =>
    exact ⟨Talk.submits m (.ok .null), .sent m .null, .recovered hfirst hclash hgiven⟩
  | @sendingAgain t v m f hfirst hclash hgiven =>
    refine ⟨[.passes (.send m (.ok .null))], .sent m .null, ?_⟩
    rw [submits_eq]
    exact .recovered hfirst hclash hgiven
  | sent hsettles => exact ⟨[], _, by rwa [List.append_nil]⟩
  | leaving hsettles => exact ⟨[], _, by rwa [List.append_nil]⟩

end Halfway

/-! ## 2.  Settlements in turn -/

/-- The errands are settled one after another, each at the book that the last one left. -/
inductive InTurn (source : NonceSource ν σ) (start : NonceBook) :
    List (Errand ν σ) → Talk → NonceBook → Prop
  | nil : InTurn source start [] [] start
  | snoc {es : List (Errand ν σ)} {t t' : Talk} {b : NonceBook} {e : Errand ν σ} {ending : Ending}
      (h : InTurn source start es t b) (hsettles : e.Settles source b t' ending) :
      InTurn source start (es ++ [e]) (t ++ t') (ending.book e.sender.key b)

/-- The traffic of a scene is that of settlements in turn, the last of them halfway if somebody has
the book. -/
inductive Scene.IsSerial (source : NonceSource ν σ) (start : NonceBook) (s : Scene ν σ) : Prop
  | free (hfree : ∀ w ∈ s.workers, w.holdsBook = false)
      (hturns : InTurn source start s.taken (Talk.traffic s.talk) s.book)
  | held {w : Worker ν σ} {e : Errand ν σ} {stage : Stage} {es : List (Errand ν σ)} {t t' : Talk}
      {b : NonceBook} (hw : w ∈ s.workers) (hhand : w.hand = some (e, stage))
      (hholds : stage.holdsBook = true) (htaken : s.taken = es ++ [e])
      (hturns : InTurn source start es t b) (htalk : Talk.traffic s.talk = t ++ t')
      (hhalfway : Halfway source e b stage t' s.book)

namespace Scene.IsSerial

variable {start book book' : NonceBook} {world world' : σ} {before after : List (Worker ν σ)}
  {w w' : Worker ν σ} {holder holder' : Option Nat} {taken : List (Errand ν σ)}
  {talk talk' t : Talk} {stage stage' : Stage}

/-- What a worker does who has not the book and does not take it is of no account. -/
theorem replace (h : IsSerial source start ⟨book, world, before ++ w :: after, holder, taken, talk⟩)
    (hw : w.holdsBook = false) (hw' : w'.holdsBook = false)
    (htraffic : Talk.traffic talk' = Talk.traffic talk) :
    IsSerial source start ⟨book, world', before ++ w' :: after, holder', taken, talk'⟩ := by
  cases h with
  | free hfree hturns =>
    exact .free (forall_replace hfree hw') (htraffic ▸ hturns)
  | @held v e stage es t t' b hv hhand hholds htaken hturns htalk hhalfway =>
    refine .held ?_ hhand hholds htaken hturns (htraffic.trans htalk) hhalfway
    have hv' := Worker.holdsBook_of_hand hhand
    simp only [List.mem_append, List.mem_cons] at hv ⊢
    rcases hv with hv | rfl | hv
    · exact .inl hv
    · exact absurd (hw.symm.trans (hv'.trans hholds)) (by simp)
    · exact .inr (.inr hv)

/-- The settlement that is halfway is that of the worker who has the book. -/
theorem exists_halfway
    (h : IsSerial source start ⟨book, world, before ++ w :: after, holder, taken, talk⟩)
    (hexclusive : IsExclusive ⟨book, world, before ++ w :: after, holder, taken, talk⟩)
    (hhand : w.hand = some (e, stage)) (hholds : stage.holdsBook = true) :
    ∃ es t t' b, taken = es ++ [e] ∧ InTurn source start es t b ∧ Talk.traffic talk = t ++ t' ∧
      Halfway source e b stage t' book := by
  have hw : w.holdsBook = true := (Worker.holdsBook_of_hand hhand).trans hholds
  cases h with
  | free hfree hturns => exact absurd (hw.symm.trans (hfree w (by simp))) (by simp)
  | @held v e' stage'' es t t' b hv hhand' hholds' htaken hturns htalk hhalfway =>
    have hv' : v.holdsBook = true := (Worker.holdsBook_of_hand hhand').trans hholds'
    have hothers := (hexclusive.alone hw).2
    obtain rfl : v = w := by
      simp only [List.mem_append, List.mem_cons] at hv hothers
      rcases hv with hv | rfl | hv
      · exact absurd (hv'.symm.trans (hothers v (.inl hv))) (by simp)
      · rfl
      · exact absurd (hv'.symm.trans (hothers v (.inr hv))) (by simp)
    obtain ⟨rfl, rfl⟩ : e' = e ∧ stage'' = stage := by
      simpa using hhand'.symm.trans hhand
    exact ⟨es, t, t', b, htaken, hturns, htalk, hhalfway⟩

/-- An errand that goes on by itself without the book has no traffic and leaves the book alone. -/
theorem quiet_of_passage
    (hpassage : Passage gate source sink e book world stage t stage' book' world')
    (hholds : stage.holdsBook = false) : Talk.traffic t = [] ∧ book' = book := by
  cases hpassage with
  | room => exact ⟨rfl, rfl⟩
  | noRoom => exact ⟨rfl, rfl⟩
  | signer => exact ⟨rfl, rfl⟩
  | noSigner => exact ⟨rfl, rfl⟩
  | cannotLog hline => exact ⟨rfl, rfl⟩
  | registers => exact ⟨rfl, rfl⟩
  | cannotRegister hanswer hregistration hworld =>
    exact ⟨Talk.traffic_registration hregistration, rfl⟩
  | _ => simp [Stage.holdsBook] at hholds

/-- **Every turn leaves the settlements in turn.** -/
theorem turn {s s' : Scene ν σ} (h : Scene.Turn gate source sink s s')
    (hexclusive : s.IsExclusive) (hs : s.IsSerial source start) : s'.IsSerial source start := by
  have hexclusive' := hexclusive.turn h
  cases h with
  | rests => exact hs
  | putsAway hhand => exact hs.replace (Worker.holdsBook_of_hand hhand) rfl rfl
  | declines hhand htodo haccept => exact hs.replace (Worker.holdsBook_of_none hhand) rfl rfl
  | @takesUp book world before after w holder taken talk job jobs sender terms hhand htodo
      haccept =>
    refine hs.replace (Worker.holdsBook_of_none hhand) ?_ rfl
    show Stage.holdsBook (if job.request.isForced then .waiting else .outside) = false
    split <;> rfl
  | @takesBook book world before after w taken talk e hhand =>
    cases hs with
    | free hfree hturns =>
      exact .held (List.mem_append_right _ (List.mem_cons_self ..)) rfl rfl rfl hturns
        (List.append_nil _).symm .reading
    | held hw hhand' hholds htaken hturns htalk hhalfway =>
      have hnobody := hexclusive.nobody rfl _ hw
      exact absurd (hnobody.symm.trans ((Worker.holdsBook_of_hand hhand').trans hholds)) (by simp)
  | @givesBack book world before after w holder taken talk e result hhand =>
    obtain ⟨es, t, t', b, rfl, hturns, htalk, hhalfway⟩ := hs.exists_halfway hexclusive hhand rfl
    refine .free (hexclusive'.nobody rfl) ?_
    rw [htalk]
    cases hhalfway with
    | leaving hsettles => exact hturns.snoc hsettles
  | @goesOn book book' world world' before after w holder taken talk t e stage stage' hhand
      hpassage =>
    cases hholds : stage.holdsBook with
    | false =>
      obtain ⟨hquiet, rfl⟩ := quiet_of_passage hpassage hholds
      refine hs.replace ((Worker.holdsBook_of_hand hhand).trans hholds) ?_ ?_
      · exact hpassage.holdsBook_eq.trans hholds
      · rw [Talk.traffic_append, hquiet, List.append_nil]
    | true =>
      obtain ⟨es, t₁, t₂, b, htaken, hturns, htalk, hhalfway⟩ :=
        hs.exists_halfway hexclusive hhand hholds
      refine .held (List.mem_append_right _ (List.mem_cons_self ..)) rfl
        (hpassage.holdsBook_eq.trans hholds) htaken hturns ?_ (hhalfway.passage hpassage)
      show Talk.traffic (talk ++ t) = _
      rw [Talk.traffic_append, htalk, List.append_assoc]

end Scene.IsSerial

/-! ## 3.  The single worker -/

/-- Answers that are still to be given. -/
abbrev Answers := List (Except Fault Value)

namespace Answers

/-- Gives the next answer. -/
def next : Act Empty Answers Value
  | [] => ⟨.error { kind := .foreign "BaseException" .order, args := [] }, [], []⟩
  | answer :: answers => ⟨answer, [], answers⟩

/-- The network that gives one answer after another. -/
def network : NonceSource Empty Answers := fun _ _ => next

/-- The callback that gives one answer after another. -/
def callback : SendCallback Empty Answers := fun _ => next

end Answers

/-- The answers of the network and of the callbacks in a conversation. -/
def Talk.answers (t : Talk) : Answers :=
  t.filterMap fun
    | .passes (.nonce _ _ answer) => some answer
    | .passes (.send _ answer) => some answer
    | _ => none

@[simp] theorem Talk.answers_append (s t : Talk) : answers (s ++ t) = answers s ++ answers t :=
  List.filterMap_append

@[simp] theorem Talk.answers_asksNonce (chain : Int) (account : Key) (answer : Except Fault Value) :
    answers (asksNonce chain account answer) = [answer] := rfl

@[simp] theorem Talk.answers_submits (nonce : Value) (answer : Except Fault Value) :
    answers (submits nonce answer) = [answer] := rfl

/-- Settles errands one after another, whatever comes of each. -/
def settleEach : List (Errand ν σ) → Act (Deed Call) (Desk Answers) Unit
  | [] => return ()
  | e :: es => do
    let _ ← Act.attempt
      (Desk.settle Answers.network.heard e.chain e.sender.key Answers.callback.heard)
    settleEach es

namespace Desk

variable {chain : Int} {account : Key} {given : Value → Prop} {d : Desk Answers} {t : Talk}
  {more : Answers} {answer : Except Fault Value}

theorem result_network (hworld : d.world = answer :: more) :
    (Answers.network chain account.value d.world).result = answer := by
  rw [hworld]
  rfl

theorem world_afterLookup (reason : LookupReason) (hworld : d.world = answer :: more) :
    (afterLookup Answers.network chain account reason d).world = more := by
  show (Answers.network chain account.value d.world).next = more
  rw [hworld]
  rfl

theorem result_callback (nonce : Value) (hworld : d.world = answer :: more) :
    (Answers.callback nonce d.world).result = answer := by
  rw [hworld]
  rfl

theorem world_afterSubmission (nonce : Value) (hworld : d.world = answer :: more) :
    (afterSubmission Answers.callback nonce d).world = more := by
  show (Answers.callback nonce d.world).next = more
  rw [hworld]
  rfl

/-- With the answers that were heard the first nonce is come by in the same way. -/
theorem firstNonce_goes_answers {v : Value}
    (h : FirstNonce given chain account (d.book.get? account) t v)
    (hworld : d.world = t.answers ++ more) :
    ∃ d', Goes (firstNonce Answers.network.heard chain account) d (.ok v) t d' ∧
      d'.book = d.book ∧ d'.world = more := by
  generalize hcached : d.book.get? account = cached at h
  cases h with
  | cached n hline =>
    exact ⟨d, firstNonce_goes_cached chain account _ hcached hline, rfl, hworld⟩
  | answered hgiven =>
    have hfirst := firstNonce_goes_ok chain account hcached (result_network hworld) hgiven.isShown
    exact ⟨_, hfirst, rfl, world_afterLookup _ hworld⟩

/-- With the answer that was heard a question for a nonce comes to nothing in the same way. -/
theorem lookup_goes_answers {f : Fault} (reason : LookupReason)
    (h : NoNonce given chain account t f) (hworld : d.world = t.answers ++ more) :
    Goes (lookup Answers.network.heard chain account reason) d (.error f) t
        (afterLookup Answers.network chain account reason d) ∧
      (afterLookup Answers.network chain account reason d).world = more := by
  cases h with
  | unanswered cause =>
    exact ⟨lookup_goes_error chain account reason (result_network hworld),
      world_afterLookup reason hworld⟩
  | unshown hgiven hline =>
    exact ⟨lookup_goes_unshown chain account reason (result_network hworld) hline,
      world_afterLookup reason hworld⟩

/-- With the answers that were heard a settlement without a first nonce goes in the same way. -/
theorem unstarted_goes_answers {f : Fault}
    (h : NoFirstNonce given chain account (d.book.get? account) t f)
    (hworld : d.world = t.answers ++ more) :
    ∃ d', Goes (firstNonce Answers.network.heard chain account) d (.error f) t d' ∧
      d'.book = d.book ∧ d'.world = more := by
  generalize hcached : d.book.get? account = cached at h
  cases h with
  | unshown n hline =>
    exact ⟨d, firstNonce_goes_unshown chain account _ hcached hline, rfl, hworld⟩
  | unasked hnone =>
    obtain ⟨hlookup, hmore⟩ := lookup_goes_answers .cacheMiss hnone hworld
    exact ⟨_, hlookup.firstNonce_of_none chain account hcached, rfl, hmore⟩

/-- With the answers that were heard a first submission is answered in the same way. -/
theorem submission_goes_answers {v : Value}
    (h : FirstNonce given chain account (d.book.get? account) t v)
    (hworld : d.world = t.answers ++ (answer :: more)) :
    ∃ d', Goes (firstNonce Answers.network.heard chain account) d (.ok v) t d' ∧
      d'.book = d.book ∧ (Answers.callback v d'.world).result = answer ∧
      (afterSubmission Answers.callback v d').world = more := by
  obtain ⟨d', hgoes, hbook, hworld'⟩ := firstNonce_goes_answers h hworld
  exact ⟨d', hgoes, hbook, result_callback v hworld', world_afterSubmission v hworld'⟩

/-- With the answers that were heard a second nonce is come by, and its submission answered, in the
same way. -/
theorem resync_answers (chain : Int) (account : Key) {m : Value}
    (hworld : d.world = .ok m :: answer :: more) :
    (Answers.network chain account.value d.world).result = .ok m ∧
      (Answers.callback m (afterResync Answers.network chain account d).world).result = answer ∧
      (afterSubmission Answers.callback m (afterResync Answers.network chain account d)).world =
        more := by
  have hworld' : (afterResync Answers.network chain account d).world = answer :: more :=
    world_afterLookup .nonceError hworld
  exact ⟨result_network hworld, result_callback m hworld', world_afterSubmission m hworld'⟩

/-- **With the answers that were heard a settlement goes in the same way.** -/
theorem settle_goes_answers {ending : Ending}
    (h : Sending given chain account (d.book.get? account) t ending)
    (hworld : d.world = t.answers ++ more) :
    ∃ d', Goes (settle Answers.network.heard chain account Answers.callback.heard) d ending.result
        t d' ∧
      d'.book = ending.book account d.book ∧ d'.world = more := by
  cases h with
  | unstarted hnone =>
    obtain ⟨d₁, hgoes, hbook, hmore⟩ := unstarted_goes_answers hnone hworld
    exact ⟨d₁, hgoes.settle_unstarted chain account, hbook, hmore⟩
  | @sent t v tx hfirst =>
    have hanswers : d.world = t.answers ++ (.ok tx :: more) := by simpa using hworld
    obtain ⟨d₁, hgoes, hbook, hsent, hmore⟩ := submission_goes_answers hfirst hanswers
    have hsubmissions := submissions_goes_ok chain account Answers.network hsent
    refine ⟨_, hgoes.settle_sent chain account hsubmissions, ?_, hmore⟩
    rw [book_closed, book_afterSubmission, hbook]
  | @stopped t v f hfirst hclash =>
    have hanswers : d.world = t.answers ++ (.error f :: more) := by simpa using hworld
    obtain ⟨d₁, hgoes, hbook, hrefused, hmore⟩ := submission_goes_answers hfirst hanswers
    have hsubmissions := submissions_goes_stopped chain account Answers.network hrefused hclash
    exact ⟨_, hgoes.settle_failed chain account hsubmissions, hbook, hmore⟩
  | @unsynced t t' v f f' hfirst hclash hnone =>
    have hanswers : d.world = t.answers ++ (.error f :: (t'.answers ++ more)) := by
      simpa using hworld
    obtain ⟨d₁, hgoes, hbook, hrefused, hmore⟩ := submission_goes_answers hfirst hanswers
    obtain ⟨hlookup, hmore'⟩ := lookup_goes_answers
      (d := afterClash (afterSubmission Answers.callback v d₁)) .nonceError hnone hmore
    have hresync := resync_goes_unsynced chain account Answers.callback
      (hfirst.exists_refusedLine hclash) hlookup
    have hsubmissions := submissions_goes_clash chain account hrefused hclash hresync
    have hsettle := hgoes.settle_failed chain account hsubmissions
    rw [← List.append_assoc] at hsettle
    exact ⟨_, hsettle, hbook, hmore'⟩
  | @lost t v m f f' hfirst hclash hgiven =>
    have hanswers : d.world = t.answers ++ (.error f :: .ok m :: .error f' :: more) := by
      simpa using hworld
    obtain ⟨d₁, hgoes, hbook, hrefused, hmore⟩ := submission_goes_answers hfirst hanswers
    obtain ⟨hasked, hlost, hmore'⟩ := resync_answers chain account hmore
    have hresync := resync_goes_lost chain account (hfirst.exists_refusedLine hclash) hasked
      hgiven.isShown hlost
    have hsubmissions := submissions_goes_clash chain account hrefused hclash hresync
    have hsettle := hgoes.settle_failed chain account hsubmissions
    rw [← List.append_assoc, ← List.append_assoc] at hsettle
    exact ⟨_, hsettle, hbook, hmore'⟩
  | @recovered t v m tx f hfirst hclash hgiven =>
    have hanswers : d.world = t.answers ++ (.error f :: .ok m :: .ok tx :: more) := by
      simpa using hworld
    obtain ⟨d₁, hgoes, hbook, hrefused, hmore⟩ := submission_goes_answers hfirst hanswers
    obtain ⟨hasked, hsent, hmore'⟩ := resync_answers chain account hmore
    have hresync := resync_goes_recovered chain account (hfirst.exists_refusedLine hclash) hasked
      hgiven.isShown hsent
    have hsubmissions := submissions_goes_clash chain account hrefused hclash hresync
    have hsettle := hgoes.settle_sent chain account hsubmissions
    rw [← List.append_assoc, ← List.append_assoc] at hsettle
    refine ⟨_, hsettle, ?_, hmore'⟩
    show (Ending.sent m tx).book account d₁.book = _
    rw [hbook]

end Desk

theorem settleEach_append (es fs : List (Errand ν σ)) :
    settleEach (es ++ fs) = settleEach es >>= fun _ => settleEach fs := by
  induction es with
  | nil => simp [settleEach]
  | cons e es ih => simp [settleEach, ih]

/-- With the answers that were heard settlements in turn go in the same way. -/
theorem InTurn.settleEach_goes {start book : NonceBook} {es : List (Errand ν σ)} {t : Talk}
    (h : InTurn source start es t book) {d : Desk Answers} {more : Answers}
    (hbook : d.book = start) (hworld : d.world = t.answers ++ more) :
    ∃ d', Desk.Goes (settleEach es) d (.ok ()) t d' ∧ d'.book = book ∧ d'.world = more := by
  induction h generalizing more with
  | nil => exact ⟨d, Desk.goes_pure () d, hbook, hworld⟩
  | @snoc es t t' b e ending h hsettles ih =>
    have hbefore : d.world = t.answers ++ (t'.answers ++ more) := by simpa using hworld
    obtain ⟨d₁, hgoes, hbook₁, hworld₁⟩ := ih hbefore
    rw [Errand.Settles, ← hbook₁] at hsettles
    obtain ⟨d₂, hsettle, hbook₂, hworld₂⟩ := Desk.settle_goes_answers hsettles hworld₁
    refine ⟨d₂, ?_, by rw [hbook₂, hbook₁], hworld₂⟩
    rw [settleEach_append]
    refine hgoes.bind ?_
    rw [← List.append_nil t']
    exact hsettle.attempt.bind (Desk.goes_pure () d₂)

namespace Crew

/-- A crew with nothing in hand begins with no settlement. -/
theorem isSerial_start (desk : Desk σ) {workers : List (Worker ν σ)}
    (hidle : ∀ w ∈ workers, w.hand = none) :
    ((Crew.start desk workers).scene []).IsSerial source desk.book :=
  .free (fun w hw => Worker.holdsBook_of_none (hidle w hw)) .nil

/-- After every schedule the holder is alone, and the settlements are in turn. -/
theorem run_isSerial (gate : Gate ν σ) (source : NonceSource ν σ) (sink : Option (ErrorSink ν σ))
    (desk : Desk σ) {workers : List (Worker ν σ)} (hidle : ∀ w ∈ workers, w.hand = none)
    (schedule : List Nat) :
    (((Crew.start desk workers).run gate source sink schedule).scene
        ((Crew.start desk workers).heard gate source sink schedule)).IsExclusive ∧
      (((Crew.start desk workers).run gate source sink schedule).scene
        ((Crew.start desk workers).heard gate source sink schedule)).IsSerial source desk.book := by
  refine run_induction (P := fun s => s.IsExclusive ∧ s.IsSerial source desk.book)
    (fun s s' hturn h => ⟨h.1.turn hturn, h.2.turn hturn h.1⟩) (Crew.start desk workers) schedule []
    ⟨isExclusive_start desk hidle [], isSerial_start desk hidle⟩

/-- What a single worker does who settles the errands of a crew in the order in which the book was
taken, at the book with which the crew began and with the given answers. -/
def inTurn (crew : Crew ν σ) (start : NonceBook) (answers : Answers) :
    Outcome (Deed Call) (Desk Answers) Unit :=
  settleEach crew.taken { book := start, world := answers }

/-- **The settlements of a crew are those of a single worker.**  A single worker who gets the
answers that a crew has heard says what the crew has said, as far as nonces and submissions are
concerned; and if the book is not free, what the worker says goes on from there until the last
settlement is over.  If the book is free the single worker leaves the same book. -/
theorem settlesInTurn {crew : Crew ν σ} {talk : Talk} {start : NonceBook}
    (hexclusive : (crew.scene talk).IsExclusive)
    (hserial : (crew.scene talk).IsSerial source start) :
    ∃ rest : Talk,
      said (crew.inTurn start (Talk.traffic talk ++ rest).answers).notes =
          Talk.traffic talk ++ rest ∧
        (crew.holder = none → rest = [] ∧
          (crew.inTurn start (Talk.traffic talk ++ rest).answers).next.book = crew.desk.book) := by
  cases hserial with
  | free hfree hturns =>
    obtain ⟨d', hgoes, hbook, -⟩ := hturns.settleEach_goes
      (d := { book := start, world := (Talk.traffic talk).answers }) rfl (List.append_nil _).symm
    refine ⟨[], ?_, fun _ => ⟨rfl, ?_⟩⟩
    · rw [List.append_nil]
      exact hgoes.said
    · rw [List.append_nil]
      exact (congrArg Desk.book hgoes.next).trans hbook
  | @held w e stage es t t' b hw hhand hholds htaken hturns htalk hhalfway =>
    obtain ⟨rest, ending, hsettles⟩ := hhalfway.exists_settles
    have hwhole := hturns.snoc hsettles
    rw [← List.append_assoc, ← htalk] at hwhole
    obtain ⟨d', hgoes, -, -⟩ := hwhole.settleEach_goes
      (d := { book := start, world := (Talk.traffic talk ++ rest).answers }) rfl
      (List.append_nil _).symm
    refine ⟨rest, ?_, fun hfree => ?_⟩
    · rw [inTurn, show crew.taken = es ++ [e] from htaken]
      exact hgoes.said
    · have hnobody := hexclusive.nobody hfree w hw
      exact absurd (hnobody.symm.trans ((Worker.holdsBook_of_hand hhand).trans hholds)) (by simp)

end Crew
end Outbox
