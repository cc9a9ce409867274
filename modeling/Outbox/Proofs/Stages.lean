import Outbox.Crew.Stage
import Outbox.Proofs.Dispatching

/-!
# What is done at a stage

A request that is handled side by side with others is handled stage by stage, and all that others
can see of it is what happens between two stages.  `Passage` is the relation between the stage
before and the stage after: what is said, what becomes of the book and of the world, and what the
collaborator answered that was asked.

There is one constructor for every way out of a stage at which an errand goes on by itself.  The
main statement is `Errand.advance_passes`: **whatever an errand does there, it is one of the
passages.**  What is claimed of workers who share a desk is proved from it by cases, and the acts
of the stages are not opened again.  At the other stages, where the book changes hands, nothing is
said (`Errand.advance_leaving`).
-/

namespace Outbox

variable {ν σ α : Type}

/-! ## 1.  Passages -/

namespace Stage

/-- The stages at which an errand goes on by itself: all but those at which it waits for the book,
gives it back, or is over. -/
def goesAlone : Stage → Bool
  | .waiting | .leaving _ | .over _ => false
  | _ => true

theorem eq_of_goesAlone {stage : Stage} (h : stage.goesAlone = false) :
    stage = .waiting ∨ (∃ result, stage = .leaving result) ∨ ∃ result, stage = .over result := by
  cases stage <;> simp_all [goesAlone]

/-- The stage at which an errand is when the book has been given back. -/
def afterLeaving : Except Fault Value → Stage
  | .ok tx => .concluding tx
  | .error f => .over (.error f)

end Stage

/-- What may happen at a stage, with the given book in the given world: what is said, the stage
that follows, and the book and the world then. -/
inductive Passage (gate : Gate ν σ) (source : NonceSource ν σ) (sink : Option (ErrorSink ν σ))
    (e : Errand ν σ) (book : NonceBook) (w : σ) : Stage → Talk → Stage → NonceBook → σ → Prop
  | room (hanswer : (gate.canQueue e.sender w).result = .ok true) :
      Passage gate source sink e book w .outside
        (Talk.asksRoom e.sender (book.get? e.sender.key) (.ok true)) .inside book
        (gate.canQueue e.sender w).next
  | noRoom {answer : Except Fault Bool} {f : Fault}
      (hanswer : (gate.canQueue e.sender w).result = answer)
      (hverdict : Desk.verdict (.withDefault .queueFull) answer = .error f) :
      Passage gate source sink e book w .outside
        (Talk.asksRoom e.sender (book.get? e.sender.key) answer) (.over (.error f)) book
        (gate.canQueue e.sender w).next
  | signer (hanswer : (gate.canSign e.sender w).result = .ok true) :
      Passage gate source sink e book w .inside
        (Talk.asksSigner e.sender (book.get? e.sender.key) (.ok true)) .waiting book
        (gate.canSign e.sender w).next
  | noSigner {answer : Except Fault Bool} {f : Fault}
      (hanswer : (gate.canSign e.sender w).result = answer)
      (hverdict : Desk.verdict (.withDefault .noSigners) answer = .error f) :
      Passage gate source sink e book w .inside
        (Talk.asksSigner e.sender (book.get? e.sender.key) answer) (.over (.error f)) book
        (gate.canSign e.sender w).next
  | reads {n : Numeral} (hcached : book.get? e.sender.key = some n)
      (hline : ∃ text, Desk.usedLine e.sender.key (.ofNumeral n) = .ok text) :
      Passage gate source sink e book w .reading [] (.chosen .first (.ofNumeral n)) book w
  | cannotRead {n : Numeral} {f : Fault} (hcached : book.get? e.sender.key = some n)
      (hline : Desk.usedLine e.sender.key (.ofNumeral n) = .error f) :
      Passage gate source sink e book w .reading [] (.leaving (.error f)) book w
  | asks {v : Value} (hcached : book.get? e.sender.key = none)
      (hanswer : (source e.chain e.sender.key.value w).result = .ok v)
      (hline : ∃ text, Desk.givenLine e.sender.key e.chain v = .ok text) :
      Passage gate source sink e book w .reading (Talk.asksNonce e.chain e.sender.key (.ok v))
        (.chosen .first v) book (source e.chain e.sender.key.value w).next
  | asksInVain {answer : Except Fault Value} {f : Fault} (hcached : book.get? e.sender.key = none)
      (hanswer : (source e.chain e.sender.key.value w).result = answer)
      (hnone : NoNonce (source.Gives e.chain e.sender.key.value) e.chain e.sender.key
        (Talk.asksNonce e.chain e.sender.key answer) f) :
      Passage gate source sink e book w .reading (Talk.asksNonce e.chain e.sender.key answer)
        (.leaving (.error f)) book (source e.chain e.sender.key.value w).next
  | calls (attempt : Attempt) (nonce : Value) :
      Passage gate source sink e book w (.chosen attempt nonce) [.sends nonce]
        (.sending attempt nonce) book w
  | returns {attempt : Attempt} {nonce tx : Value}
      (hanswer : (e.send nonce w).result = .ok tx) :
      Passage gate source sink e book w (.sending attempt nonce)
        [.passes (.send nonce (.ok tx))] (.sent nonce tx) book (e.send nonce w).next
  | fails {attempt : Attempt} {nonce : Value} {f : Fault}
      (hanswer : (e.send nonce w).result = .error f) :
      Passage gate source sink e book w (.sending attempt nonce)
        [.passes (.send nonce (.error f))] (Stage.afterFault attempt nonce f) book
        (e.send nonce w).next
  | asksAgain {nonce v : Value} {refusal : Fault}
      (hrefused : ∃ text, Desk.refusedLine e.sender.key nonce refusal = .ok text)
      (hanswer : (source e.chain e.sender.key.value w).result = .ok v)
      (hline : ∃ text, Desk.givenLine e.sender.key e.chain v = .ok text) :
      Passage gate source sink e book w (.refused nonce refusal)
        (Talk.asksNonce e.chain e.sender.key (.ok v)) (.chosen .second v) book
        (source e.chain e.sender.key.value w).next
  | asksAgainInVain {nonce : Value} {refusal f : Fault} {answer : Except Fault Value}
      (hrefused : ∃ text, Desk.refusedLine e.sender.key nonce refusal = .ok text)
      (hanswer : (source e.chain e.sender.key.value w).result = answer)
      (hnone : NoNonce (source.Gives e.chain e.sender.key.value) e.chain e.sender.key
        (Talk.asksNonce e.chain e.sender.key answer) f) :
      Passage gate source sink e book w (.refused nonce refusal)
        (Talk.asksNonce e.chain e.sender.key answer) (.leaving (.error f)) book
        (source e.chain e.sender.key.value w).next
  | cannotAskAgain {nonce : Value} {refusal f : Fault}
      (hrefused : Desk.refusedLine e.sender.key nonce refusal = .error f) :
      Passage gate source sink e book w (.refused nonce refusal) [] (.leaving (.error f)) book w
  | marks {nonce tx : Value} {next : Numeral} (hnext : Nonce.next nonce = .ok next) :
      Passage gate source sink e book w (.sent nonce tx) [] (.leaving (.ok tx))
        (book.put e.sender.key next) w
  | cannotMark {nonce tx : Value} {f : Fault} (hnext : Nonce.next nonce = .error f) :
      Passage gate source sink e book w (.sent nonce tx) [] (.leaving (.error f)) book w
  | cannotLog {tx : Value} {f : Fault} (hline : Desk.sentLine e.sender e.chain = .error f) :
      Passage gate source sink e book w (.concluding tx) [] (.over (.error f)) book w
  | registers {tx : Value} (hanswer : (gate.insert tx e.terms e.sender w).result = .ok ()) :
      Passage gate source sink e book w (.concluding tx)
        (Talk.registers tx e.terms e.sender (book.get? e.sender.key) (.ok ())) (.over (.ok tx))
        book (gate.insert tx e.terms e.sender w).next
  | cannotRegister {tx : Value} {f : Fault} {t : Talk} {r : Except Fault Unit} {w' : σ}
      (hanswer : (gate.insert tx e.terms e.sender w).result = .error f)
      (hregistration :
        Registration sink.isSome tx e.terms e.sender (book.get? e.sender.key) t r)
      (hworld : w' = (gate.insert tx e.terms e.sender w).next ∨
        ∃ tell ∈ sink, ∃ report,
          w' = (tell report (gate.insert tx e.terms e.sender w).next).next) :
      Passage gate source sink e book w (.concluding tx) t (.over (r.map fun _ => tx)) book w'

/-! ## 2.  The stages behind a listener -/

/-- The errand with a listener before its callback. -/
def Errand.heard (e : Errand ν σ) : Errand Call σ := ⟨e.chain, e.sender, e.terms, e.send.heard⟩

namespace Desk

variable {x : Act (Deed ν) (Desk σ) α} {d d' : Desk σ} {t : List (Deed ν)} {a : α} {f : Fault}
  {failed : Fault → Stage} {done : α → Stage}

theorem Goes.attempt {r : Except Fault α} (hx : Goes x d r t d') :
    Goes (Act.attempt x) d (.ok r) t d' :=
  ⟨congrArg Except.ok hx.result, hx.said, hx.next⟩

theorem Goes.step_ok (hx : Goes x d (.ok a) t d') :
    Goes (Errand.step x failed done) d (.ok (done a)) t d' := by
  rw [← List.append_nil t]
  exact hx.attempt.bind (goes_pure (done a) d')

theorem Goes.step_error (hx : Goes x d (.error f) t d') :
    Goes (Errand.step x failed done) d (.ok (failed f)) t d' := by
  rw [← List.append_nil t]
  exact hx.attempt.bind (goes_pure (failed f) d')

/-- A last step has the result of what is done. -/
theorem Goes.step_over {x : Act (Deed ν) (Desk σ) Value} {r : Except Fault Value}
    (hx : Goes x d r t d') :
    Goes (Errand.step x (fun f => .over (.error f)) fun tx => .over (.ok tx)) d (.ok (.over r)) t
      d' := by
  cases r with
  | ok tx => exact hx.step_ok
  | error f => exact hx.step_error

theorem Agree.step {μ : Type} {x : Act (Deed ν) (Desk σ) α} {y : Act (Deed μ) (Desk σ) α}
    (h : Agree x y) : Agree (Errand.step x failed done) (Errand.step y failed done) := by
  refine Agree.bind (fun d => ?_) fun r => ?_
  · obtain ⟨hresult, hnext, hdeeds⟩ := h d
    exact ⟨congrArg Except.ok hresult, hnext, hdeeds⟩
  · cases r with
    | ok a => exact agree_pure (done a)
    | error f => exact agree_pure (failed f)

variable (gate : Gate ν σ) (source : NonceSource ν σ) (sink : Option (ErrorSink ν σ))

/-- **What is done at a stage is not changed by being listened to.** -/
theorem agree_advance (e : Errand ν σ) (stage : Stage) :
    Agree (e.advance gate source sink stage)
      (e.heard.advance gate.heard source.heard (sink.map ErrorSink.heard) stage) := by
  match stage with
  | .outside => exact (agree_counting _ (agree_needRoom gate e.sender)).step
  | .inside => exact (agree_counting _ (agree_needSigner gate e.sender)).step
  | .waiting => exact agree_pure Stage.reading
  | .reading => exact (agree_firstNonce source e.chain e.sender.key).step
  | .chosen attempt nonce => exact (agree_note rfl).bind fun _ => agree_pure _
  | .sending attempt nonce => exact (agree_outside _ _).step
  | .refused nonce refusal =>
    exact (agree_secondNonce source e.chain e.sender.key nonce refusal).step
  | .sent nonce tx => exact (agree_markUsed e.sender.key nonce).step
  | .leaving result => exact (agree_counting _ (agree_ofExcept result)).step
  | .concluding tx => exact (agree_conclude gate sink e.chain e.sender e.terms tx).step
  | .over result => exact agree_pure (Stage.over result)

/-! ## 3.  The ways out of a stage -/

section

variable {gate source sink} (e : Errand ν σ) (d : Desk σ)

/-- What is done at a stage, begun at a desk, is a passage. -/
def Advances (gate : Gate ν σ) (source : NonceSource ν σ) (sink : Option (ErrorSink ν σ))
    (e : Errand ν σ) (d : Desk σ) (stage : Stage) : Prop :=
  ∃ t stage' d', Passage gate source sink e d.book d.world stage t stage' d'.book d'.world ∧
    Goes (e.heard.advance gate.heard source.heard (sink.map ErrorSink.heard) stage) d (.ok stage')
      t d'

theorem result_of_verdict {denial : Fault} {answer : Except Fault Bool} {u : Unit}
    (h : verdict denial answer = .ok u) : answer = .ok true := by
  cases answer with
  | error f => simp [verdict, Except.bind] at h
  | ok granted =>
    cases granted with
    | true => rfl
    | false => simp [verdict, Except.bind] at h

theorem advances_outside : Advances gate source sink e d .outside := by
  have hroom := (needRoom_goes gate e.sender d).counting admissionOutcome
  cases hverdict : verdict (.withDefault .queueFull) (gate.canQueue e.sender d.world).result with
  | error f =>
    rw [hverdict] at hroom
    refine ⟨_, _, _, ?_, hroom.step_error⟩
    rw [book_tallied, world_tallied]
    exact .noRoom rfl hverdict
  | ok u =>
    have hanswer := result_of_verdict hverdict
    rw [hverdict, hanswer] at hroom
    exact ⟨_, _, _, .room hanswer, hroom.step_ok⟩

theorem advances_inside : Advances gate source sink e d .inside := by
  have hsigner := (needSigner_goes gate e.sender d).counting admissionOutcome
  cases hverdict : verdict (.withDefault .noSigners) (gate.canSign e.sender d.world).result with
  | error f =>
    rw [hverdict] at hsigner
    refine ⟨_, _, _, ?_, hsigner.step_error⟩
    rw [book_tallied, world_tallied]
    exact .noSigner rfl hverdict
  | ok u =>
    have hanswer := result_of_verdict hverdict
    rw [hverdict, hanswer] at hsigner
    exact ⟨_, _, _, .signer hanswer, hsigner.step_ok⟩

theorem advances_reading : Advances gate source sink e d .reading := by
  cases hcached : d.book.get? e.sender.key with
  | some n =>
    cases hline : usedLine e.sender.key (.ofNumeral n) with
    | ok text =>
      have hfirst := firstNonce_goes_cached e.chain e.sender.key source hcached ⟨text, hline⟩
      exact ⟨_, _, _, .reads hcached ⟨text, hline⟩, hfirst.step_ok⟩
    | error f =>
      have hfirst := firstNonce_goes_unshown e.chain e.sender.key source hcached hline
      exact ⟨_, _, _, .cannotRead hcached hline, hfirst.step_error⟩
  | none =>
    obtain ⟨v, hanswer, hgiven⟩ | ⟨f, hnone, hlookup⟩ :=
      lookup_goes e.chain e.sender.key source .cacheMiss d
    · have hfirst := firstNonce_goes_ok e.chain e.sender.key hcached hanswer hgiven.isShown
      exact ⟨_, _, _, .asks hcached hanswer hgiven.isShown, hfirst.step_ok⟩
    · have hfirst := hlookup.firstNonce_of_none e.chain e.sender.key hcached
      exact ⟨_, _, _, .asksInVain hcached rfl hnone, hfirst.step_error⟩

theorem advances_sending (attempt : Attempt) (nonce : Value) :
    Advances gate source sink e d (.sending attempt nonce) := by
  have hcall := goes_outside (e.send nonce) (.send nonce) d
  cases hanswer : (e.send nonce d.world).result with
  | ok tx =>
    rw [hanswer] at hcall
    exact ⟨_, _, _, .returns hanswer, hcall.step_ok⟩
  | error f =>
    rw [hanswer] at hcall
    exact ⟨_, _, _, .fails hanswer, hcall.step_error⟩

theorem advances_refused (nonce : Value) (refusal : Fault) :
    Advances gate source sink e d (.refused nonce refusal) := by
  cases hrefused : refusedLine e.sender.key nonce refusal with
  | error f =>
    have hsecond := secondNonce_goes_untold e.chain e.sender.key source hrefused d
    exact ⟨_, _, _, .cannotAskAgain hrefused, hsecond.step_error⟩
  | ok text =>
    obtain ⟨v, hanswer, hgiven⟩ | ⟨f, hnone, hlookup⟩ :=
      lookup_goes e.chain e.sender.key source .nonceError (afterClash d)
    · have hsecond := secondNonce_goes_ok (d := d) e.chain e.sender.key ⟨text, hrefused⟩ hanswer
        hgiven.isShown
      exact ⟨_, _, _, .asksAgain ⟨text, hrefused⟩ hanswer hgiven.isShown, hsecond.step_ok⟩
    · have hsecond := Goes.secondNonce e.chain e.sender.key ⟨text, hrefused⟩ hlookup
      exact ⟨_, _, _, .asksAgainInVain ⟨text, hrefused⟩ rfl hnone, hsecond.step_error⟩

theorem advances_sent (nonce tx : Value) : Advances gate source sink e d (.sent nonce tx) := by
  have hmark := markUsed_goes e.sender.key nonce tx d
  cases hnext : Nonce.next nonce with
  | error f =>
    rw [hnext] at hmark
    refine ⟨_, _, _, ?_, hmark.step_error⟩
    rw [book_closed, Ending.book, hnext]
    exact .cannotMark hnext
  | ok next =>
    rw [hnext] at hmark
    refine ⟨_, _, _, ?_, hmark.step_ok⟩
    rw [book_closed, Ending.book, hnext]
    exact .marks hnext

theorem advances_concluding (tx : Value) :
    Advances gate source sink e d (.concluding tx) := by
  cases hline : sentLine e.sender e.chain with
  | error f =>
    exact ⟨_, _, afterSent d, .cannotLog hline, (conclude_goes_unlogged hline d).step_over⟩
  | ok text =>
    have hshown : ∃ text, sentLine e.sender e.chain = .ok text := ⟨text, hline⟩
    cases hanswer : (gate.insert tx e.terms e.sender d.world).result with
    | ok u =>
      have hregister : Goes (register gate.heard (sink.map ErrorSink.heard) tx e.terms e.sender)
          (afterSent d) _ _ _ := register_goes_ok hanswer
      exact ⟨_, _, _, .registers hanswer, (hregister.conclude hshown).step_over⟩
    | error f =>
      obtain ⟨t, r, d', hregistration, hregister, hbook, hworld⟩ :=
        register_goes_failed (d := afterSent d) sink hanswer
      refine ⟨_, _, _, ?_, (hregister.conclude hshown).step_over⟩
      rw [hbook]
      exact .cannotRegister hanswer hregistration hworld

/-- An errand that goes on alone does so by a passage. -/
theorem advances {stage : Stage} (halone : stage.goesAlone = true) :
    Advances gate source sink e d stage := by
  match stage, halone with
  | .outside, _ => exact advances_outside e d
  | .inside, _ => exact advances_inside e d
  | .reading, _ => exact advances_reading e d
  | .chosen attempt nonce, _ =>
    exact ⟨_, _, _, .calls attempt nonce, (goes_note rfl d).bind (goes_pure _ d)⟩
  | .sending attempt nonce, _ => exact advances_sending e d attempt nonce
  | .refused nonce refusal, _ => exact advances_refused e d nonce refusal
  | .sent nonce tx, _ => exact advances_sent e d nonce tx
  | .concluding tx, _ => exact advances_concluding e d tx

variable (gate source sink) in
/-- The book is given back, and only a fault is counted. -/
theorem leaving_goes (result : Except Fault Value) :
    Goes (e.heard.advance gate.heard source.heard (sink.map ErrorSink.heard) (.leaving result)) d
      (.ok (Stage.afterLeaving result)) [] (tallied Fault.name result d) := by
  have hleave := (goes_ofExcept (ν := Call) result d).counting Fault.name
  cases result with
  | ok tx => exact hleave.step_ok
  | error f => exact hleave.step_error

end

end Desk

namespace Errand

variable (gate : Gate ν σ) (source : NonceSource ν σ) (sink : Option (ErrorSink ν σ))

/-- What a listener hears at a stage. -/
def talk (e : Errand ν σ) (stage : Stage) (d : Desk σ) : Talk :=
  said (e.heard.advance gate.heard source.heard (sink.map ErrorSink.heard) stage d).notes

/-- The desk does at a stage what the listener hears of it. -/
theorem ownDeeds_talk (e : Errand ν σ) (stage : Stage) (d : Desk σ) :
    ownDeeds (said (e.advance gate source sink stage d).notes) =
      ownDeeds (e.talk gate source sink stage d) := by
  obtain ⟨-, -, hdeeds⟩ := Desk.agree_advance gate source sink e stage d
  rw [talk, ownDeeds_said, ownDeeds_said, hdeeds]

/-- **Whatever an errand does that goes on alone, it is one of the passages.** -/
theorem advance_passes (e : Errand ν σ) {stage : Stage} (halone : stage.goesAlone = true)
    (d : Desk σ) :
    ∃ stage', (e.advance gate source sink stage d).result = .ok stage' ∧
      Passage gate source sink e d.book d.world stage (e.talk gate source sink stage d) stage'
        (e.advance gate source sink stage d).next.book
        (e.advance gate source sink stage d).next.world := by
  obtain ⟨t, stage', d', hpassage, hgoes⟩ : Desk.Advances gate source sink e d stage :=
    Desk.advances e d halone
  obtain ⟨hresult, hnext, -⟩ := hgoes.of_agree (Desk.agree_advance gate source sink e stage)
  refine ⟨stage', hresult, ?_⟩
  rw [talk, hgoes.said, hnext]
  exact hpassage

/-- At the return of the book nothing is said, and the book and the world stay as they are. -/
theorem advance_leaving (e : Errand ν σ) (result : Except Fault Value) (d : Desk σ) :
    (e.advance gate source sink (.leaving result) d).result = .ok (Stage.afterLeaving result) ∧
      (e.advance gate source sink (.leaving result) d).next.book = d.book ∧
      (e.advance gate source sink (.leaving result) d).next.world = d.world ∧
      e.talk gate source sink (.leaving result) d = [] := by
  have hgoes := Desk.leaving_goes gate source sink e d result
  obtain ⟨hresult, hnext, -⟩ :=
    hgoes.of_agree (Desk.agree_advance gate source sink e (.leaving result))
  refine ⟨hresult, ?_, ?_, hgoes.said⟩
  · rw [hnext, Desk.book_tallied]
  · rw [hnext, Desk.world_tallied]

end Errand
end Outbox
