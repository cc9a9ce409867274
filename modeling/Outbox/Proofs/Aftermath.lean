import Outbox.Proofs.Endings

/-!
# After a transaction is out

When a submission has returned the transaction is out, and whoever is told otherwise will send it
again.  What is left to do is to tell the gate of it, once, and if the gate fails to tell the sink,
once.  `Aftermath` says this of the whole conversation of a dispatch and of its result.

The gate may fail and the transaction is returned.  Not so the sink: nobody is told of its fault but
the caller, and so a transaction that is out may be reported as failed (`LastWord.sent_not_returned`).
And not so the texts that have to be formed on the way, for the log and for the sink: if the number
of the chain cannot be written, then nobody is told of the transaction, and if the fault of the gate
has no text, then nobody is told of that fault.  `dispatch_sentOnce` says what holds whatever the
sink and the texts do.
-/

namespace Outbox

variable {ν σ : Type}

/-- What follows a transaction that is out: the gate is told of it once, and the sink of the gate's
fault, if there is one of either, and as far as there are texts for it. -/
inductive Aftermath (attached : Bool) (chain : Int) (tx : Value) (t : Talk) :
    Except Fault Value → Prop
  | unlogged (hchain : Literal.isWritable chain = false) (hgate : t.registrations = [])
      (hsink : t.tellings = []) : Aftermath attached chain tx t (.error .tooManyDigits)
  | registered (hgate : t.registrations = [(tx, .ok ())]) (hsink : t.tellings = []) :
      Aftermath attached chain tx t (.ok tx)
  | unspoken {cause e : Fault} (hgate : t.registrations = [(tx, .error cause)])
      (htext : cause.askText = .error e) (hsink : t.tellings = []) :
      Aftermath attached chain tx t (.error e)
  | unheard {cause : Fault} (hgate : t.registrations = [(tx, .error cause)])
      (hattached : attached = false) (hsink : t.tellings = []) :
      Aftermath attached chain tx t (.ok tx)
  | reported {cause e : Fault} {answer : Except Fault Unit}
      (hgate : t.registrations = [(tx, .error cause)]) (hattached : attached = true)
      (hwraps : Fault.Wraps .dispatch cause e) (hsink : t.tellings = [(e, answer)]) :
      Aftermath attached chain tx t (answer.map fun _ => tx)

/-- If a report can be made, then its cause is the fault that it is about. -/
theorem Desk.wraps_of_notRegistered {cause report : Fault} (h : notRegistered cause = .ok report) :
    Fault.Wraps .dispatch cause report := by
  obtain ⟨text, rfl⟩ := eq_wrap_of_notRegistered h
  exact Fault.wraps_wrap _ _ _

/-- A registration is all that follows. -/
theorem Registration.aftermath {attached : Bool} {chain : Int} {tx : Value} {terms : Terms}
    {sender : Address} {cached : Option Numeral} {s t : Talk} {r : Except Fault Unit}
    (h : Registration attached tx terms sender cached t r)
    (hbefore : ∀ call ∈ s.calls, call.part ≠ .registration)
    (hordinary : ∀ cause, (tx, .error cause) ∈ (s ++ t).registrations → cause.isInterrupt = false) :
    Aftermath attached chain tx (s ++ t) (r.map fun _ => tx) := by
  have hregistrations := Talk.registrations_after hbefore t
  have htellings := Talk.tellings_after hbefore t
  cases h with
  | registered => exact .registered hregistrations htellings
  | @interrupted e he =>
    have hinterrupt := hordinary e (hregistrations ▸ List.mem_singleton.mpr rfl)
    exact absurd hinterrupt (by simp [he])
  | unspoken he hreport =>
    exact .unspoken hregistrations (Desk.askText_of_notRegistered_error hreport) htellings
  | unheard he hreport hsink => exact .unheard hregistrations hsink htellings
  | reported he hreport hsink answer =>
    exact .reported hregistrations hsink (Desk.wraps_of_notRegistered hreport) htellings

/-- The transaction is returned, if all the texts can be formed and the sink does not fail. -/
theorem Aftermath.returned {attached : Bool} {chain : Int} {tx : Value} {t : Talk}
    {result : Except Fault Value} (h : Aftermath attached chain tx t result)
    (hchain : Literal.isWritable chain = true)
    (hspeaks : ∀ cause, (tx, .error cause) ∈ t.registrations → ∃ text, cause.askText = .ok text)
    (hheard : ∀ telling ∈ t.tellings, telling.2 = .ok ()) : result = .ok tx := by
  cases h with
  | unlogged hunwritable => exact absurd (hchain.symm.trans hunwritable) (by simp)
  | registered hgate hsink => rfl
  | @unspoken cause e hgate htext hsink =>
    obtain ⟨text, htext'⟩ := hspeaks cause (by simp [hgate])
    exact absurd (htext.symm.trans htext') (by simp)
  | unheard hgate hattached hsink => rfl
  | @reported cause e answer hgate hattached hwraps hsink =>
    obtain rfl : answer = .ok () := hheard (e, answer) (by simp [hsink])
    rfl

/-- **What is out is registered once.**  If a submission returns with a transaction, then the gate
is told of that transaction once; if it fails to take it, the sink is told once, with the fault of
the gate as the cause, and otherwise not at all.  The dispatch returns the transaction, unless the
sink fails.  All this holds as far as the texts can be formed: without a line for the log the gate
is not told, and without a text of the gate's fault the sink is not told, and the dispatch ends with
the fault of forming the text.  The fault of the gate is no order to stop; nothing else is assumed of
anyone. -/
theorem Desk.dispatch_sentOnce (gate : Gate ν σ) (answer : Int → Value → Act ν σ Int)
    (sink : Option (ErrorSink ν σ)) (chain : Int) (request : Request) (send : SendCallback ν σ)
    (d : Desk σ) (nonce tx : Value)
    (hsent : Call.send nonce (.ok tx) ∈
      (dispatchTalk gate (.whole answer) sink chain request send d).calls)
    (hordinary : ∀ cause, (tx, .error cause) ∈
      (dispatchTalk gate (.whole answer) sink chain request send d).registrations →
        cause.isInterrupt = false) :
    Aftermath sink.isSome chain tx (dispatchTalk gate (.whole answer) sink chain request send d)
        (dispatch gate (.whole answer) sink chain request send d).result ∧
      (Literal.isWritable chain = true →
        (∀ cause, (tx, .error cause) ∈
          (dispatchTalk gate (.whole answer) sink chain request send d).registrations →
            ∃ text, cause.askText = .ok text) →
        (∀ telling ∈ (dispatchTalk gate (.whole answer) sink chain request send d).tellings,
          telling.2 = .ok ()) →
        (dispatch gate (.whole answer) sink chain request send d).result = .ok tx) := by
  have hdispatching := dispatch_dispatching gate answer sink chain request send d
  generalize dispatchTalk gate (.whole answer) sink chain request send d = talk at *
  generalize (dispatch gate (.whole answer) sink chain request send d).result = result at *
  generalize (dispatch gate (.whole answer) sink chain request send d).next.book = book at *
  suffices haftermath : Aftermath sink.isSome chain tx talk result from
    ⟨haftermath, haftermath.returned⟩
  cases hdispatching with
  | declined haccept => simp [Talk.calls] at hsent
  | refused haccept hadmission => exact absurd (hadmission.part_eq _ hsent) (by simp [Call.part])
  | failed haccept hadmission hsending =>
    rw [Talk.calls_append, List.mem_append] at hsent
    rcases hsent with hsent | hsent
    · exact absurd (hadmission.part_eq _ hsent) (by simp [Call.part])
    · exact absurd (hsending.mem_calls_iff.mp hsent) (by simp)
  | @unlogged sender terms t₁ t₂ n tx' e haccept hadmission hsending hline =>
    obtain rfl := eq_tooManyDigits_of_sentLine hline
    have hbefore := hadmission.before_registration hsending
    have hchain : Literal.isWritable chain = false := isWritable_of_sentLine_error hline
    exact .unlogged hchain (Talk.registrations_eq_nil hbefore) (Talk.tellings_eq_nil hbefore)
  | @sent sender terms t₁ t₂ t₃ n tx' r haccept hadmission hsending hline hregistration =>
    have hending : Ending.sent (.ofNumeral n) tx' = .sent nonce tx := by
      simp only [Talk.calls_append, List.mem_append] at hsent
      rcases hsent with (hsent | hsent) | hsent
      · exact absurd (hadmission.part_eq _ hsent) (by simp [Call.part])
      · exact hsending.mem_calls_iff.mp hsent
      · exact absurd (hregistration.part_eq _ hsent) (by simp [Call.part])
    obtain rfl : tx' = tx := (Ending.sent.inj hending).2
    exact hregistration.aftermath (hadmission.before_registration hsending) hordinary

namespace LastWord

/-- The fault of a gate that is told of a transaction. -/
def lost : Fault := .foreign "RuntimeError" "queue gone"

/-- The fault of a sink that is told of a fault. -/
def unable : Fault := .foreign "RuntimeError" "sink failed"

/-- A gate that lets everyone in and fails to take the transaction. -/
def gate : Gate Empty Unit := { TwoChains.gate with insert := fun _ _ _ => .fail lost }

/-- A dispatch whose callback takes the nonce five, at a desk with a sink. -/
def dispatch (tell : ErrorSink Empty Unit) : Act (Deed Empty) (Desk Unit) Value :=
  Desk.dispatch gate (.whole fun _ _ => pure 5) (some tell) 1 TwoChains.request
    fun nonce => pure nonce

/-- What is heard of the dispatch. -/
def talk (tell : ErrorSink Empty Unit) : Talk :=
  Desk.dispatchTalk gate (.whole fun _ _ => pure 5) (some tell) 1 TwoChains.request
    (fun nonce => pure nonce) TwoChains.desk

/-- A sink that takes everything hears of the gate that does not. -/
theorem aftermath_heard :
    Aftermath true 1 (.int 5) (talk fun _ => pure ())
        (dispatch (fun _ => pure ()) TwoChains.desk).result ∧
      (Literal.isWritable 1 = true →
        (∀ cause, (.int 5, .error cause) ∈ (talk fun _ => pure ()).registrations →
          ∃ text, cause.askText = .ok text) →
        (∀ telling ∈ (talk fun _ => pure ()).tellings, telling.2 = .ok ()) →
        (dispatch (fun _ => pure ()) TwoChains.desk).result = .ok (.int 5)) := by
  refine Desk.dispatch_sentOnce gate (fun _ _ => pure 5) (some fun _ => pure ()) 1
    TwoChains.request (fun nonce => pure nonce) TwoChains.desk (.int 5) (.int 5) ?_ ?_
  · have htries : (Value.int 5, (.ok (.int 5) : Except Fault Value)) ∈
        (talk fun _ => pure ()).tries := List.mem_singleton.mpr rfl
    exact Talk.mem_tries_iff.mp htries
  · intro cause hcause
    have hregistrations : (talk fun _ => pure ()).registrations = [(.int 5, .error lost)] := rfl
    have hcause' : (Value.int 5, (.error cause : Except Fault Unit)) ∈
        (talk fun _ => pure ()).registrations := hcause
    rw [hregistrations] at hcause'
    obtain rfl : cause = lost := by simpa using hcause'
    rfl

/-- **A sink that fails has the last word.**  The transaction is out, and the dispatch ends with the
fault of the sink. -/
theorem sent_not_returned :
    ¬ ∀ tell : ErrorSink Empty Unit,
      (∀ e s f, (tell e s).result = .error f → f.isInterrupt = false) →
        (dispatch tell TwoChains.desk).result = .ok (.int 5) := by
  intro h
  have hfails : (dispatch (fun _ => .fail unable) TwoChains.desk).result = .error unable := rfl
  have hreturns := h (fun _ => .fail unable) fun e s f hf => by
    obtain rfl : unable = f := Except.error.inj hf
    rfl
  exact absurd (hfails.symm.trans hreturns) (by simp)

end LastWord
end Outbox
