import Outbox.Proofs.Endings

/-!
# The phases of a dispatch

`Dispatching` says how a dispatch may go at a network of whole numbers.  It leaves out at which
desks its parts begin and end, and these are what statements about counters and queues are about.
`Phases` has them: a dispatch is declined, or it comes as far as its admission, its settlement, the
line of the log about it or its registration, and each phase begins at the desk at which the one
before has ended.  Nothing is assumed of the network, so a transaction may also be submitted with a
nonce that has no next one.

`phases_goes` says that every dispatch goes through these phases.  `send?` is the settlement that a
dispatch comes to, if it comes to one: the account, and the desk at which it begins.
-/

namespace Outbox
namespace Desk

variable {ν σ : Type}

/-- How far a dispatch comes that begins at the desk `d`: what is said, what it comes to, and the
desk at its end. -/
inductive Phases (gate : Gate ν σ) (source : NonceSource ν σ) (sink : Option (ErrorSink ν σ))
    (chain : Int) (request : Request) (send : SendCallback ν σ) (d : Desk σ) :
    Talk → Except Fault Value → Desk σ → Prop
  | declined {why : RequestError} (haccept : request.accept = .error why) :
      Phases gate source sink chain request send d [] (.error why.fault)
        (tallied Fault.name (.error why.fault : Except Fault Unit) d)
  | refused {sender : Address} {terms : Terms} {t : Talk} {e : Fault} {d₁ : Desk σ}
      (haccept : request.accept = .ok (sender, terms))
      (hadmission : Admission sender (d.book.get? sender.key) request.isForced t (.error e))
      (hadmitting : Goes (admitting gate.heard request sender) d (.error e) t d₁) :
      Phases gate source sink chain request send d t (.error e)
        (tallied admissionOutcome (.error e : Except Fault Unit) d₁)
  | failed {sender : Address} {terms : Terms} {t₁ t₂ : Talk} {ending : Ending} {e : Fault}
      {d₁ d₂ : Desk σ} (haccept : request.accept = .ok (sender, terms))
      (hadmission : Admission sender (d.book.get? sender.key) request.isForced t₁ (.ok ()))
      (hadmitting : Goes (admitting gate.heard request sender) d (.ok ()) t₁ d₁)
      (hsending : Sending (source.Gives chain sender.key.value) chain sender.key
        (d₁.book.get? sender.key) t₂ ending)
      (hending : ending.result = .error e)
      (hsettle : Goes (settle source.heard chain sender.key send.heard) d₁ (.error e) t₂ d₂) :
      Phases gate source sink chain request send d (t₁ ++ t₂) (.error e)
        (tallied Fault.name (.error e : Except Fault Value) d₂)
  | unlogged {sender : Address} {terms : Terms} {t₁ t₂ : Talk} {ending : Ending} {tx : Value}
      {e : Fault} {d₁ d₂ : Desk σ} (haccept : request.accept = .ok (sender, terms))
      (hadmission : Admission sender (d.book.get? sender.key) request.isForced t₁ (.ok ()))
      (hadmitting : Goes (admitting gate.heard request sender) d (.ok ()) t₁ d₁)
      (hsending : Sending (source.Gives chain sender.key.value) chain sender.key
        (d₁.book.get? sender.key) t₂ ending)
      (hending : ending.result = .ok tx)
      (hsettle : Goes (settle source.heard chain sender.key send.heard) d₁ (.ok tx) t₂ d₂)
      (hline : sentLine sender chain = .error e) :
      Phases gate source sink chain request send d (t₁ ++ t₂) (.error e) (afterSent d₂)
  | sent {sender : Address} {terms : Terms} {t₁ t₂ t₃ : Talk} {ending : Ending} {tx : Value}
      {r : Except Fault Unit} {d₁ d₂ d₃ : Desk σ} (haccept : request.accept = .ok (sender, terms))
      (hadmission : Admission sender (d.book.get? sender.key) request.isForced t₁ (.ok ()))
      (hadmitting : Goes (admitting gate.heard request sender) d (.ok ()) t₁ d₁)
      (hsending : Sending (source.Gives chain sender.key.value) chain sender.key
        (d₁.book.get? sender.key) t₂ ending)
      (hending : ending.result = .ok tx)
      (hsettle : Goes (settle source.heard chain sender.key send.heard) d₁ (.ok tx) t₂ d₂)
      (hline : ∃ text, sentLine sender chain = .ok text)
      (hregistration : Registration sink.isSome tx terms sender
        ((afterSent d₂).book.get? sender.key) t₃ r)
      (hregister : Goes (register gate.heard (sink.map ErrorSink.heard) tx terms sender)
        (afterSent d₂) r t₃ d₃) :
      Phases gate source sink chain request send d (t₁ ++ t₂ ++ t₃) (r.map fun _ => tx) d₃

variable (gate : Gate ν σ) (source : NonceSource ν σ) (sink : Option (ErrorSink ν σ)) (chain : Int)
  (request : Request) (send : SendCallback ν σ)

/-- Every dispatch goes through the phases. -/
theorem phases_goes (d : Desk σ) :
    ∃ t r d', Phases gate source sink chain request send d t r d' ∧
      Goes (dispatch gate.heard source.heard (sink.map ErrorSink.heard) chain request send.heard) d
        r t d' := by
  cases haccept : request.accept with
  | error why => exact ⟨_, _, _, .declined haccept, dispatch_goes_declined haccept⟩
  | ok accepted =>
    obtain ⟨sender, terms⟩ := accepted
    obtain ⟨t₁, r₁, d₁, hadmission, hadmitting, -⟩ := admitting_goes gate sender request d
    cases r₁ with
    | error e =>
      exact ⟨_, _, _, .refused haccept hadmission hadmitting, hadmitting.dispatch_refused haccept⟩
    | ok u =>
      obtain ⟨t₂, ending, d₂, hsending, hsettle, -⟩ := settle_goes source send chain sender.key d₁
      cases hending : ending.result with
      | error e =>
        rw [hending] at hsettle
        exact ⟨_, _, _, .failed haccept hadmission hadmitting hsending hending hsettle,
          hadmitting.dispatch_failed haccept hsettle⟩
      | ok tx =>
        rw [hending] at hsettle
        cases hline : sentLine sender chain with
        | error e =>
          exact ⟨_, _, _, .unlogged haccept hadmission hadmitting hsending hending hsettle hline,
            Goes.dispatch_unlogged haccept hadmitting hsettle hline⟩
        | ok text =>
          obtain ⟨t₃, r₃, d₃, hregistration, hregister, -⟩ :=
            register_goes gate sender sink tx terms (afterSent d₂)
          refine ⟨_, _, _, ?_,
            Goes.dispatch_sent haccept hadmitting hsettle ⟨text, hline⟩ hregister⟩
          exact .sent haccept hadmission hadmitting hsending hending hsettle ⟨text, hline⟩
            hregistration hregister

/-- **Every dispatch goes through the phases**, whether it is listened to or not. -/
theorem dispatch_phases (d : Desk σ) :
    Phases gate source sink chain request send d
      (dispatchTalk gate source sink chain request send d)
      (dispatch gate source sink chain request send d).result
      (dispatch gate source sink chain request send d).next := by
  obtain ⟨t, r, d', hphases, hgoes⟩ := phases_goes gate source sink chain request send d
  obtain ⟨hresult, hnext, -⟩ :=
    hgoes.of_agree (agree_dispatch source send gate sink chain request)
  have htalk : dispatchTalk gate source sink chain request send d = t := hgoes.said
  rw [htalk, hresult, hnext]
  exact hphases

/-! ## The settlement that a dispatch comes to -/

theorem agree_admitting (sender : Address) :
    Agree (admitting gate request sender) (admitting gate.heard request sender) := by
  unfold admitting
  split
  · exact agree_pure ()
  · exact agree_askAdmission gate sender

/-- The account of the settlement that a dispatch comes to and the desk at which it begins, if the
request is accepted and let in. -/
def send? (d : Desk σ) : Option (Address × Desk σ) :=
  match request.accept with
  | .error _ => none
  | .ok (sender, _) =>
    match (admitting gate request sender d).result with
    | .error _ => none
    | .ok () => some (sender, (admitting gate request sender d).next)

variable {gate request} {sender : Address} {terms : Terms} {t : Talk} {e : Fault} {d d₁ : Desk σ}

theorem send?_of_declined {why : RequestError} (haccept : request.accept = .error why) :
    send? gate request d = none := by
  simp only [send?, haccept]

theorem send?_of_refused (haccept : request.accept = .ok (sender, terms))
    (hadmitting : Goes (admitting gate.heard request sender) d (.error e) t d₁) :
    send? gate request d = none := by
  obtain ⟨hresult, -, -⟩ := hadmitting.of_agree (agree_admitting gate request sender)
  simp only [send?, haccept, hresult]

theorem send?_of_admitted (haccept : request.accept = .ok (sender, terms))
    (hadmitting : Goes (admitting gate.heard request sender) d (.ok ()) t d₁) :
    send? gate request d = some (sender, d₁) := by
  obtain ⟨hresult, hnext, -⟩ := hadmitting.of_agree (agree_admitting gate request sender)
  simp only [send?, haccept, hresult, hnext]

/-- The result of a settlement is heard. -/
theorem Goes.result_settle {source : NonceSource ν σ} {send : SendCallback ν σ} {chain : Int}
    {account : Key} {r : Except Fault Value} {d₂ : Desk σ}
    (hsettle : Goes (settle source.heard chain account send.heard) d r t d₂) :
    (settle source chain account send d).result = r :=
  (hsettle.of_agree (agree_settle source send chain account)).1

end Desk
end Outbox
