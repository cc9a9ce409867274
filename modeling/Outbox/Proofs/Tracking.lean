import Outbox.Proofs.Dispatching

/-!
# Views that track the talk

Much of what is promised about a desk is about one thing on it --- a count, the entries of a queue
in its world --- and says that what is heard of an act decides what becomes of that thing.  Such a
thing is a `view` of the desk, and `told` says what a deed makes of it.  The view *tracks* the
talk of an act if, wherever the act begins, the view after it is the view before it with the deeds
told to it one after another (`Tracks`).

## Why deeds are told, and not counted

A law of this form is kept by every way in which acts are put together, since the talk of a whole
is the talk of its parts in their order (`Tracks.bind`, `Tracks.rescue`).  So it need only be shown
of the acts that touch the view, and `tracks_settle` and `tracks_dispatch` say which these are.  A
view to which nothing is told is one that stays as it is (`Tracks.still`), and a number to which a
kind of deeds adds one is their count (`tellTo_countDeed`).
-/

namespace Outbox

variable {ν σ α β γ : Type}

/-- The deeds of a talk told to something, one after another. -/
def Talk.tellTo (told : Deed Call → γ → γ) (talk : Talk) (c : γ) : γ :=
  talk.foldl (fun c deed => told deed c) c

namespace Talk

variable (told : Deed Call → γ → γ)

@[simp] theorem tellTo_nil (c : γ) : tellTo told [] c = c := rfl

@[simp] theorem tellTo_cons (deed : Deed Call) (talk : Talk) (c : γ) :
    tellTo told (deed :: talk) c = tellTo told talk (told deed c) := rfl

@[simp] theorem tellTo_append (s t : Talk) (c : γ) :
    tellTo told (s ++ t) c = tellTo told t (tellTo told s c) := List.foldl_append

/-- To whom nothing is told nothing happens. -/
@[simp] theorem tellTo_still (talk : Talk) (c : γ) : tellTo (fun _ c => c) talk c = c := by
  induction talk with
  | nil => rfl
  | cons deed talk ih => exact ih

end Talk

/-- One more for a deed of a kind. -/
def countDeed (kind : Deed Call → Bool) (deed : Deed Call) (n : Nat) : Nat :=
  if kind deed then n + 1 else n

/-- A number to which the deeds of a kind add one is their count. -/
theorem tellTo_countDeed (kind : Deed Call → Bool) (talk : Talk) (n : Nat) :
    talk.tellTo (countDeed kind) n = n + talk.countP kind := by
  induction talk generalizing n with
  | nil => rfl
  | cons deed talk ih =>
    rw [Talk.tellTo_cons, ih, List.countP_cons, countDeed]
    split <;> omega

namespace Desk

/-- The view of the desk after an act is what the talk of the act makes of the view before it. -/
def Tracks (view : Desk σ → γ) (told : Deed Call → γ → γ) (x : Act (Deed Call) (Desk σ) α) : Prop :=
  ∀ d, view (x d).next = Talk.tellTo told (said (x d).notes) (view d)

variable {view : Desk σ → γ} {told : Deed Call → γ → γ} {x : Act (Deed Call) (Desk σ) α}

/-- A view to which nothing is told stays as it is. -/
theorem Tracks.still (h : Tracks view (fun _ c => c) x) (d : Desk σ) : view (x d).next = view d :=
  (h d).trans (Talk.tellTo_still _ _)

/-- A view to which nothing is told is the same at the end of an act. -/
theorem Goes.still {d d' : Desk σ} {r : Except Fault α} {t : Talk} (hgoes : Goes x d r t d')
    (h : Tracks view (fun _ c => c) x) : view d' = view d :=
  hgoes.next ▸ h.still d

/-! ## 1.  The ways in which acts are put together -/

theorem tracks_pure (a : α) : Tracks view told (pure a) := fun _ => rfl

theorem tracks_fail (e : Fault) : Tracks view told (.fail e : Act (Deed Call) (Desk σ) α) :=
  fun _ => rfl

theorem tracks_ofExcept (r : Except Fault α) :
    Tracks view told (.ofExcept r : Act (Deed Call) (Desk σ) α) :=
  fun _ => rfl

theorem tracks_log (level : LogLevel) (channel : Channel) (line : Except Fault String) :
    Tracks view told (log level channel line) := by
  intro d
  cases line <;> rfl

theorem tracks_cached (account : Key) : Tracks view told (cached account) := fun _ => rfl

theorem tracks_note {deed : Deed Call} (hline : deed.isLine = false) (htold : ∀ c, told deed c = c) :
    Tracks view told (.note deed) := by
  intro d
  rw [(goes_note hline d).said, (goes_note hline d).next]
  exact (htold (view d)).symm

theorem tracks_change {g : Desk σ → Desk σ} (h : ∀ d, view (g d) = view d) :
    Tracks view told (.change g) :=
  h

/-- What a collaborator does to the world is what its answer makes of the view. -/
theorem tracks_outside {y : Act ν σ β} {call : Except Fault β → Call}
    (h : ∀ d, view { d with world := (y d.world).next } =
      told (.passes (call (y d.world).result)) (view d)) :
    Tracks view told (outside (y.heard call)) :=
  h

theorem Tracks.bind {f : α → Act (Deed Call) (Desk σ) β} (hx : Tracks view told x)
    (hf : ∀ a, Tracks view told (f a)) : Tracks view told (x >>= f) := by
  intro d
  cases hresult : (x d).result with
  | error e =>
    rw [Act.bind_of_error hresult]
    exact hx d
  | ok a =>
    rw [Act.bind_of_ok hresult, Outcome.next_after, Outcome.notes_after, said_append,
      Talk.tellTo_append, ← hx d]
    exact hf a (x d).next

theorem Tracks.rescue {handler : Fault → Act (Deed Call) (Desk σ) α} (hx : Tracks view told x)
    (hhandler : ∀ e, Tracks view told (handler e)) : Tracks view told (x.rescue handler) := by
  intro d
  cases hresult : (x d).result with
  | ok a =>
    rw [Act.rescue_of_ok hresult]
    exact hx d
  | error e =>
    cases he : e.isInterrupt with
    | true =>
      rw [Act.rescue_of_interrupt hresult he]
      exact hx d
    | false =>
      rw [Act.rescue_of_fault hresult he, Outcome.next_after, Outcome.notes_after, said_append,
        Talk.tellTo_append, ← hx d]
      exact hhandler e (x d).next

theorem Tracks.counting (hcount : ∀ outcome, Tracks view told (count (.dispatch outcome)))
    (outcome : Fault → String) (hx : Tracks view told x) :
    Tracks view told (Desk.counting outcome x) :=
  hx.rescue fun e => (hcount (outcome e)).bind fun _ => tracks_fail e

/-! ## 2.  Settlements -/

section Settlements

variable (source : NonceSource ν σ) (send : SendCallback ν σ) (chain : Int) (account : Key)

/-- A lookup ends at the desk after the lookup, and one question is heard of it. -/
theorem lookup_asks (reason : LookupReason) (d : Desk σ) :
    (lookup source.heard chain account reason d).next = afterLookup source chain account reason d ∧
      said (lookup source.heard chain account reason d).notes =
        Talk.asksNonce chain account (source chain account.value d.world).result := by
  cases h : (source chain account.value d.world).result with
  | error e =>
    have hgoes := lookup_goes_error chain account reason h
    exact ⟨hgoes.next, hgoes.said⟩
  | ok v =>
    cases hline : givenLine account chain v with
    | error e =>
      have hgoes := lookup_goes_unshown chain account reason h hline
      exact ⟨hgoes.next, hgoes.said⟩
    | ok text =>
      have hgoes := lookup_goes_ok chain account reason h ⟨text, hline⟩
      exact ⟨hgoes.next, hgoes.said⟩

/-- The second nonce is asked for at a desk at which the clash has been counted, if the log can be
told of the clash. -/
theorem secondNonce_asks {refused : Value} {refusal : Fault}
    (hline : ∃ text, refusedLine account refused refusal = .ok text) (d : Desk σ) :
    (secondNonce source.heard chain account refused refusal d).next =
        afterResync source chain account d ∧
      said (secondNonce source.heard chain account refused refusal d).notes =
        Talk.asksNonce chain account (source chain account.value d.world).result := by
  obtain ⟨hnext, hsaid⟩ := lookup_asks source chain account .nonceError (afterClash d)
  obtain ⟨text, htext⟩ := hline
  unfold secondNonce
  rw [htext]
  exact ⟨hnext, hsaid⟩

variable {source send chain account}

theorem tracks_lookup {reason : LookupReason}
    (h : ∀ d, view (afterLookup source chain account reason d) =
      (Talk.asksNonce chain account (source chain account.value d.world).result).tellTo told
        (view d)) :
    Tracks view told (lookup source.heard chain account reason) := by
  intro d
  obtain ⟨hnext, hsaid⟩ := lookup_asks source chain account reason d
  rw [hnext, hsaid]
  exact h d

theorem tracks_secondNonce
    (h : ∀ d, view (afterResync source chain account d) =
      (Talk.asksNonce chain account (source chain account.value d.world).result).tellTo told
        (view d)) (refused : Value) (refusal : Fault) :
    Tracks view told (secondNonce source.heard chain account refused refusal) := by
  intro d
  cases hline : refusedLine account refused refusal with
  | error e =>
    have hgoes := secondNonce_goes_untold chain account source hline d
    rw [hgoes.next, hgoes.said]
    rfl
  | ok text =>
    obtain ⟨hnext, hsaid⟩ := secondNonce_asks source chain account ⟨text, hline⟩ d
    rw [hnext, hsaid]
    exact h d

theorem tracks_firstNonce (hfirst : Tracks view told (lookup source.heard chain account .cacheMiss)) :
    Tracks view told (firstNonce source.heard chain account) := by
  refine (tracks_cached account).bind fun n? => ?_
  cases n? with
  | none => exact hfirst
  | some n => exact (tracks_log _ _ _).bind fun _ => tracks_pure _

/-- What follows the choice of the first nonce tracks the talk if the second question, the
submissions and the marking do. -/
theorem tracks_submissions
    (hsecond : ∀ refused refusal,
      Tracks view told (secondNonce source.heard chain account refused refusal))
    (hsubmit : ∀ nonce, Tracks view told (submit send.heard nonce)) (first : Value) :
    Tracks view told (submissions source.heard chain account send.heard first) := by
  refine (hsubmit first).rescue fun e => ?_
  unfold afterRefusal
  split
  · exact (hsecond first e).bind fun nonce => (hsubmit nonce).rescue fun e' => tracks_fail _
  · exact tracks_fail _
  · exact tracks_fail _

/-- **A settlement tracks the talk** if both questions, the submissions and the marking do. -/
theorem tracks_settle (hfirst : Tracks view told (lookup source.heard chain account .cacheMiss))
    (hsecond : ∀ refused refusal,
      Tracks view told (secondNonce source.heard chain account refused refusal))
    (hsubmit : ∀ nonce, Tracks view told (submit send.heard nonce))
    (hmark : ∀ nonce, Tracks view told (markUsed account nonce)) :
    Tracks view told (settle source.heard chain account send.heard) := by
  refine (tracks_firstNonce hfirst).bind fun first => ?_
  refine Tracks.bind (tracks_submissions hsecond hsubmit first) fun used => ?_
  exact (hmark used.1).bind fun _ => tracks_pure used.2

end Settlements

/-! ## 3.  Dispatches -/

section Dispatches

variable {gate : Gate ν σ} {source : NonceSource ν σ} {sink : Option (ErrorSink ν σ)}
  {send : SendCallback ν σ} {chain : Int}

/-- A question to the gate tracks the talk if the gate's answer tells what becomes of the view. -/
theorem tracks_question {deed : Deed Call} (hline : deed.isLine = false) (denial : Fault)
    {y : Act ν σ Bool} {call : Except Fault Bool → Call} (hdeed : ∀ c, told deed c = c)
    (hcall : ∀ d, view { d with world := (y d.world).next } =
      told (.passes (call (y d.world).result)) (view d)) :
    Tracks view told
      (do
        Act.note deed
        if ← outside (y.heard call) then return () else .fail denial) := by
  refine (tracks_note hline hdeed).bind fun _ => (tracks_outside hcall).bind fun answer => ?_
  cases answer with
  | true => exact tracks_pure ()
  | false => exact tracks_fail denial

theorem tracks_admitting (request : Request) (sender : Address)
    (hroom : Tracks view told (needRoom gate.heard sender))
    (hsigner : Tracks view told (needSigner gate.heard sender)) :
    Tracks view told (admitting gate.heard request sender) := by
  unfold admitting
  split
  · exact tracks_pure ()
  · exact hroom.bind fun _ => hsigner

/-- **A dispatch tracks the talk** if both questions to the gate, the settlement and the
registration do, and the counting of its outcome goes unseen. -/
theorem tracks_dispatch (request : Request)
    (hcount : ∀ outcome, Tracks view told (count (.dispatch outcome)))
    (hroom : ∀ sender, Tracks view told (needRoom gate.heard sender))
    (hsigner : ∀ sender, Tracks view told (needSigner gate.heard sender))
    (hsettle : ∀ sender : Address,
      Tracks view told (settle source.heard chain sender.key send.heard))
    (hregister : ∀ sender terms tx,
      Tracks view told (register gate.heard (sink.map ErrorSink.heard) tx terms sender)) :
    Tracks view told
      (dispatch gate.heard source.heard (sink.map ErrorSink.heard) chain request send.heard) := by
  refine (Tracks.counting hcount _ (tracks_ofExcept _)).bind fun accepted => ?_
  refine Tracks.bind ?_ fun _ => ?_
  · exact Tracks.counting hcount _
      (tracks_admitting request accepted.1 (hroom accepted.1) (hsigner accepted.1))
  · refine (Tracks.counting hcount _ (hsettle accepted.1)).bind fun tx => ?_
    refine (hcount sentOutcome).bind fun _ => (tracks_log _ _ _).bind fun _ => ?_
    exact (hregister accepted.1 accepted.2 tx).bind fun _ => tracks_pure tx

end Dispatches

end Desk
end Outbox
