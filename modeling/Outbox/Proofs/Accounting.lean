import Outbox.Proofs.Outcomes

/-!
# The counters of a whole session

Counters are read by people who did not see what was counted.  This file says what they may conclude:
from the counters of a process that began with none, however long it has worked and whatever gates,
networks, callbacks and sinks have done.

* Every retry is a lookup after a refused nonce, and every such lookup is a retry.
* There are as many lookups as questions to the network, and as many for want of a nonce as there
  were settlements that found none.
* There are as many sink errors as registrations that the gate has answered with a fault that has a
  text, whether or not somebody was told.
* Every dispatch is counted by the rule of `IsCounted`, and a settlement that is no part of a dispatch
  is not counted at all.

A `Use` is a dispatch or a single settlement with all that its collaborators do meanwhile.  In contrast
to a `Move`, the network may answer with anything, and an account may be named by any value.  What one
use adds to the counters is `Use.accounts`, and sums of it over a run are `Use.accounts_run`.
-/

namespace Outbox

variable {ν σ : Type}

/-- A use of the desk, with all that its collaborators do meanwhile. -/
inductive Use (ν σ : Type) where
  /-- A request is dispatched. -/
  | dispatch (gate : Gate ν σ) (source : NonceSource ν σ) (sink : Option (ErrorSink ν σ))
      (chain : Int) (request : Request) (send : SendCallback ν σ)
  /-- A transaction is settled for an account that is named by a value. -/
  | settle (source : NonceSource ν σ) (chain : Int) (account : Value) (send : SendCallback ν σ)

namespace Use

/-- What the desk does. -/
def act : Use ν σ → Act (Deed ν) (Desk σ) Value
  | .dispatch gate source sink chain request send =>
    Desk.dispatch gate source sink chain request send
  | .settle source chain account send => do
    let key ← Act.ofExcept (Key.ofValue account)
    Desk.settle source chain key send

/-- What is said meanwhile. -/
def talk : Use ν σ → Desk σ → Talk
  | .dispatch gate source sink chain request send, d =>
    Desk.dispatchTalk gate source sink chain request send d
  | .settle source chain account send, d =>
    match Key.ofValue account with
    | .ok key => Desk.settleTalk source chain key send d
    | .error _ => []

/-- The settlement that the use comes to, if it comes to one: the account, and the desk at which it
begins. -/
def settlement? : Use ν σ → Desk σ → Option (Key × Desk σ)
  | .dispatch gate _ _ _ request _, d =>
    (Desk.send? gate request d).map fun begun => (begun.1.key, begun.2)
  | .settle _ _ account _, d =>
    match Key.ofValue account with
    | .ok key => some (key, d)
    | .error _ => none

/-- The use comes to a settlement that finds no nonce in the book. -/
def isMiss (use : Use ν σ) (d : Desk σ) : Bool :=
  (use.settlement? d).any fun begun => (begun.2.book.get? begun.1).isNone

/-- The desk after several uses. -/
def run : List (Use ν σ) → Desk σ → Desk σ
  | [], d => d
  | use :: uses, d => run uses (use.act d).next

/-- How many of several uses come to a settlement that finds no nonce in the book. -/
def misses : List (Use ν σ) → Desk σ → Nat
  | [], _ => 0
  | use :: uses, d => (use.isMiss d).toNat + misses uses (use.act d).next

end Use

/-! ## 1.  What is added to the counters -/

/-- What has been said, and how many settlements have found no nonce, account for all that has been
added to the counters but the outcomes. -/
structure Counters.Accounts (before after : Counters) (talk : Talk) (missed : Nat) : Prop where
  /-- A retry is a lookup after a refused nonce. -/
  retries : (after.nonceRetries : Int) - after.nonceLookups.count LookupReason.nonceError.label =
    before.nonceRetries - before.nonceLookups.count LookupReason.nonceError.label
  /-- A lookup is a question to the network. -/
  lookups : after.nonceLookups.total = before.nonceLookups.total + talk.lookups
  /-- A lookup for want of a nonce is a settlement that has found none. -/
  misses : after.misses = before.misses + missed
  /-- A sink error is a registration that has failed and is reported. -/
  sinkErrors : after.sinkErrors = before.sinkErrors + talk.failedRegistrations

namespace Counters.Accounts

theorem refl (c : Counters) : Accounts c c [] 0 := ⟨rfl, rfl, rfl, rfl⟩

theorem trans {a b c : Counters} {s t : Talk} {m n : Nat} (h : Accounts a b s m)
    (h' : Accounts b c t n) : Accounts a c (s ++ t) (m + n) where
  retries := h'.retries.trans h.retries
  lookups := by
    rw [h'.lookups, h.lookups, Talk.lookups_eq, Talk.lookups_eq, Talk.lookups_eq, List.countP_append]
    omega
  misses := by rw [h'.misses, h.misses, Nat.add_assoc]
  sinkErrors := by
    rw [h'.sinkErrors, h.sinkErrors, Talk.failedRegistrations, Talk.failedRegistrations,
      Talk.failedRegistrations, List.countP_append]
    omega

end Counters.Accounts

namespace Desk

variable {gate : Gate ν σ} {source : NonceSource ν σ} {sink : Option (ErrorSink ν σ)} {chain : Int}
  {request : Request} {send : SendCallback ν σ} {account : Key} {d d' : Desk σ}

/-- **What a settlement adds to the counters.** -/
theorem accounts_settle (source : NonceSource ν σ) (chain : Int) (account : Key)
    (send : SendCallback ν σ) (d : Desk σ) :
    Counters.Accounts d.counters (settle source chain account send d).next.counters
      (settleTalk source chain account send d) (d.book.get? account).isNone.toNat := by
  rw [(agree_settle source send chain account d).2.1]
  have hretries := tracks_settle_counters source chain account send Counters.tells_retries
  have hlookups := tracks_settle_counters source chain account send Counters.tells_lookups
  have herrors := tracks_settle_counters source chain account send Counters.tells_sinkErrors
  exact
    { retries := hretries.still d
      lookups := (hlookups d).trans (tellTo_countDeed _ _ _)
      misses := by
        rw [misses_settle]
        cases d.book.get? account <;> rfl
      sinkErrors := (herrors d).trans (tellTo_countDeed _ _ _) }

/-- What dispatches come to is not seen by anything else that is counted. -/
theorem misses_tallied {α : Type} (outcome : Fault → String) (r : Except Fault α) (d : Desk σ) :
    (tallied outcome r d).counters.misses = d.counters.misses := by
  unfold tallied
  split
  · rfl
  · split <;> rfl

/-- A lookup for want of a nonce is made exactly if the dispatch comes to a settlement that finds
none. -/
theorem Phases.misses {t : Talk} {r : Except Fault Value}
    (h : Phases gate source sink chain request send d t r d') :
    d'.counters.misses =
      d.counters.misses + ((Use.dispatch gate source sink chain request send).isMiss d).toNat := by
  -- all phases that come to a settlement leave this count to the settlement
  have hsettled {sender : Address} {d₁ d₂ : Desk σ} {r' : Except Fault Value} {t' : Talk}
      (hsend : send? gate request d = some (sender, d₁))
      (hbefore : d₁.counters = d.counters)
      (hsettle : Goes (settle source.heard chain sender.key send.heard) d₁ r' t' d₂) :
      d₂.counters.misses =
        d.counters.misses + ((Use.dispatch gate source sink chain request send).isMiss d).toNat := by
    rw [← hsettle.next, misses_settle, hbefore, Use.isMiss, Use.settlement?, hsend]
    cases hbook : d₁.book.get? sender.key <;> simp [hbook]
  cases h with
  | declined haccept =>
    rw [misses_tallied, Use.isMiss, Use.settlement?, send?_of_declined haccept]
    rfl
  | refused haccept hadmission hadmitting =>
    rw [misses_tallied, hadmitting.counters_admitting, Use.isMiss, Use.settlement?,
      send?_of_refused haccept hadmitting]
    rfl
  | failed haccept hadmission hadmitting hsending hending hsettle =>
    rw [misses_tallied]
    exact hsettled (send?_of_admitted haccept hadmitting) hadmitting.counters_admitting hsettle
  | @unlogged sender terms t₁ t₂ ending tx e d₁ d₂ haccept hadmission hadmitting hsending hending
      hsettle hline =>
    show d₂.counters.misses = _
    exact hsettled (send?_of_admitted haccept hadmitting) hadmitting.counters_admitting hsettle
  | @sent sender terms t₁ t₂ t₃ ending tx r d₁ d₂ d₃ haccept hadmission hadmitting hsending hending
      hsettle hline hregistration hregister =>
    rw [hregister.counters_register Counters.misses fun _ => rfl]
    show d₂.counters.misses = _
    exact hsettled (send?_of_admitted haccept hadmitting) hadmitting.counters_admitting hsettle

/-- **What a dispatch adds to the counters.** -/
theorem accounts_dispatch (gate : Gate ν σ) (source : NonceSource ν σ)
    (sink : Option (ErrorSink ν σ)) (chain : Int) (request : Request) (send : SendCallback ν σ)
    (d : Desk σ) :
    Counters.Accounts d.counters (dispatch gate source sink chain request send d).next.counters
      (dispatchTalk gate source sink chain request send d)
      ((Use.dispatch gate source sink chain request send).isMiss d).toNat := by
  have hmisses := (dispatch_phases gate source sink chain request send d).misses
  have hretries := tracks_dispatch_counters gate source sink chain request send
    Counters.tells_retries fun _ _ => rfl
  have hlookups := tracks_dispatch_counters gate source sink chain request send
    Counters.tells_lookups fun _ _ => rfl
  have herrors := tracks_dispatch_counters gate source sink chain request send
    Counters.tells_sinkErrors fun _ _ => rfl
  have hnext := (agree_dispatch source send gate sink chain request d).2.1
  exact
    { retries := hnext ▸ hretries.still d
      lookups := hnext ▸ (hlookups d).trans (tellTo_countDeed _ _ _)
      misses := hmisses
      sinkErrors := hnext ▸ (herrors d).trans (tellTo_countDeed _ _ _) }

end Desk

namespace Use

/-- **What a use adds to the counters.** -/
theorem accounts (use : Use ν σ) (d : Desk σ) :
    Counters.Accounts d.counters (use.act d).next.counters (use.talk d) (use.isMiss d).toNat := by
  cases use with
  | dispatch gate source sink chain request send =>
    exact Desk.accounts_dispatch gate source sink chain request send d
  | settle source chain account send =>
    cases hkey : Key.ofValue account with
    | ok key =>
      have hact : (Use.settle source chain account send).act d =
          Desk.settle source chain key send d := by
        rw [act, hkey]
        exact Act.bind_of_ok rfl
      rw [hact, talk, isMiss, settlement?, hkey]
      exact Desk.accounts_settle source chain key send d
    | error e =>
      have hact : (Use.settle source chain account send).act d = ⟨.error e, [], d⟩ := by
        rw [act, hkey]
        exact Act.bind_of_error rfl
      rw [hact, talk, isMiss, settlement?, hkey]
      exact .refl d.counters

end Use

namespace Closing

/-- The order that closes whatever is at work. -/
def order : Fault := { kind := .foreign "GeneratorExit" .order, args := [] }

/-- What is heard of a dispatch with a callback, to which the network gives the nonce five. -/
def talk (send : SendCallback Empty Unit) : Talk :=
  Desk.dispatchTalk TwoChains.gate (.whole fun _ _ => pure 5) none 1 TwoChains.request send
    TwoChains.desk

/-- The outcomes that are counted of it. -/
def outcomes (send : SendCallback Empty Unit) : Tally :=
  (Desk.dispatch TwoChains.gate (.whole fun _ _ => pure 5) none 1 TwoChains.request send
    TwoChains.desk).next.counters.dispatches

end Closing

end Outbox
