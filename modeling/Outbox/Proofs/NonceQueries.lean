import Outbox.Chains.PendingNonce
import Outbox.Proofs.NormalSenders

/-!
# How a chain is asked for a pending nonce

A query for a pending nonce is a row of calls to one client with pauses between them.  What matters to
whoever waits for it is how many calls there are, what is between them, and which of their answers is
passed on; and since the client may answer anything at all, and the clock may refuse any pause, all of
this has to be said in terms of what they would answer to one call and one pause after another
(`answer`, `paused`).

The query ends with the first call that succeeds or brings an order to stop, and at the latest with
the last call that the policy allows.  There is a pause between any two calls, none before the first
and none after the last, and the answer to the last call is the answer to the query (`IsAnswered`).  A
policy that allows no call, or less than none, still allows one.

## Pauses that fail

Nobody looks at the pause of the policy before it is made.  If the clock refuses it, or an order to stop
comes while it lasts, then that is the end: the fault of the pause is the answer to the query, although
more calls would have been allowed (`IsBroken`).  The clock of a machine refuses less than no time, what
is no number, and what it cannot count to (`pendingNonce_of_refusal?`).

A chain without a client, and a value that names no account, are faults without any call.  And a value
that is accepted as a sender is asked about by the very text under which the sender is kept
(`pendingNonce_meetsSpec`).

## Orders to stop

Which faults end a query is a parameter of the description, because it is easily told too narrowly: the
keyboard interrupt and the request to exit are not the only orders to stop (`stops_when_closed`).
-/

namespace Outbox
namespace Chains

variable {σ α : Type}

/-! ## 1.  A row of calls -/

/-- The state before a call that comes after so many others, and after as many pauses. -/
def stateBefore (call : Act Empty σ α) (pause : Act Empty σ Unit) : σ → Nat → σ
  | s, 0 => s
  | s, n + 1 => stateBefore call pause (pause (call s).next).next n

/-- The answer to the call that comes after so many others. -/
def answer (call : Act Empty σ α) (pause : Act Empty σ Unit) (s : σ) (n : Nat) : Except Fault α :=
  (call (stateBefore call pause s n)).result

/-- What comes of the pause after that call. -/
def paused (call : Act Empty σ α) (pause : Act Empty σ Unit) (s : σ) (n : Nat) : Except Fault Unit :=
  (pause (call (stateBefore call pause s n)).next).result

/-- Nothing is asked after such an answer: it is a nonce, or a fault that stops. -/
def endsWith (stops : Fault → Bool) : Except Fault α → Bool
  | .ok _ => true
  | .error e => stops e

/-- So many calls with a pause between any two. -/
def callsAndPauses (client : Client) (account : String) (seconds : Binary64) (calls : Nat) :
    List ClientNote :=
  (List.replicate calls (ClientNote.asks client account)).intersperse (.pauses seconds)

section

variable (stops : Fault → Bool) (tries : Nat) (seconds : Binary64) (client : Client) (account : String)
  (call : Act Empty σ α) (pause : Act Empty σ Unit) (s : σ) (last : Nat) (o : Outcome ClientNote σ α)

/-- The outcome is the answer to the last call, after which no other is made. -/
structure IsAnswered : Prop where
  ends : endsWith stops (answer call pause s last) = true ∨ last + 1 = tries
  result : o.result = answer call pause s last
  notes : o.notes = callsAndPauses client account seconds (last + 1)
  next : o.next = (call (stateBefore call pause s last)).next

/-- Another call would be made, but the pause before it fails, and its fault is the outcome. -/
structure IsBroken : Prop where
  more : last + 1 < tries
  goesOn : endsWith stops (answer call pause s last) = false
  result : ∃ e, paused call pause s last = .error e ∧ o.result = .error e
  notes : o.notes = callsAndPauses client account seconds (last + 1) ++ [.pauses seconds]
  next : o.next = (pause (call (stateBefore call pause s last)).next).next

/-- The outcome is that of asking a client for an account's nonce until an answer ends it or a pause
fails, so many times at most; `last` is how many calls come before the last one. -/
structure IsQuery : Prop where
  within : last < tries
  goesOn : ∀ i < last,
    endsWith stops (answer call pause s i) = false ∧ paused call pause s i = .ok ()
  ended : IsAnswered stops tries seconds client account call pause s last o ∨
    IsBroken stops tries seconds client account call pause s last o

end

/-- A single try: the call, and the note of it. -/
def singleTry (client : Client) (account : String) (call : Act Empty σ α) : Act ClientNote σ α := do
  Act.note (.asks client account)
  call.silent

section

variable {client : Client} {account : String} {call : Act Empty σ α} {clock : Clock σ}
  {seconds : Binary64} {s : σ}

theorem singleTry_eq : singleTry client account call s =
    ⟨(call s).result, [.asks client account], (call s).next⟩ := by
  rw [singleTry, Act.bind_of_ok (a := ()) rfl, Outcome.after, Act.notes_silent]
  rfl

theorem wait_eq : wait clock seconds s =
    ⟨(clock seconds s).result, [.pauses seconds], (clock seconds s).next⟩ := by
  rw [wait, Act.bind_of_ok (a := ()) rfl, Outcome.after, Act.notes_silent]
  rfl

theorem callsAndPauses_succ (client : Client) (account : String) (seconds : Binary64) (calls : Nat) :
    callsAndPauses client account seconds (calls + 2) =
      .asks client account :: .pauses seconds ::
        callsAndPauses client account seconds (calls + 1) := rfl

/-- A query whose first answer ends it is one call. -/
theorem isQuery_once {tries : Nat} (htries : 0 < tries)
    (hends : endsWith Fault.isInterrupt (call s).result = true ∨ 1 = tries) :
    IsQuery Fault.isInterrupt tries seconds client account call (clock seconds) s 0
      (singleTry client account call s) where
  within := htries
  goesOn := fun i hi => absurd hi (Nat.not_lt_zero i)
  ended := .inl
    { ends := hends
      result := by rw [singleTry_eq]; rfl
      notes := by rw [singleTry_eq]; rfl
      next := by rw [singleTry_eq]; rfl }

/-- A query whose first pause fails is one call and the pause. -/
theorem isQuery_broken {tries : Nat} {e : Fault} (htries : 1 < tries)
    (hgoesOn : endsWith Fault.isInterrupt (call s).result = false)
    (hpause : (clock seconds (call s).next).result = .error e) :
    IsQuery Fault.isInterrupt tries seconds client account call (clock seconds) s 0
      ⟨.error e, [.asks client account, .pauses seconds], (clock seconds (call s).next).next⟩ where
  within := Nat.lt_of_succ_lt htries
  goesOn := fun i hi => absurd hi (Nat.not_lt_zero i)
  ended := .inr
    { more := htries
      goesOn := hgoesOn
      result := ⟨e, hpause, rfl⟩
      notes := rfl
      next := rfl }

/-- A query goes on after a first answer that does not end it, and a pause. -/
theorem IsQuery.cons {tries last : Nat} {o : Outcome ClientNote σ α}
    (hgoesOn : endsWith Fault.isInterrupt (call s).result = false)
    (hpause : (clock seconds (call s).next).result = .ok ())
    (h : IsQuery Fault.isInterrupt tries seconds client account call (clock seconds)
      (clock seconds (call s).next).next last o) :
    IsQuery Fault.isInterrupt (tries + 1) seconds client account call (clock seconds) s (last + 1)
      (o.after [.asks client account, .pauses seconds]) where
  within := Nat.succ_lt_succ h.within
  goesOn := by
    intro i hi
    cases i with
    | zero => exact ⟨hgoesOn, hpause⟩
    | succ i => exact h.goesOn i (by omega)
  ended := by
    rcases h.ended with hanswered | hbroken
    · refine .inl ⟨hanswered.ends.imp id fun hlast => by rw [hlast], hanswered.result, ?_,
        hanswered.next⟩
      rw [Outcome.notes_after, hanswered.notes, callsAndPauses_succ]
      rfl
    · refine .inr ⟨Nat.succ_lt_succ hbroken.more, hbroken.goesOn, hbroken.result, ?_, hbroken.next⟩
      rw [Outcome.notes_after, hbroken.notes, callsAndPauses_succ]
      rfl

/-- **A retried call is a query** with as many tries as follow the first, and one more. -/
theorem retry_isQuery (further : Nat) (s : σ) :
    ∃ last, IsQuery Fault.isInterrupt (further + 1) seconds client account call (clock seconds) s last
      (retry (wait clock seconds) (singleTry client account call) further s) := by
  induction further generalizing s with
  | zero => exact ⟨0, isQuery_once Nat.one_pos (.inr rfl)⟩
  | succ further ih =>
    rw [retry_succ]
    cases hanswer : (call s).result with
    | ok a =>
      have hresult : (singleTry client account call s).result = .ok a := by rw [singleTry_eq, hanswer]
      rw [Act.rescue_of_ok hresult]
      exact ⟨0, isQuery_once (by omega) (.inl (by rw [hanswer]; rfl))⟩
    | error e =>
      have hresult : (singleTry client account call s).result = .error e := by rw [singleTry_eq, hanswer]
      by_cases he : e.isInterrupt = true
      · rw [Act.rescue_of_interrupt hresult he]
        exact ⟨0, isQuery_once (by omega) (.inl (by rw [hanswer]; exact he))⟩
      · rw [Bool.not_eq_true] at he
        have hgoesOn : endsWith Fault.isInterrupt (call s).result = false := by rw [hanswer]; exact he
        rw [Act.rescue_of_fault hresult he, singleTry_eq]
        cases hpause : (clock seconds (call s).next).result with
        | error f =>
          have hfails : (wait clock seconds (call s).next).result = .error f := by
            rw [wait_eq, hpause]
          rw [Act.bind_of_error hfails, wait_eq]
          exact ⟨0, isQuery_broken (by omega) hgoesOn hpause⟩
        | ok u =>
          have hpasses : (wait clock seconds (call s).next).result = .ok () := by rw [wait_eq, hpause]
          obtain ⟨last, hrest⟩ := ih (clock seconds (call s).next).next
          refine ⟨last + 1, ?_⟩
          rw [Act.bind_of_ok hpasses, Outcome.after_after, wait_eq]
          exact hrest.cons hgoesOn hpause

end

/-! ## 2.  A query -/

/-- What a query for the pending nonce of an account is, when some faults stop it. -/
structure MeetsSpec (stops : Fault → Bool) (pool : ClientPool) (policy : RetryPolicy) (clock : Clock σ)
    (ask : Client → String → Act Empty σ α) (chain : Int) (account : Value) (s : σ) : Prop where
  /-- A chain without a client is a fault without any call, ... -/
  unknown : pool.clients.lookup chain = none →
    pendingNonce pool policy clock ask chain account s =
      ⟨.error (ClientPool.notConfigured chain), [], s⟩
  /-- ... which says so, unless the number of the chain has too many digits to be written. -/
  configured : if Literal.isWritable chain then
      (ClientPool.notConfigured chain).kind = .own .chainNotConfigured
    else ClientPool.notConfigured chain = .tooManyDigits
  /-- A value that names no account is a fault without any call. -/
  refused : ∀ client e, pool.clients.lookup chain = some client →
    Address.coerce account = .error e →
      pendingNonce pool policy clock ask chain account s = ⟨.error e.fault, [], s⟩
  /-- Otherwise the client of the chain is asked for the account. -/
  asked : ∀ client a, pool.clients.lookup chain = some client → Address.coerce account = .ok a →
    ∃ last, IsQuery stops (max 1 policy.attempts).toNat policy.pause client a.text
      (ask client a.text) (clock policy.pause) s last
      (pendingNonce pool policy clock ask chain account s)
  /-- What is accepted as a sender is asked for by the text under which it is kept. -/
  accepted : ∀ t, Address.normalize account = .ok t →
    ∃ a, Address.coerce account = .ok a ∧ a.text = t ∧ a.key = .ofText t

section

variable {pool : ClientPool} {chain : Int} {client : Client} {account : Value}

theorem pendingNonce_of_none (h : pool.clients.lookup chain = none) (policy : RetryPolicy)
    (clock : Clock σ) (ask : Client → String → Act Empty σ α) (account : Value) (s : σ) :
    pendingNonce pool policy clock ask chain account s =
      ⟨.error (ClientPool.notConfigured chain), [], s⟩ := by
  have hclient : pool.client chain = .error (ClientPool.notConfigured chain) := by
    rw [ClientPool.client, h]
  rw [pendingNonce, hclient]
  rfl

theorem pendingNonce_of_error {e : AccountError} (h : pool.clients.lookup chain = some client)
    (haccount : Address.coerce account = .error e) (policy : RetryPolicy) (clock : Clock σ)
    (ask : Client → String → Act Empty σ α) (s : σ) :
    pendingNonce pool policy clock ask chain account s = ⟨.error e.fault, [], s⟩ := by
  have hclient : pool.client chain = .ok client := by rw [ClientPool.client, h]
  rw [pendingNonce, hclient, haccount]
  rfl

/-- An account that the value names is asked about in so many tries as the policy allows. -/
theorem pendingNonce_eq_retry {a : Address} (h : pool.clients.lookup chain = some client)
    (haccount : Address.coerce account = .ok a) (policy : RetryPolicy) (clock : Clock σ)
    (ask : Client → String → Act Empty σ α) (s : σ) :
    pendingNonce pool policy clock ask chain account s =
      retry (wait clock policy.pause) (singleTry client a.text (ask client a.text)) policy.further
        s := by
  have hclient : pool.client chain = .ok client := by rw [ClientPool.client, h]
  rw [pendingNonce, hclient, haccount]
  rfl

/-- The client of the chain is asked for an account that the value names. -/
theorem pendingNonce_isQuery {a : Address} (h : pool.clients.lookup chain = some client)
    (haccount : Address.coerce account = .ok a) (policy : RetryPolicy) (clock : Clock σ)
    (ask : Client → String → Act Empty σ α) (s : σ) :
    ∃ last, IsQuery Fault.isInterrupt (max 1 policy.attempts).toNat policy.pause client a.text
      (ask client a.text) (clock policy.pause) s last
      (pendingNonce pool policy clock ask chain account s) := by
  have htries : (max 1 policy.attempts).toNat = policy.further + 1 := by
    rw [RetryPolicy.further]
    omega
  rw [htries, pendingNonce_eq_retry h haccount]
  exact retry_isQuery policy.further s

/-- **A machine that refuses the pause breaks off after the first call that fails**, however many tries
the policy allows. -/
theorem pendingNonce_of_refusal? {a : Address} {policy : RetryPolicy}
    {ask : Client → String → Act Empty σ α} {s : σ} {e refusal : Fault}
    (h : pool.clients.lookup chain = some client) (haccount : Address.coerce account = .ok a)
    (htries : 1 < policy.attempts) (hfails : (ask client a.text s).result = .error e)
    (he : e.isInterrupt = false) (hrefusal : Clock.refusal? policy.pause = some refusal) :
    pendingNonce pool policy .machine ask chain account s =
      ⟨.error refusal, [.asks client a.text, .pauses policy.pause], (ask client a.text s).next⟩ := by
  obtain ⟨further, hfurther⟩ : ∃ n, policy.further = n + 1 :=
    Nat.exists_eq_succ_of_ne_zero (by rw [RetryPolicy.further]; omega)
  have htry : (singleTry client a.text (ask client a.text) s).result = .error e := by
    rw [singleTry_eq, hfails]
  have hclock : ∀ s' : σ, Clock.machine policy.pause s' = ⟨.error refusal, [], s'⟩ := fun s' => by
    rw [Clock.machine, hrefusal]
    rfl
  have hwait : (wait Clock.machine policy.pause (ask client a.text s).next).result = .error refusal := by
    rw [wait_eq, hclock]
  rw [pendingNonce_eq_retry h haccount, hfurther, retry_succ, Act.rescue_of_fault htry he, singleTry_eq,
    Act.bind_of_error hwait, wait_eq, hclock]
  rfl

example : Clock.refusal? (.ofInt (-1)) = some (.badValue "sleep length must be non-negative") := rfl

end

/-- **What a query for a pending nonce does**, whatever the client answers and whatever pauses the clock
refuses. -/
theorem pendingNonce_meetsSpec (pool : ClientPool) (policy : RetryPolicy) (clock : Clock σ)
    (ask : Client → String → Act Empty σ α) (chain : Int) (account : Value) (s : σ) :
    MeetsSpec Fault.isInterrupt pool policy clock ask chain account s where
  unknown hnone := pendingNonce_of_none hnone policy clock ask account s
  configured := ClientPool.notConfigured_spec chain
  refused _ _ hsome haccount := pendingNonce_of_error hsome haccount policy clock ask s
  asked _ _ hsome haccount := pendingNonce_isQuery hsome haccount policy clock ask s
  accepted := by
    intro t ht
    obtain ⟨a, ha, rfl⟩ := Address.normalize_eq_ok_iff.mp ht
    exact ⟨a, Address.coerce_of_accept ha, rfl, rfl⟩

/-! ## 3.  An order that is easily forgotten -/

/-- The keyboard interrupt or the request to exit. -/
def isKeyboardOrExit (fault : Fault) : Bool :=
  fault.isInterrupt && (fault.name == "KeyboardInterrupt" || fault.name == "SystemExit")

/-- A node that plays from a list of answers. -/
def playing : Act Empty (List (Except Fault Value)) Value := fun answers =>
  ⟨answers.headD (.ok .null), [], answers.tail⟩

/-- The first call is closed, and the second would succeed. -/
def closedOnce : List (Except Fault Value) :=
  [.error { kind := .foreign "GeneratorExit" .order, args := [] }, .ok (.int 5)]

/-- **The keyboard interrupt and the request to exit are not all that stops a query.**  Of three tries
the first is closed, and that is the end although the second would have succeeded. -/
theorem stops_when_closed :
    ¬ ∀ (a : Address) (answers : List (Except Fault Value)),
      MeetsSpec isKeyboardOrExit (ClientPool.ofChains [(1, "http://a")]) ⟨3, .ofDecimal false 2 0⟩
        .patient (fun _ _ => playing) 1 (.text a.text) answers := by
  intro h
  have haccount : Address.coerce (.text (Address.uniform 1).text) = .ok (.uniform 1) :=
    Address.coerce_of_spelled? (by simp [Address.text])
  obtain ⟨last, hquery⟩ := (h (.uniform 1) closedOnce).asked ⟨0, "http://a"⟩ _ rfl haccount
  have honce : (pendingNonce (ClientPool.ofChains [(1, "http://a")]) ⟨3, .ofDecimal false 2 0⟩
      .patient (fun _ _ => playing) 1 (.text (Address.uniform 1).text) closedOnce).notes =
        [.asks ⟨0, "http://a"⟩ (Address.uniform 1).text] := by
    have hclosed : (singleTry ⟨0, "http://a"⟩ (Address.uniform 1).text playing closedOnce).result =
        .error { kind := .foreign "GeneratorExit" .order, args := [] } := rfl
    have hfurther : (⟨3, .ofDecimal false 2 0⟩ : RetryPolicy).further = 2 := rfl
    rw [pendingNonce_eq_retry rfl haccount, hfurther, retry_succ, Act.rescue_of_interrupt hclosed rfl,
      singleTry_eq]
  -- One note is one call, and its answer is none of the two that would end the query.
  have hlength : ∀ calls, (callsAndPauses ⟨0, "http://a"⟩ (Address.uniform 1).text
      (.ofDecimal false 2 0) calls).length = 2 * calls - 1 := fun calls => by
    rw [callsAndPauses, List.length_intersperse, List.length_replicate]
  rcases hquery.ended with hanswered | hbroken
  · have hnotes := congrArg List.length (honce.symm.trans hanswered.notes)
    rw [hlength, List.length_singleton] at hnotes
    obtain rfl : last = 0 := by omega
    rcases hanswered.ends with hends | htries
    · exact absurd hends (by decide)
    · exact absurd htries (by decide)
  · have hnotes := congrArg List.length (honce.symm.trans hbroken.notes)
    rw [List.length_append, hlength, List.length_singleton, List.length_singleton] at hnotes
    omega

end Chains
end Outbox
