import Outbox.Proofs.HonestNetwork
import Outbox.Proofs.Tracking

/-!
# What is counted

The counters are written in many places --- at the lookups, at a clash, at each way out of a
dispatch, at a failed registration.  This file says what the parts of a dispatch count.

`Counters.Tells` is the rule by which something read off the counters can be told by the deeds: it
is told the lookups and the failed registrations as they are counted, and the rest of the talk is
of no account.  What obeys the rule tracks the talk of every settlement, and that of every dispatch
if it does not see how dispatches end (`tracks_settle_counters`, `tracks_dispatch_counters`).  Four
things obey it: the retries less the lookups after a refused nonce, to which nothing is told at all;
the lookups; the failed registrations; and the outcomes, which no settlement touches.

The lookups for want of a nonce do not obey it, because the talk does not say why the network is
asked.  They are told by the book (`misses_settle`).
-/

namespace Outbox

variable {ν σ γ : Type}

/-! ## 1.  Deeds that are counted -/

/-- A failed registration with this fault is reported: the fault is no order to stop, and it has a
text. -/
def Fault.isReportable (e : Fault) : Bool := !e.isInterrupt && e.askText.isOk

theorem Fault.isReportable_of_report {e report : Fault} (he : e.isInterrupt = false)
    (hreport : Desk.notRegistered e = .ok report) : e.isReportable = true := by
  cases htext : e.askText with
  | ok text => simp [isReportable, he, htext, Except.isOk, Except.toBool]
  | error f =>
    rw [Desk.notRegistered_of_askText_error htext] at hreport
    exact absurd hreport (by simp)

theorem Fault.isReportable_of_interrupt {e : Fault} (he : e.isInterrupt = true) :
    e.isReportable = false := by
  simp [isReportable, he]

theorem Fault.isReportable_of_unspoken {e f : Fault} (hreport : Desk.notRegistered e = .error f) :
    e.isReportable = false := by
  simp [isReportable, Desk.askText_of_notRegistered_error hreport, Except.isOk, Except.toBool]

/-- The deed is a question to the network. -/
def Deed.isLookup : Deed Call → Bool
  | .asksNonce _ _ => true
  | _ => false

/-- The deed is a registration that the gate answers with a fault that is reported. -/
def Deed.isFailedRegistration : Deed Call → Bool
  | .passes (.register _ _ _ (.error e)) => e.isReportable
  | _ => false

/-- The deed is a matter of the counters: the network is asked and answers, or a registration fails
and is reported. -/
def Deed.isCounted : Deed Call → Bool
  | .asksNonce _ _ => true
  | .passes (.nonce _ _ _) => true
  | .passes (.register _ _ _ (.error e)) => e.isReportable
  | _ => false

/-- How many registrations the gate has answered with a fault that is reported. -/
def Talk.failedRegistrations (talk : Talk) : Nat := talk.countP Deed.isFailedRegistration

theorem Talk.lookups_eq (talk : Talk) : talk.lookups = talk.countP Deed.isLookup := rfl

/-- How many lookups have been made for want of a nonce. -/
def Counters.misses (c : Counters) : Nat := c.nonceLookups.count LookupReason.cacheMiss.label

/-- Something read off the counters is told by the deeds: the lookups and the failed registrations
as they are counted, and nothing else. -/
structure Counters.Tells (m : Counters → γ) (told : Deed Call → γ → γ) : Prop where
  first (chain : Int) (account : Key) (answer : Except Fault Value) (c : Counters) :
    m (c.add (.nonceLookup LookupReason.cacheMiss.label)) =
      (Talk.asksNonce chain account answer).tellTo told (m c)
  second (chain : Int) (account : Key) (answer : Except Fault Value) (c : Counters) :
    m ((c.add .nonceRetry).add (.nonceLookup LookupReason.nonceError.label)) =
      (Talk.asksNonce chain account answer).tellTo told (m c)
  failed (tx : Value) (terms : Terms) (sender : Address) (e : Fault) (he : e.isReportable = true)
      (c : Counters) :
    m (c.add .sinkError) = told (.passes (.register tx terms sender (.error e))) (m c)
  quiet (deed : Deed Call) (hdeed : deed.isCounted = false) (c : γ) : told deed c = c

/-- Every retry is a lookup after a refused nonce. -/
theorem Counters.tells_retries :
    Tells (fun c => (c.nonceRetries : Int) - c.nonceLookups.count LookupReason.nonceError.label)
      fun _ n => n where
  first _ _ _ c := by simp [add, LookupReason.label]
  second _ _ _ c := by
    have hlookups : (c.nonceLookups.add LookupReason.nonceError.label).count
        LookupReason.nonceError.label = c.nonceLookups.count LookupReason.nonceError.label + 1 := by
      simp
    rw [Talk.tellTo_still]
    show ((c.nonceRetries + 1 : Nat) : Int) -
      (c.nonceLookups.add LookupReason.nonceError.label).count LookupReason.nonceError.label = _
    rw [hlookups]
    omega
  failed _ _ _ _ _ _ := rfl
  quiet _ _ _ := rfl

/-- The lookups are the questions to the network. -/
theorem Counters.tells_lookups :
    Tells (fun c => c.nonceLookups.total) (countDeed Deed.isLookup) where
  first _ _ _ _ := Tally.total_add _ _
  second _ _ _ _ := Tally.total_add _ _
  failed _ _ _ _ _ _ := rfl
  quiet deed hdeed n := by cases deed <;> simp_all [Deed.isCounted, Deed.isLookup, countDeed]

/-- The failed registrations are those that the gate has answered with a fault that is reported. -/
theorem Counters.tells_sinkErrors :
    Tells Counters.sinkErrors (countDeed Deed.isFailedRegistration) where
  first _ _ _ _ := rfl
  second _ _ _ _ := rfl
  failed _ _ _ e he c := by simp [countDeed, Deed.isFailedRegistration, he, add]
  quiet deed hdeed n := by
    have hkind : deed.isFailedRegistration = false := by
      unfold Deed.isCounted at hdeed
      unfold Deed.isFailedRegistration
      split <;> simp_all
    simp [countDeed, hkind]

/-- The outcomes of dispatches are told by no deed. -/
theorem Counters.tells_dispatches : Tells Counters.dispatches fun _ t => t where
  first _ _ _ _ := rfl
  second _ _ _ _ := rfl
  failed _ _ _ _ _ _ := rfl
  quiet _ _ _ := rfl

namespace Desk

variable (gate : Gate ν σ) (source : NonceSource ν σ) (sink : Option (ErrorSink ν σ)) (chain : Int)
  (account : Key) (request : Request) (send : SendCallback ν σ)

section Counters

variable {m : Counters → γ} {told : Deed Call → γ → γ}

/-- Nothing is counted while the gate is asked. -/
theorem tracks_needRoom_counters (m : Counters → γ)
    (hquiet : ∀ deed : Deed Call, deed.isCounted = false → ∀ c, told deed c = c)
    (sender : Address) :
    Tracks (fun d => m d.counters) told (needRoom gate.heard sender) := by
  refine (tracks_cached sender.key).bind fun _ => tracks_question rfl _ (hquiet _ rfl) fun d => ?_
  exact (hquiet _ rfl _).symm

theorem tracks_needSigner_counters (m : Counters → γ)
    (hquiet : ∀ deed : Deed Call, deed.isCounted = false → ∀ c, told deed c = c)
    (sender : Address) :
    Tracks (fun d => m d.counters) told (needSigner gate.heard sender) := by
  refine (tracks_cached sender.key).bind fun _ => tracks_question rfl _ (hquiet _ rfl) fun d => ?_
  exact (hquiet _ rfl _).symm

/-- Nothing is counted while a transaction is submitted. -/
theorem tracks_submit_counters (m : Counters → γ)
    (hquiet : ∀ deed : Deed Call, deed.isCounted = false → ∀ c, told deed c = c) (nonce : Value) :
    Tracks (fun d => m d.counters) told (submit send.heard nonce) := by
  refine (tracks_note rfl (hquiet _ rfl)).bind fun _ => Tracks.bind ?_ fun tx => tracks_pure _
  exact tracks_outside fun d => (hquiet _ rfl _).symm

theorem tracks_markUsed_counters (m : Counters → γ) (told : Deed Call → γ → γ) (nonce : Value) :
    Tracks (fun d : Desk σ => m d.counters) told (markUsed account nonce) :=
  (tracks_ofExcept _).bind fun _ => tracks_change fun _ => rfl

/-- Of a registration its failure is counted if it is reported, whatever becomes of the report. -/
theorem tracks_register_counters
    (hfailed : ∀ tx terms sender e, e.isReportable = true → ∀ c,
      m (Counters.add .sinkError c) = told (.passes (.register tx terms sender (.error e))) (m c))
    (hquiet : ∀ deed : Deed Call, deed.isCounted = false → ∀ c, told deed c = c) (tx : Value)
    (terms : Terms) (sender : Address) :
    Tracks (fun d => m d.counters) told
      (register gate.heard (sink.map ErrorSink.heard) tx terms sender) := by
  -- of what is said only the gate's answer is told
  have hregisters (cached : Option Numeral) (answer : Except Fault Unit) (c : γ) :
      (Talk.registers tx terms sender cached answer).tellTo told c =
        told (.passes (.register tx terms sender answer)) c :=
    congrArg (told _) (hquiet (.registers tx terms sender cached) rfl c)
  have hreports (e : Fault) (answer : Except Fault Unit) (c : γ) :
      (Talk.reports e answer).tellTo told c = c :=
    (hquiet (.passes (.tell e answer)) rfl _).trans (hquiet (.reports e) rfl c)
  intro d
  cases hinsert : (gate.insert tx terms sender d.world).result with
  | ok u =>
    have hgoes : Goes (register gate.heard (sink.map ErrorSink.heard) tx terms sender) d _ _ _ :=
      register_goes_ok hinsert
    rw [hgoes.next, hgoes.said, hregisters]
    exact (hquiet (.passes (.register tx terms sender (.ok ()))) rfl _).symm
  | error e =>
    cases he : e.isInterrupt with
    | true =>
      have hgoes : Goes (register gate.heard (sink.map ErrorSink.heard) tx terms sender) d _ _ _ :=
        register_goes_interrupt hinsert he
      have hstopped : Deed.isCounted (.passes (.register tx terms sender (.error e))) = false :=
        Fault.isReportable_of_interrupt he
      rw [hgoes.next, hgoes.said, hregisters]
      exact (hquiet _ hstopped _).symm
    | false =>
      cases hreport : notRegistered e with
      | error f =>
        have hgoes : Goes (register gate.heard (sink.map ErrorSink.heard) tx terms sender) d _ _ _ :=
          register_goes_unspoken hinsert he hreport
        have hunspoken : Deed.isCounted (.passes (.register tx terms sender (.error e))) = false :=
          Fault.isReportable_of_unspoken hreport
        rw [hgoes.next, hgoes.said, hregisters]
        exact (hquiet _ hunspoken _).symm
      | ok report =>
        have hreportable := Fault.isReportable_of_report he hreport
        cases sink with
        | none =>
          have hgoes := register_goes_unheard hinsert he hreport
          rw [Option.map_none, hgoes.next, hgoes.said, hregisters]
          exact hfailed tx terms sender e hreportable d.counters
        | some tell =>
          have hgoes := register_goes_reported tell hinsert he hreport
          rw [Option.map_some, hgoes.next, hgoes.said, Talk.tellTo_append, hreports, hregisters]
          exact hfailed tx terms sender e hreportable d.counters

theorem tracks_admitting_counters (m : Counters → γ)
    (hquiet : ∀ deed : Deed Call, deed.isCounted = false → ∀ c, told deed c = c)
    (sender : Address) :
    Tracks (fun d => m d.counters) told (admitting gate.heard request sender) :=
  tracks_admitting request sender (tracks_needRoom_counters gate m hquiet sender)
    (tracks_needSigner_counters gate m hquiet sender)

/-- **What is told the lookups as they are counted tracks the talk of a settlement.** -/
theorem tracks_settle_counters (h : Counters.Tells m told) :
    Tracks (fun d => m d.counters) told (settle source.heard chain account send.heard) := by
  refine tracks_settle (tracks_lookup fun d => ?_) (tracks_secondNonce fun d => ?_)
    (tracks_submit_counters send m h.quiet) (tracks_markUsed_counters account m told)
  · exact h.first chain account _ d.counters
  · exact h.second chain account _ d.counters

/-- What does not see how dispatches end tracks the talk of a dispatch. -/
theorem tracks_dispatch_counters (h : Counters.Tells m told)
    (hdispatch : ∀ outcome c, m (Counters.add (.dispatch outcome) c) = m c) :
    Tracks (fun d => m d.counters) told
      (dispatch gate.heard source.heard (sink.map ErrorSink.heard) chain request send.heard) := by
  refine tracks_dispatch request (fun outcome => tracks_change fun d => hdispatch outcome _)
    ?_ ?_ ?_ ?_
  · intro sender
    exact tracks_needRoom_counters gate m h.quiet sender
  · intro sender
    exact tracks_needSigner_counters gate m h.quiet sender
  · intro sender
    exact tracks_settle_counters source chain sender.key send h
  · intro sender terms tx
    exact tracks_register_counters gate sink h.failed h.quiet tx terms sender

variable {gate source sink chain account request send} {sender : Address} {d d' : Desk σ} {t : Talk}

/-- Nothing is counted in an admission. -/
theorem Goes.counters_admitting {r : Except Fault Unit}
    (h : Goes (admitting gate.heard request sender) d r t d') : d'.counters = d.counters :=
  h.still (tracks_admitting_counters gate request id (fun _ _ _ => rfl) sender)

/-- In a registration nothing is counted but its failure. -/
theorem Goes.counters_register {tx : Value} {terms : Terms} {r : Except Fault Unit}
    (h : Goes (register gate.heard (sink.map ErrorSink.heard) tx terms sender) d r t d')
    (m : Counters → γ) (hm : ∀ c, m (Counters.add .sinkError c) = m c) :
    m d'.counters = m d.counters :=
  h.still (tracks_register_counters gate sink (fun _ _ _ _ _ => hm) (fun _ _ _ => rfl) tx terms sender)

/-- A settlement has no outcome of its own. -/
theorem Goes.dispatches_settle {r : Except Fault Value}
    (h : Goes (settle source.heard chain account send.heard) d r t d') :
    d'.counters.dispatches = d.counters.dispatches :=
  h.still (tracks_settle_counters source chain account send Counters.tells_dispatches)

end Counters

/-! ## 2.  Sends that find no nonce -/

/-- If what follows an act leaves a view as it is, the view after both is the view after the act. -/
theorem Tracks.bind_still {α β : Type} {view : Desk σ → γ} {x : Act (Deed Call) (Desk σ) α}
    {f : α → Act (Deed Call) (Desk σ) β} (hf : ∀ a, Tracks view (fun _ c => c) (f a)) (d : Desk σ) :
    view ((x >>= f) d).next = view (x d).next := by
  cases hresult : (x d).result with
  | error e => rw [Act.bind_of_error hresult]
  | ok a =>
    rw [Act.bind_of_ok hresult, Outcome.next_after]
    exact (hf a).still (x d).next

/-- **A settlement looks for a first nonce exactly if the book has none.** -/
theorem misses_settle (d : Desk σ) :
    (settle source.heard chain account send.heard d).next.counters.misses =
      d.counters.misses + if d.book.get? account = none then 1 else 0 := by
  -- after the first nonce has been chosen every lookup is one after a clash
  have hrest (first : Value) : Tracks (fun d => d.counters.misses) (fun _ c => c)
      (submissions source.heard chain account send.heard first >>= fun used =>
        markUsed account used.1 >>= fun _ => pure used.2) := by
    refine Tracks.bind (tracks_submissions (tracks_secondNonce fun d => ?_) ?_ first) fun used => ?_
    · simp [Counters.misses, afterResync, afterLookup, afterClash, Counters.add,
        LookupReason.label, Talk.asksNonce]
    · exact tracks_submit_counters send Counters.misses fun _ _ _ => rfl
    · exact (tracks_markUsed_counters account Counters.misses _ used.1).bind fun _ =>
        tracks_pure used.2
  have hsettle : (settle source.heard chain account send.heard d).next.counters.misses =
      (firstNonce source.heard chain account d).next.counters.misses := Tracks.bind_still hrest d
  rw [hsettle]
  cases hcached : d.book.get? account with
  | some n =>
    cases hline : usedLine account (.ofNumeral n) with
    | error e =>
      rw [(firstNonce_goes_unshown chain account source hcached hline).next]
      simp
    | ok text =>
      rw [(firstNonce_goes_cached chain account source hcached ⟨text, hline⟩).next]
      simp
  | none =>
    have hlookup : firstNonce source.heard chain account d =
        (lookup source.heard chain account .cacheMiss d).after [] := by
      have hfound : (cached account d : Outcome (Deed Call) (Desk σ) _).result = .ok none :=
        congrArg _ hcached
      exact Act.bind_of_ok hfound
    rw [hlookup, Outcome.next_after, (lookup_asks source chain account .cacheMiss d).1]
    simp [Counters.misses, afterLookup, Counters.add]

end Desk
end Outbox
