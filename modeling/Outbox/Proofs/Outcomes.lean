import Outbox.Proofs.Counting
import Outbox.Proofs.Phases

/-!
# The outcome under which a dispatch is counted

A dispatch has several ways out, and on each of them something is counted or nothing is.  Read from
the outside there is one rule.  A dispatch is counted under no outcome at all if there was an order to
stop before anything had been sent, and otherwise under exactly one: as sent if the settlement has
returned, as a failed query if the gate brought up a fault of its own while it was asked, and under
the name of the fault that it ends with in all other cases (`IsCounted`).

The rule speaks of faults that are met, which are the answers of the collaborators, and not of those
that are raised.  The two are connected part by part: an admission ends with a foreign fault exactly
if it meets with it (`Admission.meetsIn_iff`), and a settlement ends with an order to stop exactly if
one is brought up in it (`Sending.bringsUp_iff`).  An order to stop is brought up by whoever answers
with it, and also by a fault whose text cannot be had because of it (`Fault.BringsUp`).
-/

namespace Outbox

variable {ν σ : Type}

/-! ## 1.  Faults that are met -/

/-- In a part of the conversation a collaborator has answered with the fault. -/
def Talk.MeetsIn (part : Part) (e : Fault) (t : Talk) : Prop :=
  ∃ call ∈ t.calls, call.part = part ∧ call.fault? = some e

/-- A fault brings up another: it is that fault, or asking for its text ends with it. -/
def Fault.BringsUp (cause e : Fault) : Prop :=
  cause = e ∨ cause.isInterrupt = false ∧ cause.askText = .error e

/-- In a part of the conversation a collaborator has answered with a fault that brings up the
fault. -/
def Talk.BringsUp (part : Part) (e : Fault) (t : Talk) : Prop :=
  ∃ cause, t.MeetsIn part cause ∧ cause.BringsUp e

namespace Talk

variable {part : Part} {e : Fault} {s t : Talk}

@[simp] theorem meetsIn_append :
    MeetsIn part e (s ++ t) ↔ MeetsIn part e s ∨ MeetsIn part e t := by
  simp [MeetsIn, or_and_right, exists_or]

@[simp] theorem not_meetsIn_nil : ¬ MeetsIn part e [] := by simp [MeetsIn, calls]

@[simp] theorem bringsUp_append :
    BringsUp part e (s ++ t) ↔ BringsUp part e s ∨ BringsUp part e t := by
  simp [BringsUp, or_and_right, exists_or]

@[simp] theorem not_bringsUp_nil : ¬ BringsUp part e [] := by simp [BringsUp]

/-- What belongs to one part meets with nothing in another. -/
theorem not_meetsIn {other : Part} (h : ∀ call ∈ t.calls, call.part = other)
    (hne : other ≠ part) : ¬ MeetsIn part e t := by
  rintro ⟨call, hcall, hpart, -⟩
  exact hne ((h call hcall).symm.trans hpart)

/-- What belongs to one part brings up nothing in another. -/
theorem not_bringsUp {other : Part} (h : ∀ call ∈ t.calls, call.part = other)
    (hne : other ≠ part) : ¬ BringsUp part e t := by
  rintro ⟨cause, hmeets, -⟩
  exact not_meetsIn h hne hmeets

end Talk

section

variable {sender : Address} {cached : Option Numeral} {forced : Bool} {given : Value → Prop}
  {chain : Int} {account : Key} {t : Talk} {e : Fault}

/-- An admission ends with a fault that is none of the library's exactly if it meets with it. -/
theorem Admission.meetsIn_iff {r : Except Fault Unit} (h : Admission sender cached forced t r)
    (he : e.isOwn = false) : t.MeetsIn .admission e ↔ r = .error e := by
  have hown (family : Family) : Fault.withDefault family ≠ e := by
    rintro rfl
    exact absurd he (by cases family <;> decide)
  cases h with
  | forced hforced => simp
  | roomFails hforced f => simp [Talk.MeetsIn, Call.part, Call.fault?]
  | full hforced => simp [Talk.MeetsIn, Call.part, Call.fault?, hown]
  | signerFails hforced f => simp [Talk.MeetsIn, Call.part, Call.fault?]
  | unsigned hforced => simp [Talk.MeetsIn, Call.part, Call.fault?, hown]
  | letIn hforced => simp [Talk.MeetsIn, Call.part, Call.fault?]

/-- The same of faults of any kind that is none of the library's. -/
theorem Admission.exists_meetsIn {r : Except Fault Unit} (h : Admission sender cached forced t r)
    (kind : Fault → Prop) (hkind : ∀ e, kind e → e.isOwn = false) :
    (∃ e, kind e ∧ t.MeetsIn .admission e) ↔ ∃ e, kind e ∧ r = .error e :=
  exists_congr fun e => and_congr_right fun he => h.meetsIn_iff (hkind e he)

/-- Who is let in has met with no fault but the library's own in the admission. -/
theorem Admission.not_meetsIn (h : Admission sender cached forced t (.ok ()))
    (he : e.isOwn = false) : ¬ t.MeetsIn .admission e := by
  simp [h.meetsIn_iff he]

namespace Fault

variable {cause : Fault} (he : e.isInterrupt = true)

include he

/-- If a fault is made with a text, and the fault is no order to stop, then an order to stop comes from
asking for the text. -/
theorem forming_askText_eq_iff {make : String → Fault} (hmake : ∀ text, (make text).isInterrupt = false) :
    forming cause.askText make = e ↔ cause.askText = .error e := by
  cases cause.askText with
  | error f => simp
  | ok text =>
    refine iff_of_false (fun h => ?_) (by simp)
    rw [forming_ok] at h
    rw [← h, hmake] at he
    exact absurd he (by simp)

theorem notRetried_eq_iff : Desk.notRetried cause = e ↔ cause.askText = .error e := by
  unfold Desk.notRetried
  cases hask : cause.askClash with
  | ok clash => exact forming_askText_eq_iff he fun _ => rfl
  | error f =>
    rcases cases_of_askClash_error hask with htext | ⟨⟨text, htext⟩, rfl⟩
    · simp [htext]
    · refine iff_of_false (fun h => ?_) (by simp [htext])
      rw [← h] at he
      exact absurd he (by simp)

/-- An order to stop comes from an order to stop, or from asking an ordinary fault for its text. -/
theorem rewrite_eq_iff {f : Fault → Fault} (hf : f cause = e ↔ cause.askText = .error e) :
    cause.rewrite f = e ↔ cause.BringsUp e := by
  unfold BringsUp
  cases hcause : cause.isInterrupt with
  | true => simp [rewrite_of_interrupt f hcause]
  | false =>
    have hne : cause ≠ e := by
      rintro rfl
      exact absurd he (by simp [hcause])
    simp [rewrite_of_fault f hcause, hf, hne]

/-- A refusal that gives a second chance brings up no order to stop. -/
theorem IsClash.not_bringsUp (hclash : cause.IsClash) : ¬ cause.BringsUp e := by
  rintro (rfl | ⟨-, htext⟩)
  · exact absurd he (by simp [hclash.1])
  · obtain ⟨text, htext'⟩ := exists_askText_of_askClash hclash.2
    exact absurd (htext.symm.trans htext') (by simp)

end Fault

/-- If there is no nonce after a nonce, the fault is that of the addition. -/
theorem Nonce.eq_of_next_error {v : Value} (h : Nonce.next v = .error e) :
    e = .badType (Nonce.noSuccessor v) := by
  unfold Nonce.next at h
  split at h
  · exact absurd h (by simp)
  · exact (Except.error.inj h).symm

/-- A submission that returns ends the settlement well, or with the fault of the addition. -/
theorem Ending.eq_of_sent_error {v tx : Value} (h : (Ending.sent v tx).result = .error e) :
    e = .badType (Nonce.noSuccessor v) := by
  rw [Ending.result_sent] at h
  cases hnext : Nonce.next v with
  | ok next =>
    rw [hnext] at h
    exact absurd h (by simp [Except.map])
  | error f =>
    rw [hnext] at h
    exact (Except.error.inj h).symm.trans (Nonce.eq_of_next_error hnext)

theorem Ending.result_sent_ne {v tx : Value} (he : e.isInterrupt = true) :
    (Ending.sent v tx).result ≠ .error e := by
  intro h
  rw [Ending.eq_of_sent_error h] at he
  exact absurd he (by simp [Fault.badType, Fault.foreign, Fault.isInterrupt])

theorem FirstNonce.not_meetsIn {part : Part} {v : Value}
    (h : FirstNonce given chain account cached t v) : ¬ t.MeetsIn part e := by
  cases h <;> simp [Talk.MeetsIn, Talk.calls, Call.fault?, Deed.call?, Talk.asksNonce]

theorem FirstNonce.not_bringsUp {part : Part} {v : Value}
    (h : FirstNonce given chain account cached t v) : ¬ t.BringsUp part e := by
  rintro ⟨cause, hmeets, -⟩
  exact h.not_meetsIn hmeets

@[simp] theorem Talk.bringsUp_asksNonce_ok {v : Value} :
    ¬ (Talk.asksNonce chain account (.ok v)).BringsUp .settlement e := by
  simp [Talk.BringsUp, Talk.MeetsIn, Call.fault?]

@[simp] theorem Talk.bringsUp_asksNonce_error {cause : Fault} :
    (Talk.asksNonce chain account (.error cause)).BringsUp .settlement e ↔ cause.BringsUp e := by
  simp [Talk.BringsUp, Talk.MeetsIn, Call.part, Call.fault?]

@[simp] theorem Talk.bringsUp_submits_ok {nonce tx : Value} :
    ¬ (Talk.submits nonce (.ok tx)).BringsUp .settlement e := by
  simp [Talk.BringsUp, Talk.MeetsIn, Call.fault?]

@[simp] theorem Talk.bringsUp_submits_error {nonce : Value} {cause : Fault} :
    (Talk.submits nonce (.error cause)).BringsUp .settlement e ↔ cause.BringsUp e := by
  simp [Talk.BringsUp, Talk.MeetsIn, Call.part, Call.fault?]

/-- A question for a nonce that comes to nothing ends with an order to stop exactly if one is brought
up. -/
theorem NoNonce.bringsUp_iff {f : Fault} (h : NoNonce given chain account t f)
    (he : e.isInterrupt = true) : t.BringsUp .settlement e ↔ f = e := by
  cases h with
  | unanswered cause =>
    rw [Talk.bringsUp_asksNonce_error, Fault.rewrite_eq_iff he]
    exact Fault.forming_askText_eq_iff he fun _ => rfl
  | unshown hgiven hline =>
    obtain rfl := Desk.eq_tooManyDigits_of_givenLine hline
    refine iff_of_false Talk.bringsUp_asksNonce_ok ?_
    rintro rfl
    exact absurd he (by simp)

theorem NoFirstNonce.bringsUp_iff {f : Fault} (h : NoFirstNonce given chain account cached t f)
    (he : e.isInterrupt = true) : t.BringsUp .settlement e ↔ f = e := by
  cases h with
  | unasked hnone => exact hnone.bringsUp_iff he
  | unshown n hline =>
    obtain rfl := Desk.eq_tooManyDigits_of_usedLine hline
    refine iff_of_false Talk.not_bringsUp_nil ?_
    rintro rfl
    exact absurd he (by simp)

/-- **A settlement ends with an order to stop exactly if one is brought up in it.** -/
theorem Sending.bringsUp_iff {ending : Ending} (h : Sending given chain account cached t ending)
    (he : e.isInterrupt = true) : t.BringsUp .settlement e ↔ ending.result = .error e := by
  cases h with
  | unstarted hnone => simp [hnone.bringsUp_iff he, Ending.result]
  | sent hfirst => simpa [hfirst.not_bringsUp] using Ending.result_sent_ne he
  | @stopped t v cause hfirst hclash =>
    have hrewrite : cause.rewrite Desk.notRetried = e ↔ cause.BringsUp e :=
      Fault.rewrite_eq_iff he (Fault.notRetried_eq_iff he)
    simp [hfirst.not_bringsUp, Ending.result, hrewrite]
  | unsynced hfirst hclash hnone =>
    simp [hfirst.not_bringsUp, hclash.not_bringsUp he, hnone.bringsUp_iff he, Ending.result]
  | @lost t v m refusal cause hfirst hclash hgiven =>
    have hrewrite : cause.rewrite Desk.notRecovered = e ↔ cause.BringsUp e :=
      Fault.rewrite_eq_iff he (Fault.forming_askText_eq_iff he fun _ => rfl)
    simp [hfirst.not_bringsUp, hclash.not_bringsUp he, Ending.result, hrewrite]
  | recovered hfirst hclash hgiven =>
    simpa [hfirst.not_bringsUp, hclash.not_bringsUp he] using Ending.result_sent_ne he

/-- A fault that a settlement makes itself. -/
def Fault.IsMade (e : Fault) : Prop :=
  e = tooManyDigits ∨ ∃ family ∈ [Family.nonceLookup, .send, .nonceRecovery], e.kind = .own family

namespace Fault

variable {cause : Fault}

theorem isMade_wrap {family : Family} (hfamily : family ∈ [Family.nonceLookup, .send, .nonceRecovery])
    (message : String) (cause : Fault) : (wrap family message cause).IsMade :=
  .inr ⟨family, hfamily, rfl⟩

/-- If a fault is made with a text, and the fault is another one, then that one comes from asking for
the text. -/
theorem askText_of_forming {make : String → Fault} (hmake : ∀ text, (make text).IsMade)
    (he : ¬ e.IsMade) (h : forming cause.askText make = e) : cause.askText = .error e := by
  cases htext : cause.askText with
  | error f =>
    rw [htext] at h
    exact congrArg _ h
  | ok text =>
    rw [htext] at h
    exact absurd (h ▸ hmake text) he

theorem bringsUp_of_rewrite {f : Fault → Fault} (hf : f cause = e → cause.askText = .error e)
    (h : cause.rewrite f = e) : cause.BringsUp e := by
  cases hcause : cause.isInterrupt with
  | true => exact .inl ((rewrite_of_interrupt f hcause).symm.trans h)
  | false => exact .inr ⟨hcause, hf ((rewrite_of_fault f hcause).symm.trans h)⟩

theorem askText_of_notRetried (he : ¬ e.IsMade) (h : Desk.notRetried cause = e) :
    cause.askText = .error e := by
  unfold Desk.notRetried at h
  cases hask : cause.askClash with
  | ok clash =>
    rw [hask] at h
    exact askText_of_forming (fun text => isMade_wrap (by simp) _ cause) he h
  | error f =>
    simp only [hask] at h
    subst h
    rcases cases_of_askClash_error hask with htext | ⟨-, rfl⟩
    · exact htext
    · exact absurd (.inl rfl) he

end Fault

theorem NoNonce.bringsUp (h : NoNonce given chain account t e) (he : ¬ e.IsMade) :
    t.BringsUp .settlement e := by
  cases h with
  | unanswered cause =>
    refine Talk.bringsUp_asksNonce_error.mpr (Fault.bringsUp_of_rewrite ?_ rfl)
    exact Fault.askText_of_forming (fun text => Fault.isMade_wrap (by simp) _ cause) he
  | unshown hgiven hline => exact absurd (.inl (Desk.eq_tooManyDigits_of_givenLine hline)) he

/-- **A fault with which a settlement ends is made by it or brought up in it.** -/
theorem Sending.bringsUp_of_failed (h : Sending given chain account cached t (.failed e))
    (he : ¬ e.IsMade) : t.BringsUp .settlement e := by
  generalize hending : Ending.failed e = ending at h
  cases h with
  | unstarted hnone =>
    obtain rfl := Ending.failed.inj hending
    cases hnone with
    | unasked hnone => exact hnone.bringsUp he
    | unshown n hline => exact absurd (.inl (Desk.eq_tooManyDigits_of_usedLine hline)) he
  | sent hfirst => exact absurd hending (by simp)
  | @stopped t v cause hfirst hclash =>
    refine Talk.bringsUp_append.mpr (.inr (Talk.bringsUp_submits_error.mpr ?_))
    exact Fault.bringsUp_of_rewrite (Fault.askText_of_notRetried he) (Ending.failed.inj hending).symm
  | unsynced hfirst hclash hnone =>
    obtain rfl := Ending.failed.inj hending
    exact Talk.bringsUp_append.mpr (.inr (hnone.bringsUp he))
  | @lost t v m refusal cause hfirst hclash hgiven =>
    refine Talk.bringsUp_append.mpr (.inr (Talk.bringsUp_submits_error.mpr ?_))
    refine Fault.bringsUp_of_rewrite ?_ (Ending.failed.inj hending).symm
    exact Fault.askText_of_forming (fun text => Fault.isMade_wrap (by simp) _ cause) he
  | recovered hfirst hclash hgiven => exact absurd hending (by simp)

end

/-! ## 2.  The rule of counting -/

/-- The gate has brought up a fault of its own while it was asked. -/
def Talk.QueryFails (t : Talk) : Prop :=
  ∃ e : Fault, e.isInterrupt = false ∧ e.isOwn = false ∧ t.MeetsIn .admission e

/-- An order to stop is met in the admission, or brought up in the settlement. -/
def Talk.IsStopped (t : Talk) : Prop :=
  ∃ e : Fault, e.isInterrupt = true ∧ (t.MeetsIn .admission e ∨ t.BringsUp .settlement e)

/-- How the outcomes are counted of a dispatch that ends with `r` after a conversation: under the
label, if there is one, and under no other.  `returned` says that the settlement has returned. -/
structure IsCounted (returned : Prop) (t : Talk) (r : Except Fault Value) (before after : Tally)
    (label? : Option String) : Prop where
  /-- There is one more for the label, and for no other. -/
  once (l : String) : after.count l = before.count l + if label? = some l then 1 else 0
  /-- What has returned is counted as sent, a query that has failed as such, and any other dispatch
  under the name of its fault. -/
  rule (l : String) : label? = some l ↔
    returned ∧ l = sentOutcome ∨ t.QueryFails ∧ l = queryFailedOutcome ∨
      (¬ returned ∧ ¬ t.QueryFails) ∧ ∃ e : Fault, r = .error e ∧ e.isInterrupt = false ∧ e.name = l
  /-- What has returned is no query that has failed. -/
  apart : ¬ (returned ∧ t.QueryFails)
  /-- There is no label if there was an order to stop, and only then. -/
  stopped : label? = none ↔ t.IsStopped

/-- An order to stop is none of the library's faults. -/
theorem Fault.isOwn_of_isInterrupt {e : Fault} (h : e.isInterrupt = true) : e.isOwn = false := by
  cases hown : e.isOwn with
  | false => rfl
  | true => simp [Fault.isInterrupt_eq_false_of_isOwn hown] at h

/-- The outcome of a dispatch that has sent nothing: what is made of its fault, unless that is an
order to stop. -/
def unsentOutcome (outcome : Fault → String) (e : Fault) : Option String :=
  if e.isInterrupt then none else some (outcome e)

theorem unsentOutcome_eq_some_iff {outcome : Fault → String} {e : Fault} {l : String} :
    unsentOutcome outcome e = some l ↔ e.isInterrupt = false ∧ outcome e = l := by
  unfold unsentOutcome
  cases e.isInterrupt <;> simp

theorem unsentOutcome_eq_none_iff {outcome : Fault → String} {e : Fault} :
    unsentOutcome outcome e = none ↔ e.isInterrupt = true := by
  unfold unsentOutcome
  cases e.isInterrupt <;> simp

/-- What ends with a fault is tallied under its outcome. -/
theorem Desk.count_tallied {α : Type} (outcome : Fault → String) (e : Fault) (d : Desk σ)
    (l : String) :
    (tallied outcome (.error e : Except Fault α) d).counters.dispatches.count l =
      d.counters.dispatches.count l + if unsentOutcome outcome e = some l then 1 else 0 := by
  unfold tallied unsentOutcome
  cases he : e.isInterrupt with
  | true => simp [he]
  | false =>
    simp only [he, Bool.false_eq_true, if_false, Counters.add, Tally.count_add, Option.some.injEq]
    simp only [eq_comm]

namespace Desk

variable (gate : Gate ν σ) (source : NonceSource ν σ) (sink : Option (ErrorSink ν σ)) (chain : Int)
  (request : Request) (send : SendCallback ν σ)

/-- The dispatch comes to a settlement, and it returns. -/
def SendReturns (d : Desk σ) : Prop :=
  ∃ sender d₁ tx, send? gate request d = some (sender, d₁) ∧
    (settle source chain sender.key send d₁).result = .ok tx

variable {gate source chain request send} {sender : Address} {d d₁ : Desk σ}

theorem not_sendReturns_of_none (h : send? gate request d = none) :
    ¬ SendReturns gate source chain request send d := by
  rintro ⟨sender, d₁, tx, hsend, -⟩
  rw [h] at hsend
  exact absurd hsend (by simp)

theorem sendReturns_iff (h : send? gate request d = some (sender, d₁)) :
    SendReturns gate source chain request send d ↔
      ∃ tx, (settle source chain sender.key send d₁).result = .ok tx := by
  constructor
  · rintro ⟨sender', d', tx, hsend, htx⟩
    obtain ⟨rfl, rfl⟩ : sender = sender' ∧ d₁ = d' := by simpa using h.symm.trans hsend
    exact ⟨tx, htx⟩
  · rintro ⟨tx, htx⟩
    exact ⟨sender, d₁, tx, h, htx⟩

variable {sink}

/-- A request that is declined is counted under the name of its fault. -/
theorem isCounted_declined {why : RequestError} (haccept : request.accept = .error why) :
    IsCounted (SendReturns gate source chain request send d) [] (.error why.fault)
      d.counters.dispatches
      (tallied Fault.name (.error why.fault : Except Fault Unit) d).counters.dispatches
      (unsentOutcome Fault.name why.fault) where
  once l := count_tallied Fault.name why.fault d l
  rule l := by
    simp [unsentOutcome_eq_some_iff, not_sendReturns_of_none (send?_of_declined haccept),
      Talk.QueryFails]
  apart := by simp [Talk.QueryFails]
  stopped := by simp [unsentOutcome_eq_none_iff, Talk.IsStopped]

/-- A request that is not let in is counted under what the admission makes of its fault. -/
theorem isCounted_refused {terms : Terms} {t : Talk} {e : Fault} {cached : Option Numeral}
    (haccept : request.accept = .ok (sender, terms))
    (hadmission : Admission sender cached request.isForced t (.error e))
    (hadmitting : Goes (admitting gate.heard request sender) d (.error e) t d₁) :
    IsCounted (SendReturns gate source chain request send d) t (.error e) d.counters.dispatches
      (tallied admissionOutcome (.error e : Except Fault Unit) d₁).counters.dispatches
      (unsentOutcome admissionOutcome e) := by
  have hunsent : ¬ SendReturns gate source chain request send d :=
    not_sendReturns_of_none (send?_of_refused haccept hadmitting)
  have hfails : t.QueryFails ↔ e.isInterrupt = false ∧ e.isOwn = false := by
    have hmeets :=
      hadmission.exists_meetsIn (fun e => e.isInterrupt = false ∧ e.isOwn = false) fun _ he => he.2
    simp only [and_assoc] at hmeets
    rw [Talk.QueryFails, hmeets]
    simp
  have hstopped : t.IsStopped ↔ e.isInterrupt = true := by
    have hmeets := hadmission.exists_meetsIn (fun e => e.isInterrupt = true)
      fun _ => Fault.isOwn_of_isInterrupt
    have hsettled (e' : Fault) : ¬ t.BringsUp .settlement e' :=
      Talk.not_bringsUp hadmission.part_eq (by decide)
    simp only [Talk.IsStopped, hsettled, or_false]
    rw [hmeets]
    simp
  exact
    { once := fun l => by rw [count_tallied, hadmitting.counters_admitting]
      rule := fun l => by
        rw [unsentOutcome_eq_some_iff, hfails, admissionOutcome]
        cases he : e.isInterrupt <;> cases hown : e.isOwn <;> simp [hunsent, he, eq_comm (a := l)]
      apart := fun h => hunsent h.1
      stopped := unsentOutcome_eq_none_iff.trans hstopped.symm }

/-- Who is let in has not met with a gate that fails. -/
theorem not_queryFails {t₁ t₂ : Talk} {cached : Option Numeral} {forced : Bool}
    (hadmission : Admission sender cached forced t₁ (.ok ()))
    (hafter : ∀ call ∈ t₂.calls, call.part ≠ .admission) : ¬ (t₁ ++ t₂).QueryFails := by
  rintro ⟨e, -, hown, hmeets⟩
  rcases Talk.meetsIn_append.mp hmeets with hmeets | ⟨call, hcall, hpart, -⟩
  · exact hadmission.not_meetsIn hown hmeets
  · exact hafter call hcall hpart

/-- Who is let in is stopped exactly if an order to stop is brought up in the settlement. -/
theorem isStopped_iff {t₁ t₂ t₃ : Talk} {cached cached' : Option Numeral} {forced : Bool}
    {given : Value → Prop} {account : Key} {ending : Ending}
    (hadmission : Admission sender cached forced t₁ (.ok ()))
    (hsending : Sending given chain account cached' t₂ ending)
    (hafter : ∀ call ∈ t₃.calls, call.part = .registration) :
    (t₁ ++ t₂ ++ t₃).IsStopped ↔ ∃ e : Fault, e.isInterrupt = true ∧ ending.result = .error e := by
  refine exists_congr fun e => and_congr_right fun he => ?_
  simp [hadmission.not_meetsIn (Fault.isOwn_of_isInterrupt he), Talk.not_meetsIn hsending.part_eq,
    Talk.not_meetsIn hafter, Talk.not_bringsUp hadmission.part_eq, Talk.not_bringsUp hafter,
    hsending.bringsUp_iff he]

/-- A request whose transaction is not sent is counted under the name of its fault. -/
theorem isCounted_failed {terms : Terms} {t₁ t₂ : Talk} {ending : Ending} {e : Fault}
    {cached cached' : Option Numeral} {given : Value → Prop} {d₂ : Desk σ}
    (haccept : request.accept = .ok (sender, terms))
    (hadmission : Admission sender cached request.isForced t₁ (.ok ()))
    (hadmitting : Goes (admitting gate.heard request sender) d (.ok ()) t₁ d₁)
    (hsending : Sending given chain sender.key cached' t₂ ending) (hending : ending.result = .error e)
    (hsettle : Goes (settle source.heard chain sender.key send.heard) d₁ (.error e) t₂ d₂) :
    IsCounted (SendReturns gate source chain request send d) (t₁ ++ t₂) (.error e)
      d.counters.dispatches
      (tallied Fault.name (.error e : Except Fault Value) d₂).counters.dispatches
      (unsentOutcome Fault.name e) := by
  have hunsent : ¬ SendReturns gate source chain request send d := by
    rw [sendReturns_iff (send?_of_admitted haccept hadmitting), hsettle.result_settle]
    simp
  have hfails : ¬ (t₁ ++ t₂).QueryFails :=
    not_queryFails hadmission fun call hcall => by simp [hsending.part_eq call hcall]
  have hstopped : (t₁ ++ t₂).IsStopped ↔ e.isInterrupt = true := by
    have hiff : (t₁ ++ t₂ ++ []).IsStopped ↔ _ :=
      isStopped_iff hadmission hsending (by simp [Talk.calls])
    rw [List.append_nil, hending] at hiff
    simpa using hiff
  exact
    { once := fun l => by
        rw [count_tallied, hsettle.dispatches_settle, hadmitting.counters_admitting]
      rule := fun l => by simp [unsentOutcome_eq_some_iff, hunsent, hfails]
      apart := fun h => hunsent h.1
      stopped := unsentOutcome_eq_none_iff.trans hstopped.symm }

/-- A request whose transaction is sent is counted as sent, whatever comes after. -/
theorem isCounted_sent {terms : Terms} {t₁ t₂ t₃ : Talk} {ending : Ending} {tx : Value}
    {r : Except Fault Value} {cached cached' : Option Numeral} {given : Value → Prop}
    {d₂ d₃ : Desk σ} (haccept : request.accept = .ok (sender, terms))
    (hadmission : Admission sender cached request.isForced t₁ (.ok ()))
    (hadmitting : Goes (admitting gate.heard request sender) d (.ok ()) t₁ d₁)
    (hsending : Sending given chain sender.key cached' t₂ ending) (hending : ending.result = .ok tx)
    (hsettle : Goes (settle source.heard chain sender.key send.heard) d₁ (.ok tx) t₂ d₂)
    (hafter : ∀ call ∈ t₃.calls, call.part = .registration)
    (hcounters : d₃.counters.dispatches = (afterSent d₂).counters.dispatches) :
    IsCounted (SendReturns gate source chain request send d) (t₁ ++ t₂ ++ t₃) r
      d.counters.dispatches d₃.counters.dispatches (some sentOutcome) := by
  have hreturned : SendReturns gate source chain request send d := by
    rw [sendReturns_iff (send?_of_admitted haccept hadmitting), hsettle.result_settle]
    simp
  have hfails : ¬ (t₁ ++ t₂ ++ t₃).QueryFails := by
    rw [List.append_assoc]
    refine not_queryFails hadmission fun call hcall => ?_
    rw [Talk.calls_append, List.mem_append] at hcall
    rcases hcall with hcall | hcall
    · simp [hsending.part_eq call hcall]
    · simp [hafter call hcall]
  exact
    { once := fun l => by
        rw [hcounters]
        show (d₂.counters.dispatches.add sentOutcome).count l = _
        rw [hsettle.dispatches_settle, hadmitting.counters_admitting]
        simp [eq_comm]
      rule := fun l => by
        rw [Option.some.injEq]
        exact ⟨fun hl => .inl ⟨hreturned, hl.symm⟩, fun h => by simp_all⟩
      apart := fun h => hfails h.2
      stopped := by
        rw [isStopped_iff hadmission hsending hafter, hending]
        simp }

/-- **Every dispatch is counted by the rule.** -/
theorem Phases.isCounted {t : Talk} {r : Except Fault Value} {d' : Desk σ}
    (h : Phases gate source sink chain request send d t r d') :
    ∃ label?, IsCounted (SendReturns gate source chain request send d) t r
      d.counters.dispatches d'.counters.dispatches label? := by
  cases h with
  | declined haccept => exact ⟨_, isCounted_declined haccept⟩
  | refused haccept hadmission hadmitting =>
    exact ⟨_, isCounted_refused haccept hadmission hadmitting⟩
  | failed haccept hadmission hadmitting hsending hending hsettle =>
    exact ⟨_, isCounted_failed haccept hadmission hadmitting hsending hending hsettle⟩
  | @unlogged sender terms t₁ t₂ ending tx e d₁ d₂ haccept hadmission hadmitting hsending hending
      hsettle hline =>
    rw [← List.append_nil (t₁ ++ t₂)]
    exact ⟨_, isCounted_sent haccept hadmission hadmitting hsending hending hsettle
      (by simp [Talk.calls]) rfl⟩
  | sent haccept hadmission hadmitting hsending hending hsettle hline hregistration hregister =>
    exact ⟨_, isCounted_sent haccept hadmission hadmitting hsending hending hsettle
      hregistration.part_eq (hregister.counters_register Counters.dispatches fun _ => rfl)⟩

end Desk

end Outbox
