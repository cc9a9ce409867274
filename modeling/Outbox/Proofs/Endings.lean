import Mathlib.Logic.ExistsUnique
import Outbox.Proofs.FirstNonces

/-!
# Dispatches that come to nothing

A caller decides by the fault of a dispatch what to do next: to try again later, to repair the
request, to give up.  So a fault has to say what happened, and only that.  This file compares the
fault with what a listener has heard.

## Reasons

A `Reason` is one of the nine ways in which a dispatch comes to nothing, and
`Reason.Explains` says what has been heard in each of them and which fault is raised.  The main
statement is `dispatch_explained`: **if no submission returns, exactly one of the reasons explains
the fault.**  That there is one follows from the protocol.  That there is no second one follows
from the last call that is heard and the number of submissions, which decide the reason
(`Talk.reason`), but for the ninth.

## Texts that cannot be formed

The faults of the library carry a text, and so do the lines of the log.  Where such a text cannot be
formed, because a fault of the network or the callback has none or because a number has too many
digits, the dispatch ends with the fault of forming it (`Unspoken`).  This is the ninth reason, and
`Mute.not_explained` shows that the others do not do without it.
-/

namespace Outbox

variable {ν σ : Type}

/-! ## 1.  The calls of a conversation -/

/-- The fault with which a call was answered, if it was. -/
def Call.fault? : Call → Option Fault
  | .room _ (.error e) => some e
  | .signer _ (.error e) => some e
  | .nonce _ _ (.error e) => some e
  | .send _ (.error e) => some e
  | .register _ _ _ (.error e) => some e
  | .tell _ (.error e) => some e
  | _ => none

/-- The parts of a dispatch in which a collaborator is called. -/
inductive Part where
  | admission
  | settlement
  | registration
  deriving DecidableEq

/-- The part of a dispatch to which a call belongs. -/
def Call.part : Call → Part
  | .room .. => .admission
  | .signer .. => .admission
  | .nonce .. => .settlement
  | .send .. => .settlement
  | .register .. => .registration
  | .tell .. => .registration

/-- The call that is heard in a deed, if one is. -/
def Deed.call? : Deed Call → Option Call
  | .passes call => some call
  | _ => none

namespace Talk

/-- The calls of a conversation. -/
def calls (t : Talk) : List Call := t.filterMap Deed.call?

/-- The nonces with which a transaction was submitted, and the answers. -/
def tries (t : Talk) : List (Value × Except Fault Value) :=
  t.calls.filterMap fun
    | .send nonce answer => some (nonce, answer)
    | _ => none

/-- The transactions that the gate was told of, and the answers. -/
def registrations (t : Talk) : List (Value × Except Fault Unit) :=
  t.calls.filterMap fun
    | .register tx _ _ answer => some (tx, answer)
    | _ => none

/-- The faults that the sink was told of, and the answers. -/
def tellings (t : Talk) : List (Fault × Except Fault Unit) :=
  t.calls.filterMap fun
    | .tell fault answer => some (fault, answer)
    | _ => none

@[simp] theorem calls_append (s t : Talk) : calls (s ++ t) = calls s ++ calls t :=
  List.filterMap_append

@[simp] theorem tries_append (s t : Talk) : tries (s ++ t) = tries s ++ tries t := by
  simp [tries]

theorem mem_tries_iff {t : Talk} {nonce : Value} {answer : Except Fault Value} :
    (nonce, answer) ∈ t.tries ↔ Call.send nonce answer ∈ t.calls := by
  constructor
  · intro h
    obtain ⟨call, hcall, heq⟩ := List.mem_filterMap.mp h
    cases call with
    | send n a =>
      obtain ⟨rfl, rfl⟩ : n = nonce ∧ a = answer := by simpa using heq
      exact hcall
    | _ => simp at heq
  · intro h
    exact List.mem_filterMap.mpr ⟨_, h, rfl⟩

@[simp] theorem registrations_append (s t : Talk) :
    registrations (s ++ t) = registrations s ++ registrations t := by
  simp [registrations]

@[simp] theorem tellings_append (s t : Talk) : tellings (s ++ t) = tellings s ++ tellings t := by
  simp [tellings]

@[simp] theorem calls_asksNonce (chain : Int) (account : Key) (answer : Except Fault Value) :
    calls (asksNonce chain account answer) = [.nonce chain account.value answer] := rfl

@[simp] theorem calls_submits (nonce : Value) (answer : Except Fault Value) :
    calls (submits nonce answer) = [.send nonce answer] := rfl

@[simp] theorem calls_asksRoom (sender : Address) (cached : Option Numeral)
    (answer : Except Fault Bool) :
    calls (asksRoom sender cached answer) = [.room sender answer] := rfl

@[simp] theorem calls_asksSigner (sender : Address) (cached : Option Numeral)
    (answer : Except Fault Bool) :
    calls (asksSigner sender cached answer) = [.signer sender answer] := rfl

@[simp] theorem calls_registers (tx : Value) (terms : Terms) (sender : Address)
    (cached : Option Numeral) (answer : Except Fault Unit) :
    calls (registers tx terms sender cached answer) = [.register tx terms sender answer] := rfl

@[simp] theorem calls_reports (e : Fault) (answer : Except Fault Unit) :
    calls (reports e answer) = [.tell e answer] := rfl

@[simp] theorem tries_asksNonce (chain : Int) (account : Key) (answer : Except Fault Value) :
    tries (asksNonce chain account answer) = [] := rfl

@[simp] theorem tries_submits (nonce : Value) (answer : Except Fault Value) :
    tries (submits nonce answer) = [(nonce, answer)] := rfl

/-- Submissions are a matter of the settlement. -/
theorem tries_eq_nil {t : Talk} (h : ∀ call ∈ t.calls, call.part ≠ .settlement) : t.tries = [] := by
  refine List.filterMap_eq_nil_iff.mpr fun call hcall => ?_
  have hpart := h call hcall
  cases call <;> first | rfl | exact absurd rfl hpart

/-- Registrations are a matter of their own. -/
theorem registrations_eq_nil {t : Talk} (h : ∀ call ∈ t.calls, call.part ≠ .registration) :
    t.registrations = [] := by
  refine List.filterMap_eq_nil_iff.mpr fun call hcall => ?_
  have hpart := h call hcall
  cases call <;> first | rfl | exact absurd rfl hpart

/-- What the sink is told is a matter of the registration. -/
theorem tellings_eq_nil {t : Talk} (h : ∀ call ∈ t.calls, call.part ≠ .registration) :
    t.tellings = [] := by
  refine List.filterMap_eq_nil_iff.mpr fun call hcall => ?_
  have hpart := h call hcall
  cases call <;> first | rfl | exact absurd rfl hpart

/-- Where nothing has been registered before, it is the rest that counts. -/
theorem registrations_after {s : Talk} (h : ∀ call ∈ s.calls, call.part ≠ .registration) (t : Talk) :
    (s ++ t).registrations = t.registrations := by
  rw [registrations_append, registrations_eq_nil h, List.nil_append]

theorem tellings_after {s : Talk} (h : ∀ call ∈ s.calls, call.part ≠ .registration) (t : Talk) :
    (s ++ t).tellings = t.tellings := by
  rw [tellings_append, tellings_eq_nil h, List.nil_append]

end Talk

/-! ## 2.  The calls of each part -/

section

variable {chain : Int} {account : Key} {cached cached' : Option Numeral} {given : Value → Prop}
  {sender : Address} {forced attached : Bool} {terms : Terms} {t : Talk} {nonce tx : Value}

theorem Admission.part_eq {r : Except Fault Unit} (h : Admission sender cached forced t r) :
    ∀ call ∈ t.calls, call.part = .admission := by
  cases h with
  | forced hforced => simp [Talk.calls]
  | roomFails hforced e => simp [Call.part]
  | full hforced => simp [Call.part]
  | signerFails hforced e => simp [Call.part]
  | unsigned hforced => simp [Call.part]
  | letIn hforced => simp [Call.part]

theorem FirstNonce.part_eq {v : Value} (h : FirstNonce given chain account cached t v) :
    ∀ call ∈ t.calls, call.part = .settlement := by
  cases h with
  | cached n hline => simp [Talk.calls]
  | answered hgiven => simp [Call.part]

theorem NoNonce.part_eq {e : Fault} (h : NoNonce given chain account t e) :
    ∀ call ∈ t.calls, call.part = .settlement := by
  cases h with
  | unanswered e => simp [Call.part]
  | unshown hgiven hline => simp [Call.part]

theorem NoFirstNonce.part_eq {e : Fault} (h : NoFirstNonce given chain account cached t e) :
    ∀ call ∈ t.calls, call.part = .settlement := by
  cases h with
  | unshown n hline => simp [Talk.calls]
  | unasked hnone => exact hnone.part_eq

theorem Sending.part_eq {ending : Ending} (h : Sending given chain account cached t ending) :
    ∀ call ∈ t.calls, call.part = .settlement := by
  cases h with
  | unstarted hnone => exact hnone.part_eq
  | sent hfirst => simpa [or_imp, forall_and, Call.part] using hfirst.part_eq
  | stopped hfirst hclash => simpa [or_imp, forall_and, Call.part] using hfirst.part_eq
  | unsynced hfirst hclash hnone =>
    simpa [or_imp, forall_and, Call.part] using ⟨hfirst.part_eq, hnone.part_eq⟩
  | lost hfirst hclash hgiven => simpa [or_imp, forall_and, Call.part] using hfirst.part_eq
  | recovered hfirst hclash hgiven => simpa [or_imp, forall_and, Call.part] using hfirst.part_eq

theorem Registration.part_eq {r : Except Fault Unit}
    (h : Registration attached tx terms sender cached t r) :
    ∀ call ∈ t.calls, call.part = .registration := by
  cases h with
  | registered => simp [Call.part]
  | interrupted he => simp [Call.part]
  | unspoken he hreport => simp [Call.part]
  | unheard he hreport hsink => simp [Call.part]
  | reported he hreport hsink answer => simp [Call.part]

/-- Neither the admission nor the settlement is a registration. -/
theorem Admission.before_registration {s : Talk} {r : Except Fault Unit} {ending : Ending}
    (hadmission : Admission sender cached forced s r)
    (hsending : Sending given chain account cached' t ending) :
    ∀ call ∈ (s ++ t).calls, call.part ≠ .registration := by
  intro call hcall
  rw [Talk.calls_append, List.mem_append] at hcall
  rcases hcall with hcall | hcall
  · simp [hadmission.part_eq call hcall]
  · simp [hsending.part_eq call hcall]

/-- No submission is made before the first nonce is chosen. -/
theorem FirstNonce.send_notMem {v : Value} {answer : Except Fault Value}
    (h : FirstNonce given chain account cached t v) : Call.send nonce answer ∉ t.calls := by
  cases h with
  | cached n hline => simp [Talk.calls]
  | answered hgiven => simp

theorem NoNonce.send_notMem {e : Fault} {answer : Except Fault Value}
    (h : NoNonce given chain account t e) : Call.send nonce answer ∉ t.calls := by
  cases h with
  | unanswered e => simp
  | unshown hgiven hline => simp

theorem NoFirstNonce.send_notMem {e : Fault} {answer : Except Fault Value}
    (h : NoFirstNonce given chain account cached t e) : Call.send nonce answer ∉ t.calls := by
  cases h with
  | unshown n hline => simp [Talk.calls]
  | unasked hnone => exact hnone.send_notMem

theorem FirstNonce.tries_eq {v : Value} (h : FirstNonce given chain account cached t v) :
    t.tries = [] := by
  cases h <;> rfl

theorem NoNonce.tries_eq {e : Fault} (h : NoNonce given chain account t e) : t.tries = [] := by
  cases h <;> rfl

theorem NoFirstNonce.tries_eq {e : Fault} (h : NoFirstNonce given chain account cached t e) :
    t.tries = [] := by
  cases h with
  | unshown n hline => rfl
  | unasked hnone => exact hnone.tries_eq

/-- A submission of a settlement has returned exactly if the settlement ends with it. -/
theorem Sending.mem_calls_iff {ending : Ending}
    (h : Sending given chain account cached t ending) :
    Call.send nonce (.ok tx) ∈ t.calls ↔ ending = .sent nonce tx := by
  cases h with
  | unstarted hnone => simp [hnone.send_notMem]
  | sent hfirst => simp [hfirst.send_notMem, eq_comm]
  | stopped hfirst hclash => simp [hfirst.send_notMem]
  | unsynced hfirst hclash hnone => simp [hfirst.send_notMem, hnone.send_notMem]
  | lost hfirst hclash hgiven => simp [hfirst.send_notMem]
  | recovered hfirst hclash hgiven => simp [hfirst.send_notMem, eq_comm]

end

/-- A fault of the library with the given cause. -/
def Fault.Wraps (family : Family) (cause e : Fault) : Prop :=
  e.kind = .own family ∧ e.cause = some cause

theorem Fault.wraps_wrap (family : Family) (message : String) (cause : Fault) :
    Fault.Wraps family cause (.wrap family message cause) :=
  ⟨rfl, rfl⟩

/-! ## 3.  Reasons -/

/-- What is heard of a dispatch that comes to nothing because a text cannot be formed, and the fault
of forming it. -/
inductive Unspoken (request : Request) (chain : Int) (book : NonceBook) (t : Talk) (e : Fault) : Prop
  /-- The complaint about the request shows a value that cannot be written. -/
  | complaint {why : RequestError} (haccept : request.accept = .error why)
      (hmessage : why.message = .error e) (hquiet : t = [])
  /-- The nonce of the book cannot be written. -/
  | used {sender : Address} {terms : Terms} {n : Numeral}
      (haccept : request.accept = .ok (sender, terms)) (hcached : book.get? sender.key = some n)
      (hline : Desk.usedLine sender.key (.ofNumeral n) = .error e)
      (hlast : t.calls = [] ∨ t.calls = [.room sender (.ok true), .signer sender (.ok true)])
  /-- The answer of the network, or the number of the chain, cannot be written. -/
  | given {sender : Address} {terms : Terms} {v : Value}
      (haccept : request.accept = .ok (sender, terms))
      (hline : Desk.givenLine sender.key chain v = .error e)
      (hlast : t.calls.getLast? = some (.nonce chain sender.key.value (.ok v)))
  /-- The fault of the network has no text. -/
  | unanswered {account : Value} {cause : Fault} (hordinary : cause.isInterrupt = false)
      (htext : cause.askText = .error e)
      (hlast : t.calls.getLast? = some (.nonce chain account (.error cause)))
  /-- The fault of the first submission cannot be asked whether the nonce was the reason. -/
  | refused {nonce : Value} {cause : Fault} (hordinary : cause.isInterrupt = false)
      (hask : cause.askClash = .error e) (htries : t.tries = [(nonce, .error cause)])
      (hlast : t.calls.getLast? = some (.send nonce (.error cause)))
  /-- The fault of the second submission has no text. -/
  | refusedAgain {refused nonce : Value} {refusal cause : Fault} (hclash : refusal.IsClash)
      (hordinary : cause.isInterrupt = false) (htext : cause.askText = .error e)
      (htries : t.tries = [(refused, .error refusal), (nonce, .error cause)])
      (hlast : t.calls.getLast? = some (.send nonce (.error cause)))

/-- Why a dispatch came to nothing. -/
inductive Reason where
  /-- The request was not accepted. -/
  | declined
  /-- The gate failed to answer. -/
  | gateFailed
  /-- The gate had no room. -/
  | full
  /-- The gate had no signer. -/
  | unsigned
  /-- The network failed to give a nonce. -/
  | noNonce
  /-- The first submission failed, and the nonce was not the reason. -/
  | notSent
  /-- The second submission failed, for any reason. -/
  | notRecovered
  /-- There was an order to stop. -/
  | stopped
  /-- A text could not be formed. -/
  | unspoken

/-- What is heard of a dispatch that comes to nothing for a reason, and the fault it ends with. -/
def Reason.Explains (request : Request) (chain : Int) (book : NonceBook) (t : Talk) (e : Fault) :
    Reason → Prop
  | .declined =>
    t = [] ∧ ∃ why text, request.accept = .error why ∧ why.message = .ok text ∧
      e = .own .invalidOptions text
  | .gateFailed =>
    e.isInterrupt = false ∧ ∃ sender, t.calls = [.room sender (.error e)] ∨
      t.calls = [.room sender (.ok true), .signer sender (.error e)]
  | .full => e = .withDefault .queueFull ∧ ∃ sender, t.calls = [.room sender (.ok false)]
  | .unsigned =>
    e = .withDefault .noSigners ∧
      ∃ sender, t.calls = [.room sender (.ok true), .signer sender (.ok false)]
  | .noNonce =>
    ∃ account cause text, t.calls.getLast? = some (.nonce chain account (.error cause)) ∧
      cause.isInterrupt = false ∧ cause.askText = .ok text ∧ Fault.Wraps .nonceLookup cause e
  | .notSent =>
    ∃ nonce cause, t.tries = [(nonce, .error cause)] ∧
      t.calls.getLast? = some (.send nonce (.error cause)) ∧ cause.isInterrupt = false ∧
      cause.askClash = .ok false ∧ Fault.Wraps .send cause e
  | .notRecovered =>
    ∃ refused refusal nonce cause text,
      t.tries = [(refused, .error refusal), (nonce, .error cause)] ∧
      t.calls.getLast? = some (.send nonce (.error cause)) ∧ refusal.IsClash ∧
      cause.isInterrupt = false ∧ cause.askText = .ok text ∧ Fault.Wraps .nonceRecovery cause e
  | .stopped =>
    e.isInterrupt = true ∧ ∃ call, t.calls.getLast? = some call ∧ call.fault? = some e
  | .unspoken => Unspoken request chain book t e

/-! ## 4.  There is no second reason -/

/-- The reason that a last call gives after a number of submissions. -/
def Call.reason (tries : Nat) (call : Call) : Reason :=
  if call.fault?.any Fault.isInterrupt then .stopped
  else
    match call with
    | .room _ (.ok _) => .full
    | .room _ (.error _) => .gateFailed
    | .signer _ (.ok _) => .unsigned
    | .signer _ (.error _) => .gateFailed
    | .nonce .. => .noNonce
    | _ => if tries = 1 then .notSent else .notRecovered

/-- The reason that a conversation gives, if no text was in the way. -/
def Talk.reason (t : Talk) : Reason :=
  match t.calls.getLast? with
  | none => .declined
  | some call => call.reason t.tries.length

section

variable {request : Request} {chain : Int} {book : NonceBook} {t : Talk} {e : Fault}

/-- A reason that explains a fault is the one that the conversation gives, or a text could not be
formed. -/
theorem Reason.Explains.eq_reason {reason : Reason} (h : reason.Explains request chain book t e)
    (hspoken : reason ≠ .unspoken) : reason = t.reason := by
  unfold Talk.reason
  cases reason with
  | declined =>
    obtain ⟨rfl, -⟩ := h
    rfl
  | gateFailed =>
    obtain ⟨he, sender, hcalls | hcalls⟩ := h <;>
      simp [hcalls, Call.reason, Call.fault?, he]
  | full =>
    obtain ⟨-, sender, hcalls⟩ := h
    simp [hcalls, Call.reason, Call.fault?]
  | unsigned =>
    obtain ⟨-, sender, hcalls⟩ := h
    simp [hcalls, Call.reason, Call.fault?]
  | noNonce =>
    obtain ⟨account, cause, text, hlast, he, -⟩ := h
    simp [hlast, Call.reason, Call.fault?, he]
  | notSent =>
    obtain ⟨nonce, cause, htries, hlast, he, -⟩ := h
    simp [hlast, htries, Call.reason, Call.fault?, he]
  | notRecovered =>
    obtain ⟨refused, refusal, nonce, cause, text, htries, hlast, -, he, -⟩ := h
    simp [hlast, htries, Call.reason, Call.fault?, he]
  | stopped =>
    obtain ⟨he, call, hlast, hfault⟩ := h
    simp [hlast, Call.reason, hfault, he]
  | unspoken => exact absurd rfl hspoken

/-- Where a text could not be formed, no other reason explains the fault: the conversation gives one,
and that one would have needed the text. -/
theorem Unspoken.eq_unspoken (h : Unspoken request chain book t e) {reason : Reason}
    (hreason : reason.Explains request chain book t e) : reason = .unspoken := by
  refine Classical.byContradiction fun hspoken => ?_
  have hgiven := hreason.eq_reason hspoken
  unfold Talk.reason at hgiven
  cases h with
  | complaint haccept hmessage hquiet =>
    subst hquiet
    subst hgiven
    obtain ⟨-, why, text, haccept', hmessage', -⟩ := hreason
    obtain rfl := Except.error.inj (haccept.symm.trans haccept')
    exact absurd (hmessage.symm.trans hmessage') (by simp)
  | used haccept hcached hline hlast =>
    rcases hlast with hcalls | hcalls
    · simp only [hcalls, List.getLast?_nil] at hgiven
      subst hgiven
      obtain ⟨-, why, text, haccept', -⟩ := hreason
      exact absurd (haccept.symm.trans haccept') (by simp)
    · simp [hcalls, Call.reason, Call.fault?] at hgiven
      subst hgiven
      obtain ⟨-, sender, hcalls'⟩ := hreason
      exact absurd (hcalls.symm.trans hcalls') (by simp)
  | given haccept hline hlast =>
    obtain rfl : reason = .noNonce := by
      simpa [hlast, Call.reason, Call.fault?] using hgiven
    obtain ⟨account, cause, text, hlast', -⟩ := hreason
    exact absurd (hlast.symm.trans hlast') (by simp)
  | unanswered hordinary htext hlast =>
    obtain rfl : reason = .noNonce := by
      simpa [hlast, Call.reason, Call.fault?, hordinary] using hgiven
    obtain ⟨account, cause, text, hlast', -, htext', -⟩ := hreason
    obtain ⟨-, rfl⟩ := by simpa using hlast.symm.trans hlast'
    exact absurd (htext.symm.trans htext') (by simp)
  | refused hordinary hask htries hlast =>
    obtain rfl : reason = .notSent := by
      simpa [hlast, htries, Call.reason, Call.fault?, hordinary] using hgiven
    obtain ⟨nonce, cause, -, hlast', -, hask', -⟩ := hreason
    obtain ⟨-, rfl⟩ := by simpa using hlast.symm.trans hlast'
    exact absurd (hask.symm.trans hask') (by simp)
  | refusedAgain hclash hordinary htext htries hlast =>
    obtain rfl : reason = .notRecovered := by
      simpa [hlast, htries, Call.reason, Call.fault?, hordinary] using hgiven
    obtain ⟨refused, refusal, nonce, cause, text, -, hlast', -, -, htext', -⟩ := hreason
    obtain ⟨-, rfl⟩ := by simpa using hlast.symm.trans hlast'
    exact absurd (htext.symm.trans htext') (by simp)

/-- Two reasons that explain a fault by the same conversation are the same. -/
theorem Reason.Explains.unique {reason other : Reason} (h : reason.Explains request chain book t e)
    (hother : other.Explains request chain book t e) : other = reason := by
  by_cases hreason : reason = .unspoken
  · subst hreason
    exact Unspoken.eq_unspoken h hother
  · by_cases hother' : other = .unspoken
    · subst hother'
      exact (Unspoken.eq_unspoken hother h).symm
    · exact (hother.eq_reason hother').trans (h.eq_reason hreason).symm

end

/-! ## 5.  There is a reason -/

section

variable {request : Request} {chain : Int} {book : NonceBook} {account : Key}
  {cached : Option Numeral} {given : Value → Prop} {sender : Address} {terms : Terms}
  {forced : Bool} {s t : Talk} {e : Fault}

/-- A request that is not accepted is a reason. -/
theorem Reason.explained_of_declined {why : RequestError} (haccept : request.accept = .error why) :
    ∃ reason : Reason, reason.Explains request chain book [] why.fault := by
  obtain ⟨text, hmessage, hfault⟩ | ⟨hmessage, hfault⟩ := why.fault_cases
  · exact ⟨.declined, rfl, why, text, haccept, hmessage, hfault⟩
  · rw [hfault]
    exact ⟨.unspoken, .complaint haccept hmessage rfl⟩

/-- A sender who is not let in is not for one of three reasons, or there was an order to stop. -/
theorem Admission.explained (h : Admission sender cached forced t (.error e)) :
    ∃ reason : Reason, reason.Explains request chain book t e := by
  cases h with
  | roomFails hforced =>
    cases he : e.isInterrupt with
    | true => exact ⟨.stopped, he, _, rfl, rfl⟩
    | false => exact ⟨.gateFailed, he, sender, .inl rfl⟩
  | full hforced => exact ⟨.full, rfl, sender, rfl⟩
  | signerFails hforced =>
    cases he : e.isInterrupt with
    | true => exact ⟨.stopped, he, _, rfl, rfl⟩
    | false => exact ⟨.gateFailed, he, sender, .inr rfl⟩
  | unsigned hforced => exact ⟨.unsigned, rfl, sender, rfl⟩

/-- The calls of an admission that lets the sender in. -/
theorem Admission.calls_of_ok (h : Admission sender cached forced t (.ok ())) :
    t.calls = [] ∨ t.calls = [.room sender (.ok true), .signer sender (.ok true)] := by
  cases h with
  | forced hforced => exact .inl rfl
  | letIn hforced => exact .inr rfl

/-- A last call that was answered with a fault: an order to stop is passed on, and any other fault
is explained by what the fault is rewritten to. -/
theorem Reason.explained_of_rewrite {cause : Fault} {f : Fault → Fault} {call : Call}
    (hlast : t.calls.getLast? = some call) (hfault : call.fault? = some cause)
    (hordinary : cause.isInterrupt = false →
      ∃ reason : Reason, reason.Explains request chain book t (f cause)) :
    ∃ reason : Reason, reason.Explains request chain book t (cause.rewrite f) := by
  cases he : cause.isInterrupt with
  | true =>
    rw [Fault.rewrite_of_interrupt f he]
    exact ⟨.stopped, he, call, hlast, hfault⟩
  | false =>
    rw [Fault.rewrite_of_fault f he]
    exact hordinary he

/-- A question for a nonce that comes to nothing is a reason. -/
theorem NoNonce.explained (h : NoNonce given chain sender.key t e)
    (haccept : request.accept = .ok (sender, terms)) (s : Talk) :
    ∃ reason : Reason, reason.Explains request chain book (s ++ t) e := by
  cases h with
  | unshown hgiven hline => exact ⟨.unspoken, .given haccept hline (by simp)⟩
  | unanswered cause =>
    have hlast : (s ++ Talk.asksNonce chain sender.key (.error cause)).calls.getLast? =
        some (.nonce chain sender.key.value (.error cause)) := by simp
    refine Reason.explained_of_rewrite hlast rfl fun he => ?_
    unfold Desk.notLookedUp
    cases htext : cause.askText with
    | error f => exact ⟨.unspoken, .unanswered he htext hlast⟩
    | ok text =>
      exact ⟨.noNonce, sender.key.value, cause, text, hlast, he, htext, Fault.wraps_wrap _ _ _⟩

/-- The fault of a first submission whose nonce was not the reason is a reason. -/
theorem Reason.explained_of_notRetried {nonce : Value} {cause : Fault} (hclash : ¬ cause.IsClash)
    (htries : t.tries = [(nonce, .error cause)])
    (hlast : t.calls.getLast? = some (.send nonce (.error cause))) :
    ∃ reason : Reason, reason.Explains request chain book t (cause.rewrite Desk.notRetried) := by
  refine explained_of_rewrite hlast rfl fun he => ?_
  unfold Desk.notRetried
  cases hask : cause.askClash with
  | error f => exact ⟨.unspoken, .refused he hask htries hlast⟩
  | ok clash =>
    obtain rfl : clash = false := Bool.eq_false_iff.mpr fun htrue => hclash ⟨he, htrue ▸ hask⟩
    obtain ⟨text, htext⟩ := Fault.exists_askText_of_askClash hask
    have hwraps : Fault.Wraps .send cause (Desk.notSent cause) := by
      rw [Desk.notSent, htext]
      exact Fault.wraps_wrap _ _ _
    exact ⟨.notSent, nonce, cause, htries, hlast, he, hask, hwraps⟩

/-- The fault of a second submission is a reason. -/
theorem Reason.explained_of_notRecovered {refused nonce : Value} {refusal cause : Fault}
    (hclash : refusal.IsClash)
    (htries : t.tries = [(refused, .error refusal), (nonce, .error cause)])
    (hlast : t.calls.getLast? = some (.send nonce (.error cause))) :
    ∃ reason : Reason, reason.Explains request chain book t (cause.rewrite Desk.notRecovered) := by
  refine explained_of_rewrite hlast rfl fun he => ?_
  unfold Desk.notRecovered
  cases htext : cause.askText with
  | error f => exact ⟨.unspoken, .refusedAgain hclash he htext htries hlast⟩
  | ok text =>
    exact ⟨.notRecovered, refused, refusal, nonce, cause, text, htries, hlast, hclash, he, htext,
      Fault.wraps_wrap _ _ _⟩

/-- A settlement that fails after an admission has a reason. -/
theorem Sending.explained
    (h : Sending given chain sender.key (book.get? sender.key) t (.failed e))
    (haccept : request.accept = .ok (sender, terms))
    (hadmission : Admission sender cached forced s (.ok ())) :
    ∃ reason : Reason, reason.Explains request chain book (s ++ t) e := by
  have htries : s.tries = [] :=
    Talk.tries_eq_nil fun call hcall => by simp [hadmission.part_eq call hcall]
  cases h with
  | unstarted hnone =>
    generalize hbook : book.get? sender.key = first at hnone
    cases hnone with
    | unshown n hline =>
      rw [List.append_nil]
      exact ⟨.unspoken, .used haccept hbook hline hadmission.calls_of_ok⟩
    | unasked hnone => exact hnone.explained haccept s
  | @stopped t v cause hfirst hclash =>
    have hone : (s ++ (t ++ Talk.submits v (.error cause))).tries = [(v, .error cause)] := by
      simp [htries, hfirst.tries_eq]
    exact Reason.explained_of_notRetried hclash hone (by simp)
  | unsynced hfirst hclash hnone =>
    rw [← List.append_assoc]
    exact hnone.explained haccept _
  | @lost t v m refusal cause hfirst hclash hgiven =>
    have htwo : (s ++ (t ++ Talk.submits v (.error refusal) ++
        Talk.asksNonce chain sender.key (.ok m) ++ Talk.submits m (.error cause))).tries =
          [(v, .error refusal), (m, .error cause)] := by
      simp [htries, hfirst.tries_eq]
    exact Reason.explained_of_notRecovered hclash htwo (by simp)

end

namespace Desk

/-- **A dispatch that has sent nothing says why.**  If no submission returns, then the dispatch
ends with a fault, and exactly one of the reasons explains it by what has been heard.  The source
is one that answers with whole numbers or fails; nothing else is assumed of anyone. -/
theorem dispatch_explained (gate : Gate ν σ) (answer : Int → Value → Act ν σ Int)
    (sink : Option (ErrorSink ν σ)) (chain : Int) (request : Request) (send : SendCallback ν σ)
    (d : Desk σ)
    (hnone : ∀ nonce tx, Call.send nonce (.ok tx) ∉
      (dispatchTalk gate (.whole answer) sink chain request send d).calls) :
    ∃ e, (dispatch gate (.whole answer) sink chain request send d).result = .error e ∧
      ∃! reason : Reason, reason.Explains request chain d.book
        (dispatchTalk gate (.whole answer) sink chain request send d) e := by
  have hdispatching := dispatch_dispatching gate answer sink chain request send d
  generalize dispatchTalk gate (.whole answer) sink chain request send d = talk at *
  generalize (dispatch gate (.whole answer) sink chain request send d).result = result at *
  generalize (dispatch gate (.whole answer) sink chain request send d).next.book = book at *
  suffices hexists : ∃ e, result = .error e ∧
      ∃ reason : Reason, reason.Explains request chain d.book talk e by
    obtain ⟨e, hresult, reason, hreason⟩ := hexists
    exact ⟨e, hresult, reason, hreason, fun other hother => hreason.unique hother⟩
  cases hdispatching with
  | declined haccept => exact ⟨_, rfl, Reason.explained_of_declined haccept⟩
  | refused haccept hadmission => exact ⟨_, rfl, hadmission.explained⟩
  | failed haccept hadmission hsending =>
    exact ⟨_, rfl, hsending.explained haccept hadmission⟩
  | @unlogged sender terms t₁ t₂ n tx e haccept hadmission hsending hline =>
    -- the last submission of this settlement has returned, and of the next one, too
    have hmem : Call.send (.ofNumeral n) (.ok tx) ∈ t₂.calls := hsending.mem_calls_iff.mpr rfl
    exact absurd (by simp [hmem]) (hnone (.ofNumeral n) tx)
  | @sent sender terms t₁ t₂ t₃ n tx r haccept hadmission hsending hline hregistration =>
    have hmem : Call.send (.ofNumeral n) (.ok tx) ∈ t₂.calls := hsending.mem_calls_iff.mpr rfl
    exact absurd (by simp [hmem]) (hnone (.ofNumeral n) tx)

end Desk

namespace Mute

/-- The fault of an encoding at a place before the first: to ask for its text is a fault. -/
def fault : Fault where
  kind := .foreign "UnicodeEncodeError"
  args := [.text "ascii", .text "abc", .int (-1), .int 0, .text "bad"]
  speech := .mute .noText

/-- The callback that fails with a fault. -/
def send (e : Fault) : SendCallback Empty Unit := fun _ => .fail e

/-- A dispatch whose callback fails, to which the network gives the nonce five. -/
def dispatch (e : Fault) : Act (Deed Empty) (Desk Unit) Value :=
  Desk.dispatch TwoChains.gate (.whole fun _ _ => pure 5) none 1 TwoChains.request (send e)

/-- What is heard of the dispatch at a desk at which nothing has been sent. -/
def talk (e : Fault) : Talk :=
  Desk.dispatchTalk TwoChains.gate (.whole fun _ _ => pure 5) none 1 TwoChains.request (send e)
    TwoChains.desk

/-- A callback that fails with a fault without a text is explained, too. -/
theorem explained_mute :
    ∃ e, (dispatch fault TwoChains.desk).result = .error e ∧
      ∃! reason : Reason, reason.Explains TwoChains.request 1 .empty (talk fault) e := by
  refine Desk.dispatch_explained TwoChains.gate (fun _ _ => pure 5) none 1 TwoChains.request
    (send fault) TwoChains.desk ?_
  intro nonce tx hmem
  have htries : (talk fault).tries = [(.int 5, .error fault)] := rfl
  have htry : (nonce, (.ok tx : Except Fault Value)) ∈ (talk fault).tries :=
    Talk.mem_tries_iff.mpr hmem
  rw [htries] at htry
  simp at htry

/-- **Without the ninth reason a dispatch need not be explained.**  One whose callback fails with a
fault without a text ends with the fault of asking for it, and that is no fault of the library. -/
theorem not_explained :
    ¬ ∀ e : Fault, e.isInterrupt = false →
      ∃ e', (dispatch e TwoChains.desk).result = .error e' ∧
        ∃ reason : Reason, reason ≠ .unspoken ∧
          reason.Explains TwoChains.request 1 .empty (talk e) e' := by
  intro h
  obtain ⟨e', hresult, reason, hspoken, hreason⟩ := h fault rfl
  have hnoText : (dispatch fault TwoChains.desk).result = .error Fault.noText := rfl
  obtain rfl : Fault.noText = e' := Except.error.inj (hnoText.symm.trans hresult)
  obtain rfl : reason = .notSent := hreason.eq_reason hspoken
  obtain ⟨nonce, cause, -, -, -, -, hkind, -⟩ := hreason
  exact absurd hkind (by simp [Fault.noText])

end Mute

end Outbox
