import Outbox.Proofs.Sending

/-!
# The conversation of a dispatch

A dispatch talks to four collaborators, and what it asks next depends on every answer before.
This file gives the whole protocol as relations, one for each part, and shows that a dispatch
keeps to it.

## 1.  The parts

* `Admission`: the gate is asked for room and, if there is room, for a signer; a forced request
  asks for nothing.
* `Sending`, from `Outbox.Proofs.Sending`: the nonces and the submissions.
* `Registration`: the gate is told of the transaction and, if that fails and the failure has a
  text, the sink is told of the failure.

## 2.  The whole

`Dispatching` puts the parts together.  A request that is not accepted says nothing at all; one
that is not let in stops there; one whose transaction is not sent stops after the submissions;
and one whose transaction is sent, and no other, goes on to the registration, unless the number of
its chain has too many digits to be written into the log.  The gate is told at a desk whose book
has the next nonce already, and that is part of what is said.

The main statement is `dispatch_keepsProtocol`.  The source is one that answers with whole
numbers or fails; nothing is assumed of the gate, of the callback or of the sink, and the book may
hold anything.

## 3.  Where words fail

Between the calls there are texts to be formed, for the log and for the sink.  Where one cannot be
formed the conversation ends although nobody has failed, and each relation has a constructor of its own
for that: the nonce that the network has given is not submitted (`NoNonce.unshown`), the gate is not told
of the transaction (`Dispatching.unlogged`), or the sink of the gate's fault (`Registration.unspoken`).
-/

namespace Outbox

variable {ν σ : Type}

/-! ## 1.  The parts -/

/-- The gate is asked for room while the book has a nonce for the sender, and answers. -/
def Talk.asksRoom (sender : Address) (cached : Option Numeral) (answer : Except Fault Bool) :
    Talk :=
  [.asksRoom sender cached, .passes (.room sender answer)]

/-- The gate is asked for a signer while the book has a nonce for the sender, and answers. -/
def Talk.asksSigner (sender : Address) (cached : Option Numeral) (answer : Except Fault Bool) :
    Talk :=
  [.asksSigner sender cached, .passes (.signer sender answer)]

/-- The gate is told of a transaction while the book has a nonce for the sender, and answers. -/
def Talk.registers (tx : Value) (terms : Terms) (sender : Address) (cached : Option Numeral)
    (answer : Except Fault Unit) : Talk :=
  [.registers tx terms sender cached, .passes (.register tx terms sender answer)]

/-- The sink is told of a fault, and answers. -/
def Talk.reports (e : Fault) (answer : Except Fault Unit) : Talk :=
  [.reports e, .passes (.tell e answer)]

/-- How the admission of a sender may go: what is said, and whether the sender is let in. -/
inductive Admission (sender : Address) (cached : Option Numeral) (forced : Bool) :
    Talk → Except Fault Unit → Prop
  | forced (hforced : forced = true) : Admission sender cached forced [] (.ok ())
  | roomFails (hforced : forced = false) (e : Fault) :
      Admission sender cached forced (Talk.asksRoom sender cached (.error e)) (.error e)
  | full (hforced : forced = false) :
      Admission sender cached forced (Talk.asksRoom sender cached (.ok false))
        (.error (.withDefault .queueFull))
  | signerFails (hforced : forced = false) (e : Fault) :
      Admission sender cached forced
        (Talk.asksRoom sender cached (.ok true) ++ Talk.asksSigner sender cached (.error e))
        (.error e)
  | unsigned (hforced : forced = false) :
      Admission sender cached forced
        (Talk.asksRoom sender cached (.ok true) ++ Talk.asksSigner sender cached (.ok false))
        (.error (.withDefault .noSigners))
  | letIn (hforced : forced = false) :
      Admission sender cached forced
        (Talk.asksRoom sender cached (.ok true) ++ Talk.asksSigner sender cached (.ok true))
        (.ok ())

/-- How the registration of a transaction may go: what is said, and what it comes to. -/
inductive Registration (attached : Bool) (tx : Value) (terms : Terms) (sender : Address)
    (cached : Option Numeral) : Talk → Except Fault Unit → Prop
  | registered :
      Registration attached tx terms sender cached
        (Talk.registers tx terms sender cached (.ok ())) (.ok ())
  | interrupted {e : Fault} (he : e.isInterrupt = true) :
      Registration attached tx terms sender cached
        (Talk.registers tx terms sender cached (.error e)) (.error e)
  | unspoken {e f : Fault} (he : e.isInterrupt = false) (hreport : Desk.notRegistered e = .error f) :
      Registration attached tx terms sender cached
        (Talk.registers tx terms sender cached (.error e)) (.error f)
  | unheard {e report : Fault} (he : e.isInterrupt = false)
      (hreport : Desk.notRegistered e = .ok report) (hsink : attached = false) :
      Registration attached tx terms sender cached
        (Talk.registers tx terms sender cached (.error e)) (.ok ())
  | reported {e report : Fault} (he : e.isInterrupt = false)
      (hreport : Desk.notRegistered e = .ok report) (hsink : attached = true)
      (answer : Except Fault Unit) :
      Registration attached tx terms sender cached
        (Talk.registers tx terms sender cached (.error e) ++ Talk.reports report answer) answer

/-! ## 2.  The whole -/

/-- How a dispatch may go: what is said, the book after it, and what it comes to. -/
inductive Dispatching (attached : Bool) (chain : Int) (request : Request) (book : NonceBook) :
    Talk → NonceBook → Except Fault Value → Prop
  | declined {e : RequestError} (haccept : request.accept = .error e) :
      Dispatching attached chain request book [] book (.error e.fault)
  | refused {sender : Address} {terms : Terms} {t : Talk} {e : Fault}
      (haccept : request.accept = .ok (sender, terms))
      (hadmission : Admission sender (book.get? sender.key) request.isForced t (.error e)) :
      Dispatching attached chain request book t book (.error e)
  | failed {sender : Address} {terms : Terms} {t₁ t₂ : Talk} {e : Fault}
      (haccept : request.accept = .ok (sender, terms))
      (hadmission : Admission sender (book.get? sender.key) request.isForced t₁ (.ok ()))
      (hsending : Sending Value.IsWhole chain sender.key (book.get? sender.key) t₂ (.failed e)) :
      Dispatching attached chain request book (t₁ ++ t₂) book (.error e)
  | unlogged {sender : Address} {terms : Terms} {t₁ t₂ : Talk} {n : Numeral} {tx : Value} {e : Fault}
      (haccept : request.accept = .ok (sender, terms))
      (hadmission : Admission sender (book.get? sender.key) request.isForced t₁ (.ok ()))
      (hsending : Sending Value.IsWhole chain sender.key (book.get? sender.key) t₂
        (.sent (.ofNumeral n) tx))
      (hline : Desk.sentLine sender chain = .error e) :
      Dispatching attached chain request book (t₁ ++ t₂)
        (book.put sender.key (Nonce.successor n)) (.error e)
  | sent {sender : Address} {terms : Terms} {t₁ t₂ t₃ : Talk} {n : Numeral} {tx : Value}
      {r : Except Fault Unit} (haccept : request.accept = .ok (sender, terms))
      (hadmission : Admission sender (book.get? sender.key) request.isForced t₁ (.ok ()))
      (hsending : Sending Value.IsWhole chain sender.key (book.get? sender.key) t₂
        (.sent (.ofNumeral n) tx))
      (hline : ∃ text, Desk.sentLine sender chain = .ok text)
      (hregistration : Registration attached tx terms sender (some (Nonce.successor n)) t₃ r) :
      Dispatching attached chain request book (t₁ ++ t₂ ++ t₃)
        (book.put sender.key (Nonce.successor n)) (r.map fun _ => tx)

/-! ## 3.  The acts of a dispatch -/

/-- After a number comes its successor. -/
@[simp] theorem Nonce.next_ofNumeral (n : Numeral) :
    Nonce.next (.ofNumeral n) = .ok (Nonce.successor n) := by
  cases n <;> rfl

/-- If the network answers with whole numbers, the nonce that is used is the one that the book has,
or a whole number. -/
theorem Sending.origin {chain : Int} {account : Key} {cached : Option Numeral} {t : Talk}
    {v tx : Value} (h : Sending Value.IsWhole chain account cached t (.sent v tx)) :
    ∃ n : Numeral, v = .ofNumeral n ∧ (cached = some n ∨ ∃ i : Int, n = .whole i) := by
  have hwhole (w : Value) (hw : w.IsWhole) :
      ∃ n : Numeral, w = .ofNumeral n ∧ (cached = some n ∨ ∃ i : Int, n = .whole i) := by
    obtain ⟨i, rfl⟩ := hw
    exact ⟨.whole i, rfl, .inr ⟨i, rfl⟩⟩
  cases h with
  | sent hfirst =>
    cases hfirst with
    | cached n hline => exact ⟨n, rfl, .inl rfl⟩
    | answered hgiven => exact hwhole v hgiven.gives
  | recovered hfirst hclash hgiven => exact hwhole v hgiven.gives

namespace Desk

/-- The desk after an act whose fault is counted. -/
def tallied {α : Type} (outcome : Fault → String) (r : Except Fault α) (d : Desk σ) : Desk σ :=
  match r with
  | .ok _ => d
  | .error e =>
    if e.isInterrupt then d else { d with counters := d.counters.add (.dispatch (outcome e)) }

@[simp] theorem book_tallied {α : Type} (outcome : Fault → String) (r : Except Fault α)
    (d : Desk σ) : (tallied outcome r d).book = d.book := by
  unfold tallied
  split
  · rfl
  · split <;> rfl

@[simp] theorem world_tallied {α : Type} (outcome : Fault → String) (r : Except Fault α)
    (d : Desk σ) : (tallied outcome r d).world = d.world := by
  unfold tallied
  split
  · rfl
  · split <;> rfl

theorem Goes.counting {α : Type} {x : Act (Deed ν) (Desk σ) α} {d d' : Desk σ}
    {r : Except Fault α} {t : List (Deed ν)} (outcome : Fault → String) (hx : Goes x d r t d') :
    Goes (Desk.counting outcome x) d r t (tallied outcome r d') := by
  cases r with
  | ok a => exact hx.rescue_ok
  | error e =>
    cases he : e.isInterrupt with
    | true =>
      have htallied : tallied outcome (.error e : Except Fault α) d' = d' := by simp [tallied, he]
      rw [htallied]
      exact hx.rescue_interrupt he
    | false =>
      have htallied : tallied outcome (.error e : Except Fault α) d' =
          { d' with counters := d'.counters.add (.dispatch (outcome e)) } := by simp [tallied, he]
      rw [htallied, ← List.append_nil t]
      exact hx.rescue_fault he ((goes_count _ d').bind (goes_fail e _))

variable (gate : Gate ν σ) (sender : Address)

/-- The desk after the gate has been asked for room. -/
def afterRoom (d : Desk σ) : Desk σ := { d with world := (gate.canQueue sender d.world).next }

/-- The desk after the gate has been asked for a signer. -/
def afterSigner (d : Desk σ) : Desk σ := { d with world := (gate.canSign sender d.world).next }

variable {gate sender} {d d' : Desk σ} {e : Fault}

/-- What an answer of the gate comes to, if a denial comes to the given fault. -/
def verdict (denial : Fault) (answer : Except Fault Bool) : Except Fault Unit :=
  answer.bind fun granted => if granted then .ok () else .error denial

/-- A question to the gate: it is noted, the gate answers, and the answer decides. -/
theorem question_goes {deed : Deed Call} (hdeed : deed.isLine = false) (denial : Fault)
    (x : Act ν σ Bool) (call : Except Fault Bool → Call) (d : Desk σ) :
    Goes
      (do
        Act.note deed
        if ← outside (x.heard call) then return () else .fail denial)
      d (verdict denial (x d.world).result) [deed, .passes (call (x d.world).result)]
      { d with world := (x d.world).next } := by
  refine (goes_note hdeed d).bind ?_
  have hcall := goes_outside x call d
  cases hanswer : (x d.world).result with
  | error e =>
    rw [hanswer] at hcall
    exact hcall.bind_error
  | ok granted =>
    rw [hanswer] at hcall
    cases granted with
    | true => exact hcall.bind (goes_pure () _)
    | false => exact hcall.bind (goes_fail _ _)

theorem needRoom_goes (gate : Gate ν σ) (sender : Address) (d : Desk σ) :
    Goes (needRoom gate.heard sender) d
      (verdict (.withDefault .queueFull) (gate.canQueue sender d.world).result)
      (Talk.asksRoom sender (d.book.get? sender.key) (gate.canQueue sender d.world).result)
      (afterRoom gate sender d) :=
  (goes_cached sender.key d).bind (question_goes rfl _ _ _ d)

theorem needSigner_goes (gate : Gate ν σ) (sender : Address) (d : Desk σ) :
    Goes (needSigner gate.heard sender) d
      (verdict (.withDefault .noSigners) (gate.canSign sender d.world).result)
      (Talk.asksSigner sender (d.book.get? sender.key) (gate.canSign sender d.world).result)
      (afterSigner gate sender d) :=
  (goes_cached sender.key d).bind (question_goes rfl _ _ _ d)

/-- A gate that grants both questions lets the sender in. -/
theorem askAdmission_goes_ok (hroom : (gate.canQueue sender d.world).result = .ok true)
    (hsigner : (gate.canSign sender (afterRoom gate sender d).world).result = .ok true) :
    Goes (askAdmission gate.heard sender) d (.ok ())
      (Talk.asksRoom sender (d.book.get? sender.key) (.ok true) ++
        Talk.asksSigner sender (d.book.get? sender.key) (.ok true))
      (afterSigner gate sender (afterRoom gate sender d)) := by
  have hfirst := needRoom_goes gate sender d
  have hsecond := needSigner_goes gate sender (afterRoom gate sender d)
  rw [hroom] at hfirst
  rw [hsigner] at hsecond
  exact hfirst.bind hsecond

/-- The gate is asked as the protocol says, and the book stays as it is. -/
theorem askAdmission_goes (d : Desk σ) :
    ∃ t r d', Admission sender (d.book.get? sender.key) false t r ∧
      Goes (askAdmission gate.heard sender) d r t d' ∧ d'.book = d.book := by
  have hfirst := needRoom_goes gate sender d
  cases hroom : (gate.canQueue sender d.world).result with
  | error e =>
    rw [hroom] at hfirst
    exact ⟨_, _, _, .roomFails rfl e, hfirst.bind_error, rfl⟩
  | ok room =>
    rw [hroom] at hfirst
    cases room with
    | false => exact ⟨_, _, _, .full rfl, hfirst.bind_error, rfl⟩
    | true =>
      have hsecond := needSigner_goes gate sender (afterRoom gate sender d)
      cases hsigner : (gate.canSign sender (afterRoom gate sender d).world).result with
      | error e =>
        rw [hsigner] at hsecond
        exact ⟨_, _, _, .signerFails rfl e, hfirst.bind hsecond, rfl⟩
      | ok signer =>
        rw [hsigner] at hsecond
        cases signer with
        | false => exact ⟨_, _, _, .unsigned rfl, hfirst.bind hsecond, rfl⟩
        | true => exact ⟨_, _, _, .letIn rfl, hfirst.bind hsecond, rfl⟩

/-! ## 4.  The registration -/

/-- The desk after the gate has been told of a transaction. -/
def afterRegistration (gate : Gate ν σ) (tx : Value) (terms : Terms) (sender : Address)
    (d : Desk σ) : Desk σ :=
  { d with world := (gate.insert tx terms sender d.world).next }

/-- The desk after a failed registration has been reported to a sink. -/
def afterReport (tell : ErrorSink ν σ) (e : Fault) (d : Desk σ) : Desk σ :=
  { d with counters := d.counters.add .sinkError, world := (tell e d.world).next }

variable {tx : Value} {terms : Terms} {sink : Option (ErrorSink ν σ)} {tell : ErrorSink ν σ}

/-- The telling itself, before what comes of it is looked at. -/
theorem insert_goes (gate : Gate ν σ) (sender : Address) (tx : Value) (terms : Terms) (d : Desk σ) :
    Goes
      (do
        Act.note (.registers tx terms sender (← cached sender.key))
        outside (gate.heard.insert tx terms sender))
      d (gate.insert tx terms sender d.world).result
      (Talk.registers tx terms sender (d.book.get? sender.key)
        (gate.insert tx terms sender d.world).result)
      (afterRegistration gate tx terms sender d) :=
  (goes_cached sender.key d).bind ((goes_note rfl d).bind (goes_outside _ _ d))

/-- The log can be told of a report. -/
theorem askText_of_notRegistered {report : Fault} (h : notRegistered e = .ok report) :
    ∃ text, report.askText = .ok text := by
  obtain ⟨text, rfl⟩ := eq_wrap_of_notRegistered h
  exact ⟨text, Fault.askText_wrap _ _ _⟩

theorem report_goes_none {report : Fault} (h : notRegistered e = .ok report) (d : Desk σ) :
    Goes (Desk.report (none : Option (ErrorSink Call σ)) report) d (.ok ()) []
      { d with counters := d.counters.add .sinkError } := by
  obtain ⟨text, htext⟩ := askText_of_notRegistered h
  exact (goes_count _ d).bind ((goes_log htext _ _ _).bind (goes_pure () _))

theorem report_goes_some {report : Fault} (h : notRegistered e = .ok report)
    (tell : ErrorSink ν σ) (d : Desk σ) :
    Goes (Desk.report (some tell.heard) report) d (tell report d.world).result
      (Talk.reports report (tell report d.world).result) (afterReport tell report d) := by
  obtain ⟨text, htext⟩ := askText_of_notRegistered h
  exact (goes_count _ d).bind
    ((goes_log htext _ _ _).bind ((goes_note rfl _).bind (goes_outside _ _ _)))

theorem register_goes_ok (h : (gate.insert tx terms sender d.world).result = .ok ()) :
    Goes (register gate.heard (sink.map ErrorSink.heard) tx terms sender) d (.ok ())
      (Talk.registers tx terms sender (d.book.get? sender.key) (.ok ()))
      (afterRegistration gate tx terms sender d) := by
  have hinsert := insert_goes gate sender tx terms d
  rw [h] at hinsert
  exact hinsert.rescue_ok

theorem register_goes_interrupt (h : (gate.insert tx terms sender d.world).result = .error e)
    (he : e.isInterrupt = true) :
    Goes (register gate.heard (sink.map ErrorSink.heard) tx terms sender) d (.error e)
      (Talk.registers tx terms sender (d.book.get? sender.key) (.error e))
      (afterRegistration gate tx terms sender d) := by
  have hinsert := insert_goes gate sender tx terms d
  rw [h] at hinsert
  exact hinsert.rescue_interrupt he

/-- What comes of making the report of a failed registration. -/
theorem notRegistered_goes (e : Fault) (d : Desk σ) :
    Goes (Act.ofExcept (notRegistered e)) d (notRegistered e) ([] : Talk) d :=
  goes_ofExcept _ d

theorem register_goes_unspoken {f : Fault}
    (h : (gate.insert tx terms sender d.world).result = .error e) (he : e.isInterrupt = false)
    (hreport : notRegistered e = .error f) :
    Goes (register gate.heard (sink.map ErrorSink.heard) tx terms sender) d (.error f)
      (Talk.registers tx terms sender (d.book.get? sender.key) (.error e))
      (afterRegistration gate tx terms sender d) := by
  have hinsert := insert_goes gate sender tx terms d
  rw [h] at hinsert
  have hmake := notRegistered_goes e (afterRegistration gate tx terms sender d)
  rw [hreport] at hmake
  rw [← List.append_nil (Talk.registers _ _ _ _ _)]
  refine hinsert.rescue_fault he ?_
  rw [hreport]
  exact hmake.bind_error

theorem register_goes_unheard {report : Fault}
    (h : (gate.insert tx terms sender d.world).result = .error e) (he : e.isInterrupt = false)
    (hreport : notRegistered e = .ok report) :
    Goes (register gate.heard none tx terms sender) d (.ok ())
      (Talk.registers tx terms sender (d.book.get? sender.key) (.error e))
      { afterRegistration gate tx terms sender d with
        counters := d.counters.add .sinkError } := by
  have hinsert := insert_goes gate sender tx terms d
  rw [h] at hinsert
  have hmake := notRegistered_goes e (afterRegistration gate tx terms sender d)
  rw [hreport] at hmake
  rw [← List.append_nil (Talk.registers _ _ _ _ _)]
  refine hinsert.rescue_fault he ?_
  rw [hreport]
  exact hmake.bind (report_goes_none hreport _)

theorem register_goes_reported {report : Fault} (tell : ErrorSink ν σ)
    (h : (gate.insert tx terms sender d.world).result = .error e) (he : e.isInterrupt = false)
    (hreport : notRegistered e = .ok report) :
    Goes (register gate.heard (some tell.heard) tx terms sender) d
      (tell report (afterRegistration gate tx terms sender d).world).result
      (Talk.registers tx terms sender (d.book.get? sender.key) (.error e) ++
        Talk.reports report (tell report (afterRegistration gate tx terms sender d).world).result)
      (afterReport tell report (afterRegistration gate tx terms sender d)) := by
  have hinsert := insert_goes gate sender tx terms d
  rw [h] at hinsert
  have hmake := notRegistered_goes e (afterRegistration gate tx terms sender d)
  rw [hreport] at hmake
  refine hinsert.rescue_fault he ?_
  rw [hreport]
  exact hmake.bind (report_goes_some hreport tell _)

/-- After a failure of the gate the sink is told as the protocol says.  The book stays as it is, and the
world is as the gate leaves it, or the sink after the gate. -/
theorem register_goes_failed (sink : Option (ErrorSink ν σ))
    (h : (gate.insert tx terms sender d.world).result = .error e) :
    ∃ t r d', Registration sink.isSome tx terms sender (d.book.get? sender.key) t r ∧
      Goes (register gate.heard (sink.map ErrorSink.heard) tx terms sender) d r t d' ∧
      d'.book = d.book ∧
      (d'.world = (gate.insert tx terms sender d.world).next ∨
        ∃ tell ∈ sink, ∃ report,
          d'.world = (tell report (gate.insert tx terms sender d.world).next).next) := by
  cases he : e.isInterrupt with
  | true => exact ⟨_, _, _, .interrupted he, register_goes_interrupt h he, rfl, .inl rfl⟩
  | false =>
    cases hreport : notRegistered e with
    | error f =>
      exact ⟨_, _, _, .unspoken he hreport, register_goes_unspoken h he hreport, rfl, .inl rfl⟩
    | ok report =>
      cases sink with
      | none =>
        have hgoes := register_goes_unheard h he hreport
        exact ⟨_, _, _, .unheard he hreport rfl, hgoes, rfl, .inl rfl⟩
      | some tell =>
        have hgoes := register_goes_reported tell h he hreport
        exact ⟨_, _, _, .reported he hreport rfl _, hgoes, rfl, .inr ⟨tell, rfl, report, rfl⟩⟩

/-- The gate, and after a failure the sink, is told as the protocol says, and the book stays as it
is. -/
theorem register_goes (gate : Gate ν σ) (sender : Address) (sink : Option (ErrorSink ν σ))
    (tx : Value) (terms : Terms) (d : Desk σ) :
    ∃ t r d', Registration sink.isSome tx terms sender (d.book.get? sender.key) t r ∧
      Goes (register gate.heard (sink.map ErrorSink.heard) tx terms sender) d r t d' ∧
      d'.book = d.book := by
  cases h : (gate.insert tx terms sender d.world).result with
  | ok u => exact ⟨_, _, _, .registered, register_goes_ok h, rfl⟩
  | error e =>
    obtain ⟨t, r, d', hregistration, hgoes, hbook, -⟩ := register_goes_failed sink h
    exact ⟨t, r, d', hregistration, hgoes, hbook⟩

/-- A registration leaves alone what the gate and the sink leave alone. -/
theorem register_leaves {β : Type} (view : σ → β)
    (hinsert : ∀ s, view (gate.insert tx terms sender s).next = view s)
    (hsink : ∀ tell ∈ sink, ∀ e s, view (tell e s).next = view s) (d : Desk σ) :
    view (register gate.heard (sink.map ErrorSink.heard) tx terms sender d).next.world =
      view d.world := by
  cases h : (gate.insert tx terms sender d.world).result with
  | ok u =>
    rw [(register_goes_ok h).next]
    exact hinsert d.world
  | error e =>
    obtain ⟨t, r, d', -, hgoes, -, hworld | ⟨tell, htell, report, hworld⟩⟩ :=
      register_goes_failed sink h
    · rw [hgoes.next, hworld]
      exact hinsert d.world
    · rw [hgoes.next, hworld]
      exact (hsink tell htell report _).trans (hinsert d.world)

/-- The desk at which a transaction that was sent has been counted. -/
def afterSent (d : Desk σ) : Desk σ := { d with counters := d.counters.add (.dispatch sentOutcome) }

/-- What is left to do comes to what the registration comes to, with the transaction as result. -/
theorem Goes.conclude {t : Talk} {r : Except Fault Unit} {chain : Int}
    (hline : ∃ text, sentLine sender chain = .ok text)
    (h : Goes (register gate.heard (sink.map ErrorSink.heard) tx terms sender) (afterSent d) r t
      d') :
    Goes (conclude gate.heard (sink.map ErrorSink.heard) chain sender terms tx) d
      (r.map fun _ => tx) t d' := by
  obtain ⟨text, hline⟩ := hline
  refine (goes_count _ d).bind ((goes_log hline _ _ _).bind ?_)
  cases r with
  | error e => exact h.bind_error
  | ok u =>
    rw [← List.append_nil t]
    exact h.bind (goes_pure tx d')

/-- If the log cannot be told of the transaction, then nothing else is done about it. -/
theorem conclude_goes_unlogged {chain : Int} (hline : sentLine sender chain = .error e)
    (d : Desk σ) :
    Goes (conclude gate.heard (sink.map ErrorSink.heard) chain sender terms tx) d (.error e)
      ([] : Talk) (afterSent d) :=
  (goes_count _ d).bind (goes_log_error hline _ _ _).bind_error

/-! ## 5.  The dispatch -/

/-- The admission of a request: none if it is forced. -/
def admitting (gate : Gate ν σ) (request : Request) (sender : Address) :
    Act (Deed ν) (Desk σ) Unit :=
  if request.isForced then pure () else askAdmission gate sender

theorem admitting_goes (gate : Gate ν σ) (sender : Address) (request : Request) (d : Desk σ) :
    ∃ t r d', Admission sender (d.book.get? sender.key) request.isForced t r ∧
      Goes (admitting gate.heard request sender) d r t d' ∧ d'.book = d.book := by
  unfold admitting
  cases request.isForced with
  | true => exact ⟨[], _, d, .forced rfl, goes_pure () d, rfl⟩
  | false => exact askAdmission_goes d

variable {request : Request} {source : NonceSource ν σ} {send : SendCallback ν σ} {chain : Int}
  {d₁ d₂ d₃ : Desk σ} {t₁ t₂ t₃ : Talk}

theorem checked_goes (request : Request) (d : Desk σ) :
    Goes (Desk.checked request) d (request.accept.mapError RequestError.fault) ([] : Talk) d :=
  goes_ofExcept _ d

theorem dispatch_goes_declined {e : RequestError} (haccept : request.accept = .error e) :
    Goes (dispatch gate.heard source.heard (sink.map ErrorSink.heard) chain request send.heard) d
      (.error e.fault) [] (tallied Fault.name (.error e.fault : Except Fault Unit) d) := by
  have hchecked := checked_goes request d
  rw [haccept] at hchecked
  exact (hchecked.counting Fault.name).bind_error

theorem Goes.dispatch_refused (haccept : request.accept = .ok (sender, terms))
    (hadmission : Goes (admitting gate.heard request sender) d (.error e) t₁ d₁) :
    Goes (dispatch gate.heard source.heard (sink.map ErrorSink.heard) chain request send.heard) d
      (.error e) t₁ (tallied admissionOutcome (.error e : Except Fault Unit) d₁) := by
  have hchecked := checked_goes request d
  rw [haccept] at hchecked
  exact (hchecked.counting Fault.name).bind (hadmission.counting admissionOutcome).bind_error

theorem Goes.dispatch_failed (haccept : request.accept = .ok (sender, terms))
    (hadmission : Goes (admitting gate.heard request sender) d (.ok ()) t₁ d₁)
    (hsettle : Goes (settle source.heard chain sender.key send.heard) d₁ (.error e) t₂ d₂) :
    Goes (dispatch gate.heard source.heard (sink.map ErrorSink.heard) chain request send.heard) d
      (.error e) (t₁ ++ t₂) (tallied Fault.name (.error e : Except Fault Value) d₂) := by
  have hchecked := checked_goes request d
  rw [haccept] at hchecked
  refine (hchecked.counting Fault.name).bind ((hadmission.counting admissionOutcome).bind ?_)
  exact (hsettle.counting Fault.name).bind_error

theorem Goes.dispatch_concluded {r : Except Fault Value}
    (haccept : request.accept = .ok (sender, terms))
    (hadmission : Goes (admitting gate.heard request sender) d (.ok ()) t₁ d₁)
    (hsettle : Goes (settle source.heard chain sender.key send.heard) d₁ (.ok tx) t₂ d₂)
    (hconclude : Goes (Desk.conclude gate.heard (sink.map ErrorSink.heard) chain sender terms tx) d₂
      r t₃ d₃) :
    Goes (dispatch gate.heard source.heard (sink.map ErrorSink.heard) chain request send.heard) d
      r (t₁ ++ t₂ ++ t₃) d₃ := by
  have hchecked := checked_goes request d
  rw [haccept] at hchecked
  rw [List.append_assoc]
  refine (hchecked.counting Fault.name).bind ((hadmission.counting admissionOutcome).bind ?_)
  exact (hsettle.counting Fault.name).bind hconclude

theorem Goes.dispatch_unlogged (haccept : request.accept = .ok (sender, terms))
    (hadmission : Goes (admitting gate.heard request sender) d (.ok ()) t₁ d₁)
    (hsettle : Goes (settle source.heard chain sender.key send.heard) d₁ (.ok tx) t₂ d₂)
    (hline : sentLine sender chain = .error e) :
    Goes (dispatch gate.heard source.heard (sink.map ErrorSink.heard) chain request send.heard) d
      (.error e) (t₁ ++ t₂) (afterSent d₂) := by
  rw [← List.append_nil (t₁ ++ t₂)]
  exact Goes.dispatch_concluded haccept hadmission hsettle (conclude_goes_unlogged hline d₂)

theorem Goes.dispatch_sent {r : Except Fault Unit} (haccept : request.accept = .ok (sender, terms))
    (hadmission : Goes (admitting gate.heard request sender) d (.ok ()) t₁ d₁)
    (hsettle : Goes (settle source.heard chain sender.key send.heard) d₁ (.ok tx) t₂ d₂)
    (hline : ∃ text, sentLine sender chain = .ok text)
    (hregister : Goes (register gate.heard (sink.map ErrorSink.heard) tx terms sender)
      (afterSent d₂) r t₃ d₃) :
    Goes (dispatch gate.heard source.heard (sink.map ErrorSink.heard) chain request send.heard) d
      (r.map fun _ => tx) (t₁ ++ t₂ ++ t₃) d₃ :=
  Goes.dispatch_concluded haccept hadmission hsettle (hregister.conclude hline)

/-- A dispatch with a source of whole numbers goes as the protocol says. -/
theorem dispatch_goes (gate : Gate ν σ) (answer : Int → Value → Act ν σ Int)
    (sink : Option (ErrorSink ν σ)) (chain : Int) (request : Request) (send : SendCallback ν σ)
    (d : Desk σ) :
    ∃ t r d', Dispatching sink.isSome chain request d.book t d'.book r ∧
      Goes (dispatch gate.heard (NonceSource.whole answer).heard (sink.map ErrorSink.heard) chain
        request send.heard) d r t d' := by
  cases haccept : request.accept with
  | error e =>
    refine ⟨_, _, _, ?_, dispatch_goes_declined haccept⟩
    rw [book_tallied]
    exact .declined haccept
  | ok accepted =>
    obtain ⟨sender, terms⟩ := accepted
    obtain ⟨t₁, r₁, d₁, hadmission, hadmitting, hbook₁⟩ :=
      admitting_goes gate sender request d
    cases r₁ with
    | error e =>
      refine ⟨_, _, _, ?_, hadmitting.dispatch_refused haccept⟩
      rw [book_tallied, hbook₁]
      exact .refused haccept hadmission
    | ok u =>
      obtain ⟨t₂, ending, d₂, hsending, hsettle, hbook₂⟩ :=
        settle_goes (NonceSource.whole answer) send chain sender.key d₁
      have hwhole := hsending.mono fun _ => NonceSource.isWhole_of_gives
      rw [hbook₁] at hwhole hbook₂
      cases ending with
      | failed e =>
        refine ⟨_, _, _, ?_, hadmitting.dispatch_failed haccept hsettle⟩
        rw [book_tallied, hbook₂]
        exact .failed haccept hadmission hwhole
      | sent v tx =>
        obtain ⟨n, rfl, -⟩ := hwhole.origin
        rw [Ending.result_sent, Nonce.next_ofNumeral] at hsettle
        have hbook : d₂.book = d.book.put sender.key (Nonce.successor n) := by
          rw [hbook₂, Ending.book, Nonce.next_ofNumeral]
        cases hline : sentLine sender chain with
        | error e =>
          refine ⟨_, _, _, ?_, Goes.dispatch_unlogged haccept hadmitting hsettle hline⟩
          show Dispatching _ _ _ _ _ d₂.book _
          rw [hbook]
          exact .unlogged haccept hadmission hwhole hline
        | ok text =>
          obtain ⟨t₃, r₃, d₃, hregistration, hregister, hbook₃⟩ :=
            register_goes gate sender sink tx terms (afterSent d₂)
          have hcached : (afterSent d₂).book.get? sender.key = some (Nonce.successor n) := by
            show d₂.book.get? sender.key = _
            rw [hbook, NonceBook.get?_put, if_pos rfl]
          rw [hcached] at hregistration
          have hbook' : d₃.book = d.book.put sender.key (Nonce.successor n) := hbook₃.trans hbook
          refine ⟨_, _, _, ?_,
            Goes.dispatch_sent haccept hadmitting hsettle ⟨text, hline⟩ hregister⟩
          rw [hbook']
          exact .sent haccept hadmission hwhole ⟨text, hline⟩ hregistration

/-- What a listener hears of a dispatch. -/
def dispatchTalk (gate : Gate ν σ) (source : NonceSource ν σ) (sink : Option (ErrorSink ν σ))
    (chain : Int) (request : Request) (send : SendCallback ν σ) (d : Desk σ) : Talk :=
  said
    (dispatch gate.heard source.heard (sink.map ErrorSink.heard) chain request send.heard d).notes

/-- What is heard of a dispatch, and what comes of it, is one of the ways of `Dispatching`. -/
theorem dispatch_dispatching (gate : Gate ν σ) (answer : Int → Value → Act ν σ Int)
    (sink : Option (ErrorSink ν σ)) (chain : Int) (request : Request) (send : SendCallback ν σ)
    (d : Desk σ) :
    Dispatching sink.isSome chain request d.book
      (dispatchTalk gate (.whole answer) sink chain request send d)
      (dispatch gate (.whole answer) sink chain request send d).next.book
      (dispatch gate (.whole answer) sink chain request send d).result := by
  obtain ⟨t, r, d', hdispatching, hgoes⟩ := dispatch_goes gate answer sink chain request send d
  obtain ⟨hresult, hnext, -⟩ :=
    hgoes.of_agree (agree_dispatch (NonceSource.whole answer) send gate sink chain request)
  have htalk : dispatchTalk gate (.whole answer) sink chain request send d = t := hgoes.said
  rw [hresult, hnext, htalk]
  exact hdispatching

end Desk
end Outbox
