import Outbox.Proofs.Capacity
import Outbox.Proofs.Lines
import Outbox.Proofs.Outcomes

/-!
# Dispatches with the queue as the gate

A desk checks what it is asked to send, and the queue checks it once more when it is told.  The queue
answers whether there is room, and the registrations it is told of make that room less.  If the two
checks ever differed, or if the two halves of the queue did, a transaction would be out and nobody
would raise its price.

They do not differ.  A sender whom the desk has accepted is accepted by the queue from its text, and
terms that have passed their check pass it again (`PendingQueue.next_gate_insert`).  So a dispatch with
the queue as the gate goes in one of four ways (`Shipment.Comes`): it is declined, or refused by what
the queue says, or fails and leaves the queue as it is, or a transaction is out.  What is promised of
every dispatch in every run is read off these four (`IsHandled`).

## What follows a transaction that is out

It is registered and returned, and the sink is told nothing, as long as the log can be told of it
(`Shipment.Follows`).  The number of a chain may have too many digits to be written; then the dispatch
fails before the queue hears of the transaction.  The hash or the capacity may have too many; then the
transaction waits in the queue, the queue says that it has failed to take it, and that is reported.

## Capacities

A capacity is any positive number, and one that is not a number at all passes for positive.  Nothing
is below that one, so a queue with it has never room; otherwise there is room exactly if the sender has
fewer entries than the capacity.  A line that is let in grows by one, and so it stays within a whole
number, but not within a fraction (`OddPlaces.not_always_as_promised`).

The network answers with whole numbers or fails, and neither it nor the callback has its hands on the
queue; nothing else is assumed.
-/

namespace Outbox

variable {ν ρ α : Type}

/-! ## 1.  The queue and an accepted sender -/

namespace PendingQueue

/-- What the queue says to a sender who asks to be let in. -/
def verdict (q : PendingQueue) (a : Address) : Except Fault Unit :=
  if q.hasRoom a then
    if q.hasSigner a then .ok () else .error (.withDefault .noSigners)
  else .error (.withDefault .queueFull)

variable {q : PendingQueue} {a : Address} {terms : Terms} {e : Fault}

/-- A sender has as many entries as there may be, or the capacity is no number. -/
def isFull (q : PendingQueue) (a : Address) : Prop :=
  q.capacity.amount.point? = none ∨ q.capacity.amount.le (.whole (q.pendingOf a).length) = true

theorem isFull_iff : q.isFull a ↔ ¬ q.hasRoom a = true := by
  rw [Bool.not_eq_true]
  exact (Numeral.lt_whole_left_eq_false_iff _ _).symm

theorem verdict_eq_ok_iff : q.verdict a = .ok () ↔ q.hasRoom a = true ∧ q.hasSigner a = true := by
  unfold verdict
  cases q.hasRoom a <;> cases q.hasSigner a <;> simp

/-- Who is refused because the queue is full has no room. -/
theorem full_of_verdict (h : q.verdict a = .error e) :
    e.kind = .own .queueFull ↔ ¬ q.hasRoom a = true := by
  unfold verdict at h
  split at h
  · split at h
    · exact absurd h (by simp)
    · rename_i hroom _
      obtain rfl := Except.error.inj h
      exact iff_of_false (by decide) (not_not_intro hroom)
  · rename_i hroom
    obtain rfl := Except.error.inj h
    exact iff_of_true rfl hroom

/-- Who is refused because of a missing signer has room. -/
theorem unsigned_of_verdict (h : q.verdict a = .error e) :
    e.kind = .own .noSigners ↔ q.hasRoom a = true ∧ q.hasSigner a = false := by
  unfold verdict at h
  split at h
  · rename_i hroom
    split at h
    · exact absurd h (by simp)
    · rename_i hsigner
      obtain rfl := Except.error.inj h
      exact iff_of_true rfl ⟨hroom, by simpa using hsigner⟩
  · rename_i hroom
    obtain rfl := Except.error.inj h
    exact iff_of_false (by decide) fun hboth => hroom hboth.1

/-- An accepted sender is answered, and nothing is changed by asking. -/
theorem gate_answers (ha : Address.accept (.text a.text) = .ok a) (q : PendingQueue) :
    gate.canQueue a q = ⟨.ok (q.hasRoom a), [], q⟩ ∧
      gate.canSign a q = ⟨.ok (q.hasSigner a), [], q⟩ := by
  have hroom : gate.canQueue a = _ := forSender_of_accept ha _
  have hsigner : gate.canSign a = _ := forSender_of_accept ha _
  rw [hroom, hsigner]
  exact ⟨rfl, rfl⟩

/-- The log can be told of the registration of a transaction. -/
def canTell (q : PendingQueue) (tx : Value) : Bool :=
  tx.hash.isWritable && q.capacity.given.isWritable

/-- **The queue never refuses what has been accepted.** -/
theorem next_gate_insert (ha : Address.accept (.text a.text) = .ok a)
    (hterms : terms.check = .ok ()) (tx : Value) (q : PendingQueue) :
    (gate.insert tx terms a q).next = q.append ⟨tx, terms, a, 0⟩ :=
  next_insert (termsFault?_eq_ok_iff.mpr ⟨rfl, hterms⟩) ha tx q

/-- It says that it has failed only if the log cannot be told. -/
theorem result_gate_insert (ha : Address.accept (.text a.text) = .ok a)
    (hterms : terms.check = .ok ()) (tx : Value) (q : PendingQueue) :
    (gate.insert tx terms a q).result =
      if q.canTell tx then .ok () else .error .tooManyDigits :=
  result_insert (termsFault?_eq_ok_iff.mpr ⟨rfl, hterms⟩) ha tx q

end PendingQueue

namespace Queued

/-- An act that leaves the queue as it is leaves a world with the queue as it is. -/
theorem onQueue_of_eq {x : Act LogLine PendingQueue α} {w : Queued ρ} {r : Except Fault α}
    {notes : List LogLine} (h : x w.queue = ⟨r, notes, w.queue⟩) : onQueue x w = ⟨r, notes, w⟩ := by
  unfold onQueue Act.within
  rw [h]

theorem gate_answers {a : Address} (ha : Address.accept (.text a.text) = .ok a) (w : Queued ρ) :
    gate.canQueue a w = ⟨.ok (w.queue.hasRoom a), [], w⟩ ∧
      gate.canSign a w = ⟨.ok (w.queue.hasSigner a), [], w⟩ := by
  obtain ⟨hroom, hsigner⟩ := PendingQueue.gate_answers ha w.queue
  exact ⟨onQueue_of_eq hroom, onQueue_of_eq hsigner⟩

end Queued

/-- A request that is accepted has a sender whose text is accepted, and terms that pass their check. -/
theorem Request.accept_spec {request : Request} {sender : Address} {terms : Terms}
    (h : request.accept = .ok (sender, terms)) :
    Address.accept (.text sender.text) = .ok sender ∧ terms.check = .ok () := by
  obtain ⟨hsender, -, hterms⟩ := (request.accept_eq_ok_iff sender terms).mp h
  exact ⟨Address.accept_text_of_accept hsender, hterms⟩

section

variable {sender : Address} {cached : Option Numeral} {forced : Bool} {s t : Talk}
  {r : Except Fault Unit} {given : Value → Prop} {chain : Int} {account : Key} {ending : Ending}

/-- Nothing is submitted in an admission. -/
theorem Admission.mem_calls_append_iff (h : Admission sender cached forced s r) {nonce : Value}
    {answer : Except Fault Value} :
    Call.send nonce answer ∈ (s ++ t).calls ↔ Call.send nonce answer ∈ t.calls := by
  have hnone : Call.send nonce answer ∉ s.calls :=
    fun hcall => absurd (h.part_eq _ hcall) (by simp [Call.part])
  simp [hnone]

/-- Nothing is submitted in a registration. -/
theorem Registration.send_mem_calls_iff {attached : Bool} {tx : Value} {terms : Terms}
    (h : Registration attached tx terms sender cached t r) {nonce : Value}
    {answer : Except Fault Value} :
    Call.send nonce answer ∈ (s ++ t).calls ↔ Call.send nonce answer ∈ s.calls := by
  have hnone : Call.send nonce answer ∉ t.calls :=
    fun hcall => absurd (h.part_eq _ hcall) (by simp [Call.part])
  simp [hnone]

/-- A settlement at a network of whole numbers has ended with a fault, or a submission has returned
and so does the settlement. -/
theorem Sending.result_cases {r : Except Fault Value}
    (h : Sending Value.IsWhole chain account cached t ending) (hending : ending.result = r) :
    (∃ e, r = .error e ∧ ending = .failed e) ∨ ∃ nonce tx, r = .ok tx ∧ ending = .sent nonce tx := by
  cases ending with
  | failed e => exact .inl ⟨e, hending.symm, rfl⟩
  | sent nonce tx =>
    obtain ⟨n, rfl, -⟩ := h.origin
    rw [Ending.result_sent, Nonce.next_ofNumeral] at hending
    exact .inr ⟨_, tx, hending.symm, rfl⟩

/-- The kinds of fault with which the queue refuses a sender. -/
def refusals : List Family := [.queueFull, .noSigners]

/-- A settlement makes none of the faults with which the queue refuses a sender. -/
theorem Fault.not_isMade {e : Fault} {family : Family} (hfamily : family ∈ refusals)
    (hkind : e.kind = .own family) : ¬ e.IsMade := by
  rintro (rfl | ⟨made, hmade, hkind'⟩)
  · exact absurd hkind (by simp [tooManyDigits, badValue, foreign])
  · obtain rfl := FaultKind.own.inj (hkind.symm.trans hkind')
    exact absurd hfamily (by revert hmade; cases family <;> decide)

end

/-! ## 2.  Shipments -/

/-- An act leaves the queue as it is. -/
def Act.KeepsQueue (x : Act ν (Queued ρ) α) : Prop := ∀ w, (x w).next.queue = w.queue

/-- A request with those who work on it beside the queue. -/
structure Shipment (ρ : Type) where
  answer : Int → Value → Act LogLine (Queued ρ) Int
  sink : Option (ErrorSink LogLine (Queued ρ))
  chain : Int
  request : Request
  send : SendCallback LogLine (Queued ρ)
  answer_keeps (chain : Int) (account : Value) : (answer chain account).KeepsQueue
  send_keeps (nonce : Value) : (send nonce).KeepsQueue

namespace Shipment

/-- The request is dispatched with the queue as the gate. -/
def act (s : Shipment ρ) : Act (Deed LogLine) (Desk (Queued ρ)) Value :=
  Desk.dispatch Queued.gate (.whole s.answer) s.sink s.chain s.request s.send

/-- What is heard of it. -/
def talk (s : Shipment ρ) (d : Desk (Queued ρ)) : Talk :=
  Desk.dispatchTalk Queued.gate (.whole s.answer) s.sink s.chain s.request s.send d

/-- The sink has not its hands on the queue. -/
def SparesQueue (s : Shipment ρ) : Prop := ∀ tell ∈ s.sink, ∀ e, (tell e).KeepsQueue

/-- What follows a transaction that is out and whose entry is to wait in the queue: what is heard, what
the dispatch comes to, and the queue at its end. -/
inductive Follows (s : Shipment ρ) (q : PendingQueue) (tx : Value) (entry : Entry) (t : Talk) :
    Except Fault Value → PendingQueue → Prop
  | registered (hchain : Literal.isWritable s.chain = true) (htell : q.canTell tx = true)
      (hgate : t.registrations = [(tx, .ok ())]) (hsink : t.tellings = []) :
      Follows s q tx entry t (.ok tx) (q.append entry)
  | unlogged (hchain : Literal.isWritable s.chain = false) (hgate : t.registrations = [])
      (hsink : t.tellings = []) : Follows s q tx entry t (.error .tooManyDigits) q
  | unheard (hchain : Literal.isWritable s.chain = true) (htell : q.canTell tx = false)
      (hgate : t.registrations = [(tx, .error .tooManyDigits)]) (hattached : s.sink = none)
      (hsink : t.tellings = []) : Follows s q tx entry t (.ok tx) (q.append entry)
  | reported {report : Fault} {answer : Except Fault Unit} {q' : PendingQueue}
      (hchain : Literal.isWritable s.chain = true) (htell : q.canTell tx = false)
      (hgate : t.registrations = [(tx, .error .tooManyDigits)]) (hattached : s.sink.isSome = true)
      (hreport : Desk.notRegistered .tooManyDigits = .ok report)
      (hsink : t.tellings = [(report, answer)]) (hqueue : s.SparesQueue → q' = q.append entry) :
      Follows s q tx entry t (answer.map fun _ => tx) q'

/-- The ways in which a dispatch may go with the queue as the gate: what is heard, what it comes to,
and the queue at its end. -/
inductive Comes (s : Shipment ρ) (q : PendingQueue) :
    Talk → Except Fault Value → PendingQueue → Prop
  | declined {why : RequestError} (haccept : s.request.accept = .error why) :
      Comes s q [] (.error why.fault) q
  | refused {sender : Address} {terms : Terms} {t : Talk} {e : Fault}
      (haccept : s.request.accept = .ok (sender, terms)) (hforced : s.request.isForced = false)
      (hverdict : q.verdict sender = .error e) (hpart : ∀ call ∈ t.calls, call.part = .admission) :
      Comes s q t (.error e) q
  | failed {sender : Address} {terms : Terms} {t : Talk} {e : Fault}
      (haccept : s.request.accept = .ok (sender, terms))
      (hverdict : s.request.isForced = false → q.verdict sender = .ok ())
      (hpart : ∀ call ∈ t.calls, call.part ≠ .registration)
      (hunsent : ∀ nonce tx, Call.send nonce (.ok tx) ∉ t.calls)
      (hkind : ∀ family ∈ refusals, e.kind = .own family → t.BringsUp .settlement e) :
      Comes s q t (.error e) q
  | sent {sender : Address} {terms : Terms} {t : Talk} {nonce tx : Value} {r : Except Fault Value}
      {q' : PendingQueue} (haccept : s.request.accept = .ok (sender, terms))
      (hverdict : s.request.isForced = false → q.verdict sender = .ok ())
      (hsent : ∀ nonce' tx', Call.send nonce' (.ok tx') ∈ t.calls ↔ nonce = nonce' ∧ tx = tx')
      (hfollows : Follows s q tx ⟨tx, terms, sender, 0⟩ t r q') :
      Comes s q t r q'

end Shipment

namespace Desk

variable {request : Request} {sender : Address} {terms : Terms} {d d' : Desk (Queued ρ)}

/-- An accepted sender is let in as the queue says, and nothing is changed by asking. -/
theorem admitting_queue_goes (ha : Address.accept (.text sender.text) = .ok sender)
    (request : Request) (d : Desk (Queued ρ)) :
    ∃ t, Goes (admitting (Queued.gate (ρ := ρ)).heard request sender) d
      (if request.isForced then .ok () else d.world.queue.verdict sender) t d := by
  obtain ⟨hroom, hsigner⟩ := Queued.gate_answers ha d.world
  have hafterRoom : afterRoom Queued.gate sender d = d := by rw [afterRoom, hroom]
  have hafterSigner : afterSigner Queued.gate sender d = d := by rw [afterSigner, hsigner]
  have hfirst := needRoom_goes Queued.gate sender d
  have hsecond := needSigner_goes Queued.gate sender d
  rw [hafterRoom, hroom] at hfirst
  rw [hafterSigner, hsigner] at hsecond
  unfold admitting
  cases request.isForced with
  | true => exact ⟨_, goes_pure () d⟩
  | false =>
    simp only [Bool.false_eq_true, if_false, PendingQueue.verdict]
    cases hhas : d.world.queue.hasRoom sender with
    | false =>
      rw [hhas] at hfirst
      exact ⟨_, hfirst.bind_error⟩
    | true =>
      rw [hhas] at hfirst
      cases hsigns : d.world.queue.hasSigner sender with
      | false =>
        rw [hsigns] at hsecond
        exact ⟨_, hfirst.bind hsecond⟩
      | true =>
        rw [hsigns] at hsecond
        exact ⟨_, hfirst.bind hsecond⟩

/-- Who has been let in has the word of the queue, or needed none. -/
theorem Goes.queue_admitted {t : Talk}
    (h : Goes (admitting (Queued.gate (ρ := ρ)).heard request sender) d (.ok ()) t d')
    (ha : Address.accept (.text sender.text) = .ok sender) :
    (request.isForced = false → d.world.queue.verdict sender = .ok ()) ∧ d' = d := by
  obtain ⟨t', hgoes⟩ := admitting_queue_goes ha request d
  have hresult := h.result.symm.trans hgoes.result
  refine ⟨fun hforced => ?_, h.next.symm.trans hgoes.next⟩
  rw [hforced] at hresult
  exact hresult.symm

/-- Who has been refused was refused by the queue. -/
theorem Goes.queue_refused {e : Fault} {t : Talk}
    (h : Goes (admitting (Queued.gate (ρ := ρ)).heard request sender) d (.error e) t d')
    (ha : Address.accept (.text sender.text) = .ok sender) :
    request.isForced = false ∧ d.world.queue.verdict sender = .error e ∧ d' = d := by
  obtain ⟨t', hgoes⟩ := admitting_queue_goes ha request d
  have hresult := h.result.symm.trans hgoes.result
  cases hforced : request.isForced with
  | true =>
    rw [hforced] at hresult
    exact absurd hresult (by simp)
  | false =>
    rw [hforced] at hresult
    exact ⟨rfl, hresult.symm, h.next.symm.trans hgoes.next⟩

/-- A settlement leaves the queue as it is if the network and the callback do. -/
theorem Goes.queue_settle {answer : Int → Value → Act LogLine (Queued ρ) Int}
    {send : SendCallback LogLine (Queued ρ)} {chain : Int} {account : Key} {r : Except Fault Value}
    {t : Talk} (hanswer : ∀ chain account, (answer chain account).KeepsQueue)
    (hsend : ∀ nonce, (send nonce).KeepsQueue)
    (h : Goes (settle (NonceSource.whole answer).heard chain account send.heard) d r t d') :
    d'.world.queue = d.world.queue := by
  have hsource (d : Desk (Queued ρ)) :
      (NonceSource.whole answer chain account.value d.world).next.queue = d.world.queue := by
    rw [NonceSource.whole, Act.map_eq]
    exact hanswer chain account.value d.world
  have htracks : Tracks (fun d : Desk (Queued ρ) => d.world.queue) (fun _ q => q)
      (settle (NonceSource.whole answer).heard chain account send.heard) := by
    refine tracks_settle (tracks_lookup hsource) (tracks_secondNonce hsource) (fun nonce => ?_)
      fun nonce => ?_
    · refine (tracks_note rfl fun _ => rfl).bind fun _ => Tracks.bind ?_ fun _ => tracks_pure _
      exact tracks_outside fun d => hsend nonce d.world
    · exact (tracks_ofExcept _).bind fun _ => tracks_change fun _ => rfl
  exact h.next ▸ htracks.still d

section

variable {sink : Option (ErrorSink LogLine (Queued ρ))} {tx : Value} {r : Except Fault Unit} {t : Talk}
  (ha : Address.accept (.text sender.text) = .ok sender) (hterms : terms.check = .ok ())

include ha hterms

/-- **What has been accepted is registered**, and the queue has one entry more. -/
theorem Goes.queue_registered
    (h : Goes (register (Queued.gate (ρ := ρ)).heard (sink.map ErrorSink.heard) tx terms sender) d r
      t d') (htell : d.world.queue.canTell tx = true) :
    r = .ok () ∧ t = Talk.registers tx terms sender (d.book.get? sender.key) (.ok ()) ∧
      d'.world.queue = d.world.queue.append ⟨tx, terms, sender, 0⟩ := by
  have hresult := PendingQueue.result_gate_insert ha hterms tx d.world.queue
  rw [if_pos htell] at hresult
  have hgoes : Goes (register (Queued.gate (ρ := ρ)).heard (sink.map ErrorSink.heard) tx terms sender)
      d _ _ _ := register_goes_ok hresult
  refine ⟨h.result.symm.trans hgoes.result, h.said.symm.trans hgoes.said, ?_⟩
  rw [h.next.symm.trans hgoes.next]
  exact PendingQueue.next_gate_insert ha hterms tx d.world.queue

/-- If the log cannot be told, and there is no sink, then the queue has one entry more, although it
says that it has failed. -/
theorem Goes.queue_unheard
    (h : Goes (register (Queued.gate (ρ := ρ)).heard none tx terms sender) d r t d')
    (htell : d.world.queue.canTell tx = false) :
    r = .ok () ∧
      t = Talk.registers tx terms sender (d.book.get? sender.key) (.error .tooManyDigits) ∧
      d'.world.queue = d.world.queue.append ⟨tx, terms, sender, 0⟩ := by
  have hresult := PendingQueue.result_gate_insert ha hterms tx d.world.queue
  rw [if_neg (by simp [htell])] at hresult
  have hgoes : Goes (register (Queued.gate (ρ := ρ)).heard none tx terms sender) d _ _ _ :=
    register_goes_unheard hresult rfl (notRegistered_of_askText rfl)
  refine ⟨h.result.symm.trans hgoes.result, h.said.symm.trans hgoes.said, ?_⟩
  rw [h.next.symm.trans hgoes.next]
  exact PendingQueue.next_gate_insert ha hterms tx d.world.queue

/-- If there is a sink, then it is told. -/
theorem Goes.queue_reported {tell : ErrorSink LogLine (Queued ρ)}
    (h : Goes (register (Queued.gate (ρ := ρ)).heard (some tell.heard) tx terms sender) d r t d')
    (htell : d.world.queue.canTell tx = false) :
    ∃ report, notRegistered .tooManyDigits = .ok report ∧
      t = Talk.registers tx terms sender (d.book.get? sender.key) (.error .tooManyDigits) ++
        Talk.reports report r ∧
      ((∀ e, (tell e).KeepsQueue) →
        d'.world.queue = d.world.queue.append ⟨tx, terms, sender, 0⟩) := by
  have hresult := PendingQueue.result_gate_insert ha hterms tx d.world.queue
  rw [if_neg (by simp [htell])] at hresult
  have hreport := notRegistered_of_askText (e := .tooManyDigits) rfl
  have hgoes : Goes (register (Queued.gate (ρ := ρ)).heard (some tell.heard) tx terms sender) d _ _ _ :=
    register_goes_reported tell hresult rfl hreport
  refine ⟨_, hreport, ?_, fun hkeeps => ?_⟩
  · rw [h.result.symm.trans hgoes.result]
    exact h.said.symm.trans hgoes.said
  · rw [h.next.symm.trans hgoes.next]
    exact (hkeeps _ _).trans (PendingQueue.next_gate_insert ha hterms tx d.world.queue)

end

end Desk

namespace Shipment

section

variable {s : Shipment ρ} {sender : Address} {terms : Terms} {cached cached' : Option Numeral}
  {ending : Ending} {t₁ t₂ t₃ : Talk} {d d₁ d₂ d₃ : Desk (Queued ρ)}

/-- A dispatch whose settlement fails has sent nothing and leaves the queue as it is. -/
theorem comes_failed {e : Fault} (haccept : s.request.accept = .ok (sender, terms))
    (hadmission : Admission sender cached s.request.isForced t₁ (.ok ()))
    (hadmitting : Desk.Goes (Desk.admitting Queued.gate.heard s.request sender) d (.ok ()) t₁ d₁)
    (hsending : Sending Value.IsWhole s.chain sender.key cached' t₂ ending)
    (hending : ending.result = .error e)
    (hsettle : Desk.Goes
      (Desk.settle (NonceSource.whole s.answer).heard s.chain sender.key s.send.heard) d₁ (.error e)
        t₂ d₂) :
    Comes s d.world.queue (t₁ ++ t₂) (.error e) d₂.world.queue := by
  obtain ⟨hverdict, rfl⟩ := hadmitting.queue_admitted (Request.accept_spec haccept).1
  -- with whole numbers only a settlement that has sent nothing fails
  obtain ⟨f, hf, rfl⟩ | ⟨nonce, tx, htx, -⟩ := hsending.result_cases hending
  · obtain rfl := Except.error.inj hf
    rw [hsettle.queue_settle s.answer_keeps s.send_keeps]
    refine .failed haccept hverdict (hadmission.before_registration hsending) ?_ ?_
    · intro nonce tx
      rw [hadmission.mem_calls_append_iff, hsending.mem_calls_iff]
      simp
    · intro family hfamily hkind
      exact Talk.bringsUp_append.mpr
        (.inr (hsending.bringsUp_of_failed (Fault.not_isMade hfamily hkind)))
  · exact absurd htx (by simp)

/-- With whole numbers a settlement that has returned has sent its transaction, and leaves the queue as
it is. -/
theorem sent_of_returned {tx : Value} (haccept : s.request.accept = .ok (sender, terms))
    (hadmission : Admission sender cached s.request.isForced t₁ (.ok ()))
    (hadmitting : Desk.Goes (Desk.admitting Queued.gate.heard s.request sender) d (.ok ()) t₁ d₁)
    (hsending : Sending Value.IsWhole s.chain sender.key cached' t₂ ending)
    (hending : ending.result = .ok tx)
    (hsettle : Desk.Goes
      (Desk.settle (NonceSource.whole s.answer).heard s.chain sender.key s.send.heard) d₁ (.ok tx)
        t₂ d₂) :
    (s.request.isForced = false → d.world.queue.verdict sender = .ok ()) ∧
      d₂.world.queue = d.world.queue ∧
      ∃ nonce, ∀ nonce' tx', Call.send nonce' (.ok tx') ∈ (t₁ ++ t₂).calls ↔
        nonce = nonce' ∧ tx = tx' := by
  obtain ⟨hverdict, rfl⟩ := hadmitting.queue_admitted (Request.accept_spec haccept).1
  obtain ⟨e, he, -⟩ | ⟨nonce, tx', htx, rfl⟩ := hsending.result_cases hending
  · exact absurd he (by simp)
  · obtain rfl := Except.ok.inj htx
    refine ⟨hverdict, hsettle.queue_settle s.answer_keeps s.send_keeps, nonce, ?_⟩
    intro nonce' tx'
    rw [hadmission.mem_calls_append_iff, hsending.mem_calls_iff]
    simp

/-- A registration is all that follows a transaction that is out. -/
theorem follows_register {s₁ : Talk} {tx : Value} {r : Except Fault Unit}
    (ha : Address.accept (.text sender.text) = .ok sender) (hterms : terms.check = .ok ())
    (hchain : Literal.isWritable s.chain = true)
    (hbefore : ∀ call ∈ s₁.calls, call.part ≠ .registration)
    (hregister : Desk.Goes
      (Desk.register Queued.gate.heard (s.sink.map ErrorSink.heard) tx terms sender) d r t₃ d₃) :
    Follows s d.world.queue tx ⟨tx, terms, sender, 0⟩ (s₁ ++ t₃) (r.map fun _ => tx)
      d₃.world.queue := by
  have hregistrations := Talk.registrations_after hbefore t₃
  have htellings := Talk.tellings_after hbefore t₃
  cases htell : d.world.queue.canTell tx with
  | true =>
    obtain ⟨rfl, rfl, hqueue⟩ := hregister.queue_registered ha hterms htell
    rw [hqueue]
    exact .registered hchain htell hregistrations htellings
  | false =>
    cases hattached : s.sink with
    | none =>
      rw [hattached] at hregister
      obtain ⟨rfl, rfl, hqueue⟩ := hregister.queue_unheard ha hterms htell
      rw [hqueue]
      exact .unheard hchain htell hregistrations hattached htellings
    | some tell =>
      rw [hattached] at hregister
      obtain ⟨report, hreport, rfl, hqueue⟩ := hregister.queue_reported ha hterms htell
      refine .reported hchain htell hregistrations (by simp [hattached]) hreport htellings ?_
      exact fun hspares => hqueue (hspares tell (by simp [hattached]))

end

/-- **With the queue as the gate a dispatch goes in one of four ways.** -/
theorem comes (s : Shipment ρ) (d : Desk (Queued ρ)) :
    Comes s d.world.queue (s.talk d) (s.act d).result (s.act d).next.world.queue := by
  have hphases := Desk.dispatch_phases Queued.gate (.whole s.answer) s.sink s.chain s.request s.send d
  rw [talk, act]
  generalize Desk.dispatchTalk Queued.gate (.whole s.answer) s.sink s.chain s.request s.send d = t at *
  generalize (Desk.dispatch Queued.gate (.whole s.answer) s.sink s.chain s.request s.send d).result = r
    at *
  generalize (Desk.dispatch Queued.gate (.whole s.answer) s.sink s.chain s.request s.send d).next = d'
    at *
  cases hphases with
  | declined haccept =>
    rw [Desk.world_tallied]
    exact .declined haccept
  | refused haccept hadmission hadmitting =>
    obtain ⟨hforced, hverdict, rfl⟩ := hadmitting.queue_refused (Request.accept_spec haccept).1
    rw [Desk.world_tallied]
    exact .refused haccept hforced hverdict hadmission.part_eq
  | failed haccept hadmission hadmitting hsending hending hsettle =>
    rw [Desk.world_tallied]
    exact comes_failed haccept hadmission hadmitting
      (hsending.mono fun _ => NonceSource.isWhole_of_gives) hending hsettle
  | @unlogged sender terms t₁ t₂ ending tx e d₁ d₂ haccept hadmission hadmitting hsending hending
      hsettle hline =>
    have hwhole := hsending.mono fun _ => NonceSource.isWhole_of_gives
    obtain ⟨hverdict, hqueue, nonce, hsent⟩ :=
      sent_of_returned haccept hadmission hadmitting hwhole hending hsettle
    have hbefore := hadmission.before_registration hsending
    obtain rfl := Desk.eq_tooManyDigits_of_sentLine hline
    refine .sent haccept hverdict hsent ?_
    show Follows s d.world.queue tx _ _ _ d₂.world.queue
    rw [hqueue]
    exact .unlogged (Desk.isWritable_of_sentLine_error hline) (Talk.registrations_eq_nil hbefore)
      (Talk.tellings_eq_nil hbefore)
  | @sent sender terms t₁ t₂ t₃ ending tx r d₁ d₂ _ haccept hadmission hadmitting hsending hending
      hsettle hline hregistration hregister =>
    have hwhole := hsending.mono fun _ => NonceSource.isWhole_of_gives
    obtain ⟨hverdict, hqueue, nonce, hsent⟩ :=
      sent_of_returned haccept hadmission hadmitting hwhole hending hsettle
    obtain ⟨ha, hterms⟩ := Request.accept_spec haccept
    have hfollows : Follows s d₂.world.queue tx _ (t₁ ++ t₂ ++ t₃) _ d'.world.queue :=
      follows_register (d := Desk.afterSent d₂) ha hterms ((Desk.exists_sentLine_iff sender s.chain).mp hline)
        (hadmission.before_registration hsending) hregister
    rw [hqueue] at hfollows
    have hsent' (nonce' tx' : Value) :
        Call.send nonce' (.ok tx') ∈ (t₁ ++ t₂ ++ t₃).calls ↔ nonce = nonce' ∧ tx = tx' :=
      hregistration.send_mem_calls_iff.trans (hsent nonce' tx')
    exact .sent haccept hverdict hsent' hfollows

end Shipment

/-! ## 3.  What is promised of every dispatch -/

/-- The request is accepted and may not skip the queue, and its sender has as many entries as there
may be. -/
def Request.FindsFull (request : Request) (q : PendingQueue) : Prop :=
  request.isForced = false ∧ ∃ sender terms, request.accept = .ok (sender, terms) ∧ q.isFull sender

/-- The request is accepted and may not skip the queue, and its sender has fewer entries, but no
signer. -/
def Request.FindsUnsigned (request : Request) (q : PendingQueue) : Prop :=
  request.isForced = false ∧ ∃ sender terms, request.accept = .ok (sender, terms) ∧
    ¬ q.isFull sender ∧ q.hasSigner sender = false

/-- A dispatch is refused by the queue: it ends with a fault of the family, and nobody but the queue
has been asked. -/
def Talk.IsRefused (family : Family) (t : Talk) (r : Except Fault Value) : Prop :=
  (∀ call ∈ t.calls, call.part = .admission) ∧ ∃ e, r = .error e ∧ e.kind = .own family

/-- What is promised of a dispatch with a queue as the gate.  It begins at the queue `q` and ends at
the queue `q'`, with the result `r` after a conversation. -/
structure IsHandled (s : Shipment ρ) (q : PendingQueue) (t : Talk) (r : Except Fault Value)
    (q' : PendingQueue) : Prop where
  /-- A transaction that the callback has given has its entry at the end of its sender's line and is
  returned, and nothing is reported, as far as the log can be told of it. -/
  sent (nonce tx : Value) : Call.send nonce (.ok tx) ∈ t.calls →
    ∃ sender terms, s.request.accept = .ok (sender, terms) ∧
      s.Follows q tx ⟨tx, terms, sender, 0⟩ t r q'
  /-- If no transaction has been given, the dispatch fails, nothing is registered or reported, and the
  queue is left as it was. -/
  unsent : (∀ nonce tx, Call.send nonce (.ok tx) ∉ t.calls) →
    (∃ e, r = .error e) ∧ t.registrations = [] ∧ t.tellings = [] ∧ q' = q
  /-- A dispatch that fails leaves the queue as it was, unless it is the sink that has failed. -/
  failed (e : Fault) : r = .error e → q' = q ∨ ∃ report, (report, .error e) ∈ t.tellings
  /-- Who is refused because the queue is full has found it so. -/
  full : t.IsRefused .queueFull r ↔ s.request.FindsFull q
  /-- Who is refused because of a missing signer has found none, but room. -/
  unsigned : t.IsRefused .noSigners r ↔ s.request.FindsUnsigned q
  /-- A fault like these that is no refusal has been brought up by the network or the callback, or it
  is the sink that has failed with it. -/
  foreign (family : Family) (e : Fault) : family ∈ refusals → r = .error e → e.kind = .own family →
    t.IsRefused family r ∨ t.BringsUp .settlement e ∨ ∃ report, (report, .error e) ∈ t.tellings
  /-- Who has not skipped the queue has found room, and has one entry more. -/
  within (tx : Value) : s.request.isForced = false → r = .ok tx →
    ∃ sender terms, s.request.accept = .ok (sender, terms) ∧ ¬ q.isFull sender ∧
      (t.tellings = [] ∨ s.SparesQueue →
        (q'.pendingOf sender).length = (q.pendingOf sender).length + 1 ∧
          ∀ limit, q.capacity.amount = .whole limit → (q'.pendingOf sender).length ≤ limit)

section

variable {s : Shipment ρ} {request : Request} {sender : Address} {terms : Terms}
  {q q' : PendingQueue} {t : Talk} {r : Except Fault Value}

namespace Request

theorem not_findsFull_of_declined {why : RequestError} (h : request.accept = .error why) :
    ¬ request.FindsFull q := by
  simp [FindsFull, h]

theorem not_findsUnsigned_of_declined {why : RequestError} (h : request.accept = .error why) :
    ¬ request.FindsUnsigned q := by
  simp [FindsUnsigned, h]

theorem findsFull_iff (h : request.accept = .ok (sender, terms)) :
    request.FindsFull q ↔ request.isForced = false ∧ q.isFull sender := by
  simp [FindsFull, h]

theorem findsUnsigned_iff (h : request.accept = .ok (sender, terms)) :
    request.FindsUnsigned q ↔
      request.isForced = false ∧ ¬ q.isFull sender ∧ q.hasSigner sender = false := by
  simp [FindsUnsigned, h]

/-- A request that the queue lets in, or that skips it, finds room and a signer. -/
theorem not_finds_of_verdict (haccept : request.accept = .ok (sender, terms))
    (hverdict : request.isForced = false → q.verdict sender = .ok ()) :
    ¬ request.FindsFull q ∧ ¬ request.FindsUnsigned q := by
  rw [findsFull_iff haccept, findsUnsigned_iff haccept]
  constructor
  · rintro ⟨hforced, hfull⟩
    obtain ⟨hroom, -⟩ := PendingQueue.verdict_eq_ok_iff.mp (hverdict hforced)
    exact PendingQueue.isFull_iff.mp hfull hroom
  · rintro ⟨hforced, -, hunsigned⟩
    obtain ⟨-, hsigner⟩ := PendingQueue.verdict_eq_ok_iff.mp (hverdict hforced)
    exact absurd hsigner (by simp [hunsigned])

end Request

/-- A dispatch that fails is as promised if nothing has been sent or registered, and if its fault is
the one that the queue calls for. -/
theorem isHandled_of_error {e : Fault}
    (hunsent : ∀ nonce tx, Call.send nonce (.ok tx) ∉ t.calls)
    (hpart : ∀ call ∈ t.calls, call.part ≠ .registration)
    (hfull : t.IsRefused .queueFull (.error e) ↔ s.request.FindsFull q)
    (hunsigned : t.IsRefused .noSigners (.error e) ↔ s.request.FindsUnsigned q)
    (hforeign : ∀ family ∈ refusals, e.kind = .own family →
      t.IsRefused family (.error e) ∨ t.BringsUp .settlement e) :
    IsHandled s q t (.error e) q where
  sent nonce tx hcall := absurd hcall (hunsent nonce tx)
  unsent _ := ⟨⟨e, rfl⟩, Talk.registrations_eq_nil hpart, Talk.tellings_eq_nil hpart, rfl⟩
  failed _ _ := .inl rfl
  full := hfull
  unsigned := hunsigned
  foreign family e' hfamily he hkind := by
    obtain rfl := Except.error.inj he
    exact (hforeign family hfamily hkind).imp_right .inl
  within tx _ hr := absurd hr (by simp)

/-- What follows a transaction that is out either leaves a fault to the sink or is no refusal. -/
theorem Shipment.Follows.failed {tx : Value} {entry : Entry} {e : Fault}
    (h : s.Follows q tx entry t (.error e) q') :
    (e = .tooManyDigits ∧ q' = q) ∨ ∃ report, (report, .error e) ∈ t.tellings := by
  generalize hr : (.error e : Except Fault Value) = r at h
  cases h with
  | registered => exact absurd hr (by simp)
  | unlogged => exact .inl ⟨Except.error.inj hr, rfl⟩
  | unheard => exact absurd hr (by simp)
  | @reported report answer q' hchain htell hgate hattached hreport hsink hqueue =>
    cases answer with
    | ok u => exact absurd hr (by simp [Except.map])
    | error f =>
      obtain rfl : e = f := by simpa [Except.map] using hr
      exact .inr ⟨report, by simp [hsink]⟩

/-- A transaction that is out and returned waits, if the sink spares the queue. -/
theorem Shipment.Follows.returned {tx tx' : Value} {entry : Entry}
    (h : s.Follows q tx entry t (.ok tx') q') (hspares : t.tellings = [] ∨ s.SparesQueue) :
    q' = q.append entry := by
  generalize hr : (.ok tx' : Except Fault Value) = r at h
  cases h with
  | registered => rfl
  | unlogged => exact absurd hr (by simp)
  | unheard => rfl
  | reported hchain htell hgate hattached hreport hsink hqueue =>
    exact hqueue (hspares.resolve_left (by simp [hsink]))

/-- Only what is sent on a chain that can be written is returned. -/
theorem Shipment.Follows.isWritable_of_returned {tx tx' : Value} {entry : Entry}
    (h : s.Follows q tx entry t r q') (hr : r = .ok tx') : Literal.isWritable s.chain = true := by
  cases h with
  | registered hchain => exact hchain
  | unlogged => exact absurd hr (by simp)
  | unheard hchain => exact hchain
  | reported hchain => exact hchain

/-- A dispatch that has sent a transaction is as promised. -/
theorem isHandled_of_sent {nonce tx : Value} (haccept : s.request.accept = .ok (sender, terms))
    (hverdict : s.request.isForced = false → q.verdict sender = .ok ())
    (hsent : ∀ nonce' tx', Call.send nonce' (.ok tx') ∈ t.calls ↔ nonce = nonce' ∧ tx = tx')
    (hfollows : s.Follows q tx ⟨tx, terms, sender, 0⟩ t r q') : IsHandled s q t r q' := by
  have hcall : Call.send nonce (.ok tx) ∈ t.calls := (hsent nonce tx).mpr ⟨rfl, rfl⟩
  -- nobody but the queue has been asked in a refusal, and here the callback has
  have hnot (family : Family) : ¬ t.IsRefused family r := fun hrefused =>
    absurd (hrefused.1 _ hcall) (by simp [Call.part])
  obtain ⟨hfull, hunsigned⟩ := Request.not_finds_of_verdict haccept hverdict
  constructor
  case sent =>
    intro nonce' tx' hcall'
    obtain ⟨-, rfl⟩ := (hsent nonce' tx').mp hcall'
    exact ⟨sender, terms, haccept, hfollows⟩
  case unsent => exact fun hunsent => absurd hcall (hunsent nonce tx)
  case failed =>
    rintro e rfl
    exact hfollows.failed.imp_left And.right
  case full => exact iff_of_false (hnot _) hfull
  case unsigned => exact iff_of_false (hnot _) hunsigned
  case foreign =>
    rintro family e hfamily rfl hkind
    obtain ⟨rfl, -⟩ | htold := hfollows.failed
    · exact absurd hkind (by simp [Fault.tooManyDigits, Fault.badValue, Fault.foreign])
    · exact .inr (.inr htold)
  case within =>
    rintro tx' hforced rfl
    obtain ⟨hroom, -⟩ := PendingQueue.verdict_eq_ok_iff.mp (hverdict hforced)
    have hnotFull : ¬ q.isFull sender := fun h => PendingQueue.isFull_iff.mp h hroom
    refine ⟨sender, terms, haccept, hnotFull, fun hspares => ?_⟩
    have hlength : (q'.pendingOf sender).length = (q.pendingOf sender).length + 1 := by
      simp [hfollows.returned hspares]
    refine ⟨hlength, fun limit hlimit => ?_⟩
    have hlt : ((q.pendingOf sender).length : Int) < limit := by
      simpa [PendingQueue.hasRoom, Capacity.admits, hlimit] using hroom
    omega

/-- **Every dispatch is as promised.** -/
theorem Shipment.Comes.isHandled (h : s.Comes q t r q') : IsHandled s q t r q' := by
  cases h with
  | @declined why haccept =>
    have hother (family : Family) (hfamily : family ∈ refusals) :
        why.fault.kind ≠ .own family := by
      refine why.kind_fault_ne ?_
      rintro rfl
      exact absurd hfamily (by decide)
    have hnot (family : Family) (hfamily : family ∈ refusals) :
        ¬ Talk.IsRefused family [] (.error why.fault) := by
      rintro ⟨-, e, he, hkind⟩
      exact hother family hfamily (Except.error.inj he ▸ hkind)
    exact isHandled_of_error (fun _ _ => List.not_mem_nil) (fun _ hcall => absurd hcall List.not_mem_nil)
      (iff_of_false (hnot _ (by decide)) (Request.not_findsFull_of_declined haccept))
      (iff_of_false (hnot _ (by decide)) (Request.not_findsUnsigned_of_declined haccept))
      fun family hfamily hkind => absurd hkind (hother family hfamily)
  | @refused sender terms t e haccept hforced hverdict hpart =>
    have hrefused (family : Family) : t.IsRefused family (.error e) ↔ e.kind = .own family :=
      ⟨fun ⟨_, e', he, hkind⟩ => Except.error.inj he ▸ hkind, fun hkind => ⟨hpart, e, rfl, hkind⟩⟩
    refine isHandled_of_error (fun nonce tx hcall => ?_) (fun call hcall => ?_) ?_ ?_ ?_
    · exact absurd (hpart _ hcall) (by simp [Call.part])
    · simp [hpart call hcall]
    · rw [hrefused, Request.findsFull_iff haccept, PendingQueue.full_of_verdict hverdict,
        PendingQueue.isFull_iff, and_iff_right hforced]
    · rw [hrefused, Request.findsUnsigned_iff haccept, PendingQueue.unsigned_of_verdict hverdict,
        PendingQueue.isFull_iff, not_not, and_iff_right hforced]
    · exact fun family _ hkind => .inl ((hrefused family).mpr hkind)
  | @failed sender terms t e haccept hverdict hpart hunsent hkind =>
    obtain ⟨hfull, hunsigned⟩ := Request.not_finds_of_verdict haccept hverdict
    have hnot (family : Family) (hfamily : family ∈ refusals) :
        ¬ t.IsRefused family (.error e) := by
      rintro ⟨honly, e', he, hkind'⟩
      obtain rfl := Except.error.inj he
      exact Talk.not_bringsUp honly (by decide) (hkind family hfamily hkind')
    exact isHandled_of_error hunsent hpart (iff_of_false (hnot _ (by decide)) hfull)
      (iff_of_false (hnot _ (by decide)) hunsigned)
      fun family hfamily hk => .inr (hkind family hfamily hk)
  | sent haccept hverdict hsent hfollows =>
    exact isHandled_of_sent haccept hverdict hsent hfollows

end

/-! ## 4.  Runs -/

/-- A step of a run: a request is dispatched with the queue as the gate, or something is asked of the
queue itself. -/
inductive QueuedStep (ρ : Type) where
  | ship (shipment : Shipment ρ)
  | ask (op : PendingQueue.Operation)

namespace QueuedStep

/-- The desk after a step. -/
def after (d : Desk (Queued ρ)) : QueuedStep ρ → Desk (Queued ρ)
  | .ship shipment => (shipment.act d).next
  | .ask op => (Desk.outside (Queued.onQueue op.act) d).next

/-- The desk after several steps. -/
def afterAll (d : Desk (Queued ρ)) (steps : List (QueuedStep ρ)) : Desk (Queued ρ) :=
  steps.foldl after d

/-- **Every dispatch of every run is as promised.**  The run begins at any desk with any queue, and
dispatches and operations on the queue follow in any order. -/
theorem isHandled_afterAll (start : Desk (Queued ρ)) (steps : List (QueuedStep ρ))
    (shipment : Shipment ρ) :
    IsHandled shipment (afterAll start steps).world.queue
      (shipment.talk (afterAll start steps)) (shipment.act (afterAll start steps)).result
      (shipment.act (afterAll start steps)).next.world.queue :=
  (shipment.comes _).isHandled

end QueuedStep

namespace OddPlaces

/-- The account of forty ones. -/
def sender : Address := .uniform (.ofNat 1)

/-- A transaction of the account, which is its nonce. -/
def shipment (chain : Int) (send : SendCallback LogLine (Queued Unit))
    (send_keeps : ∀ nonce, (send nonce).KeepsQueue) : Shipment Unit where
  answer _ _ := pure 5
  sink := none
  chain
  request :=
    { sender := .text "0x1111111111111111111111111111111111111111"
      terms := .terms ⟨.int 2, .int 100, .int 60, .int 5⟩ }
  send
  answer_keeps _ _ _ := rfl
  send_keeps

/-- It is sent. -/
def sent (chain : Int) : Shipment Unit := shipment chain (fun nonce => pure nonce) fun _ _ => rfl

/-- It is not sent, because the callback fails. -/
def unsent : Shipment Unit :=
  shipment 1 (fun _ => .fail (.foreign "RuntimeError" "gone")) fun _ _ => rfl

/-- A desk that knows the nonce of the account, at a queue with a capacity. -/
def desk (capacity : Capacity) : Desk (Queued Unit) :=
  { book := NonceBook.empty.put sender.key (.whole 5)
    world := ⟨{ capacity, signers := [sender] }, ()⟩ }

/-- A capacity that is not a number. -/
def nowhere : Capacity := ⟨.real (.nan 0 0), .real (.nan 0 0), rfl⟩

/-- One and a half. -/
def between : Capacity :=
  ⟨.real (.ofDecimal false 15 (-1)), .real (.ofDecimal false 15 (-1)), by decide +kernel⟩

/-- **Not every capacity, and not every number, keeps what has been promised for whole ones that can be
written.**  A queue whose capacity is not a number refuses everyone, although nobody has as many
entries as that; where the capacity is a fraction the last entry goes beyond it; and what is sent on a
chain that cannot be written is not returned. -/
theorem not_always_as_promised :
    (¬ ∀ (d : Desk (Queued Unit)) (s : Shipment Unit), ((s.talk d).IsRefused .queueFull (s.act d).result →
        ∃ sender terms, s.request.accept = .ok (sender, terms) ∧
          d.world.queue.capacity.amount.le (.whole (d.world.queue.pendingOf sender).length) = true)) ∧
      (¬ ∀ (d : Desk (Queued Unit)) (s : Shipment Unit) (sender : Address) (terms : Terms) (tx : Value),
        s.request.isForced = false → s.request.accept = .ok (sender, terms) →
        (s.act d).result = .ok tx →
        Numeral.le (.whole ((s.act d).next.world.queue.pendingOf sender).length)
          d.world.queue.capacity.amount = true) ∧
      ¬ ∀ (d : Desk (Queued Unit)) (s : Shipment Unit) (nonce tx : Value),
        Call.send nonce (.ok tx) ∈ (s.talk d).calls → (s.act d).result = .ok tx := by
  refine ⟨fun h => ?_, fun h => ?_, fun h => ?_⟩
  · have hrefused : (unsent.talk (desk nowhere)).IsRefused .queueFull
        (unsent.act (desk nowhere)).result :=
      (unsent.comes (desk nowhere)).isHandled.full.mpr ⟨rfl, sender, _, rfl, .inl rfl⟩
    obtain ⟨sender', terms, -, hle⟩ := h (desk nowhere) unsent hrefused
    exact absurd hle (by simp [desk, nowhere, Numeral.le, Numeral.cmp?_nan_left])
  · -- the first transaction leaves the line below the capacity, and the second leaves it above
    have hle := h ((sent 1).act (desk between)).next (sent 1) sender _ (.int 6) rfl rfl rfl
    exact absurd hle (by decide +kernel)
  · obtain ⟨room, signer, rest, hcalls⟩ : ∃ room signer rest,
        ((sent Literal.tooLong).talk (desk between)).calls =
          room :: signer :: Call.send (.int 5) (.ok (.int 5)) :: rest := ⟨_, _, _, rfl⟩
    have hcall : Call.send (.int 5) (.ok (.int 5)) ∈
        ((sent Literal.tooLong).talk (desk between)).calls := by simp [hcalls]
    have hresult := h (desk between) (sent Literal.tooLong) (.int 5) (.int 5) hcall
    have hhandled := ((sent Literal.tooLong).comes (desk between)).isHandled
    obtain ⟨_, _, _, hfollows⟩ := hhandled.sent _ _ hcall
    have hchain : Literal.isWritable Literal.tooLong = true :=
      hfollows.isWritable_of_returned hresult
    exact absurd hchain (by simp)

end OddPlaces

end Outbox
