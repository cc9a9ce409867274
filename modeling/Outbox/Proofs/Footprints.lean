import Mathlib.Data.Set.Basic
import Outbox.Proofs.QueuedRuns

/-!
# What an act has to do with which accounts

A desk keeps something for every account: the next nonce, and in the queue of its world a line of
entries and perhaps a signer.  An act that is about some accounts should look at nothing else and change
nothing else, for then what happens to other accounts neither matters to it nor is its doing.

That is what it means for an act to have a set of accounts as its *footprint* (`HasFootprint`).  Begun at
two desks that agree on these accounts (`SameOn`), it ends in the same way, calls its callbacks with the
same nonces, counts the same things and leaves the desks in agreement; and whatever is kept under any
other key it leaves as it was (`ChangesOnly`).

Footprints are kept by every way in which acts are put together, so they need to be shown only of the
acts that touch the desk.  A dispatch has the account of its sender as its footprint
(`dispatch_hasFootprint`), if the network, the callback and the sink are steady: what they answer is
always the same (`Act.IsSteady`).

The queue always registers what the desk has accepted, and the sink is told of it only if the log
cannot be.  Where the log can be told of every transaction that the callback gives, the sink may be
left out, and nothing has to be assumed of it (`dispatch_eq_of_canTell`).

The capacity of the queue belongs to all accounts, and no act here changes it.
-/

namespace Outbox

variable {ν ρ α β : Type}

/-- An act ends in the same way wherever it begins, and leaves the queue as it is. -/
structure Act.IsSteady (x : Act ν (Queued ρ) α) (r : Except Fault α) : Prop where
  result : ∀ w, (x w).result = r
  keeps : x.KeepsQueue

/-- A network always gives the same answer to the same question. -/
def NonceSource.IsSteady (source : NonceSource LogLine (Queued ρ))
    (answer : Int → Value → Except Fault Value) : Prop :=
  ∀ chain account, (source chain account).IsSteady (answer chain account)

/-- What comes of a callback depends on the nonce alone. -/
def SendCallback.IsSteady (send : SendCallback LogLine (Queued ρ))
    (outcome : Value → Except Fault Value) : Prop :=
  ∀ nonce, (send nonce).IsSteady (outcome nonce)

/-- What comes of a sink depends on the fault that it is told of alone. -/
def ErrorSink.IsSteady (tell : ErrorSink LogLine (Queued ρ)) : Prop :=
  ∃ answer : Fault → Except Fault Unit, ∀ e, (tell e).IsSteady (answer e)

/-- The nonces with which callbacks were called. -/
def Deed.nonces (notes : List (Deed ν)) : List Value :=
  notes.filterMap fun
    | .sends nonce => some nonce
    | _ => none

@[simp] theorem Deed.nonces_append (notes notes' : List (Deed ν)) :
    nonces (notes ++ notes') = nonces notes ++ nonces notes' :=
  List.filterMap_append

/-- What a collaborator notes is no call of a callback. -/
@[simp] theorem Deed.nonces_map_passes (notes : List ν) : nonces (notes.map Deed.passes) = [] := by
  simp [nonces]

/-- No two accounts are kept under one key. -/
theorem Address.key_injective {a b : Address} (h : a.key = b.key) : a = b :=
  text_injective (Key.ofText_injective h)

namespace Act

variable {σ : Type} {x : Act ν σ α} {P : α → Prop} {Q : β → Prop}

/-- What comes of an act, if anything does, has the property. -/
def Yields (P : α → Prop) (x : Act ν σ α) : Prop := ∀ s a, (x s).result = .ok a → P a

theorem yields_fail (e : Fault) : (fail e : Act ν σ α).Yields P := fun _ _ h => absurd h (by simp)

theorem Yields.bind {f : α → Act ν σ β} (hx : x.Yields P) (hf : ∀ a, P a → (f a).Yields Q) :
    (x >>= f).Yields Q := by
  intro s b h
  cases hresult : (x s).result with
  | error e => exact absurd h (by simp [bind_of_error hresult])
  | ok a =>
    rw [bind_of_ok hresult, Outcome.result_after] at h
    exact hf a (hx s a hresult) _ b h

/-- It need not be known what came before. -/
theorem yields_bind {f : α → Act ν σ β} (hf : ∀ a, (f a).Yields Q) : (x >>= f).Yields Q :=
  Yields.bind (P := fun _ => True) (fun _ _ _ => trivial) fun a _ => hf a

theorem Yields.rescue {handler : Fault → Act ν σ α} (hx : x.Yields P)
    (hhandler : ∀ e, (handler e).Yields P) : (x.rescue handler).Yields P := by
  intro s a h
  cases hresult : (x s).result with
  | ok b =>
    rw [rescue_of_ok hresult] at h
    exact hx s a h
  | error e =>
    cases he : e.isInterrupt with
    | true =>
      rw [rescue_of_interrupt hresult he] at h
      exact hx s a h
    | false =>
      rw [rescue_of_fault hresult he, Outcome.result_after] at h
      exact hhandler e _ a h

/-- Of what follows an act only what follows its result matters. -/
theorem bind_congr_reached {f g : α → Act ν σ β} {s : σ}
    (h : ∀ a, (x s).result = .ok a → f a (x s).next = g a (x s).next) :
    (x >>= f) s = (x >>= g) s := by
  cases hresult : (x s).result with
  | error e => rw [bind_of_error hresult, bind_of_error hresult]
  | ok a => rw [bind_of_ok hresult, bind_of_ok hresult, h a hresult]

end Act

namespace Counters

/-- The counts after several events. -/
def addAll (events : List Counted) (c : Counters) : Counters :=
  events.foldl (fun c event => c.add event) c

theorem addAll_append (events events' : List Counted) (c : Counters) :
    c.addAll (events ++ events') = (c.addAll events).addAll events' :=
  List.foldl_append

end Counters

namespace Desk

/-! ## 1.  Desks that agree, and changes that do not matter -/

/-- Two desks keep the same for some accounts. -/
structure SameOn (accounts : Set Address) (d e : Desk (Queued ρ)) : Prop where
  capacity : d.world.queue.capacity = e.world.queue.capacity
  nonce : ∀ a ∈ accounts, d.book.get? a.key = e.book.get? a.key
  line : ∀ a ∈ accounts, d.world.queue.pendingOf a = e.world.queue.pendingOf a
  signer : ∀ a ∈ accounts, d.world.queue.hasSigner a = e.world.queue.hasSigner a

/-- Between two desks only the nonces and the lines of some accounts have changed, and the counters. -/
structure ChangesOnly (accounts : Set Address) (d d' : Desk (Queued ρ)) : Prop where
  capacity : d'.world.queue.capacity = d.world.queue.capacity
  signers : d'.world.queue.signers = d.world.queue.signers
  nonce : ∀ key : Key, (∀ a ∈ accounts, key ≠ a.key) → d'.book.get? key = d.book.get? key
  line : ∀ a ∉ accounts, d'.world.queue.pendingOf a = d.world.queue.pendingOf a

section

variable {accounts others : Set Address} {d d' d'' e : Desk (Queued ρ)}

theorem SameOn.refl (d : Desk (Queued ρ)) : SameOn accounts d d :=
  ⟨rfl, fun _ _ => rfl, fun _ _ => rfl, fun _ _ => rfl⟩

theorem SameOn.symm (h : SameOn accounts d e) : SameOn accounts e d :=
  ⟨h.capacity.symm, fun a ha => (h.nonce a ha).symm, fun a ha => (h.line a ha).symm,
    fun a ha => (h.signer a ha).symm⟩

theorem SameOn.trans (h : SameOn accounts d d') (h' : SameOn accounts d' d'') :
    SameOn accounts d d'' :=
  ⟨h.capacity.trans h'.capacity, fun a ha => (h.nonce a ha).trans (h'.nonce a ha),
    fun a ha => (h.line a ha).trans (h'.line a ha),
    fun a ha => (h.signer a ha).trans (h'.signer a ha)⟩

/-- There is room on the one desk exactly if there is on the other. -/
theorem SameOn.hasRoom (h : SameOn accounts d e) {a : Address} (ha : a ∈ accounts) :
    d.world.queue.hasRoom a = e.world.queue.hasRoom a := by
  rw [PendingQueue.hasRoom, PendingQueue.hasRoom, h.capacity, h.line a ha]

/-- A desk with the same book and the same queue has not changed. -/
theorem ChangesOnly.of_eq (hbook : d'.book = d.book) (hqueue : d'.world.queue = d.world.queue) :
    ChangesOnly accounts d d' where
  capacity := by rw [hqueue]
  signers := by rw [hqueue]
  nonce := fun key _ => by rw [hbook]
  line := fun a _ => by rw [hqueue]

theorem ChangesOnly.trans (h : ChangesOnly accounts d d') (h' : ChangesOnly accounts d' d'') :
    ChangesOnly accounts d d'' where
  capacity := h'.capacity.trans h.capacity
  signers := h'.signers.trans h.signers
  nonce := fun key hkey => (h'.nonce key hkey).trans (h.nonce key hkey)
  line := fun a ha => (h'.line a ha).trans (h.line a ha)

/-- **What changes for some accounts leaves all others in agreement.** -/
theorem ChangesOnly.sameOn (h : ChangesOnly accounts d d') (hdisjoint : ∀ a ∈ others, a ∉ accounts) :
    SameOn others d d' where
  capacity := h.capacity.symm
  nonce := by
    intro a ha
    refine (h.nonce a.key fun b hb hkey => ?_).symm
    rw [Address.key_injective hkey] at ha
    exact hdisjoint b ha hb
  line := fun a ha => (h.line a (hdisjoint a ha)).symm
  signer := fun a _ => by rw [PendingQueue.hasSigner, PendingQueue.hasSigner, h.signers]

end

/-! ## 2.  Footprints -/

/-- Two outcomes, of an act begun at two desks, differ in nothing but what is kept for other accounts. -/
structure Twins (accounts : Set Address) (d e : Desk (Queued ρ))
    (o o' : Outcome (Deed LogLine) (Desk (Queued ρ)) α) : Prop where
  result : o.result = o'.result
  nonces : Deed.nonces o.notes = Deed.nonces o'.notes
  counters : ∃ events, o.next.counters = d.counters.addAll events ∧
    o'.next.counters = e.counters.addAll events
  same : SameOn accounts o.next o'.next
  frame : ChangesOnly accounts d o.next

/-- An act is about no accounts but these. -/
def HasFootprint (accounts : Set Address) (x : Act (Deed LogLine) (Desk (Queued ρ)) α) : Prop :=
  ∀ d e, SameOn accounts d e → Twins accounts d e (x d) (x e)

section

variable {accounts : Set Address} {x : Act (Deed LogLine) (Desk (Queued ρ)) α}

/-- An act that changes nothing has a footprint if it ends in the same way at desks that agree. -/
theorem hasFootprint_of_still (hbook : ∀ d, (x d).next.book = d.book)
    (hcounters : ∀ d, (x d).next.counters = d.counters)
    (hqueue : ∀ d, (x d).next.world.queue = d.world.queue)
    (hresult : ∀ d e, SameOn accounts d e → (x d).result = (x e).result)
    (hnonces : ∀ d e, Deed.nonces (x d).notes = Deed.nonces (x e).notes) :
    HasFootprint accounts x := by
  intro d e h
  refine ⟨hresult d e h, hnonces d e, ⟨[], hcounters d, hcounters e⟩, ?_, .of_eq (hbook d) (hqueue d)⟩
  constructor
  · rw [hqueue, hqueue, h.capacity]
  · intro a ha
    rw [hbook, hbook, h.nonce a ha]
  · intro a ha
    rw [hqueue, hqueue, h.line a ha]
  · intro a ha
    rw [hqueue, hqueue, h.signer a ha]

theorem hasFootprint_ofExcept (r : Except Fault α) :
    HasFootprint accounts (.ofExcept r : Act (Deed LogLine) (Desk (Queued ρ)) α) :=
  hasFootprint_of_still (fun _ => rfl) (fun _ => rfl) (fun _ => rfl) (fun _ _ _ => rfl) fun _ _ => rfl

theorem hasFootprint_pure (a : α) :
    HasFootprint accounts (pure a : Act (Deed LogLine) (Desk (Queued ρ)) α) :=
  hasFootprint_ofExcept (.ok a)

theorem hasFootprint_fail (e : Fault) :
    HasFootprint accounts (.fail e : Act (Deed LogLine) (Desk (Queued ρ)) α) :=
  hasFootprint_ofExcept (.error e)

theorem hasFootprint_note (deed : Deed LogLine) :
    HasFootprint accounts (.note deed : Act (Deed LogLine) (Desk (Queued ρ)) Unit) :=
  hasFootprint_of_still (fun _ => rfl) (fun _ => rfl) (fun _ => rfl) (fun _ _ _ => rfl) fun _ _ => rfl

theorem hasFootprint_log (level : LogLevel) (channel : Channel) (message : Except Fault String) :
    HasFootprint accounts
      (log level channel message : Act (Deed LogLine) (Desk (Queued ρ)) Unit) := by
  cases message with
  | ok message => exact hasFootprint_note _
  | error e => exact hasFootprint_fail e

/-- To look up a nonce is to look at its account. -/
theorem hasFootprint_cached {a : Address} (ha : a ∈ accounts) :
    HasFootprint accounts
      (cached a.key : Act (Deed LogLine) (Desk (Queued ρ)) (Option Numeral)) :=
  hasFootprint_of_still (fun _ => rfl) (fun _ => rfl) (fun _ => rfl)
    (fun _ _ h => congrArg Except.ok (h.nonce a ha)) fun _ _ => rfl

/-- A collaborator that leaves the queue alone has a footprint if it answers the same at desks that
agree. -/
theorem hasFootprint_outside {y : Act LogLine (Queued ρ) α} (hkeeps : y.KeepsQueue)
    (hresult : ∀ d e, SameOn accounts d e → (y d.world).result = (y e.world).result) :
    HasFootprint accounts (outside y) :=
  hasFootprint_of_still (fun _ => rfl) (fun _ => rfl) (fun d => hkeeps d.world) hresult
    fun _ _ => by simp

theorem hasFootprint_steady {y : Act LogLine (Queued ρ) α} {r : Except Fault α} (hy : y.IsSteady r) :
    HasFootprint accounts (outside y) :=
  hasFootprint_outside hy.keeps fun _ _ _ => (hy.result _).trans (hy.result _).symm

theorem hasFootprint_count (event : Counted) :
    HasFootprint accounts (count event : Act (Deed LogLine) (Desk (Queued ρ)) Unit) :=
  fun _ _ h => ⟨rfl, rfl, ⟨[event], rfl, rfl⟩, ⟨h.capacity, h.nonce, h.line, h.signer⟩, .of_eq rfl rfl⟩

/-- To write down a nonce is to change its account. -/
theorem hasFootprint_writeNext {a : Address} (ha : a ∈ accounts) (next : Numeral) :
    HasFootprint accounts (writeNext a.key next : Act (Deed LogLine) (Desk (Queued ρ)) Unit) := by
  intro d e h
  refine ⟨rfl, rfl, ⟨[], rfl, rfl⟩, ⟨h.capacity, fun b hb => ?_, h.line, h.signer⟩,
    ⟨rfl, rfl, fun key hkey => ?_, fun _ _ => rfl⟩⟩
  · show (d.book.put a.key next).get? b.key = (e.book.put a.key next).get? b.key
    rw [NonceBook.get?_put_key, NonceBook.get?_put_key, h.nonce b hb]
  · show (d.book.put a.key next).get? key = d.book.get? key
    rw [NonceBook.get?_put_key, if_neg]
    intro hsame
    exact hkey a ha ((Key.ofText_same key a.text).mp hsame)

/-- The twins of a whole are the twins of its parts. -/
theorem Twins.after {o o' : Outcome (Deed LogLine) (Desk (Queued ρ)) α}
    {u u' : Outcome (Deed LogLine) (Desk (Queued ρ)) β} {d e : Desk (Queued ρ)}
    (h : Twins accounts d e o o') (h' : Twins accounts o.next o'.next u u') :
    Twins accounts d e (u.after o.notes) (u'.after o'.notes) where
  result := h'.result
  nonces := by
    rw [Outcome.notes_after, Outcome.notes_after, Deed.nonces_append, Deed.nonces_append, h.nonces,
      h'.nonces]
  counters := by
    obtain ⟨events, hd, he⟩ := h.counters
    obtain ⟨events', hd', he'⟩ := h'.counters
    refine ⟨events ++ events', ?_, ?_⟩
    · rw [Outcome.next_after, hd', hd, Counters.addAll_append]
    · rw [Outcome.next_after, he', he, Counters.addAll_append]
  same := h'.same
  frame := h.frame.trans h'.frame

/-- Of what follows an act only what follows one of its results matters. -/
theorem HasFootprint.bind_reached {f : α → Act (Deed LogLine) (Desk (Queued ρ)) β}
    (hx : HasFootprint accounts x)
    (hf : ∀ d a, (x d).result = .ok a → HasFootprint accounts (f a)) :
    HasFootprint accounts (x >>= f) := by
  intro d e h
  have htwins := hx d e h
  cases hresult : (x d).result with
  | error fault =>
    rw [Act.bind_of_error hresult, Act.bind_of_error (htwins.result ▸ hresult)]
    exact ⟨rfl, htwins.nonces, htwins.counters, htwins.same, htwins.frame⟩
  | ok a =>
    rw [Act.bind_of_ok hresult, Act.bind_of_ok (htwins.result ▸ hresult)]
    exact htwins.after (hf d a hresult _ _ htwins.same)

theorem HasFootprint.bind {f : α → Act (Deed LogLine) (Desk (Queued ρ)) β}
    (hx : HasFootprint accounts x) (hf : ∀ a, HasFootprint accounts (f a)) :
    HasFootprint accounts (x >>= f) :=
  hx.bind_reached fun _ a _ => hf a

theorem HasFootprint.rescue {handler : Fault → Act (Deed LogLine) (Desk (Queued ρ)) α}
    (hx : HasFootprint accounts x) (hhandler : ∀ e, HasFootprint accounts (handler e)) :
    HasFootprint accounts (x.rescue handler) := by
  intro d e h
  have htwins := hx d e h
  cases hresult : (x d).result with
  | ok a =>
    rw [Act.rescue_of_ok hresult, Act.rescue_of_ok (htwins.result ▸ hresult)]
    exact htwins
  | error fault =>
    have hresult' : (x e).result = .error fault := htwins.result ▸ hresult
    cases hfault : fault.isInterrupt with
    | true =>
      rw [Act.rescue_of_interrupt hresult hfault, Act.rescue_of_interrupt hresult' hfault]
      exact htwins
    | false =>
      rw [Act.rescue_of_fault hresult hfault, Act.rescue_of_fault hresult' hfault]
      exact htwins.after (hhandler fault _ _ htwins.same)

theorem HasFootprint.counting (hx : HasFootprint accounts x) (outcome : Fault → String) :
    HasFootprint accounts (Desk.counting outcome x) :=
  hx.rescue fun e => (hasFootprint_count _).bind fun _ => hasFootprint_fail e

end

/-! ## 3.  Settlements -/

section

variable {accounts : Set Address} {source : NonceSource LogLine (Queued ρ)}
  {answer : Int → Value → Except Fault Value} {send : SendCallback LogLine (Queued ρ)}
  {outcome : Value → Except Fault Value} {chain : Int} {a : Address}

theorem lookup_hasFootprint (hsource : NonceSource.IsSteady source answer) (account : Key)
    (reason : LookupReason) :
    HasFootprint accounts (lookup source chain account reason) := by
  refine (hasFootprint_count _).bind fun _ => HasFootprint.bind ?_ fun nonce => ?_
  · refine HasFootprint.rescue ?_ fun e => hasFootprint_fail _
    exact (hasFootprint_note _).bind fun _ => hasFootprint_steady (hsource chain account.value)
  · exact (hasFootprint_log _ _ _).bind fun _ => hasFootprint_pure nonce

theorem submit_hasFootprint (hsend : SendCallback.IsSteady send outcome)
    (nonce : Value) : HasFootprint accounts (submit send nonce) :=
  (hasFootprint_note _).bind fun _ =>
    (hasFootprint_steady (hsend nonce)).bind fun _ => hasFootprint_pure _

theorem afterRefusal_hasFootprint (hsource : NonceSource.IsSteady source answer)
    (hsend : SendCallback.IsSteady send outcome) (account : Key) (nonce : Value) (e : Fault) :
    HasFootprint accounts (afterRefusal source chain account send nonce e) := by
  unfold afterRefusal
  split
  · refine HasFootprint.bind ?_ fun nonce' => ?_
    · refine (hasFootprint_log _ _ _).bind fun _ => (hasFootprint_count _).bind fun _ => ?_
      exact lookup_hasFootprint hsource account .nonceError
    · exact (submit_hasFootprint hsend nonce').rescue fun e' => hasFootprint_fail _
  · exact hasFootprint_fail _
  · exact hasFootprint_fail _

/-- **A settlement is about the account that it is for.** -/
theorem settle_hasFootprint (hsource : NonceSource.IsSteady source answer)
    (hsend : SendCallback.IsSteady send outcome)
    (ha : a ∈ accounts) : HasFootprint accounts (settle source chain a.key send) := by
  refine HasFootprint.bind ?_ fun first => HasFootprint.bind ?_ fun used => ?_
  · refine (hasFootprint_cached ha).bind fun n? => ?_
    cases n? with
    | none => exact lookup_hasFootprint hsource a.key .cacheMiss
    | some n => exact (hasFootprint_log _ _ _).bind fun _ => hasFootprint_pure _
  · exact (submit_hasFootprint hsend first).rescue fun e =>
      afterRefusal_hasFootprint hsource hsend a.key first e
  · refine HasFootprint.bind ?_ fun _ => hasFootprint_pure used.2
    exact (hasFootprint_ofExcept _).bind fun next => hasFootprint_writeNext ha next

theorem submit_yields (hsend : SendCallback.IsSteady send outcome) (nonce : Value) :
    (submit send nonce : Act (Deed LogLine) (Desk (Queued ρ)) (Value × Value)).Yields
      fun used => outcome used.1 = .ok used.2 := by
  have hcall : (outside (send nonce) : Act (Deed LogLine) (Desk (Queued ρ)) Value).Yields
      fun tx => outcome nonce = .ok tx := fun d tx h => ((hsend nonce).result d.world).symm.trans h
  refine Act.yields_bind fun _ => hcall.bind ?_
  intro tx htx d used h
  obtain rfl : (nonce, tx) = used := Except.ok.inj h
  exact htx

/-- **A settlement returns what the callback has returned.** -/
theorem settle_yields (hsend : SendCallback.IsSteady send outcome) (account : Key) :
    (settle source chain account send).Yields fun tx => ∃ nonce, outcome nonce = .ok tx := by
  refine Act.yields_bind fun first => ?_
  have hrefusal (e : Fault) : (afterRefusal source chain account send first e).Yields
      fun used => outcome used.1 = .ok used.2 := by
    unfold afterRefusal
    split
    · refine Act.yields_bind fun nonce => ?_
      exact (submit_yields hsend nonce).rescue fun e' => Act.yields_fail _
    · exact Act.yields_fail _
    · exact Act.yields_fail _
  refine ((submit_yields hsend first).rescue hrefusal).bind fun used hused => ?_
  refine Act.yields_bind fun _ d tx h => ?_
  obtain rfl : used.2 = tx := Except.ok.inj h
  exact ⟨used.1, hused⟩

/-! ## 4.  The queue as the gate -/

/-- A question to the gate has a footprint if desks that agree are answered the same. -/
theorem hasFootprint_question (ha : a ∈ accounts) (deed : Option Numeral → Deed LogLine)
    (denial : Fault) {y : Act LogLine (Queued ρ) Bool} {yes : Queued ρ → Bool}
    (hy : ∀ w, y w = ⟨.ok (yes w), [], w⟩)
    (hyes : ∀ d e, SameOn accounts d e → yes d.world = yes e.world) :
    HasFootprint accounts (do
      Act.note (deed (← cached a.key))
      if ← outside y then return () else .fail denial) := by
  have hanswer : HasFootprint accounts (outside y) := by
    refine hasFootprint_outside (fun w => by rw [hy]) fun d e h => ?_
    rw [hy, hy, hyes d e h]
  refine (hasFootprint_cached ha).bind fun n? => (hasFootprint_note _).bind fun _ =>
    hanswer.bind fun granted => ?_
  cases granted with
  | true => exact hasFootprint_pure ()
  | false => exact hasFootprint_fail denial

/-- An accepted sender is let in or not by what the desk keeps for the sender. -/
theorem askAdmission_hasFootprint (haccept : Address.accept (.text a.text) = .ok a)
    (ha : a ∈ accounts) : HasFootprint accounts (askAdmission (Queued.gate (ρ := ρ)) a) := by
  refine HasFootprint.bind ?_ fun _ => ?_
  · exact hasFootprint_question ha (.asksRoom a) _ (fun w => (Queued.gate_answers haccept w).1)
      fun _ _ h => h.hasRoom ha
  · exact hasFootprint_question ha (.asksSigner a) _ (fun w => (Queued.gate_answers haccept w).2)
      fun _ _ h => h.signer a ha

/-- What is registered stands at the end of its sender's line, and nowhere else. -/
theorem insert_hasFootprint {terms : Terms} (haccept : Address.accept (.text a.text) = .ok a)
    (hterms : terms.check = .ok ()) (ha : a ∈ accounts) (tx : Value) :
    HasFootprint accounts (outside ((Queued.gate (ρ := ρ)).insert tx terms a)) := by
  have hresult (d : Desk (Queued ρ)) : (outside (Queued.gate.insert tx terms a) d).result =
      if d.world.queue.canTell tx then .ok () else .error .tooManyDigits :=
    PendingQueue.result_gate_insert haccept hterms tx d.world.queue
  have hnext (d : Desk (Queued ρ)) :
      (outside (Queued.gate.insert tx terms a) d).next.world.queue =
        d.world.queue.append ⟨tx, terms, a, 0⟩ :=
    PendingQueue.next_gate_insert haccept hterms tx d.world.queue
  intro d e h
  refine ⟨?_, ?_, ⟨[], rfl, rfl⟩, ⟨?_, h.nonce, ?_, ?_⟩, ⟨?_, ?_, fun _ _ => rfl, ?_⟩⟩
  · rw [hresult, hresult, PendingQueue.canTell, PendingQueue.canTell, h.capacity]
  · simp
  · rw [hnext, hnext]
    exact h.capacity
  · intro b hb
    rw [hnext, hnext, PendingQueue.pendingOf_append, PendingQueue.pendingOf_append, h.line b hb]
  · intro b hb
    rw [hnext, hnext, PendingQueue.hasSigner_append, PendingQueue.hasSigner_append, h.signer b hb]
  · rw [hnext]
    rfl
  · rw [hnext]
    rfl
  · intro b hb
    rw [hnext, PendingQueue.pendingOf_append, if_neg, List.append_nil]
    rintro rfl
    exact hb ha

/-- A report to a steady sink is about nobody. -/
theorem report_hasFootprint {sink : Option (ErrorSink LogLine (Queued ρ))}
    (hsink : ∀ tell ∈ sink, ErrorSink.IsSteady tell) (e : Fault) :
    HasFootprint accounts (report sink e) := by
  refine (hasFootprint_count _).bind fun _ => (hasFootprint_log _ _ _).bind fun _ => ?_
  cases hattached : sink with
  | none => exact hasFootprint_pure ()
  | some tell =>
    obtain ⟨answer, htell⟩ := hsink tell (by simp [hattached])
    exact (hasFootprint_note _).bind fun _ => hasFootprint_steady (htell e)

/-- A registration is about the account of the sender. -/
theorem register_hasFootprint {sink : Option (ErrorSink LogLine (Queued ρ))} {terms : Terms}
    (hsink : ∀ tell ∈ sink, ErrorSink.IsSteady tell)
    (haccept : Address.accept (.text a.text) = .ok a) (hterms : terms.check = .ok ())
    (ha : a ∈ accounts) (tx : Value) :
    HasFootprint accounts (register Queued.gate sink tx terms a) := by
  refine HasFootprint.rescue ?_ fun e => ?_
  · exact (hasFootprint_cached ha).bind fun _ => (hasFootprint_note _).bind fun _ =>
      insert_hasFootprint haccept hterms ha tx
  · exact (hasFootprint_ofExcept _).bind fun f => report_hasFootprint hsink f

/-- A registration of which the log can be told tells the sink nothing. -/
theorem register_eq_of_canTell {terms : Terms} (haccept : Address.accept (.text a.text) = .ok a)
    (hterms : terms.check = .ok ()) (sink : Option (ErrorSink LogLine (Queued ρ))) {tx : Value}
    {d : Desk (Queued ρ)} (htell : d.world.queue.canTell tx = true) :
    register Queued.gate sink tx terms a d = register Queued.gate none tx terms a d := by
  have hresult : (((do
      Act.note (.registers tx terms a (← cached a.key))
      outside (Queued.gate.insert tx terms a)) :
        Act (Deed LogLine) (Desk (Queued ρ)) Unit) d).result = .ok () := by
    have hinsert := PendingQueue.result_gate_insert haccept hterms tx d.world.queue
    rw [if_pos htell] at hinsert
    exact hinsert
  exact (Act.rescue_of_ok hresult).trans (Act.rescue_of_ok hresult).symm

/-! ## 5.  Dispatches -/

/-- What has passed the check has been accepted. -/
theorem accept_of_checked {request : Request} {accepted : Address × Terms} {d : Desk (Queued ρ)}
    (h : (counting Fault.name (checked (ν := LogLine) request) d).result = .ok accepted) :
    request.accept = .ok accepted := by
  cases haccept : request.accept with
  | ok accepted' =>
    have hchecked : (checked (ν := LogLine) request d).result = .ok accepted' := by
      rw [checked, haccept]
      rfl
    rw [counting, Act.rescue_of_ok hchecked, hchecked] at h
    rw [Except.ok.inj h]
  | error e =>
    have hchecked : (checked (ν := LogLine) request d).result = .error e.fault := by
      rw [checked, haccept]
      rfl
    rw [counting, Act.rescue_of_fault hchecked e.isInterrupt_fault] at h
    exact absurd h (by simp [Act.bind_eq, Outcome.after])

/-- A sender is let in or not by what the desk keeps for the sender, if it is asked about at all. -/
theorem admission_hasFootprint (haccept : Address.accept (.text a.text) = .ok a) (ha : a ∈ accounts)
    (request : Request) :
    HasFootprint accounts (if request.isForced then return () else
      askAdmission (Queued.gate (ρ := ρ)) a) := by
  split
  · exact hasFootprint_pure ()
  · exact askAdmission_hasFootprint haccept ha

/-- **A dispatch is about the account of its sender**, if the network, the callback and the sink are
steady.  If the sender is not accepted it is about none. -/
theorem dispatch_hasFootprint (hsource : NonceSource.IsSteady source answer)
    (hsend : SendCallback.IsSteady send outcome) {sink : Option (ErrorSink LogLine (Queued ρ))}
    (hsink : ∀ tell ∈ sink, ErrorSink.IsSteady tell) (request : Request)
    (haccounts : ∀ a, Address.accept request.sender = .ok a → a ∈ accounts) :
    HasFootprint accounts (dispatch Queued.gate source sink chain request send) := by
  refine ((hasFootprint_ofExcept _).counting _).bind_reached fun d accepted hchecked => ?_
  obtain ⟨sender, terms⟩ := accepted
  have haccept : request.accept = .ok (sender, terms) := accept_of_checked hchecked
  have ha : sender ∈ accounts :=
    haccounts sender ((request.accept_eq_ok_iff sender terms).mp haccept).1
  obtain ⟨htext, hterms⟩ := Request.accept_spec haccept
  refine ((admission_hasFootprint htext ha request).counting _).bind fun _ => ?_
  refine ((settle_hasFootprint hsource hsend ha).counting _).bind fun tx => ?_
  refine (hasFootprint_count _).bind fun _ => (hasFootprint_log _ _ _).bind fun _ => ?_
  exact (register_hasFootprint hsink htext hterms ha tx).bind fun _ => hasFootprint_pure tx

/-- An act with a footprint leaves the capacity as it is. -/
theorem HasFootprint.canTell_next {x : Act (Deed LogLine) (Desk (Queued ρ)) α}
    (hx : HasFootprint accounts x) (d : Desk (Queued ρ)) (tx : Value) :
    (x d).next.world.queue.canTell tx = d.world.queue.canTell tx := by
  rw [PendingQueue.canTell, PendingQueue.canTell, (hx d d (.refl d)).frame.capacity]

/-- What is left to do tells the sink nothing if the log can be told of the registration. -/
theorem conclude_eq_of_canTell {terms : Terms} (haccept : Address.accept (.text a.text) = .ok a)
    (hterms : terms.check = .ok ()) (sink : Option (ErrorSink LogLine (Queued ρ))) {tx : Value}
    {d : Desk (Queued ρ)} (htell : d.world.queue.canTell tx = true) :
    conclude Queued.gate sink chain a terms tx d = conclude Queued.gate none chain a terms tx d := by
  have hlog : HasFootprint Set.univ
      (log .info .dispatch (sentLine a chain) : Act (Deed LogLine) (Desk (Queued ρ)) Unit) :=
    hasFootprint_log _ _ _
  refine Act.bind_congr_reached fun _ _ => Act.bind_congr_reached fun _ _ => ?_
  rw [Act.bind_eq, Act.bind_eq, register_eq_of_canTell haccept hterms sink]
  rw [hlog.canTell_next]
  exact htell

/-- **Where the log can be told of every transaction that the callback gives, the sink may be left
out.** -/
theorem dispatch_eq_of_canTell (hsource : NonceSource.IsSteady source answer)
    (hsend : SendCallback.IsSteady send outcome) (sink : Option (ErrorSink LogLine (Queued ρ)))
    (request : Request) {d : Desk (Queued ρ)}
    (htell : ∀ nonce tx, outcome nonce = .ok tx → d.world.queue.canTell tx = true) :
    dispatch Queued.gate source sink chain request send d =
      dispatch Queued.gate source none chain request send d := by
  have hchecked : HasFootprint Set.univ
      (counting Fault.name (checked request) : Act (Deed LogLine) (Desk (Queued ρ)) _) :=
    (hasFootprint_ofExcept _).counting _
  refine Act.bind_congr_reached fun accepted haccepted => ?_
  obtain ⟨sender, terms⟩ := accepted
  obtain ⟨htext, hterms⟩ := Request.accept_spec (accept_of_checked haccepted)
  have hadmission : HasFootprint Set.univ (counting admissionOutcome
      (if request.isForced then return () else askAdmission (Queued.gate (ρ := ρ)) sender)) :=
    (admission_hasFootprint htext (Set.mem_univ sender) request).counting _
  have hsettle : HasFootprint Set.univ
      (counting Fault.name (settle source chain sender.key send)) :=
    (settle_hasFootprint hsource hsend (Set.mem_univ sender)).counting _
  refine Act.bind_congr_reached fun _ _ => Act.bind_congr_reached fun tx htx => ?_
  obtain ⟨nonce, hnonce⟩ := (settle_yields hsend sender.key).rescue
    (fun e => Act.yields_bind fun _ => Act.yields_fail e) _ tx htx
  refine conclude_eq_of_canTell htext hterms sink ?_
  rw [hsettle.canTell_next, hadmission.canTell_next, hchecked.canTell_next]
  exact htell nonce tx hnonce

end

end Desk
end Outbox
