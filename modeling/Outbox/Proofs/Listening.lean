import Outbox.Dispatch

/-!
# Listening at the desk

What the library promises about a dispatch is mostly about who was asked what, in which order,
and what the answers were.  The deeds of the desk tell what it asks.  What a collaborator
answers they do not tell, so a listener is put between the desk and its collaborators: a
`Call` says what a collaborator was asked and how it answered, and `heard` makes any
collaborator note just that, in the place of its own notes.

## Why the listener may be trusted

A collaborator behind the listener does to the world what it did before and gives the same
answers.  So the desk ends with the same result and in the same state, and its own deeds are the
same in the same order (`agree_dispatch`, `agree_settle`): nothing that is said below about an
overheard desk is due to its being overheard.

## Evaluation by rules

`Goes x d r t d'` says that an act, begun at the desk `d`, ends with `r` at the desk `d'`, and
that `t` is what is said on the way, which is all of its notes but the lines of the log.  There
is one rule for each way in which acts are put together, and every statement about the
conversation of an act is derived by these rules alone.
-/

namespace Outbox

variable {ν μ σ α β : Type}

/-- A call of a collaborator: what it was asked, and how it answered. -/
inductive Call where
  /-- A gate is asked for room. -/
  | room (sender : Address) (answer : Except Fault Bool)
  /-- A gate is asked for a signer. -/
  | signer (sender : Address) (answer : Except Fault Bool)
  /-- A nonce source is asked for the pending nonce of an account. -/
  | nonce (chain : Int) (account : Value) (answer : Except Fault Value)
  /-- A transaction is submitted with a nonce. -/
  | send (nonce : Value) (answer : Except Fault Value)
  /-- A gate is told of a transaction. -/
  | register (tx : Value) (terms : Terms) (sender : Address) (answer : Except Fault Unit)
  /-- A sink is told of a fault. -/
  | tell (fault : Fault) (answer : Except Fault Unit)

/-! ## The listener -/

/-- The act with a single note, of how it ended. -/
def Act.heard (call : Except Fault α → Call) (x : Act ν σ α) : Act Call σ α := fun s =>
  ⟨(x s).result, [call (x s).result], (x s).next⟩

/-- The gate with a listener before it. -/
def Gate.heard (gate : Gate ν σ) : Gate Call σ where
  canQueue a := (gate.canQueue a).heard (.room a)
  canSign a := (gate.canSign a).heard (.signer a)
  insert tx terms a := (gate.insert tx terms a).heard (.register tx terms a)

/-- The nonce source with a listener before it. -/
def NonceSource.heard (source : NonceSource ν σ) : NonceSource Call σ := fun chain account =>
  (source chain account).heard (.nonce chain account)

/-- The callback with a listener before it. -/
def SendCallback.heard (send : SendCallback ν σ) : SendCallback Call σ := fun nonce =>
  (send nonce).heard (.send nonce)

/-- The sink with a listener before it. -/
def ErrorSink.heard (sink : ErrorSink ν σ) : ErrorSink Call σ := fun e => (sink e).heard (.tell e)

/-! ## What is said -/

/-- A line of the log. -/
def Deed.isLine : Deed ν → Bool
  | .logs _ => true
  | _ => false

/-- What is said: the deeds that are no lines of the log. -/
def said (notes : List (Deed ν)) : List (Deed ν) := notes.filter fun deed => !deed.isLine

/-- What a listener hears of a conversation with the desk. -/
abbrev Talk := List (Deed Call)

@[simp] theorem said_append (xs ys : List (Deed ν)) : said (xs ++ ys) = said xs ++ said ys := by
  rw [said, List.filter_append]
  rfl

/-- A fault that is rewritten unless it is an order to stop. -/
def Fault.rewrite (f : Fault → Fault) (e : Fault) : Fault := if e.isInterrupt then e else f e

theorem Fault.rewrite_of_interrupt (f : Fault → Fault) {e : Fault} (h : e.isInterrupt = true) :
    e.rewrite f = e := if_pos h

theorem Fault.rewrite_of_fault (f : Fault → Fault) {e : Fault} (h : e.isInterrupt = false) :
    e.rewrite f = f e := by
  rw [rewrite, h]
  rfl

namespace Desk

/-! ## The rules -/

/-- An act, begun at a desk, ends with the result and at the desk given, and says what is given
on the way. -/
structure Goes (x : Act (Deed ν) (Desk σ) α) (d : Desk σ) (r : Except Fault α)
    (t : List (Deed ν)) (d' : Desk σ) : Prop where
  result : (x d).result = r
  said : said (x d).notes = t
  next : (x d).next = d'

variable {x : Act (Deed ν) (Desk σ) α} {f : α → Act (Deed ν) (Desk σ) β}
  {d d₁ d₂ : Desk σ} {t t₁ t₂ : List (Deed ν)} {r : Except Fault β} {a : α} {e : Fault}

theorem goes_pure (a : α) (d : Desk σ) : Goes (pure a : Act (Deed ν) (Desk σ) α) d (.ok a) [] d :=
  ⟨rfl, rfl, rfl⟩

theorem goes_fail (e : Fault) (d : Desk σ) :
    Goes (.fail e : Act (Deed ν) (Desk σ) α) d (.error e) [] d :=
  ⟨rfl, rfl, rfl⟩

/-- A line of the log that can be written is not heard. -/
theorem goes_log {line : Except Fault String} {text : String} (h : line = .ok text)
    (level : LogLevel) (channel : Channel) (d : Desk σ) :
    Goes (log level channel line : Act (Deed ν) (Desk σ) Unit) d (.ok ()) [] d := by
  subst h
  exact ⟨rfl, rfl, rfl⟩

/-- A line of the log that cannot be written is where an act ends. -/
theorem goes_log_error {line : Except Fault String} {e : Fault} (h : line = .error e)
    (level : LogLevel) (channel : Channel) (d : Desk σ) :
    Goes (log level channel line : Act (Deed ν) (Desk σ) Unit) d (.error e) [] d := by
  subst h
  exact goes_fail e d

theorem goes_note {deed : Deed ν} (h : deed.isLine = false) (d : Desk σ) :
    Goes (.note deed) d (.ok ()) [deed] d := by
  refine ⟨rfl, ?_, rfl⟩
  show said [deed] = [deed]
  simp [Outbox.said, h]

theorem goes_change (g : Desk σ → Desk σ) (d : Desk σ) :
    Goes (.change g : Act (Deed ν) (Desk σ) Unit) d (.ok ()) [] (g d) :=
  ⟨rfl, rfl, rfl⟩

theorem goes_count (event : Counted) (d : Desk σ) :
    Goes (count event : Act (Deed ν) (Desk σ) Unit) d (.ok ()) []
      { d with counters := d.counters.add event } :=
  ⟨rfl, rfl, rfl⟩

theorem goes_cached (account : Key) (d : Desk σ) :
    Goes (cached account : Act (Deed ν) (Desk σ) _) d (.ok (d.book.get? account)) [] d :=
  ⟨rfl, rfl, rfl⟩

theorem goes_ofExcept (r : Except Fault α) (d : Desk σ) :
    Goes (.ofExcept r : Act (Deed ν) (Desk σ) α) d r [] d :=
  ⟨rfl, rfl, rfl⟩

/-- A collaborator is heard, and only the world changes. -/
theorem goes_outside (x : Act ν σ α) (call : Except Fault α → Call) (d : Desk σ) :
    Goes (outside (x.heard call)) d (x d.world).result [.passes (call (x d.world).result)]
      { d with world := (x d.world).next } :=
  ⟨rfl, rfl, rfl⟩

theorem Goes.bind (hx : Goes x d (.ok a) t₁ d₁) (hf : Goes (f a) d₁ r t₂ d₂) :
    Goes (x >>= f) d r (t₁ ++ t₂) d₂ := by
  have hbind := Act.bind_of_ok (f := f) hx.result
  rw [hx.next] at hbind
  refine ⟨?_, ?_, ?_⟩
  · rw [hbind, Outcome.result_after, hf.result]
  · rw [hbind, Outcome.notes_after, said_append, hx.said, hf.said]
  · rw [hbind, Outcome.next_after, hf.next]

theorem Goes.bind_error (hx : Goes x d (.error e) t d₁) : Goes (x >>= f) d (.error e) t d₁ := by
  have hbind := Act.bind_of_error (f := f) hx.result
  exact ⟨by rw [hbind], by rw [hbind]; exact hx.said, by rw [hbind]; exact hx.next⟩

variable {handler : Fault → Act (Deed ν) (Desk σ) α} {q : Except Fault α}

theorem Goes.rescue_ok (hx : Goes x d (.ok a) t d₁) : Goes (x.rescue handler) d (.ok a) t d₁ := by
  have hrescue : x.rescue handler d = x d := Act.rescue_of_ok hx.result
  exact ⟨by rw [hrescue, hx.result], by rw [hrescue, hx.said], by rw [hrescue, hx.next]⟩

theorem Goes.rescue_interrupt (hx : Goes x d (.error e) t d₁) (he : e.isInterrupt = true) :
    Goes (x.rescue handler) d (.error e) t d₁ := by
  have hrescue : x.rescue handler d = x d := Act.rescue_of_interrupt hx.result he
  exact ⟨by rw [hrescue, hx.result], by rw [hrescue, hx.said], by rw [hrescue, hx.next]⟩

theorem Goes.rescue_fault (hx : Goes x d (.error e) t₁ d₁) (he : e.isInterrupt = false)
    (hh : Goes (handler e) d₁ q t₂ d₂) : Goes (x.rescue handler) d q (t₁ ++ t₂) d₂ := by
  have hrescue : x.rescue handler d = (handler e (x d).next).after (x d).notes :=
    Act.rescue_of_fault hx.result he
  rw [hx.next] at hrescue
  refine ⟨?_, ?_, ?_⟩
  · rw [hrescue, Outcome.result_after, hh.result]
  · rw [hrescue, Outcome.notes_after, said_append, hx.said, hh.said]
  · rw [hrescue, Outcome.next_after, hh.next]

/-- A fault that is rescued only to be rewritten. -/
theorem Goes.rescue_rewrite (g : Fault → Fault) (hx : Goes x d (.error e) t d₁) :
    Goes (x.rescue fun e => .fail (g e)) d (.error (e.rewrite g)) t d₁ := by
  cases he : e.isInterrupt with
  | true =>
    rw [Fault.rewrite_of_interrupt g he]
    exact hx.rescue_interrupt he
  | false =>
    rw [Fault.rewrite_of_fault g he, ← List.append_nil t]
    exact hx.rescue_fault he (goes_fail (g e) d₁)

end Desk

/-! ## Listening changes nothing -/

/-- The deed, if it is one of the desk's own. -/
def Deed.own? : Deed ν → Option (Deed Empty)
  | .asksRoom sender cached => some (.asksRoom sender cached)
  | .asksSigner sender cached => some (.asksSigner sender cached)
  | .registers tx terms sender cached => some (.registers tx terms sender cached)
  | .asksNonce chain account => some (.asksNonce chain account)
  | .sends nonce => some (.sends nonce)
  | .reports fault => some (.reports fault)
  | .logs line => some (.logs line)
  | .passes _ => none

/-- The desk's own deeds, in their order. -/
def ownDeeds (notes : List (Deed ν)) : List (Deed Empty) := notes.filterMap Deed.own?

@[simp] theorem ownDeeds_append (xs ys : List (Deed ν)) :
    ownDeeds (xs ++ ys) = ownDeeds xs ++ ownDeeds ys :=
  List.filterMap_append

@[simp] theorem ownDeeds_passes (notes : List ν) : ownDeeds (notes.map .passes) = [] := by
  rw [ownDeeds, List.filterMap_map, List.filterMap_eq_nil_iff]
  intro note _
  rfl

/-- Of what is said the own deeds are those that are no lines of the log. -/
theorem ownDeeds_said (notes : List (Deed ν)) :
    ownDeeds (said notes) = (ownDeeds notes).filter fun deed => !deed.isLine := by
  induction notes with
  | nil => rfl
  | cons deed notes ih =>
    rw [← List.singleton_append, said_append, ownDeeds_append, ownDeeds_append, List.filter_append,
      ih]
    cases deed <;> rfl

namespace Desk

/-- Two acts end with the same result and at the same desk, and the desk does the same in both,
whatever its collaborators note. -/
def Agree (x : Act (Deed ν) (Desk σ) α) (y : Act (Deed μ) (Desk σ) α) : Prop :=
  ∀ d, (x d).result = (y d).result ∧ (x d).next = (y d).next ∧
    ownDeeds (x d).notes = ownDeeds (y d).notes

theorem agree_pure (a : α) :
    Agree (pure a : Act (Deed ν) (Desk σ) α) (pure a : Act (Deed μ) (Desk σ) α) :=
  fun _ => ⟨rfl, rfl, rfl⟩

theorem agree_fail (e : Fault) :
    Agree (.fail e : Act (Deed ν) (Desk σ) α) (.fail e : Act (Deed μ) (Desk σ) α) :=
  fun _ => ⟨rfl, rfl, rfl⟩

theorem agree_note {deed : Deed ν} {deed' : Deed μ} (h : deed.own? = deed'.own?) :
    Agree (.note deed : Act (Deed ν) (Desk σ) Unit) (.note deed') := by
  intro d
  refine ⟨rfl, rfl, ?_⟩
  show [deed].filterMap Deed.own? = [deed'].filterMap Deed.own?
  rw [List.filterMap_cons, List.filterMap_cons, h]
  rfl

theorem agree_change (g : Desk σ → Desk σ) :
    Agree (.change g : Act (Deed ν) (Desk σ) Unit) (.change g : Act (Deed μ) (Desk σ) Unit) :=
  fun _ => ⟨rfl, rfl, rfl⟩

theorem agree_ofExcept (r : Except Fault α) :
    Agree (.ofExcept r : Act (Deed ν) (Desk σ) α) (.ofExcept r : Act (Deed μ) (Desk σ) α) :=
  fun _ => ⟨rfl, rfl, rfl⟩

theorem agree_log (level : LogLevel) (channel : Channel) (line : Except Fault String) :
    Agree (log level channel line : Act (Deed ν) (Desk σ) Unit)
      (log level channel line : Act (Deed μ) (Desk σ) Unit) := by
  cases line with
  | ok text => exact agree_note (by rfl)
  | error e => exact agree_fail e

theorem agree_cached (account : Key) :
    Agree (cached account : Act (Deed ν) (Desk σ) _) (cached account : Act (Deed μ) (Desk σ) _) :=
  fun _ => ⟨rfl, rfl, rfl⟩

/-- A collaborator and the same one behind the listener differ in their notes only. -/
theorem agree_outside (call : Except Fault α → Call) (x : Act ν σ α) :
    Agree (outside x) (outside (x.heard call)) := by
  intro d
  refine ⟨rfl, rfl, ?_⟩
  rw [notes_outside, notes_outside, ownDeeds_passes, ownDeeds_passes]

theorem Agree.bind {x : Act (Deed ν) (Desk σ) α} {y : Act (Deed μ) (Desk σ) α}
    {f : α → Act (Deed ν) (Desk σ) β} {g : α → Act (Deed μ) (Desk σ) β} (hxy : Agree x y)
    (hfg : ∀ a, Agree (f a) (g a)) : Agree (x >>= f) (y >>= g) := by
  intro d
  obtain ⟨hresult, hnext, hdeeds⟩ := hxy d
  cases hx : (x d).result with
  | error e =>
    rw [Act.bind_of_error hx, Act.bind_of_error (hresult ▸ hx)]
    exact ⟨rfl, hnext, hdeeds⟩
  | ok a =>
    obtain ⟨hresult', hnext', hdeeds'⟩ := hfg a (y d).next
    rw [Act.bind_of_ok hx, Act.bind_of_ok (hresult ▸ hx), hnext]
    refine ⟨hresult', hnext', ?_⟩
    rw [Outcome.notes_after, Outcome.notes_after, ownDeeds_append, ownDeeds_append, hdeeds, hdeeds']

theorem Agree.rescue {x : Act (Deed ν) (Desk σ) α} {y : Act (Deed μ) (Desk σ) α}
    {f : Fault → Act (Deed ν) (Desk σ) α} {g : Fault → Act (Deed μ) (Desk σ) α} (hxy : Agree x y)
    (hfg : ∀ e, Agree (f e) (g e)) : Agree (x.rescue f) (y.rescue g) := by
  intro d
  obtain ⟨hresult, hnext, hdeeds⟩ := hxy d
  cases hx : (x d).result with
  | ok a =>
    rw [Act.rescue_of_ok hx, Act.rescue_of_ok (hresult ▸ hx)]
    exact hxy d
  | error e =>
    cases he : e.isInterrupt with
    | true =>
      rw [Act.rescue_of_interrupt hx he, Act.rescue_of_interrupt (hresult ▸ hx) he]
      exact hxy d
    | false =>
      obtain ⟨hresult', hnext', hdeeds'⟩ := hfg e (y d).next
      rw [Act.rescue_of_fault hx he, Act.rescue_of_fault (hresult ▸ hx) he, hnext]
      refine ⟨hresult', hnext', ?_⟩
      rw [Outcome.notes_after, Outcome.notes_after, ownDeeds_append, ownDeeds_append, hdeeds,
        hdeeds']

variable (source : NonceSource ν σ) (send : SendCallback ν σ) (gate : Gate ν σ)
  (sink : Option (ErrorSink ν σ)) (chain : Int) (account : Key)

theorem agree_lookup (reason : LookupReason) :
    Agree (lookup source chain account reason) (lookup source.heard chain account reason) := by
  refine (agree_change _).bind fun _ => ?_
  refine Agree.bind (Agree.rescue ?_ fun e => agree_fail _) fun v => ?_
  · exact (agree_note (by rfl)).bind fun _ => agree_outside _ _
  · exact (agree_log _ _ _).bind fun _ => agree_pure v

theorem agree_firstNonce :
    Agree (firstNonce source chain account) (firstNonce source.heard chain account) := by
  refine (agree_cached account).bind fun n? => ?_
  cases n? with
  | none => exact agree_lookup source chain account .cacheMiss
  | some n => exact (agree_log _ _ _).bind fun _ => agree_pure _

theorem agree_submit (nonce : Value) : Agree (submit send nonce) (submit send.heard nonce) := by
  refine (agree_note (by rfl)).bind fun _ => ?_
  exact (agree_outside _ _).bind fun tx => agree_pure (nonce, tx)

theorem agree_secondNonce (refused : Value) (refusal : Fault) :
    Agree (secondNonce source chain account refused refusal)
      (secondNonce source.heard chain account refused refusal) := by
  refine (agree_log _ _ _).bind fun _ => (agree_change _).bind fun _ => ?_
  exact agree_lookup source chain account .nonceError

theorem agree_resync (refused : Value) (refusal : Fault) :
    Agree (resync source chain account send refused refusal)
      (resync source.heard chain account send.heard refused refusal) := by
  refine (agree_secondNonce source chain account refused refusal).bind fun nonce => ?_
  exact (agree_submit send nonce).rescue fun e => agree_fail _

theorem agree_afterRefusal (nonce : Value) (e : Fault) :
    Agree (afterRefusal source chain account send nonce e)
      (afterRefusal source.heard chain account send.heard nonce e) := by
  unfold afterRefusal
  split
  · exact agree_resync source send chain account nonce e
  · exact agree_fail _
  · exact agree_fail _

theorem agree_markUsed (nonce : Value) :
    Agree (markUsed account nonce : Act (Deed ν) (Desk σ) Unit)
      (markUsed account nonce : Act (Deed μ) (Desk σ) Unit) :=
  (agree_ofExcept _).bind fun _ => agree_change _

/-- **Who settles a transaction is not changed by being listened to.** -/
theorem agree_settle :
    Agree (settle source chain account send) (settle source.heard chain account send.heard) := by
  refine (agree_firstNonce source chain account).bind fun first => ?_
  refine Agree.bind ?_ fun used => ?_
  · exact (agree_submit send first).rescue (agree_afterRefusal source send chain account first)
  · exact (agree_markUsed account used.1).bind fun _ => agree_pure used.2

theorem agree_counting (outcome : Fault → String) {x : Act (Deed ν) (Desk σ) α}
    {y : Act (Deed μ) (Desk σ) α} (h : Agree x y) :
    Agree (counting outcome x) (counting outcome y) :=
  h.rescue fun e => (agree_change _).bind fun _ => agree_fail e

/-- A question to the gate, whose answer decides, and the same question behind the listener. -/
theorem agree_question {deed : Deed ν} {deed' : Deed Call} (h : deed.own? = deed'.own?)
    (denial : Fault) (x : Act ν σ Bool) (call : Except Fault Bool → Call) :
    Agree
      (do
        Act.note deed
        if ← outside x then return () else .fail denial)
      (do
        Act.note deed'
        if ← outside (x.heard call) then return () else .fail denial) := by
  refine (agree_note h).bind fun _ => (agree_outside call x).bind fun answer => ?_
  cases answer with
  | true => exact agree_pure ()
  | false => exact agree_fail _

theorem agree_needRoom (sender : Address) :
    Agree (needRoom gate sender) (needRoom gate.heard sender) :=
  (agree_cached sender.key).bind fun _ => agree_question (by rfl) _ _ _

theorem agree_needSigner (sender : Address) :
    Agree (needSigner gate sender) (needSigner gate.heard sender) :=
  (agree_cached sender.key).bind fun _ => agree_question (by rfl) _ _ _

theorem agree_askAdmission (sender : Address) :
    Agree (askAdmission gate sender) (askAdmission gate.heard sender) :=
  (agree_needRoom gate sender).bind fun _ => agree_needSigner gate sender

theorem agree_report (e : Fault) :
    Agree (report sink e) (report (sink.map ErrorSink.heard) e) := by
  refine (agree_change _).bind fun _ => (agree_log _ _ _).bind fun _ => ?_
  cases sink with
  | none => exact agree_pure ()
  | some tell => exact (agree_note (by rfl)).bind fun _ => agree_outside _ _

theorem agree_conclude (sender : Address) (terms : Terms) (tx : Value) :
    Agree (conclude gate sink chain sender terms tx)
      (conclude gate.heard (sink.map ErrorSink.heard) chain sender terms tx) := by
  refine (agree_change _).bind fun _ => (agree_log _ _ _).bind fun _ => ?_
  refine Agree.bind (Agree.rescue ?_ fun e => ?_) fun _ => agree_pure tx
  rotate_left
  · exact (agree_ofExcept _).bind fun report => agree_report sink report
  refine (agree_cached sender.key).bind fun _ => (agree_note (by rfl)).bind fun _ => ?_
  exact agree_outside _ _

/-- What an overheard act comes to, the act itself comes to. -/
theorem Goes.of_agree {x : Act (Deed ν) (Desk σ) α} {y : Act (Deed μ) (Desk σ) α} {d d' : Desk σ}
    {r : Except Fault α} {t : List (Deed μ)} (hy : Goes y d r t d') (h : Agree x y) :
    (x d).result = r ∧ (x d).next = d' ∧ ownDeeds (Outbox.said (x d).notes) = ownDeeds t := by
  obtain ⟨hresult, hnext, hdeeds⟩ := h d
  refine ⟨hresult.trans hy.result, hnext.trans hy.next, ?_⟩
  rw [← hy.said, ownDeeds_said, ownDeeds_said, hdeeds]

/-- **A dispatch is not changed by being listened to.** -/
theorem agree_dispatch (request : Request) :
    Agree (dispatch gate source sink chain request send)
      (dispatch gate.heard source.heard (sink.map ErrorSink.heard) chain request send.heard) := by
  refine (agree_counting _ (agree_ofExcept _)).bind fun accepted => ?_
  refine (agree_counting _ ?_).bind fun _ => ?_
  · split
    · exact agree_pure ()
    · exact agree_askAdmission gate accepted.1
  · refine (agree_counting _ (agree_settle source send chain accepted.1.key)).bind fun tx => ?_
    exact agree_conclude gate sink chain accepted.1 accepted.2 tx

end Desk
end Outbox
