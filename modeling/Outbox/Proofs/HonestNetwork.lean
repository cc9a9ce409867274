import Outbox.Proofs.Moves

/-!
# An honest network

Whether the nonces of the desk are right is decided by the network, and only a network that keeps
to its own numbers can be right.  This file says what that is and shows what the desk
makes of it.

## 1.  The network

A `Network` has the next nonce of every account on every chain, and the rest of the world beside
it.  An honest source answers with it.  An honest callback takes a transaction with exactly this
nonce, and then the next one is one more; every other transaction it refuses with a fault that
carries one of the known phrases, and then nothing is changed.  What transactions it returns,
what notes they take and what else they do to the world is left open.  Gates and sinks live in
the rest of the world.

## 2.  Healing

The book may have anything: nothing, the right nonce, one that is too low because others have sent
meanwhile, one that is too high because it is of another chain.  There are three ways for the
traffic (`Healing`), and all three end with the one nonce that is right, so the desk
**heals itself** (`Desk.exists_settled_or_halted`).

## 3.  Halting

The log is told of every nonce, and a number of too many digits cannot be written.  If one of the
numbers of a settlement is such a number (`Desk.Legible` fails), then the settlement may halt
where the log should be told of it (`Halting`).  Nothing has been taken then, and neither the book
nor the network has changed.
-/

namespace Outbox

variable {ν τ : Type}

/-! ## 1.  The network -/

/-- The next nonce of every account on every chain, and the rest of the world. -/
structure Network (τ : Type) where
  next : Int → String → Int
  rest : τ

/-- The network after a transaction of an account on a chain. -/
def Network.advance (chain : Int) (account : String) (l : Network τ) : Network τ :=
  { l with
    next := fun c a => if c = chain ∧ a = account then l.next c a + 1 else l.next c a }

theorem Network.next_advance (chain : Int) (account : String) (l : Network τ) :
    (l.advance chain account).next chain account = l.next chain account + 1 := if_pos ⟨rfl, rfl⟩

/-- The fault says that the nonce was the reason: it is no order to stop, it can be asked, and one
of the known phrases stands in the text or in a message among its arguments. -/
structure Fault.BlamesNonce (e : Fault) : Prop where
  ordinary : e.isInterrupt = false
  asked : e.CanBeAsked
  phrase : ∃ text ∈ e.texts, speaksOfNonce text = true

/-- A source that answers with these numbers. -/
structure HonestSource (ν τ : Type) where
  answer : Int → Value → Act ν (Network τ) Int
  answers (chain : Int) (account : String) (l : Network τ) :
    (answer chain (.text account) l).result = .ok (l.next chain account)
  keeps (chain : Int) (account : String) (l : Network τ) :
    (answer chain (.text account) l).next.next = l.next

/-- A callback that takes transactions of an account on a chain exactly in their turn. -/
structure HonestCallback (ν τ : Type) (chain : Int) (account : String) where
  send : SendCallback ν (Network τ)
  accepts (l : Network τ) : ∃ tx, (send (.int (l.next chain account)) l).result = .ok tx
  advances (l : Network τ) :
    (send (.int (l.next chain account)) l).next.next = (l.advance chain account).next
  refuses (l : Network τ) (i : Int) (hi : i ≠ l.next chain account) :
    ∃ e, (send (.int i) l).result = .error e ∧ e.BlamesNonce
  keeps (l : Network τ) (i : Int) (hi : i ≠ l.next chain account) :
    (send (.int i) l).next.next = l.next

/-- An act on the rest of the world. -/
def Network.beside {α : Type} (x : Act ν τ α) : Act ν (Network τ) α :=
  x.within Network.rest fun rest l => { l with rest }

/-- A gate in the rest of the world. -/
def Gate.beside (gate : Gate ν τ) : Gate ν (Network τ) where
  canQueue a := Network.beside (gate.canQueue a)
  canSign a := Network.beside (gate.canSign a)
  insert tx terms a := Network.beside (gate.insert tx terms a)

/-- A sink in the rest of the world. -/
def ErrorSink.beside (sink : ErrorSink ν τ) : ErrorSink ν (Network τ) := fun e =>
  Network.beside (sink e)

/-! ## 2.  Faults that blame the nonce -/

/-- A text stands in every row of texts that it belongs to. -/
theorem exists_intercalate_eq {text : List Char} {texts : List (List Char)} (sep : List Char)
    (h : text ∈ texts) : ∃ before after, sep.intercalate texts = before ++ text ++ after := by
  induction texts with
  | nil => exact absurd h (by simp)
  | cons first texts ih =>
    cases texts with
    | nil =>
      obtain rfl := List.mem_singleton.mp h
      exact ⟨[], [], by simp⟩
    | cons second texts =>
      have hcons : sep.intercalate (first :: second :: texts) =
          first ++ sep ++ sep.intercalate (second :: texts) := by
        simp [List.intercalate]
      rcases List.mem_cons.mp h with rfl | hmem
      · exact ⟨[], sep ++ sep.intercalate (second :: texts), by rw [hcons]; simp⟩
      · obtain ⟨before, after, heq⟩ := ih hmem
        refine ⟨first ++ sep ++ before, after, ?_⟩
        rw [hcons, heq]
        simp only [List.append_assoc]

/-- A fault that blames the nonce is recognised as a clash. -/
theorem Fault.BlamesNonce.isClash {e : Fault} (h : e.BlamesNonce) : e.IsClash := by
  refine ⟨h.ordinary, ?_⟩
  obtain ⟨text, hmem, hspeaks⟩ := h.phrase
  obtain ⟨before, after, heq⟩ := exists_intercalate_eq [' '] hmem
  rw [h.asked.askClash, isNonceClash, heq, speaksOfNonce_append before after hspeaks]

/-! ## 3.  Honest collaborators, asked at the right numbers -/

/-- The source that answers and does nothing else. -/
def HonestSource.plain : HonestSource ν τ where
  answer chain account l :=
    match account with
    | .text a => ⟨.ok (l.next chain a), [], l⟩
    | _ => ⟨.ok 0, [], l⟩
  answers _ _ _ := rfl
  keeps _ _ _ := rfl

/-- The refusal of a nonce that is too low. -/
def Fault.nonceTooLow : Fault := .badValue "nonce too low"

theorem Fault.nonceTooLow_blamesNonce : nonceTooLow.BlamesNonce where
  ordinary := rfl
  asked := ⟨⟨"nonce too low", rfl⟩, rfl⟩
  phrase := ⟨nonceTooLow.chars, List.mem_cons_self, by decide⟩

/-- The callback that takes a nonce or refuses it, and does nothing else. -/
def HonestCallback.plain (chain : Int) (account : String) : HonestCallback ν τ chain account where
  send nonce l :=
    if nonce.numeral? = some (.whole (l.next chain account)) then
      ⟨.ok nonce, [], l.advance chain account⟩
    else ⟨.error .nonceTooLow, [], l⟩
  accepts l := ⟨.int (l.next chain account), congrArg Outcome.result (if_pos rfl)⟩
  advances l := by
    have heq : (Value.int (l.next chain account)).numeral? =
        some (.whole (l.next chain account)) := rfl
    rw [if_pos heq]
  refuses l i hi := by
    have hne : (Value.int i).numeral? ≠ some (.whole (l.next chain account)) := by
      simpa [Value.numeral?] using hi
    exact ⟨.nonceTooLow, congrArg Outcome.result (if_neg hne), Fault.nonceTooLow_blamesNonce⟩
  keeps l i hi := by
    have hne : (Value.int i).numeral? ≠ some (.whole (l.next chain account)) := by
      simpa [Value.numeral?] using hi
    rw [if_neg hne]

theorem Network.advance_congr {l l' : Network τ} (h : l.next = l'.next) (chain : Int)
    (account : String) : (l.advance chain account).next = (l'.advance chain account).next := by
  simp only [advance, h]

section Honest

variable (source : HonestSource ν τ) {chain : Int} {account : String}
  (callback : HonestCallback ν τ chain account) {l l₀ : Network τ}

theorem HonestSource.result_whole (chain : Int) (account : String) (h : l.next = l₀.next) :
    (NonceSource.whole source.answer chain (.text account) l).result =
      .ok (.int (l₀.next chain account)) := by
  rw [NonceSource.whole, Act.map_eq, source.answers, h]
  rfl

theorem HonestSource.next_whole (chain : Int) (account : String) (h : l.next = l₀.next) :
    (NonceSource.whole source.answer chain (.text account) l).next.next = l₀.next := by
  rw [NonceSource.whole, Act.map_eq, ← h]
  exact source.keeps chain account l

theorem HonestCallback.result_send (h : l.next = l₀.next) :
    ∃ tx, (callback.send (.int (l₀.next chain account)) l).result = .ok tx := by
  rw [← h]
  exact callback.accepts l

theorem HonestCallback.next_send (h : l.next = l₀.next) :
    (callback.send (.int (l₀.next chain account)) l).next.next =
      (l₀.advance chain account).next := by
  rw [← Network.advance_congr h, ← h]
  exact callback.advances l

end Honest

/-! ## 4.  The three ways of healing -/

/-- The traffic of a settlement that ends with the nonce that is right: the book had no nonce, it
had this one, or it had another. -/
inductive Healing (chain : Int) (account : Key) (right : Int) (tx : Value) : Talk → Prop
  | fresh :
      Healing chain account right tx
        (Talk.asksNonce chain account (.ok (.int right)) ++ Talk.submits (.int right) (.ok tx))
  | fitting : Healing chain account right tx (Talk.submits (.int right) (.ok tx))
  | stale {wrong : Int} (hwrong : wrong ≠ right) (e : Fault) :
      Healing chain account right tx
        (Talk.submits (.int wrong) (.error e) ++ Talk.asksNonce chain account (.ok (.int right)) ++
          Talk.submits (.int right) (.ok tx))

/-- How often the network is asked for a nonce. -/
def Talk.lookups (talk : Talk) : Nat :=
  talk.countP fun deed => match deed with
    | .asksNonce _ _ => true
    | _ => false

namespace Healing

variable {chain : Int} {account : Key} {right : Int} {tx : Value} {t : Talk}

theorem traffic_eq (h : Healing chain account right tx t) : Talk.traffic t = t := by
  cases h <;> rfl

/-- The network is asked once at most. -/
theorem lookups_le (h : Healing chain account right tx t) : Talk.lookups t ≤ 1 := by
  cases h with
  | fresh => exact Nat.le_refl 1
  | fitting => exact Nat.zero_le 1
  | stale hwrong e => exact Nat.le_refl 1

/-- There are two submissions at most. -/
theorem length_submissions_le (h : Healing chain account right tx t) :
    (Talk.submissions chain account t).length ≤ 2 := by
  cases h with
  | fresh => exact Nat.le_succ 1
  | fitting => exact Nat.le_succ 1
  | stale hwrong e => exact Nat.le_refl 2

/-- The one submission that returns has the nonce that is right. -/
theorem filter_returned (h : Healing chain account right tx t) :
    (Talk.submissions chain account t).filter Submission.returned =
      [⟨chain, account, .int right, .ok tx⟩] := by
  cases h <;> rfl

end Healing

/-- The traffic of a settlement that halts: at the nonce of the book, at the answer of the network, or
at the answer to the question after a refusal. -/
inductive Halting (chain : Int) (account : Key) (right : Int) : Talk → Prop
  | cached : Halting chain account right []
  | fresh : Halting chain account right (Talk.asksNonce chain account (.ok (.int right)))
  | stale {wrong : Int} (hwrong : wrong ≠ right) (e : Fault) :
      Halting chain account right
        (Talk.submits (.int wrong) (.error e) ++ Talk.asksNonce chain account (.ok (.int right)))

namespace Halting

variable {chain : Int} {account : Key} {right : Int} {t : Talk}

theorem traffic_eq (h : Halting chain account right t) : Talk.traffic t = t := by
  cases h <;> rfl

/-- The network is asked once at most. -/
theorem lookups_le (h : Halting chain account right t) : Talk.lookups t ≤ 1 := by
  cases h with
  | cached => exact Nat.zero_le 1
  | fresh => exact Nat.le_refl 1
  | stale hwrong e => exact Nat.le_refl 1

/-- There is one submission at most. -/
theorem length_submissions_le (h : Halting chain account right t) :
    (Talk.submissions chain account t).length ≤ 1 := by
  cases h with
  | cached => exact Nat.zero_le 1
  | fresh => exact Nat.zero_le 1
  | stale hwrong e => exact Nat.le_refl 1

/-- No submission returns. -/
theorem filter_returned (h : Halting chain account right t) :
    (Talk.submissions chain account t).filter Submission.returned = [] := by
  cases h <;> rfl

end Halting

namespace Desk

variable (source : HonestSource ν τ) {chain : Int} {account : String}
  (callback : HonestCallback ν τ chain account) {d d₁ : Desk (Network τ)}

/-- A settlement at an honest network, with its callback behind a listener. -/
def honestSettle (source : HonestSource ν τ) (callback : HonestCallback ν τ chain account) :
    Act (Deed Call) (Desk (Network τ)) Value :=
  settle (NonceSource.whole source.answer).heard chain (.ofText account)
    (SendCallback.heard callback.send)

/-- What a settlement at an honest network comes to if it is healed. -/
structure Settled (source : HonestSource ν τ) (callback : HonestCallback ν τ chain account)
    (d : Desk (Network τ)) (tx : Value) (t : Talk) (d' : Desk (Network τ)) : Prop where
  goes : Goes (honestSettle source callback) d (.ok tx) t d'
  healing : Healing chain (.ofText account) (d.world.next chain account) tx t
  book : d'.book = d.book.put (.ofText account) (.whole (d.world.next chain account + 1))
  next : d'.world.next = (d.world.advance chain account).next

/-- The numbers that a settlement may have to show can be written: that of the chain, that of the
network, and that of the book. -/
structure Legible (chain : Int) (account : String) (d : Desk (Network τ)) : Prop where
  chainShown : Literal.isWritable chain = true
  nextShown : Literal.isWritable (d.world.next chain account) = true
  cachedShown : ∀ i, d.book.get? (.ofText account) = some (.whole i) → Literal.isWritable i = true

/-- What a settlement at an honest network comes to if it halts. -/
structure Halted (source : HonestSource ν τ) (callback : HonestCallback ν τ chain account)
    (d : Desk (Network τ)) (t : Talk) (d' : Desk (Network τ)) : Prop where
  goes : Goes (honestSettle source callback) d (.error .tooManyDigits) t d'
  halting : Halting chain (.ofText account) (d.world.next chain account) t
  illegible : ¬ Legible chain account d
  book : d'.book = d.book
  next : d'.world.next = d.world.next

/-- An answer of the network can be written, or there is a number that cannot. -/
theorem exists_givenLine_or (chain : Int) (account : String) (d : Desk (Network τ)) :
    (∃ text, givenLine (.ofText account) chain (.int (d.world.next chain account)) = .ok text) ∨
      givenLine (.ofText account) chain (.int (d.world.next chain account)) =
          .error .tooManyDigits ∧ ¬ Legible chain account d := by
  cases hline : givenLine (.ofText account) chain (.int (d.world.next chain account)) with
  | ok text => exact .inl ⟨text, rfl⟩
  | error e =>
    refine .inr ⟨congrArg Except.error (eq_tooManyDigits_of_givenLine hline), fun hlegible => ?_⟩
    obtain ⟨text, htext⟩ := (exists_givenLine_iff (.ofText account) chain _).mpr
      ⟨Value.isWritable_text account, (Value.isWritable_int _).trans hlegible.chainShown,
        (Value.isWritable_int _).trans hlegible.nextShown⟩
    rw [hline] at htext
    exact absurd htext (by simp)

/-- Without a nonce in the book the network is asked, and its answer fits, if it can be written. -/
theorem exists_settled_or_halted_of_none (hcached : d.book.get? (.ofText account) = none) :
    (∃ tx t d', Settled source callback d tx t d') ∨ ∃ t d', Halted source callback d t d' := by
  have hasked := source.result_whole chain account (rfl : d.world.next = d.world.next)
  have hnext : (afterLookup (NonceSource.whole source.answer) chain (.ofText account) .cacheMiss
      d).world.next = d.world.next := source.next_whole chain account rfl
  obtain hline | ⟨hline, hillegible⟩ := exists_givenLine_or chain account d
  · have hfirst := firstNonce_goes_ok chain (.ofText account) hcached hasked hline
    obtain ⟨tx, htx⟩ := callback.result_send hnext
    have hsubmissions := submissions_goes_ok chain (.ofText account)
      (NonceSource.whole source.answer) htx
    exact .inl ⟨tx, _, _, hfirst.settle_sent chain (.ofText account) hsubmissions, .fresh, rfl,
      callback.next_send hnext⟩
  · have hlookup := lookup_goes_unshown chain (.ofText account) .cacheMiss hasked hline
    have hfirst := hlookup.firstNonce_of_none chain (.ofText account) hcached
    exact .inr ⟨_, _, hfirst.settle_unstarted chain (.ofText account), .fresh, hillegible, rfl,
      hnext⟩

/-- The right nonce in the book fits. -/
theorem exists_settled_of_fitting
    (hcached : d.book.get? (.ofText account) = some (.whole (d.world.next chain account)))
    (hline : ∃ text, usedLine (.ofText account) (.ofNumeral (.whole (d.world.next chain account))) =
      .ok text) :
    ∃ tx t d', Settled source callback d tx t d' := by
  have hfirst := firstNonce_goes_cached chain (.ofText account) (NonceSource.whole source.answer)
    hcached hline
  obtain ⟨tx, htx⟩ := callback.result_send (rfl : d.world.next = d.world.next)
  have hsubmissions := submissions_goes_ok chain (.ofText account)
    (NonceSource.whole source.answer) htx
  exact ⟨tx, _, _, hfirst.settle_sent chain (.ofText account) hsubmissions, .fitting, rfl,
    callback.next_send rfl⟩

/-- A wrong nonce in the book is refused, and the network's answer fits, if it can be written. -/
theorem exists_settled_or_halted_of_stale {i : Int} (hi : i ≠ d.world.next chain account)
    (hcached : d.book.get? (.ofText account) = some (.whole i))
    (hused : ∃ text, usedLine (.ofText account) (.ofNumeral (.whole i)) = .ok text) :
    (∃ tx t d', Settled source callback d tx t d') ∨ ∃ t d', Halted source callback d t d' := by
  have hfirst := firstNonce_goes_cached chain (.ofText account) (NonceSource.whole source.answer)
    hcached hused
  obtain ⟨e, he, hblames⟩ := callback.refuses d.world i hi
  have hshown : ∃ text, refusedLine (.ofText account) (.int i) e = .ok text := by
    have hwritable := ((exists_usedLine_iff (.ofText account) _).mp hused).1
    exact exists_refusedLine hwritable (Value.isWritable_text account) hblames.asked.speaks
  -- the refusal, the question and the second submission all see the numbers of the beginning
  have hrefused : (afterSubmission callback.send (.int i) d).world.next = d.world.next :=
    callback.keeps d.world i hi
  have hasked := source.result_whole chain account hrefused
  have hresynced : (afterResync (NonceSource.whole source.answer) chain (.ofText account)
      (afterSubmission callback.send (.int i) d)).world.next = d.world.next :=
    source.next_whole chain account hrefused
  obtain hline | ⟨hline, hillegible⟩ := exists_givenLine_or chain account d
  · obtain ⟨tx, htx⟩ := callback.result_send hresynced
    have hresync := resync_goes_recovered chain (.ofText account) hshown hasked hline htx
    have hsubmissions := submissions_goes_clash chain (.ofText account) he hblames.isClash hresync
    have hsettle := hfirst.settle_sent chain (.ofText account) hsubmissions
    rw [List.nil_append, ← List.append_assoc] at hsettle
    exact .inl ⟨tx, _, _, hsettle, .stale hi e, rfl, callback.next_send hresynced⟩
  · have hlookup := lookup_goes_unshown (d := afterClash (afterSubmission callback.send (.int i) d))
      chain (.ofText account) .nonceError hasked hline
    have hresync := resync_goes_unsynced chain (.ofText account) callback.send hshown hlookup
    have hsubmissions := submissions_goes_clash chain (.ofText account) he hblames.isClash hresync
    have hsettle := hfirst.settle_failed chain (.ofText account) hsubmissions
    rw [List.nil_append] at hsettle
    exact .inr ⟨_, _, hsettle, .stale hi e, hillegible, rfl, hresynced⟩

/-- **A settlement at an honest network heals itself**, whatever whole number the book has, or it
halts at a number that cannot be written. -/
theorem exists_settled_or_halted
    (hwhole : ∀ n, d.book.get? (.ofText account) = some n → ∃ i : Int, n = .whole i) :
    (∃ tx t d', Settled source callback d tx t d') ∨ ∃ t d', Halted source callback d t d' := by
  cases hcached : d.book.get? (.ofText account) with
  | none => exact exists_settled_or_halted_of_none source callback hcached
  | some n =>
    obtain ⟨i, rfl⟩ := hwhole n hcached
    cases hused : usedLine (.ofText account) (.ofNumeral (.whole i)) with
    | error e =>
      obtain rfl := eq_tooManyDigits_of_usedLine hused
      have hfirst := firstNonce_goes_unshown chain (.ofText account)
        (NonceSource.whole source.answer) hcached hused
      refine .inr ⟨_, d, hfirst.settle_unstarted chain (.ofText account), .cached, ?_, rfl, rfl⟩
      intro hlegible
      obtain ⟨text, htext⟩ := (exists_usedLine_iff (.ofText account) (.int i)).mpr
        ⟨(Value.isWritable_int i).trans (hlegible.cachedShown i hcached),
          Value.isWritable_text account⟩
      exact absurd (htext.symm.trans hused) (by simp)
    | ok text =>
      by_cases hi : i = d.world.next chain account
      · rw [hi] at hcached hused
        exact .inl (exists_settled_of_fitting source callback hcached ⟨text, hused⟩)
      · exact exists_settled_or_halted_of_stale source callback hi hcached ⟨text, hused⟩

end Desk
end Outbox
