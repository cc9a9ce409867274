import Outbox.Proofs.Moves

/-!
# The book and the nonces that were last used

The book is advice, and the question is what it advises.  The answer is a single law: **under
every account the book has one more than the nonce of the last submission for that account that
has returned, and under an account for which none has ever returned it has nothing**
(`NonceBook.Follows`).

The law holds of an empty book and no history, every move keeps it (`NonceBook.Follows.move`),
and so it holds after every run (`NonceBook.Follows.run`).  A run may mix requests and single
settlements, forced or not, for any accounts on any chains, and its collaborators may answer and
fail in every way, orders to stop included.

The law speaks of the last submission that has returned and not of the highest nonce: after a
second chance the network's nonce counts, be it lower or higher than the one that was refused.
-/

namespace Outbox

variable {ν σ : Type}

/-! ## The last submission that has returned -/

/-- The submission is for the account. -/
def Submission.isFor (account : Key) (s : Submission) : Bool := s.account.same account

/-- The submission is for the account on the chain. -/
def Submission.isOn (chain : Int) (account : Key) (s : Submission) : Bool :=
  s.chain == chain && s.isFor account

theorem Submission.isOn_iff (chain : Int) (account : String) (s : Submission) :
    s.isOn chain (.ofText account) = true ↔ s.chain = chain ∧ s.account = .ofText account := by
  rw [isOn, Bool.and_eq_true, beq_iff_eq, isFor, Key.same_ofText]

/-- The nonces of the submissions of a kind that have returned. -/
def returnedNonces (kind : Submission → Bool) (history : List Submission) : List Value :=
  (history.filter fun s => kind s && s.returned).map Submission.nonce

/-- The nonce of the last submission of a kind that has returned. -/
def lastReturned (kind : Submission → Bool) (history : List Submission) : Option Value :=
  (returnedNonces kind history).getLast?

@[simp] theorem returnedNonces_append (kind : Submission → Bool) (xs ys : List Submission) :
    returnedNonces kind (xs ++ ys) = returnedNonces kind xs ++ returnedNonces kind ys := by
  rw [returnedNonces, List.filter_append, List.map_append]
  rfl

/-- Submissions that have not returned have no nonce among them. -/
theorem returnedNonces_refused (kind : Submission → Bool) {refused : List Submission}
    (hrefused : ∀ s ∈ refused, s.returned = false) : returnedNonces kind refused = [] := by
  rw [returnedNonces, List.map_eq_nil_iff, List.filter_eq_nil_iff]
  intro s hs
  rw [hrefused s hs, Bool.and_false]
  exact Bool.false_ne_true

/-- A submission that has returned has its nonce among those of its kinds. -/
theorem returnedNonces_returned (kind : Submission → Bool) {s : Submission}
    (hs : s.returned = true) : returnedNonces kind [s] = if kind s then [s.nonce] else [] := by
  cases hkind : kind s <;> simp [returnedNonces, hkind, hs]

/-- Submissions that have not returned do not count. -/
theorem lastReturned_append_refused (kind : Submission → Bool) (history : List Submission)
    {refused : List Submission} (hrefused : ∀ s ∈ refused, s.returned = false) :
    lastReturned kind (history ++ refused) = lastReturned kind history := by
  rw [lastReturned, returnedNonces_append, returnedNonces_refused kind hrefused, List.append_nil]
  rfl

/-- A submission that has returned is the last one of its kinds, and of no other kind. -/
theorem lastReturned_concat (kind : Submission → Bool) (history : List Submission)
    {s : Submission} (hs : s.returned = true) :
    lastReturned kind (history ++ [s]) =
      if kind s then some s.nonce else lastReturned kind history := by
  rw [lastReturned, returnedNonces_append, returnedNonces_returned kind hs]
  cases hkind : kind s with
  | true => exact List.getLast?_concat
  | false =>
    rw [if_neg Bool.false_ne_true, if_neg Bool.false_ne_true, List.append_nil]
    rfl

/-! ## The law -/

/-- The book has, under every account, one more than the nonce of the last submission for it that
has returned. -/
def NonceBook.Follows (book : NonceBook) (history : List Submission) : Prop :=
  ∀ account : Key,
    (lastReturned (Submission.isFor account) history = none ∧ book.get? account = none) ∨
      ∃ i : Int, lastReturned (Submission.isFor account) history = some (.int i) ∧
        book.get? account = some (.whole (i + 1))

/-- The book has whole numbers only. -/
def NonceBook.IsWhole (book : NonceBook) : Prop :=
  ∀ (account : Key) (n : Numeral), book.get? account = some n → ∃ i : Int, n = .whole i

namespace NonceBook

variable {book book' : NonceBook} {past submissions : List Submission}

theorem follows_empty : NonceBook.empty.Follows [] := fun _ => .inl ⟨rfl, rfl⟩

/-- A book that follows a history has whole numbers only. -/
theorem Follows.isWhole (h : book.Follows past) : book.IsWhole := by
  intro account n hn
  obtain ⟨-, hnone⟩ | ⟨i, -, hsome⟩ := h account
  · rw [hn] at hnone
    exact absurd hnone (by simp)
  · rw [hn] at hsome
    exact ⟨i + 1, Option.some.inj hsome⟩

/-- The law is kept by whatever the submissions of a move may do to the book. -/
theorem Follows.write (h : book.Follows past) (hwriting : Writing book submissions book') :
    book'.Follows (past ++ submissions) := by
  intro account
  cases hwriting with
  | nothing hrefused =>
    rw [lastReturned_append_refused _ past hrefused]
    exact h account
  | @next refused chain name n tx hrefused hnonce =>
    have hwhole : ∃ i : Int, n = .whole i := by
      rcases hnonce with hcached | hfresh
      · exact h.isWhole _ _ hcached
      · exact hfresh
    obtain ⟨i, rfl⟩ := hwhole
    rw [← List.append_assoc, lastReturned_concat _ _ rfl,
      lastReturned_append_refused _ past hrefused, get?_put_key]
    by_cases hsame : (Key.ofText name).same account = true
    · -- the account that was written
      refine .inr ⟨i, ?_, ?_⟩
      · exact if_pos hsame
      · exact if_pos hsame
    · -- every other account
      have hother : ¬ Submission.isFor account
          ⟨chain, .ofText name, .ofNumeral (.whole i), .ok tx⟩ = true := hsame
      rw [if_neg hother, if_neg hsame]
      exact h account

theorem Follows.move {d : Desk σ} (h : d.book.Follows past) (move : Move ν σ) :
    (move.act d).next.book.Follows (past ++ move.submissions d) :=
  h.write (move.writes d)

theorem Follows.run {d : Desk σ} (h : d.book.Follows past) (moves : List (Move ν σ)) :
    (run moves d).book.Follows (past ++ history moves d) := by
  induction moves generalizing d past with
  | nil =>
    rw [history, List.append_nil]
    exact h
  | cons move moves ih =>
    rw [history, ← List.append_assoc]
    exact ih (h.move move)

end NonceBook

/-- A desk before its first move. -/
def Desk.fresh (counters : Counters) (world : σ) : Desk σ := ⟨.empty, counters, world⟩

/-- **After every run the book follows the history.** -/
theorem Desk.follows_run_fresh (counters : Counters) (world : σ) (moves : List (Move ν σ)) :
    (run moves (fresh counters world)).book.Follows (history moves (fresh counters world)) := by
  have hstart : (fresh counters world).book.Follows [] := NonceBook.follows_empty
  exact hstart.run moves

/-! ## What a single move leaves alone -/

section Frame

variable {book book' : NonceBook} {submissions : List Submission}

/-- If no submission returns, the book stays as it is. -/
theorem Writing.book_of_refused (h : Writing book submissions book')
    (hrefused : ∀ s ∈ submissions, s.returned = false) : book' = book := by
  cases h with
  | nothing _ => rfl
  | @next refused chain account n tx _ _ =>
    have hlast := hrefused ⟨chain, .ofText account, .ofNumeral n, .ok tx⟩ (by simp)
    exact absurd hlast (by simp [Submission.returned])

/-- If a submission returns, only its own account changes. -/
theorem Writing.get?_of_returned (h : Writing book submissions book') {s : Submission}
    (hs : s ∈ submissions) (hreturned : s.returned = true) {other : Key}
    (hother : other ≠ s.account) :
    book'.get? other = book.get? other := by
  cases h with
  | nothing hrefused =>
    exact absurd (hreturned.symm.trans (hrefused s hs)) (by simp)
  | @next refused chain account n tx hrefused _ =>
    rcases List.mem_append.mp hs with hmem | hlast
    · exact absurd (hreturned.symm.trans (hrefused s hmem)) (by simp)
    · obtain rfl := List.mem_singleton.mp hlast
      rw [NonceBook.get?_put_key, if_neg]
      intro hsame
      exact hother ((Key.ofText_same other account).mp hsame)

end Frame

/-- A settlement returns a transaction exactly if one of its submissions has returned. -/
theorem Desk.settle_returns_iff (answer : Int → Value → Act ν σ Int) (chain : Int)
    (account : String) (send : SendCallback ν σ) (d : Desk σ) :
    (∃ tx, (settle (.whole answer) chain (.ofText account) send d).result = .ok tx) ↔
      ∃ s ∈ (Move.settle answer chain account send).submissions d, s.returned = true := by
  obtain ⟨ending, hsending, hresult, -⟩ :=
    settle_sending (NonceSource.whole answer) send chain (.ofText account) d
  have hwhole := hsending.mono fun _ => NonceSource.isWhole_of_gives
  show _ ↔ ∃ s ∈ Talk.submissions chain (.ofText account) (settleTalk _ _ _ _ d), _
  rw [hresult]
  cases ending with
  | failed e =>
    constructor
    · rintro ⟨tx, htx⟩
      exact absurd htx (by simp [Ending.result])
    · rintro ⟨s, hs, hreturned⟩
      exact absurd (hreturned.symm.trans (hwhole.refused s hs)) (by simp)
  | sent v tx =>
    -- a nonce that has been used is a number, and after a number there is always a next one
    obtain ⟨refused, -, hsubmissions⟩ := hwhole.exists_refused
    obtain ⟨n, rfl, -⟩ := hwhole.origin
    rw [Ending.result_sent, Nonce.next_ofNumeral, hsubmissions]
    constructor
    · intro _
      exact ⟨_, List.mem_append_right _ (List.mem_singleton_self _), rfl⟩
    · intro _
      exact ⟨tx, rfl⟩

/-- What holds of a desk with a past, now and in its next move. -/
structure Desk.KeepsBook (ν : Type) (d : Desk σ) (past : List Submission) : Prop where
  /-- The book has one more than the last nonces of the past, and nothing else. -/
  follows : d.book.Follows past
  /-- A move of which no submission returns leaves the whole book as it is. -/
  refused (move : Move ν σ) (hrefused : ∀ s ∈ move.submissions d, s.returned = false) :
    (move.act d).next.book = d.book
  /-- A submission that returns changes what the book has under its own account only. -/
  returned (move : Move ν σ) (s : Submission) (hs : s ∈ move.submissions d)
    (hreturned : s.returned = true) (other : Key) (hother : other ≠ s.account) :
    (move.act d).next.book.get? other = d.book.get? other
  /-- A settlement returns a transaction exactly if one of its submissions has returned. -/
  settled (answer : Int → Value → Act ν σ Int) (chain : Int) (account : String)
    (send : SendCallback ν σ) :
    (∃ tx, (settle (.whole answer) chain (.ofText account) send d).result = .ok tx) ↔
      ∃ s ∈ (Move.settle answer chain account send).submissions d, s.returned = true
  /-- A settlement that fails, in whatever way, leaves the whole book as it is. -/
  failed (answer : Int → Value → Act ν σ Int) (chain : Int) (account : String)
    (send : SendCallback ν σ) (e : Fault)
    (hfails : (settle (.whole answer) chain (.ofText account) send d).result = .error e) :
    (settle (.whole answer) chain (.ofText account) send d).next.book = d.book

/-- **The book tells the last nonces.**  This holds of every desk that began with an empty book,
after every run. -/
theorem Desk.keepsBook_run (counters : Counters) (world : σ) (moves : List (Move ν σ)) :
    KeepsBook ν (run moves (fresh counters world)) (history moves (fresh counters world)) where
  follows := follows_run_fresh counters world moves
  refused move hrefused := (move.writes _).book_of_refused hrefused
  returned move _ hs hreturned _ hother := (move.writes _).get?_of_returned hs hreturned hother
  settled answer chain account send := settle_returns_iff answer chain account send _
  failed answer chain account send e hfails := by
    refine ((Move.settle answer chain account send).writes _).book_of_refused ?_
    intro s hs
    cases hreturned : s.returned with
    | false => rfl
    | true =>
      obtain ⟨tx, htx⟩ := (settle_returns_iff answer chain account send _).mpr ⟨s, hs, hreturned⟩
      exact absurd (htx.symm.trans hfails) (by simp)

end Outbox
