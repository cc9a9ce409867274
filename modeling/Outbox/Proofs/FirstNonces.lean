import Outbox.Proofs.LastUsed

/-!
# First nonces, and the chains that share a book

The book keeps one nonce for every account, and an account may send on several chains, which
number its transactions each for itself.  So there are two questions about the first nonce of a
move.

* What is it?  `Desk.beginsByHistory`: if no submission for the account has ever returned, on
  whatever chain, then the network is asked first, for the chain of the move, and what it answers
  is submitted first; and otherwise the network is not asked, and one more than the last nonce of
  the account is submitted first, **whatever chain that nonce was used on**.
* Does it belong to the chain of the move?  Not always: `not_choosesOnItsChain` is a run of two
  requests for one account in which the second, on another chain, begins with the successor of
  the nonce of the first.

The second is no accident, since a nonce that does not fit is refused and the network is asked
then; but a nonce that is too high may be accepted and wait for others that never come.
-/

namespace Outbox

variable {ν σ : Type}

/-! ## 1.  How a settlement begins -/

/-- The network is asked first, and what it answers is submitted. -/
def Submission.AsksFirst (first : Submission) (talk : Talk) : Prop :=
  ∃ rest, Talk.traffic talk =
    Talk.asksNonce first.chain first.account (.ok first.nonce) ++
      Talk.submits first.nonce first.answer ++ rest

/-- The submission is made before the network is asked for anything. -/
def Submission.GoesFirst (first : Submission) (talk : Talk) : Prop :=
  ∃ rest, Talk.traffic talk = Talk.submits first.nonce first.answer ++ rest

/-- Where the first nonce comes from, by what the book has. -/
def Submission.ComesFrom (first : Submission) (talk : Talk) : Option Numeral → Prop
  | none => first.AsksFirst talk
  | some n => first.nonce = .ofNumeral n ∧ first.GoesFirst talk

section Beginnings

variable {given : Value → Prop} {chain : Int} {account : Key} {cached : Option Numeral} {t : Talk}
  {ending : Ending}

/-- A settlement begins with its first nonce and the submission of it, unless there is none. -/
theorem Sending.exists_first (h : Sending given chain account cached t ending) :
    (∃ e, NoFirstNonce given chain account cached t e) ∨
      ∃ t' v answer rest, FirstNonce given chain account cached t' v ∧
        t = t' ++ Talk.submits v answer ++ rest := by
  cases h with
  | unstarted hnone => exact .inl ⟨_, hnone⟩
  | sent hfirst => exact .inr ⟨_, _, _, [], hfirst, (List.append_nil _).symm⟩
  | stopped hfirst hclash => exact .inr ⟨_, _, _, [], hfirst, (List.append_nil _).symm⟩
  | unsynced hfirst hclash hnone => exact .inr ⟨_, _, _, _, hfirst, rfl⟩
  | lost hfirst hclash hgiven => exact .inr ⟨_, _, _, _, hfirst, List.append_assoc _ _ _⟩
  | recovered hfirst hclash hgiven => exact .inr ⟨_, _, _, _, hfirst, List.append_assoc _ _ _⟩

/-- If there is no first nonce, then nothing is said, or the book has none and the network is asked
in vain. -/
theorem NoFirstNonce.quiet_or_asked {e : Fault}
    (h : NoFirstNonce given chain account cached t e) :
    t = [] ∨ cached = none ∧ NoNonce given chain account t e := by
  cases h with
  | unshown n hline => exact .inl rfl
  | unasked hnone => exact .inr ⟨rfl, hnone⟩

/-- What is submitted first is what the network has answered, if the book has nothing, and what
the book has otherwise. -/
theorem Sending.first_origin (h : Sending given chain account cached t ending) {first : Submission}
    {rest : List Submission} (hfirst : Talk.submissions chain account t = first :: rest) :
    first.account = account ∧ first.ComesFrom t cached := by
  have htraffic := h.traffic_eq
  obtain ⟨e, hnone⟩ | ⟨t', v, answer, after, hnonce, rfl⟩ := h.exists_first
  · rw [hnone.submissions_eq] at hfirst
    exact absurd hfirst (by simp)
  · rw [Talk.submissions_append, Talk.submissions_append, hnonce.submissions_eq,
      Talk.submissions_submits, List.nil_append] at hfirst
    obtain ⟨rfl, -⟩ := List.cons.inj hfirst
    refine ⟨rfl, ?_⟩
    cases hnonce with
    | cached n hline => exact ⟨rfl, after, htraffic⟩
    | answered hgiven => exact ⟨after, htraffic⟩

end Beginnings

/-- Only the traffic of a conversation counts. -/
theorem Submission.ComesFrom.of_traffic {first : Submission} {talk : Talk} {cached : Option Numeral}
    (h : first.ComesFrom (Talk.traffic talk) cached) : first.ComesFrom talk cached := by
  have htwice : Talk.traffic (Talk.traffic talk) = Talk.traffic talk := by
    rw [Talk.traffic, Talk.traffic, List.filter_filter]
    simp only [Bool.and_self]
  cases cached with
  | none =>
    obtain ⟨rest, hrest⟩ := h
    rw [htwice] at hrest
    exact ⟨rest, hrest⟩
  | some n =>
    obtain ⟨hnonce, rest, hrest⟩ := h
    rw [htwice] at hrest
    exact ⟨hnonce, rest, hrest⟩

/-- The same of a move: what is submitted first is decided by what the book has. -/
theorem Move.first_origin (move : Move ν σ) (d : Desk σ) {first : Submission}
    {rest : List Submission} (hfirst : move.submissions d = first :: rest) :
    first.ComesFrom (move.talk d) (d.book.get? first.account) := by
  obtain ⟨hquiet, -⟩ | ⟨account, ending, haccount, hsending, -⟩ := move.comes d
  · rw [submissions_of_quiet hquiet] at hfirst
    exact absurd hfirst (by simp)
  · rw [submissions_of_account haccount] at hfirst
    obtain ⟨haccount', horigin⟩ := hsending.first_origin hfirst
    rw [haccount']
    exact horigin.of_traffic

/-- A move that submits nothing has no traffic, or the network was asked in vain for what the book
does not have. -/
theorem Move.traffic_of_nil (move : Move ν σ) (d : Desk σ) (hnil : move.submissions d = []) :
    Talk.traffic (move.talk d) = [] ∨
      ∃ account e, d.book.get? account = none ∧
        NoNonce Value.IsWhole move.chain account (Talk.traffic (move.talk d)) e := by
  obtain ⟨hquiet, -⟩ | ⟨account, ending, haccount, hsending, -⟩ := move.comes d
  · exact .inl hquiet
  · rw [submissions_of_account haccount] at hnil
    obtain ⟨e, hnone⟩ | ⟨t, v, answer, rest, hfirst, htraffic⟩ := hsending.exists_first
    · exact hnone.quiet_or_asked.imp id fun ⟨hcached, hasked⟩ => ⟨_, e, hcached, hasked⟩
    · rw [htraffic, Talk.submissions_append, Talk.submissions_append, Talk.submissions_submits]
        at hnil
      exact absurd hnil (by simp)

/-! ## 2.  First nonces and the past -/

/-- Where the first nonce comes from, by the last nonce of the account. -/
def Submission.Continues (first : Submission) (talk : Talk) : Option Value → Prop
  | none => first.AsksFirst talk
  | some last => ∃ i : Int, last = .int i ∧ first.nonce = .int (i + 1) ∧ first.GoesFirst talk

/-- The first nonce of a move is what the past says: the network's answer if no submission for the
account has returned, and one more than the last nonce of the account otherwise.  There is none
if the move has no traffic, or if the network was asked in vain, which it is only if no submission
for the account has returned: it did not answer, or its answer has too many digits to be written
into the log. -/
def Move.BeginsByPast (past : List Submission) (move : Move ν σ) (d : Desk σ) : Prop :=
  match move.submissions d with
  | [] =>
    Talk.traffic (move.talk d) = [] ∨
      ∃ account e, lastReturned (Submission.isFor account) past = none ∧
        NoNonce Value.IsWhole move.chain account (Talk.traffic (move.talk d)) e
  | first :: _ =>
    first.Continues (move.talk d) (lastReturned (Submission.isFor first.account) past)

/-- A move at a desk whose book follows the past begins as the past says. -/
theorem NonceBook.Follows.beginsByPast {past : List Submission} {d : Desk σ}
    (h : d.book.Follows past) (move : Move ν σ) : move.BeginsByPast past d := by
  unfold Move.BeginsByPast
  cases hsubmissions : move.submissions d with
  | nil =>
    obtain hquiet | ⟨account, e, hcached, hasked⟩ := move.traffic_of_nil d hsubmissions
    · exact .inl hquiet
    · obtain ⟨hlast, -⟩ | ⟨i, -, hsome⟩ := h account
      · exact .inr ⟨account, e, hlast, hasked⟩
      · exact absurd (hcached.symm.trans hsome) (by simp)
  | cons first rest =>
    have horigin := move.first_origin d hsubmissions
    show first.Continues (move.talk d) _
    obtain ⟨hlast, hcached⟩ | ⟨i, hlast, hcached⟩ := h first.account
    · rw [hcached] at horigin
      rw [hlast]
      exact horigin
    · rw [hcached] at horigin
      rw [hlast]
      exact ⟨i, rfl, horigin⟩

/-- **The first nonce is decided by the last submission for the account that has returned, on
whatever chain.**  This holds of every move after every run from an empty book. -/
theorem Desk.beginsByHistory (counters : Counters) (world : σ) (moves : List (Move ν σ))
    (move : Move ν σ) :
    move.BeginsByPast (history moves (fresh counters world)) (run moves (fresh counters world)) :=
  (follows_run_fresh counters world moves).beginsByPast move

/-! ## 3.  Another chain -/

/-- The first nonce of a move is of its own chain: the network has answered with it in this very
move, or it is one more than the last nonce of the account on this chain. -/
def Move.ChoosesOnItsChain (past : List Submission) (move : Move ν σ) (d : Desk σ) : Prop :=
  match move.submissions d with
  | [] => True
  | first :: _ =>
    .passes (.nonce first.chain first.account.value (.ok first.nonce)) ∈ move.talk d ∨
      ∃ i : Int, lastReturned (Submission.isOn first.chain first.account) past = some (.int i) ∧
        first.nonce = .int (i + 1)

namespace TwoChains

/-- A gate that lets everyone in. -/
def gate : Gate Empty Unit where
  canQueue _ := pure true
  canSign _ := pure true
  insert _ _ _ := pure ()

/-- A request that is accepted. -/
def request : Request where
  sender := .text "0x1111111111111111111111111111111111111111"
  terms := .terms ⟨.int 2, .int 100, .int 60, .int 5⟩

/-- The request is dispatched on a chain whose network would answer five; the callback takes every
nonce. -/
def move (chain : Int) : Move Empty Unit :=
  .dispatch gate (fun _ _ => pure 5) none chain request fun _ => pure .null

/-- The desk at which nothing has been sent. -/
def desk : Desk Unit := .fresh .empty ()

end TwoChains

open TwoChains in
/-- **A first nonce need not be of its own chain.**  After a request on the first chain has used
the nonce five, one on the fifty-sixth begins with six, although nothing has been sent there and
the network has not been asked. -/
theorem not_choosesOnItsChain :
    ¬ (move 56).ChoosesOnItsChain (history [move 1] desk) (run [move 1] desk) := by
  have hsubmissions : (move 56).submissions (run [move 1] desk) =
      [⟨56, .ofText "0x1111111111111111111111111111111111111111", .int 6, .ok .null⟩] := rfl
  have htraffic : Talk.traffic ((move 56).talk (run [move 1] desk)) =
      Talk.submits (.int 6) (.ok .null) := rfl
  have hpast : lastReturned
      (Submission.isOn 56 (.ofText "0x1111111111111111111111111111111111111111"))
      (history [move 1] desk) = none := rfl
  unfold Move.ChoosesOnItsChain
  rw [hsubmissions]
  rintro (hasked | ⟨i, hlast, -⟩)
  · have hmem : _ ∈ Talk.traffic ((move 56).talk (run [move 1] desk)) :=
      List.mem_filter.mpr ⟨hasked, rfl⟩
    rw [htraffic] at hmem
    exact absurd hmem (by simp [Talk.submits])
  · rw [hpast] at hlast
    exact absurd hlast (by simp)

end Outbox
