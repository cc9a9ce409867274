import Outbox.Proofs.Dispatching

/-!
# Moves, runs and histories

A desk is used over and over, for requests and for single settlements, for many accounts on many
chains, and what it promises in the long run is promised of every order of these.  A `Move` is
one use of the desk, together with everything that its collaborators do meanwhile, and a run is
a list of moves.

What a run leaves behind is its history: every submission that was made, with the account and
the chain that it was made for, the nonce, and the answer.  It is read off what is said, so a
submission that is not heard is none.

## What a single move does

Two facts about a move are all that statements about runs are proved from, and neither the
protocol nor the acts of the desk are needed again.

* `Move.comes`: a move has no traffic with the network at all, or its traffic is that of a single
  settlement.
* `Move.writes`: either no submission returns, and the book is as it was; or the last submission
  returns, and none before it does, and the book has then the next nonce for that account.  The
  nonce itself is the one that the book had, or a whole number from the network.
-/

namespace Outbox

variable {ν σ : Type}

/-! ## 1.  Submissions -/

/-- A submission that was made: for whom, with which nonce, and what came of it. -/
structure Submission where
  chain : Int
  account : Key
  nonce : Value
  answer : Except Fault Value

/-- The submission has returned. -/
def Submission.returned (s : Submission) : Bool :=
  match s.answer with
  | .ok _ => true
  | .error _ => false

/-- The submission that is heard in a deed, if one is. -/
def Deed.submission? (chain : Int) (account : Key) : Deed Call → Option Submission
  | .passes (.send nonce answer) => some ⟨chain, account, nonce, answer⟩
  | _ => none

/-- The deed is about a nonce or a submission. -/
def Deed.isTraffic : Deed Call → Bool
  | .asksNonce _ _ => true
  | .sends _ => true
  | .passes (.nonce _ _ _) => true
  | .passes (.send _ _) => true
  | _ => false

namespace Talk

/-- The part of a conversation that is about nonces and submissions. -/
def traffic (talk : Talk) : Talk := talk.filter Deed.isTraffic

/-- The submissions of a conversation that is about an account on a chain. -/
def submissions (chain : Int) (account : Key) (talk : Talk) : List Submission :=
  talk.filterMap (Deed.submission? chain account)

@[simp] theorem traffic_append (s t : Talk) : traffic (s ++ t) = traffic s ++ traffic t :=
  List.filter_append s t

@[simp] theorem traffic_asksNonce (chain : Int) (account : Key) (answer : Except Fault Value) :
    traffic (asksNonce chain account answer) = asksNonce chain account answer := rfl

@[simp] theorem traffic_submits (nonce : Value) (answer : Except Fault Value) :
    traffic (submits nonce answer) = submits nonce answer := rfl

theorem traffic_admission {sender : Address} {cached : Option Numeral} {forced : Bool} {t : Talk}
    {r : Except Fault Unit} (h : Admission sender cached forced t r) : traffic t = [] := by
  cases h <;> rfl

theorem traffic_registration {attached : Bool} {tx : Value} {terms : Terms} {sender : Address}
    {cached : Option Numeral} {t : Talk} {r : Except Fault Unit}
    (h : Registration attached tx terms sender cached t r) : traffic t = [] := by
  cases h <;> rfl

variable (chain : Int) (account : Key)

@[simp] theorem submissions_append (s t : Talk) :
    submissions chain account (s ++ t) =
      submissions chain account s ++ submissions chain account t :=
  List.filterMap_append

@[simp] theorem submissions_submits (nonce : Value) (answer : Except Fault Value) :
    submissions chain account (submits nonce answer) = [⟨chain, account, nonce, answer⟩] := rfl

@[simp] theorem submissions_asksNonce (c : Int) (k : Key) (answer : Except Fault Value) :
    submissions chain account (asksNonce c k answer) = [] := rfl

/-- Submissions are traffic. -/
theorem submissions_traffic (t : Talk) :
    submissions chain account (traffic t) = submissions chain account t := by
  rw [submissions, traffic, List.filterMap_filter]
  refine congrArg (fun f => List.filterMap f t) ?_
  funext deed
  rcases deed with _ | _ | _ | _ | _ | _ | _ | call
  · rfl
  · rfl
  · rfl
  · rfl
  · rfl
  · rfl
  · rfl
  · cases call <;> rfl

end Talk

/-! ## 2.  The submissions of a settlement -/

section Settlements

variable {given : Value → Prop} {chain : Int} {account : Key} {cached : Option Numeral} {t : Talk}

theorem FirstNonce.traffic_eq {v : Value} (h : FirstNonce given chain account cached t v) :
    Talk.traffic t = t := by
  cases h <;> rfl

theorem FirstNonce.submissions_eq {v : Value} (h : FirstNonce given chain account cached t v) :
    Talk.submissions chain account t = [] := by
  cases h <;> rfl

theorem NoNonce.traffic_eq {e : Fault} (h : NoNonce given chain account t e) :
    Talk.traffic t = t := by
  cases h <;> rfl

theorem NoNonce.submissions_eq {e : Fault} (h : NoNonce given chain account t e) :
    Talk.submissions chain account t = [] := by
  cases h <;> rfl

theorem NoFirstNonce.traffic_eq {e : Fault} (h : NoFirstNonce given chain account cached t e) :
    Talk.traffic t = t := by
  cases h with
  | unshown n hline => rfl
  | unasked hnone => exact hnone.traffic_eq

theorem NoFirstNonce.submissions_eq {e : Fault}
    (h : NoFirstNonce given chain account cached t e) : Talk.submissions chain account t = [] := by
  cases h with
  | unshown n hline => rfl
  | unasked hnone => exact hnone.submissions_eq

/-- A settlement is about nonces and submissions only. -/
theorem Sending.traffic_eq {ending : Ending} (h : Sending given chain account cached t ending) :
    Talk.traffic t = t := by
  cases h with
  | unstarted hnone => exact hnone.traffic_eq
  | sent hfirst => simp [hfirst.traffic_eq]
  | stopped hfirst hclash => simp [hfirst.traffic_eq]
  | unsynced hfirst hclash hnone => simp [hfirst.traffic_eq, hnone.traffic_eq]
  | lost hfirst hclash hgiven => simp [hfirst.traffic_eq]
  | recovered hfirst hclash hgiven => simp [hfirst.traffic_eq]

/-- Of a settlement that fails no submission has returned. -/
theorem Sending.refused {e : Fault} (h : Sending given chain account cached t (.failed e)) :
    ∀ s ∈ Talk.submissions chain account t, s.returned = false := by
  intro s hs
  cases h with
  | unstarted hnone => simp [hnone.submissions_eq] at hs
  | stopped hfirst hclash =>
    simp only [Talk.submissions_append, hfirst.submissions_eq, Talk.submissions_submits,
      List.nil_append, List.mem_singleton] at hs
    rw [hs]
    rfl
  | unsynced hfirst hclash hnone =>
    simp only [Talk.submissions_append, hfirst.submissions_eq, Talk.submissions_submits,
      hnone.submissions_eq, List.nil_append, List.append_nil, List.mem_singleton] at hs
    rw [hs]
    rfl
  | lost hfirst hclash hgiven =>
    simp only [Talk.submissions_append, hfirst.submissions_eq, Talk.submissions_submits,
      Talk.submissions_asksNonce, List.nil_append, List.append_nil, List.mem_append,
      List.mem_singleton] at hs
    obtain rfl | rfl := hs <;> rfl

/-- Of a settlement that ends well the last submission has returned, and none before it. -/
theorem Sending.exists_refused {v tx : Value}
    (h : Sending given chain account cached t (.sent v tx)) :
    ∃ refused : List Submission, (∀ s ∈ refused, s.returned = false) ∧
      Talk.submissions chain account t = refused ++ [⟨chain, account, v, .ok tx⟩] := by
  cases h with
  | sent hfirst =>
    refine ⟨[], by simp, ?_⟩
    rw [Talk.submissions_append, hfirst.submissions_eq, Talk.submissions_submits]
  | @recovered t' v' m tx e hfirst hclash hgiven =>
    refine ⟨[⟨chain, account, v', .error e⟩], ?_, ?_⟩
    · intro s hs
      obtain rfl := List.mem_singleton.mp hs
      rfl
    · simp [hfirst.submissions_eq]

end Settlements

/-! ## 3.  Moves -/

/-- A use of the desk, with all that its collaborators do meanwhile.  The network answers with
whole numbers or fails. -/
inductive Move (ν σ : Type) where
  /-- A request is dispatched. -/
  | dispatch (gate : Gate ν σ) (answer : Int → Value → Act ν σ Int) (sink : Option (ErrorSink ν σ))
      (chain : Int) (request : Request) (send : SendCallback ν σ)
  /-- A transaction is settled for an account that is named by its text. -/
  | settle (answer : Int → Value → Act ν σ Int) (chain : Int) (account : String)
      (send : SendCallback ν σ)

namespace Move

/-- What the desk does. -/
def act : Move ν σ → Act (Deed ν) (Desk σ) Value
  | .dispatch gate answer sink chain request send =>
    Desk.dispatch gate (.whole answer) sink chain request send
  | .settle answer chain account send => Desk.settle (.whole answer) chain (.ofText account) send

/-- What is said meanwhile. -/
def talk : Move ν σ → Desk σ → Talk
  | .dispatch gate answer sink chain request send =>
    Desk.dispatchTalk gate (.whole answer) sink chain request send
  | .settle answer chain account send =>
    Desk.settleTalk (.whole answer) chain (.ofText account) send

/-- The chain that the move is about. -/
def chain : Move ν σ → Int
  | .dispatch _ _ _ chain _ _ => chain
  | .settle _ chain _ _ => chain

/-- The account that the move is about.  A request that is not accepted is about none. -/
def account? : Move ν σ → Option Key
  | .dispatch _ _ _ _ request _ =>
    match request.accept with
    | .ok (sender, _) => some sender.key
    | .error _ => none
  | .settle _ _ account _ => some (.ofText account)

/-- The submissions that are made. -/
def submissions (move : Move ν σ) (d : Desk σ) : List Submission :=
  match move.account? with
  | some account => Talk.submissions move.chain account (move.talk d)
  | none => []

variable {move : Move ν σ} {d : Desk σ}

theorem submissions_of_account {account : Key} (h : move.account? = some account) :
    move.submissions d = Talk.submissions move.chain account (Talk.traffic (move.talk d)) := by
  rw [Talk.submissions_traffic, submissions, h]

theorem submissions_of_quiet (h : Talk.traffic (move.talk d) = []) : move.submissions d = [] := by
  cases haccount : move.account? with
  | none => rw [submissions, haccount]
  | some account =>
    rw [submissions_of_account haccount, h]
    rfl

end Move

/-- What a dispatch comes to, as far as the network is concerned. -/
theorem Dispatching.comes {attached : Bool} {chain : Int} {request : Request}
    {book book' : NonceBook} {t : Talk} {r : Except Fault Value}
    (h : Dispatching attached chain request book t book' r) :
    (Talk.traffic t = [] ∧ book' = book) ∨
      ∃ sender terms ending, request.accept = .ok (sender, terms) ∧
        Sending Value.IsWhole chain sender.key (book.get? sender.key) (Talk.traffic t) ending ∧
        book' = ending.book sender.key book := by
  cases h with
  | declined haccept => exact .inl ⟨rfl, rfl⟩
  | refused haccept hadmission => exact .inl ⟨Talk.traffic_admission hadmission, rfl⟩
  | @failed sender terms t₁ t₂ e haccept hadmission hsending =>
    refine .inr ⟨sender, terms, .failed e, haccept, ?_, rfl⟩
    rw [Talk.traffic_append, Talk.traffic_admission hadmission, hsending.traffic_eq]
    exact hsending
  | @unlogged sender terms t₁ t₂ n tx e haccept hadmission hsending hline =>
    refine .inr ⟨sender, terms, .sent (.ofNumeral n) tx, haccept, ?_, ?_⟩
    · rw [Talk.traffic_append, Talk.traffic_admission hadmission, hsending.traffic_eq]
      exact hsending
    · rw [Ending.book, Nonce.next_ofNumeral]
  | @sent sender terms t₁ t₂ t₃ n tx r haccept hadmission hsending hline hregistration =>
    refine .inr ⟨sender, terms, .sent (.ofNumeral n) tx, haccept, ?_, ?_⟩
    · rw [Talk.traffic_append, Talk.traffic_append, Talk.traffic_admission hadmission,
        Talk.traffic_registration hregistration, hsending.traffic_eq, List.append_nil]
      exact hsending
    · rw [Ending.book, Nonce.next_ofNumeral]

/-- **A move is without traffic, or its traffic is that of one settlement.** -/
theorem Move.comes (move : Move ν σ) (d : Desk σ) :
    (Talk.traffic (move.talk d) = [] ∧ (move.act d).next.book = d.book) ∨
      ∃ account ending, move.account? = some (.ofText account) ∧
        Sending Value.IsWhole move.chain (.ofText account) (d.book.get? (.ofText account))
          (Talk.traffic (move.talk d)) ending ∧
        (move.act d).next.book = ending.book (.ofText account) d.book := by
  cases move with
  | settle answer chain account send =>
    obtain ⟨ending, hsending, -, hbook⟩ :=
      Desk.settle_sending (NonceSource.whole answer) send chain (.ofText account) d
    have hwhole := hsending.mono fun _ => NonceSource.isWhole_of_gives
    refine .inr ⟨account, ending, rfl, ?_, hbook⟩
    show Sending _ _ _ _ (Talk.traffic (Desk.settleTalk _ _ _ _ d)) _
    rw [hwhole.traffic_eq]
    exact hwhole
  | dispatch gate answer sink chain request send =>
    obtain ⟨t, r, d', hdispatching, hgoes⟩ :=
      Desk.dispatch_goes gate answer sink chain request send d
    obtain ⟨-, hnext, -⟩ :=
      hgoes.of_agree (Desk.agree_dispatch (NonceSource.whole answer) send gate sink chain request)
    have htalk : Desk.dispatchTalk gate (.whole answer) sink chain request send d = t := hgoes.said
    simp only [act, talk, Move.chain, account?, hnext, htalk]
    obtain hquiet | ⟨sender, terms, ending, haccept, hsending, hbook⟩ := hdispatching.comes
    · exact .inl hquiet
    · rw [haccept]
      exact .inr ⟨sender.text, ending, rfl, hsending, hbook⟩

/-! ## 4.  What a move writes -/

/-- What the submissions of a move do to the book. -/
inductive Writing (book : NonceBook) : List Submission → NonceBook → Prop
  /-- None has returned. -/
  | nothing {submissions : List Submission} (hrefused : ∀ s ∈ submissions, s.returned = false) :
      Writing book submissions book
  /-- The last has returned, with the nonce of the book or with one from the network. -/
  | next {refused : List Submission} {chain : Int} {account : String} {n : Numeral} {tx : Value}
      (hrefused : ∀ s ∈ refused, s.returned = false)
      (hnonce : book.get? (.ofText account) = some n ∨ ∃ i : Int, n = .whole i) :
      Writing book (refused ++ [⟨chain, .ofText account, .ofNumeral n, .ok tx⟩])
        (book.put (.ofText account) (Nonce.successor n))

/-- **What a move writes, its submissions say.** -/
theorem Move.writes (move : Move ν σ) (d : Desk σ) :
    Writing d.book (move.submissions d) (move.act d).next.book := by
  obtain ⟨hquiet, hbook⟩ | ⟨account, ending, haccount, hsending, hbook⟩ := move.comes d
  · rw [submissions_of_quiet hquiet, hbook]
    exact .nothing (by simp)
  · rw [submissions_of_account haccount, hbook]
    cases ending with
    | failed e => exact .nothing hsending.refused
    | sent v tx =>
      obtain ⟨refused, hrefused, hsubmissions⟩ := hsending.exists_refused
      obtain ⟨n, rfl, horigin⟩ := hsending.origin
      rw [hsubmissions, Ending.book, Nonce.next_ofNumeral]
      exact .next hrefused horigin

/-! ## 5.  Runs -/

/-- The desk after a run. -/
def run : List (Move ν σ) → Desk σ → Desk σ
  | [], d => d
  | move :: moves, d => run moves (move.act d).next

/-- The submissions of a run, in their order. -/
def history : List (Move ν σ) → Desk σ → List Submission
  | [], _ => []
  | move :: moves, d => move.submissions d ++ history moves (move.act d).next

end Outbox
