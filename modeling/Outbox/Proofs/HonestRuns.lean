import Outbox.Proofs.HonestNetwork
import Outbox.Proofs.LastUsed

/-!
# Runs at an honest network

Requests are dispatched at an honest network, for many accounts on many chains, and meanwhile
others send from the same accounts, so that the numbers of the network grow without the desk.  A
`Course` is such a run.  Two things hold of it (`Course.heals`).

* Every request that is let in is healed: its transaction is taken at the number that the network
  had when the dispatch began, after two submissions and one question at most, no other
  number of the network changes, and the book has then what the network has.  The one exception is
  a number of too many digits to be written into the log: the dispatch may halt there, and nothing
  has been taken and nothing is changed then (`Order.Halted`).
* For every account on every chain the nonces that were taken are in strict order, so none is
  taken twice, and the number of the network has grown by one for each of them and by what the
  others did, so none is left out.

A transaction that is taken is returned, or else something has failed after that, and `Delivery`
says what: the line of the log about a chain whose number cannot be written, an order to stop that
comes while the gate is told of the transaction, a fault of the gate that has no text, or the sink.
-/

namespace Outbox

variable {ν τ : Type}

/-! ## 1.  Orders -/

/-- A request that is accepted, and those who take part in its dispatch at an honest network. -/
structure Order (ν τ : Type) where
  chain : Int
  request : Request
  sender : Address
  terms : Terms
  accepted : request.accept = .ok (sender, terms)
  gate : Gate ν τ
  sink : Option (ErrorSink ν τ)
  callback : HonestCallback ν τ chain sender.text

namespace Order

/-- The order is let in: it is forced, or the gate grants both questions. -/
def Admitted (o : Order ν τ) (rest : τ) : Prop :=
  o.request.isForced = true ∨
    ((o.gate.canQueue o.sender rest).result = .ok true ∧
      (o.gate.canSign o.sender (o.gate.canQueue o.sender rest).next).result = .ok true)

/-- The dispatch of the order. -/
def move (source : HonestSource ν τ) (o : Order ν τ) : Move ν (Network τ) :=
  .dispatch o.gate.beside source.answer (o.sink.map ErrorSink.beside) o.chain o.request
    o.callback.send

/-- The dispatch of the order behind a listener. -/
def heardDispatch (source : HonestSource ν τ) (o : Order ν τ) :
    Act (Deed Call) (Desk (Network τ)) Value :=
  Desk.dispatch o.gate.beside.heard (NonceSource.whole source.answer).heard
    ((o.sink.map ErrorSink.beside).map ErrorSink.heard) o.chain o.request
    (SendCallback.heard o.callback.send)

theorem account?_move (source : HonestSource ν τ) (o : Order ν τ) :
    (o.move source).account? = some o.sender.key := by
  simp only [move, Move.account?, o.accepted]

/-- What is returned when the transaction of an order has been taken: the transaction, or what has
failed after that. -/
inductive Delivery (o : Order ν τ) (tx : Value) (talk : Talk) : Except Fault Value → Prop
  | returned : Delivery o tx talk (.ok tx)
  /-- The number of the chain cannot be written into the log. -/
  | unlogged (hchain : Literal.isWritable o.chain = false) :
      Delivery o tx talk (.error .tooManyDigits)
  /-- The gate is told of the transaction and ends with an order to stop. -/
  | stopped {e : Fault} (he : e.isInterrupt = true)
      (hheard : .passes (.register tx o.terms o.sender (.error e)) ∈ talk) :
      Delivery o tx talk (.error e)
  /-- The gate is told of the transaction and fails with a fault that has no text. -/
  | unspoken {e f : Fault} (he : e.isInterrupt = false) (htext : e.askText = .error f)
      (hheard : .passes (.register tx o.terms o.sender (.error e)) ∈ talk) :
      Delivery o tx talk (.error f)
  /-- The sink is told of a failure of the gate and fails. -/
  | untold {report e : Fault} (hheard : .passes (.tell report (.error e)) ∈ talk) :
      Delivery o tx talk (.error e)

/-- The dispatch of the order at a desk is healed, and the transaction is the one given. -/
structure Healed (source : HonestSource ν τ) (o : Order ν τ) (d : Desk (Network τ)) (tx : Value) :
    Prop where
  /-- One transaction is taken, and its nonce is what the network had at the beginning. -/
  taken : ((o.move source).submissions d).filter Submission.returned =
    [⟨o.chain, o.sender.key, .int (d.world.next o.chain o.sender.text), .ok tx⟩]
  /-- There are two submissions at most. -/
  submitted : ((o.move source).submissions d).length ≤ 2
  /-- The network is asked once at most. -/
  asked : Talk.lookups ((o.move source).talk d) ≤ 1
  /-- The number of the account grows by one, and no other changes. -/
  counted : ((o.move source).act d).next.world.next =
    (d.world.advance o.chain o.sender.text).next
  /-- The book has for the account what the network has. -/
  cached : ((o.move source).act d).next.book.get? o.sender.key =
    some (.whole (((o.move source).act d).next.world.next o.chain o.sender.text))
  /-- Nothing else in the book is written. -/
  written : ((o.move source).act d).next.book =
    d.book.put o.sender.key (.whole (d.world.next o.chain o.sender.text + 1))
  /-- The transaction is returned, or something has failed after it was taken. -/
  delivered : o.Delivery tx ((o.move source).talk d) ((o.move source).act d).result

/-- The dispatch of the order at a desk halts at a number that cannot be written. -/
structure Halted (source : HonestSource ν τ) (o : Order ν τ) (d : Desk (Network τ)) : Prop where
  /-- One of the numbers of the settlement cannot be written. -/
  illegible : ¬ Desk.Legible o.chain o.sender.text d
  /-- No transaction is taken. -/
  refused : ((o.move source).submissions d).filter Submission.returned = []
  /-- There is one submission at most. -/
  submitted : ((o.move source).submissions d).length ≤ 1
  /-- The network is asked once at most. -/
  asked : Talk.lookups ((o.move source).talk d) ≤ 1
  /-- The numbers of the network stay as they are. -/
  counted : ((o.move source).act d).next.world.next = d.world.next
  /-- The book stays as it is. -/
  written : ((o.move source).act d).next.book = d.book
  /-- The caller is told of the number. -/
  raised : ((o.move source).act d).result = .error .tooManyDigits

/-! ## 2.  One order -/

variable (source : HonestSource ν τ) {o : Order ν τ} {d : Desk (Network τ)}

/-- An order that is let in comes to its settlement with the book and the numbers as they were. -/
theorem Admitted.admitting_goes (h : o.Admitted d.world.rest) :
    ∃ t d₁, Desk.Goes (Desk.admitting o.gate.beside.heard o.request o.sender) d (.ok ()) t d₁ ∧
      Talk.traffic t = [] ∧ d₁.book = d.book ∧ d₁.world.next = d.world.next := by
  unfold Desk.admitting
  cases hforced : o.request.isForced with
  | true => exact ⟨[], d, Desk.goes_pure () d, rfl, rfl, rfl⟩
  | false =>
    rcases h with hforced' | ⟨hroom, hsigner⟩
    · exact absurd (hforced'.symm.trans hforced) (by simp)
    · have hgoes : Desk.Goes (Desk.askAdmission o.gate.beside.heard o.sender) d (.ok ()) _ _ :=
        Desk.askAdmission_goes_ok hroom hsigner
      exact ⟨_, _, hgoes, rfl, rfl, rfl⟩

end Order

/-- Questions to the network are traffic. -/
theorem Talk.lookups_traffic (t : Talk) : Talk.lookups (Talk.traffic t) = Talk.lookups t := by
  rw [lookups, lookups, traffic, List.countP_filter]
  refine List.countP_congr fun deed _ => ?_
  cases deed <;> simp [Deed.isTraffic]

namespace Order

variable (source : HonestSource ν τ) {o : Order ν τ} {d : Desk (Network τ)}

/-- Telling the gate of a transaction leaves the numbers of the network alone. -/
theorem next_register (o : Order ν τ) (tx : Value) (d : Desk (Network τ)) :
    (Desk.register o.gate.beside.heard ((o.sink.map ErrorSink.beside).map ErrorSink.heard) tx
      o.terms o.sender d).next.world.next = d.world.next := by
  refine Desk.register_leaves Network.next (fun _ => rfl) ?_ d
  intro tell htell e s
  obtain ⟨sink, -, rfl⟩ := Option.map_eq_some_iff.mp htell
  rfl

/-- What is returned when the gate has been told of the transaction of an order. -/
theorem delivery_of_registration {tx : Value} {attached : Bool} {cached : Option Numeral}
    {t talk : Talk} {r : Except Fault Unit}
    (h : Registration attached tx o.terms o.sender cached t r) (hheard : ∀ deed ∈ t, deed ∈ talk) :
    o.Delivery tx talk (r.map fun _ => tx) := by
  cases h with
  | registered => exact .returned
  | interrupted he => exact .stopped he (hheard _ (by simp [Talk.registers]))
  | unspoken he hreport =>
    exact .unspoken he (Desk.askText_of_notRegistered_error hreport)
      (hheard _ (by simp [Talk.registers]))
  | unheard he hreport hsink => exact .returned
  | @reported e report he hreport hsink =>
    cases r with
    | ok u => exact .returned
    | error e' =>
      have htold : .passes (.tell report (.error e')) ∈ talk :=
        hheard _ (List.mem_append_right _ (by simp [Talk.reports]))
      exact .untold htold

/-- An order whose settlement is healed, and which leaves then the book and the network alone, is
healed. -/
theorem healed_of_goes {t₁ t₂ t₃ : Talk} {d₁ d₂ d' : Desk (Network τ)} {tx : Value}
    {r : Except Fault Value}
    (hgoes : Desk.Goes (o.heardDispatch source) d r (t₁ ++ t₂ ++ t₃) d')
    (hbefore : Talk.traffic t₁ = [] ∧ d₁.book = d.book ∧ d₁.world.next = d.world.next)
    (hsettled : Desk.Settled source o.callback d₁ tx t₂ d₂)
    (hafter : Talk.traffic t₃ = [] ∧ d'.book = d₂.book ∧ d'.world.next = d₂.world.next)
    (hdelivery : o.Delivery tx (t₁ ++ t₂ ++ t₃) r) : o.Healed source d tx := by
  obtain ⟨hquiet₁, hbook₁, hnext₁⟩ := hbefore
  obtain ⟨hquiet₃, hbook₃, hnext₃⟩ := hafter
  obtain ⟨hresult, hnext, -⟩ := hgoes.of_agree (Desk.agree_dispatch _ _ _ _ _ _)
  have htalk : (o.move source).talk d = t₁ ++ t₂ ++ t₃ := hgoes.said
  have hact : ((o.move source).act d).next = d' := hnext
  have hhealing : Healing o.chain o.sender.key (d.world.next o.chain o.sender.text) tx
      (Talk.traffic ((o.move source).talk d)) := by
    rw [htalk, Talk.traffic_append, Talk.traffic_append, hquiet₁, hsettled.healing.traffic_eq,
      hquiet₃, List.nil_append, List.append_nil, ← hnext₁]
    exact hsettled.healing
  have hsubmissions := Move.submissions_of_account (d := d) (o.account?_move source)
  have hcounted : d'.world.next = (d.world.advance o.chain o.sender.text).next := by
    rw [hnext₃, hsettled.next, Network.advance_congr hnext₁]
  have hwritten : d'.book =
      d.book.put o.sender.key (.whole (d.world.next o.chain o.sender.text + 1)) := by
    rw [hbook₃, hsettled.book, hbook₁, hnext₁]
  refine ⟨?_, ?_, ?_, ?_, ?_, ?_, ?_⟩
  · rw [hsubmissions]
    exact hhealing.filter_returned
  · rw [hsubmissions]
    exact hhealing.length_submissions_le
  · rw [← Talk.lookups_traffic]
    exact hhealing.lookups_le
  · rw [hact, hcounted]
  · rw [hact, hwritten, NonceBook.get?_put, if_pos rfl, hcounted, Network.next_advance]
  · rw [hact, hwritten]
  · rw [htalk, show ((o.move source).act d).result = r from hresult]
    exact hdelivery

/-- An order whose settlement halts halts. -/
theorem halted_of_goes {t₁ t₂ : Talk} {d₁ d₂ : Desk (Network τ)}
    (hadmitting : Desk.Goes (Desk.admitting o.gate.beside.heard o.request o.sender) d (.ok ()) t₁ d₁)
    (hbefore : Talk.traffic t₁ = [] ∧ d₁.book = d.book ∧ d₁.world.next = d.world.next)
    (hhalted : Desk.Halted source o.callback d₁ t₂ d₂) : o.Halted source d := by
  obtain ⟨hquiet, hbook, hnext⟩ := hbefore
  have hgoes : Desk.Goes (o.heardDispatch source) d (.error .tooManyDigits) (t₁ ++ t₂) _ :=
    Desk.Goes.dispatch_failed o.accepted hadmitting hhalted.goes
  obtain ⟨hresult, hdesk, -⟩ := hgoes.of_agree (Desk.agree_dispatch _ _ _ _ _ _)
  have htalk : (o.move source).talk d = t₁ ++ t₂ := hgoes.said
  have hact : ((o.move source).act d).next = _ := hdesk
  have hhalting : Halting o.chain o.sender.key (d₁.world.next o.chain o.sender.text)
      (Talk.traffic ((o.move source).talk d)) := by
    rw [htalk, Talk.traffic_append, hquiet, hhalted.halting.traffic_eq]
    exact hhalted.halting
  have hsubmissions := Move.submissions_of_account (d := d) (o.account?_move source)
  refine ⟨?_, ?_, ?_, ?_, ?_, ?_, hresult⟩
  · intro hlegible
    refine hhalted.illegible ⟨hlegible.chainShown, ?_, ?_⟩
    · rw [hnext]
      exact hlegible.nextShown
    · rw [hbook]
      exact hlegible.cachedShown
  · rw [hsubmissions]
    exact hhalting.filter_returned
  · rw [hsubmissions]
    exact hhalting.length_submissions_le
  · rw [← Talk.lookups_traffic]
    exact hhalting.lookups_le
  · rw [hact, Desk.world_tallied, hhalted.next, hnext]
  · rw [hact, Desk.book_tallied, hhalted.book, hbook]

/-- **An order that is let in is healed**, unless it halts at a number that cannot be written. -/
theorem Admitted.healed_or_halted (h : o.Admitted d.world.rest) (hwhole : d.book.IsWhole) :
    (∃ tx, o.Healed source d tx) ∨ o.Halted source d := by
  obtain ⟨t₁, d₁, hadmitting, hbefore⟩ := h.admitting_goes
  obtain ⟨tx, t₂, d₂, hsettled⟩ | ⟨t₂, d₂, hhalted⟩ :=
    Desk.exists_settled_or_halted source o.callback (d := d₁) (hbefore.2.1 ▸ hwhole _)
  · refine .inl ⟨tx, ?_⟩
    cases hline : Desk.sentLine o.sender o.chain with
    | error e =>
      have hchain : Literal.isWritable o.chain = false := Desk.isWritable_of_sentLine_error hline
      obtain rfl := Desk.eq_tooManyDigits_of_sentLine hline
      have hgoes : Desk.Goes (o.heardDispatch source) d (.error .tooManyDigits) (t₁ ++ t₂) _ :=
        Desk.Goes.dispatch_unlogged o.accepted hadmitting hsettled.goes hline
      rw [← List.append_nil (t₁ ++ t₂)] at hgoes
      exact o.healed_of_goes source hgoes hbefore hsettled ⟨rfl, rfl, rfl⟩ (.unlogged hchain)
    | ok text =>
      obtain ⟨t₃, r, d₃, hregistration, hregister, hbook₃⟩ :=
        Desk.register_goes o.gate.beside o.sender (o.sink.map ErrorSink.beside) tx o.terms
          (Desk.afterSent d₂)
      have hgoes :=
        Desk.Goes.dispatch_sent o.accepted hadmitting hsettled.goes ⟨text, hline⟩ hregister
      have hkept := o.next_register tx (Desk.afterSent d₂)
      rw [hregister.next] at hkept
      refine o.healed_of_goes source hgoes hbefore hsettled
        ⟨Talk.traffic_registration hregistration, hbook₃, hkept⟩ ?_
      exact delivery_of_registration hregistration fun deed hdeed =>
        List.mem_append_right _ hdeed
  · exact .inr (halted_of_goes source hadmitting hbefore hhalted)

end Order

/-! ## 3.  Runs -/

/-- The network after others have sent. -/
def Network.grow (growth : Int → String → Nat) (l : Network τ) : Network τ :=
  { l with next := fun chain account => l.next chain account + growth chain account }

/-- A run from a desk: orders that are let in, and between them others who send.  It is known by
the submissions that were made, by how far the numbers have grown without the desk, and by where
it has come to. -/
inductive Course (source : HonestSource ν τ) (start : Desk (Network τ)) :
    List Submission → (Int → String → Nat) → Desk (Network τ) → Prop
  | start : Course source start [] (fun _ _ => 0) start
  | order {past : List Submission} {grown : Int → String → Nat} {d : Desk (Network τ)}
      (h : Course source start past grown d) (o : Order ν τ) (hadmitted : o.Admitted d.world.rest) :
      Course source start (past ++ (o.move source).submissions d) grown
        ((o.move source).act d).next
  | others {past : List Submission} {grown : Int → String → Nat} {d : Desk (Network τ)}
      (h : Course source start past grown d) (growth : Int → String → Nat) :
      Course source start past (fun chain account => grown chain account + growth chain account)
        { d with world := d.world.grow growth }

/-- The book with the given whole numbers. -/
def NonceBook.ofInts (entries : List (Key × Int)) : NonceBook :=
  ⟨entries.map fun entry => (entry.1, .whole entry.2)⟩

theorem NonceBook.isWhole_ofInts (entries : List (Key × Int)) : (ofInts entries).IsWhole := by
  intro account n hn
  unfold ofInts get? at hn
  induction entries with
  | nil => exact absurd hn (by simp [Key.find?])
  | cons entry entries ih =>
    rw [List.map_cons, Key.find?] at hn
    split at hn
    · exact ⟨entry.2, (Option.some.inj hn).symm⟩
    · exact ih hn

/-- A book of whole numbers stays one if a whole number is written. -/
theorem NonceBook.IsWhole.put {book : NonceBook} (h : book.IsWhole) (account : String) (i : Int) :
    (book.put (.ofText account) (.whole i)).IsWhole := by
  intro other n hn
  rw [get?_put_key] at hn
  split at hn
  · exact ⟨i, (Option.some.inj hn).symm⟩
  · exact h other n hn

/-- The nonces of an account on a chain that the desk has used, and the numbers of the network:
they are in strict order, they lie between the numbers at the beginning and at the end, and
the number has grown by one for each of them and by what the others did. -/
structure Gapless (first last : Int) (grown : Nat) (nonces : List Int) : Prop where
  ordered : nonces.Pairwise (· < ·)
  bounded : ∀ n ∈ nonces, first ≤ n ∧ n < last
  counted : last = first + nonces.length + grown

namespace Gapless

variable {first last : Int} {grown : Nat} {nonces : List Int}

theorem start (first : Int) : Gapless first first 0 [] where
  ordered := .nil
  bounded := by simp
  counted := by simp

theorem le (h : Gapless first last grown nonces) : first ≤ last := by
  have hcounted := h.counted
  omega

/-- The next number is taken. -/
theorem take (h : Gapless first last grown nonces) :
    Gapless first (last + 1) grown (nonces ++ [last]) where
  ordered := by
    refine List.pairwise_append.mpr ⟨h.ordered, List.pairwise_singleton _ _, ?_⟩
    intro n hn m hm
    obtain rfl := List.mem_singleton.mp hm
    exact (h.bounded n hn).2
  bounded := by
    intro n hn
    rcases List.mem_append.mp hn with hold | hnew
    · obtain ⟨hfirst, hlast⟩ := h.bounded n hold
      exact ⟨hfirst, by omega⟩
    · obtain rfl := List.mem_singleton.mp hnew
      exact ⟨h.le, by omega⟩
  counted := by
    have hcounted := h.counted
    rw [List.length_append, List.length_singleton]
    omega

/-- The others take some. -/
theorem grow (h : Gapless first last grown nonces) (k : Nat) :
    Gapless first (last + k) (grown + k) nonces where
  ordered := h.ordered
  bounded := by
    intro n hn
    obtain ⟨hfirst, hlast⟩ := h.bounded n hn
    exact ⟨hfirst, by omega⟩
  counted := by
    have hcounted := h.counted
    omega

end Gapless

/-- The nonces of a kind that have returned are those of the submissions that have. -/
theorem returnedNonces_filter (kind : Submission → Bool) (history : List Submission) :
    returnedNonces kind (history.filter Submission.returned) = returnedNonces kind history := by
  rw [returnedNonces, returnedNonces, List.filter_filter]
  simp only [Bool.and_assoc, Bool.and_self]

namespace Course

variable {source : HonestSource ν τ} {start d : Desk (Network τ)} {past : List Submission}
  {grown : Int → String → Nat}

/-- The book of a run that begins with whole numbers has whole numbers. -/
theorem isWhole (h : Course source start past grown d) (hwhole : start.book.IsWhole) :
    d.book.IsWhole := by
  induction h with
  | start => exact hwhole
  | order h o hadmitted ih =>
    obtain ⟨tx, hhealed⟩ | hhalted := hadmitted.healed_or_halted source ih
    · rw [hhealed.written]
      exact ih.put _ _
    · rw [hhalted.written]
      exact ih
  | others h growth ih => exact ih

/-- The nonces that a run uses are without gaps. -/
theorem exists_gapless (h : Course source start past grown d) (hwhole : start.book.IsWhole)
    (chain : Int) (account : String) :
    ∃ nonces : List Int,
      returnedNonces (Submission.isOn chain (.ofText account)) past = nonces.map .int ∧
        Gapless (start.world.next chain account) (d.world.next chain account)
          (grown chain account) nonces := by
  induction h with
  | start => exact ⟨[], rfl, .start _⟩
  | @order past grown d h o hadmitted ih =>
    obtain ⟨nonces, hpast, hgapless⟩ := ih
    obtain ⟨tx, hhealed⟩ | hhalted := hadmitted.healed_or_halted source (h.isWhole hwhole)
    · rw [returnedNonces_append, hpast, ← returnedNonces_filter, hhealed.taken,
        returnedNonces_returned _ rfl, hhealed.counted]
      by_cases hhere : chain = o.chain ∧ account = o.sender.text
      · obtain ⟨rfl, rfl⟩ := hhere
        have hon : Submission.isOn o.chain (.ofText o.sender.text)
            ⟨o.chain, o.sender.key, .int (d.world.next o.chain o.sender.text), .ok tx⟩ = true :=
          (Submission.isOn_iff _ _ _).mpr ⟨rfl, rfl⟩
        rw [if_pos hon, Network.next_advance]
        refine ⟨nonces ++ [d.world.next o.chain o.sender.text], ?_, hgapless.take⟩
        rw [List.map_append]
        rfl
      · have helsewhere : (d.world.advance o.chain o.sender.text).next chain account =
            d.world.next chain account := if_neg hhere
        rw [helsewhere, if_neg, List.append_nil]
        · exact ⟨nonces, rfl, hgapless⟩
        · intro hon
          obtain ⟨hchain, haccount⟩ := (Submission.isOn_iff _ _ _).mp hon
          exact hhere ⟨hchain.symm, (Key.ofText_injective haccount).symm⟩
    · refine ⟨nonces, ?_, ?_⟩
      · rw [returnedNonces_append, hpast, ← returnedNonces_filter, hhalted.refused,
          returnedNonces_refused _ (by simp), List.append_nil]
      · rw [hhalted.counted]
        exact hgapless
  | others h growth ih =>
    obtain ⟨nonces, hpast, hgapless⟩ := ih
    exact ⟨nonces, hpast, hgapless.grow (growth chain account)⟩

/-- **At an honest network the desk heals itself.**  After every run that begins with any whole
numbers in the book, every order that is let in is healed, unless it halts at a number that cannot
be written; and the nonces that have been used for an account on a chain are in strict order and
without gaps, halts or no halts. -/
theorem heals {entries : List (Key × Int)} {counters : Counters} {network : Network τ}
    (h : Course source ⟨.ofInts entries, counters, network⟩ past grown d) :
    (∀ o : Order ν τ, o.Admitted d.world.rest →
        (∃ tx, o.Healed source d tx) ∨ o.Halted source d) ∧
      ∀ (chain : Int) (account : String), ∃ nonces : List Int,
        returnedNonces (Submission.isOn chain (.ofText account)) past = nonces.map .int ∧
          Gapless (network.next chain account) (d.world.next chain account) (grown chain account)
            nonces := by
  have hwhole := NonceBook.isWhole_ofInts entries
  constructor
  · intro o hadmitted
    exact hadmitted.healed_or_halted source (h.isWhole hwhole)
  · intro chain account
    exact h.exists_gapless hwhole chain account

end Course

/-! ## 4.  An order that is stopped -/

namespace Stopped

/-- An order to stop. -/
def stop : Fault := { kind := .foreign "KeyboardInterrupt" .order, args := [] }

/-- A gate that lets everyone in and is stopped when it is told of a transaction. -/
def gate : Gate Empty Unit where
  canQueue _ := pure true
  canSign _ := pure true
  insert _ _ _ := .fail stop

/-- An order of the account of forty ones on the first chain. -/
def order : Order Empty Unit where
  chain := 1
  request :=
    { sender := .text "0x1111111111111111111111111111111111111111"
      terms := .terms ⟨.int 2, .int 100, .int 60, .int 5⟩ }
  sender := ⟨List.replicate 40 (.ofNat 1), by simp⟩
  terms := ⟨.int 2, .int 100, .int 60, .int 5⟩
  accepted := rfl
  gate := gate
  sink := none
  callback := .plain _ _

/-- A network at which every number is five, and a book that has nine. -/
def desk : Desk (Network Unit) :=
  ⟨.ofInts [(.ofText "0x1111111111111111111111111111111111111111", 9)], .empty, ⟨fun _ _ => 5, ()⟩⟩

theorem admitted (rest : Unit) : order.Admitted rest := .inr ⟨rfl, rfl⟩

/-- The numbers of the second dispatch can be written: that of the chain is one, and the book and the
network have six. -/
theorem legible : Desk.Legible order.chain order.sender.text ((order.move .plain).act desk).next where
  chainShown := rfl
  nextShown := rfl
  cachedShown := by
    intro i hi
    have hsix : ((order.move .plain).act desk).next.book.get? (.ofText order.sender.text) =
        some (.whole 6) := rfl
    obtain rfl : i = 6 := by simpa using hi.symm.trans hsix
    rfl

/-- The order is healed again after it has been dispatched once, although it was stopped then. -/
theorem healed_again :
    ∃ tx, order.Healed .plain ((order.move .plain).act desk).next tx :=
  ((Course.heals (.order .start order (admitted ()))).1 order (admitted ())).resolve_right
    fun hhalted => hhalted.illegible legible

/-- **A transaction that is taken need not be returned.**  At an honest network an order that is let
in ends with an order to stop, if that is what the gate ends with. -/
theorem not_always_returned :
    ¬ ∀ o : Order Empty Unit, o.Admitted desk.world.rest →
      ∃ tx, ((o.move .plain).act desk).result = .ok tx := by
  intro h
  obtain ⟨tx, htx⟩ := h order (admitted ())
  have hstopped : ((order.move .plain).act desk).result = .error stop := rfl
  exact absurd (htx.symm.trans hstopped) (by simp)

end Stopped
end Outbox
