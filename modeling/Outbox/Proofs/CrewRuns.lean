import Outbox.Proofs.ConsecutiveNonces
import Outbox.Proofs.HonestNetwork

/-!
# Everything a crew does, whatever the schedule

What is known of workers who share a desk is put together here.  A crew that begins with nothing in
hand may be given any schedule, and after it

* no two callbacks have run at once,
* what was said of nonces and submissions, and the book, are those of a single worker who has
  settled the same errands in the order in which the book was taken (`Crew.SettledInTurn`),
* and, where nothing goes wrong and everyone is done, each account has used the nonces that follow
  its pending nonce, each once (`Crew.IsConsecutive`).

The schedule is any list of workers, and so `Crew.run_asOne` is about everything that can happen.
-/

namespace Outbox

namespace Crew

variable {ν σ : Type} {gate : Gate ν σ} {source : NonceSource ν σ} {sink : Option (ErrorSink ν σ)}

/-- The crew, of which a listener has heard `talk`, has settled its errands as a single worker does
who began with the book `start`, settles them in the order in which the book was taken, and gets the
same answers.  If the book is not free then the single worker says something more, about the
settlement that is under way. -/
structure SettledInTurn (start : NonceBook) (crew : Crew ν σ) (talk : Talk) : Prop where
  deeds : ownDeeds (said crew.deeds) = ownDeeds talk
  traffic : ∃ rest : Talk,
    said (crew.inTurn start (Talk.traffic talk ++ rest).answers).notes =
        Talk.traffic talk ++ rest ∧
      (crew.holder = none → rest = [] ∧
        (crew.inTurn start (Talk.traffic talk ++ rest).answers).next.book = crew.desk.book)
  free : (∀ w ∈ crew.workers, w.hand = none) → crew.holder = none

/-- Nothing goes wrong for an account: the gate is willing, the network has the pending nonce of the
account until something is submitted for it, every worker serves one account, the callbacks of this
one return, the log can be told of its chains and of the nonces that its jobs need, and the book
does not have the account yet. -/
structure GoesWell (gate : Gate ν σ) (source : NonceSource ν σ) (sink : Option (ErrorSink ν σ))
    (nonceOf : Value → Value) (unsent : σ → Prop) (a : Address) (pending : Int)
    (crew : Crew ν σ) : Prop where
  willing : gate.IsWilling
  has : source.Has unsent a pending
  kept : KeptBeside unsent gate source sink
  serves : ∀ w ∈ crew.workers, ∃ b, ∀ job ∈ w.todo, job.IsFor nonceOf unsent a b
  nonces : ∀ i < jobsFor a crew.workers, Literal.isWritable (pending + i) = true
  fresh : crew.desk.book.get? a.key = none
  unsent : unsent crew.desk.world

theorem settledInTurn_of_isSerial {crew : Crew ν σ} {talk : Talk} {start : NonceBook}
    (hdeeds : ownDeeds (said crew.deeds) = ownDeeds talk)
    (hexclusive : (crew.scene talk).IsExclusive)
    (hserial : (crew.scene talk).IsSerial source start) : crew.SettledInTurn start talk where
  deeds := hdeeds
  traffic := settlesInTurn hexclusive hserial
  free := by
    intro hidle
    have hnobody : crew.workers.countP Worker.holdsBook = 0 :=
      List.countP_eq_zero.mpr fun w hw => by simp [Worker.holdsBook_of_none (hidle w hw)]
    have hcount : 0 = if crew.holder.isSome then 1 else 0 := hnobody.symm.trans hexclusive
    cases hholder : crew.holder with
    | none => rfl
    | some i => simp [hholder] at hcount

/-- Where nothing goes wrong the account is in balance after every schedule. -/
theorem run_isConsecutive {nonceOf : Value → Value} {unsent : σ → Prop} {a : Address}
    {pending : Int} (desk : Desk σ) {workers : List (Worker ν σ)}
    (hidle : ∀ w ∈ workers, w.hand = none)
    (hwell : (Crew.start desk workers).GoesWell gate source sink nonceOf unsent a pending)
    (schedule : List Nat) :
    ∃ n, (((Crew.start desk workers).run gate source sink schedule).scene
      ((Crew.start desk workers).heard gate source sink schedule)).IsConsecutive nonceOf unsent a
        pending (jobsFor a workers) n := by
  have hrun := run_induction
    (P := fun s => s.IsExclusive ∧
      ∃ n, s.IsConsecutive nonceOf unsent a pending (jobsFor a workers) n)
    (fun s s' (hturn : Scene.Turn gate source sink s s') ⟨hexclusive, n, hn⟩ =>
      ⟨hexclusive.turn hturn, hn.turn hturn hwell.willing hwell.has hwell.kept hwell.nonces hexclusive⟩)
    (Crew.start desk workers) schedule []
    ⟨isExclusive_start desk hidle [], 0,
      isConsecutive_start desk hidle hwell.serves hwell.fresh hwell.unsent⟩
  exact hrun.2

/-- **A crew acts as one.**  Whatever the collaborators do and whatever the schedule is, no two
callbacks run at once, and what is said of nonces and submissions, and the book, are those of a
single worker who settles the same errands in the order in which the book was taken.  And if nothing
goes wrong for an account and everyone is done, then the gate has been told of transactions of the
account with the nonces that follow its pending nonce, each once and as many as there were jobs; the
network has been asked once; and the book has the nonce after the last. -/
theorem run_asOne (gate : Gate ν σ) (source : NonceSource ν σ) (sink : Option (ErrorSink ν σ))
    (desk : Desk σ) {workers : List (Worker ν σ)} (hidle : ∀ w ∈ workers, w.hand = none)
    (schedule : List Nat) :
    (Crew.start desk workers).busiest gate source sink schedule ≤ 1 ∧
      ((Crew.start desk workers).run gate source sink schedule).SettledInTurn desk.book
        ((Crew.start desk workers).heard gate source sink schedule) ∧
      ∀ (nonceOf : Value → Value) (unsent : σ → Prop) (a : Address) (pending : Int),
        (Crew.start desk workers).GoesWell gate source sink nonceOf unsent a pending →
        (∀ w ∈ ((Crew.start desk workers).run gate source sink schedule).workers,
          w.isDone = true) →
        ((Crew.start desk workers).run gate source sink schedule).IsConsecutive nonceOf a pending
          (jobsFor a workers) := by
  have hdeeds := ownDeeds_run gate source sink (Crew.start desk workers) schedule
  rw [show ownDeeds (said (Crew.start desk workers).deeds) = [] from rfl, List.nil_append] at hdeeds
  obtain ⟨hexclusive, hserial⟩ := run_isSerial gate source sink desk hidle schedule
  refine ⟨busiest_le_one (isExclusive_start desk hidle []) schedule,
    settledInTurn_of_isSerial hdeeds hexclusive hserial, ?_⟩
  intro nonceOf unsent a pending hwell hdone
  obtain ⟨n, hn⟩ := run_isConsecutive desk hidle hwell schedule
  exact isConsecutive_of_isDone hn hdeeds hdone

end Crew

namespace ThreeSpellings

/-- The account of forty ones. -/
def ones : Address := .uniform (.ofNat 1)

/-- The account of forty twos. -/
def twos : Address := .uniform (.ofNat 2)

/-- A gate that lets everyone in. -/
def gate : Gate Empty (Network Unit) where
  canQueue _ := pure true
  canSign _ := pure true
  insert _ _ _ := pure ()

/-- The network answers with its numbers. -/
def source : NonceSource Empty (Network Unit) := .whole HonestSource.plain.answer

/-- The callback that submits a transaction of an account, which is its nonce. -/
def take (account : Address) : SendCallback Empty (Network Unit) := fun nonce l =>
  ⟨.ok nonce, [], l.advance 1 account.text⟩

/-- A job of an account in one of its spellings. -/
def job (spelling : String) (account : Address) : Job Empty (Network Unit) where
  chain := 1
  request :=
    { sender := .text spelling
      terms := .terms ⟨.int 2, .int 100, .int 60, .int 5⟩ }
  send := take account

/-- Two workers for the first account, which they spell in three ways, and one for the second. -/
def workers : List (Worker Empty (Network Unit)) :=
  [{ todo :=
      [job "0x1111111111111111111111111111111111111111" ones,
        job "1111111111111111111111111111111111111111" ones] },
    { todo := [job "0X1111111111111111111111111111111111111111" ones] },
    { todo := [job "0x2222222222222222222222222222222222222222" twos] }]

/-- A network at which every number is five. -/
def desk : Desk (Network Unit) := { world := ⟨fun _ _ => 5, ()⟩ }

/-- Everyone in turn, until everyone is done. -/
def schedule : List Nat := (List.replicate 40 [0, 1, 2]).flatten

/-- Nothing has been submitted for the first account. -/
def Unsent (l : Network Unit) : Prop := ∀ chain, l.next chain ones.text = 5

theorem source_has : source.Has Unsent ones 5 := fun chain l hunsent => by
  rw [source, Address.key, Key.value_ofText, HonestSource.result_whole .plain chain ones.text rfl,
    hunsent chain]

/-- A submission for another account leaves this one alone. -/
theorem take_serves {account : Address} :
    SendCallback.Serves id Unsent ones account (take account) where
  returns _ nonce l := ⟨nonce, rfl, rfl⟩
  keeps hother nonce l hunsent chain := by
    have hne : ones.text ≠ account.text := fun htext => hother (Address.text_injective htext).symm
    show (if chain = 1 ∧ ones.text = account.text then l.next chain ones.text + 1 else _) = 5
    rw [if_neg fun h => hne h.2]
    exact hunsent chain

theorem goesWell : (Crew.start desk workers).GoesWell gate source none id Unsent ones 5 where
  willing := ⟨fun _ _ => rfl, fun _ _ => rfl, fun _ _ _ _ => rfl⟩
  has := source_has
  kept :=
    { room := fun _ _ h => h
      signer := fun _ _ h => h
      insert := fun _ _ _ _ h => h
      source := fun _ account _ h => by cases account <;> exact h
      sink := by simp }
  serves := by
    intro w hw
    simp only [Crew.start, workers, List.mem_cons, List.not_mem_nil, or_false] at hw
    rcases hw with rfl | rfl | rfl
    · refine ⟨ones, fun job hjob => ?_⟩
      simp only [List.mem_cons, List.not_mem_nil, or_false] at hjob
      rcases hjob with rfl | rfl <;> exact ⟨by decide, take_serves, fun _ => by decide⟩
    · refine ⟨ones, fun job hjob => ?_⟩
      obtain rfl := List.mem_singleton.mp hjob
      exact ⟨by decide, take_serves, fun _ => by decide⟩
    · refine ⟨twos, fun job hjob => ?_⟩
      obtain rfl := List.mem_singleton.mp hjob
      exact ⟨by decide, take_serves, fun _ => by decide⟩
  nonces := by decide
  fresh := rfl
  unsent := fun _ => rfl

/-- The three jobs of the first account use the nonces five, six and seven. -/
theorem asOne_fiveSixSeven :
    (Crew.start desk workers).busiest gate source none schedule ≤ 1 ∧
      ((Crew.start desk workers).run gate source none schedule).SettledInTurn .empty
        ((Crew.start desk workers).heard gate source none schedule) ∧
      ((Crew.start desk workers).run gate source none schedule).IsConsecutive id ones 5 3 := by
  have hidle : ∀ w ∈ workers, w.hand = none := by simp [workers]
  have hdone : ∀ w ∈ ((Crew.start desk workers).run gate source none schedule).workers,
      w.isDone = true := by decide +kernel
  obtain ⟨hbusiest, hturns, hwell⟩ := Crew.run_asOne gate source none desk hidle schedule
  exact ⟨hbusiest, hturns, hwell id Unsent ones 5 goesWell hdone⟩

end ThreeSpellings

end Outbox
