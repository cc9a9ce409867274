import Outbox.PendingQueue.Gate
import Outbox.Proofs.Scenes

/-!
# Room in the queue

A queue that is the gate of a desk answers whether there is room, and is told of a transaction when
it has been sent.  In between there are the settlement and everyone else.  So a sender may be let in
several times while there is room for one, and the queue becomes longer than its capacity
(`Crowd.not_always_within_capacity`), although nobody has skipped the question.

What holds is a balance.  A request is under way from the granting of its room to its end, and the
entries of a sender and its requests under way are together no more than the capacity, and one less
than the most requests of the sender that have been under way at once:

  `entries + under way ≤ capacity + (most - 1)`.

To be let in needs an entry less than the capacity, to be registered is to exchange a request under
way for an entry, and nothing else adds to either side.  So a sender whose requests are handled one
after another stays within the capacity, and the surplus of every other is due to what overlaps
(`Crew.pendingOf_playAll_le`).
-/

namespace Outbox

variable {ν ρ α : Type}

/-! ## 1.  What is done to a queue -/

/-- The text of an account is accepted as no other account. -/
theorem Address.eq_of_accept_text {a b : Address} (h : accept (.text a.text) = .ok b) : b = a := by
  have hspelled : spelled? a.text.toList = some a := by simp [text]
  simp only [accept, if_neg (text_ne_empty a), hspelled] at h
  split at h
  · exact absurd h (by simp)
  · split at h
    · exact absurd h (by simp)
    · exact (Except.ok.inj h).symm

namespace PendingQueue

/-- A queue has no more than another one of the same capacity. -/
structure IsWithin (q' q : PendingQueue) : Prop where
  capacity : q'.capacity = q.capacity
  length_le (a : Address) : (q'.pendingOf a).length ≤ (q.pendingOf a).length

theorem IsWithin.refl (q : PendingQueue) : q.IsWithin q := ⟨rfl, fun _ => Nat.le_refl _⟩

theorem IsWithin.trans {q q' q'' : PendingQueue} (h : q''.IsWithin q') (h' : q'.IsWithin q) :
    q''.IsWithin q :=
  ⟨h.capacity.trans h'.capacity, fun a => Nat.le_trans (h.length_le a) (h'.length_le a)⟩

theorem isWithin_remove (q : PendingQueue) (a : Address) (hash : Value) :
    (q.remove a hash).IsWithin q :=
  ⟨rfl, fun _ => ((List.eraseP_sublist).filter _).length_le⟩

theorem isWithin_append (q : PendingQueue) (entry : Entry) : q.IsWithin (q.append entry) :=
  ⟨rfl, fun a => by
    rw [pendingOf_append, List.length_append]
    exact Nat.le_add_right _ _⟩

theorem lt_of_hasRoom {q : PendingQueue} {a : Address} {limit : Nat}
    (hcapacity : q.capacity.amount = .whole limit) (h : q.hasRoom a = true) :
    (q.pendingOf a).length < limit := by
  simpa [hasRoom, Capacity.admits, hcapacity] using h

/-- An act for the account that is named by the text of an account is one for that account, or
fails at once. -/
theorem forSender_text {P : Act LogLine PendingQueue α → Prop} {a : Address}
    {f : Address → Act LogLine PendingQueue α} (hself : P (f a)) (hnobody : ∀ e, P (.fail e)) :
    P (forSender (.text a.text) f) := by
  cases haccept : Address.accept (.text a.text) with
  | error e =>
    rw [forSender, haccept]
    exact hnobody _
  | ok b =>
    obtain rfl := Address.eq_of_accept_text haccept
    rw [forSender_of_accept haccept]
    exact hself

/-- To ask for room changes nothing, and is granted only if there is some. -/
theorem canQueue_gate (a : Address) (q : PendingQueue) :
    (gate.canQueue a q).next = q ∧
      ((gate.canQueue a q).result = .ok true → q.hasRoom a = true) :=
  forSender_text (P := fun x => (x q).next = q ∧ ((x q).result = .ok true → _))
    ⟨rfl, fun hroom => Except.ok.inj hroom⟩ fun _ => ⟨rfl, fun hroom => absurd hroom (by simp)⟩

theorem canSign_gate (a : Address) (q : PendingQueue) : (gate.canSign a q).next = q :=
  forSender_text (P := fun x => (x q).next = q) rfl fun _ => rfl

/-- To register a transaction adds an entry of its sender at most. -/
theorem insert_gate (tx : Value) (terms : Terms) (a : Address) (q : PendingQueue) :
    ∃ entry : Entry, entry.sender = a ∧
      (gate.insert tx terms a q).next.IsWithin (q.append entry) := by
  refine ⟨⟨tx, terms, a, 0⟩, rfl, ?_⟩
  show (insert tx (.terms terms) (.text a.text) q).next.IsWithin _
  cases hterms : termsFault? (.terms terms) with
  | error e =>
    rw [insert, hterms]
    exact isWithin_append _ _
  | ok accepted =>
    obtain ⟨heq, -⟩ := termsFault?_eq_ok_iff.mp hterms
    obtain rfl := GivenTerms.terms.inj heq
    cases haccept : Address.accept (.text a.text) with
    | error e =>
      rw [insert, hterms, Act.bind_of_ok rfl, forSender, haccept]
      exact isWithin_append _ _
    | ok b =>
      obtain rfl := Address.eq_of_accept_text haccept
      rw [next_insert hterms haccept]
      exact .refl _

/-- What is mined is no longer there. -/
theorem markMined_isWithin (spelled hash : Value) (q : PendingQueue) :
    (markMined spelled hash q).next.IsWithin q := by
  cases haccept : Address.accept spelled with
  | error e =>
    rw [markMined, forSender, haccept]
    exact .refl q
  | ok a =>
    rw [next_markMined haccept]
    exact isWithin_remove q a hash

end PendingQueue

/-! ## 2.  A world with a queue -/

/-- A queue, and the rest of the world. -/
structure Queued (ρ : Type) where
  queue : PendingQueue
  rest : ρ

namespace Queued

/-- An act on the queue. -/
def onQueue (x : Act LogLine PendingQueue α) : Act LogLine (Queued ρ) α :=
  x.within queue fun queue w => { w with queue }

/-- The queue as the gate. -/
def gate : Gate LogLine (Queued ρ) where
  canQueue a := onQueue (PendingQueue.gate.canQueue a)
  canSign a := onQueue (PendingQueue.gate.canSign a)
  insert tx terms a := onQueue (PendingQueue.gate.insert tx terms a)

end Queued

/-- An act adds nothing to the queue. -/
def Act.SparesQueue (x : Act ν (Queued ρ) α) : Prop :=
  ∀ w, (x w).next.queue.IsWithin w.queue

/-- Who is asked beside the queue adds nothing to it. -/
structure SparesQueue (source : NonceSource LogLine (Queued ρ))
    (sink : Option (ErrorSink LogLine (Queued ρ))) : Prop where
  source (chain : Int) (account : Value) : (source chain account).SparesQueue
  sink : ∀ tell ∈ sink, ∀ e, (tell e).SparesQueue

/-- The request of a job asks for room, and its callback adds nothing to the queue. -/
structure Job.IsOrdinary (job : Job LogLine (Queued ρ)) : Prop where
  asks : job.request.isForced = false
  spares (nonce : Value) : (job.send nonce).SparesQueue

/-! ## 3.  What is under way -/

/-- Room has been granted, and the end has not come. -/
def Stage.isUnderWay : Stage → Bool
  | .outside | .over _ => false
  | _ => true

namespace Worker

/-- A request of the sender is under way. -/
def isUnderWay (a : Address) (w : Worker ν ρ) : Bool := (w.stageFor? a).any Stage.isUnderWay

/-- Every job is an ordinary one, and so is that of the errand in hand. -/
structure IsOrdinary (w : Worker LogLine (Queued ρ)) : Prop where
  todo : ∀ job ∈ w.todo, job.IsOrdinary
  hand : ∀ e stage, w.hand = some (e, stage) → ∀ nonce, (e.send nonce).SparesQueue

variable {w : Worker LogLine (Queued ρ)} {a : Address} {e : Errand LogLine (Queued ρ)}
  {stage : Stage}

theorem isUnderWay_of_hand (h : w.hand = some (e, stage)) :
    w.isUnderWay a = (decide (e.sender = a) && stage.isUnderWay) := by
  rw [isUnderWay, stageFor?_of_hand h]
  by_cases he : e.sender = a <;> simp [he]

theorem isUnderWay_of_none (h : w.hand = none) : w.isUnderWay a = false := by
  simp [isUnderWay, stageFor?_of_none h]

/-- What comes to a stage at which it is under way has been under way. -/
theorem isUnderWay_of_advance {stage' : Stage} (hhand : w.hand = some (e, stage))
    (hstages : stage'.isUnderWay = true → stage.isUnderWay = true)
    (h : isUnderWay a { w with hand := some (e, stage') } = true) : w.isUnderWay a = true := by
  rw [isUnderWay_of_hand rfl] at h
  rw [isUnderWay_of_hand hhand]
  simp only [Bool.and_eq_true] at h ⊢
  exact h.imp_right hstages

theorem IsOrdinary.advance (h : w.IsOrdinary) (hhand : w.hand = some (e, stage))
    (stage' : Stage) : IsOrdinary { w with hand := some (e, stage') } where
  todo := h.todo
  hand := by
    intro e' stage'' heq
    obtain ⟨rfl, -⟩ : e = e' ∧ stage' = stage'' := by simpa using heq
    exact h.hand e stage hhand

theorem IsOrdinary.tail {job : Job LogLine (Queued ρ)} {jobs : List (Job LogLine (Queued ρ))}
    (h : w.IsOrdinary) (htodo : w.todo = job :: jobs) : IsOrdinary { w with todo := jobs } where
  todo := fun job' hjob' => h.todo job' (htodo ▸ List.mem_cons_of_mem job hjob')
  hand := h.hand

theorem IsOrdinary.putAway (h : w.IsOrdinary) (result : Except Fault Value) :
    (w.putAway result).IsOrdinary where
  todo := fun job hjob => h.todo job (mem_todo_of_mem_todoAfter hjob)
  hand := by simp [Worker.putAway]

end Worker

/-- How many requests of a sender are under way. -/
def Scene.underWay (a : Address) (s : Scene ν ρ) : Nat := s.workers.countP (Worker.isUnderWay a)

section

variable {source : NonceSource LogLine (Queued ρ)} {sink : Option (ErrorSink LogLine (Queued ρ))}
  {e : Errand LogLine (Queued ρ)} {book book' : NonceBook} {world world' : Queued ρ}
  {stage stage' : Stage} {t : Talk}

/-- What a passage does to the queue: room is granted, or an entry takes the place of what was under
way, or nothing is added. -/
theorem Passage.queue_cases
    (h : Passage Queued.gate source sink e book world stage t stage' book' world')
    (hspares : SparesQueue source sink) (hsend : ∀ nonce, (e.send nonce).SparesQueue) :
    (stage = .outside ∧ world' = world ∧ world.queue.hasRoom e.sender = true) ∨
      (stage.isUnderWay = true ∧ stage'.isUnderWay = false ∧
        ∃ entry : Entry, entry.sender = e.sender ∧
          world'.queue.IsWithin (world.queue.append entry)) ∨
      (world'.queue.IsWithin world.queue ∧
        (stage'.isUnderWay = true → stage.isUnderWay = true)) := by
  cases h with
  | room hanswer =>
    obtain ⟨hnext, hroom⟩ := PendingQueue.canQueue_gate e.sender world.queue
    exact .inl ⟨rfl, congrArg (fun queue => { world with queue }) hnext, hroom hanswer⟩
  | noRoom hanswer hverdict =>
    have hnext := (PendingQueue.canQueue_gate e.sender world.queue).1
    exact .inr (.inr ⟨hnext ▸ .refl _, fun hunder => absurd hunder (by simp [Stage.isUnderWay])⟩)
  | signer hanswer =>
    have hnext := PendingQueue.canSign_gate e.sender world.queue
    exact .inr (.inr ⟨hnext ▸ .refl _, fun _ => rfl⟩)
  | noSigner hanswer hverdict =>
    have hnext := PendingQueue.canSign_gate e.sender world.queue
    exact .inr (.inr ⟨hnext ▸ .refl _, fun _ => rfl⟩)
  | reads hcached => exact .inr (.inr ⟨.refl _, fun _ => rfl⟩)
  | cannotRead hcached hline => exact .inr (.inr ⟨.refl _, fun _ => rfl⟩)
  | asks hcached hanswer => exact .inr (.inr ⟨hspares.source _ _ world, fun _ => rfl⟩)
  | asksInVain hcached hanswer => exact .inr (.inr ⟨hspares.source _ _ world, fun _ => rfl⟩)
  | calls attempt nonce => exact .inr (.inr ⟨.refl _, fun _ => rfl⟩)
  | returns hanswer => exact .inr (.inr ⟨hsend _ world, fun _ => rfl⟩)
  | fails hanswer => exact .inr (.inr ⟨hsend _ world, fun _ => rfl⟩)
  | asksAgain hanswer => exact .inr (.inr ⟨hspares.source _ _ world, fun _ => rfl⟩)
  | asksAgainInVain hanswer => exact .inr (.inr ⟨hspares.source _ _ world, fun _ => rfl⟩)
  | cannotAskAgain hrefused => exact .inr (.inr ⟨.refl _, fun _ => rfl⟩)
  | marks hnext => exact .inr (.inr ⟨.refl _, fun _ => rfl⟩)
  | cannotMark hnext => exact .inr (.inr ⟨.refl _, fun _ => rfl⟩)
  | cannotLog hline =>
    exact .inr (.inr ⟨.refl _, fun hunder => absurd hunder (by simp [Stage.isUnderWay])⟩)
  | @registers tx hanswer =>
    obtain ⟨entry, hentry, hinsert⟩ :=
      PendingQueue.insert_gate tx e.terms e.sender world.queue
    exact .inr (.inl ⟨rfl, rfl, entry, hentry, hinsert⟩)
  | @cannotRegister tx f t r w' hanswer hregistration hworld =>
    obtain ⟨entry, hentry, hinsert⟩ :=
      PendingQueue.insert_gate tx e.terms e.sender world.queue
    refine .inr (.inl ⟨rfl, rfl, entry, hentry, ?_⟩)
    rcases hworld with rfl | ⟨tell, htell, report, rfl⟩
    · exact hinsert
    · exact (hspares.sink tell htell report _).trans hinsert

/-! ## 4.  The balance of entries and of what is under way -/

/-- The entries of a sender and its requests under way are together no more than the limit and one
less than `p`, which is the most that has been under way so far. -/
structure Scene.IsBalanced (limit : Nat) (a : Address) (p : Nat)
    (s : Scene LogLine (Queued ρ)) : Prop where
  capacity : s.world.queue.capacity.amount = .whole limit
  ordinary : ∀ w ∈ s.workers, w.IsOrdinary
  balance : (s.world.queue.pendingOf a).length + s.underWay a ≤ limit + (p - 1)

namespace Scene.IsBalanced

variable {limit p p' : Nat} {a : Address} {before after : List (Worker LogLine (Queued ρ))}
  {w w' : Worker LogLine (Queued ρ)} {holder holder' : Option Nat}
  {taken taken' : List (Errand LogLine (Queued ρ))} {talk talk' : Talk}

theorem mono {s : Scene LogLine (Queued ρ)} (h : s.IsBalanced limit a p) (hp : p ≤ p') :
    s.IsBalanced limit a p' :=
  ⟨h.capacity, h.ordinary, Nat.le_trans h.balance (by omega)⟩

theorem underWay_eq (a : Address) (book : NonceBook) (world : Queued ρ) :
    Scene.underWay a ⟨book, world, before ++ w :: after, holder, taken, talk⟩ =
      (before ++ after).countP (Worker.isUnderWay a) + if w.isUnderWay a then 1 else 0 := by
  simp only [underWay, List.countP_append, List.countP_cons]
  omega

/-- A worker may be replaced by another if what is added to the queue has been under way. -/
theorem replace (h : IsBalanced limit a p ⟨book, world, before ++ w :: after, holder, taken, talk⟩)
    (hordinary : w'.IsOrdinary) (hcapacity : world'.queue.capacity = world.queue.capacity)
    (hbalance : (world'.queue.pendingOf a).length + (if w'.isUnderWay a then 1 else 0) ≤
      (world.queue.pendingOf a).length + if w.isUnderWay a then 1 else 0) :
    IsBalanced limit a p ⟨book', world', before ++ w' :: after, holder', taken', talk'⟩ where
  capacity := (congrArg Capacity.amount hcapacity).trans h.capacity
  ordinary := forall_replace h.ordinary hordinary
  balance := by
    have hbefore : (world.queue.pendingOf a).length + _ ≤ limit + (p - 1) := h.balance
    show (world'.queue.pendingOf a).length + _ ≤ limit + (p - 1)
    rw [underWay_eq] at hbefore ⊢
    omega

/-- A worker may be replaced by another if nothing is added, neither to the queue nor to what is
under way. -/
theorem replace_quietly
    (h : IsBalanced limit a p ⟨book, world, before ++ w :: after, holder, taken, talk⟩)
    (hordinary : w'.IsOrdinary) (hqueue : world'.queue.IsWithin world.queue)
    (hunder : w'.isUnderWay a = true → w.isUnderWay a = true) :
    IsBalanced limit a p ⟨book', world', before ++ w' :: after, holder', taken', talk'⟩ := by
  refine h.replace hordinary hqueue.capacity (Nat.add_le_add (hqueue.length_le a) ?_)
  by_cases hw' : w'.isUnderWay a = true
  · simp [hw', hunder hw']
  · simp [hw']

/-- A worker for whom nothing is under way may be let in if there is room. -/
theorem letIn (h : IsBalanced limit a p ⟨book, world, before ++ w :: after, holder, taken, talk⟩)
    (hordinary : w'.IsOrdinary) (hroom : world.queue.hasRoom a = true)
    (hw' : w'.isUnderWay a = true) :
    IsBalanced limit a
      (Scene.underWay a ⟨book', world, before ++ w' :: after, holder', taken', talk'⟩)
      ⟨book', world, before ++ w' :: after, holder', taken', talk'⟩ where
  capacity := h.capacity
  ordinary := forall_replace h.ordinary hordinary
  balance := by
    have hlt : (world.queue.pendingOf a).length < limit :=
      PendingQueue.lt_of_hasRoom h.capacity hroom
    have hpos : 0 < Scene.underWay a
        ⟨book', world, before ++ w' :: after, holder', taken', talk'⟩ := by
      rw [underWay_eq, if_pos hw']
      omega
    show (world.queue.pendingOf a).length + _ ≤ limit + _
    omega

/-- An errand that goes on by itself keeps the balance. -/
theorem passage {e : Errand LogLine (Queued ρ)} {stage stage' : Stage} {t : Talk}
    (h : IsBalanced limit a p ⟨book, world, before ++ w :: after, holder, taken, talk⟩)
    (hspares : SparesQueue source sink) (hhand : w.hand = some (e, stage))
    (hpassage : Passage Queued.gate source sink e book world stage t stage' book' world') :
    IsBalanced limit a
      (max p (Scene.underWay a ⟨book', world',
        before ++ { w with hand := some (e, stage') } :: after, holder, taken, talk ++ t⟩))
      ⟨book', world', before ++ { w with hand := some (e, stage') } :: after, holder, taken,
        talk ++ t⟩ := by
  have hw := h.ordinary w (by simp)
  have hw' := hw.advance hhand stage'
  have hunder' : Worker.isUnderWay a { w with hand := some (e, stage') } =
      (decide (e.sender = a) && stage'.isUnderWay) := Worker.isUnderWay_of_hand rfl
  rcases hpassage.queue_cases hspares (hw.hand e stage hhand) with
    ⟨rfl, rfl, hroom⟩ | ⟨hstage, hstage', entry, hentry, hqueue⟩ | ⟨hqueue, hstages⟩
  · cases hin : Worker.isUnderWay a { w with hand := some (e, stage') } with
    | true =>
      obtain rfl : e.sender = a := by
        rw [hunder', Bool.and_eq_true, decide_eq_true_eq] at hin
        exact hin.1
      exact (h.letIn hw' hroom hin).mono (Nat.le_max_right _ _)
    | false =>
      exact (h.replace_quietly hw' (.refl _) fun h => absurd h (by simp [hin])).mono
        (Nat.le_max_left _ _)
  · refine (h.replace hw' hqueue.capacity ?_).mono (Nat.le_max_left _ _)
    have hlength := hqueue.length_le a
    rw [PendingQueue.pendingOf_append, List.length_append, hentry] at hlength
    rw [Worker.isUnderWay_of_hand hhand, hunder', hstage, hstage']
    by_cases he : e.sender = a <;> simp [he] at hlength ⊢ <;> omega
  · exact (h.replace_quietly hw' hqueue (Worker.isUnderWay_of_advance hhand hstages)).mono
      (Nat.le_max_left _ _)

/-- **Every turn keeps the balance.** -/
theorem turn {s s' : Scene LogLine (Queued ρ)} (hturn : Scene.Turn Queued.gate source sink s s')
    (hspares : SparesQueue source sink) (h : s.IsBalanced limit a p) :
    s'.IsBalanced limit a (max p (s'.underWay a)) := by
  cases hturn with
  | rests => exact h.mono (Nat.le_max_left _ _)
  | @putsAway book world before after w holder taken talk e result hhand =>
    have hw' := (h.ordinary w (by simp)).putAway result
    exact (h.replace_quietly hw' (.refl _) fun hunder =>
      absurd hunder (Bool.eq_false_iff.mp (Worker.isUnderWay_of_none rfl))).mono
        (Nat.le_max_left _ _)
  | @declines book world before after w holder taken talk job jobs why hhand htodo haccept =>
    have hw' := ((h.ordinary w (by simp)).tail htodo).putAway (.error why.fault)
    exact (h.replace_quietly hw' (.refl _) fun hunder =>
      absurd hunder (Bool.eq_false_iff.mp (Worker.isUnderWay_of_none rfl))).mono
        (Nat.le_max_left _ _)
  | @takesUp book world before after w holder taken talk job jobs sender terms hhand htodo
      haccept =>
    have hw := h.ordinary w (by simp)
    have hjob := hw.todo job (by simp [htodo])
    -- nobody skips the question of room
    rw [hjob.asks, if_neg Bool.false_ne_true]
    have hw' : Worker.IsOrdinary
        { w with todo := jobs, hand := some (⟨job.chain, sender, terms, job.send⟩, .outside) } :=
      ⟨(hw.tail htodo).todo, fun e stage heq => by
        obtain ⟨rfl, -⟩ := Prod.mk.inj (Option.some.inj heq)
        exact hjob.spares⟩
    refine (h.replace_quietly hw' (.refl _) fun hunder => ?_).mono (Nat.le_max_left _ _)
    rw [Worker.isUnderWay_of_hand rfl] at hunder
    simp [Stage.isUnderWay] at hunder
  | @takesBook book world before after w taken talk e hhand =>
    have hw' := (h.ordinary w (by simp)).advance hhand .reading
    exact (h.replace_quietly hw' (.refl _)
      (Worker.isUnderWay_of_advance hhand fun _ => rfl)).mono (Nat.le_max_left _ _)
  | @givesBack book world before after w holder taken talk e result hhand =>
    have hw' := (h.ordinary w (by simp)).advance hhand (Stage.afterLeaving result)
    exact (h.replace_quietly hw' (.refl _)
      (Worker.isUnderWay_of_advance hhand fun _ => rfl)).mono (Nat.le_max_left _ _)
  | goesOn hhand hpassage => exact h.passage hspares hhand hpassage

end Scene.IsBalanced

end

/-! ## 5.  Schedules -/

/-- What may happen next: the turn of a worker, or a transaction of a sender is mined. -/
inductive QueueMove where
  | turn (i : Nat)
  | mined (sender hash : Value)

namespace Crew

section

variable (source : NonceSource LogLine (Queued ρ)) (sink : Option (ErrorSink LogLine (Queued ρ)))
  (a : Address)

/-- A crew whose gate is the queue, after a move. -/
def play (crew : Crew LogLine (Queued ρ)) : QueueMove → Crew LogLine (Queued ρ)
  | .turn i => crew.turn Queued.gate source sink i
  | .mined sender hash =>
    let mined := Queued.onQueue (PendingQueue.markMined sender hash) crew.desk.world
    { crew with desk := { crew.desk with world := mined.next } }

/-- The crew after several moves. -/
def playAll (crew : Crew LogLine (Queued ρ)) (moves : List QueueMove) :
    Crew LogLine (Queued ρ) :=
  moves.foldl (play source sink) crew

/-- How many requests of a sender are under way. -/
def underWay (crew : Crew LogLine (Queued ρ)) : Nat :=
  crew.workers.countP (Worker.isUnderWay a)

/-- The most requests of a sender that are under way at once while moves are made. -/
def mostUnderWay : Crew LogLine (Queued ρ) → List QueueMove → Nat
  | crew, [] => crew.underWay a
  | crew, move :: moves =>
    max (crew.underWay a) (mostUnderWay (crew.play source sink move) moves)

end

variable {source : NonceSource LogLine (Queued ρ)}
  {sink : Option (ErrorSink LogLine (Queued ρ))} {a : Address} {limit p : Nat}

theorem underWay_le_mostUnderWay (crew : Crew LogLine (Queued ρ)) (moves : List QueueMove) :
    crew.underWay a ≤ crew.mostUnderWay source sink a moves := by
  cases moves with
  | nil => exact Nat.le_refl _
  | cons move moves => exact Nat.le_max_left _ _

/-- Every move keeps the balance. -/
theorem play_isBalanced (hspares : SparesQueue source sink) {crew : Crew LogLine (Queued ρ)}
    {talk : Talk} (h : (crew.scene talk).IsBalanced limit a p) (move : QueueMove) :
    ∃ talk', ((crew.play source sink move).scene talk').IsBalanced limit a
      (max p ((crew.play source sink move).underWay a)) := by
  cases move with
  | turn i => exact ⟨_, h.turn (turn_scene Queued.gate source sink crew i talk).1 hspares⟩
  | mined sender hash =>
    have hmined := PendingQueue.markMined_isWithin sender hash crew.desk.world.queue
    have hbalance : (crew.desk.world.queue.pendingOf a).length + crew.underWay a ≤
        limit + (p - 1) := h.balance
    have hafter : ((crew.play source sink (.mined sender hash)).scene talk).IsBalanced limit a p :=
      ⟨(congrArg Capacity.amount hmined.capacity).trans h.capacity, h.ordinary,
        Nat.le_trans (Nat.add_le_add_right (hmined.length_le a) _) hbalance⟩
    exact ⟨talk, hafter.mono (Nat.le_max_left _ _)⟩

/-- All moves together keep the balance. -/
theorem playAll_isBalanced (hspares : SparesQueue source sink) {crew : Crew LogLine (Queued ρ)}
    {talk : Talk} (h : (crew.scene talk).IsBalanced limit a p) (moves : List QueueMove) :
    ∃ talk', ((crew.playAll source sink moves).scene talk').IsBalanced limit a
      (max p (crew.mostUnderWay source sink a moves)) := by
  induction moves generalizing crew talk p with
  | nil => exact ⟨talk, h.mono (Nat.le_max_left _ _)⟩
  | cons move moves ih =>
    obtain ⟨talk', hnext⟩ := play_isBalanced hspares h move
    obtain ⟨talk'', hlast⟩ := ih hnext
    refine ⟨talk'', hlast.mono ?_⟩
    have hmost : (crew.play source sink move).underWay a ≤
        (crew.play source sink move).mostUnderWay source sink a moves :=
      underWay_le_mostUnderWay _ moves
    simp only [mostUnderWay]
    omega

/-- **What exceeds the capacity is due to what overlaps.**  Nobody skips the question of room, and
every sender begins within the capacity.  Then after all moves the entries of a sender are no more
than the capacity and one less than the most requests of the sender that have been under way at
once; so they are within the capacity if no two of them have overlapped. -/
theorem pendingOf_playAll_le (source : NonceSource LogLine (Queued ρ))
    (sink : Option (ErrorSink LogLine (Queued ρ))) (hspares : SparesQueue source sink)
    (desk : Desk (Queued ρ)) {workers : List (Worker LogLine (Queued ρ))} (limit : Nat)
    (hcapacity : desk.world.queue.capacity.amount = .whole limit)
    (hwithin : ∀ a, (desk.world.queue.pendingOf a).length ≤ limit)
    (hworkers : ∀ w ∈ workers, w.hand = none ∧ ∀ job ∈ w.todo, job.IsOrdinary)
    (moves : List QueueMove) (a : Address) :
    (((Crew.start desk workers).playAll source sink moves).desk.world.queue.pendingOf a).length ≤
      limit + ((Crew.start desk workers).mostUnderWay source sink a moves - 1) := by
  have hnone : workers.countP (Worker.isUnderWay a) = 0 :=
    List.countP_eq_zero.mpr fun w hw => by simp [Worker.isUnderWay_of_none (hworkers w hw).1]
  have hstart : ((Crew.start desk workers).scene []).IsBalanced limit a 0 :=
    { capacity := hcapacity
      ordinary := fun w hw => ⟨(hworkers w hw).2, by simp [(hworkers w hw).1]⟩
      balance := by
        show (desk.world.queue.pendingOf a).length + workers.countP (Worker.isUnderWay a) ≤ limit
        rw [hnone]
        exact hwithin a }
  obtain ⟨talk, h⟩ := playAll_isBalanced hspares hstart moves
  rw [Nat.zero_max] at h
  exact Nat.le_trans (Nat.le_add_right _ _) h.balance

end Crew

namespace Crowd

/-- The account of forty ones. -/
def sender : Address := .uniform (.ofNat 1)

/-- A desk at a queue with room for one transaction of each sender. -/
def desk : Desk (Queued Unit) :=
  { world := ⟨{ capacity := ⟨.int 1, .whole 1, rfl⟩, signers := [sender] }, ()⟩ }

/-- The network answers five. -/
def source : NonceSource LogLine (Queued Unit) := fun _ _ => pure (.int 5)

/-- A job of the sender, whose transaction is its nonce. -/
def job : Job LogLine (Queued Unit) where
  chain := 1
  request :=
    { sender := .text "0x1111111111111111111111111111111111111111"
      terms := .terms ⟨.int 2, .int 100, .int 60, .int 5⟩ }
  send := fun nonce => pure nonce

/-- Two workers with a job each. -/
def workers : List (Worker LogLine (Queued Unit)) := [{ todo := [job] }, { todo := [job] }]

/-- One worker begins when the transaction of the other has been mined. -/
def oneByOne : List QueueMove :=
  List.replicate 11 (.turn 0) ++
    [.mined (.text "0x1111111111111111111111111111111111111111") (.int 5)] ++
    List.replicate 11 (.turn 1)

/-- The workers in turn. -/
def together : List QueueMove := (List.replicate 20 [.turn 0, .turn 1]).flatten

theorem sparesQueue : SparesQueue source none where
  source _ _ w := .refl w.queue
  sink := by simp

theorem ordinary : ∀ w ∈ workers, w.hand = none ∧ ∀ job ∈ w.todo, job.IsOrdinary := by
  have hjob : job.IsOrdinary := ⟨rfl, fun _ w => .refl w.queue⟩
  simp [workers, hjob]

/-- Of requests that do not overlap there is one entry at most. -/
theorem within_oneByOne :
    (((Crew.start desk workers).playAll source none oneByOne).desk.world.queue.pendingOf
      sender).length ≤ 1 := by
  have hmost : (Crew.start desk workers).mostUnderWay source none sender oneByOne = 1 := by
    decide +kernel
  have hle := Crew.pendingOf_playAll_le source none sparesQueue desk 1 rfl
    (fun _ => Nat.zero_le 1) ordinary oneByOne sender
  rwa [hmost] at hle

/-- **The capacity may be exceeded.**  Two workers ask for room before either of them has been
registered, and both are let in where there is room for one. -/
theorem not_always_within_capacity :
    ¬ ∀ (workers : List (Worker LogLine (Queued Unit))) (moves : List QueueMove),
      (∀ w ∈ workers, w.hand = none ∧ ∀ job ∈ w.todo, job.IsOrdinary) →
      ∀ a, (((Crew.start desk workers).playAll source none moves).desk.world.queue.pendingOf
        a).length ≤ 1 := by
  intro h
  have htwo : (((Crew.start desk workers).playAll source none together).desk.world.queue.pendingOf
      sender).length = 2 := by decide +kernel
  have hle := h workers together ordinary sender
  omega

end Crowd

end Outbox
