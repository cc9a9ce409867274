import Outbox.Proofs.Serialization

/-!
# Consecutive nonces

If nothing goes wrong, the transactions of an account that a crew sends carry the nonces that
follow the pending nonce of the account, each once, whatever the schedule.  They need not be
registered in this order, because the gate is told of a transaction when the book has been given
back already.

## What is counted

After `n` nonces of the account have been marked, the book has the pending nonce plus `n`.  The
transactions with the nonces before it are registered, or they are carried: by the worker who gives
the book back, and by those who have given it back and have not told the gate yet.  The errands of
the account that are still ahead of their marking are as many as its jobs less `n`.
`Scene.IsConsecutive` says this, and every turn keeps it (`Scene.IsConsecutive.turn`).

That the holder is alone with the book is used twice.  The nonce that is marked is that of the book,
for nobody else has chosen one; and while nothing is marked the network is asked by one who knows
that nothing has been submitted, for nobody else has chosen a nonce.

## What may go wrong elsewhere

Nothing is assumed of other accounts but that their callbacks submit nothing for this one.  Their
workers may fail, and give up, beside those of the account.

Of the account it is assumed that the log can be told of its chains and of its nonces, because a
nonce that cannot be written is not used.
-/

namespace Outbox

variable {ν σ : Type}

/-! ## 1.  Surroundings in which nothing goes wrong -/

/-- The gate lets everyone in and takes every transaction. -/
structure Gate.IsWilling (gate : Gate ν σ) : Prop where
  room (a : Address) (s : σ) : (gate.canQueue a s).result = .ok true
  signer (a : Address) (s : σ) : (gate.canSign a s).result = .ok true
  insert (tx : Value) (terms : Terms) (a : Address) (s : σ) :
    (gate.insert tx terms a s).result = .ok ()

/-- The network has a pending nonce for an account, as long as no transaction of the account has
been submitted. -/
def NonceSource.Has (source : NonceSource ν σ) (unsent : σ → Prop) (a : Address) (pending : Int) :
    Prop :=
  ∀ chain s, unsent s → (source chain a.key.value s).result = .ok (.int pending)

/-- What holds of the world before an act holds after it. -/
def Act.Keeps {α : Type} (P : σ → Prop) (x : Act ν σ α) : Prop := ∀ s, P s → P (x s).next

/-- What holds of the world before anything but a submission holds after it. -/
structure KeptBeside (P : σ → Prop) (gate : Gate ν σ) (source : NonceSource ν σ)
    (sink : Option (ErrorSink ν σ)) : Prop where
  room (b : Address) : (gate.canQueue b).Keeps P
  signer (b : Address) : (gate.canSign b).Keeps P
  insert (tx : Value) (terms : Terms) (b : Address) : (gate.insert tx terms b).Keeps P
  source (chain : Int) (account : Value) : (source chain account).Keeps P
  sink : ∀ tell ∈ sink, ∀ f, (tell f).Keeps P

/-- The callback returns with every nonce, and its transaction has that nonce. -/
def SendCallback.Returns (nonceOf : Value → Value) (send : SendCallback ν σ) : Prop :=
  ∀ nonce s, ∃ tx, (send nonce s).result = .ok tx ∧ nonceOf tx = nonce

/-- The sender of a job, if its request is accepted. -/
def Job.sender? (job : Job ν σ) : Option Address :=
  match job.request.accept with
  | .ok (sender, _) => some sender
  | .error _ => none

/-- A callback for the account `b` returns if it is one of the account `a`, and otherwise submits
nothing for that account. -/
structure SendCallback.Serves (nonceOf : Value → Value) (unsent : σ → Prop) (a b : Address)
    (send : SendCallback ν σ) : Prop where
  returns : b = a → SendCallback.Returns nonceOf send
  keeps : b ≠ a → ∀ nonce, (send nonce).Keeps unsent

/-- The job is one of the account `b`, and so is its callback.  If it is one of the account `a` then
the log can be told of its chain. -/
structure Job.IsFor (nonceOf : Value → Value) (unsent : σ → Prop) (a b : Address) (job : Job ν σ) :
    Prop where
  sender : job.sender? = some b
  callback : SendCallback.Serves nonceOf unsent a b job.send
  chain : b = a → Literal.isWritable job.chain = true

/-! ## 2.  What is ahead, and what is carried -/

namespace Stage

/-- The nonce of an errand at this stage is not marked yet. -/
def isAhead : Stage → Bool
  | .leaving _ | .concluding _ | .over _ => false
  | _ => true

/-- A nonce is chosen and not marked yet. -/
def hasNonce : Stage → Bool
  | .chosen .. | .sending .. | .sent .. => true
  | _ => false

/-- The transaction that is out and that the gate is to be told of. -/
def carried : Stage → List Value
  | .leaving (.ok tx) => [tx]
  | .concluding tx => [tx]
  | _ => []

/-- Nothing has gone wrong before the stage, where `m` is the nonce that comes next. -/
def OnCourse (nonceOf : Value → Value) (m : Value) : Stage → Prop
  | .outside | .inside | .waiting | .reading | .concluding _ => True
  | .chosen attempt v => attempt = .first ∧ v = m
  | .sending attempt v => attempt = .first ∧ v = m
  | .sent v tx => v = m ∧ nonceOf tx = m
  | .refused .. => False
  | .leaving result => ∃ tx, result = .ok tx
  | .over result => ∃ tx, result = .ok tx

/-- Who has not the book has chosen no nonce, and does not care which one comes next. -/
theorem OnCourse.of_holdsBook {nonceOf : Value → Value} {m m' : Value} {stage : Stage}
    (h : stage.OnCourse nonceOf m) (hholds : stage.holdsBook = false) :
    stage.OnCourse nonceOf m' := by
  cases stage <;> simp_all [OnCourse, holdsBook]

theorem hasNonce_of_holdsBook {stage : Stage} (h : stage.holdsBook = false) :
    stage.hasNonce = false := by
  cases stage <;> simp_all [hasNonce, holdsBook]

end Stage

namespace Worker

variable (nonceOf : Value → Value) (unsent : σ → Prop) (a : Address)

/-- The jobs and the errand of the account whose nonces are not marked yet. -/
def ahead (w : Worker ν σ) : Nat :=
  w.todo.countP (fun job => job.sender? = some a) +
    if (w.stageFor? a).any Stage.isAhead then 1 else 0

/-- The worker has chosen a nonce of the account. -/
def hasNonce (w : Worker ν σ) : Bool := (w.stageFor? a).any Stage.hasNonce

/-- The nonces of the transactions of the account that the worker carries. -/
def carries (w : Worker ν σ) : List Value :=
  ((w.stageFor? a).elim [] Stage.carried).map nonceOf

/-- The worker has jobs for one account only, and so are their callbacks. -/
structure Serves (b : Address) (w : Worker ν σ) : Prop where
  todo : ∀ job ∈ w.todo, job.IsFor nonceOf unsent a b
  hand : ∀ e stage, w.hand = some (e, stage) →
    e.sender = b ∧ SendCallback.Serves nonceOf unsent a b e.send ∧
      (b = a → Literal.isWritable e.chain = true)

end Worker

/-- The jobs of an account that workers have to do. -/
def jobsFor (a : Address) (workers : List (Worker ν σ)) : Nat :=
  (workers.flatMap Worker.todo).countP fun job => job.sender? = some a

/-- The jobs of an account, and the errands in hand, whose nonces are not marked yet. -/
def aheadFor (a : Address) (workers : List (Worker ν σ)) : Nat :=
  jobsFor a workers + workers.countP fun w => (w.stageFor? a).any Stage.isAhead

theorem aheadFor_append (a : Address) (before after : List (Worker ν σ)) :
    aheadFor a (before ++ after) = aheadFor a before + aheadFor a after := by
  simp only [aheadFor, jobsFor, List.flatMap_append, List.countP_append]
  omega

theorem aheadFor_cons (a : Address) (w : Worker ν σ) (after : List (Worker ν σ)) :
    aheadFor a (w :: after) = w.ahead a + aheadFor a after := by
  simp only [aheadFor, jobsFor, Worker.ahead, List.flatMap_cons, List.countP_append,
    List.countP_cons]
  omega

theorem aheadFor_eq_zero {a : Address} {workers : List (Worker ν σ)}
    (h : ∀ w ∈ workers, w.ahead a = 0) : aheadFor a workers = 0 := by
  induction workers with
  | nil => rfl
  | cons w after ih =>
    rw [aheadFor_cons, h w List.mem_cons_self,
      ih fun v hv => h v (List.mem_cons_of_mem w hv)]

/-- The transactions of an account that the gate is told of. -/
def registeredFor (a : Address) (deeds : List (Deed ν)) : List Value :=
  deeds.filterMap fun
    | .registers tx _ sender _ => if sender = a then some tx else none
    | _ => none

/-- The questions to the network about an account. -/
def askedFor (a : Address) (deeds : List (Deed ν)) : Nat :=
  deeds.countP fun
    | .asksNonce _ account => account.same a.key.value
    | _ => false

@[simp] theorem registeredFor_append (a : Address) (s t : List (Deed ν)) :
    registeredFor a (s ++ t) = registeredFor a s ++ registeredFor a t :=
  List.filterMap_append

@[simp] theorem askedFor_append (a : Address) (s t : List (Deed ν)) :
    askedFor a (s ++ t) = askedFor a s + askedFor a t :=
  List.countP_append

theorem registeredFor_registers (a : Address) (tx : Value) (terms : Terms) (sender : Address)
    (cached : Option Numeral) (answer : Except Fault Unit) :
    registeredFor a (Talk.registers tx terms sender cached answer) =
      if sender = a then [tx] else [] := by
  unfold registeredFor Talk.registers
  by_cases h : sender = a <;> simp [h]

theorem askedFor_asksNonce (a b : Address) (chain : Int) (answer : Except Fault Value) :
    askedFor a (Talk.asksNonce chain b.key answer) = if b = a then 1 else 0 := by
  by_cases h : b = a
  · simp [askedFor, Talk.asksNonce, h]
  · have htext : b.text ≠ a.text := fun htext => h (Address.text_injective htext)
    simp [askedFor, Talk.asksNonce, h, htext]

/-- After the marking of `n` nonces of an account: `k` jobs of the account in all, of which `n` are
no longer ahead, and the nonces of these are registered or carried, each once. -/
structure Scene.IsConsecutive (nonceOf : Value → Value) (unsent : σ → Prop) (a : Address)
    (pending : Int) (k n : Nat) (s : Scene ν σ) : Prop where
  serves : ∀ w ∈ s.workers, ∃ b, w.Serves nonceOf unsent a b
  unsent : n = 0 → (∀ w ∈ s.workers, w.hasNonce a = false) → unsent s.world
  course : ∀ w ∈ s.workers, ∀ stage, w.stageFor? a = some stage →
    stage.OnCourse nonceOf (.int (pending + n))
  book : s.book.get? a.key = if n = 0 then none else some (.whole (pending + n))
  counted : aheadFor a s.workers + n = k
  registered : ((registeredFor a s.talk).map nonceOf ++
    s.workers.flatMap (Worker.carries nonceOf a)).Perm
      ((List.range n).map fun i : Nat => .int (pending + i))
  asked : askedFor a s.talk = if n = 0 then s.workers.countP (Worker.hasNonce a) else 1

/-! ## 3.  Views of a worker -/

namespace Worker

variable {nonceOf : Value → Value} {unsent : σ → Prop} {a b : Address} {w : Worker ν σ}
  {e : Errand ν σ} {stage : Stage}

theorem Serves.sender_eq (h : w.Serves nonceOf unsent a b) (hhand : w.hand = some (e, stage)) :
    e.sender = b :=
  (h.hand e stage hhand).1

theorem holdsBook_of_stageFor? (h : w.stageFor? a = some stage) :
    w.holdsBook = stage.holdsBook := by
  unfold stageFor? at h
  cases hhand : w.hand with
  | none => simp [hhand] at h
  | some hand =>
    obtain ⟨e, stage'⟩ := hand
    simp only [hhand] at h
    split at h
    · obtain rfl : stage' = stage := Option.some.inj h
      exact holdsBook_of_hand hhand
    · exact absurd h (by simp)

/-- Who has not the book has chosen no nonce. -/
theorem hasNonce_of_holdsBook (h : w.holdsBook = false) : w.hasNonce a = false := by
  cases hstage : w.stageFor? a with
  | none => simp [hasNonce, hstage]
  | some stage =>
    rw [holdsBook_of_stageFor? hstage] at h
    simp [hasNonce, hstage, Stage.hasNonce_of_holdsBook h]

/-- With nothing in hand only the jobs are ahead. -/
theorem views_of_none (nonceOf : Value → Value) (a : Address) (h : w.hand = none) :
    w.ahead a = w.todo.countP (fun job => job.sender? = some a) ∧ w.carries nonceOf a = [] ∧
      w.hasNonce a = false := by
  simp [ahead, carries, hasNonce, stageFor?_of_none h]

/-- With an errand in hand that is over only the jobs are ahead. -/
theorem views_of_over (nonceOf : Value → Value) (a : Address) {result : Except Fault Value}
    (h : w.hand = some (e, .over result)) :
    w.ahead a = w.todo.countP (fun job => job.sender? = some a) ∧ w.carries nonceOf a = [] ∧
      w.hasNonce a = false := by
  by_cases he : e.sender = a <;>
    simp [ahead, carries, hasNonce, stageFor?_of_hand h, he, Stage.isAhead, Stage.carried,
      Stage.hasNonce]

/-- A worker who serves another account has no jobs for this one. -/
theorem Serves.countP_eq_zero (h : w.Serves nonceOf unsent a b) (hb : b ≠ a) {jobs : List (Job ν σ)}
    (hjobs : ∀ job ∈ jobs, job ∈ w.todo) :
    jobs.countP (fun job => job.sender? = some a) = 0 := by
  rw [List.countP_eq_zero]
  intro job hjob
  simp [(h.todo job (hjobs job hjob)).sender, hb]

/-- A worker whose errand is at another stage serves the same account. -/
theorem Serves.advance (h : w.Serves nonceOf unsent a b) (hhand : w.hand = some (e, stage))
    (stage' : Stage) : Serves nonceOf unsent a b { w with hand := some (e, stage') } where
  todo := h.todo
  hand := by
    intro e' stage'' heq
    obtain ⟨rfl, -⟩ : e = e' ∧ stage' = stage'' := by simpa using heq
    exact h.hand e stage hhand

end Worker

namespace Scene.IsConsecutive

variable {nonceOf : Value → Value} {unsent : σ → Prop} {a : Address} {pending : Int} {k n : Nat}
  {book book' : NonceBook} {world world' : σ} {before after : List (Worker ν σ)}
  {w w' : Worker ν σ} {holder holder' : Option Nat} {taken taken' : List (Errand ν σ)}
  {talk talk' : Talk}

/-- What is carried may be counted in any order. -/
theorem perm_carried {α : Type} (xs ys zs us : List α) :
    (xs ++ (ys ++ (zs ++ us))).Perm (xs ++ zs ++ (ys ++ us)) := by
  rw [List.append_assoc]
  exact (List.perm_append_comm_assoc ys zs us).append_left xs

/-- A worker may be replaced by another who keeps the account in balance. -/
theorem replace
    (h : IsConsecutive nonceOf unsent a pending k n
      ⟨book, world, before ++ w :: after, holder, taken, talk⟩)
    (hserves : ∃ b, w'.Serves nonceOf unsent a b)
    (hcourse : ∀ stage, w'.stageFor? a = some stage →
      stage.OnCourse nonceOf (.int (pending + n)))
    (hbook : book'.get? a.key = book.get? a.key) (hahead : w'.ahead a = w.ahead a)
    (hregistered : ((registeredFor a talk').map nonceOf ++ w'.carries nonceOf a).Perm
      ((registeredFor a talk).map nonceOf ++ w.carries nonceOf a))
    (hasked : if n = 0 then
        askedFor a talk' + (if w.hasNonce a then 1 else 0) =
          askedFor a talk + (if w'.hasNonce a then 1 else 0)
      else askedFor a talk' = askedFor a talk)
    (hunsent : n = 0 → w'.hasNonce a = false →
      w.hasNonce a = false ∧ (unsent world → unsent world')) :
    IsConsecutive nonceOf unsent a pending k n
      ⟨book', world', before ++ w' :: after, holder', taken', talk'⟩ where
  unsent := by
    intro hn hnobody
    obtain ⟨hw, hworld⟩ := hunsent hn (hnobody w' (by simp))
    exact hworld (h.unsent hn (forall_replace hnobody hw))
  serves := forall_replace h.serves hserves
  course := forall_replace h.course hcourse
  book := hbook.trans h.book
  counted := by
    have hcounted := h.counted
    simp only [aheadFor_append, aheadFor_cons, hahead] at hcounted ⊢
    exact hcounted
  registered := by
    have hbefore := h.registered
    simp only [List.flatMap_append, List.flatMap_cons] at hbefore ⊢
    have hmoved := (perm_carried _ _ _ _).trans (hregistered.append_right
      (before.flatMap (Worker.carries nonceOf a) ++ after.flatMap (Worker.carries nonceOf a)))
    exact (hmoved.trans (perm_carried _ _ _ _).symm).trans hbefore
  asked := by
    have hbefore := h.asked
    simp only [List.countP_append, List.countP_cons] at hbefore ⊢
    by_cases hn : n = 0
    · rw [if_pos hn] at hasked hbefore ⊢
      omega
    · rw [if_neg hn] at hasked hbefore ⊢
      exact hasked.trans hbefore

/-- A worker whose errand is one of the account may come to another stage that keeps the account in
balance. -/
theorem advance {e : Errand ν σ} {stage stage' : Stage}
    (h : IsConsecutive nonceOf unsent a pending k n
      ⟨book, world, before ++ w :: after, holder, taken, talk⟩)
    (hhand : w.hand = some (e, stage)) (he : e.sender = a)
    (hcourse : stage'.OnCourse nonceOf (.int (pending + n)))
    (hahead : stage'.isAhead = stage.isAhead)
    (hregistered : ((registeredFor a talk').map nonceOf ++ stage'.carried.map nonceOf).Perm
      ((registeredFor a talk).map nonceOf ++ stage.carried.map nonceOf))
    (hasked : if n = 0 then
        askedFor a talk' + (if stage.hasNonce then 1 else 0) =
          askedFor a talk + (if stage'.hasNonce then 1 else 0)
      else askedFor a talk' = askedFor a talk)
    (hunsent : n = 0 → stage'.hasNonce = false →
      stage.hasNonce = false ∧ (unsent world → unsent world')) :
    IsConsecutive nonceOf unsent a pending k n
      ⟨book, world', before ++ { w with hand := some (e, stage') } :: after, holder', taken',
        talk'⟩ := by
  have hstage : w.stageFor? a = some stage := by rw [Worker.stageFor?_of_hand hhand, if_pos he]
  have hstage' : Worker.stageFor? a { w with hand := some (e, stage') } = some stage' := if_pos he
  obtain ⟨b, hb⟩ := h.serves w (by simp)
  refine h.replace ⟨b, hb.advance hhand stage'⟩ ?_ rfl ?_ ?_ ?_ ?_
  · intro stage'' hstage''
    obtain rfl : stage' = stage'' := Option.some.inj (hstage'.symm.trans hstage'')
    exact hcourse
  · simp only [Worker.ahead, hstage, hstage', Option.any_some, hahead]
  · simpa only [Worker.carries, hstage, hstage', Option.elim_some] using hregistered
  · simpa only [Worker.hasNonce, hstage, hstage', Option.any_some] using hasked
  · simpa only [Worker.hasNonce, hstage, hstage', Option.any_some] using hunsent

/-- Nothing changes for the account at a passage at which nothing is asked, marked or registered. -/
theorem advance_quietly {e : Errand ν σ} {stage stage' : Stage} {t : Talk}
    (h : IsConsecutive nonceOf unsent a pending k n
      ⟨book, world, before ++ w :: after, holder, taken, talk⟩)
    (hhand : w.hand = some (e, stage)) (he : e.sender = a)
    (hcourse : stage'.OnCourse nonceOf (.int (pending + n)))
    (hahead : stage'.isAhead = stage.isAhead) (hcarried : stage'.carried = stage.carried)
    (hnonce : stage'.hasNonce = stage.hasNonce) (hregistered : registeredFor a t = [])
    (hasked : askedFor a t = 0)
    (hunsent : stage'.hasNonce = false → unsent world → unsent world') :
    IsConsecutive nonceOf unsent a pending k n
      ⟨book, world', before ++ { w with hand := some (e, stage') } :: after, holder', taken',
        talk ++ t⟩ := by
  refine h.advance hhand he hcourse hahead ?_ ?_ ?_
  · rw [registeredFor_append, hregistered, List.append_nil, hcarried]
  · rw [askedFor_append, hasked, Nat.add_zero, hnonce]
    split <;> rfl
  · exact fun _ hnot => ⟨hnonce ▸ hnot, hunsent hnot⟩

/-- Nothing changes for the account when the errand of another comes to another stage. -/
theorem advance_foreign {e : Errand ν σ} {stage stage' : Stage} {t : Talk}
    (h : IsConsecutive nonceOf unsent a pending k n
      ⟨book, world, before ++ w :: after, holder, taken, talk⟩)
    (hhand : w.hand = some (e, stage)) (he : e.sender ≠ a)
    (hbook : book'.get? a.key = book.get? a.key) (hregistered : registeredFor a t = [])
    (hasked : askedFor a t = 0) (hunsent : unsent world → unsent world') :
    IsConsecutive nonceOf unsent a pending k n
      ⟨book', world', before ++ { w with hand := some (e, stage') } :: after, holder', taken',
        talk ++ t⟩ := by
  obtain ⟨b, hb⟩ := h.serves w (by simp)
  have hstage : w.stageFor? a = none := by rw [Worker.stageFor?_of_hand hhand, if_neg he]
  have hstage' : Worker.stageFor? a { w with hand := some (e, stage') } = none := if_neg he
  refine h.replace ⟨b, hb.advance hhand stage'⟩ ?_ hbook ?_ ?_ ?_ ?_
  · intro stage'' hstage''
    exact absurd (hstage'.symm.trans hstage'') (by simp)
  · simp only [Worker.ahead, hstage, hstage']
  · simp [Worker.carries, hstage, hstage', hregistered]
  · simp [Worker.hasNonce, hstage, hstage', hasked]
  · exact fun _ _ => ⟨by simp [Worker.hasNonce, hstage], hunsent⟩

/-- Nothing changes for the account when the book changes hands. -/
theorem handOver {e : Errand ν σ} {stage stage' : Stage}
    (h : IsConsecutive nonceOf unsent a pending k n
      ⟨book, world, before ++ w :: after, holder, taken, talk⟩)
    (hhand : w.hand = some (e, stage))
    (hcourse : e.sender = a → stage'.OnCourse nonceOf (.int (pending + n)))
    (hahead : stage'.isAhead = stage.isAhead) (hcarried : stage'.carried = stage.carried)
    (hnonce : stage'.hasNonce = stage.hasNonce) :
    IsConsecutive nonceOf unsent a pending k n
      ⟨book, world, before ++ { w with hand := some (e, stage') } :: after, holder', taken',
        talk⟩ := by
  rw [← List.append_nil talk]
  by_cases he : e.sender = a
  · exact h.advance_quietly hhand he (hcourse he) hahead hcarried hnonce rfl rfl fun _ => id
  · exact h.advance_foreign hhand he rfl rfl rfl id

/-- Nothing changes for the account when a result is put away. -/
theorem putAway {e : Errand ν σ} {result : Except Fault Value}
    (h : IsConsecutive nonceOf unsent a pending k n
      ⟨book, world, before ++ w :: after, holder, taken, talk⟩)
    (hhand : w.hand = some (e, .over result)) :
    IsConsecutive nonceOf unsent a pending k n
      ⟨book, world, before ++ w.putAway result :: after, holder, taken, talk⟩ := by
  obtain ⟨b, hb⟩ := h.serves w (by simp)
  have hstage' : (w.putAway result).stageFor? a = none := Worker.stageFor?_of_none rfl
  have htodo : (w.todoAfter result).countP (fun job => job.sender? = some a) =
      w.todo.countP fun job => job.sender? = some a := by
    by_cases he : e.sender = a
    · have hstage : w.stageFor? a = some (.over result) := by
        rw [Worker.stageFor?_of_hand hhand, if_pos he]
      obtain ⟨tx, rfl⟩ := h.course w (by simp) _ hstage
      rfl
    · have hb' : b ≠ a := hb.sender_eq hhand ▸ he
      rw [hb.countP_eq_zero hb' fun job => Worker.mem_todo_of_mem_todoAfter,
        hb.countP_eq_zero hb' fun job hjob => hjob]
  obtain ⟨hahead, hcarries, hnonce⟩ := Worker.views_of_over nonceOf a hhand
  obtain ⟨hahead', hcarries', hnonce'⟩ :=
    Worker.views_of_none (w := w.putAway result) nonceOf a rfl
  refine h.replace ⟨b, ⟨fun job hjob => hb.todo job ?_, by simp [Worker.putAway]⟩⟩ ?_ rfl ?_ ?_ ?_
    fun _ _ => ⟨hnonce, id⟩
  · exact Worker.mem_todo_of_mem_todoAfter hjob
  · intro stage hstage
    exact absurd (hstage'.symm.trans hstage) (by simp)
  · rw [hahead, hahead']
    exact htodo
  · rw [hcarries, hcarries']
  · rw [hnonce, hnonce']
    split <;> rfl

/-- Nothing changes for the account when a job is taken up. -/
theorem takeUp {job : Job ν σ} {jobs : List (Job ν σ)} {sender : Address} {terms : Terms}
    (h : IsConsecutive nonceOf unsent a pending k n
      ⟨book, world, before ++ w :: after, holder, taken, talk⟩)
    (hhand : w.hand = none) (htodo : w.todo = job :: jobs)
    (haccept : job.request.accept = .ok (sender, terms)) :
    IsConsecutive nonceOf unsent a pending k n
      ⟨book, world,
        before ++
          { w with
            todo := jobs
            hand := some (⟨job.chain, sender, terms, job.send⟩,
              if job.request.isForced then .waiting else .outside) } :: after,
        holder, taken, talk⟩ := by
  obtain ⟨b, hb⟩ := h.serves w (by simp)
  obtain ⟨hjob, hcallback, hchain⟩ := hb.todo job (by simp [htodo])
  obtain rfl : sender = b := by simpa [Job.sender?, haccept] using hjob
  obtain ⟨hahead, hcarries, hnonce⟩ := Worker.views_of_none nonceOf a hhand
  -- the errand begins at a stage at which nothing has been chosen
  generalize hbegins : (if job.request.isForced then Stage.waiting else .outside) = stage
  obtain ⟨hstageAhead, hstageCarried, hstageNonce, hstageCourse⟩ : stage.isAhead = true ∧
      stage.carried = [] ∧ stage.hasNonce = false ∧
      stage.OnCourse nonceOf (.int (pending + n)) := by
    rw [← hbegins]
    split <;> exact ⟨rfl, rfl, rfl, trivial⟩
  have hserves : Worker.Serves nonceOf unsent a sender
      { w with todo := jobs, hand := some (⟨job.chain, sender, terms, job.send⟩, stage) } := by
    refine ⟨fun job' hjob' => hb.todo job' (by simp [htodo, hjob']), fun e stage heq => ?_⟩
    obtain ⟨rfl, -⟩ := Prod.mk.inj (Option.some.inj heq)
    exact ⟨rfl, hcallback, hchain⟩
  have hstage : Worker.stageFor? a
      { w with todo := jobs, hand := some (⟨job.chain, sender, terms, job.send⟩, stage) } =
        if sender = a then some stage else none := rfl
  refine h.replace ⟨sender, hserves⟩ ?_ rfl ?_ ?_ ?_ fun _ _ => ⟨hnonce, id⟩
  · intro stage' hstage'
    rw [hstage] at hstage'
    split at hstage'
    · obtain rfl : stage = stage' := Option.some.inj hstage'
      exact hstageCourse
    · exact absurd hstage' (by simp)
  · rw [hahead, Worker.ahead, hstage, htodo]
    by_cases ha : sender = a <;> simp [hjob, ha, hstageAhead]
  · rw [hcarries, Worker.carries, hstage]
    by_cases ha : sender = a <;> simp [ha, hstageCarried]
  · rw [hnonce, Worker.hasNonce, hstage]
    by_cases ha : sender = a <;> simp [ha, hstageNonce]

/-- The nonce of the book is marked: there is one more, and the one who has marked it carries the
transaction. -/
theorem mark {e : Errand ν σ} {tx : Value}
    (h : IsConsecutive nonceOf unsent a pending k n
      ⟨book, world, before ++ w :: after, holder, taken, talk⟩)
    (hexclusive : IsExclusive ⟨book, world, before ++ w :: after, holder, taken, talk⟩)
    (hhand : w.hand = some (e, .sent (.int (pending + n)) tx)) (he : e.sender = a)
    (htx : nonceOf tx = .int (pending + n)) :
    IsConsecutive nonceOf unsent a pending k (n + 1)
      ⟨book.put a.key (.whole (pending + n + 1)), world',
        before ++ { w with hand := some (e, .leaving (.ok tx)) } :: after, holder, taken,
        talk⟩ := by
  have hstage : w.stageFor? a = some (.sent (.int (pending + n)) tx) := by
    rw [Worker.stageFor?_of_hand hhand, if_pos he]
  have hstage' : Worker.stageFor? a { w with hand := some (e, .leaving (.ok tx)) } =
      some (.leaving (.ok tx)) := if_pos he
  -- nobody else has chosen a nonce, because nobody else has the book
  have hothers := (hexclusive.alone (Worker.holdsBook_of_hand hhand)).2
  have hsum : pending + (n + 1 : Nat) = pending + n + 1 := by omega
  obtain ⟨b, hb⟩ := h.serves w (by simp)
  constructor
  case unsent => exact fun hn => absurd hn (Nat.succ_ne_zero n)
  case serves => exact forall_replace h.serves ⟨b, hb.advance hhand _⟩
  case course =>
    refine forall_insert (fun v hv stage hstage'' => ?_) fun stage hstage'' => ?_
    · have hnot := (Worker.holdsBook_of_stageFor? hstage'').symm.trans (hothers v hv)
      exact (h.course v (mem_of_mem_others w hv) stage hstage'').of_holdsBook hnot
    · obtain rfl : Stage.leaving (.ok tx) = stage := Option.some.inj (hstage'.symm.trans hstage'')
      exact ⟨tx, rfl⟩
  case book =>
    show (book.put a.key _).get? a.key = _
    rw [NonceBook.get?_put, if_pos rfl, if_neg (Nat.succ_ne_zero n), hsum]
  case counted =>
    have hcounted := h.counted
    have hone : w.ahead a = Worker.ahead a { w with hand := some (e, .leaving (.ok tx)) } + 1 := by
      simp [Worker.ahead, hstage, hstage', Stage.isAhead]
    simp only [aheadFor_append, aheadFor_cons, hone] at hcounted ⊢
    omega
  case registered =>
    have hregistered := h.registered
    have hnone : w.carries nonceOf a = [] := by simp [Worker.carries, hstage, Stage.carried]
    have hcarries : Worker.carries nonceOf a { w with hand := some (e, .leaving (.ok tx)) } =
        [.int (pending + n)] := by simp [Worker.carries, hstage', Stage.carried, htx]
    simp only [List.flatMap_append, List.flatMap_cons, hnone, hcarries, List.nil_append]
      at hregistered ⊢
    rw [List.range_succ, List.map_append, List.map_singleton]
    refine (perm_carried _ _ _ _).trans ?_
    rw [List.append_assoc]
    refine (List.perm_append_comm_assoc _ _ _).trans ?_
    exact (List.perm_append_comm.trans (hregistered.append_right _))
  case asked =>
    have hasked := h.asked
    have hw : w.hasNonce a = true := by simp [Worker.hasNonce, hstage, Stage.hasNonce]
    have hnone (l : List (Worker ν σ)) (hl : ∀ v ∈ l, v.holdsBook = false) :
        l.countP (Worker.hasNonce a) = 0 :=
      List.countP_eq_zero.mpr fun v hv => by simp [Worker.hasNonce_of_holdsBook (hl v hv)]
    rw [if_neg (Nat.succ_ne_zero n)]
    simp only [List.countP_append, List.countP_cons, hw, if_true,
      hnone before fun v hv => hothers v (List.mem_append_left _ hv),
      hnone after fun v hv => hothers v (List.mem_append_right _ hv)] at hasked
    split at hasked <;> exact hasked

end Scene.IsConsecutive

/-! ## 4.  Every turn keeps the account in balance -/

section

variable {gate : Gate ν σ} {source : NonceSource ν σ} {sink : Option (ErrorSink ν σ)}
  {nonceOf : Value → Value} {unsent : σ → Prop} {a : Address} {pending : Int} {k n : Nat}
  {e : Errand ν σ} {book book' : NonceBook} {world world' : σ} {stage stage' : Stage} {t : Talk}

/-- The errand of another account does not touch this one. -/
theorem Passage.foreign
    (h : Passage gate source sink e book world stage t stage' book' world') (he : e.sender ≠ a) :
    registeredFor a t = [] ∧ askedFor a t = 0 ∧ book'.get? a.key = book.get? a.key := by
  cases h with
  | asks => exact ⟨rfl, by rw [askedFor_asksNonce, if_neg he], rfl⟩
  | asksInVain => exact ⟨rfl, by rw [askedFor_asksNonce, if_neg he], rfl⟩
  | asksAgain => exact ⟨rfl, by rw [askedFor_asksNonce, if_neg he], rfl⟩
  | asksAgainInVain => exact ⟨rfl, by rw [askedFor_asksNonce, if_neg he], rfl⟩
  | marks hnext =>
    have htext : a.text ≠ e.sender.text := fun htext => he (Address.text_injective htext).symm
    exact ⟨rfl, rfl, by rw [NonceBook.get?_put, if_neg htext]⟩
  | registers => exact ⟨by rw [registeredFor_registers, if_neg he], rfl, rfl⟩
  | cannotRegister hanswer hregistration hworld =>
    cases hregistration with
    | reported hf hsink answer =>
      refine ⟨?_, rfl, rfl⟩
      rw [registeredFor_append, registeredFor_registers, if_neg he]
      rfl
    | _ => exact ⟨by rw [registeredFor_registers, if_neg he], rfl, rfl⟩
  | _ => exact ⟨rfl, rfl, rfl⟩

/-- What is kept beside submissions is kept by a passage, unless it is the callback that runs. -/
theorem Passage.keeps {P : σ → Prop}
    (h : Passage gate source sink e book world stage t stage' book' world')
    (hkept : KeptBeside P gate source sink)
    (hsend : (∀ nonce, (e.send nonce).Keeps P) ∨ stage.hasNonce = false) (hworld : P world) :
    P world' := by
  cases h with
  | room => exact hkept.room _ _ hworld
  | noRoom => exact hkept.room _ _ hworld
  | signer => exact hkept.signer _ _ hworld
  | noSigner => exact hkept.signer _ _ hworld
  | asks => exact hkept.source _ _ _ hworld
  | asksInVain => exact hkept.source _ _ _ hworld
  | asksAgain => exact hkept.source _ _ _ hworld
  | asksAgainInVain => exact hkept.source _ _ _ hworld
  | returns => exact (hsend.resolve_right (by simp [Stage.hasNonce])) _ _ hworld
  | fails => exact (hsend.resolve_right (by simp [Stage.hasNonce])) _ _ hworld
  | registers => exact hkept.insert _ _ _ _ hworld
  | cannotRegister hanswer hregistration hnext =>
    rcases hnext with rfl | ⟨tell, htell, report, rfl⟩
    · exact hkept.insert _ _ _ _ hworld
    · exact hkept.sink tell htell report _ (hkept.insert _ _ _ _ hworld)
  | reads => exact hworld
  | cannotRead => exact hworld
  | calls => exact hworld
  | cannotAskAgain => exact hworld
  | marks => exact hworld
  | cannotMark => exact hworld
  | cannotLog => exact hworld

namespace Scene.IsConsecutive

variable {before after : List (Worker ν σ)} {w : Worker ν σ} {holder : Option Nat}
  {taken : List (Errand ν σ)} {talk : Talk}

/-- As long as nothing is marked the network may be asked: who is about to ask has the book, and
nobody else has chosen a nonce. -/
theorem unsent_of_reading
    (h : IsConsecutive nonceOf unsent a pending k 0
      ⟨book, world, before ++ w :: after, holder, taken, talk⟩)
    (hexclusive : IsExclusive ⟨book, world, before ++ w :: after, holder, taken, talk⟩)
    (hhand : w.hand = some (e, .reading)) : unsent world := by
  have hothers := (hexclusive.alone (Worker.holdsBook_of_hand hhand)).2
  have hw : w.hasNonce a = false := by
    rw [Worker.hasNonce, Worker.stageFor?_of_hand hhand]
    split <;> rfl
  have hnobody (v : Worker ν σ) (hv : v ∈ before ++ after) : v.hasNonce a = false :=
    Worker.hasNonce_of_holdsBook (hothers v hv)
  exact h.unsent rfl (forall_insert hnobody hw)

/-- Who is about to choose a nonce has one of the errands that are still ahead. -/
theorem lt_of_reading
    (h : IsConsecutive nonceOf unsent a pending k n
      ⟨book, world, before ++ w :: after, holder, taken, talk⟩)
    (hhand : w.hand = some (e, .reading)) (he : e.sender = a) : n < k := by
  have hone : 1 ≤ w.ahead a := by
    simp [Worker.ahead, Worker.stageFor?_of_hand hhand, he, Stage.isAhead]
  have hcounted := h.counted
  simp only [aheadFor_append, aheadFor_cons] at hcounted
  omega

/-- The nonce that the book has for the account is the one that comes next. -/
theorem eq_whole_of_cached {m : Numeral} {s : Scene ν σ}
    (h : s.IsConsecutive nonceOf unsent a pending k n) (hcached : s.book.get? a.key = some m) :
    n ≠ 0 ∧ m = .whole (pending + n) := by
  have hbook := hcached.symm.trans h.book
  have hn : n ≠ 0 := fun hn => by simp [hn] at hbook
  exact ⟨hn, by simpa [hn] using hbook⟩

/-- As long as the book does not have the account nothing is marked, and the network, if it is
asked, has the pending nonce. -/
theorem answer_of_reading
    (h : IsConsecutive nonceOf unsent a pending k n
      ⟨book, world, before ++ w :: after, holder, taken, talk⟩)
    (hexclusive : IsExclusive ⟨book, world, before ++ w :: after, holder, taken, talk⟩)
    (hhas : source.Has unsent a pending) (hhand : w.hand = some (e, .reading))
    (hcached : book.get? a.key = none) :
    n = 0 ∧ (source e.chain a.key.value world).result = .ok (.int pending) := by
  have hbook := hcached.symm.trans h.book
  obtain rfl : n = 0 := by
    cases n with
    | zero => rfl
    | succ m => simp at hbook
  exact ⟨rfl, hhas _ _ (h.unsent_of_reading hexclusive hhand)⟩

/-- The nonce of the book is chosen. -/
theorem reads {m : Numeral}
    (h : IsConsecutive nonceOf unsent a pending k n
      ⟨book, world, before ++ w :: after, holder, taken, talk⟩)
    (hhand : w.hand = some (e, .reading)) (he : e.sender = a)
    (hcached : book.get? a.key = some m) :
    IsConsecutive nonceOf unsent a pending k n
      ⟨book, world, before ++ { w with hand := some (e, .chosen .first (.ofNumeral m)) } :: after,
        holder, taken, talk⟩ := by
  obtain ⟨hn, rfl⟩ := h.eq_whole_of_cached hcached
  refine h.advance hhand he ⟨rfl, rfl⟩ rfl (.refl _) ?_ fun h0 => absurd h0 hn
  rw [if_neg hn]

/-- The pending nonce is asked for and chosen. -/
theorem asks
    (h : IsConsecutive nonceOf unsent a pending k 0
      ⟨book, world, before ++ w :: after, holder, taken, talk⟩)
    (hhand : w.hand = some (e, .reading)) (he : e.sender = a) :
    IsConsecutive nonceOf unsent a pending k 0
      ⟨book, world', before ++ { w with hand := some (e, .chosen .first (.int pending)) } :: after,
        holder, taken, talk ++ Talk.asksNonce e.chain e.sender.key (.ok (.int pending))⟩ := by
  refine h.advance hhand he ⟨rfl, by simp⟩ rfl ?_ ?_ fun _ hnot => ?_
  · have hnone : registeredFor a
        (Talk.asksNonce e.chain e.sender.key (.ok (.int pending))) = [] := rfl
    rw [registeredFor_append, hnone, List.append_nil]
    exact .refl _
  · rw [if_pos rfl, askedFor_append, askedFor_asksNonce, if_pos he]
    rfl
  · simp [Stage.hasNonce] at hnot

/-- The gate is told of the transaction that is carried. -/
theorem registers {tx : Value} {cached : Option Numeral}
    (h : IsConsecutive nonceOf unsent a pending k n
      ⟨book, world, before ++ w :: after, holder, taken, talk⟩)
    (hhand : w.hand = some (e, .concluding tx)) (he : e.sender = a)
    (hunsent : unsent world → unsent world') :
    IsConsecutive nonceOf unsent a pending k n
      ⟨book, world', before ++ { w with hand := some (e, .over (.ok tx)) } :: after, holder, taken,
        talk ++ Talk.registers tx e.terms e.sender cached (.ok ())⟩ := by
  refine h.advance hhand he ⟨tx, rfl⟩ rfl ?_ ?_ fun _ _ => ⟨rfl, hunsent⟩
  · rw [registeredFor_append, registeredFor_registers, if_pos he]
    simp [Stage.carried]
  · rw [askedFor_append]
    split <;> rfl

/-- An errand of the account goes on where nothing goes wrong. -/
theorem passage_own
    (h : IsConsecutive nonceOf unsent a pending k n
      ⟨book, world, before ++ w :: after, holder, taken, talk⟩)
    (hexclusive : IsExclusive ⟨book, world, before ++ w :: after, holder, taken, talk⟩)
    (hwilling : gate.IsWilling) (hhas : source.Has unsent a pending)
    (hkept : KeptBeside unsent gate source sink)
    (hnonces : ∀ i < k, Literal.isWritable (pending + i) = true)
    (hhand : w.hand = some (e, stage)) (he : e.sender = a)
    (hpassage : Passage gate source sink e book world stage t stage' book' world') :
    ∃ n', IsConsecutive nonceOf unsent a pending k n'
      ⟨book', world', before ++ { w with hand := some (e, stage') } :: after, holder, taken,
        talk ++ t⟩ := by
  have hstage : w.stageFor? a = some stage := by rw [Worker.stageFor?_of_hand hhand, if_pos he]
  have hcourse := h.course w (by simp) stage hstage
  obtain ⟨b, hb⟩ := h.serves w (by simp)
  obtain ⟨rfl, hserves, hchain⟩ := hb.hand e stage hhand
  have hreturns := hserves.returns he
  replace hchain := hchain he
  have hkeeps : stage.hasNonce = false → unsent world → unsent world' :=
    fun hnot => hpassage.keeps hkept (.inr hnot)
  subst he
  cases hpassage with
  | room hanswer => exact ⟨n, h.advance_quietly hhand rfl trivial rfl rfl rfl rfl rfl hkeeps⟩
  | noRoom hanswer hverdict =>
    rw [hwilling.room] at hanswer
    subst hanswer
    exact absurd hverdict (by simp [Desk.verdict, Except.bind])
  | signer hanswer => exact ⟨n, h.advance_quietly hhand rfl trivial rfl rfl rfl rfl rfl hkeeps⟩
  | noSigner hanswer hverdict =>
    rw [hwilling.signer] at hanswer
    subst hanswer
    exact absurd hverdict (by simp [Desk.verdict, Except.bind])
  | @reads m hcached =>
    rw [List.append_nil]
    exact ⟨n, h.reads hhand rfl hcached⟩
  | @cannotRead m f hcached hline =>
    obtain ⟨-, rfl⟩ := h.eq_whole_of_cached hcached
    obtain ⟨text, htext⟩ := (Desk.exists_usedLine_iff e.sender.key (.int (pending + n))).mpr
      ⟨hnonces n (h.lt_of_reading hhand rfl), Value.isWritable_text _⟩
    exact absurd (htext.symm.trans hline) (by simp)
  | @asks v hcached hanswer =>
    obtain ⟨rfl, hpending⟩ := h.answer_of_reading hexclusive hhas hhand hcached
    obtain rfl : .int pending = v := Except.ok.inj (hpending.symm.trans hanswer)
    exact ⟨0, h.asks hhand rfl⟩
  | @asksInVain answer f hcached hanswer hnone =>
    obtain ⟨rfl, hpending⟩ := h.answer_of_reading hexclusive hhas hhand hcached
    have hfirst : Literal.isWritable pending = true := by
      simpa using hnonces 0 (h.lt_of_reading hhand rfl)
    obtain ⟨text, htext⟩ := (Desk.exists_givenLine_iff e.sender.key e.chain (.int pending)).mpr
      ⟨Value.isWritable_text _, hchain, hfirst⟩
    obtain rfl : .ok (.int pending) = answer := hpending.symm.trans hanswer
    exact absurd (htext.symm.trans hnone.givenLine_eq) (by simp)
  | calls attempt nonce => exact ⟨n, h.advance_quietly hhand rfl hcourse rfl rfl rfl rfl rfl hkeeps⟩
  | @returns attempt nonce tx hanswer =>
    obtain ⟨tx', htx', hnonce⟩ := hreturns nonce world
    obtain rfl : tx' = tx := Except.ok.inj (htx'.symm.trans hanswer)
    have hsent : Stage.OnCourse nonceOf (.int (pending + n)) (.sent nonce tx') :=
      ⟨hcourse.2, hnonce.trans hcourse.2⟩
    exact ⟨n, h.advance_quietly hhand rfl hsent rfl rfl rfl rfl rfl hkeeps⟩
  | @fails attempt nonce f hanswer =>
    obtain ⟨tx, htx, -⟩ := hreturns nonce world
    exact absurd (htx.symm.trans hanswer) (by simp)
  | asksAgain hanswer => exact hcourse.elim
  | asksAgainInVain hanswer => exact hcourse.elim
  | cannotAskAgain hrefused => exact hcourse.elim
  | @marks nonce tx next hnext =>
    obtain ⟨rfl, htx⟩ := hcourse
    obtain rfl : Numeral.whole (pending + n + 1) = next := Except.ok.inj hnext
    exact ⟨n + 1, by simpa using h.mark hexclusive hhand rfl htx⟩
  | @cannotMark nonce tx f hnext =>
    obtain ⟨rfl, -⟩ := hcourse
    exact absurd hnext (by simp)
  | cannotLog hline =>
    exact absurd hchain (by simp [Desk.isWritable_of_sentLine_error hline])
  | registers hanswer => exact ⟨n, h.registers hhand rfl (hkeeps rfl)⟩
  | cannotRegister hanswer => exact absurd ((hwilling.insert _ _ _ _).symm.trans hanswer) (by simp)

/-- **Every turn keeps the account in balance.** -/
theorem turn {s s' : Scene ν σ} (hturn : Scene.Turn gate source sink s s')
    (hwilling : gate.IsWilling) (hhas : source.Has unsent a pending)
    (hkept : KeptBeside unsent gate source sink)
    (hnonces : ∀ i < k, Literal.isWritable (pending + i) = true) (hexclusive : s.IsExclusive)
    (h : s.IsConsecutive nonceOf unsent a pending k n) :
    ∃ n', s'.IsConsecutive nonceOf unsent a pending k n' := by
  cases hturn with
  | rests => exact ⟨n, h⟩
  | @putsAway book world before after w holder taken talk e result hhand =>
    exact ⟨n, h.putAway hhand⟩
  | @declines book world before after w holder taken talk job jobs why hhand htodo haccept =>
    obtain ⟨b, hb⟩ := h.serves w (by simp)
    have hsender := (hb.todo job (by simp [htodo])).sender
    simp [Job.sender?, haccept] at hsender
  | @takesUp book world before after w holder taken talk job jobs sender terms hhand htodo
      haccept =>
    exact ⟨n, h.takeUp hhand htodo haccept⟩
  | @takesBook book world before after w taken talk e hhand =>
    exact ⟨n, h.handOver hhand (fun _ => trivial) rfl rfl rfl⟩
  | @givesBack book world before after w holder taken talk e result hhand =>
    refine ⟨n, h.handOver hhand (fun he => ?_) ?_ ?_ ?_⟩
    · have hstage : w.stageFor? a = some (.leaving result) := by
        rw [Worker.stageFor?_of_hand hhand, if_pos he]
      obtain ⟨tx, rfl⟩ := h.course w (by simp) _ hstage
      trivial
    · cases result <;> rfl
    · cases result <;> rfl
    · cases result <;> rfl
  | @goesOn book book' world world' before after w holder taken talk t e stage stage' hhand
      hpassage =>
    by_cases he : e.sender = a
    · exact h.passage_own hexclusive hwilling hhas hkept hnonces hhand he hpassage
    · obtain ⟨hregistered, hasked, hbook⟩ := hpassage.foreign he
      obtain ⟨b, hb⟩ := h.serves w (by simp)
      obtain ⟨rfl, hserves, -⟩ := hb.hand e stage hhand
      exact ⟨n, h.advance_foreign hhand he hbook hregistered hasked
        (hpassage.keeps hkept (.inl (hserves.keeps he)))⟩

end Scene.IsConsecutive

end

/-! ## 5.  From the first turn to the last -/

/-- What a crew has done for an account with the given pending nonce, when `k` jobs are done: the
gate has been told of transactions with the nonces that follow, each once; the network has been
asked once; and the book has the nonce after the last. -/
structure Crew.IsConsecutive (nonceOf : Value → Value) (a : Address) (pending : Int) (k : Nat)
    (crew : Crew ν σ) : Prop where
  registered : ((registeredFor a crew.deeds).map nonceOf).Perm
    ((List.range k).map fun i : Nat => .int (pending + i))
  asked : (crew.lookups.countP fun account => account.same a.key.value) = if k = 0 then 0 else 1
  cached : crew.desk.book.get? a.key = if k = 0 then none else some (.whole (pending + k))

@[simp] theorem registeredFor_ownDeeds (a : Address) (deeds : List (Deed ν)) :
    registeredFor a (ownDeeds deeds) = registeredFor a deeds := by
  rw [registeredFor, ownDeeds, List.filterMap_filterMap, registeredFor]
  refine congrArg (fun f => List.filterMap f deeds) ?_
  funext deed
  cases deed <;> rfl

@[simp] theorem registeredFor_said (a : Address) (deeds : List (Deed ν)) :
    registeredFor a (said deeds) = registeredFor a deeds := by
  rw [registeredFor, said, List.filterMap_filter, registeredFor]
  refine congrArg (fun f => List.filterMap f deeds) ?_
  funext deed
  cases deed <;> rfl

@[simp] theorem askedFor_ownDeeds (a : Address) (deeds : List (Deed ν)) :
    askedFor a (ownDeeds deeds) = askedFor a deeds := by
  rw [askedFor, ownDeeds, List.countP_filterMap, askedFor]
  refine congrArg (fun f => List.countP f deeds) ?_
  funext deed
  cases deed <;> rfl

@[simp] theorem askedFor_said (a : Address) (deeds : List (Deed ν)) :
    askedFor a (said deeds) = askedFor a deeds := by
  rw [askedFor, said, List.countP_filter, askedFor]
  refine congrArg (fun f => List.countP f deeds) ?_
  funext deed
  cases deed <;> simp [Deed.isLine]

namespace Crew

/-- The questions to the network about an account are among the accounts that it was asked for. -/
theorem countP_lookups (a : Address) (crew : Crew ν σ) :
    (crew.lookups.countP fun account => account.same a.key.value) = askedFor a crew.deeds := by
  rw [lookups, askedFor, deeds, List.countP_filterMap, List.countP_filterMap]
  refine congrArg (fun f => List.countP f crew.history) ?_
  funext event
  obtain ⟨i, event⟩ := event
  cases event with
  | takes e => rfl
  | gives => rfl
  | does deed => cases deed <;> rfl

variable {gate : Gate ν σ} {source : NonceSource ν σ} {sink : Option (ErrorSink ν σ)}
  {nonceOf : Value → Value} {unsent : σ → Prop} {a : Address} {pending : Int} {k n : Nat}

/-- A crew with nothing in hand at a book without the account begins with nothing marked. -/
theorem isConsecutive_start (desk : Desk σ) {workers : List (Worker ν σ)}
    (hidle : ∀ w ∈ workers, w.hand = none)
    (hserves : ∀ w ∈ workers, ∃ b, ∀ job ∈ w.todo, job.IsFor nonceOf unsent a b)
    (hbook : desk.book.get? a.key = none) (hunsent : unsent desk.world) :
    ((Crew.start desk workers).scene []).IsConsecutive nonceOf unsent a pending
      (jobsFor a workers) 0 where
  unsent := fun _ _ => hunsent
  serves := by
    intro w hw
    obtain ⟨b, hb⟩ := hserves w hw
    exact ⟨b, hb, by simp [hidle w hw]⟩
  course := by
    intro w hw stage hstage
    exact absurd ((Worker.stageFor?_of_none (hidle w hw)).symm.trans hstage) (by simp)
  book := hbook
  counted := by
    have hnobody : workers.countP (fun w => (w.stageFor? a).any Stage.isAhead) = 0 :=
      List.countP_eq_zero.mpr fun w hw => by simp [Worker.stageFor?_of_none (hidle w hw)]
    show jobsFor a workers + workers.countP _ + 0 = _
    rw [hnobody, Nat.add_zero]
  registered := by
    have hnone : workers.flatMap (Worker.carries nonceOf a) = [] := by
      rw [List.flatMap_eq_nil_iff]
      exact fun w hw => (Worker.views_of_none nonceOf a (hidle w hw)).2.1
    show ([] ++ workers.flatMap (Worker.carries nonceOf a)).Perm []
    rw [hnone]
    exact .refl _
  asked := by
    show 0 = workers.countP (Worker.hasNonce a)
    rw [eq_comm, List.countP_eq_zero]
    intro w hw
    simp [(Worker.views_of_none nonceOf a (hidle w hw)).2.2]

/-- When everyone is done nothing is ahead and nothing is carried. -/
theorem isConsecutive_of_isDone {crew : Crew ν σ} {talk : Talk}
    (h : (crew.scene talk).IsConsecutive nonceOf unsent a pending k n)
    (hdeeds : ownDeeds (said crew.deeds) = ownDeeds talk)
    (hdone : ∀ w ∈ crew.workers, w.isDone = true) :
    crew.IsConsecutive nonceOf a pending k := by
  have hviews (w : Worker ν σ) (hw : w ∈ crew.workers) :
      w.ahead a = 0 ∧ w.carries nonceOf a = [] ∧ w.hasNonce a = false := by
    obtain ⟨hhand, htodo⟩ : w.hand = none ∧ w.todo = [] := by
      simpa [Worker.isDone] using hdone w hw
    obtain ⟨hahead, hcarries, hnonce⟩ := Worker.views_of_none nonceOf a hhand
    exact ⟨by rw [hahead, htodo]; rfl, hcarries, hnonce⟩
  have hregisteredFor : registeredFor a crew.deeds = registeredFor a talk := by
    rw [← registeredFor_said, ← registeredFor_ownDeeds, hdeeds, registeredFor_ownDeeds]
  have haskedFor : askedFor a crew.deeds = askedFor a talk := by
    rw [← askedFor_said, ← askedFor_ownDeeds, hdeeds, askedFor_ownDeeds]
  have hahead : aheadFor a crew.workers = 0 := aheadFor_eq_zero fun w hw => (hviews w hw).1
  obtain rfl : n = k := by
    have hcounted : aheadFor a crew.workers + n = k := h.counted
    omega
  constructor
  case registered =>
    have hcarried : crew.workers.flatMap (Worker.carries nonceOf a) = [] := by
      rw [List.flatMap_eq_nil_iff]
      exact fun w hw => (hviews w hw).2.1
    have hregistered : ((registeredFor a talk).map nonceOf ++
        crew.workers.flatMap (Worker.carries nonceOf a)).Perm _ := h.registered
    rwa [hcarried, List.append_nil, ← hregisteredFor] at hregistered
  case asked =>
    have hnone : crew.workers.countP (Worker.hasNonce a) = 0 :=
      List.countP_eq_zero.mpr fun w hw => by simp [(hviews w hw).2.2]
    have hasked : askedFor a talk = if n = 0 then crew.workers.countP (Worker.hasNonce a) else 1 :=
      h.asked
    rw [countP_lookups, haskedFor, hasked, hnone]
  case cached => exact h.book

end Crew
end Outbox
