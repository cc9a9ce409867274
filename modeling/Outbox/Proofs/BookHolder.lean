import Outbox.Proofs.Scenes

/-!
# Who has the book

The book is taken by a worker who finds it free, and nothing but that check keeps two workers from
having it at once.  Here it is shown to be enough: **at any time the workers whose errand is at a
stage that holds the book are one, if the book is taken, and none, if it is free**
(`Scene.IsExclusive`).  Since a callback runs at such a stage only, no two callbacks ever run at
once (`Crew.busiest_le_one`).
-/

namespace Outbox

variable {ν σ : Type} {gate : Gate ν σ} {source : NonceSource ν σ}
  {sink : Option (ErrorSink ν σ)}

/-! ## 1.  Stages and hands -/

theorem Stage.holdsBook_afterFault (attempt : Attempt) (nonce : Value) (f : Fault) :
    (Stage.afterFault attempt nonce f).holdsBook = true := by
  unfold Stage.afterFault
  split
  · rfl
  · cases attempt with
    | second => rfl
    | first =>
      dsimp only
      split <;> rfl

theorem Stage.holdsBook_afterLeaving (result : Except Fault Value) :
    (Stage.afterLeaving result).holdsBook = false := by
  cases result <;> rfl

/-- An errand that goes on by itself neither takes the book nor gives it back. -/
theorem Passage.holdsBook_eq {e : Errand ν σ} {book book' : NonceBook} {w w' : σ}
    {stage stage' : Stage} {t : Talk}
    (h : Passage gate source sink e book w stage t stage' book' w') :
    stage'.holdsBook = stage.holdsBook := by
  cases h with
  | fails hanswer => exact Stage.holdsBook_afterFault _ _ _
  | _ => rfl

namespace Worker

/-- The worker has the book. -/
def holdsBook (w : Worker ν σ) : Bool :=
  match w.hand with
  | some (_, stage) => stage.holdsBook
  | none => false

theorem holdsBook_of_hand {w : Worker ν σ} {e : Errand ν σ} {stage : Stage}
    (h : w.hand = some (e, stage)) : w.holdsBook = stage.holdsBook := by
  simp only [holdsBook, h]

theorem holdsBook_of_none {w : Worker ν σ} (h : w.hand = none) : w.holdsBook = false := by
  simp only [holdsBook, h]

theorem holdsBook_of_isSending {w : Worker ν σ} (h : w.isSending = true) :
    w.holdsBook = true := by
  cases hhand : w.hand with
  | none => simp [isSending, hhand] at h
  | some hand =>
    rw [isSending, hhand] at h
    rw [holdsBook_of_hand hhand]
    exact Stage.holdsBook_of_isSending h

end Worker

/-! ## 2.  The holder is alone -/

/-- If the book is taken one worker has it, and if it is free none has. -/
def Scene.IsExclusive (s : Scene ν σ) : Prop :=
  s.workers.countP Worker.holdsBook = if s.holder.isSome then 1 else 0

namespace Scene.IsExclusive

variable {book book' : NonceBook} {world world' : σ} {before after : List (Worker ν σ)}
  {w w' : Worker ν σ} {holder : Option Nat} {taken taken' : List (Errand ν σ)} {talk talk' : Talk}

/-- A worker may be replaced by another who has the book exactly if the first had it. -/
theorem replace (h : IsExclusive ⟨book, world, before ++ w :: after, holder, taken, talk⟩)
    (hw : w'.holdsBook = w.holdsBook) :
    IsExclusive ⟨book', world', before ++ w' :: after, holder, taken', talk'⟩ := by
  simp only [IsExclusive, List.countP_append, List.countP_cons, hw] at h ⊢
  exact h

/-- Beside a worker who has the book there is no other. -/
theorem alone (h : IsExclusive ⟨book, world, before ++ w :: after, holder, taken, talk⟩)
    (hw : w.holdsBook = true) :
    holder.isSome = true ∧ ∀ v ∈ before ++ after, v.holdsBook = false := by
  simp only [IsExclusive, List.countP_append, List.countP_cons, hw, if_true] at h
  have hone : holder.isSome = true ∧ (before ++ after).countP Worker.holdsBook = 0 := by
    rw [List.countP_append]
    split at h
    · exact ⟨‹_›, by omega⟩
    · omega
  exact ⟨hone.1, fun v hv => by simpa using List.countP_eq_zero.mp hone.2 v hv⟩

/-- While the book is free nobody has it. -/
theorem nobody {s : Scene ν σ} (h : s.IsExclusive) (hfree : s.holder = none) :
    ∀ w ∈ s.workers, w.holdsBook = false := by
  have hnone : s.workers.countP Worker.holdsBook = 0 := by
    rw [h, hfree]
    rfl
  exact fun w hw => by simpa using List.countP_eq_zero.mp hnone w hw

/-- **Every turn leaves the holder alone with the book.** -/
theorem turn {s s' : Scene ν σ} (h : Scene.Turn gate source sink s s') (hs : s.IsExclusive) :
    s'.IsExclusive := by
  cases h with
  | rests => exact hs
  | putsAway hhand => exact hs.replace (Worker.holdsBook_of_hand hhand).symm
  | declines hhand htodo haccept => exact hs.replace (Worker.holdsBook_of_none hhand).symm
  | @takesUp book world before after w holder taken talk job jobs sender terms hhand htodo
      haccept =>
    refine hs.replace (Eq.trans ?_ (Worker.holdsBook_of_none hhand).symm)
    show Stage.holdsBook (if job.request.isForced then .waiting else .outside) = false
    split <;> rfl
  | @takesBook book world before after w taken talk e hhand =>
    have hw := Worker.holdsBook_of_hand hhand
    have hw' : Worker.holdsBook { w with hand := some (e, .reading) } = true := rfl
    simp only [IsExclusive, List.countP_append, List.countP_cons, hw, hw', Stage.holdsBook,
      Option.isSome_none, Option.isSome_some, if_true] at hs ⊢
    omega
  | @givesBack book world before after w holder taken talk e result hhand =>
    have hothers := (hs.alone (Worker.holdsBook_of_hand hhand)).2
    have hw' : Worker.holdsBook { w with hand := some (e, Stage.afterLeaving result) } = false :=
      Stage.holdsBook_afterLeaving result
    show List.countP Worker.holdsBook _ = 0
    rw [List.countP_eq_zero]
    intro v hv
    simpa using forall_insert hothers hw' v hv
  | goesOn hhand hpassage =>
    exact hs.replace (hpassage.holdsBook_eq.trans (Worker.holdsBook_of_hand hhand).symm)

end Scene.IsExclusive

/-! ## 3.  Callbacks do not run at once -/

namespace Crew

/-- A crew with nothing in hand begins with the book free. -/
theorem isExclusive_start (desk : Desk σ) {workers : List (Worker ν σ)}
    (hidle : ∀ w ∈ workers, w.hand = none) (talk : Talk) :
    ((Crew.start desk workers).scene talk).IsExclusive := by
  show workers.countP Worker.holdsBook = 0
  rw [List.countP_eq_zero]
  intro w hw
  simp [Worker.holdsBook_of_none (hidle w hw)]

/-- Where the holder is alone one callback runs at most. -/
theorem sendingCount_le_one {crew : Crew ν σ} {talk : Talk} (h : (crew.scene talk).IsExclusive) :
    crew.sendingCount ≤ 1 := by
  have hholds : crew.sendingCount ≤ crew.workers.countP Worker.holdsBook :=
    List.countP_mono_left fun w _ hw => Worker.holdsBook_of_isSending hw
  have hone : crew.workers.countP Worker.holdsBook ≤ 1 := by
    rw [show crew.workers.countP Worker.holdsBook = _ from h]
    split <;> omega
  exact Nat.le_trans hholds hone

/-- **No two callbacks run at once, whatever the schedule.** -/
theorem busiest_le_one {crew : Crew ν σ} {talk : Talk} (h : (crew.scene talk).IsExclusive)
    (schedule : List Nat) : crew.busiest gate source sink schedule ≤ 1 := by
  induction schedule generalizing crew talk with
  | nil => exact sendingCount_le_one h
  | cons i schedule ih =>
    have hnext := h.turn (turn_scene gate source sink crew i talk).1
    exact Nat.max_le.mpr ⟨sendingCount_le_one h, ih hnext⟩

end Crew
end Outbox
