import Outbox.Crew.Basic
import Outbox.Proofs.Stages

/-!
# Scenes of a crew

A schedule says whose turn it is, and what happens in a turn depends on the worker's hand, on the
stage of the errand in it, and on whether the book is free.  A `Scene` is what matters of a crew
between two turns: the book, the world, the workers, who has the book, for whom it was taken, and
what a listener has heard so far.  The counters and the lines of the log are left out.

`Scene.Turn` is the relation between the scenes before and after a turn, with one constructor for
every kind of turn.  The main statements are

* `Crew.turn_scene`: **every turn of a crew is one of these**;
* `Crew.run_induction`: **what holds of a scene and is kept by every turn holds after every
  schedule**;
* `Crew.ownDeeds_run`: **what a listener hears is what the desk does.**

The first two are all that statements about schedules are proved from.
-/

namespace Outbox

variable {ν σ : Type}

/-! ## 1.  Scenes -/

/-- What matters of a crew between two turns. -/
structure Scene (ν σ : Type) where
  book : NonceBook
  world : σ
  workers : List (Worker ν σ)
  /-- The worker who has the book. -/
  holder : Option Nat
  /-- The errands for which the book was taken, in their order. -/
  taken : List (Errand ν σ)
  /-- What a listener has heard. -/
  talk : Talk

namespace Worker

variable {w : Worker ν σ} {a : Address} {e : Errand ν σ} {stage : Stage}

/-- The stage of the errand in hand, if it is one of the account. -/
def stageFor? (a : Address) (w : Worker ν σ) : Option Stage :=
  match w.hand with
  | some (e, stage) => if e.sender = a then some stage else none
  | none => none

theorem stageFor?_of_hand (h : w.hand = some (e, stage)) :
    w.stageFor? a = if e.sender = a then some stage else none := by
  simp only [stageFor?, h]

theorem stageFor?_of_none (h : w.hand = none) : w.stageFor? a = none := by
  simp only [stageFor?, h]

theorem mem_todo_of_mem_todoAfter {job : Job ν σ} {result : Except Fault Value}
    (h : job ∈ w.todoAfter result) : job ∈ w.todo := by
  unfold todoAfter at h
  cases result with
  | ok tx => exact h
  | error f =>
    dsimp only at h
    split at h
    · exact absurd h (by simp)
    · exact h

end Worker

namespace Scene

variable {P : Worker ν σ → Prop} {before after : List (Worker ν σ)} {v w w' : Worker ν σ}

theorem mem_of_mem_others (w : Worker ν σ) (hv : v ∈ before ++ after) :
    v ∈ before ++ w :: after := by
  simp only [List.mem_append, List.mem_cons] at hv ⊢
  exact hv.imp_right .inr

/-- What holds of one worker and of all others holds of every worker. -/
theorem forall_insert (hothers : ∀ v ∈ before ++ after, P v) (hw : P w) :
    ∀ v ∈ before ++ w :: after, P v := by
  intro v hv
  simp only [List.mem_append, List.mem_cons] at hothers hv
  rcases hv with hv | rfl | hv
  · exact hothers v (.inl hv)
  · exact hw
  · exact hothers v (.inr hv)

/-- What holds of every worker holds of every worker when one of them is replaced. -/
theorem forall_replace (h : ∀ v ∈ before ++ w :: after, P v) (hw : P w') :
    ∀ v ∈ before ++ w' :: after, P v :=
  forall_insert (fun v hv => h v (mem_of_mem_others w hv)) hw

end Scene

/-- The errand for which the book is taken, if it is. -/
def CrewEvent.taken? : CrewEvent ν σ → Option (Errand ν σ)
  | .takes errand => some errand
  | _ => none

/-- What is done at the desk, if something is. -/
def CrewEvent.deed? : CrewEvent ν σ → Option (Deed ν)
  | .does deed => some deed
  | _ => none

@[simp] theorem CrewEvent.taken?_takes (e : Errand ν σ) : (takes e).taken? = some e := rfl

@[simp] theorem CrewEvent.taken?_gives : (gives : CrewEvent ν σ).taken? = none := rfl

@[simp] theorem CrewEvent.taken?_does (deed : Deed ν) :
    (does deed : CrewEvent ν σ).taken? = none := rfl

@[simp] theorem CrewEvent.deed?_does (deed : Deed ν) :
    (does deed : CrewEvent ν σ).deed? = some deed := rfl

@[simp] theorem CrewEvent.deed?_takes (e : Errand ν σ) : (takes e).deed? = none := rfl

@[simp] theorem CrewEvent.deed?_gives : (gives : CrewEvent ν σ).deed? = none := rfl

namespace Crew

/-- The errands for which the book was taken, in their order. -/
def taken (crew : Crew ν σ) : List (Errand ν σ) :=
  crew.history.filterMap fun event => event.2.taken?

/-- What was done at the desk, in order. -/
def deeds (crew : Crew ν σ) : List (Deed ν) := crew.history.filterMap fun event => event.2.deed?

/-- A crew as a scene in which a listener has heard something. -/
def scene (crew : Crew ν σ) (talk : Talk) : Scene ν σ :=
  ⟨crew.desk.book, crew.desk.world, crew.workers, crew.holder, crew.taken, talk⟩

/-- What a listener hears in the turn of worker `i`. -/
def heardIn (gate : Gate ν σ) (source : NonceSource ν σ) (sink : Option (ErrorSink ν σ))
    (crew : Crew ν σ) (i : Nat) : Talk :=
  match crew.workers[i]? with
  | none => []
  | some w =>
    match w.hand with
    | none => []
    | some (errand, stage) => errand.talk gate source sink stage crew.desk

/-- What a listener hears while a schedule is carried out. -/
def heard (gate : Gate ν σ) (source : NonceSource ν σ) (sink : Option (ErrorSink ν σ)) :
    Crew ν σ → List Nat → Talk
  | _, [] => []
  | crew, i :: schedule =>
    crew.heardIn gate source sink i ++
      heard gate source sink (crew.turn gate source sink i) schedule

end Crew

/-! ## 2.  Turns -/

section

variable (gate : Gate ν σ) (source : NonceSource ν σ) (sink : Option (ErrorSink ν σ))

/-- What may happen in a turn.  The worker whose turn it is stands between those before and those
after. -/
inductive Scene.Turn : Scene ν σ → Scene ν σ → Prop
  /-- Nothing is to be done, or the book is not free. -/
  | rests (s : Scene ν σ) : Turn s s
  /-- What came of a job is put away. -/
  | putsAway {book : NonceBook} {world : σ} {before after : List (Worker ν σ)} {w : Worker ν σ}
      {holder : Option Nat} {taken : List (Errand ν σ)} {talk : Talk} {e : Errand ν σ}
      {result : Except Fault Value} (hhand : w.hand = some (e, .over result)) :
      Turn ⟨book, world, before ++ w :: after, holder, taken, talk⟩
        ⟨book, world, before ++ w.putAway result :: after, holder, taken, talk⟩
  /-- A job is taken up whose request is not accepted. -/
  | declines {book : NonceBook} {world : σ} {before after : List (Worker ν σ)} {w : Worker ν σ}
      {holder : Option Nat} {taken : List (Errand ν σ)} {talk : Talk} {job : Job ν σ}
      {jobs : List (Job ν σ)} {why : RequestError} (hhand : w.hand = none)
      (htodo : w.todo = job :: jobs) (haccept : job.request.accept = .error why) :
      Turn ⟨book, world, before ++ w :: after, holder, taken, talk⟩
        ⟨book, world, before ++ { w with todo := jobs }.putAway (.error why.fault) :: after, holder,
          taken, talk⟩
  /-- A job is taken up. -/
  | takesUp {book : NonceBook} {world : σ} {before after : List (Worker ν σ)} {w : Worker ν σ}
      {holder : Option Nat} {taken : List (Errand ν σ)} {talk : Talk} {job : Job ν σ}
      {jobs : List (Job ν σ)} {sender : Address} {terms : Terms} (hhand : w.hand = none)
      (htodo : w.todo = job :: jobs) (haccept : job.request.accept = .ok (sender, terms)) :
      Turn ⟨book, world, before ++ w :: after, holder, taken, talk⟩
        ⟨book, world,
          before ++
            { w with
              todo := jobs
              hand := some (⟨job.chain, sender, terms, job.send⟩,
                if job.request.isForced then .waiting else .outside) } :: after,
          holder, taken, talk⟩
  /-- The book is free and is taken. -/
  | takesBook {book : NonceBook} {world : σ} {before after : List (Worker ν σ)} {w : Worker ν σ}
      {taken : List (Errand ν σ)} {talk : Talk} {e : Errand ν σ}
      (hhand : w.hand = some (e, .waiting)) :
      Turn ⟨book, world, before ++ w :: after, none, taken, talk⟩
        ⟨book, world, before ++ { w with hand := some (e, .reading) } :: after,
          some before.length, taken ++ [e], talk⟩
  /-- The book is given back. -/
  | givesBack {book : NonceBook} {world : σ} {before after : List (Worker ν σ)} {w : Worker ν σ}
      {holder : Option Nat} {taken : List (Errand ν σ)} {talk : Talk} {e : Errand ν σ}
      {result : Except Fault Value} (hhand : w.hand = some (e, .leaving result)) :
      Turn ⟨book, world, before ++ w :: after, holder, taken, talk⟩
        ⟨book, world, before ++ { w with hand := some (e, Stage.afterLeaving result) } :: after,
          none, taken, talk⟩
  /-- An errand goes on by itself. -/
  | goesOn {book book' : NonceBook} {world world' : σ} {before after : List (Worker ν σ)}
      {w : Worker ν σ} {holder : Option Nat} {taken : List (Errand ν σ)} {talk t : Talk}
      {e : Errand ν σ} {stage stage' : Stage} (hhand : w.hand = some (e, stage))
      (hpassage : Passage gate source sink e book world stage t stage' book' world') :
      Turn ⟨book, world, before ++ w :: after, holder, taken, talk⟩
        ⟨book', world', before ++ { w with hand := some (e, stage') } :: after, holder, taken,
          talk ++ t⟩

end

/-! ## 3.  Every turn is one of these -/

namespace Worker

/-- To take up a job whose request is not accepted is to count the fault, and nothing else. -/
theorem begin_of_error {job : Job ν σ} {why : RequestError}
    (h : job.request.accept = .error why) (d : Desk σ) :
    (begin job d).result = .error why.fault ∧ (begin job d).notes = [] ∧
      (begin job d).next.book = d.book ∧ (begin job d).next.world = d.world := by
  have hchecked : Desk.checked job.request d =
      (⟨.error why.fault, [], d⟩ : Outcome (Deed ν) (Desk σ) _) := by
    rw [Desk.checked, h]
    rfl
  have hbegin : begin job d =
      ⟨.error why.fault, [], { d with counters := d.counters.add (.dispatch why.fault.name) }⟩ := by
    simp [begin, Desk.counting, Act.bind_eq, Act.rescue, hchecked, Outcome.after]
  rw [hbegin]
  exact ⟨rfl, rfl, rfl, rfl⟩

/-- To take up a job whose request is accepted is to do nothing yet. -/
theorem begin_of_ok {job : Job ν σ} {sender : Address} {terms : Terms}
    (h : job.request.accept = .ok (sender, terms)) (d : Desk σ) :
    begin job d =
      ⟨.ok (⟨job.chain, sender, terms, job.send⟩,
        if job.request.isForced then .waiting else .outside), [], d⟩ := by
  have hchecked : Desk.checked job.request d =
      (⟨.ok (sender, terms), [], d⟩ : Outcome (Deed ν) (Desk σ) _) := by
    rw [Desk.checked, h]
    rfl
  simp [begin, Desk.counting, Act.bind_eq, Act.rescue, hchecked, Outcome.after]

end Worker

namespace Crew

/-- A worker of a crew stands between those before and those after. -/
theorem exists_split {crew : Crew ν σ} {i : Nat} {w : Worker ν σ}
    (h : crew.workers[i]? = some w) :
    ∃ before after, crew.workers = before ++ w :: after ∧ before.length = i := by
  obtain ⟨hi, rfl⟩ := List.getElem?_eq_some_iff.mp h
  refine ⟨crew.workers.take i, crew.workers.drop (i + 1), ?_,
    List.length_take_of_le (Nat.le_of_lt hi)⟩
  rw [List.getElem_cons_drop, List.take_append_drop]

theorem filterMap_taken?_does (notes : List (Deed ν)) :
    (notes.map (CrewEvent.does : Deed ν → CrewEvent ν σ)).filterMap CrewEvent.taken? = [] := by
  rw [List.filterMap_map, List.filterMap_eq_nil_iff]
  exact fun _ _ => rfl

theorem filterMap_deed?_does (notes : List (Deed ν)) :
    (notes.map (CrewEvent.does : Deed ν → CrewEvent ν σ)).filterMap CrewEvent.deed? = notes := by
  rw [List.filterMap_map]
  exact List.filterMap_some

variable {crew : Crew ν σ} {i : Nat} {before after : List (Worker ν σ)} {w : Worker ν σ}

@[simp] theorem taken_update (crew : Crew ν σ) (i : Nat) (w : Worker ν σ) (desk : Desk σ)
    (holder : Option Nat) (events : List (CrewEvent ν σ)) :
    (crew.update i w desk holder events).taken =
      crew.taken ++ events.filterMap CrewEvent.taken? := by
  rw [taken, history_update, List.filterMap_append, List.filterMap_map]
  rfl

@[simp] theorem deeds_update (crew : Crew ν σ) (i : Nat) (w : Worker ν σ) (desk : Desk σ)
    (holder : Option Nat) (events : List (CrewEvent ν σ)) :
    (crew.update i w desk holder events).deeds =
      crew.deeds ++ events.filterMap CrewEvent.deed? := by
  rw [deeds, history_update, List.filterMap_append, List.filterMap_map]
  rfl

/-- The scene after an update. -/
theorem scene_update (hworkers : crew.workers = before ++ w :: after) (hi : before.length = i)
    (w' : Worker ν σ) (desk : Desk σ) (holder : Option Nat) (events : List (CrewEvent ν σ))
    (talk : Talk) :
    (crew.update i w' desk holder events).scene talk =
      ⟨desk.book, desk.world, before ++ w' :: after, holder,
        crew.taken ++ events.filterMap CrewEvent.taken?, talk⟩ := by
  have hset : crew.workers.set i w' = before ++ w' :: after := by
    rw [hworkers, ← hi, List.set_append_right _ _ (Nat.le_refl _), Nat.sub_self, List.set_cons_zero]
  simp only [scene, taken_update]
  simp only [update, hset]

variable {gate : Gate ν σ} {source : NonceSource ν σ} {sink : Option (ErrorSink ν σ)}
  {e : Errand ν σ} {stage : Stage}

/-- The turn of a worker whose errand goes on by itself. -/
theorem turn_of_goesAlone (hw : crew.workers[i]? = some w) (hhand : w.hand = some (e, stage))
    (halone : stage.goesAlone = true) :
    crew.turn gate source sink i =
      crew.update i
        { w with
          hand := (e.advance gate source sink stage crew.desk).result.toOption.map
            fun stage => (e, stage) }
        (e.advance gate source sink stage crew.desk).next crew.holder
        ((e.advance gate source sink stage crew.desk).notes.map .does) := by
  unfold turn
  rw [hw]
  cases stage <;> simp_all [Stage.goesAlone, goOn]

/-- What a listener hears in the turn of a worker whose errand is at a stage. -/
theorem heardIn_of_hand (hw : crew.workers[i]? = some w) (hhand : w.hand = some (e, stage)) :
    crew.heardIn gate source sink i = e.talk gate source sink stage crew.desk := by
  rw [heardIn, hw]
  simp only [hhand]

/-- Nothing is heard in the turn of a worker with nothing in hand. -/
theorem heardIn_of_none (hw : crew.workers[i]? = some w) (hhand : w.hand = none) :
    crew.heardIn gate source sink i = [] := by
  rw [heardIn, hw]
  simp only [hhand]

variable (gate source sink) in
/-- The turn of worker `i` is one of those of a scene, and what a listener hears in it is what the
desk does. -/
def ShowsTurn (crew : Crew ν σ) (i : Nat) (talk : Talk) : Prop :=
  Scene.Turn gate source sink (crew.scene talk)
      ((crew.turn gate source sink i).scene (talk ++ crew.heardIn gate source sink i)) ∧
    ownDeeds (said (crew.turn gate source sink i).deeds) =
      ownDeeds (said crew.deeds) ++ ownDeeds (crew.heardIn gate source sink i)

/-- The scene of a crew with one worker picked out. -/
theorem scene_eq (hworkers : crew.workers = before ++ w :: after) (talk : Talk) :
    crew.scene talk = ⟨crew.desk.book, crew.desk.world, before ++ w :: after, crew.holder,
      crew.taken, talk⟩ := by
  rw [scene, hworkers]

/-- In the turn of a worker for whom nothing is to be done nothing happens. -/
theorem showsTurn_of_eq (hturn : crew.turn gate source sink i = crew)
    (hheard : crew.heardIn gate source sink i = []) (talk : Talk) :
    ShowsTurn gate source sink crew i talk := by
  rw [ShowsTurn, hturn, hheard, List.append_nil]
  exact ⟨.rests _, (List.append_nil _).symm⟩

theorem showsTurn_takeUp (hw : crew.workers[i]? = some w) (hhand : w.hand = none)
    {job : Job ν σ} {jobs : List (Job ν σ)} (htodo : w.todo = job :: jobs) (talk : Talk) :
    ShowsTurn gate source sink crew i talk := by
  obtain ⟨before, after, hworkers, hi⟩ := exists_split hw
  have hturn : crew.turn gate source sink i = crew.takeUp i w job jobs := by
    simp [turn, hw, hhand, htodo]
  rw [ShowsTurn, hturn, heardIn_of_none hw hhand, List.append_nil, scene_eq hworkers]
  cases haccept : job.request.accept with
  | error why =>
    obtain ⟨hresult, hnotes, hbook, hworld⟩ := Worker.begin_of_error haccept crew.desk
    simp only [takeUp, hresult, hnotes]
    refine ⟨?_, by simp [ownDeeds]⟩
    rw [scene_update hworkers hi, hbook, hworld]
    simpa using Scene.Turn.declines hhand htodo haccept
  | ok accepted =>
    obtain ⟨sender, terms⟩ := accepted
    simp only [takeUp, Worker.begin_of_ok haccept]
    refine ⟨?_, by simp [ownDeeds]⟩
    rw [scene_update hworkers hi]
    simpa using Scene.Turn.takesUp hhand htodo haccept

theorem showsTurn_over (hw : crew.workers[i]? = some w) {result : Except Fault Value}
    (hhand : w.hand = some (e, .over result)) (talk : Talk) :
    ShowsTurn gate source sink crew i talk := by
  obtain ⟨before, after, hworkers, hi⟩ := exists_split hw
  have hturn : crew.turn gate source sink i =
      crew.update i (w.putAway result) crew.desk crew.holder [] := by
    simp [turn, hw, hhand]
  have hheard : e.talk gate source sink (.over result) crew.desk = [] := rfl
  rw [ShowsTurn, hturn, heardIn_of_hand hw hhand, hheard, scene_eq hworkers,
    scene_update hworkers hi]
  refine ⟨?_, by simp [ownDeeds]⟩
  simpa using Scene.Turn.putsAway hhand

theorem showsTurn_waiting (hw : crew.workers[i]? = some w) (hhand : w.hand = some (e, .waiting))
    (talk : Talk) : ShowsTurn gate source sink crew i talk := by
  obtain ⟨before, after, hworkers, hi⟩ := exists_split hw
  have hheard : crew.heardIn gate source sink i = [] := heardIn_of_hand hw hhand
  cases hholder : crew.holder with
  | some j =>
    have hturn : crew.turn gate source sink i = crew := by
      simp [turn, hw, hhand, goOn, hholder]
    exact showsTurn_of_eq hturn hheard talk
  | none =>
    have hturn : crew.turn gate source sink i =
        crew.update i { w with hand := some (e, .reading) } crew.desk (some i) [.takes e] := by
      simp [turn, hw, hhand, goOn, hholder, Errand.advance, Except.toOption]
    rw [ShowsTurn, hturn, hheard, scene_eq hworkers, scene_update hworkers hi, hholder, ← hi]
    refine ⟨?_, by simp [List.filterMap_cons, ownDeeds]⟩
    simpa [List.filterMap_cons] using Scene.Turn.takesBook hhand

theorem showsTurn_leaving (hw : crew.workers[i]? = some w) {result : Except Fault Value}
    (hhand : w.hand = some (e, .leaving result)) (talk : Talk) :
    ShowsTurn gate source sink crew i talk := by
  obtain ⟨before, after, hworkers, hi⟩ := exists_split hw
  obtain ⟨hresult, hbook, hworld, hheard⟩ :=
    e.advance_leaving gate source sink result crew.desk
  have hdeeds := e.ownDeeds_talk gate source sink (.leaving result) crew.desk
  have hturn : crew.turn gate source sink i =
      crew.update i { w with hand := some (e, Stage.afterLeaving result) }
        (e.advance gate source sink (.leaving result) crew.desk).next none
        (.gives :: (e.advance gate source sink (.leaving result) crew.desk).notes.map .does) := by
    simp [turn, hw, hhand, goOn, hresult, Except.toOption]
  rw [ShowsTurn, hturn, heardIn_of_hand hw hhand, scene_eq hworkers, scene_update hworkers hi,
    hbook, hworld, ← hdeeds, hheard]
  simp only [List.filterMap_cons, CrewEvent.taken?_gives, CrewEvent.deed?_gives,
    filterMap_taken?_does, filterMap_deed?_does, deeds_update, said_append, ownDeeds_append,
    List.append_nil, and_true]
  exact .givesBack hhand

theorem showsTurn_alone (hw : crew.workers[i]? = some w) (hhand : w.hand = some (e, stage))
    (halone : stage.goesAlone = true) (talk : Talk) :
    ShowsTurn gate source sink crew i talk := by
  obtain ⟨before, after, hworkers, hi⟩ := exists_split hw
  obtain ⟨stage', hresult, hpassage⟩ :=
    e.advance_passes gate source sink halone crew.desk
  have hdeeds := e.ownDeeds_talk gate source sink stage crew.desk
  rw [ShowsTurn, turn_of_goesAlone hw hhand halone, heardIn_of_hand hw hhand, scene_eq hworkers,
    scene_update hworkers hi, hresult, ← hdeeds]
  simp only [filterMap_taken?_does, filterMap_deed?_does, deeds_update, said_append,
    ownDeeds_append, List.append_nil, and_true]
  exact .goesOn hhand hpassage

/-- **Every turn of a crew is one of those of a scene**, and what a listener hears in it is what the
desk does. -/
theorem turn_scene (gate : Gate ν σ) (source : NonceSource ν σ) (sink : Option (ErrorSink ν σ))
    (crew : Crew ν σ) (i : Nat) (talk : Talk) : ShowsTurn gate source sink crew i talk := by
  cases hw : crew.workers[i]? with
  | none => exact showsTurn_of_eq (by simp [turn, hw]) (by simp [heardIn, hw]) talk
  | some w =>
    cases hhand : w.hand with
    | none =>
      cases htodo : w.todo with
      | nil =>
        have hturn : crew.turn gate source sink i = crew := by simp [turn, hw, hhand, htodo]
        exact showsTurn_of_eq hturn (heardIn_of_none hw hhand) talk
      | cons job jobs => exact showsTurn_takeUp hw hhand htodo talk
    | some hand =>
      obtain ⟨e, stage⟩ := hand
      cases halone : stage.goesAlone with
      | true => exact showsTurn_alone hw hhand halone talk
      | false =>
        obtain rfl | ⟨result, rfl⟩ | ⟨result, rfl⟩ := Stage.eq_of_goesAlone halone
        · exact showsTurn_waiting hw hhand talk
        · exact showsTurn_leaving hw hhand talk
        · exact showsTurn_over hw hhand talk

/-! ## 4.  Schedules -/

/-- **What is kept by every turn holds after every schedule.** -/
theorem run_induction {P : Scene ν σ → Prop}
    (hturn : ∀ s s', Scene.Turn gate source sink s s' → P s → P s') (crew : Crew ν σ)
    (schedule : List Nat) (talk : Talk) (h : P (crew.scene talk)) :
    P ((crew.run gate source sink schedule).scene
      (talk ++ crew.heard gate source sink schedule)) := by
  induction schedule generalizing crew talk with
  | nil => simpa [run, heard] using h
  | cons i schedule ih =>
    have hnext := hturn _ _ (turn_scene gate source sink crew i talk).1 h
    have hrest := ih (crew.turn gate source sink i) _ hnext
    rwa [List.append_assoc] at hrest

/-- **What a listener hears is what the desk does.** -/
theorem ownDeeds_run (gate : Gate ν σ) (source : NonceSource ν σ) (sink : Option (ErrorSink ν σ))
    (crew : Crew ν σ) (schedule : List Nat) :
    ownDeeds (said (crew.run gate source sink schedule).deeds) =
      ownDeeds (said crew.deeds) ++ ownDeeds (crew.heard gate source sink schedule) := by
  induction schedule generalizing crew with
  | nil => simp [run, heard, ownDeeds]
  | cons i schedule ih =>
    obtain ⟨-, hdeeds⟩ := turn_scene gate source sink crew i []
    have hrest := ih (crew.turn gate source sink i)
    rw [hdeeds, List.append_assoc, ← ownDeeds_append] at hrest
    exact hrest

end Crew
end Outbox
