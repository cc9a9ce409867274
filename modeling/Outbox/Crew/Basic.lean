import Outbox.Crew.Stage

/-!
# A crew at one desk

Several workers share a desk, and with it one book of nonces.  Each of them has jobs to do, one
after another, and whoever is let in waits until the book is free, takes it, and keeps it until
the nonce that was used is marked.  What a worker does about a job that has failed is the
worker's own affair: one goes on with the next, another gives up (`Worker.givesUp`).

## Turns

Which worker acts next is decided elsewhere: by a schedule, which is nothing but a list of
workers.  In a turn (`Crew.turn`) a worker does what is to be done at one stage, or nothing if
the book is not free, and a schedule is any list whatever.  So a statement about all schedules
is a statement about everything that can happen.

## The book changes hands

`holder` says who has the book.  It is set in one place and cleared in one place, and nothing
else looks at it than the worker who waits; that the holder is alone with the book is therefore
something to be proved and nothing that is built in.  The past tells who did what, the latest
first; `history` tells it in order, and `takes` in it tells in what order the book was taken.
-/

namespace Outbox

/-- A request to be dispatched, and how its transaction is submitted. -/
structure Job (ν σ : Type) where
  chain : Int
  request : Request
  send : SendCallback ν σ

/-- A worker: the errand in hand, the jobs to come, and what came of the earlier ones. -/
structure Worker (ν σ : Type) where
  todo : List (Job ν σ)
  hand : Option (Errand ν σ × Stage) := none
  results : List (Except Fault Value) := []
  /-- A job that fails is the last one. -/
  givesUp : Bool := false

/-- What the past of a crew tells. -/
inductive CrewEvent (ν σ : Type) where
  /-- The book is taken for an errand. -/
  | takes (errand : Errand ν σ)
  /-- The book is given back. -/
  | gives
  /-- Something is done at the desk. -/
  | does (deed : Deed ν)

/-- Workers who share a desk. -/
structure Crew (ν σ : Type) where
  desk : Desk σ
  workers : List (Worker ν σ)
  /-- The worker who has the book. -/
  holder : Option Nat := none
  /-- What was done, and by whom, the latest first. -/
  past : List (Nat × CrewEvent ν σ) := []

namespace Worker

variable {ν σ α : Type}

/-- The worker is in the middle of a callback. -/
def isSending (w : Worker ν σ) : Bool :=
  match w.hand with
  | some (_, stage) => stage.isSending
  | none => false

/-- Nothing is left for the worker to do. -/
def isDone (w : Worker ν σ) : Bool := w.hand.isNone && w.todo.isEmpty

/-- The most turns in which the worker can still do something.  A job is taken up, goes through
three stages at most until the book is taken and eight with it, is registered and put away. -/
def turnsLeft (w : Worker ν σ) : Nat := 14 * (w.todo.length + if w.hand.isSome then 1 else 0)

/-- The jobs that are still to be done after one of them. -/
def todoAfter (w : Worker ν σ) : Except Fault Value → List (Job ν σ)
  | .ok _ => w.todo
  | .error _ => if w.givesUp then [] else w.todo

/-- The worker after a job. -/
def putAway (w : Worker ν σ) (result : Except Fault Value) : Worker ν σ :=
  { w with todo := w.todoAfter result, hand := none, results := w.results ++ [result] }

/-- The job as an errand at its first stage, if its request is accepted. -/
def begin (job : Job ν σ) : Act (Deed ν) (Desk σ) (Errand ν σ × Stage) := do
  let (sender, terms) ← Desk.counting Fault.name (Desk.checked job.request)
  return (⟨job.chain, sender, terms, job.send⟩,
    if job.request.isForced then .waiting else .outside)

end Worker

namespace Crew

variable {ν σ α : Type}

/-- A crew before its first turn. -/
def start (desk : Desk σ) (workers : List (Worker ν σ)) : Crew ν σ := { desk, workers }

/-- The crew after worker `i` has become `w` and has done `events`, which left the desk as
`desk`. -/
def update (crew : Crew ν σ) (i : Nat) (w : Worker ν σ) (desk : Desk σ) (holder : Option Nat)
    (events : List (CrewEvent ν σ)) : Crew ν σ :=
  { desk, holder
    workers := crew.workers.set i w
    past := (events.map fun e => (i, e)).reverse ++ crew.past }

/-- What was done, and by whom, in order. -/
def history (crew : Crew ν σ) : List (Nat × CrewEvent ν σ) := crew.past.reverse

/-- What is done in an update comes last in the history. -/
@[simp] theorem history_update (crew : Crew ν σ) (i : Nat) (w : Worker ν σ) (desk : Desk σ)
    (holder : Option Nat) (events : List (CrewEvent ν σ)) :
    (crew.update i w desk holder events).history = crew.history ++ events.map fun e => (i, e) := by
  simp [history, update]

/-- Worker `i` takes up a job. -/
def takeUp (crew : Crew ν σ) (i : Nat) (w : Worker ν σ) (job : Job ν σ) (jobs : List (Job ν σ)) :
    Crew ν σ :=
  let o := Worker.begin job crew.desk
  let w := match o.result with
    | .ok hand => { w with todo := jobs, hand := some hand }
    | .error e => { w with todo := jobs }.putAway (.error e)
  crew.update i w o.next crew.holder (o.notes.map .does)

/-- Worker `i` goes on with an errand. -/
def goOn (gate : Gate ν σ) (source : NonceSource ν σ) (sink : Option (ErrorSink ν σ))
    (crew : Crew ν σ) (i : Nat) (w : Worker ν σ) (errand : Errand ν σ) (stage : Stage) :
    Crew ν σ :=
  let o := errand.advance gate source sink stage crew.desk
  let w := { w with hand := o.result.toOption.map fun stage => (errand, stage) }
  let events := o.notes.map CrewEvent.does
  match stage with
  | .waiting =>
    if crew.holder.isNone then crew.update i w o.next (some i) (.takes errand :: events) else crew
  | .leaving _ => crew.update i w o.next none (.gives :: events)
  | _ => crew.update i w o.next crew.holder events

/-- The turn of worker `i`. -/
def turn (gate : Gate ν σ) (source : NonceSource ν σ) (sink : Option (ErrorSink ν σ))
    (crew : Crew ν σ) (i : Nat) : Crew ν σ :=
  match crew.workers[i]? with
  | none => crew
  | some w =>
    match w.hand, w.todo with
    | some (_, .over result), _ => crew.update i (w.putAway result) crew.desk crew.holder []
    | some (errand, stage), _ => goOn gate source sink crew i w errand stage
    | none, job :: jobs => takeUp crew i w job jobs
    | none, [] => crew

/-- The turns of a schedule, one after another. -/
def run (gate : Gate ν σ) (source : NonceSource ν σ) (sink : Option (ErrorSink ν σ))
    (crew : Crew ν σ) (schedule : List Nat) : Crew ν σ :=
  schedule.foldl (turn gate source sink) crew

/-- How many callbacks run. -/
def sendingCount (crew : Crew ν σ) : Nat := crew.workers.countP Worker.isSending

/-- The most callbacks that run at once while a schedule is carried out. -/
def busiest (gate : Gate ν σ) (source : NonceSource ν σ) (sink : Option (ErrorSink ν σ)) :
    Crew ν σ → List Nat → Nat
  | crew, [] => crew.sendingCount
  | crew, i :: schedule =>
    max crew.sendingCount (busiest gate source sink (turn gate source sink crew i) schedule)

/-- The accounts that the nonce source was asked for. -/
def lookups (crew : Crew ν σ) : List Value :=
  crew.history.filterMap fun
    | (_, .does (.asksNonce _ account)) => some account
    | _ => none

/-- Every worker in turn, so often that everyone is done in the end: as long as someone is
not done someone can go on, the holder of the book or anyone at all. -/
def roundRobin (crew : Crew ν σ) : List Nat :=
  let rounds := crew.workers.foldr (fun w n => w.turnsLeft + n) 0
  (List.replicate rounds (List.range crew.workers.length)).flatten

end Crew
end Outbox
