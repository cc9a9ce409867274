import Outbox.Dispatch

/-!
# The stages of an errand

A request that several workers handle side by side is not handled in one go.  Others may act
between any two things that one of them does, so the dispatch of a request is cut here into
its stages: at each of them one thing is done, and the next stage depends on what came of it.

## Where the cuts are

There is a cut wherever a collaborator is asked, and two more.  The book is taken before the
nonce is chosen and given back after the one that was used is marked, and every stage between
holds it (`Stage.holdsBook`).  And a callback takes time: it is called at one stage
(`chosen`) and returns at the next (`sending`), so that one can say of two callbacks that they
run at once.

What is done at a stage is taken from the dispatch of a single request, piece by piece, and no
rule is stated a second time.
-/

namespace Outbox

/-- An accepted request, and how its transaction is submitted. -/
structure Errand (ν σ : Type) where
  chain : Int
  sender : Address
  terms : Terms
  send : SendCallback ν σ

/-- A submission is the first of a transaction, or the second one after its nonce was
refused. -/
inductive Attempt where
  | first
  | second
  deriving DecidableEq

/-- How far an errand has come. -/
inductive Stage where
  /-- The gate is to be asked for room. -/
  | outside
  /-- There is room, and the gate is to be asked for a signer. -/
  | inside
  /-- The sender is let in and waits for the book. -/
  | waiting
  /-- The book is taken and no nonce is chosen yet. -/
  | reading
  /-- A nonce is chosen, and the callback is to be called. -/
  | chosen (attempt : Attempt) (nonce : Value)
  /-- The callback runs. -/
  | sending (attempt : Attempt) (nonce : Value)
  /-- The first nonce was refused. -/
  | refused (nonce : Value) (refusal : Fault)
  /-- The callback has returned, and the nonce is to be marked as used. -/
  | sent (nonce : Value) (tx : Value)
  /-- All that needs the book is done. -/
  | leaving (result : Except Fault Value)
  /-- The book is given back, and the gate is to be told of the transaction. -/
  | concluding (tx : Value)
  /-- Nothing is left to do. -/
  | over (result : Except Fault Value)

namespace Stage

/-- The stages from the taking of the book to its return. -/
def holdsBook : Stage → Bool
  | .reading | .chosen .. | .sending .. | .refused .. | .sent .. | .leaving _ => true
  | _ => false

/-- The stage at which a callback runs. -/
def isSending : Stage → Bool
  | .sending .. => true
  | _ => false

theorem holdsBook_of_isSending {s : Stage} (h : s.isSending = true) : s.holdsBook = true := by
  cases s <;> simp_all [isSending, holdsBook]

/-- The stage after the fault of a callback. -/
def afterFault (attempt : Attempt) (nonce : Value) (e : Fault) : Stage :=
  if e.isInterrupt then .leaving (.error e)
  else match attempt with
    | .first =>
      match e.askClash with
      | .ok true => .refused nonce e
      | .ok false => .leaving (.error (Desk.notSent e))
      | .error f => .leaving (.error f)
    | .second => .leaving (.error (Desk.notRecovered e))

end Stage

namespace Errand

variable {ν σ α : Type}

/-- Does something, and goes on to a stage that depends on what came of it. -/
def step (x : Act (Deed ν) (Desk σ) α) (failed : Fault → Stage) (done : α → Stage) :
    Act (Deed ν) (Desk σ) Stage := do
  match ← Act.attempt x with
  | .ok a => return done a
  | .error e => return failed e

/-- Does what is to be done at a stage.  At `waiting` and at `leaving` the book changes hands,
which is not the business of an errand but of those who share the book. -/
def advance (gate : Gate ν σ) (source : NonceSource ν σ) (sink : Option (ErrorSink ν σ))
    (e : Errand ν σ) : Stage → Act (Deed ν) (Desk σ) Stage
  | .outside =>
    step (Desk.counting admissionOutcome (Desk.needRoom gate e.sender))
      (fun f => .over (.error f)) fun _ => .inside
  | .inside =>
    step (Desk.counting admissionOutcome (Desk.needSigner gate e.sender))
      (fun f => .over (.error f)) fun _ => .waiting
  | .waiting => return .reading
  | .reading =>
    step (Desk.firstNonce source e.chain e.sender.key)
      (fun f => .leaving (.error f)) (.chosen .first)
  | .chosen attempt nonce => do
    Act.note (.sends nonce)
    return .sending attempt nonce
  | .sending attempt nonce =>
    step (Desk.outside (e.send nonce)) (Stage.afterFault attempt nonce) (.sent nonce)
  | .refused nonce refusal =>
    step (Desk.secondNonce source e.chain e.sender.key nonce refusal)
      (fun f => .leaving (.error f)) (.chosen .second)
  | .sent nonce tx =>
    step (Desk.markUsed e.sender.key nonce) (fun f => .leaving (.error f))
      fun _ => .leaving (.ok tx)
  | .leaving result =>
    step (Desk.counting Fault.name (.ofExcept result)) (fun f => .over (.error f)) .concluding
  | .concluding tx =>
    step (Desk.conclude gate sink e.chain e.sender e.terms tx)
      (fun f => .over (.error f)) fun tx => .over (.ok tx)
  | .over result => return .over result

end Errand
end Outbox
