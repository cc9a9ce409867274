import Outbox.Terms
import Outbox.Address.Spelling

/-!
# Pending transactions

What has been sent and not yet mined waits in a queue, because its price may have to be
raised.  Each sender has a line of its own, in the order of registration, and the queue
also knows for which senders raised prices can be signed.

## One list, many lines

The entries of all senders stand in one list, and the line of a sender is what remains of
it when all others are left out (`pendingOf`).  A registration goes to the end and a mined
transaction is taken out where it stands, so every operation has one equation in terms of
`pendingOf`, and the equations show that the lines do not disturb each other.

## Capacity is a question, not a limit

The capacity decides the answer to the question whether there is room.  It does not refuse
a registration: a transaction that has been sent is pending whether there was room or not.
-/

namespace Outbox

/-- The most transactions that may wait for one sender: a positive number, kept as it was
given. -/
structure Capacity where
  given : Value
  amount : Numeral
  positive : amount.le (.whole 0) = false

namespace Capacity

/-- The capacity that a value gives.  A value that is no number cannot be compared with
nought. -/
def ofValue (v : Value) : Except Fault Capacity :=
  match v.numeral? with
  | none => .error (.badType s!"'<=' not supported between instances of '{v.typeName}' and 'int'")
  | some amount =>
    if h : amount.le (.whole 0) = false then .ok ⟨v, amount, h⟩
    else .error (.badValue "queue capacity must be greater than 0")

/-- There is room for one more where `n` wait. -/
def admits (capacity : Capacity) (n : Nat) : Bool := Numeral.lt (.whole n) capacity.amount

end Capacity

/-- A transaction that waits. -/
structure Entry where
  tx : Value
  terms : Terms
  sender : Address
  /-- How often its price has been raised. -/
  bumps : Nat := 0

/-- The transactions that wait, and the senders with a signer. -/
structure PendingQueue where
  capacity : Capacity
  signers : List Address := []
  entries : List Entry := []

namespace PendingQueue

/-- What waits for a sender, in the order of registration. -/
def pendingOf (q : PendingQueue) (a : Address) : List Entry :=
  q.entries.filter fun e => e.sender = a

/-- Those for whom something waits, in the order of their first entries. -/
def senders (q : PendingQueue) : List Address := (q.entries.map Entry.sender).eraseDups

/-- There is room for another transaction of a sender. -/
def hasRoom (q : PendingQueue) (a : Address) : Bool := q.capacity.admits (q.pendingOf a).length

/-- A sender has a signer. -/
def hasSigner (q : PendingQueue) (a : Address) : Bool := a ∈ q.signers

/-- The queue with one more entry. -/
def append (q : PendingQueue) (e : Entry) : PendingQueue := { q with entries := q.entries ++ [e] }

/-- An entry is that of the sender's transaction with the given hash. -/
def isOf (a : Address) (hash : Value) (e : Entry) : Bool :=
  e.sender = a && e.tx.hash.same hash

/-- The queue without the earliest entry of the sender's transaction with the given
hash. -/
def remove (q : PendingQueue) (a : Address) (hash : Value) : PendingQueue :=
  { q with entries := q.entries.eraseP (isOf a hash) }

/-- The queue with a signer for a sender. -/
def enroll (q : PendingQueue) (a : Address) : PendingQueue :=
  if a ∈ q.signers then q else { q with signers := q.signers ++ [a] }

/-- The queue without a signer for a sender. -/
def dismiss (q : PendingQueue) (a : Address) : PendingQueue :=
  { q with signers := q.signers.filter fun b => b ≠ a }

/-! ## What each operation does to the lines -/

/-- A registration goes to the end of its sender's line and leaves the others alone. -/
@[simp] theorem pendingOf_append (q : PendingQueue) (e : Entry) (a : Address) :
    (q.append e).pendingOf a = q.pendingOf a ++ if e.sender = a then [e] else [] := by
  simp only [pendingOf, append, List.filter_append]
  by_cases h : e.sender = a <;> simp [h]

/-- Where no entry is that of the transaction, nothing is taken out. -/
theorem remove_of_not_any {q : PendingQueue} {a : Address} {hash : Value}
    (h : q.entries.any (isOf a hash) = false) : q.remove a hash = q := by
  have hentries : q.entries.eraseP (isOf a hash) = q.entries :=
    List.eraseP_of_forall_not (by simpa using h)
  rw [remove, hentries]

@[simp] theorem pendingOf_dismiss (q : PendingQueue) (a b : Address) :
    (q.dismiss a).pendingOf b = q.pendingOf b := rfl

@[simp] theorem hasSigner_append (q : PendingQueue) (e : Entry) (a : Address) :
    (q.append e).hasSigner a = q.hasSigner a := rfl

@[simp] theorem hasSigner_remove (q : PendingQueue) (a b : Address) (hash : Value) :
    (q.remove a hash).hasSigner b = q.hasSigner b := rfl

@[simp] theorem hasSigner_dismiss (q : PendingQueue) (a b : Address) :
    (q.dismiss a).hasSigner b = (decide (b ≠ a) && q.hasSigner b) := by
  unfold dismiss hasSigner
  by_cases hb : b = a <;> simp [hb]

end PendingQueue
end Outbox
