import Outbox.Desk
import Outbox.PendingQueue.Basic

/-!
# The queue as others see it

Others name senders by spellings, give terms that nobody has looked at, and read of every
change in the log.  Here the queue accepts or refuses what they say before it does anything,
so an operation that is refused has changed nothing.  The line of the log comes last: if it
would show a hash or a capacity that cannot be written, the operation fails, and what it was to
change has been changed.

A registration looks at the terms first and at the sender second; what is no terms at all
fails for want of a check.  Nothing here asks for room.

`gate` is the queue as the gate of a desk.  The desk has accepted the sender already, and
the queue accepts it once more from its text.
-/

namespace Outbox
namespace PendingQueue

variable {α : Type}

/-- An act for the account that a value names as a sender. -/
def forSender (spelled : Value) (f : Address → Act LogLine PendingQueue α) :
    Act LogLine PendingQueue α :=
  match Address.accept spelled with
  | .ok a => f a
  | .error e => .fail (RequestError.fault (.sender e))

/-- The fault of terms that are not accepted in a registration. -/
def termsFault? : GivenTerms → Except Fault Terms
  | .other v => .error (.noAttribute v.typeName "validate")
  | .terms terms =>
    match terms.check with
    | .ok () => .ok terms
    | .error e => .error (RequestError.fault (.terms e))

/-- The queue with the given capacity and signers. -/
def create (capacity : Value) (signers : List Value) : Except Fault PendingQueue := do
  let capacity ← Capacity.ofValue capacity
  signers.foldlM
    (fun q spelled =>
      match Address.accept spelled with
      | .ok a => .ok (q.enroll a)
      | .error e => .error (RequestError.fault (.sender e)))
    { capacity }

/-- Enrols a signer. -/
def addSigner (spelled : Value) : Act LogLine PendingQueue Unit :=
  forSender spelled fun a => .change fun q => q.enroll a

/-- Dismisses a signer. -/
def removeSigner (spelled : Value) : Act LogLine PendingQueue Unit :=
  forSender spelled fun a => .change fun q => q.dismiss a

/-- Answers whether there is room. -/
def canQueue (spelled : Value) : Act LogLine PendingQueue Bool :=
  forSender spelled fun a => return (← Act.look).hasRoom a

/-- Answers whether there is a signer. -/
def canSign (spelled : Value) : Act LogLine PendingQueue Bool :=
  forSender spelled fun a => return (← Act.look).hasSigner a

/-- What the log says of a transaction that has been registered as the last of so many. -/
def trackedLine (tx : Value) (sender : Address) (waiting : Nat) (capacity : Capacity) :
    Except Fault String := do
  let hash ← tx.hash.message
  let capacity ← capacity.given.message
  return s!"Tracking tx {hash} for {sender} ({waiting}/{capacity} queued)"

/-- What the log says of a transaction that has been mined. -/
def minedLine (hash : Value) : Except Fault String := do
  let hash ← hash.message
  return s!"Tx {hash} mined"

/-- Changes the queue, and then tells the log of it. -/
def changeAndTell (f : PendingQueue → PendingQueue)
    (line : PendingQueue → Except Fault String) : Act LogLine PendingQueue Unit := do
  Act.change f
  let line ← Act.ofExcept (line (← Act.look))
  Act.note ⟨.info, .queue, line⟩

/-- Registers a transaction. -/
def insert (tx : Value) (given : GivenTerms) (spelled : Value) : Act LogLine PendingQueue Unit := do
  let terms ← Act.ofExcept (termsFault? given)
  forSender spelled fun a => changeAndTell (fun q => q.append ⟨tx, terms, a, 0⟩)
    fun q => trackedLine tx a (q.pendingOf a).length q.capacity

/-- What waits for a sender. -/
def pending (spelled : Value) : Act LogLine PendingQueue (List Entry) :=
  forSender spelled fun a => return (← Act.look).pendingOf a

/-- Takes a mined transaction out; answers whether it waited. -/
def markMined (spelled hash : Value) : Act LogLine PendingQueue Bool :=
  forSender spelled fun a => do
    if (← Act.look).entries.any (isOf a hash) then
      changeAndTell (fun q => q.remove a hash) fun _ => minedLine hash
      return true
    else return false

/-- The queue as the gate of a desk. -/
def gate : Gate LogLine PendingQueue where
  canQueue a := canQueue (.text a.text)
  canSign a := canSign (.text a.text)
  insert tx terms a := insert tx (.terms terms) (.text a.text)

theorem forSender_of_accept {spelled : Value} {a : Address} (h : Address.accept spelled = .ok a)
    (f : Address → Act LogLine PendingQueue α) : forSender spelled f = f a := by
  simp [forSender, h]

/-- Terms that are accepted are terms, and they pass their check. -/
theorem termsFault?_eq_ok_iff {given : GivenTerms} {terms : Terms} :
    termsFault? given = .ok terms ↔ given = .terms terms ∧ terms.check = .ok () := by
  unfold termsFault?
  cases given with
  | other v => simp
  | terms t =>
    cases hcheck : t.check with
    | error e =>
      simp only [hcheck, reduceCtorEq, GivenTerms.terms.injEq, false_iff, not_and]
      rintro rfl
      simp [hcheck]
    | ok u =>
      simp only [hcheck, Except.ok.injEq, GivenTerms.terms.injEq]
      exact ⟨fun h => ⟨h, h ▸ hcheck⟩, And.left⟩

/-! ## The change, and the line of the log -/

/-- A change is made whether or not the log can be told of it. -/
@[simp] theorem next_changeAndTell (f : PendingQueue → PendingQueue)
    (line : PendingQueue → Except Fault String) (q : PendingQueue) :
    (changeAndTell f line q).next = f q := by
  cases hline : line (f q) <;> simp [changeAndTell, Act.bind_eq, hline]

/-- It fails if the log cannot be told of it. -/
@[simp] theorem result_changeAndTell (f : PendingQueue → PendingQueue)
    (line : PendingQueue → Except Fault String) (q : PendingQueue) :
    (changeAndTell f line q).result = (line (f q)).map fun _ => () := by
  cases hline : line (f q) <;> simp [changeAndTell, Act.bind_eq, hline, Except.map]

/-- The log is told of a registration if the hash and the capacity can be written. -/
theorem map_trackedLine (tx : Value) (sender : Address) (waiting : Nat) (capacity : Capacity) :
    (trackedLine tx sender waiting capacity).map (fun _ => ()) =
      if tx.hash.isWritable && capacity.given.isWritable then .ok ()
      else .error .tooManyDigits := by
  simp only [trackedLine, Value.message_bind]
  cases tx.hash.isWritable <;> cases capacity.given.isWritable <;> rfl

section Accepted

variable {spelled : Value} {a : Address}

/-- A registration with terms and a sender that are accepted makes an entry. -/
theorem next_insert {given : GivenTerms} {terms : Terms} (hterms : termsFault? given = .ok terms)
    (ha : Address.accept spelled = .ok a) (tx : Value) (q : PendingQueue) :
    (insert tx given spelled q).next = q.append ⟨tx, terms, a, 0⟩ := by
  rw [insert, hterms, Act.bind_of_ok rfl, forSender_of_accept ha, Outcome.next_after,
    next_changeAndTell, Act.ofExcept_eq]

/-- It is successful if the log can be told of it. -/
theorem result_insert {given : GivenTerms} {terms : Terms} (hterms : termsFault? given = .ok terms)
    (ha : Address.accept spelled = .ok a) (tx : Value) (q : PendingQueue) :
    (insert tx given spelled q).result =
      if tx.hash.isWritable && q.capacity.given.isWritable then .ok ()
      else .error .tooManyDigits := by
  rw [insert, hterms, Act.bind_of_ok rfl, forSender_of_accept ha, Outcome.result_after,
    result_changeAndTell, map_trackedLine]
  rfl

/-- What is mined is taken out, if it is there. -/
theorem next_markMined (ha : Address.accept spelled = .ok a) (hash : Value) (q : PendingQueue) :
    (markMined spelled hash q).next = q.remove a hash := by
  rw [markMined, forSender_of_accept ha, Act.bind_of_ok rfl, Act.look_eq, Outcome.next_after]
  cases hany : q.entries.any (isOf a hash) with
  | true =>
    rw [if_pos rfl, bind_pure_comp, Act.map_eq]
    exact next_changeAndTell (fun q => q.remove a hash) (fun _ => minedLine hash) q
  | false => exact (remove_of_not_any hany).symm

end Accepted

end PendingQueue
end Outbox
