import Outbox.Crew.Basic
import Outbox.Fault.Named

/-!
# A crew on trial

The simplest surroundings in which a crew can be watched: the gate lets everyone in and keeps
what it is told of, the network has a pending nonce for each account that it knows and stays
with it, and a callback returns the nonce it is given.  Whatever goes wrong here, the crew has
done itself, unless it asks for an account that the network does not know.  That is a fault,
and whoever meets with a fault gives up.
-/

namespace Outbox

/-- What the network has for the accounts, and what the gate has been told of. -/
structure Ledger where
  network : List (String × Value)
  inserted : List (Address × Value) := []

namespace Ledger

/-- The gate that lets everyone in. -/
def gate : Gate Empty Ledger where
  canQueue _ := return true
  canSign _ := return true
  insert tx _ sender := .change fun l => { l with inserted := l.inserted ++ [(sender, tx)] }

/-- The pending nonce of an account. -/
def pendingNonce (l : Ledger) (account : Value) : Except Fault Value :=
  match l.network.find? fun entry => account.same (.text entry.1) with
  | some (_, nonce) => .ok nonce
  | none => .error (.plain (.foreign Fault.missingKeyName) [account])

/-- The network. -/
def source : NonceSource Empty Ledger := fun _ account => do
  Act.ofExcept ((← Act.look).pendingNonce account)

/-- The callback whose transaction is the nonce. -/
def send : SendCallback Empty Ledger := fun nonce => return nonce

/-- The job that dispatches a request in such surroundings. -/
def job (request : Request) : Job Empty Ledger := ⟨1, request, send⟩

/-- The worker who dispatches requests until one of them fails. -/
def worker (requests : List Request) : Worker Empty Ledger :=
  { todo := requests.map job, givesUp := true }

/-- The crew whose workers dispatch the given requests. -/
def crew (network : List (String × Value)) (requests : List (List Request)) : Crew Empty Ledger :=
  .start { world := { network } } (requests.map worker)

/-- The crew when all is done. -/
def outcome (crew : Crew Empty Ledger) : Crew Empty Ledger :=
  crew.run gate source none crew.roundRobin

/-- The most callbacks that run at once until all is done. -/
def busiest (crew : Crew Empty Ledger) : Nat := crew.busiest gate source none crew.roundRobin

end Ledger
end Outbox
