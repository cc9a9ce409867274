import Outbox.Session.World

/-!
# Sessions

A session is a desk in a scripted world, and commands given to it one after another.  A
command may dispatch a request, go straight to the book of nonces, to the queue or to the
clients, or attach a sink.  Each has a reply or ends in a fault, and neither ends the
session.

## What is shown of a command

A session shows the deeds of the desk and the notes of its collaborators.  Where a
collaborator is real its own notes tell the story, so the deed that only speaks of asking it
is left out: what a queue is asked, what a client is asked for, and that a broadcast begins.
-/

namespace Outbox

/-- What a sink does when it hears of a fault: it listens, or it fails. -/
abbrev SinkPlan := Option Answer

/-- A command to a session. -/
inductive Command where
  | dispatch (chain : Int) (request : Request) (send : World.SendPlan)
  | settle (chain : Int) (account : Value) (send : World.SendPlan)
  | cached (account : Value)
  | nonceFor (account : Value)
  | attachSink (sink : Option SinkPlan)
  | addSigner (sender : Value)
  | removeSigner (sender : Value)
  | canQueue (sender : Value)
  | canSign (sender : Value)
  | insert (tx : Value) (terms : GivenTerms) (sender : Value)
  | markMined (sender hash : Value)
  | pending (sender : Value)
  | client (chain : Int)
  | reconnect (chain : Int)
  | pendingNonce (chain : Int) (account : Value)
  | broadcast (chain : Int) (send : World.SendPlan) (nonces : List Value)

/-- The reply to a command. -/
inductive Reply where
  | nothing
  | value (v : Value)
  | flag (b : Bool)
  | nonce? (n : Option Numeral)
  | entries (es : List Entry)
  | client (c : Client)
  /-- A fresh client, and whether it is now that of its chain. -/
  | reconnected (c : Client) (current : Bool)
  /-- What came of each of several broadcasts. -/
  | broadcasts (results : List (Except Fault Value))

/-- What becomes the gate. -/
inductive GatePlan where
  | scripted
  | queue (capacity : Option Value) (signers : List Value)

/-- What becomes the nonce source. -/
inductive SourcePlan where
  | scripted
  | clients (chains : List (Int × String))
  | configured

/-- The plan has clients. -/
def SourcePlan.usesClients : SourcePlan → Bool
  | .scripted => false
  | _ => true

/-- A desk in a scripted world, and the sink that is attached. -/
structure Session where
  desk : Desk World
  sink : Option SinkPlan := none

namespace Session

variable {α : Type}

/-! ## Beginning -/

/-- The queue of a plan. -/
def planQueue (settings : Settings) : GatePlan → Except Fault (Option PendingQueue)
  | .scripted => .ok none
  | .queue capacity signers =>
    (PendingQueue.create (capacity.getD (.int settings.queueCapacity)) signers).map some

/-- The clients of a plan, and the notes taken while they are made. -/
def planPool (settings : Settings) : SourcePlan → Except Fault (ClientPool × List ClientNote)
  | .scripted => .ok ({}, [])
  | .clients chains => .ok (ClientPool.ofChains chains, [])
  | .configured =>
    let o := ClientPool.configure settings.rpcTimeout settings.chainUrls {}
    o.result.map fun _ => (o.next, o.notes)

/-- A session at its beginning, and what is noted until then. -/
def start (settings : Settings) (gate : GatePlan) (source : SourcePlan) :
    Except Fault (Session × List (Deed Note)) := do
  let queue ← planQueue settings gate
  let (pool, notes) ← planPool settings source
  let world : World := { settings, queue, pool, usesClients := source.usesClients }
  return ({ desk := { world } }, notes.map fun n => .passes (.client n))

/-! ## Commands -/

/-- An act on the desk. -/
def onDesk (x : Act (Deed Note) (Desk World) α) : Act (Deed Note) Session α :=
  x.within Session.desk fun desk s => { s with desk }

/-- An act on the world. -/
def onWorld (x : Act Note World α) : Act (Deed Note) Session α := onDesk (Desk.outside x)

/-- The sink of a plan. -/
def sinkOf (plan : SinkPlan) : ErrorSink Note World := fun _ =>
  match plan with
  | none => return ()
  | some answer => .ofExcept (answer.play.map fun _ => ())

/-- What comes of an act: its result, or its fault, unless that is an order to stop. -/
def tried (x : Act (Deed Note) Session α) : Act (Deed Note) Session (Except Fault α) :=
  Act.rescue (.ok <$> x) fun e => return .error e

/-- Broadcasts once for each nonce, whatever came of the ones before, until it is ordered to
stop. -/
def broadcastEach (send : SendCallback Note World) :
    List Value → Act (Deed Note) Session (List (Except Fault Value))
  | [] => return []
  | nonce :: nonces => do
    let result ← tried (onWorld (send nonce))
    return result :: (← broadcastEach send nonces)

/-- Carries out a command. -/
def perform : Command → Act (Deed Note) Session Reply
  | .dispatch chain request send => fun s =>
    onDesk (.value <$> Desk.dispatch World.gate World.source (s.sink.map sinkOf) chain request
      (World.callback send chain)) s
  | .settle chain account send => do
    let key ← Act.ofExcept (Key.ofValue account)
    onDesk (.value <$> Desk.settle World.source chain key (World.callback send chain))
  | .cached account => do
    let key ← Act.ofExcept (Key.ofValue account)
    return .nonce? ((← Act.look).desk.book.get? key)
  | .nonceFor account => do
    let s ← Act.look
    Act.ofExcept (((s.desk.nonceFor account).mapError RequestError.fault).map Reply.nonce?)
  | .attachSink sink => do
    Act.change fun s => { s with sink }
    return .nothing
  | .addSigner sender => do
    onWorld (World.onQueue (PendingQueue.addSigner sender))
    return .nothing
  | .removeSigner sender => do
    onWorld (World.onQueue (PendingQueue.removeSigner sender))
    return .nothing
  | .canQueue sender => .flag <$> onWorld (World.onQueue (PendingQueue.canQueue sender))
  | .canSign sender => .flag <$> onWorld (World.onQueue (PendingQueue.canSign sender))
  | .insert tx terms sender => do
    onWorld (World.onQueue (PendingQueue.insert tx terms sender))
    return .nothing
  | .markMined sender hash => .flag <$> onWorld (World.onQueue (PendingQueue.markMined sender hash))
  | .pending sender => .entries <$> onWorld (World.onQueue (PendingQueue.pending sender))
  | .client chain => do
    let s ← Act.look
    Act.ofExcept ((s.desk.world.pool.client chain).map Reply.client)
  | .reconnect chain => do
    let timeout := (← Act.look).desk.world.settings.rpcTimeout
    let fresh ← onWorld (World.onPool (ClientPool.reconnect timeout chain))
    let current := (← Act.look).desk.world.pool.clients.lookup chain
    return .reconnected fresh (current == some fresh)
  | .pendingNonce chain account =>
    .value <$> onWorld (World.askClient chain account)
  | .broadcast chain send nonces => .broadcasts <$> broadcastEach (World.callback send chain) nonces

/-! ## What is shown -/

/-- How a command submits transactions, if it does. -/
def sendPlan? : Command → Option World.SendPlan
  | .dispatch _ _ send => some send
  | .settle _ _ send => some send
  | .broadcast _ send _ => some send
  | _ => none

/-- The command broadcasts its transactions. -/
def isBroadcast (command : Command) : Bool :=
  match sendPlan? command with
  | some (.broadcast ..) => true
  | _ => false

/-- A deed that is shown: one that no collaborator's own notes tell of. -/
def shows (world : World) (command : Command) : Deed Note → Bool
  | .asksRoom .. | .asksSigner .. | .registers .. => world.queue.isNone
  | .asksNonce .. => !world.usesClients
  | .sends _ => !isBroadcast command
  | _ => true

/-- The session with the answers for a command laid down.  A command that broadcasts works with
a node of its own, which takes the next label. -/
def prepare (script : Script) (command : Command) (s : Session) : Session :=
  let w := s.desk.world
  let pool := if isBroadcast command then w.pool.takeLabel.2 else w.pool
  { s with desk := { s.desk with world := { w with script, pool } } }

/-- Gives a command to a session: what came of it, what is shown of it, and the session
afterwards. -/
def step (s : Session) (script : Script) (command : Command) :
    Except Fault Reply × List (Deed Note) × Session :=
  let o := perform command (prepare script command s)
  (o.result, o.notes.filter (shows s.desk.world command), o.next)

/-- Gives commands to a session one after another. -/
def run : Session → List (Script × Command) →
    List (Except Fault Reply × List (Deed Note) × Session)
  | _, [] => []
  | s, (script, command) :: commands =>
    let r := step s script command
    r :: run r.2.2 commands

end Session
end Outbox
