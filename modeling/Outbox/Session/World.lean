import Outbox.Broadcast
import Outbox.Chains.PendingNonce
import Outbox.Dispatch
import Outbox.Fault.Named
import Outbox.Form
import Outbox.PendingQueue.Gate

/-!
# A world of answers laid down beforehand

To see how a desk behaves one lets it work in a world whose answers are known.  In such a
world every collaborator plays from a script: a list of answers that are used up one per
question, and an ordinary answer for every question after the last.

Time is no matter: the clock lets any pause go by at once.

The world may hold a real queue and real clients.  Then the gate is the queue, the nonce
source is the client of the chain, and the script answers only for what lies behind them:
the nodes.

The account that signs makes its signature of the nonce's remainder, so a nonce that is no
whole number cannot be signed for.  Of a text the remainder is taken by filling it in as a form
(`Outbox.Form`), and the complaint is that of the form.
-/

namespace Outbox

/-- An answer laid down beforehand. -/
inductive Answer where
  | returns (v : Value)
  | raises (kind : String) (args : List Value)

/-- What comes of an answer. -/
def Answer.play : Answer → Except Fault Value
  | .returns v => .ok v
  | .raises kind args => .error (.raised kind args)

/-- The answers of the collaborators. -/
structure Script where
  canQueue : Answer := .returns (.bool true)
  canSign : Answer := .returns (.bool true)
  insert : Answer := .returns .null
  pendingNonces : List Answer := []
  results : List Answer := []
  gasPrices : List Answer := []
  estimates : List Answer := []
  broadcasts : List Answer := []
  signatures : List Answer := []

/-- What the collaborators of a scripted world note. -/
inductive Note where
  | log (line : LogLine)
  | client (note : ClientNote)
  | broadcast (note : BroadcastNote)

/-- The world around a desk. -/
structure World where
  settings : Settings
  /-- The queue that is the gate, if there is one. -/
  queue : Option PendingQueue := none
  pool : ClientPool := {}
  /-- The nonce source is the client of the chain. -/
  usesClients : Bool := false
  script : Script := {}

namespace World

variable {α : Type}

/-! ## Playing from the script -/

/-- The next answer of a list, or the ordinary one, and what is left of the list. -/
def nextAnswer (ordinary : Except Fault Value) : List Answer → Except Fault Value × List Answer
  | [] => (ordinary, [])
  | answer :: answers => (answer.play, answers)

/-- Plays the next answer of one of the script's lists. -/
def draw (ordinary : Except Fault Value) (part : Script → List Answer)
    (put : List Answer → Script → Script) : Act Empty World Value := fun w =>
  let (result, rest) := nextAnswer ordinary (part w.script)
  ⟨result, [], { w with script := put rest w.script }⟩

/-- What a network answers to a nonce query. -/
def drawNonce : Act Empty World Value :=
  draw (.ok (.int 0)) Script.pendingNonces fun rest s => { s with pendingNonces := rest }

/-! ## The gate and the nonce source -/

/-- An act on the queue, if there is one. -/
def onQueue (x : Act LogLine PendingQueue α) : Act Note World α := fun w =>
  match w.queue with
  | some q =>
    let o := x q
    ⟨o.result, o.notes.map .log, { w with queue := some o.next }⟩
  | none => ⟨.error (.badValue "there is no queue"), [], w⟩

/-- An act on the queue if there is one, and otherwise an answer. -/
def onQueueOr (x : Act LogLine PendingQueue α) (answer : Script → Except Fault α) :
    Act Note World α := fun w =>
  match w.queue with
  | some _ => onQueue x w
  | none => ⟨answer w.script, [], w⟩

/-- The gate: the queue, or the script. -/
def gate : Gate Note World where
  canQueue a := onQueueOr (PendingQueue.gate.canQueue a) fun s => s.canQueue.play.map Value.truthy
  canSign a := onQueueOr (PendingQueue.gate.canSign a) fun s => s.canSign.play.map Value.truthy
  insert tx terms a :=
    onQueueOr (PendingQueue.gate.insert tx terms a) fun s => s.insert.play.map fun _ => ()

/-- How nonce queries are tried again. -/
def retryPolicy (w : World) : RetryPolicy := ⟨w.settings.nonceAttempts, w.settings.nonceWait⟩

/-- Asks the client of a chain for a pending nonce. -/
def askClient (chain : Int) (account : Value) : Act Note World Value := fun w =>
  Act.renote .client
    (Chains.pendingNonce w.pool w.retryPolicy .patient (fun _ _ => drawNonce) chain account) w

/-- The nonce source: the client of the chain, or the script. -/
def source : NonceSource Note World := fun chain account w =>
  if w.usesClients then askClient chain account w else (drawNonce.silent : Act Note World Value) w

/-- An act on the clients. -/
def onPool (x : Act ClientNote ClientPool α) : Act Note World α :=
  (x.renote .client).within World.pool fun pool w => { w with pool }

/-! ## Send callbacks -/

/-- How transactions are submitted. -/
inductive SendPlan where
  /-- The script answers. -/
  | scripted
  /-- The transaction is broadcast with these fields from this address. -/
  | broadcast (address : String) (params : Value)

/-- The transaction that a scripted callback returns when the script has no answer left, if its
nonce can be written. -/
def ordinaryTransaction (nonce : Value) : Except Fault Value := do
  let text ← nonce.message
  return .dict [("hash", .text ("h" ++ text)), ("nonce", nonce)]

/-- A scripted callback. -/
def scriptedSend : SendCallback Note World := fun nonce =>
  (draw (ordinaryTransaction nonce) Script.results fun rest s => { s with results := rest }).silent

/-- The node behind a broadcast. -/
def node : Node World where
  gasPrice := draw (.ok (.int 2000000000)) Script.gasPrices fun rest s => { s with gasPrices := rest }
  estimateGas _ := draw (.ok (.int 21000)) Script.estimates fun rest s => { s with estimates := rest }
  sendRaw _ := do
    let _ ← draw (.ok .null) Script.broadcasts fun rest s => { s with broadcasts := rest }
    return ()

/-- A number as so many bytes, the highest first. -/
def bigEndian : Nat → Nat → List UInt8
  | 0, _ => []
  | width + 1, n => bigEndian width (n / 256) ++ [UInt8.ofNat (n % 256)]

/-- How many numbers fit into 32 bytes. -/
def hashLimit : Nat := Nat.pow 2 256

/-- The signature of a transaction with the given nonce: its hash is the nonce in 32 bytes, and
its bytes are the hash with a mark in front. -/
def signedWith (nonce : Int) : Signed :=
  let hash := bigEndian 32 (nonce % hashLimit).toNat
  ⟨0x02 :: hash, hash⟩

/-- The fault of signing what is no whole number, and so has no bytes. -/
def hasNoBytes (typeName : String) : Fault := .noAttribute typeName "to_bytes"

/-- The fault of signing a form.  If the number can be put into it, what comes of that is a form
again and no number. -/
def formFault (typeName : String) (filled : Except Form.Error Unit) : Fault :=
  match filled with
  | .ok () => hasNoBytes typeName
  | .error e => e.fault

/-- The number of which a signature is made. -/
def signedNumber : Value → Except Fault Int
  | .bool b => .ok (if b then 1 else 0)
  | .int i => .ok i
  | .real _ => .error (hasNoBytes "float")
  | .text s => .error (formFault "str" (Form.fill .characters s.toList))
  | .bytes bs => .error (formFault "bytes" (Form.fill .bytes (bs.map fun b => Char.ofNat b.toNat)))
  | v => .error (.badType s!"unsupported operand type(s) for %: '{v.typeName}' and 'int'")

/-- The account that signs. -/
def signer (address : String) : Signer World where
  address := address
  sign fields := do
    let _ ← draw (.ok .null) Script.signatures fun rest s => { s with signatures := rest }
    let nonce ← Act.ofExcept (signedNumber ((fields.lookup "nonce").getD (.int 0)))
    return signedWith nonce

/-- The callback of a plan. -/
def callback (plan : SendPlan) (chain : Int) : SendCallback Note World := fun nonce w =>
  match plan with
  | .scripted => scriptedSend nonce w
  | .broadcast address params =>
    Act.renote .broadcast
      (Broadcast.send node (signer address) chain w.settings.maxGasPriceGwei params nonce) w

end World
end Outbox
