import Outbox.Act
import Outbox.Association
import Outbox.Journal.Basic
import Outbox.Settings.Basic

/-!
# Clients of the chains

Each chain that is configured has a client, which speaks to one node at one endpoint.  A
client cannot be changed, only replaced by a fresh one, and to tell a fresh one from the
one it replaces every client has a number of its own.

The endpoint is kept nowhere but in the client.  A fresh client is made for the endpoint of
the one it replaces, so the endpoint of a chain stays what it was, however often its client
is replaced.

The number of a chain may have too many digits to be written.  Such a chain can have a client
and lose it to a fresh one, but whoever has to speak of it fails.
-/

namespace Outbox

/-- A client: the how manyth that was made, and where its node is. -/
structure Client where
  label : Nat
  endpoint : String
  deriving DecidableEq

/-- What is noted about clients. -/
inductive ClientNote where
  /-- A client is made, for a connection to its endpoint. -/
  | connects (client : Client) (timeout : Int)
  /-- A client is asked for the pending nonce of an account. -/
  | asks (client : Client) (account : String)
  /-- Some seconds pass. -/
  | pauses (seconds : Binary64)
  /-- A line of the log is written. -/
  | logs (line : LogLine)

/-- The clients of the chains, and how many have been made. -/
structure ClientPool where
  clients : List (Int × Client) := []
  made : Nat := 0

namespace ClientPool

/-- The fault of a chain without a client. -/
def notConfigured (chain : Int) : Fault :=
  .forming (Value.int chain).message fun chain =>
    .own .chainNotConfigured s!"no RPC client configured for chain {chain}"

/-- What the log says of a chain whose client has been made. -/
def configuredLine (chain : Int) (url : String) : Except Fault String := do
  let chain ← (Value.int chain).message
  return s!"Configured RPC for chain {chain}: {url}"

/-- What the log says of a chain whose client has been replaced. -/
def reconnectedLine (chain : Int) (endpoint : String) : Except Fault String := do
  let chain ← (Value.int chain).message
  return s!"Reconnected chain {chain} to {endpoint}"

/-- The client of a chain. -/
def client (pool : ClientPool) (chain : Int) : Except Fault Client :=
  match pool.clients.lookup chain with
  | some c => .ok c
  | none => .error (notConfigured chain)

/-- The number of the next client, which is then taken. -/
def takeLabel (pool : ClientPool) : Nat × ClientPool :=
  (pool.made, { pool with made := pool.made + 1 })

/-- The pool with a client made elsewhere for a chain. -/
def adopt (pool : ClientPool) (chain : Int) (endpoint : String) : ClientPool :=
  let (label, pool) := pool.takeLabel
  { pool with clients := Association.put chain ⟨label, endpoint⟩ pool.clients }

/-- A pool of clients made elsewhere. -/
def ofChains (chains : List (Int × String)) : ClientPool :=
  chains.foldl (fun pool entry => pool.adopt entry.1 entry.2) {}

/-- Makes a client and puts it in the place of a chain's client. -/
def connect (timeout : Int) (chain : Int) (endpoint : String) : Act ClientNote ClientPool Client :=
  do
    let pool ← Act.look
    let fresh : Client := ⟨pool.made, endpoint⟩
    Act.note (.connects fresh timeout)
    Act.change fun pool => pool.adopt chain endpoint
    return fresh

/-- Makes a client for every chain of a setting. -/
def configure (timeout : Int) : ChainUrls → Act ClientNote ClientPool Unit
  | [] => return ()
  | (chain, url) :: urls => do
    let _ ← connect timeout chain url
    let line ← Act.ofExcept (configuredLine chain url)
    Act.note (.logs ⟨.info, .clients, line⟩)
    configure timeout urls

/-- Replaces the client of a chain by a fresh one for the same endpoint. -/
def reconnect (timeout : Int) (chain : Int) : Act ClientNote ClientPool Client := do
  let old ← Act.ofExcept ((← Act.look).client chain)
  let fresh ← connect timeout chain old.endpoint
  let line ← Act.ofExcept (reconnectedLine chain old.endpoint)
  Act.note (.logs ⟨.info, .clients, line⟩)
  return fresh

/-- The fault of a chain without a client says so, unless the number of the chain has too many digits to
be written. -/
theorem notConfigured_spec (chain : Int) :
    if Literal.isWritable chain then (notConfigured chain).kind = .own .chainNotConfigured
    else notConfigured chain = .tooManyDigits := by
  unfold notConfigured Value.message
  rw [Value.isWritable_int]
  split <;> rfl

@[simp] theorem isInterrupt_notConfigured (chain : Int) :
    (notConfigured chain).isInterrupt = false := by
  unfold notConfigured Value.message
  split <;> rfl

/-- The fault of a chain without a client has a text. -/
theorem exists_askText_notConfigured (chain : Int) :
    ∃ text, (notConfigured chain).askText = .ok text := by
  unfold notConfigured Value.message
  split
  · exact ⟨_, Fault.askText_own _ _⟩
  · exact ⟨_, Fault.askText_tooManyDigits⟩

/-- A chain can be spoken of to the log if its number can be written. -/
theorem reconnectedLine_spec (chain : Int) (endpoint : String) :
    if Literal.isWritable chain then ∃ line, reconnectedLine chain endpoint = .ok line
    else reconnectedLine chain endpoint = .error .tooManyDigits := by
  rw [reconnectedLine, Value.message_bind, Value.isWritable_int]
  split
  · exact ⟨_, rfl⟩
  · rfl

@[simp] theorem lookup_adopt (pool : ClientPool) (chain other : Int) (endpoint : String) :
    (pool.adopt chain endpoint).clients.lookup other =
      if other = chain then some ⟨pool.made, endpoint⟩ else pool.clients.lookup other := by
  simp [adopt, takeLabel]

@[simp] theorem made_adopt (pool : ClientPool) (chain : Int) (endpoint : String) :
    (pool.adopt chain endpoint).made = pool.made + 1 := rfl

theorem connect_eq (timeout chain : Int) (endpoint : String) (pool : ClientPool) :
    connect timeout chain endpoint pool =
      ⟨.ok ⟨pool.made, endpoint⟩, [.connects ⟨pool.made, endpoint⟩ timeout],
        pool.adopt chain endpoint⟩ := rfl

/-- A chain without a client has none to replace, and no connection is made. -/
theorem reconnect_of_none {timeout chain : Int} {pool : ClientPool}
    (h : pool.clients.lookup chain = none) :
    reconnect timeout chain pool = ⟨.error (notConfigured chain), [], pool⟩ := by
  simp [reconnect, Act.bind_eq, client, h]

/-- A chain's client is replaced by the next one made, for the same endpoint. -/
theorem reconnect_of_some {timeout chain : Int} {pool : ClientPool} {old : Client} {line : String}
    (h : pool.clients.lookup chain = some old)
    (hline : reconnectedLine chain old.endpoint = .ok line) :
    reconnect timeout chain pool =
      ⟨.ok ⟨pool.made, old.endpoint⟩,
        [.connects ⟨pool.made, old.endpoint⟩ timeout, .logs ⟨.info, .clients, line⟩],
        pool.adopt chain old.endpoint⟩ := by
  simp [reconnect, Act.bind_eq, client, h, hline, connect_eq, Outcome.after, Except.map]

/-- A chain that cannot be spoken of has its client replaced all the same. -/
theorem reconnect_of_unspoken {timeout chain : Int} {pool : ClientPool} {old : Client} {e : Fault}
    (h : pool.clients.lookup chain = some old)
    (hline : reconnectedLine chain old.endpoint = .error e) :
    reconnect timeout chain pool =
      ⟨.error e, [.connects ⟨pool.made, old.endpoint⟩ timeout], pool.adopt chain old.endpoint⟩ := by
  simp [reconnect, Act.bind_eq, client, h, hline, connect_eq, Outcome.after]

end ClientPool
end Outbox
