import Outbox.Proofs.Confinement
import Outbox.Proofs.FirstNonces
import Outbox.Proofs.NonceQueries
import Outbox.Proofs.Unanswered
import Outbox.Proofs.UrlGrammar
import Outbox.Session.Basic

/-!
# Endpoints survive reconnects

The url of a chain is written down once, when the first client of the chain is made, and after that it
is kept nowhere but in the client.  A fresh client is made for the endpoint of the one it replaces, and
the next one for the endpoint of that, so it takes a whole history to say where a chain's client is.
This file says it for every history: chains asked for their clients, clients replaced, nonces asked for
and requests dispatched, in any order and on any chains (`Surroundings.keepsEndpoints_run`).

The table of the endpoints is at all times the one that was given in the beginning
(`ClientPool.endpoints_adopt_of_lookup` is all that there is to it).  The client of a chain is the one
made when it was last replaced, or the first if it never was, and whoever asks the chain for a nonce
asks this client.  A replacement is one connection, to the same url and with the timeout of the
settings, and the clients of other chains are not touched.

The log is told of a replacement when it has been made.  If the number of the chain has too many digits
to be written, then the replacement fails there, and the fresh client stays in its place all the same.
That is why the client made last is read off the connections and not off what was returned (`fresh?`).

## Chains without a client

A chain that was not in the table never has a client.  To ask for it, to replace it or to ask it for a
nonce is a fault at once, without a connection and without a query; the fault says that the chain is not
configured, if its number can be written.  A dispatch on such a chain ends with
this fault as the cause of its own, but only if it needs the network (`Desk.NeedsNetwork`): the book has
nonces for accounts and not for chains, so that a dispatch whose sender has a nonce in the book does
without the chain's client, and goes as well on a chain that has none (`OffTheList.not_always_raised`).

## Those with whom the desk works

The clients and the rest of the world lie side by side (`Wired`).  The gate, the callback, the sink, the
clock and the nodes behind the clients act on the rest, and nothing is assumed of them.
-/

namespace Outbox

/-! ## 1.  The endpoints of a pool -/

namespace ClientPool

/-- The endpoints of the clients, under their chains. -/
def endpoints (pool : ClientPool) : List (Int × String) :=
  pool.clients.map fun entry => (entry.1, entry.2.endpoint)

variable {pool : ClientPool} {chain : Int} {old : Client}

theorem lookup_endpoints (pool : ClientPool) (chain : Int) :
    pool.endpoints.lookup chain = (pool.clients.lookup chain).map Client.endpoint :=
  Association.lookup_map_value (fun _ => Client.endpoint) pool.clients chain

theorem endpoints_adopt (pool : ClientPool) (chain : Int) (url : String) :
    (pool.adopt chain url).endpoints = Association.put chain url pool.endpoints :=
  Association.map_value_put Client.endpoint chain ⟨pool.made, url⟩ pool.clients

/-- **A client that replaces another at its endpoint leaves the endpoints as they are.** -/
theorem endpoints_adopt_of_lookup (h : pool.clients.lookup chain = some old) :
    (pool.adopt chain old.endpoint).endpoints = pool.endpoints := by
  rw [endpoints_adopt, Association.put_of_lookup]
  rw [lookup_endpoints, h, Option.map_some]

theorem endpoints_foldl_adopt (entries : List (Int × String)) (pool : ClientPool) :
    (entries.foldl (fun pool entry => pool.adopt entry.1 entry.2) pool).endpoints =
      Association.putAll pool.endpoints entries := by
  induction entries generalizing pool with
  | nil => rfl
  | cons entry entries ih =>
    rw [List.foldl_cons, ih, endpoints_adopt]
    rfl

/-- The endpoints of a new pool are the table that its list spells out. -/
theorem endpoints_ofChains (entries : List (Int × String)) :
    (ofChains entries).endpoints = ChainUrls.tableOf entries := by
  rw [ofChains, endpoints_foldl_adopt, ← ChainUrls.putAll_eq_tableOf]
  rfl

/-- **Clients made from a setting are the clients of its list**, if the log can be told of the chains. -/
theorem configure_of_isWritable (timeout : Int) {urls : ChainUrls}
    (h : ∀ entry ∈ urls, Literal.isWritable entry.1 = true) (pool : ClientPool) :
    (configure timeout urls pool).result = .ok () ∧
      (configure timeout urls pool).next =
        urls.foldl (fun pool entry => pool.adopt entry.1 entry.2) pool := by
  induction urls generalizing pool with
  | nil => exact ⟨rfl, rfl⟩
  | cons entry urls ih =>
    obtain ⟨hentry, hurls⟩ := List.forall_mem_cons.mp h
    obtain ⟨line, hline⟩ : ∃ line, configuredLine entry.1 entry.2 = .ok line := by
      rw [configuredLine, Value.message_bind, Value.isWritable_int, hentry]
      exact ⟨_, rfl⟩
    obtain ⟨hresult, hnext⟩ := ih hurls (pool.adopt entry.1 entry.2)
    simp only [configure, hline, Act.bind_eq, connect_eq, Act.ofExcept_eq, Act.note_eq]
    exact ⟨hresult, hnext⟩

/-- **A client is replaced by the next one made, for the same endpoint.**  It is returned if the log can
be told of it. -/
theorem reconnect_of_lookup (timeout : Int) (h : pool.clients.lookup chain = some old) :
    ∃ lines : List LogLine, reconnect timeout chain pool =
      ⟨if Literal.isWritable chain then .ok ⟨pool.made, old.endpoint⟩ else .error .tooManyDigits,
        .connects ⟨pool.made, old.endpoint⟩ timeout :: lines.map .logs,
        pool.adopt chain old.endpoint⟩ := by
  have hspoken := reconnectedLine_spec chain old.endpoint
  by_cases hchain : Literal.isWritable chain = true
  · rw [if_pos hchain] at hspoken ⊢
    obtain ⟨line, hline⟩ := hspoken
    exact ⟨[⟨.info, .clients, line⟩], reconnect_of_some h hline⟩
  · rw [if_neg hchain] at hspoken ⊢
    exact ⟨[], reconnect_of_unspoken h hspoken⟩

/-- No client has the number of the next one, or a higher one. -/
def IsNumbered (pool : ClientPool) : Prop :=
  ∀ chain c, pool.clients.lookup chain = some c → c.label < pool.made

theorem IsNumbered.adopt (h : pool.IsNumbered) (chain : Int) (url : String) :
    (pool.adopt chain url).IsNumbered := by
  intro other c hc
  rw [lookup_adopt] at hc
  rw [made_adopt]
  split at hc
  · obtain rfl := Option.some.inj hc
    exact Nat.lt_succ_self _
  · exact Nat.lt_succ_of_lt (h other c hc)

theorem isNumbered_ofChains (entries : List (Int × String)) : (ofChains entries).IsNumbered := by
  suffices h : ∀ pool : ClientPool, pool.IsNumbered →
      (entries.foldl (fun pool entry => pool.adopt entry.1 entry.2) pool).IsNumbered from
    h {} fun _ _ hc => absurd hc (by simp)
  induction entries with
  | nil => exact fun _ hpool => hpool
  | cons entry entries ih => exact fun pool hpool => ih _ (hpool.adopt entry.1 entry.2)

end ClientPool

/-! ## 2.  A desk and clients -/

/-- A world in which the chains have clients, with everything else beside them. -/
structure Wired (ρ : Type) where
  pool : ClientPool
  rest : ρ

/-- What clients are made with, the nodes behind them, and who else works with the desk. -/
structure Surroundings (ν ρ : Type) where
  timeout : Int
  policy : RetryPolicy
  clock : Clock ρ
  node : Client → String → Act Empty ρ Value
  gate : Gate ν ρ
  sink : Option (ErrorSink ν ρ)

/-- Where a pool comes from: a list of chains and urls, or a setting that is read as one. -/
inductive PoolOrigin where
  | listed (entries : List (Int × String))
  | configured (raw : String) (urls : ChainUrls) (h : ChainUrls.parse raw = .ok urls)

namespace PoolOrigin

/-- The chains with their urls, as they are listed. -/
def entries : PoolOrigin → List (Int × String)
  | listed entries => entries
  | configured _ urls _ => urls

/-- The making of the pool. -/
def making (timeout : Int) : PoolOrigin → Act ClientNote ClientPool Unit
  | listed entries => .change fun _ => .ofChains entries
  | configured _ urls _ => ClientPool.configure timeout urls

/-- The pool. -/
def pool (timeout : Int) (origin : PoolOrigin) : ClientPool := (origin.making timeout {}).next

/-- Every pool is made, and has the clients of its list. -/
theorem making_eq (timeout : Int) (origin : PoolOrigin) :
    (origin.making timeout {}).result = .ok () ∧
      origin.pool timeout = .ofChains origin.entries := by
  cases origin with
  | listed entries => exact ⟨rfl, rfl⟩
  | configured raw urls h =>
    exact ClientPool.configure_of_isWritable timeout (ChainUrls.isWritable_of_parse h) {}

end PoolOrigin

namespace Wired

variable {ν ρ α : Type}

/-- An act on the rest of the world. -/
def beside (x : Act ν ρ α) : Act (ClientNote ⊕ ν) (Wired ρ) α :=
  (x.renote .inr).within rest fun rest w => { w with rest }

/-- An act on the clients. -/
def onPool (x : Act ClientNote ClientPool α) : Act (ClientNote ⊕ ν) (Wired ρ) α :=
  (x.renote .inl).within pool fun pool w => { w with pool }

/-- A gate in the rest of the world. -/
def gate (gate : Gate ν ρ) : Gate (ClientNote ⊕ ν) (Wired ρ) where
  canQueue a := beside (gate.canQueue a)
  canSign a := beside (gate.canSign a)
  insert tx terms a := beside (gate.insert tx terms a)

/-- A step: a chain's client is asked for or replaced, a chain is asked for a nonce, or a request is
dispatched. -/
inductive Step (ν ρ : Type) where
  | client (chain : Int)
  | reconnect (chain : Int)
  | pendingNonce (chain : Int) (account : Value)
  | dispatch (chain : Int) (request : Request) (send : SendCallback ν ρ)

/-- The chain that a step is about. -/
def Step.chain : Step ν ρ → Int
  | .client chain => chain
  | .reconnect chain => chain
  | .pendingNonce chain _ => chain
  | .dispatch chain _ _ => chain

/-- The step replaces a client. -/
def Step.isReconnect : Step ν ρ → Bool
  | .reconnect _ => true
  | _ => false

/-- A client that is made, with the timeout of its connection. -/
def connection? : Deed (ClientNote ⊕ ν) → Option (Client × Int)
  | .passes (.inl (.connects client timeout)) => some (client, timeout)
  | _ => none

/-- A query, with the client that is asked. -/
def query? : Deed (ClientNote ⊕ ν) → Option (Client × String)
  | .passes (.inl (.asks client account)) => some (client, account)
  | _ => none

/-- The clients that are made, with the timeouts of their connections. -/
def connections (notes : List (Deed (ClientNote ⊕ ν))) : List (Client × Int) :=
  notes.filterMap connection?

/-- The queries, with the clients that are asked. -/
def queries (notes : List (Deed (ClientNote ⊕ ν))) : List (Client × String) :=
  notes.filterMap query?

/-- What comes of a step. -/
abbrev Event (ν ρ : Type) := Outcome (Deed (ClientNote ⊕ ν)) (Desk (Wired ρ)) Reply

/-- What has been done, and what came of it. -/
abbrev History (ν ρ : Type) := List (Step ν ρ × Event ν ρ)

/-- The client that has been made by a replacement of the chain's client, returned or not. -/
def fresh? (chain : Int) : Step ν ρ × Event ν ρ → Option Client
  | (.reconnect c, o) => if c = chain then (connections o.notes).head?.map Prod.fst else none
  | _ => none

/-- The client that has been made by the most recent replacement. -/
def latest? (chain : Int) (past : History ν ρ) : Option Client :=
  past.reverse.findSome? (fresh? chain)

end Wired

namespace Surroundings

open Wired

variable {ν ρ : Type}

/-- The nonce source: the client of the chain. -/
def source (s : Surroundings ν ρ) : NonceSource (ClientNote ⊕ ν) (Wired ρ) := fun chain account w =>
  ((Chains.pendingNonce w.pool s.policy s.clock s.node chain account).renote .inl).within rest
    (fun rest w => { w with rest }) w

/-- A dispatch. -/
def dispatch (s : Surroundings ν ρ) (chain : Int) (request : Request) (send : SendCallback ν ρ) :
    Act (Deed (ClientNote ⊕ ν)) (Desk (Wired ρ)) Value :=
  Desk.dispatch (Wired.gate s.gate) s.source (s.sink.map fun tell e => beside (tell e)) chain request
    fun nonce => beside (send nonce)

/-- What is heard of a dispatch. -/
def talk (s : Surroundings ν ρ) (chain : Int) (request : Request) (send : SendCallback ν ρ)
    (d : Desk (Wired ρ)) : Talk :=
  Desk.dispatchTalk (Wired.gate s.gate) s.source (s.sink.map fun tell e => beside (tell e)) chain request
    (fun nonce => beside (send nonce)) d

/-- Takes a step. -/
def perform (s : Surroundings ν ρ) : Wired.Step ν ρ → Act (Deed (ClientNote ⊕ ν)) (Desk (Wired ρ)) Reply
  | .client chain => fun d => ⟨(d.world.pool.client chain).map .client, [], d⟩
  | .reconnect chain => .client <$> Desk.outside (onPool (ClientPool.reconnect s.timeout chain))
  | .pendingNonce chain account => .value <$> Desk.outside (s.source chain account)
  | .dispatch chain request send => .value <$> s.dispatch chain request send

/-- A desk with new clients. -/
def start (s : Surroundings ν ρ) (origin : PoolOrigin) (d : Desk ρ) : Desk (Wired ρ) where
  book := d.book
  counters := d.counters
  world := ⟨origin.pool s.timeout, d.world⟩

/-- Takes steps one after another: the history, and the desk after them. -/
def run (s : Surroundings ν ρ) : List (Wired.Step ν ρ) → Desk (Wired ρ) → History ν ρ × Desk (Wired ρ)
  | [], d => ([], d)
  | step :: steps, d =>
    let o := s.perform step d
    let r := s.run steps o.next
    ((step, o) :: r.1, r.2)

theorem run_singleton (s : Surroundings ν ρ) (step : Wired.Step ν ρ) (d : Desk (Wired ρ)) :
    (s.run [step] d).2 = (s.perform step d).next := rfl

theorem result_source (s : Surroundings ν ρ) (chain : Int) (account : Value) (w : Wired ρ) :
    (s.source chain account w).result =
      (Chains.pendingNonce w.pool s.policy s.clock s.node chain account w.rest).result := rfl

theorem notes_source (s : Surroundings ν ρ) (chain : Int) (account : Value) (w : Wired ρ) :
    (s.source chain account w).notes =
      (Chains.pendingNonce w.pool s.policy s.clock s.node chain account w.rest).notes.map .inl := rfl

end Surroundings

/-! ## 3.  Whom a step asks -/

/-- A note that makes no connection, and asks no client but one. -/
def ClientNote.AsksOnly (client? : Option Client) : ClientNote → Prop
  | .connects _ _ => False
  | .asks client _ => client? = some client
  | _ => True

namespace Chains

variable {ν σ α : Type} {inv : σ → Prop} {may : ν → Prop}

/-- Trying again does no more than trying once. -/
theorem confined_retry {pause : Act ν σ Unit} {x : Act ν σ α} (hpause : pause.Confined inv may)
    (hx : x.Confined inv may) (further : Nat) : (retry pause x further).Confined inv may := by
  induction further with
  | zero => exact hx
  | succ further ih => exact hx.rescue fun _ => hpause.bind fun _ => ih

/-- A pause asks nobody for anything. -/
theorem confined_wait (clock : Clock σ) (seconds : Binary64) (client? : Option Client) :
    (wait clock seconds).Confined (fun _ => True) (ClientNote.AsksOnly client?) :=
  (Act.confined_note (by exact trivial)).bind fun _ => Act.Confined.silent fun _ _ => trivial

/-- A query asks the client of its chain and no other, and makes no connection. -/
theorem confined_pendingNonce (pool : ClientPool) (policy : RetryPolicy) (clock : Clock σ)
    (ask : Client → String → Act Empty σ α) (chain : Int) (account : Value) :
    (pendingNonce pool policy clock ask chain account).Confined (fun _ => True)
      (ClientNote.AsksOnly (pool.clients.lookup chain)) := by
  cases hlookup : pool.clients.lookup chain with
  | none =>
    intro s _
    rw [pendingNonce_of_none hlookup policy clock ask account s]
    exact ⟨trivial, fun _ hn => absurd hn List.not_mem_nil⟩
  | some client =>
    have hclient : (Act.ofExcept (pool.client chain) : Act ClientNote σ Client) = pure client := by
      rw [ClientPool.client, hlookup]
      rfl
    rw [pendingNonce, hclient, pure_bind]
    refine (Act.confined_ofExcept _).bind fun a => ?_
    refine confined_retry (confined_wait clock policy.pause _) ?_ _
    exact (Act.confined_note (by rfl)).bind fun _ => Act.Confined.silent fun _ _ => trivial

end Chains

namespace Wired

variable {ν ρ α : Type} {pool : ClientPool} {client? : Option Client}

/-- A note of the clients makes no connection and asks no client but one; others may note anything. -/
def AsksOnly (client? : Option Client) : ClientNote ⊕ ν → Prop
  | .inl note => note.AsksOnly client?
  | .inr _ => True

/-- Who acts beside the clients leaves them as they are, and asks none of them. -/
theorem confined_beside (x : Act ν ρ α) :
    (beside x).Confined (fun w => w.pool = pool) (AsksOnly client?) := by
  intro w hw
  refine ⟨hw, fun n hn => ?_⟩
  obtain ⟨m, -, rfl⟩ := List.mem_map.mp hn
  trivial

/-- Lines of the log make no connection and ask no client. -/
theorem of_logs (lines : List LogLine) :
    connections (((lines.map ClientNote.logs).map .inl).map .passes :
      List (Deed (ClientNote ⊕ ν))) = [] ∧
      queries (((lines.map ClientNote.logs).map .inl).map .passes :
        List (Deed (ClientNote ⊕ ν))) = [] := by
  simp [connections, queries, List.filterMap_map, connection?, query?, Function.comp_def]

/-- Of notes that make no connection and ask no client but one. -/
theorem of_passesOnly {notes : List (Deed (ClientNote ⊕ ν))}
    (h : ∀ deed ∈ notes, deed.PassesOnly (AsksOnly client?)) :
    connections notes = [] ∧ ∀ query ∈ queries notes, client? = some query.1 := by
  constructor
  · refine List.filterMap_eq_nil_iff.mpr fun deed hdeed => ?_
    unfold connection?
    split
    · exact absurd (h _ hdeed) id
    · rfl
  · intro query hquery
    obtain ⟨deed, hdeed, hsome⟩ := List.mem_filterMap.mp hquery
    unfold query? at hsome
    split at hsome
    · obtain rfl := Option.some.inj hsome
      exact h _ hdeed
    · exact absurd hsome (by simp)

end Wired

namespace Surroundings

open Wired

variable {ν ρ : Type} {s : Surroundings ν ρ} {pool : ClientPool} {chain : Int} {d : Desk (Wired ρ)}

theorem confined_source (s : Surroundings ν ρ) (pool : ClientPool) (chain : Int) (account : Value) :
    (s.source chain account).Confined (fun w => w.pool = pool)
      (AsksOnly (pool.clients.lookup chain)) := by
  rintro w rfl
  refine ⟨rfl, fun n hn => ?_⟩
  obtain ⟨note, hnote, rfl⟩ := List.mem_map.mp hn
  exact (Chains.confined_pendingNonce w.pool s.policy s.clock s.node chain account w.rest trivial).2
    note hnote

/-- A chain without a client has no nonces. -/
theorem source_of_none {w : Wired ρ} (h : w.pool.clients.lookup chain = none) (s : Surroundings ν ρ)
    (account : Value) :
    s.source chain account w = ⟨.error (ClientPool.notConfigured chain), [], w⟩ := by
  have hquery := Chains.pendingNonce_of_none h s.policy s.clock s.node account w.rest
  rw [source, Act.within, Act.renote, hquery]
  rfl

theorem allConfined (s : Surroundings ν ρ) (pool : ClientPool) (chain : Int)
    (send : SendCallback ν ρ) :
    Desk.AllConfined (fun w : Wired ρ => w.pool = pool) (AsksOnly (pool.clients.lookup chain))
      (Wired.gate s.gate) s.source (s.sink.map fun tell e => beside (tell e)) chain
      fun nonce => beside (send nonce) where
  room _ := confined_beside _
  signer _ := confined_beside _
  insert _ _ _ := confined_beside _
  source account := s.confined_source pool chain account
  sink := by
    intro tell htell e
    obtain ⟨tell, -, rfl⟩ := Option.map_eq_some_iff.mp htell
    exact confined_beside _
  send _ := confined_beside _

/-- **A step that replaces no client makes no connection, asks no client but that of its chain, and
leaves the clients as they are.** -/
theorem confined_perform (s : Surroundings ν ρ) (pool : ClientPool) {step : Wired.Step ν ρ}
    (hstep : step.isReconnect = false) :
    Desk.Confined (fun w => w.pool = pool) (AsksOnly (pool.clients.lookup step.chain))
      (s.perform step) := by
  cases step with
  | client chain => exact fun _ hd => ⟨hd, fun _ hn => absurd hn List.not_mem_nil⟩
  | reconnect chain => exact absurd hstep (by simp [Wired.Step.isReconnect])
  | pendingNonce chain account =>
    exact (Desk.confined_outside (s.confined_source pool chain account)).map _
  | dispatch chain request send =>
    exact (Desk.confined_dispatch (s.allConfined pool chain send) request).map _

/-! ## 4.  What single steps do -/

/-- Replacing a client does to the clients in the world what it does to clients. -/
theorem perform_reconnect_eq (s : Surroundings ν ρ) (chain : Int) (d : Desk (Wired ρ))
    {o : Outcome ClientNote ClientPool Client}
    (h : ClientPool.reconnect s.timeout chain d.world.pool = o) :
    s.perform (.reconnect chain) d =
      ⟨o.result.map .client, (o.notes.map .inl).map .passes,
        { d with world := { d.world with pool := o.next } }⟩ := by
  subst h
  rw [perform, Act.map_eq]
  rfl

theorem perform_client_of_some {c : Client} (h : d.world.pool.clients.lookup chain = some c)
    (s : Surroundings ν ρ) : s.perform (.client chain) d = ⟨.ok (.client c), [], d⟩ := by
  have hclient : d.world.pool.client chain = .ok c := by rw [ClientPool.client, h]
  simp only [perform, hclient]
  rfl

/-- What is left out may as well not stand between the others. -/
theorem filterMap_intersperse {α β : Type} {f : α → Option β} {sep : α} (h : f sep = none)
    (l : List α) : (l.intersperse sep).filterMap f = l.filterMap f := by
  induction l with
  | nil => rfl
  | cons x xs ih =>
    cases xs with
    | nil => rfl
    | cons y ys =>
      rw [List.intersperse_cons_cons, List.filterMap_cons, List.filterMap_cons_none h, ih,
        ← List.filterMap_cons]

/-- **The client of a chain is asked**, so often as the policy allows at most, about the account that the
value names. -/
theorem queries_pendingNonce {c : Client} {a : Address} {account : Value}
    (h : d.world.pool.clients.lookup chain = some c) (haccount : Address.coerce account = .ok a)
    (s : Surroundings ν ρ) :
    ∃ tries, 0 < tries ∧ tries ≤ (max 1 s.policy.attempts).toNat ∧
      queries (s.perform (.pendingNonce chain account) d).notes = List.replicate tries (c, a.text) := by
  obtain ⟨last, hquery⟩ := Chains.pendingNonce_isQuery h haccount s.policy s.clock s.node d.world.rest
  have hnotes : (s.perform (.pendingNonce chain account) d).notes =
      (s.source chain account d.world).notes.map .passes := by
    rw [perform, Act.map_eq]
    rfl
  refine ⟨last + 1, Nat.succ_pos last, hquery.within, ?_⟩
  have hcalls : (Chains.callsAndPauses c a.text s.policy.pause (last + 1)).filterMap
      (query? ∘ Deed.passes ∘ .inl (β := ν)) = List.replicate (last + 1) (c, a.text) := by
    rw [Chains.callsAndPauses, filterMap_intersperse rfl]
    exact List.filterMap_replicate_of_some rfl
  rw [hnotes, queries, notes_source, List.map_map, List.filterMap_map]
  rcases hquery.ended with hanswered | hbroken
  · rw [hanswered.notes, hcalls]
  · rw [hbroken.notes, List.filterMap_append, hcalls]
    exact List.append_nil _

/-- A step on a chain without a client is a fault at once. -/
theorem perform_of_none (h : d.world.pool.clients.lookup chain = none) (s : Surroundings ν ρ) :
    s.perform (.client chain) d = ⟨.error (ClientPool.notConfigured chain), [], d⟩ ∧
      s.perform (.reconnect chain) d = ⟨.error (ClientPool.notConfigured chain), [], d⟩ ∧
      ∀ account,
        s.perform (.pendingNonce chain account) d =
          ⟨.error (ClientPool.notConfigured chain), [], d⟩ := by
  have hclient : d.world.pool.client chain = .error (ClientPool.notConfigured chain) := by
    rw [ClientPool.client, h]
  refine ⟨?_, ?_, fun account => ?_⟩
  · simp only [perform, hclient]
    rfl
  · rw [s.perform_reconnect_eq chain d (ClientPool.reconnect_of_none h)]
    rfl
  · rw [perform, Act.map_eq]
    have hsource : s.source chain account d.world =
        ⟨.error (ClientPool.notConfigured chain), [], d.world⟩ := s.source_of_none h account
    simp only [Desk.outside, Act.within, Act.renote, hsource]
    rfl

/-- A call of a network on a chain without a client is answered with the fault of such a chain. -/
def IsUnlisted (chain : Int) : Call → Prop
  | .nonce _ _ answer => answer = .error (ClientPool.notConfigured chain)
  | _ => True

/-- All that is heard of a network on a chain without a client is the fault of such a chain. -/
theorem nonce_mem_talk_of_none (h : d.world.pool.clients.lookup chain = none) (s : Surroundings ν ρ)
    (request : Request) (send : SendCallback ν ρ) :
    ∀ account answer, Call.nonce chain account answer ∈ (s.talk chain request send d).calls →
      answer = .error (ClientPool.notConfigured chain) := by
  have hother : ∀ call : Call, (∀ c account answer, call ≠ .nonce c account answer) →
      IsUnlisted chain call := fun call hcall => by
    cases call with
    | nonce c account answer => exact absurd rfl (hcall c account answer)
    | _ => trivial
  have hheard := (s.allConfined d.world.pool chain send).heard hother fun account w hw => by
    have hw' : w.pool.clients.lookup chain = none := by rw [hw, h]
    show (s.source chain account w).result = _
    rw [s.source_of_none hw']
  intro account answer hcall
  obtain ⟨deed, hdeed, hsome⟩ := List.mem_filterMap.mp hcall
  have hnotes : deed ∈ _ := (List.mem_filter.mp hdeed).1
  have hpasses := (Desk.confined_dispatch hheard request d rfl).2 deed hnotes
  unfold Deed.call? at hsome
  split at hsome
  · obtain rfl := Option.some.inj hsome
    exact hpasses
  · exact absurd hsome (by simp)

/-- **A dispatch on a chain without a client fails if it needs the network**, with the fault of such a
chain as the cause, and otherwise asks nobody for a nonce. -/
theorem dispatch_of_none (h : d.world.pool.clients.lookup chain = none) (s : Surroundings ν ρ)
    (request : Request) (send : SendCallback ν ρ) :
    (Desk.NeedsNetwork (Wired.gate s.gate) request d (s.talk chain request send d) →
        ∃ text, (ClientPool.notConfigured chain).askText = .ok text ∧
          (s.perform (.dispatch chain request send) d).result =
            .error (.wrap .nonceLookup s!"could not get nonce: {text}"
              (ClientPool.notConfigured chain))) ∧
      (¬ Desk.NeedsNetwork (Wired.gate s.gate) request d (s.talk chain request send d) →
        ∀ c account answer, Call.nonce c account answer ∉ (s.talk chain request send d).calls) := by
  obtain ⟨hneeds, hasks⟩ :=
    Desk.dispatch_of_unanswered (ClientPool.isInterrupt_notConfigured chain)
      (s.nonce_mem_talk_of_none h request send)
  refine ⟨fun hneeded => ?_, hasks⟩
  obtain ⟨text, htext⟩ := ClientPool.exists_askText_notConfigured chain
  refine ⟨text, htext, ?_⟩
  rw [perform, Act.map_eq]
  have hresult := hneeds hneeded
  rw [Desk.notLookedUp, htext, Fault.forming_ok] at hresult
  simp only [dispatch, hresult]
  rfl

/-! ## 5.  What is so after every history -/

/-- A client that there has been: one of the first, or one that has been made by a replacement. -/
def HasBeen (start : ClientPool) (past : History ν ρ) (c : Client) : Prop :=
  ∃ chain, start.clients.lookup chain = some c ∨ ∃ entry ∈ past, fresh? chain entry = some c

/-- What a replacement of the client of a chain is. -/
structure Reconnects (s : Surroundings ν ρ) (start : ClientPool) (past : History ν ρ) (d : Desk (Wired ρ))
    (chain : Int) (old fresh : Client) : Prop where
  /-- The fresh client is where the old one was. -/
  endpoint : fresh.endpoint = old.endpoint
  /-- It is none of those that there have been. -/
  new : ∀ c, HasBeen start past c → c.label ≠ fresh.label
  /-- It is returned, unless the number of the chain has too many digits for the log. -/
  result : (s.perform (.reconnect chain) d).result =
    if Literal.isWritable chain then .ok (.client fresh) else .error .tooManyDigits
  /-- It is the only one that is made, with the timeout of the settings, and no client is asked. -/
  connections : connections (s.perform (.reconnect chain) d).notes = [(fresh, s.timeout)]
  queries : queries (s.perform (.reconnect chain) d).notes = []
  /-- The fresh client is that of the chain, and the clients of other chains are what they were. -/
  here : (s.perform (.reconnect chain) d).next.world.pool.clients.lookup chain = some fresh
  others : ∀ other, other ≠ chain →
    (s.perform (.reconnect chain) d).next.world.pool.clients.lookup other =
      d.world.pool.clients.lookup other

/-- What a step on a chain without a client is. -/
structure Unlisted (s : Surroundings ν ρ) (d : Desk (Wired ρ)) (chain : Int) : Prop where
  /-- The fault of such a chain says what it is, if the number of the chain can be written. -/
  fault : if Literal.isWritable chain then
      (ClientPool.notConfigured chain).kind = .own .chainNotConfigured
    else ClientPool.notConfigured chain = .tooManyDigits
  /-- To ask for the client, to replace it or to ask it for a nonce is that fault. -/
  client : s.perform (.client chain) d = ⟨.error (ClientPool.notConfigured chain), [], d⟩
  reconnect : s.perform (.reconnect chain) d = ⟨.error (ClientPool.notConfigured chain), [], d⟩
  pendingNonce : ∀ account, s.perform (.pendingNonce chain account) d =
    ⟨.error (ClientPool.notConfigured chain), [], d⟩
  /-- A dispatch that needs the network fails, and that fault is the cause of its own. -/
  needed : ∀ request send,
    Desk.NeedsNetwork (Wired.gate s.gate) request d (s.talk chain request send d) →
      ∃ text, (ClientPool.notConfigured chain).askText = .ok text ∧
        (s.perform (.dispatch chain request send) d).result =
          .error (.wrap .nonceLookup s!"could not get nonce: {text}" (ClientPool.notConfigured chain))
  /-- A dispatch that does not need the network asks nobody for a nonce. -/
  unneeded : ∀ request send,
    ¬ Desk.NeedsNetwork (Wired.gate s.gate) request d (s.talk chain request send d) →
      ∀ c account answer, Call.nonce c account answer ∉ (s.talk chain request send d).calls
  /-- No client is asked, and no connection is made. -/
  silent : ∀ step : Wired.Step ν ρ, step.chain = chain →
    connections (s.perform step d).notes = [] ∧ queries (s.perform step d).notes = []

/-- What is so at a desk after a history, if the clients have been made from a list. -/
structure KeepsEndpoints (s : Surroundings ν ρ) (entries : List (Int × String)) (start : ClientPool)
    (past : History ν ρ) (d : Desk (Wired ρ)) : Prop where
  /-- The chains that have clients are those of the list, and each is at the url that it was last
  given. -/
  table : d.world.pool.endpoints = ChainUrls.tableOf entries
  endpoint : ∀ chain,
    (d.world.pool.clients.lookup chain).map Client.endpoint = entries.reverse.lookup chain
  /-- The client of a chain is the one made by the most recent replacement, and the first if there has
  been none. -/
  current : ∀ chain, d.world.pool.clients.lookup chain =
    (latest? chain past).or (start.clients.lookup chain)
  /-- It is what one gets who asks for it. -/
  client : ∀ chain c, d.world.pool.clients.lookup chain = some c →
    s.perform (.client chain) d = ⟨.ok (.client c), [], d⟩
  /-- It is what is asked for a pending nonce. -/
  asked : ∀ chain c account a, d.world.pool.clients.lookup chain = some c →
    Address.coerce account = .ok a →
      ∃ tries, 0 < tries ∧ tries ≤ (max 1 s.policy.attempts).toNat ∧
        queries (s.perform (.pendingNonce chain account) d).notes = List.replicate tries (c, a.text)
  /-- A replacement is one connection, and a fresh client at the same endpoint. -/
  reconnect : ∀ chain old, d.world.pool.clients.lookup chain = some old →
    ∃ fresh, s.Reconnects start past d chain old fresh
  /-- A step that is no replacement leaves the clients as they are, makes no connection, and asks no
  client but that of its chain. -/
  still : ∀ step : Wired.Step ν ρ, step.isReconnect = false →
    (s.perform step d).next.world.pool = d.world.pool ∧ connections (s.perform step d).notes = [] ∧
      ∀ query ∈ queries (s.perform step d).notes,
        d.world.pool.clients.lookup step.chain = some query.1
  /-- On a chain that is not in the list there is nothing to be had. -/
  unlisted : ∀ chain, d.world.pool.clients.lookup chain = none → s.Unlisted d chain

/-- **A replacement of a client that there is.** -/
theorem reconnects {start : ClientPool} {past : History ν ρ} {old : Client}
    (hnew : ∀ c, HasBeen start past c → c.label < d.world.pool.made)
    (h : d.world.pool.clients.lookup chain = some old) (s : Surroundings ν ρ) :
    s.Reconnects start past d chain old ⟨d.world.pool.made, old.endpoint⟩ := by
  obtain ⟨lines, hreconnect⟩ := ClientPool.reconnect_of_lookup s.timeout h
  have hperform := s.perform_reconnect_eq chain d hreconnect
  obtain ⟨hconnections, hqueries⟩ := of_logs (ν := ν) lines
  exact
    { endpoint := rfl
      new := fun c hc => Nat.ne_of_lt (hnew c hc)
      result := by
        rw [hperform]
        split <;> rfl
      connections := by
        rw [hperform]
        exact congrArg (_ :: ·) hconnections
      queries := by rw [hperform]; exact hqueries
      here := by rw [hperform, ClientPool.lookup_adopt, if_pos rfl]
      others := fun other hother => by rw [hperform, ClientPool.lookup_adopt, if_neg hother] }

theorem still (s : Surroundings ν ρ) (d : Desk (Wired ρ)) {step : Wired.Step ν ρ}
    (hstep : step.isReconnect = false) :
    (s.perform step d).next.world.pool = d.world.pool ∧ connections (s.perform step d).notes = [] ∧
      ∀ query ∈ queries (s.perform step d).notes,
        d.world.pool.clients.lookup step.chain = some query.1 := by
  obtain ⟨hpool, hnotes⟩ := s.confined_perform d.world.pool hstep d rfl
  exact ⟨hpool, of_passesOnly hnotes⟩

theorem unlisted (s : Surroundings ν ρ) (h : d.world.pool.clients.lookup chain = none) :
    s.Unlisted d chain := by
  obtain ⟨hclient, hreconnect, hpendingNonce⟩ := perform_of_none h s
  refine ⟨ClientPool.notConfigured_spec chain, hclient, hreconnect, hpendingNonce, fun request send => (dispatch_of_none h s request send).1,
    fun request send => (dispatch_of_none h s request send).2, ?_⟩
  intro step hchain
  cases hstep : step.isReconnect with
  | false =>
    obtain ⟨-, hconnections, hqueries⟩ := s.still d hstep
    rw [hchain] at hqueries
    refine ⟨hconnections, List.eq_nil_iff_forall_not_mem.mpr fun query hquery => ?_⟩
    exact absurd (h.symm.trans (hqueries query hquery)) (by simp)
  | true =>
    cases step with
    | reconnect c =>
      obtain rfl : c = chain := hchain
      have hnothing : (s.perform (.reconnect c) d).notes = [] := by rw [hreconnect]
      rw [hnothing]
      exact ⟨rfl, rfl⟩
    | _ => exact absurd hstep (by simp [Wired.Step.isReconnect])

/-! ## 6.  Every history -/

/-- What each step preserves: the table, whose client is whose, and that all clients that there have
been have numbers of their own. -/
structure Follows (entries : List (Int × String)) (start : ClientPool) (past : History ν ρ)
    (pool : ClientPool) : Prop where
  table : pool.endpoints = ChainUrls.tableOf entries
  current : ∀ chain, pool.clients.lookup chain =
    (latest? chain past).or (start.clients.lookup chain)
  numbered : ∀ c, HasBeen start past c → c.label < pool.made

variable {entries : List (Int × String)} {start : ClientPool} {past : History ν ρ}

theorem follows_nil (entries : List (Int × String)) :
    Follows entries (.ofChains entries) ([] : History ν ρ) (.ofChains entries) where
  table := ClientPool.endpoints_ofChains entries
  current _ := rfl
  numbered := by
    rintro c ⟨chain, hc | ⟨entry, hentry, -⟩⟩
    · exact ClientPool.isNumbered_ofChains entries chain c hc
    · exact absurd hentry List.not_mem_nil

theorem latest?_concat (chain : Int) (past : History ν ρ) (entry : Wired.Step ν ρ × Event ν ρ) :
    latest? chain (past ++ [entry]) = (fresh? chain entry).or (latest? chain past) := by
  rw [latest?, List.reverse_append, List.reverse_singleton, List.singleton_append, List.findSome?_cons]
  cases fresh? chain entry <;> rfl

/-- Only a replacement makes a client. -/
theorem fresh?_eq_none {step : Wired.Step ν ρ} (hstep : step.isReconnect = false) (chain : Int)
    (o : Event ν ρ) : fresh? chain (step, o) = none := by
  cases step with
  | reconnect c => exact absurd hstep (by simp [Wired.Step.isReconnect])
  | _ => rfl

/-- Nothing has changed if no client has been made. -/
theorem Follows.concat_of_none {pool : ClientPool} {entry : Wired.Step ν ρ × Event ν ρ}
    (h : Follows entries start past pool) (hentry : ∀ chain, fresh? chain entry = none) :
    Follows entries start (past ++ [entry]) pool where
  table := h.table
  current chain := by rw [latest?_concat, hentry, Option.none_or, h.current]
  numbered := by
    rintro c ⟨chain, hc | ⟨other, hother, hc⟩⟩
    · exact h.numbered c ⟨chain, .inl hc⟩
    · rcases List.mem_append.mp hother with hother | hother
      · exact h.numbered c ⟨chain, .inr ⟨other, hother, hc⟩⟩
      · rw [List.mem_singleton.mp hother, hentry] at hc
        exact absurd hc (by simp)

/-- The fresh client takes the place of the old one. -/
theorem Follows.concat_of_some {pool : ClientPool} {old : Client} {o : Event ν ρ} {timeout : Int}
    (h : Follows entries start past pool) (hold : pool.clients.lookup chain = some old)
    (ho : connections o.notes = [(⟨pool.made, old.endpoint⟩, timeout)]) :
    Follows entries start (past ++ [(.reconnect chain, o)]) (pool.adopt chain old.endpoint) := by
  have hfresh : ∀ other, fresh? other (.reconnect chain, o) =
      if chain = other then some ⟨pool.made, old.endpoint⟩ else none := fun other => by
    rw [fresh?, ho]
    rfl
  constructor
  case table => exact (ClientPool.endpoints_adopt_of_lookup hold).trans h.table
  case current =>
    intro other
    rw [latest?_concat, ClientPool.lookup_adopt, hfresh]
    by_cases hother : other = chain
    · rw [if_pos hother, if_pos hother.symm, Option.some_or, Option.some_or]
    · rw [if_neg hother, if_neg (Ne.symm hother), Option.none_or, h.current]
  case numbered =>
    rw [ClientPool.made_adopt]
    rintro c ⟨other, hc | ⟨entry, hentry, hc⟩⟩
    · exact Nat.lt_succ_of_lt (h.numbered c ⟨other, .inl hc⟩)
    · rcases List.mem_append.mp hentry with hentry | hentry
      · exact Nat.lt_succ_of_lt (h.numbered c ⟨other, .inr ⟨entry, hentry, hc⟩⟩)
      · rw [List.mem_singleton.mp hentry, hfresh] at hc
        split at hc
        · obtain rfl := Option.some.inj hc
          exact Nat.lt_succ_self _
        · exact absurd hc (by simp)

/-- **Every step keeps track of the clients.** -/
theorem Follows.perform (h : Follows entries start past d.world.pool) (s : Surroundings ν ρ)
    (step : Wired.Step ν ρ) :
    Follows entries start (past ++ [(step, s.perform step d)])
      (s.perform step d).next.world.pool := by
  cases hstep : step.isReconnect with
  | false =>
    rw [(s.still d hstep).1]
    exact h.concat_of_none fun chain => fresh?_eq_none hstep chain _
  | true =>
    cases step with
    | reconnect chain =>
      cases hlookup : d.world.pool.clients.lookup chain with
      | none =>
        rw [(perform_of_none hlookup s).2.1]
        refine h.concat_of_none fun other => ?_
        rw [fresh?]
        split <;> rfl
      | some old =>
        obtain ⟨lines, hreconnect⟩ := ClientPool.reconnect_of_lookup s.timeout hlookup
        have hconnections := (reconnects h.numbered hlookup s).connections
        have hnext : (s.perform (.reconnect chain) d).next.world.pool =
            d.world.pool.adopt chain old.endpoint := by
          rw [s.perform_reconnect_eq chain d hreconnect]
        rw [hnext]
        exact h.concat_of_some hlookup hconnections
    | _ => exact absurd hstep (by simp [Wired.Step.isReconnect])

theorem Follows.run (s : Surroundings ν ρ) (steps : List (Wired.Step ν ρ))
    (h : Follows entries start past d.world.pool) :
    Follows entries start (past ++ (s.run steps d).1) (s.run steps d).2.world.pool := by
  induction steps generalizing past d with
  | nil =>
    rw [Surroundings.run, List.append_nil]
    exact h
  | cons step steps ih =>
    have hrest := ih (h.perform s step)
    rw [List.append_assoc] at hrest
    exact hrest

/-- What follows a history keeps the endpoints. -/
theorem Follows.keepsEndpoints (h : Follows entries start past d.world.pool) (s : Surroundings ν ρ) :
    s.KeepsEndpoints entries start past d where
  table := h.table
  endpoint chain := by
    rw [← ClientPool.lookup_endpoints, h.table, ← ChainUrls.putAll_eq_tableOf,
      Association.lookup_putAll, List.lookup_nil, Option.or_none]
  current := h.current
  client _ _ hc := perform_client_of_some hc s
  asked _ _ _ _ hc haccount := queries_pendingNonce hc haccount s
  reconnect _ _ hold := ⟨_, reconnects h.numbered hold s⟩
  still _ hstep := s.still d hstep
  unlisted _ hnone := s.unlisted hnone

/-- **Endpoints survive reconnects.**  Whatever list or setting the clients are made from, and whatever
has been done with them at a desk, the chains have the clients and the endpoints that they should
have, and every further step does with them what it should. -/
theorem keepsEndpoints_run (s : Surroundings ν ρ) (origin : PoolOrigin) (d : Desk ρ)
    (steps : List (Wired.Step ν ρ)) :
    s.KeepsEndpoints origin.entries (origin.pool s.timeout) (s.run steps (s.start origin d)).1
      (s.run steps (s.start origin d)).2 := by
  have hstart : Follows origin.entries (origin.pool s.timeout) ([] : History ν ρ)
      (s.start origin d).world.pool := by
    show Follows origin.entries (origin.pool s.timeout) _ (origin.pool s.timeout)
    rw [(origin.making_eq s.timeout).2]
    exact follows_nil origin.entries
  exact (hstart.run s steps).keepsEndpoints s

end Surroundings

/-! ## 7.  A chain that does without a client -/

namespace OffTheList

/-- The nodes all answer five, and everyone is let in. -/
def surroundings : Surroundings Empty Unit where
  timeout := 10
  policy := ⟨3, .ofInt 2⟩
  clock := .patient
  node _ _ := pure (.int 5)
  gate := TwoChains.gate
  sink := none

/-- A desk with a client for the first chain. -/
def start : Desk (Wired Unit) := surroundings.start (.listed [(1, "http://a")]) TwoChains.desk

/-- A callback that takes every nonce. -/
def send : SendCallback Empty Unit := fun _ => pure .null

/-- The account that sends. -/
def sender : Address := .uniform 1

/-- A request that has a first nonce goes out with it, on whatever chain, and leaves its successor in the
book. -/
theorem sent_of_firstNonce {chain i : Int} {d d₁ : Desk (Wired Unit)} {t : Talk}
    (hchain : Literal.isWritable chain = true)
    (hfirst : Desk.Goes (Desk.firstNonce surroundings.source.heard chain sender.key) d (.ok (.int i)) t
      d₁) :
    (surroundings.perform (.dispatch chain TwoChains.request send) d).result = .ok (.value .null) ∧
      (surroundings.perform (.dispatch chain TwoChains.request send) d).next.book =
        d₁.book.put sender.key (.whole (i + 1)) := by
  let gate : Gate (ClientNote ⊕ Empty) (Wired Unit) := Wired.gate surroundings.gate
  let sink : Option (ErrorSink (ClientNote ⊕ Empty) (Wired Unit)) := none
  let submit : SendCallback (ClientNote ⊕ Empty) (Wired Unit) := fun nonce => Wired.beside (send nonce)
  have haccept : TwoChains.request.accept = .ok (sender, ⟨.int 2, .int 100, .int 60, .int 5⟩) := rfl
  have hadmitting : Desk.Goes (Desk.admitting gate.heard TwoChains.request sender) d (.ok ()) _ d :=
    ⟨rfl, rfl, rfl⟩
  have hsubmit : (submit (.int i) d₁.world).result = .ok .null := rfl
  have hsettle := Desk.Goes.settle_sent chain sender.key hfirst
    (Desk.submissions_goes_ok chain sender.key surroundings.source hsubmit)
  have hregister : ∀ d₂ : Desk (Wired Unit),
      Desk.Goes (Desk.register gate.heard (sink.map ErrorSink.heard) .null
        ⟨.int 2, .int 100, .int 60, .int 5⟩ sender) d₂ (.ok ()) _ _ :=
    fun _ => Desk.register_goes_ok rfl
  have hline : ∃ text, Desk.sentLine sender chain = .ok text := by
    rwa [Desk.exists_sentLine_iff, Value.isWritable_int]
  have hdispatch := Desk.Goes.dispatch_sent haccept hadmitting hsettle hline (hregister _)
  obtain ⟨hresult, hnext, -⟩ := hdispatch.of_agree
    (Desk.agree_dispatch surroundings.source submit gate sink chain TwoChains.request)
  have hperform : surroundings.perform (.dispatch chain TwoChains.request send) d =
      (Reply.value <$> Desk.dispatch gate surroundings.source sink chain TwoChains.request submit) d :=
    rfl
  rw [hperform, Act.map_eq]
  refine ⟨?_, ?_⟩
  · simp only [hresult]
    rfl
  · simp only [hnext]
    rfl

theorem coerce_sender : Address.coerce sender.key.value = .ok sender := by
  rw [Address.key, Key.value_ofText]
  exact Address.coerce_of_spelled? (by simp [Address.text])

/-- The first chain answers five. -/
theorem source_start : (surroundings.source 1 sender.key.value start.world).result = .ok (.int 5) := by
  have hlookup : start.world.pool.clients.lookup 1 = some ⟨0, "http://a"⟩ := rfl
  obtain ⟨last, hquery⟩ := Chains.pendingNonce_isQuery hlookup coerce_sender surroundings.policy
    surroundings.clock surroundings.node start.world.rest
  rw [Surroundings.result_source]
  rcases hquery.ended with hanswered | hbroken
  · rw [hanswered.result]
    rfl
  · obtain ⟨e, hpaused, -⟩ := hbroken.result
    exact absurd hpaused (by simp [Chains.paused, surroundings, Clock.patient])

/-- The log can be told of the nonces five and six of the account. -/
theorem exists_givenLine : ∃ text, Desk.givenLine sender.key 1 (.int 5) = .ok text :=
  (Desk.exists_givenLine_iff sender.key 1 (.int 5)).mpr ⟨by simp [Address.key], rfl, rfl⟩

theorem exists_usedLine :
    ∃ text, Desk.usedLine sender.key (.ofNumeral (.whole 6)) = .ok text :=
  (Desk.exists_usedLine_iff sender.key (.ofNumeral (.whole 6))).mpr ⟨rfl, by simp [Address.key]⟩

/-- **A dispatch on a chain without a client need not fail.**  After a request on the first chain has
used the nonce five, the same request on the second chain goes out with six, although the second chain
has no client. -/
theorem not_always_raised :
    ¬ ∀ (steps : List (Wired.Step Empty Unit)) (chain : Int) (request : Request)
        (send : SendCallback Empty Unit),
      (surroundings.run steps start).2.world.pool.clients.lookup chain = none →
        ∃ e, (surroundings.perform (.dispatch chain request send)
            (surroundings.run steps start).2).result = .error e ∧
          e.Wraps .nonceLookup (ClientPool.notConfigured chain) := by
  intro h
  have hempty : start.book.get? sender.key = none := NonceBook.get?_empty sender.key
  -- The first request asks the client, and leaves a nonce for its account.
  obtain ⟨-, hbook⟩ := sent_of_firstNonce rfl
    (Desk.firstNonce_goes_ok 1 sender.key hempty source_start exists_givenLine)
  have hpool := (surroundings.still start
    (show Wired.Step.isReconnect (.dispatch 1 TwoChains.request send) = false from rfl)).1
  have hnone : start.world.pool.clients.lookup 2 = none := rfl
  have hafter := h [.dispatch 1 TwoChains.request send] 2 TwoChains.request send
  rw [Surroundings.run_singleton, hpool] at hafter
  obtain ⟨e, hraised, -⟩ := hafter hnone
  -- The second one does with it.
  have hcached : (surroundings.perform (.dispatch 1 TwoChains.request send) start).next.book.get?
      sender.key = some (.whole 6) := by
    rw [hbook, Address.key, NonceBook.get?_put, if_pos rfl]
    rfl
  obtain ⟨hsent, -⟩ := sent_of_firstNonce rfl
    (Desk.firstNonce_goes_cached 2 sender.key surroundings.source hcached exists_usedLine)
  rw [hsent] at hraised
  cases hraised

end OffTheList
end Outbox
