import Outbox.Act
import Outbox.Association
import Outbox.Gwei
import Outbox.Journal.Basic
import Outbox.Key

/-!
# Broadcasting a transaction

A transaction is described by fields, of which the caller gives some.  To broadcast it with
a nonce is to fill in the others, to have it signed, and to hand the signed bytes to a node.

## What may describe a transaction

The fields are a dictionary, or anything that a dictionary can be made of: a row of pairs, of
which the first is a key and the second what is kept under it.  A pair is itself any row of two
things.  Of two pairs with one key the later one counts, in the place of the earlier.

## Which fields are filled in

The sender, the nonce and the chain are always written, over whatever the caller gave.  A
price is found only if the caller gave neither of the two kinds of price, and an amount of
gas only if the caller gave none: the node estimates it, looking at the fields as they are
by then.

## The price and its cap

The node says what a transaction costs, and the settings say what it may cost at most.
Above the cap, the cap is paid and the log says so.  The log line shows the node's price in
gwei, so a price that has no counterpart in gwei is a fault of the broadcast.

Faults of the node are passed on as they are, because whoever called has to recognise them.
-/

namespace Outbox

/-- The fields of a transaction. -/
abbrev Fields := List (String × Value)

/-- A signed transaction. -/
structure Signed where
  raw : List UInt8
  hash : List UInt8

/-- What a node is asked. -/
structure Node (σ : Type) where
  gasPrice : Act Empty σ Value
  estimateGas : Fields → Act Empty σ Value
  sendRaw : List UInt8 → Act Empty σ Unit

/-- The account that signs. -/
structure Signer (σ : Type) where
  address : String
  sign : Fields → Act Empty σ Signed

/-- What is noted of a broadcast. -/
inductive BroadcastNote where
  /-- The node is asked for its price. -/
  | asksPrice
  /-- The node is asked for an estimate. -/
  | estimates (fields : Fields)
  /-- The account is asked to sign. -/
  | signs (fields : Fields)
  /-- Signed bytes are handed to the node. -/
  | sends (raw : List UInt8)
  /-- A line of the log is written. -/
  | logs (line : LogLine)

namespace Broadcast

variable {σ : Type}

/-- The entries with those that a row of pairs gives, the first pair being the `n`th. -/
def addPairs (n : Nat) (entries : List (Key × Value)) :
    List Value → Except Fault (List (Key × Value))
  | [] => .ok entries
  | pair :: pairs =>
    match pair.items? with
    | none =>
      .error (.badType s!"cannot convert dictionary update sequence element #{n} to a sequence")
    | some [k, v] => do
      let key ← Key.ofValue k
      addPairs (n + 1) (Key.put key v entries) pairs
    | some items =>
      .error (.badValue
        s!"dictionary update sequence element #{n} has length {items.length}; 2 is required")

/-- The fields that a row of pairs gives. -/
def fieldsOfPairs (pairs : List Value) : Except Fault Fields := do
  let entries ← addPairs 0 [] pairs
  return entries.map fun (key, v) => (key.fieldName, v)

/-- Fields that a caller gives. -/
def fieldsOf : Value → Except Fault Fields
  | .dict entries => .ok entries
  | v =>
    match v.items? with
    | some pairs => fieldsOfPairs pairs
    | none => .error (.badType s!"'{v.typeName}' object is not iterable")

/-- What becomes of the price that the node asks: it is paid, or the cap if it is above that. -/
def capped (cap : Binary64) (asked : Value) : Act BroadcastNote σ Value := do
  let limit ← Act.ofExcept ((Gwei.toWei cap).mapError Gwei.Error.fault)
  match asked.numeral? with
  | none => .fail (.badType s!"'>' not supported between instances of '{asked.typeName}' and 'int'")
  | some wei =>
    if Numeral.lt (.whole limit) wei then
      let gwei ← Act.ofExcept ((Gwei.fromWei wei).mapError Gwei.Error.fault)
      Act.note (.logs ⟨.warning, .broadcast, s!"Gas price {gwei} gwei above cap, using {cap} gwei"⟩)
      return .int limit
    else return asked

/-- The price to pay: the node's, or the cap if the node's is above it. -/
def price (node : Node σ) (cap : Binary64) : Act BroadcastNote σ Value := do
  Act.note .asksPrice
  let asked ← node.gasPrice.silent
  capped cap asked

/-- The fields with the sender, the nonce and the chain written. -/
def identified (address : String) (nonce : Value) (chain : Int) (fields : Fields) : Fields :=
  Association.put "chainId" (.int chain)
    (Association.put "nonce" nonce (Association.put "from" (.text address) fields))

/-- The caller gave a price of either kind. -/
def hasPrice (fields : Fields) : Bool :=
  Association.has "gasPrice" fields || Association.has "maxFeePerGas" fields

/-- The fields with a price. -/
def withPrice (node : Node σ) (cap : Binary64) (fields : Fields) : Act BroadcastNote σ Fields :=
  if hasPrice fields then return fields
  else do return Association.put "gasPrice" (← price node cap) fields

/-- The fields with an amount of gas. -/
def withGas (node : Node σ) (fields : Fields) : Act BroadcastNote σ Fields :=
  if Association.has "gas" fields then return fields
  else do
    Act.note (.estimates fields)
    return Association.put "gas" (← (node.estimateGas fields).silent) fields

/-- The price that the fields hold. -/
def heldPrice (fields : Fields) : Value :=
  ((fields.lookup "gasPrice").or (fields.lookup "maxFeePerGas")).getD .null

/-- The text of a hash. -/
def hashText (hash : List UInt8) : String := String.ofList ('0' :: 'x' :: Text.bytesHex hash)

/-- What the log says of a transaction that has been handed to the node. -/
def sentLine (hash address : String) (nonce : Value) : Except Fault String := do
  let nonce ← nonce.message
  return s!"Sent tx {hash} from {address} with nonce {nonce}"

/-- Has the complete fields signed, and hands what is signed to the node. -/
def deliver (node : Node σ) (signer : Signer σ) (chain : Int) (nonce : Value) (fields : Fields) :
    Act BroadcastNote σ Value := do
  Act.note (.signs fields)
  let signed ← (signer.sign fields).silent
  Act.note (.sends signed.raw)
  (node.sendRaw signed.raw).silent
  let hash := hashText signed.hash
  let line ← Act.ofExcept (sentLine hash signer.address nonce)
  Act.note (.logs ⟨.info, .broadcast, line⟩)
  return .sent (.text hash) nonce (.text signer.address) (.int chain) (heldPrice fields)
    (.bytes signed.raw)

/-- Fills in the fields of a transaction, has it signed, and hands it to the node. -/
def send (node : Node σ) (signer : Signer σ) (chain : Int) (cap : Binary64) (params : Value)
    (nonce : Value) : Act BroadcastNote σ Value := do
  let given ← Act.ofExcept (fieldsOf params)
  let priced ← withPrice node cap (identified signer.address nonce chain given)
  let fields ← withGas node priced
  deliver node signer chain nonce fields

end Broadcast
end Outbox
