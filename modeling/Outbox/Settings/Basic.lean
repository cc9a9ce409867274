import Outbox.Gwei
import Outbox.Settings.ChainUrls
import Outbox.Terms
import Outbox.Text.Case

/-!
# Settings

Everything that can be set is set by variables of the environment, and everything but the
chains has a default.  The settings are read once, in a fixed order, and the first
variable that cannot be read decides the complaint.

A variable that is not set has its default.  One that is set to the empty text is set, and
for a number that is a fault.
-/

namespace Outbox

/-- The variables of the environment that are set. -/
abbrev Environment := List (String × String)

/-- Why settings cannot be read. -/
inductive SettingsError where
  | chainUrls (e : ChainUrlError)
  | literal (e : LiteralError)
  /-- Variables that have to be set are not. -/
  | missing (names : List String)
  deriving DecidableEq

namespace SettingsError

/-- The complaint about settings. -/
def message : SettingsError → String
  | .chainUrls e => e.message
  | .literal e => e.message
  | .missing names => "Missing required environment variables: " ++ ", ".intercalate names

/-- The fault of settings that cannot be read. -/
def fault (e : SettingsError) : Fault := .badValue e.message

end SettingsError

/-- The settings of a process. -/
structure Settings where
  chainUrls : ChainUrls
  /-- How many seconds a node may take to answer. -/
  rpcTimeout : Int
  /-- How often a nonce query is tried. -/
  nonceAttempts : Int
  /-- How many seconds lie between two tries. -/
  nonceWait : Binary64
  /-- The most transactions that may wait for one sender. -/
  queueCapacity : Int
  gasBumpFactor : Binary64
  maxGasPriceGwei : Binary64
  /-- How many seconds a transaction may take before its price rises. -/
  txTimeout : Int
  /-- How many seconds lie between two looks for a transaction. -/
  txCheckInterval : Int
  /-- The word for the level of the log. -/
  logLevel : String

namespace Settings

/-- The names of the variables. -/
def chainUrlsName : String := "CHAIN_RPC_URLS"

/-- The value of a variable. -/
def setting? (env : Environment) (name : String) : Option String := env.lookup name

/-- A variable read as a whole number. -/
def integer (env : Environment) (name : String) (default : Int) : Except SettingsError Int :=
  match setting? env name with
  | none => .ok default
  | some given => (Literal.readInteger given).mapError .literal

/-- A variable read as a number. -/
def real (env : Environment) (name : String) (default : Binary64) : Except SettingsError Binary64 :=
  match setting? env name with
  | none => .ok default
  | some given => (Literal.readReal given).mapError .literal

/-- Chain urls that are given as a value, which has to be a text. -/
def urlsOf : Value → Except Fault ChainUrls
  | .text s => (ChainUrls.parse s).mapError fun e => SettingsError.fault (.chainUrls e)
  | .bytes _ => .error (.badType "a bytes-like object is required, not 'str'")
  | v => .error (.noAttribute v.typeName "split")

/-- The variable of the chain urls. -/
def urls (env : Environment) : Except SettingsError ChainUrls :=
  (ChainUrls.parse ((setting? env chainUrlsName).getD "")).mapError .chainUrls

/-- A text in upper case. -/
def inUpperCase (s : String) : String := String.ofList (Text.upper s.toList)

/-- Reads the settings. -/
def load (env : Environment) : Except SettingsError Settings := do
  let chainUrls ← urls env
  let rpcTimeout ← integer env "RPC_TIMEOUT_SEC" 10
  let nonceAttempts ← integer env "NONCE_RPC_ATTEMPTS" 3
  let nonceWait ← real env "NONCE_RPC_WAIT_SEC" (.ofInt 2)
  let queueCapacity ← integer env "QUEUE_CAPACITY_PER_SENDER" 16
  let gasBumpFactor ← real env "GAS_BUMP_FACTOR" (.ofDecimal false 12 (-1))
  let maxGasPriceGwei ← real env "MAX_GAS_PRICE_GWEI" (.ofInt 500)
  let txTimeout ← integer env "TX_TIMEOUT_SEC" 120
  let txCheckInterval ← integer env "TX_CHECK_INTERVAL_SEC" 30
  let logLevel := inUpperCase ((setting? env "LOG_LEVEL").getD "INFO")
  return { chainUrls, rpcTimeout, nonceAttempts, nonceWait, queueCapacity, gasBumpFactor,
           maxGasPriceGwei, txTimeout, txCheckInterval, logLevel }

/-- The variables that have to be set to something. -/
def required : List String := [chainUrlsName]

/-- The variables that have to be set to something and are not. -/
def missing (env : Environment) : List String :=
  required.filter fun name => ((setting? env name).getD "").isEmpty

/-- Every variable that has to be set is set. -/
def checkRequired (env : Environment) : Except SettingsError Unit :=
  if (missing env).isEmpty then .ok () else .error (.missing (missing env))

/-- The terms of escalation that the settings give. -/
def terms (s : Settings) : Except Gwei.Error Terms := do
  let cap ← Gwei.toWei s.maxGasPriceGwei
  return { priceMultiplier := .real s.gasBumpFactor, maxPrice := .int cap,
           increaseInterval := .int s.txTimeout, checkInterval := .int s.txCheckInterval }

end Settings
end Outbox
