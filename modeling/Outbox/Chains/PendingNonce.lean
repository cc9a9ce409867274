import Outbox.Address.Coercion
import Outbox.Chains.Client
import Outbox.Number.Word

/-!
# Asking a chain for a pending nonce

Nodes are not always there, so a query for a nonce that fails is tried again, a fixed
number of times and with a fixed pause in between.  An order to stop is not a failure and
ends the query at once.

All tries go to the client that the chain had when the query began.  Which account is
asked about is settled before the first try, and a chain without a client or a value that
names no account is a fault without any try.

## The clock

A pause is for a clock to make, and the clock may refuse it: nobody can wait for less than no
time, nor for longer than the clock can count.  Nothing looks at the pause before, so the
refusal comes after the first try that fails, and it is the end of the query.  `Clock.machine`
is the clock of a machine, which counts nanoseconds in a word.
-/

namespace Outbox

/-- How often a query is tried, and the pause between two tries. -/
structure RetryPolicy where
  attempts : Int
  pause : Binary64

/-- How many tries may follow the first.  There is always a first one. -/
def RetryPolicy.further (policy : RetryPolicy) : Nat := (policy.attempts - 1).toNat

/-- The fault of a value that names no account. -/
def AccountError.fault (e : AccountError) : Fault :=
  match e with
  | .unsupported _ | .absent => .forming e.message .badType
  | _ => .forming e.message .badValue

/-- Lets some seconds pass, unless it refuses to. -/
abbrev Clock (σ : Type) := Binary64 → Act Empty σ Unit

namespace Clock

open Number

variable {σ : Type}

/-- The clock that lets any time pass. -/
def patient : Clock σ := fun _ => return ()

/-- The fault of a pause for which the clock has too few nanoseconds. -/
def tooLong : Fault := .foreign "OverflowError" "timestamp out of range for platform time_t"

/-- Why a machine refuses to wait for so many nanoseconds, the next whole number away from nought
counting for a fraction. -/
def nanosecondsRefusal? (nanoseconds : Binary64) : Option Fault :=
  match nanoseconds.ratio? with
  | none => some tooLong
  | some (num, den) =>
    let amount : Int := (num.natAbs + den - 1) / den
    match Word.ofInt? (if num < 0 then -amount else amount) with
    | none => some tooLong
    | some _ => if num < 0 then some (.badValue "sleep length must be non-negative") else none

/-- Why a machine refuses a pause. -/
def refusal? : Binary64 → Option Fault
  | .nan .. => some (.badValue "Invalid value NaN (not a number)")
  | .infinite _ => some tooLong
  | .finite negative m q _ =>
    nanosecondsRefusal? (.ofRatio negative (m * powerAbove 2 q * 1000000000) (powerBelow 2 q))

/-- The clock of a machine. -/
def machine : Clock σ := fun seconds =>
  match refusal? seconds with
  | none => return ()
  | some e => .fail e

end Clock

namespace Chains

variable {ν σ α : Type}

/-- Tries an act until it succeeds, with so many further tries and a pause before each. -/
def retry (pause : Act ν σ Unit) (x : Act ν σ α) : Nat → Act ν σ α
  | 0 => x
  | further + 1 => x.rescue fun _ => do
    pause
    retry pause x further

/-- Has the clock let some seconds pass. -/
def wait (clock : Clock σ) (seconds : Binary64) : Act ClientNote σ Unit := do
  Act.note (.pauses seconds)
  (clock seconds).silent

/-- Asks the client of a chain for the pending nonce of an account. -/
def pendingNonce (pool : ClientPool) (policy : RetryPolicy) (clock : Clock σ)
    (ask : Client → String → Act Empty σ α) (chain : Int) (account : Value) :
    Act ClientNote σ α := do
  let client ← Act.ofExcept (pool.client chain)
  let a ← Act.ofExcept ((Address.coerce account).mapError AccountError.fault)
  retry (wait clock policy.pause)
    (do
      Act.note (.asks client a.text)
      (ask client a.text).silent)
    policy.further

@[simp] theorem retry_zero (pause : Act ν σ Unit) (x : Act ν σ α) : retry pause x 0 = x := rfl

theorem retry_succ (pause : Act ν σ Unit) (x : Act ν σ α) (further : Nat) :
    retry pause x (further + 1) =
      x.rescue fun _ => pause >>= fun _ => retry pause x further := rfl

end Chains
end Outbox
