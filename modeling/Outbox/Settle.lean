import Outbox.Desk

/-!
# Sending with the next nonce

To settle a transaction is to submit it with the nonce that comes next for its account
and to write down the one after it.  The nonce is the book's, if the book has one, and
the network's otherwise.  What the network gives is submitted as it is; if it was no number,
there is no nonce after it, and the fault is that of the addition.

## One second chance

The book may be wrong, because other processes send from the same account, and the network
says so by refusing the nonce.  Then, and only then, the network is asked and the
transaction is submitted a second time with its answer.  There is no third time: a second
refusal, whatever it says, is final.  A fault that has no text cannot be asked whether the nonce
was the reason, and the fault of asking it is final too.

The log is told of every nonce before it is used.  A nonce that cannot be written is not used, for
the fault of writing it comes first.

## When the book changes

The book is written once, at the end, when a submission has returned with a nonce that has a
next one.  Every other way out is a fault, and faults leave the book as it was.

The faults say which step failed and carry what had failed there as their cause.  An order
to stop carries nothing and is passed on from any step, because every step that handles a
fault does so by `Act.rescue`.
-/

namespace Outbox

/-- Why the network is asked for a nonce. -/
inductive LookupReason where
  /-- The book has none. -/
  | cacheMiss
  /-- The one used was refused. -/
  | nonceError
  deriving DecidableEq

/-- The label under which a lookup is counted. -/
def LookupReason.label : LookupReason → String
  | .cacheMiss => "cache_miss"
  | .nonceError => "nonce_error"

namespace Desk

variable {ν σ : Type}

/-- What the log says of a nonce that the network has given. -/
def givenLine (account : Key) (chain : Int) (nonce : Value) : Except Fault String := do
  let account ← account.message
  let chain ← (Value.int chain).message
  let nonce ← nonce.message
  return s!"Pending nonce for {account} on chain {chain} is {nonce}"

/-- What the log says of a nonce that the book has. -/
def usedLine (account : Key) (nonce : Value) : Except Fault String := do
  let nonce ← nonce.message
  let account ← account.message
  return s!"Using cached nonce {nonce} for {account}"

/-- What the log says of a nonce that has been refused. -/
def refusedLine (account : Key) (refused : Value) (refusal : Fault) : Except Fault String := do
  let refused ← refused.message
  let account ← account.message
  let text ← refusal.askText
  return s!"Nonce {refused} rejected for {account} ({text}), re-syncing"

/-- There is no nonce because the network failed to give one. -/
def notLookedUp (e : Fault) : Fault :=
  .forming e.askText fun text => .wrap .nonceLookup s!"could not get nonce: {text}" e

/-- A transaction was not sent because its first submission failed. -/
def notSent (e : Fault) : Fault :=
  .forming e.askText fun text => .wrap .send s!"handler failed to send transaction: {text}" e

/-- A transaction was not sent because its second submission failed. -/
def notRecovered (e : Fault) : Fault :=
  .forming e.askText fun text =>
    .wrap .nonceRecovery s!"handler recovered nonce but still failed to send transaction: {text}" e

/-- Asks the network for the pending nonce of an account. -/
def lookup (source : NonceSource ν σ) (chain : Int) (account : Key) (reason : LookupReason) :
    Act (Deed ν) (Desk σ) Value := do
  count (.nonceLookup reason.label)
  let nonce ← Act.rescue
    (do
      Act.note (.asksNonce chain account.value)
      outside (source chain account.value))
    fun e => .fail (notLookedUp e)
  log .debug .nonces (givenLine account chain nonce)
  return nonce

/-- The nonce to try first: the book's, or else the network's. -/
def firstNonce (source : NonceSource ν σ) (chain : Int) (account : Key) :
    Act (Deed ν) (Desk σ) Value := do
  match ← cached account with
  | some n =>
    let nonce := Value.ofNumeral n
    log .debug .nonces (usedLine account nonce)
    return nonce
  | none => lookup source chain account .cacheMiss

/-- Submits the transaction; returns the nonce with it. -/
def submit (send : SendCallback ν σ) (nonce : Value) : Act (Deed ν) (Desk σ) (Value × Value) := do
  Act.note (.sends nonce)
  let tx ← outside (send nonce)
  return (nonce, tx)

/-- The nonce to try after one has been refused: the network's. -/
def secondNonce (source : NonceSource ν σ) (chain : Int) (account : Key) (refused : Value)
    (refusal : Fault) : Act (Deed ν) (Desk σ) Value := do
  log .warning .nonces (refusedLine account refused refusal)
  count .nonceRetry
  lookup source chain account .nonceError

/-- The second chance after a refused nonce. -/
def resync (source : NonceSource ν σ) (chain : Int) (account : Key) (send : SendCallback ν σ)
    (refused : Value) (refusal : Fault) : Act (Deed ν) (Desk σ) (Value × Value) := do
  let nonce ← secondNonce source chain account refused refusal
  Act.rescue (submit send nonce) fun e => .fail (notRecovered e)

/-- What follows the fault of a first submission: the second chance if the nonce was the reason,
and the end otherwise. -/
def afterRefusal (source : NonceSource ν σ) (chain : Int) (account : Key)
    (send : SendCallback ν σ) (nonce : Value) (e : Fault) : Act (Deed ν) (Desk σ) (Value × Value) :=
  match e.askClash with
  | .ok true => resync source chain account send nonce e
  | .ok false => .fail (notSent e)
  | .error f => .fail f

/-- Writes down the nonce that comes next for an account. -/
def writeNext (account : Key) (next : Numeral) : Act (Deed ν) (Desk σ) Unit :=
  .change fun desk => { desk with book := desk.book.put account next }

/-- Writes down that a nonce of an account has been used. -/
def markUsed (account : Key) (nonce : Value) : Act (Deed ν) (Desk σ) Unit := do
  writeNext account (← Act.ofExcept (Nonce.next nonce))

/-- Submits a transaction with the next nonce of an account and writes down the one after
it. -/
def settle (source : NonceSource ν σ) (chain : Int) (account : Key)
    (send : SendCallback ν σ) : Act (Deed ν) (Desk σ) Value := do
  let first ← firstNonce source chain account
  let (nonce, tx) ← Act.rescue (submit send first) (afterRefusal source chain account send first)
  markUsed account nonce
  return tx

/-! ## Lines of the log -/

/-- A line about a nonce that the network has given can be written if all that it shows can be. -/
theorem exists_givenLine_iff (account : Key) (chain : Int) (nonce : Value) :
    (∃ text, givenLine account chain nonce = .ok text) ↔
      account.value.isWritable = true ∧ (Value.int chain).isWritable = true ∧
        nonce.isWritable = true := by
  simp [givenLine, Key.message, Value.exists_message_bind_iff, pure, Except.pure]

theorem exists_usedLine_iff (account : Key) (nonce : Value) :
    (∃ text, usedLine account nonce = .ok text) ↔
      nonce.isWritable = true ∧ account.value.isWritable = true := by
  simp [usedLine, Key.message, Value.exists_message_bind_iff, pure, Except.pure]

/-- A line about a refused nonce can be written if the nonce and the account could be before, and if
the refusal has a text. -/
theorem exists_refusedLine {account : Key} {refused : Value} {refusal : Fault}
    (hrefused : refused.isWritable = true) (haccount : account.value.isWritable = true)
    (htext : ∃ text, refusal.askText = .ok text) :
    ∃ text, refusedLine account refused refusal = .ok text := by
  obtain ⟨text, htext⟩ := htext
  simp only [refusedLine, Key.message, Value.message_bind, hrefused, haccount, if_true, htext]
  exact ⟨_, rfl⟩

theorem eq_tooManyDigits_of_givenLine {account : Key} {chain : Int} {nonce : Value} {e : Fault}
    (h : givenLine account chain nonce = .error e) : e = .tooManyDigits := by
  refine Value.eq_tooManyDigits_of_message_bind h fun account h => ?_
  refine Value.eq_tooManyDigits_of_message_bind h fun chain h => ?_
  exact Value.eq_tooManyDigits_of_message_bind h fun nonce h =>
    absurd h (by simp [pure, Except.pure])

theorem eq_tooManyDigits_of_usedLine {account : Key} {nonce : Value} {e : Fault}
    (h : usedLine account nonce = .error e) : e = .tooManyDigits := by
  refine Value.eq_tooManyDigits_of_message_bind h fun nonce h => ?_
  exact Value.eq_tooManyDigits_of_message_bind h fun account h =>
    absurd h (by simp [pure, Except.pure])

/-- A whole nonce that has been used is followed by the one after it. -/
@[simp] theorem markUsed_int (account : Key) (i : Int) :
    (markUsed account (.int i) : Act (Deed ν) (Desk σ) Unit) = writeNext account (.whole (i + 1)) :=
  rfl

end Desk
end Outbox
