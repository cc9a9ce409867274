import Outbox.Settle

/-!
# Dispatching a request

A request is dispatched in four steps.  It is checked; the gate is asked to let it in,
unless the request is forced; its transaction is settled; and the gate is told of it.

## What ends a request and what does not

A fault of the first three steps is the fault of the request, and nothing has been sent
--- or what was sent has been refused.  The fourth step is different.  The transaction is
out, and a caller who is told otherwise will send it again, so a failed registration is
counted, logged and reported to the sink, and the request returns its transaction.

Three things still end the request when the transaction is out: the line of the log about it
cannot be written, the fault of the registration has no text to be reported, and the sink fails.

## Counting

Every request is counted once under the way it ended: under the name of its fault, or as
sent.  A fault that the gate itself brought up while it was asked is no verdict on the
request and is counted under a name of its own.  An order to stop is not counted.
-/

namespace Outbox

/-- The outcome under which a request is counted that has been sent. -/
def sentOutcome : String := "sent"

/-- The outcome under which a request is counted if the gate failed to answer. -/
def queryFailedOutcome : String := "admission_query_failed"

/-- The outcome under which a fault of the admission is counted. -/
def admissionOutcome (e : Fault) : String := if e.isOwn then e.name else queryFailedOutcome

namespace Desk

variable {ν σ α : Type}

/-- Counts the fault of an act, under a name made from it. -/
def counting (outcome : Fault → String) (x : Act (Deed ν) (Desk σ) α) :
    Act (Deed ν) (Desk σ) α :=
  Act.rescue x fun e => do
    count (.dispatch (outcome e))
    .fail e

/-- Asks the gate for room, and refuses the sender if there is none. -/
def needRoom (gate : Gate ν σ) (sender : Address) : Act (Deed ν) (Desk σ) Unit := do
  Act.note (.asksRoom sender (← cached sender.key))
  if ← outside (gate.canQueue sender) then return () else .fail (.withDefault .queueFull)

/-- Asks the gate for a signer, and refuses the sender if there is none. -/
def needSigner (gate : Gate ν σ) (sender : Address) : Act (Deed ν) (Desk σ) Unit := do
  Act.note (.asksSigner sender (← cached sender.key))
  if ← outside (gate.canSign sender) then return () else .fail (.withDefault .noSigners)

/-- Asks the gate to let in a transaction of the sender: for room, and if there is room for
a signer. -/
def askAdmission (gate : Gate ν σ) (sender : Address) : Act (Deed ν) (Desk σ) Unit := do
  needRoom gate sender
  needSigner gate sender

/-- Reports a fault that does not end a request. -/
def report (sink : Option (ErrorSink ν σ)) (e : Fault) : Act (Deed ν) (Desk σ) Unit := do
  count .sinkError
  log .warning .dispatch e.askText
  match sink with
  | none => return ()
  | some tell =>
    Act.note (.reports e)
    outside (tell e)

/-- A transaction was sent and not registered. -/
def notRegistered (e : Fault) : Except Fault Fault := do
  let text ← e.askText
  return .wrap .dispatch s!"failed to insert initial entry for gas price incrementor: {text}" e

/-- Tells the gate of a transaction that has been sent. -/
def register (gate : Gate ν σ) (sink : Option (ErrorSink ν σ)) (tx : Value) (terms : Terms)
    (sender : Address) : Act (Deed ν) (Desk σ) Unit :=
  Act.rescue
    (do
      Act.note (.registers tx terms sender (← cached sender.key))
      outside (gate.insert tx terms sender))
    fun e => do report sink (← Act.ofExcept (notRegistered e))

/-- Checks a request. -/
def checked (request : Request) : Act (Deed ν) (Desk σ) (Address × Terms) :=
  .ofExcept (request.accept.mapError RequestError.fault)

/-- What the log says of a transaction that has been sent. -/
def sentLine (sender : Address) (chain : Int) : Except Fault String := do
  let chain ← (Value.int chain).message
  return s!"Dispatched transaction for {sender} on chain {chain}"

/-- What is left to do when the transaction of a request has been sent. -/
def conclude (gate : Gate ν σ) (sink : Option (ErrorSink ν σ)) (chain : Int) (sender : Address)
    (terms : Terms) (tx : Value) : Act (Deed ν) (Desk σ) Value := do
  count (.dispatch sentOutcome)
  log .info .dispatch (sentLine sender chain)
  register gate sink tx terms sender
  return tx

/-- Sends the transaction of a request and registers it; returns the transaction. -/
def dispatch (gate : Gate ν σ) (source : NonceSource ν σ) (sink : Option (ErrorSink ν σ))
    (chain : Int) (request : Request) (send : SendCallback ν σ) :
    Act (Deed ν) (Desk σ) Value := do
  let (sender, terms) ← counting Fault.name (checked request)
  counting admissionOutcome (if request.isForced then return () else askAdmission gate sender)
  let tx ← counting Fault.name (settle source chain sender.key send)
  conclude gate sink chain sender terms tx

/-! ## Lines of the log -/

theorem exists_sentLine_iff (sender : Address) (chain : Int) :
    (∃ text, sentLine sender chain = .ok text) ↔ (Value.int chain).isWritable = true := by
  simp [sentLine, Value.exists_message_bind_iff, pure, Except.pure]

theorem eq_tooManyDigits_of_sentLine {sender : Address} {chain : Int} {e : Fault}
    (h : sentLine sender chain = .error e) : e = .tooManyDigits :=
  Value.eq_tooManyDigits_of_message_bind h fun chain h => absurd h (by simp [pure, Except.pure])

theorem isWritable_of_sentLine_error {sender : Address} {chain : Int} {e : Fault}
    (h : sentLine sender chain = .error e) : Literal.isWritable chain = false := by
  rw [← Bool.not_eq_true, ← Value.isWritable_int, ← exists_sentLine_iff sender, h]
  simp

/-- What the report of a failed registration says is the text of the fault, and its cause is the
fault. -/
theorem notRegistered_of_askText {e : Fault} {text : String} (h : e.askText = .ok text) :
    notRegistered e = .ok
      (.wrap .dispatch s!"failed to insert initial entry for gas price incrementor: {text}" e) := by
  rw [notRegistered, h]
  rfl

theorem notRegistered_of_askText_error {e f : Fault} (h : e.askText = .error f) :
    notRegistered e = .error f := by
  rw [notRegistered, h]
  rfl

/-- A report is a fault of the library, with a text, and its cause is the fault of the gate. -/
theorem eq_wrap_of_notRegistered {e report : Fault} (h : notRegistered e = .ok report) :
    ∃ text, report = .wrap .dispatch text e := by
  cases htext : e.askText with
  | error f => simp [notRegistered_of_askText_error htext] at h
  | ok text =>
    rw [notRegistered_of_askText htext] at h
    exact ⟨_, (Except.ok.inj h).symm⟩

/-- A report that cannot be made fails as asking for the text does. -/
theorem askText_of_notRegistered_error {e f : Fault} (h : notRegistered e = .error f) :
    e.askText = .error f := by
  cases htext : e.askText with
  | error f' =>
    rw [notRegistered_of_askText_error htext] at h
    rw [Except.error.inj h]
  | ok text =>
    rw [notRegistered_of_askText htext] at h
    exact absurd h (by simp)

end Desk
end Outbox
