import Outbox.Act
import Outbox.Counters.Basic
import Outbox.Journal.Basic
import Outbox.NonceBook
import Outbox.NonceClash
import Outbox.Request

/-!
# The desk and those it works with

Requests are handled at a desk.  On it lie the book of nonces and the counters; all else
--- the gate, the network, the callbacks --- is out in the world, and the desk only knows
what it may ask of them.

## Collaborators

A gate answers whether there is room for a sender and a signer, and registers what has
been sent.  A nonce source answers with the pending nonce of an account on a chain.  A
send callback submits a transaction with a given nonce.  A sink hears of faults that do
not end a request.  Each of them is an act on the world, so it may change the world, take
notes of its own, and fail, and nothing more is assumed.

In particular a source may answer with anything.  The sources that answer with whole numbers,
as they should, are those of the form `NonceSource.whole answer`.

## What the desk notes

The notes of the desk are its deeds: every question it asks and every order it gives, at
the moment it does so, with the nonce that the book has for the sender at that moment where
a gate is concerned.  Notes of collaborators are passed on among them, under a constructor
of their own, so that no collaborator can pass a note of its own for a deed of the desk.

A line of the log is a deed like the others, and like the others it may fail: a line that would
show a number of too many digits is not written, and what was to be done after it is not done.
-/

namespace Outbox

/-- What the desk may ask of a gate. -/
structure Gate (ν σ : Type) where
  /-- There is room for another transaction of the sender. -/
  canQueue : Address → Act ν σ Bool
  /-- Raised prices can be signed for the sender. -/
  canSign : Address → Act ν σ Bool
  /-- Registers a transaction that has been sent. -/
  insert : Value → Terms → Address → Act ν σ Unit

/-- Answers with the pending nonce of an account on a chain. -/
abbrev NonceSource (ν σ : Type) := Int → Value → Act ν σ Value

/-- The source that answers with whole numbers. -/
def NonceSource.whole {ν σ : Type} (answer : Int → Value → Act ν σ Int) : NonceSource ν σ :=
  fun chain account => .int <$> answer chain account

/-- Submits a transaction with the given nonce. -/
abbrev SendCallback (ν σ : Type) := Value → Act ν σ Value

/-- Hears of a fault that does not end a request. -/
abbrev ErrorSink (ν σ : Type) := Fault → Act ν σ Unit

/-- What the desk notes. -/
inductive Deed (ν : Type) where
  /-- Asks the gate for room. -/
  | asksRoom (sender : Address) (cached : Option Numeral)
  /-- Asks the gate for a signer. -/
  | asksSigner (sender : Address) (cached : Option Numeral)
  /-- Registers a transaction with the gate. -/
  | registers (tx : Value) (terms : Terms) (sender : Address) (cached : Option Numeral)
  /-- Asks the nonce source. -/
  | asksNonce (chain : Int) (account : Value)
  /-- Calls the send callback. -/
  | sends (nonce : Value)
  /-- Tells the sink of a fault. -/
  | reports (fault : Fault)
  /-- Writes a line of the log. -/
  | logs (line : LogLine)
  /-- Passes on the note of a collaborator. -/
  | passes (note : ν)

/-- The key under which the book keeps an account. -/
abbrev Address.key (a : Address) : Key := .ofText a.text

/-- The book, the counters, and the world around them. -/
structure Desk (σ : Type) where
  book : NonceBook := .empty
  counters : Counters := .empty
  world : σ

namespace Desk

variable {ν σ α : Type}

/-- What a collaborator does, seen from the desk. -/
def outside (x : Act ν σ α) : Act (Deed ν) (Desk σ) α :=
  (x.renote .passes).within Desk.world fun world desk => { desk with world }

/-- Counts something. -/
def count (event : Counted) : Act (Deed ν) (Desk σ) Unit :=
  .change fun desk => { desk with counters := desk.counters.add event }

/-- Writes a line of the log, if it can be written. -/
def log (level : LogLevel) (channel : Channel) (message : Except Fault String) :
    Act (Deed ν) (Desk σ) Unit := do
  Act.note (.logs ⟨level, channel, ← Act.ofExcept message⟩)

/-- The nonce that the book has for an account. -/
def cached (account : Key) : Act (Deed ν) (Desk σ) (Option Numeral) :=
  fun desk => ⟨.ok (desk.book.get? account), [], desk⟩

@[simp] theorem result_outside (x : Act ν σ α) (desk : Desk σ) :
    (outside x desk).result = (x desk.world).result := rfl

@[simp] theorem notes_outside (x : Act ν σ α) (desk : Desk σ) :
    (outside x desk).notes = (x desk.world).notes.map .passes := rfl

@[simp] theorem next_outside (x : Act ν σ α) (desk : Desk σ) :
    (outside x desk).next = { desk with world := (x desk.world).next } := rfl

@[simp] theorem count_eq (event : Counted) (desk : Desk σ) :
    (count event : Act (Deed ν) (Desk σ) Unit) desk =
      ⟨.ok (), [], { desk with counters := desk.counters.add event }⟩ := rfl

@[simp] theorem log_ok (level : LogLevel) (channel : Channel) (message : String) :
    (log level channel (.ok message) : Act (Deed ν) (Desk σ) Unit) =
      Act.note (.logs ⟨level, channel, message⟩) := rfl

@[simp] theorem log_error (level : LogLevel) (channel : Channel) (e : Fault) :
    (log level channel (.error e) : Act (Deed ν) (Desk σ) Unit) = Act.fail e := rfl

@[simp] theorem cached_eq (account : Key) (desk : Desk σ) :
    (cached account : Act (Deed ν) (Desk σ) (Option Numeral)) desk =
      ⟨.ok (desk.book.get? account), [], desk⟩ := rfl

/-- The nonce that the book has for an account, in any of its spellings. -/
def nonceFor (account : Value) (desk : Desk σ) : Except RequestError (Option Numeral) :=
  match Address.accept account with
  | .ok a => .ok (desk.book.get? a.key)
  | .error e => .error (.sender e)

end Desk
end Outbox
