import Outbox.Value.Text

/-!
# Faults

A fault is what ends a piece of work: one of the library's own kinds, or one that came
out of a gate, a node or a callback and is passed on as it is.  Callers decide by its
kind whether to try again, so the kinds form a small tree (`Family`), and a caller who
handles `send` also handles `nonceRecovery`.

## Kinds from outside

A gate, a node or a callback may have kinds of its own, and of such a kind only the name is
known and what it counts as (`Nature`): a failure like any other, one of the library's kinds,
or an order to stop.  The keyboard interrupt and the request to exit are orders to stop, and
there may be others.  They carry arguments and a text like any other fault, and their text may
even read like a node's complaint, but nothing in the library handles, wraps, counts or repeats
them.  That is why `isInterrupt` looks at the kind alone.

## Text

A fault carries arguments, and its text is made from them: no argument, no text; one
argument, the argument itself; several, all of them in round brackets.  The fault of a
missing key shows its argument in quotes, and a few kinds from outside make a text of their
own, which is then part of the fault (`Speech`).

There may be no text at all, because it would be about a thing that is not there, or because a
number among the arguments has too many digits to be written.  To ask for the text is then a
fault itself (`askText`), and it is that fault which goes on, in the place of the one that was
to be spoken of.  Whoever makes a fault or a line of the log out of a value or of another fault
asks for its text first (`Value.message`, `Fault.forming`).
-/

namespace Outbox

/-- The library's own kinds of fault. -/
inductive Family where
  /-- Any fault of the library. -/
  | dispatch
  /-- The options of a request were not accepted. -/
  | invalidOptions
  /-- The queue has no room for the sender. -/
  | queueFull
  /-- Nobody can sign raised prices for the sender. -/
  | noSigners
  /-- The pending nonce could not be fetched. -/
  | nonceLookup
  /-- The send callback failed. -/
  | send
  /-- The send callback failed again after the nonce had been fetched anew. -/
  | nonceRecovery
  /-- The chain has no client. -/
  | chainNotConfigured
  deriving DecidableEq, Repr

namespace Family

/-- The name by which a kind is reported and counted. -/
def name : Family → String
  | .dispatch => "DispatchError"
  | .invalidOptions => "InvalidOptions"
  | .queueFull => "QueueFull"
  | .noSigners => "NoSigners"
  | .nonceLookup => "NonceLookupError"
  | .send => "SendError"
  | .nonceRecovery => "NonceRecoveryError"
  | .chainNotConfigured => "ChainNotConfigured"

/-- Every kind. -/
def all : List Family :=
  [.dispatch, .invalidOptions, .queueFull, .noSigners, .nonceLookup, .send, .nonceRecovery,
   .chainNotConfigured]

theorem mem_all (k : Family) : k ∈ all := by cases k <;> decide

/-- The kinds that a kind belongs to, itself first. -/
def ancestry : Family → List Family
  | .dispatch => [.dispatch]
  | .nonceRecovery => [.nonceRecovery, .send, .dispatch]
  | k => [k, .dispatch]

theorem head?_ancestry (k : Family) : k.ancestry.head? = some k := by cases k <;> rfl

/-- Every kind belongs to the common one. -/
theorem dispatch_mem_ancestry (k : Family) : Family.dispatch ∈ k.ancestry := by
  cases k <;> decide

/-- The text that a kind has without arguments, if it has one. -/
def defaultText? : Family → Option String
  | .queueFull => some "failed to send a transaction, blockchain queue is full"
  | .noSigners => some "failed to send a transaction, no signers for incrementing"
  | _ => none

theorem name_injective {k l : Family} (h : k.name = l.name) : k = l := by
  revert h; cases k <;> cases l <;> decide

end Family

/-- What a kind from outside counts as. -/
inductive Nature where
  /-- A failure like any other. -/
  | ordinary
  /-- An order to stop. -/
  | order
  /-- A kind of its own, below one of the library's. -/
  | kin (family : Family)
  deriving DecidableEq, Repr

/-- What kind of fault it is. -/
inductive FaultKind where
  /-- One of the library's own. -/
  | own (family : Family)
  /-- Any other, known by name. -/
  | foreign (name : String) (nature : Nature := .ordinary)
  deriving DecidableEq, Repr

namespace FaultKind

/-- The name by which a kind is reported and counted. -/
def name : FaultKind → String
  | .own family => family.name
  | .foreign name _ => name

/-- The orders to stop that have a common name. -/
def orderNames : List String := ["KeyboardInterrupt", "SystemExit", "GeneratorExit", "BaseException"]

/-- The kind that a name stands for. -/
def ofName (name : String) : FaultKind :=
  match Family.all.find? (·.name == name) with
  | some family => .own family
  | none => .foreign name (if orderNames.contains name then .order else .ordinary)

end FaultKind

/-- How a fault comes by its text. -/
inductive Speech (φ : Type) where
  /-- Its arguments make the text. -/
  | ofArgs
  /-- It has a text of its own. -/
  | own (text : String)
  /-- It has no text, and to ask for one fails. -/
  | mute (failure : φ)

/-- What ended a piece of work, and what had caused it. -/
structure Fault where
  kind : FaultKind
  args : List Value
  cause : Option Fault := none
  speech : Speech Fault := .ofArgs

namespace Fault

instance : Inhabited Fault := ⟨{ kind := .own .dispatch, args := [] }⟩

/-- The name of the missing-key fault. -/
def missingKeyName : String := "KeyError"

/-- The text that the arguments of a fault make. -/
def argChars (fault : Fault) : List Char :=
  match fault.args with
  | [] => []
  | [arg] => if fault.kind = .foreign missingKeyName then arg.quotedChars else arg.chars
  | args => Value.tupleChars args

/-- The text of a fault, if it has one. -/
def chars (fault : Fault) : List Char :=
  match fault.speech with
  | .ofArgs => fault.argChars
  | .own text => text.toList
  | .mute _ => []

/-- The text of a fault, if it has one. -/
def text (fault : Fault) : String := String.ofList fault.chars

/-- The name by which a fault is reported and counted. -/
def name (fault : Fault) : String := fault.kind.name

/-- An order to stop. -/
def isInterrupt (fault : Fault) : Bool :=
  match fault.kind with
  | .foreign _ .order => true
  | _ => false

/-- The library's kinds that a fault belongs to, the nearest first. -/
def ancestry (fault : Fault) : List Family :=
  match fault.kind with
  | .own family => family.ancestry
  | .foreign _ (.kin family) => family.ancestry
  | _ => []

/-- One of the library's faults. -/
def isOwn (fault : Fault) : Bool := fault.ancestry.contains .dispatch

/-! ## Making faults -/

/-- A fault of the library with a text. -/
def own (family : Family) (message : String) : Fault := { kind := .own family, args := [.text message] }

/-- A fault of the library with a text, caused by another fault. -/
def wrap (family : Family) (message : String) (cause : Fault) : Fault :=
  { kind := .own family, args := [.text message], cause := some cause }

/-- A fault with a text that is none of the library's. -/
def foreign (name message : String) : Fault :=
  { kind := .foreign name, args := [.text message] }

/-- A value was refused. -/
def badValue (message : String) : Fault := foreign "ValueError" message

/-- A value of the wrong type was used. -/
def badType (message : String) : Fault := foreign "TypeError" message

/-- Something was asked of a value of a type that does not have it. -/
def noAttribute (typeName asked : String) : Fault :=
  foreign "AttributeError" s!"'{typeName}' object has no attribute '{asked}'"

/-- The fault of asking for a text that is not there.  Where the text was to be filled into another its
wording is not the same, for it then shows an address, which is left out here. -/
def noText : Fault :=
  { kind := .foreign "SystemError"
    args := [.text "<class 'str'> returned a result with an exception set"]
    cause := some (foreign "IndexError" "string index out of range") }

/-- The fault of writing a whole number of too many digits. -/
def tooManyDigits : Fault :=
  badValue s!"Exceeds the limit ({Literal.digitLimit} digits) for integer string conversion; use sys.set_int_max_str_digits() to increase the limit"

/-- The text of a fault, for those who cannot do without one. -/
def askText (fault : Fault) : Except Fault String :=
  match fault.speech with
  | .ofArgs => if fault.args.all Value.isWritable then .ok fault.text else .error tooManyDigits
  | .own _ => .ok fault.text
  | .mute failure => .error failure

/-- The fault that is made with a text, or else the one in which asking for the text ends. -/
def forming (text : Except Fault String) (make : String → Fault) : Fault :=
  match text with
  | .ok text => make text
  | .error failure => failure

/-- The fault of a full queue or of missing signers, with its own text. -/
def withDefault (family : Family) : Fault := own family (family.defaultText?.getD "")

@[simp] theorem text_own (family : Family) (message : String) : (own family message).text = message := by
  simp [own, text, chars, argChars]

@[simp] theorem text_wrap (family : Family) (message : String) (cause : Fault) :
    (wrap family message cause).text = message := by
  simp [wrap, text, chars, argChars]

@[simp] theorem askText_own (family : Family) (message : String) :
    (own family message).askText = .ok message := by
  simp [askText, own, text, chars, argChars]

@[simp] theorem askText_wrap (family : Family) (message : String) (cause : Fault) :
    (wrap family message cause).askText = .ok message := by
  simp [askText, wrap, text, chars, argChars]

/-- It can be said that something has too many digits. -/
theorem askText_tooManyDigits : tooManyDigits.askText = .ok tooManyDigits.text := by
  simp [askText, tooManyDigits, badValue, foreign]

/-- The text that is asked for is the text of the fault. -/
theorem eq_text_of_askText {fault : Fault} {text : String} (h : fault.askText = .ok text) :
    text = fault.text := by
  unfold askText at h
  split at h
  · split at h <;> simp_all
  · simp_all
  · simp at h

@[simp] theorem forming_ok (text : String) (make : String → Fault) :
    forming (.ok text) make = make text := rfl

@[simp] theorem forming_error (failure : Fault) (make : String → Fault) :
    forming (.error failure) make = failure := rfl

@[simp] theorem isInterrupt_tooManyDigits : tooManyDigits.isInterrupt = false := rfl

@[simp] theorem isInterrupt_own (family : Family) (message : String) :
    (own family message).isInterrupt = false := rfl

@[simp] theorem isInterrupt_wrap (family : Family) (message : String) (cause : Fault) :
    (wrap family message cause).isInterrupt = false := rfl

@[simp] theorem cause_wrap (family : Family) (message : String) (cause : Fault) :
    (wrap family message cause).cause = some cause := rfl

/-- The library's faults are those of its own kinds and those of the kinds below them. -/
theorem isOwn_iff (fault : Fault) :
    fault.isOwn = true ↔
      ∃ family, fault.kind = .own family ∨ ∃ name, fault.kind = .foreign name (.kin family) := by
  unfold isOwn ancestry
  cases h : fault.kind with
  | own family => simp [Family.dispatch_mem_ancestry]
  | foreign name nature => cases nature <;> simp [Family.dispatch_mem_ancestry]

/-- No fault of the library is an order to stop. -/
theorem isInterrupt_eq_false_of_isOwn {fault : Fault} (h : fault.isOwn = true) :
    fault.isInterrupt = false := by
  obtain ⟨family, hkind | ⟨name, hkind⟩⟩ := (isOwn_iff fault).mp h <;> simp [isInterrupt, hkind]

end Fault

/-! ## Writing values -/

namespace Value

/-- A value in a message, if it can be written. -/
def message (v : Value) : Except Fault String :=
  if v.isWritable then .ok (String.ofList v.chars) else .error .tooManyDigits

/-- A value as a reader of the source would write it, if it can be written. -/
def quoted (v : Value) : Except Fault String :=
  if v.isWritable then .ok (String.ofList v.quotedChars) else .error .tooManyDigits

@[simp] theorem message_text (s : String) : message (.text s) = .ok s := by
  simp [message]

/-- What is done with the text of a value in a message. -/
theorem message_bind {α : Type} (v : Value) (f : String → Except Fault α) :
    (v.message >>= f) =
      if v.isWritable then f (String.ofList v.chars) else .error .tooManyDigits := by
  unfold message
  split <;> rfl

/-- What shows a value succeeds if the value can be written and the rest succeeds. -/
theorem exists_message_bind_iff {α : Type} (v : Value) (f : String → Except Fault α) :
    (∃ x, (v.message >>= f) = .ok x) ↔
      v.isWritable = true ∧ ∃ x, f (String.ofList v.chars) = .ok x := by
  rw [message_bind]
  cases v.isWritable <;> simp

/-- What shows a value fails in one way only, if the rest does. -/
theorem eq_tooManyDigits_of_message_bind {α : Type} {v : Value} {f : String → Except Fault α}
    {e : Fault} (h : (v.message >>= f) = .error e)
    (hrest : ∀ text, f text = .error e → e = .tooManyDigits) : e = .tooManyDigits := by
  rw [message_bind] at h
  split at h
  · exact hrest _ h
  · exact (Except.error.inj h).symm

/-- What is done with the text of a value as a reader of the source would write it. -/
theorem quoted_bind {α : Type} (v : Value) (f : String → Except Fault α) :
    (v.quoted >>= f) =
      if v.isWritable then f (String.ofList v.quotedChars) else .error .tooManyDigits := by
  unfold quoted
  split <;> rfl

end Value
end Outbox
