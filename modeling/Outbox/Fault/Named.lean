import Outbox.Fault.Basic
import Outbox.Number.Word
import Outbox.Text.Hex

/-!
# Faults by name

What a gate, a node or a callback fails with has a name and arguments, and from these the
fault is made (`Fault.make`).  For most kinds there is nothing to it.

## Kinds that speak for themselves

A fault of the system has a number, what the number means, and perhaps the files it is about;
a fault of an encoding says which place of which text cannot be read or written; a fault of
syntax says where it stands.  These three make a text of their own, unless the character that
cannot be written is none at all, or the number or the message they are about has itself no text:
then there is none.  A fault of the system that is given by its number alone belongs to the kind
that the number stands for, and one that names files keeps only the number and its meaning as
arguments.

## Faults that cannot be made

Some kinds want arguments of a certain number and form.  To make one of them from others is
itself a fault, and it is that fault which comes out.  Places and amounts have to fit into a
word (`Outbox.Word`).  The number of a line need not: one that has no word is shown as -1.
-/

namespace Outbox
namespace Fault

/-! ## Arguments of a certain form -/

/-- The name of a value's type in a complaint about an argument. -/
def argumentTypeName : Value → String
  | .null => "None"
  | v => v.typeName

/-- An argument that has to be a text. -/
def textArgument (place : Nat) : Value → Except Fault String
  | .text s => .ok s
  | v => .error (badType s!"argument {place} must be str, not {argumentTypeName v}")

/-- An argument that has to be a whole number. -/
def wholeArgument (v : Value) : Except Fault Int :=
  match v.wholeNumber? with
  | some i => .ok i
  | none => .error (badType s!"'{v.typeName}' object cannot be interpreted as an integer")

/-- An argument that has to be a place. -/
def placeArgument (v : Value) : Except Fault Int64 := do
  match Word.ofInt? (← wholeArgument v) with
  | some place => return place
  | none => .error (foreign "OverflowError" "Python int too large to convert to C ssize_t")

/-- An argument that has to be an amount. -/
def amountArgument (v : Value) : Except Fault Int64 := do
  match Word.ofInt? (← wholeArgument v) with
  | some amount => return amount
  | none => .error (badValue "cannot fit 'int' into an index-sized integer")

/-- Arguments are not as many as they have to be. -/
def wrongCount (wanted given : Nat) : Fault :=
  badType s!"function takes exactly {wanted} arguments ({given} given)"

/-- A fault of no special making. -/
def plain (kind : FaultKind) (args : List Value) : Fault := { kind, args }

/-- A fault with a text of its own, if that text can be formed. -/
def speaking (name : String) (args : List Value) (text : Except Fault String) : Fault :=
  { kind := .foreign name
    args
    speech := match text with
      | .ok text => .own text
      | .error failure => .mute failure }

/-! ## Faults of the system -/

/-- The common kind of the faults of the system. -/
def systemName : String := "OSError"

/-- A system fault about something that would have to wait. -/
def blockingName : String := "BlockingIOError"

/-- The kinds of the faults of the system. -/
def systemNames : List String :=
  [systemName, blockingName, "ChildProcessError", "ConnectionError", "BrokenPipeError",
   "ConnectionAbortedError", "ConnectionRefusedError", "ConnectionResetError", "FileExistsError",
   "FileNotFoundError", "InterruptedError", "IsADirectoryError", "NotADirectoryError",
   "PermissionError", "ProcessLookupError", "TimeoutError"]

/-- The kinds that numbers stand for. -/
def systemNumbers : List (Int × String) :=
  [(1, "PermissionError"), (2, "FileNotFoundError"), (3, "ProcessLookupError"),
   (4, "InterruptedError"), (10, "ChildProcessError"), (11, blockingName),
   (13, "PermissionError"), (17, "FileExistsError"), (20, "NotADirectoryError"),
   (21, "IsADirectoryError"), (32, "BrokenPipeError"), (103, "ConnectionAbortedError"),
   (104, "ConnectionResetError"), (108, "BrokenPipeError"), (110, "TimeoutError"),
   (111, "ConnectionRefusedError"), (114, blockingName), (115, blockingName)]

/-- The kind of a system fault with a number. -/
def numberedName (name : String) (number : Value) : String :=
  if name = systemName then (number.wholeNumber?.bind fun n => systemNumbers.lookup n).getD name else name

/-- A system fault with a number and its meaning, and what else is given. -/
def numbered (name : String) (number meaning : Value) (rest : List Value) : Except Fault Fault :=
  let head : Except Fault String := do
    return "[Errno " ++ (← number.message) ++ "] " ++ (← meaning.message)
  match rest.headD .null with
  | .null => .ok (speaking name (number :: meaning :: rest) head)
  | file =>
    if name = blockingName && file.numeral?.isSome then
      (amountArgument file).map fun _ => speaking name (number :: meaning :: rest) head
    else
      let files : Except Fault String := match rest.getD 2 .null with
        | .null => file.quoted
        | other => do return (← file.quoted) ++ " -> " ++ (← other.quoted)
      .ok (speaking name [number, meaning] do return (← head) ++ ": " ++ (← files))

/-- A fault of the system. -/
def system (name : String) (args : List Value) : Except Fault Fault :=
  match args with
  | number :: meaning :: rest =>
    if rest.length ≤ 3 then numbered (numberedName name number) number meaning rest
    else .ok (plain (.foreign name) args)
  | _ => .ok (plain (.foreign name) args)

/-! ## Faults of an encoding -/

/-- The places from the first to before the stop are exactly one place of a text. -/
def isOnePlace (size : Nat) (first stop : Int64) : Bool :=
  decide (first.toInt < size) && stop = first + 1

/-- A place of a text, or several in a row, and why there is a fault. -/
def placeText (one several : String) (size : Nat) (first stop : Int64) (reason : String) : String :=
  if isOnePlace size first stop then s!"{one} in position {first.toInt}: {reason}"
  else s!"{several} in position {first.toInt}-{(stop - 1).toInt}: {reason}"

/-- The bytes in front of a row of bytes, the nearest first: a mark with all bits set, and before
it the length, its highest byte nearest.  The empty row has no mark. -/
def bytesInFront (bytes : List UInt8) : List UInt8 :=
  if bytes.isEmpty then []
  else
    let length : List UInt8 :=
      (List.range 8).reverse.map fun k => UInt8.ofNat (bytes.length >>> (8 * k))
    List.replicate 8 0xff ++ length

/-- The byte at a place. -/
def byteAt (bytes : List UInt8) (place : Int64) : UInt8 :=
  if place < 0 then (bytesInFront bytes).getD (-place.toInt - 1).toNat 0
  else bytes.getD place.toInt.toNat 0

/-- Bytes that cannot be read. -/
def decoding (name : String) (args : List Value) : Except Fault Fault :=
  match args with
  | [encoding, bytes, first, stop, reason] => do
    let encoding ← textArgument 1 encoding
    let first ← placeArgument first
    let stop ← placeArgument stop
    let reason ← textArgument 5 reason
    match bytes with
    | .bytes bs =>
      let byte := String.ofList (Text.fixedHex 2 (byteAt bs first).toNat)
      let head := "'" ++ encoding ++ "' codec can't decode "
      return speaking name args
        (.ok (placeText (head ++ "byte 0x" ++ byte) (head ++ "bytes") bs.length first stop reason))
    | v => .error (badType s!"a bytes-like object is required, not '{v.typeName}'")
  | _ => .error (wrongCount 5 args.length)

/-- The character at a place, by its code. -/
def characterText (cs : List Char) (place : Int64) : String :=
  "character '" ++
    String.ofList ((cs[place.toInt.toNat]?.map fun c => Text.codeEscape c.toNat).getD []) ++ "'"

/-- What is the matter with the characters at some places.  In front of the first character there
is none, so a fault about one there has nothing to say. -/
def charactersSpeech (head : String) (cs : List Char) (first stop : Int64) (reason : String) :
    Speech Fault :=
  if isOnePlace cs.length first stop && first < 0 then .mute noText
  else .own (placeText (head ++ characterText cs first) (head ++ "characters") cs.length first stop
    reason)

/-- Characters that cannot be written. -/
def encoding (name : String) (args : List Value) : Except Fault Fault :=
  match args with
  | [encoding, given, first, stop, reason] => do
    let encoding ← textArgument 1 encoding
    let cs := (← textArgument 2 given).toList
    let first ← placeArgument first
    let stop ← placeArgument stop
    let reason ← textArgument 5 reason
    let head := "'" ++ encoding ++ "' codec can't encode "
    return { kind := .foreign name, args, speech := charactersSpeech head cs first stop reason }
  | _ => .error (wrongCount 5 args.length)

/-- Characters that cannot be mapped. -/
def mapping (name : String) (args : List Value) : Except Fault Fault :=
  match args with
  | [given, first, stop, reason] => do
    let cs := (← textArgument 1 given).toList
    let first ← placeArgument first
    let stop ← placeArgument stop
    let reason ← textArgument 4 reason
    let speech := charactersSpeech "can't translate " cs first stop reason
    return { kind := .foreign name, args, speech }
  | _ => .error (wrongCount 4 args.length)

/-! ## Faults of syntax -/

/-- The last part of a path. -/
def lastPart (path : String) : String :=
  String.ofList ((path.toList.reverse.takeWhile (· != '/')).reverse)

/-- The number of a line as it is shown. -/
def lineShown (line : Int) : Int := ((Word.ofInt? line).map Int64.toInt).getD (-1)

/-- Where a fault of syntax stands: the file and the line, as far as they are given. -/
def standsAt : Value → Value → String
  | .text file, .int line => s!" ({lastPart file}, line {lineShown line})"
  | .text file, _ => s!" ({lastPart file})"
  | _, .int line => s!" (line {lineShown line})"
  | _, _ => ""

/-- A fault of syntax. -/
def grammatical (name : String) (args : List Value) : Except Fault Fault :=
  match args with
  | [] => .ok (speaking name args Value.null.message)
  | [message, place] =>
    match place.items? with
    | none => .error (badType s!"'{place.typeName}' object is not iterable")
    | some parts =>
      if parts.length < 4 then
        .error (badType s!"function takes at least 4 arguments ({parts.length} given)")
      else if 6 < parts.length then
        .error (badType s!"function takes at most 6 arguments ({parts.length} given)")
      else if parts.length = 5 then
        .error (badType "end_offset must be provided when end_lineno is provided")
      else
        .ok (speaking name args
          (message.message.map (· ++ standsAt (parts.getD 0 .null) (parts.getD 1 .null))))
  | message :: _ => .ok (speaking name args message.message)

/-! ## Groups of faults -/

/-- A group wants faults as its members, and no value is a fault; so a group is never made, and
this is the complaint. -/
def groupComplaint (args : List Value) : Fault :=
  match args with
  | [.text _, members] =>
    match members with
    | .list [] | .text "" | .bytes [] =>
      badValue "second argument (exceptions) must be a non-empty sequence"
    | .list _ | .text _ | .bytes _ =>
      badValue "Item 0 of second argument (exceptions) is not an exception"
    | _ => badType "second argument (exceptions) must be a sequence"
  | [v, _] =>
    badType s!"BaseExceptionGroup.__new__() argument 1 must be str, not {argumentTypeName v}"
  | _ => badType s!"BaseExceptionGroup.__new__() takes exactly 2 arguments ({args.length} given)"

/-! ## Making a fault -/

/-- The kind that a name stands for where two names stand for one kind. -/
def properName (name : String) : String :=
  if name = "IOError" || name = "EnvironmentError" then systemName else name

/-- A fault of the library.  The two kinds that have a text of their own take it when there is no
argument and refuse more than one. -/
def makeOwn (family : Family) (args : List Value) : Except Fault Fault :=
  match family.defaultText?, args with
  | some text, [] => .ok (plain (.own family) [.text text])
  | some _, _ :: _ :: _ =>
    .error (badType s!"{family.name}.__init__() takes from 1 to 2 positional arguments but {args.length + 1} were given")
  | _, _ => .ok (plain (.own family) args)

/-- A fault from outside. -/
def makeForeign (name : String) (args : List Value) : Except Fault Fault :=
  if systemNames.contains name then system name args
  else if name = "UnicodeDecodeError" then decoding name args
  else if name = "UnicodeEncodeError" then encoding name args
  else if name = "UnicodeTranslateError" then mapping name args
  else if ["SyntaxError", "IndentationError", "TabError"].contains name then grammatical name args
  else if ["BaseExceptionGroup", "ExceptionGroup"].contains name then .error (groupComplaint args)
  else .ok (plain (.foreign name) args)

/-- The fault of a named kind with the given arguments. -/
def make (name : String) (args : List Value) : Except Fault Fault :=
  match FaultKind.ofName (properName name) with
  | .own family => makeOwn family args
  | .foreign name .ordinary => makeForeign name args
  | kind => .ok (plain kind args)

/-- The fault that making a named fault ends in, whichever it is. -/
def raised (name : String) (args : List Value) : Fault :=
  match make name args with
  | .ok fault => fault
  | .error fault => fault

/-- A fault of no special making has the text that its arguments make. -/
@[simp] theorem speech_plain (kind : FaultKind) (args : List Value) :
    (plain kind args).speech = .ofArgs := rfl

/-- Whatever else it is given, an order to stop stays one. -/
theorem make_of_mem_orderNames {name : String} (h : name ∈ FaultKind.orderNames)
    (args : List Value) : make name args = .ok (plain (.foreign name .order) args) := by
  simp only [FaultKind.orderNames, List.mem_cons, List.not_mem_nil, or_false] at h
  rcases h with rfl | rfl | rfl | rfl <;> rfl

end Fault
end Outbox
