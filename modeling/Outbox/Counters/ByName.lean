import Outbox.Counters.Basic
import Outbox.Fault.Basic

/-!
# Counting by name

The library counts by its own events.  Others count by name: each counter has a function that
adds one to it, and a fifth function writes the counters out and counts nothing.  The functions
of the two counters that are split take the label, which may be any value and is counted under
its text; the other functions take nothing.

A call with too few or too many arguments counts nothing and is a fault, and so is a name that
no function has and a label that cannot be written.
-/

namespace Outbox
namespace Counted

/-- What the counting functions belong to, as complaints name it. -/
def ownerName : String := "txdispatch.core.metrics"

/-- The functions that take a label: what the label is called, and what is counted. -/
def labelFunctions : List (String × String × (String → Counted)) :=
  [("increment_dispatch", "outcome", .dispatch), ("increment_nonce_lookup", "reason", .nonceLookup)]

/-- The functions that take nothing, and what is counted. -/
def plainFunctions : List (String × Option Counted) :=
  [("increment_nonce_retry", some .nonceRetry), ("increment_sink_error", some .sinkError),
   ("metrics_text", none)]

/-- A number of arguments, and the verb that goes with it. -/
def given (n : Nat) : String := if n = 1 then "1 was given" else s!"{n} were given"

/-- What a call counts, if it counts anything. -/
def ofCall (function : String) (args : List Value) : Except Fault (Option Counted) :=
  match labelFunctions.lookup function, plainFunctions.lookup function with
  | some (label, event), _ =>
    match args with
    | [] => .error (.badType s!"{function}() missing 1 required positional argument: '{label}'")
    | [arg] => do return some (event (← arg.message))
    | args => .error (.badType s!"{function}() takes 1 positional argument but {given args.length}")
  | none, some event =>
    match args with
    | [] => .ok event
    | args => .error (.badType s!"{function}() takes 0 positional arguments but {given args.length}")
  | none, none =>
    .error (.foreign "AttributeError" s!"module '{ownerName}' has no attribute '{function}'")

/-- Whatever the library counts can be counted by name. -/
theorem exists_ofCall (event : Counted) :
    ∃ function args, ofCall function args = .ok (some event) := by
  cases event with
  | dispatch outcome =>
    exact ⟨"increment_dispatch", [.text outcome],
      by simp [ofCall, labelFunctions, Functor.map, Except.map]⟩
  | nonceRetry => exact ⟨"increment_nonce_retry", [], rfl⟩
  | nonceLookup reason =>
    exact ⟨"increment_nonce_lookup", [.text reason],
      by simp [ofCall, labelFunctions, List.lookup_cons, Functor.map, Except.map]⟩
  | sinkError => exact ⟨"increment_sink_error", [], rfl⟩

end Counted

namespace Counters

/-- The counters after calls one after another. -/
def afterCalls (calls : List (String × List Value)) (c : Counters) : Except Fault Counters :=
  calls.foldlM (fun c call => do
    match ← Counted.ofCall call.1 call.2 with
    | some event => return c.add event
    | none => return c) c

end Counters
end Outbox
