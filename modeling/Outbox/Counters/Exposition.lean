import Outbox.Counters.Basic
import Outbox.Text.Search

/-!
# The text of the counters

Counters are read by a monitor, which expects lines: for each counter what it means,
what type it has, and a sample for each label that has been used.  A counter without
labels has one sample from the start, a counter with labels has none before it is used.

A label may be any text, so inside its quotes the backslash, the double quote and the end
of a line are escaped.  Samples are written as fractions.  From a million on they are
written with a power of ten, as monitors do.

The report leaves out every line that speaks of a time of creation: monitors derive such
lines from the counters' names, and so a label that contains the mark of these lines has
no line in the report.
-/

namespace Outbox
namespace Counters

/-- A counter as the monitor knows it. -/
structure Series where
  name : String
  help : String
  /-- The name of its label, if it has one. -/
  label? : Option String
  /-- The label values and their counts. -/
  samples : List (Option String × Nat)

/-- The series of a counter that is split by a label. -/
def labelled (name help label : String) (t : Tally) : Series :=
  ⟨name, help, some label, t.entries.map fun entry => (some entry.1, entry.2)⟩

/-- The series of a counter that is not split. -/
def plain (name help : String) (n : Nat) : Series := ⟨name, help, none, [(none, n)]⟩

/-- The four counters in order. -/
def series (c : Counters) : List Series :=
  [labelled "txdispatch_dispatch_total" "Dispatch calls by outcome" "outcome" c.dispatches,
   plain "txdispatch_nonce_retries_total" "Sends retried after a nonce error" c.nonceRetries,
   labelled "txdispatch_nonce_lookups_total" "Pending nonce queries" "reason" c.nonceLookups,
   plain "txdispatch_sink_errors_total" "Non-fatal errors reported to the error sink" c.sinkErrors]

/-- A character of a label between its quotes. -/
def escapeLabelChar (c : Char) : List Char :=
  if c = '\\' then ['\\', '\\']
  else if c = '\n' then ['\\', 'n']
  else if c = '\x22' then ['\\', '\x22']
  else [c]

/-- A label between its quotes. -/
def escapeLabel (label : String) : String := String.ofList (label.toList.flatMap escapeLabelChar)

/-- A count as a fraction. -/
def sampleText (n : Nat) : String :=
  let digits := Nat.toDigits 10 n
  if n < 1000000 then String.ofList digits ++ ".0"
  else
    let rest := ((digits.drop 1).reverse.dropWhile (· == '0')).reverse
    let mantissa := if rest.isEmpty then digits.take 1 else digits.take 1 ++ '.' :: rest
    String.ofList mantissa ++ s!"e+0{digits.length - 1}"

/-- The line of a sample. -/
def Series.sampleLine (s : Series) (sample : Option String × Nat) : String :=
  let labels := match s.label?, sample.1 with
    | some label, some value => "\x7b" ++ label ++ "=\"" ++ escapeLabel value ++ "\"\x7d"
    | _, _ => ""
  s.name ++ labels ++ " " ++ sampleText sample.2

/-- The mark of lines about times of creation. -/
def creationMark : String := "_created"

/-- The line speaks of a time of creation. -/
def marksCreation (line : String) : Bool := Text.occurs creationMark.toList line.toList

/-- The sample lines of a counter. -/
def Series.sampleLines (s : Series) : List String :=
  (s.samples.map s.sampleLine).filter fun line => !marksCreation line

/-- All lines of a counter. -/
def Series.lines (s : Series) : List String :=
  ("# HELP " ++ s.name ++ " " ++ s.help) :: ("# TYPE " ++ s.name ++ " counter") :: s.sampleLines

/-- The text of the counters, line by line. -/
def report (c : Counters) : List String := c.series.flatMap Series.lines

/-- The samples alone, in the order of their text. -/
def samples (c : Counters) : List String :=
  (c.series.flatMap Series.sampleLines).mergeSort fun a b => !decide (b < a)

end Counters
end Outbox
