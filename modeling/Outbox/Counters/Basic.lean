/-!
# Counters

Four things are counted: how requests ended, how often a send was tried again after a
nonce clash, how often the network was asked for a nonce and why, and how many
registrations failed.  Two of the counts are split by a label --- the outcome, the
reason --- and a `Tally` keeps such a split, its labels in the order of their first use.

Counters only grow, and each event adds one to one count.  `count_add` and `total_add`
say so for a tally, and whatever holds of the counters of a whole session follows from
them.
-/

namespace Outbox

/-- Counts split by a label, in the order in which the labels were first used. -/
structure Tally where
  entries : List (String × Nat) := []
  deriving DecidableEq

namespace Tally

/-- The tally of nothing. -/
def empty : Tally := {}

/-- The entries with one more for a label. -/
def addTo (label : String) : List (String × Nat) → List (String × Nat)
  | [] => [(label, 1)]
  | (l, n) :: entries => if l = label then (l, n + 1) :: entries else (l, n) :: addTo label entries

/-- One more for a label. -/
def add (label : String) (t : Tally) : Tally := ⟨addTo label t.entries⟩

/-- How many there are for a label. -/
def count (label : String) (t : Tally) : Nat := (t.entries.lookup label).getD 0

/-- How many there are. -/
def total (t : Tally) : Nat := t.entries.foldr (fun entry n => entry.2 + n) 0

@[simp] theorem count_empty (label : String) : empty.count label = 0 := rfl

@[simp] theorem total_empty : empty.total = 0 := rfl

theorem lookup_addTo (label other : String) (entries : List (String × Nat)) :
    (addTo label entries).lookup other =
      if other = label then some ((entries.lookup label).getD 0 + 1) else entries.lookup other := by
  induction entries with
  | nil =>
    by_cases h : other = label
    · subst h; simp [addTo]
    · have : (other == label) = false := by simpa using h
      simp [addTo, List.lookup_cons, h, this]
  | cons entry entries ih =>
    obtain ⟨l, n⟩ := entry
    unfold addTo
    by_cases hl : l = label
    · subst hl
      by_cases h : other = l
      · subst h; simp
      · have : (other == l) = false := by simpa using h
        simp [List.lookup_cons, h, this]
    · rw [if_neg hl]
      by_cases h : other = l
      · subst h
        simp [hl]
      · have h1 : (other == l) = false := by simpa using h
        have h2 : (label == l) = false := by simpa using fun hc => hl hc.symm
        simp only [List.lookup_cons, h1, h2]
        exact ih

/-- **One more for a label changes no other label.** -/
@[simp] theorem count_add (label other : String) (t : Tally) :
    (t.add label).count other = t.count other + if other = label then 1 else 0 := by
  unfold count add
  simp only [lookup_addTo]
  by_cases h : other = label
  · subst h; simp
  · simp [h]

/-- One more for any label is one more. -/
@[simp] theorem total_add (label : String) (t : Tally) : (t.add label).total = t.total + 1 := by
  unfold total add
  simp only
  generalize t.entries = entries
  induction entries with
  | nil => simp [addTo]
  | cons entry entries ih =>
    obtain ⟨l, n⟩ := entry
    unfold addTo
    split
    · simp only [List.foldr_cons]; omega
    · simp only [List.foldr_cons, ih]; omega

end Tally

/-- Something that is counted. -/
inductive Counted where
  /-- A request ended in the named way. -/
  | dispatch (outcome : String)
  /-- A send was tried again after a nonce clash. -/
  | nonceRetry
  /-- The network was asked for a nonce for the named reason. -/
  | nonceLookup (reason : String)
  /-- A registration failed. -/
  | sinkError
  deriving DecidableEq

/-- The counts of a process. -/
structure Counters where
  dispatches : Tally := .empty
  nonceRetries : Nat := 0
  nonceLookups : Tally := .empty
  sinkErrors : Nat := 0
  deriving DecidableEq

namespace Counters

/-- The counts of a process that has done nothing. -/
def empty : Counters := {}

/-- One more of something. -/
def add (event : Counted) (c : Counters) : Counters :=
  match event with
  | .dispatch outcome => { c with dispatches := c.dispatches.add outcome }
  | .nonceRetry => { c with nonceRetries := c.nonceRetries + 1 }
  | .nonceLookup reason => { c with nonceLookups := c.nonceLookups.add reason }
  | .sinkError => { c with sinkErrors := c.sinkErrors + 1 }

end Counters
end Outbox
