/-!
# Words

A place in a text, or the number of a line, is kept in a word: 64 bits, one of which is the
sign.  Not every whole number has one, and what is to be done about a number that has none is
for whoever wanted the word to decide.  So the passage from numbers to words is an option, and
a number has a word exactly if some word denotes it (`ofInt?_eq_some_iff`).

Counting on from the last word leads to the first.
-/

namespace Outbox
namespace Word

/-- The word that denotes a whole number, if there is one. -/
def ofInt? (i : Int) : Option Int64 :=
  if (Int64.ofInt i).toInt = i then some (Int64.ofInt i) else none

/-- **The word of a number is the one that denotes it.** -/
theorem ofInt?_eq_some_iff {i : Int} {w : Int64} : ofInt? i = some w ↔ w.toInt = i := by
  unfold ofInt?
  constructor
  · intro h
    split at h
    · next hi =>
      rw [← Option.some.inj h]
      exact hi
    · simp at h
  · intro h
    subst h
    simp

/-- Every word is found again from the number that it denotes. -/
@[simp] theorem ofInt?_toInt (w : Int64) : ofInt? w.toInt = some w :=
  ofInt?_eq_some_iff.mpr rfl

end Word
end Outbox
