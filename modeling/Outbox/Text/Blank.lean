/-!
# Blank characters and trimming

Settings are typed by hand, so blanks around an item mean nothing.  Which
characters are blank is a matter of the Unicode standard and not of the ASCII
table: the no-break space and the ideographic space are blank, the zero-width
space is not.

## Why there are two classes

A text is trimmed by `strip`, which removes every blank character.  A number
literal is more particular: the four information separators U+001C to U+001F
delimit records, so they are trimmed from a text but are an error inside a
literal.  `isLiteralBlank` is `isBlank` without them, and `stripWhile` is the
one trimming rule that both classes share.

The two facts that later modules rely on are `strip_eq_nil_iff`, which says when
nothing is left, and `strip_append_blank`, which says that more blanks around a
text do not change what is left of it.
-/

namespace Outbox
namespace Text

/-- The code points of the blank characters: white space and line breaks of every
script, and the four information separators. -/
def blankCodes : List Nat :=
  [0x09, 0x0a, 0x0b, 0x0c, 0x0d, 0x1c, 0x1d, 0x1e, 0x1f, 0x20, 0x85, 0xa0, 0x1680,
   0x2000, 0x2001, 0x2002, 0x2003, 0x2004, 0x2005, 0x2006, 0x2007, 0x2008, 0x2009, 0x200a,
   0x2028, 0x2029, 0x202f, 0x205f, 0x3000]

/-- A blank character. -/
def isBlank (c : Char) : Bool := blankCodes.contains c.toNat

/-- A character that may surround a number literal: a blank one that separates no
records. -/
def isLiteralBlank (c : Char) : Bool := isBlank c && !(0x1c ≤ c.toNat && c.toNat ≤ 0x1f)

theorem isBlank_of_isLiteralBlank {c : Char} (h : isLiteralBlank c = true) : isBlank c = true := by
  simp only [isLiteralBlank, Bool.and_eq_true] at h
  exact h.1

/-! ## Trimming -/

/-- The text without the characters in class `p` at its end. -/
def stripEnd (p : Char → Bool) : List Char → List Char
  | [] => []
  | c :: cs =>
    match stripEnd p cs with
    | [] => if p c then [] else [c]
    | d :: ds => c :: d :: ds

/-- The text without the characters in class `p` at its two ends. -/
def stripWhile (p : Char → Bool) (cs : List Char) : List Char := stripEnd p (cs.dropWhile p)

/-- The text without the blanks around it. -/
def strip (cs : List Char) : List Char := stripWhile isBlank cs

@[simp] theorem stripEnd_nil (p : Char → Bool) : stripEnd p [] = [] := rfl

@[simp] theorem strip_nil : strip [] = [] := rfl

/-- Nothing is left of a text exactly when all of it is in the class. -/
theorem stripEnd_eq_nil_iff (p : Char → Bool) (cs : List Char) :
    stripEnd p cs = [] ↔ ∀ c ∈ cs, p c = true := by
  induction cs with
  | nil => simp
  | cons c cs ih =>
    cases h : stripEnd p cs with
    | nil =>
      have hcs := ih.mp h
      by_cases hc : p c = true
      · simp [stripEnd, h, hc]
        exact hcs
      · simp [stripEnd, h, hc]
    | cons d ds =>
      have hcs : ¬ ∀ c ∈ cs, p c = true := fun hall => by simp [ih.mpr hall] at h
      simp only [stripEnd, h, List.mem_cons, forall_eq_or_imp]
      exact ⟨fun hnil => absurd hnil (by simp), fun hall => absurd hall.2 hcs⟩

/-- Characters of the class may be added at the end. -/
theorem stripEnd_append (p : Char → Bool) (cs : List Char) {bs : List Char}
    (hbs : ∀ c ∈ bs, p c = true) : stripEnd p (cs ++ bs) = stripEnd p cs := by
  induction cs with
  | nil => simpa using (stripEnd_eq_nil_iff p bs).mpr hbs
  | cons c cs ih => simp [stripEnd, ih]

theorem dropWhile_append_of_forall (p : Char → Bool) {bs : List Char}
    (hbs : ∀ c ∈ bs, p c = true) (cs : List Char) :
    (bs ++ cs).dropWhile p = cs.dropWhile p := by
  induction bs with
  | nil => rfl
  | cons b bs ih =>
    have hb := hbs b (by simp)
    simp [hb, ih fun c hc => hbs c (List.mem_cons_of_mem b hc)]

/-- Characters of the class around a text do not change what is left of it. -/
theorem stripWhile_append (p : Char → Bool) (cs : List Char) {before after : List Char}
    (hbefore : ∀ c ∈ before, p c = true) (hafter : ∀ c ∈ after, p c = true) :
    stripWhile p (before ++ cs ++ after) = stripWhile p cs := by
  rw [stripWhile, List.append_assoc, dropWhile_append_of_forall p hbefore]
  by_cases hcs : ∀ c ∈ cs, p c = true
  · rw [dropWhile_append_of_forall p hcs, stripWhile]
    have hall : ∀ c ∈ after.dropWhile p, p c = true :=
      fun c hc => hafter c ((List.dropWhile_sublist _).subset hc)
    have hall' : ∀ c ∈ cs.dropWhile p, p c = true :=
      fun c hc => hcs c ((List.dropWhile_sublist _).subset hc)
    rw [(stripEnd_eq_nil_iff _ _).mpr hall, (stripEnd_eq_nil_iff _ _).mpr hall']
  · have hsplit : (cs ++ after).dropWhile p = cs.dropWhile p ++ after := by
      induction cs with
      | nil => simp at hcs
      | cons c cs ih =>
        by_cases hc : p c = true
        · simp only [List.cons_append, List.dropWhile_cons, hc, if_true]
          exact ih fun hall => hcs (by simpa [hc] using hall)
        · simp [hc]
    rw [hsplit, stripEnd_append _ _ hafter, stripWhile]

/-- Blanks around a text do not change what is left of it. -/
theorem strip_append_blank (cs : List Char) {before after : List Char}
    (hbefore : ∀ c ∈ before, isBlank c = true) (hafter : ∀ c ∈ after, isBlank c = true) :
    strip (before ++ cs ++ after) = strip cs :=
  stripWhile_append isBlank cs hbefore hafter

/-- What is lost at the end of a text is of the class. -/
theorem exists_stripEnd (p : Char → Bool) (cs : List Char) :
    ∃ after, (∀ c ∈ after, p c = true) ∧ cs = stripEnd p cs ++ after := by
  induction cs with
  | nil => exact ⟨[], by simp, rfl⟩
  | cons c cs ih =>
    obtain ⟨after, hafter, hcs⟩ := ih
    cases h : stripEnd p cs with
    | nil =>
      rw [h, List.nil_append] at hcs
      by_cases hc : p c = true
      · have hnil : stripEnd p (c :: cs) = [] := by simp [stripEnd, h, hc]
        exact ⟨c :: after, by simpa [hc] using hafter, by rw [hnil, hcs]; rfl⟩
      · refine ⟨after, hafter, ?_⟩
        simp [stripEnd, h, hc, ← hcs]
    | cons d ds =>
      refine ⟨after, hafter, ?_⟩
      rw [h] at hcs
      simp [stripEnd, h, ← hcs]

/-- What is lost at the two ends of a text is of the class. -/
theorem exists_stripWhile (p : Char → Bool) (cs : List Char) :
    ∃ before after, (∀ c ∈ before, p c = true) ∧ (∀ c ∈ after, p c = true) ∧
      cs = before ++ stripWhile p cs ++ after := by
  obtain ⟨after, hafter, hdrop⟩ := exists_stripEnd p (cs.dropWhile p)
  refine ⟨cs.takeWhile p, after, fun c hc => ?_, hafter, ?_⟩
  · exact (List.all_eq_true.mp List.all_takeWhile) c hc
  · rw [stripWhile, List.append_assoc, ← hdrop, List.takeWhile_append_dropWhile]

/-- Nothing is left of a text exactly when it is blank. -/
theorem strip_eq_nil_iff (cs : List Char) : strip cs = [] ↔ ∀ c ∈ cs, isBlank c = true := by
  rw [strip, stripWhile, stripEnd_eq_nil_iff]
  refine ⟨fun h => ?_, fun h c hc => h c ((List.dropWhile_sublist _).subset hc)⟩
  induction cs with
  | nil => simp
  | cons c cs ih =>
    by_cases hc : isBlank c = true
    · simp only [List.dropWhile_cons, hc, if_true] at h
      intro d hd
      rcases List.mem_cons.mp hd with rfl | hd
      · exact hc
      · exact ih h d hd
    · simp only [List.dropWhile_cons, hc] at h
      exact absurd (h c (by simp)) hc

end Text
end Outbox
