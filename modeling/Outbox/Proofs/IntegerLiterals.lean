import Outbox.Proofs.WrittenUrls

/-!
# Which texts are read as whole numbers

A setting that stands for a whole number is read by a function that trims, takes a sign off, collects
digits and underscores, and looks at what is left.  None of this tells at a glance which texts are
accepted.  This file does: a literal (`IsInteger`) is an optional sign and decimal digits of any
script, at least one and not too many, with at most a single underscore between any two of them
(`Grouped`).  What is read as a number is, without the blanks around it, a literal for the number
(`readInteger_eq_ok_iff`).

Which blanks may stand around a literal depends on who reads it.  The separators of records are not
among them, but a chain id has been trimmed of these as well before it is read, so any blanks may
surround it (`readInteger_strip_eq_ok_iff`).  Nothing in a literal is blank
(`IsInteger.isBlank_eq_false`), and that is why it makes no difference how often it is trimmed.
-/

namespace Outbox

namespace Text

/-- No blank is a decimal digit. -/
theorem decimalValue?_of_isBlank {c : Char} (hc : isBlank c = true) : decimalValue? c = none := by
  have hall : ∀ code ∈ blankCodes,
      zeroCodes.find? (fun first => first ≤ code && code < first + 10) = none := by decide +kernel
  have hcode : c.toNat ∈ blankCodes := by simpa [isBlank] using hc
  rw [decimalValue?, hall _ hcode, Option.map_none]

theorem isBlank_of_decimalValue? {c : Char} {d : Nat} (hc : decimalValue? c = some d) :
    isBlank c = false := by
  rw [← Bool.not_eq_true]
  intro hblank
  rw [decimalValue?_of_isBlank hblank] at hc
  exact absurd hc (by simp)

end Text

namespace Literal

open Text

/-! ## 1.  Digits -/

/-- Decimal digits, with at most an underscore between any two of them, and what they stand for. -/
inductive Grouped : List Char → List Nat → Prop
  | last {c : Char} {d : Nat} (hc : decimalValue? c = some d) : Grouped [c] [d]
  | next {c : Char} {d : Nat} {cs : List Char} {ds : List Nat} (hc : decimalValue? c = some d)
      (hcs : Grouped cs ds) : Grouped (c :: cs) (d :: ds)
  | apart {c : Char} {d : Nat} {cs : List Char} {ds : List Nat} (hc : decimalValue? c = some d)
      (hcs : Grouped cs ds) : Grouped (c :: '_' :: cs) (d :: ds)

theorem decimalValue?_underscore : decimalValue? '_' = none := by decide +kernel

section

variable {c d : Char} {cs : List Char} {ds : List Nat} {n : Nat}

/-- The first character is a digit. -/
theorem Grouped.exists_cons (h : Grouped cs ds) :
    ∃ c rest n, cs = c :: rest ∧ decimalValue? c = some n := by
  cases h with
  | last hc => exact ⟨_, _, _, rfl, hc⟩
  | next hc _ => exact ⟨_, _, _, rfl, hc⟩
  | apart hc _ => exact ⟨_, _, _, rfl, hc⟩

theorem Grouped.mem (h : Grouped cs ds) : ∀ c ∈ cs, isDigitOrUnderscore c = true := by
  induction h with
  | last hc => simp [isDigitOrUnderscore, hc]
  | next hc _ ih => simpa [isDigitOrUnderscore, hc] using ih
  | apart hc _ ih => simpa [isDigitOrUnderscore, hc] using ih

/-- What a digit stands for is less than ten. -/
theorem Grouped.lt_ten (h : Grouped cs ds) : ∀ d ∈ ds, d < 10 := by
  induction h with
  | last hc => simpa using decimalValue?_lt hc
  | next hc _ ih => exact List.forall_mem_cons.mpr ⟨decimalValue?_lt hc, ih⟩
  | apart hc _ ih => exact List.forall_mem_cons.mpr ⟨decimalValue?_lt hc, ih⟩

/-- So many digits stand for less than that power of ten. -/
theorem ofDigits_lt (h : ∀ d ∈ ds, d < 10) : ofDigits ds < Nat.pow 10 ds.length := by
  suffices hfrom : ∀ n, ds.foldl (fun n d => 10 * n + d) n < (n + 1) * Nat.pow 10 ds.length by
    simpa [ofDigits] using hfrom 0
  induction ds with
  | nil => simp
  | cons d ds ih =>
    intro n
    obtain ⟨hd, hds⟩ := List.forall_mem_cons.mp h
    calc ds.foldl (fun n d => 10 * n + d) (10 * n + d)
        < (10 * n + d + 1) * Nat.pow 10 ds.length := ih hds _
      _ ≤ (n + 1) * 10 * Nat.pow 10 ds.length := Nat.mul_le_mul_right _ (by omega)
      _ = (n + 1) * (Nat.pow 10 ds.length * 10) := by rw [Nat.mul_assoc, Nat.mul_comm 10]

/-- A digit before more digits is read by itself. -/
theorem digits?_cons (hc : decimalValue? c = some n) (hd : d ≠ '_') :
    digits? (c :: d :: cs) = (digits? (d :: cs)).map (n :: ·) := by
  rw [digits?]
  simp only [hc]
  split
  · rename_i heq
    exact absurd heq (by simp)
  · rename_i heq
    exact absurd (List.cons.inj heq).1 hd
  · rfl

/-- A digit and an underscore before more digits are read together. -/
theorem digits?_cons_underscore (hc : decimalValue? c = some n) :
    digits? (c :: '_' :: cs) = (digits? cs).map (n :: ·) := by
  rw [digits?]
  simp only [hc]

/-- **What is read as a run of digits is one.** -/
theorem digits?_eq_some_iff : digits? cs = some ds ↔ Grouped cs ds := by
  constructor
  · intro h
    fun_induction digits? cs generalizing ds with
    | case1 => exact absurd h (by simp)
    | case2 c cs hc => exact absurd h (by simp)
    | case3 c n hc =>
      obtain rfl := Option.some.inj h
      exact .last hc
    | case4 c n hc rest ih =>
      obtain ⟨ds', hds', rfl⟩ := Option.map_eq_some_iff.mp h
      exact .apart hc (ih hds')
    | case5 c n hc rest hne hunderscore ih =>
      obtain ⟨ds', hds', rfl⟩ := Option.map_eq_some_iff.mp h
      exact .next hc (ih hds')
  · intro h
    induction h with
    | last hc => simp [digits?, hc]
    | next hc hcs ih =>
      obtain ⟨d, rest, n, rfl, hd⟩ := hcs.exists_cons
      have hne : d ≠ '_' := by
        rintro rfl
        rw [decimalValue?_underscore] at hd
        exact absurd hd (by simp)
      rw [digits?_cons hc hne, ih, Option.map_some]
    | apart hc hcs ih => rw [digits?_cons_underscore hc, ih, Option.map_some]

end

/-! ## 2.  Literals -/

/-- What may stand for the sign of a number, and whether it makes it negative. -/
inductive Sign : List Char → Bool → Prop
  | none : Sign [] false
  | plus : Sign ['+'] false
  | minus : Sign ['-'] true

/-- A text is a literal for a whole number. -/
def IsInteger (cs : List Char) (i : Int) : Prop :=
  ∃ sign digits negative ds, cs = sign ++ digits ∧ Sign sign negative ∧ Grouped digits ds ∧
    ds.length ≤ digitLimit ∧ i = if negative then -(ofDigits ds : Int) else ofDigits ds

section

variable {cs : List Char} {i : Int}

/-- Nothing in a literal is blank. -/
theorem IsInteger.isBlank_eq_false (h : IsInteger cs i) : ∀ c ∈ cs, isBlank c = false := by
  obtain ⟨sign, digits, negative, ds, rfl, hsign, hdigits, -, -⟩ := h
  intro c hc
  rcases List.mem_append.mp hc with hc | hc
  · cases hsign with
    | none => exact absurd hc List.not_mem_nil
    | plus => rw [List.mem_singleton.mp hc]; decide
    | minus => rw [List.mem_singleton.mp hc]; decide
  · have hmem := hdigits.mem c hc
    simp only [isDigitOrUnderscore, Bool.or_eq_true, Option.isSome_iff_exists, beq_iff_eq] at hmem
    rcases hmem with ⟨n, hn⟩ | rfl
    · exact isBlank_of_decimalValue? hn
    · decide

/-- **What a literal stands for can be written**, because it has been written already. -/
theorem IsInteger.isWritable (h : IsInteger cs i) : Literal.isWritable i = true := by
  obtain ⟨sign, digits, negative, ds, -, -, hdigits, hlimit, rfl⟩ := h
  -- for every limit, as the power itself is too large to be worked out
  have hgrow (limit : Nat) (h : ds.length ≤ limit) : Nat.pow 10 ds.length ≤ Nat.pow 10 limit :=
    Nat.pow_le_pow_right (by decide) h
  have hless : ofDigits ds < Nat.pow 10 digitLimit :=
    (ofDigits_lt hdigits.lt_ten).trans_le (hgrow digitLimit hlimit)
  rw [isWritable_iff]
  cases negative with
  | false => exact hless
  | true => simpa using hless

/-- The sign is taken off, if there are digits behind it. -/
theorem signed_append {sign digits : List Char} {negative : Bool} {ds : List Nat}
    (hsign : Sign sign negative) (hdigits : Grouped digits ds) :
    signed (sign ++ digits) = (negative, digits) := by
  cases hsign with
  | none =>
    obtain ⟨c, rest, n, rfl, hc⟩ := hdigits.exists_cons
    rw [List.nil_append]
    unfold signed
    split
    · rename_i heq
      obtain rfl : c = '-' := (List.cons.inj heq).1
      exact absurd hc (by rw [show decimalValue? '-' = none by decide +kernel]; simp)
    · rename_i heq
      obtain rfl : c = '+' := (List.cons.inj heq).1
      exact absurd hc (by rw [show decimalValue? '+' = none by decide +kernel]; simp)
    · rfl
  | plus => rfl
  | minus => rfl

/-- What is taken off is a sign. -/
theorem exists_sign (cs : List Char) :
    ∃ sign, cs = sign ++ (signed cs).2 ∧ Sign sign (signed cs).1 := by
  unfold signed
  split
  · exact ⟨['-'], rfl, .minus⟩
  · exact ⟨['+'], rfl, .plus⟩
  · exact ⟨[], rfl, .none⟩

/-- **A text is read as a number exactly if it is a literal for it**, when the blanks around it have
been taken off. -/
theorem readInteger_eq_ok_iff (given : String) :
    readInteger given = .ok i ↔ IsInteger (stripWhile isLiteralBlank given.toList) i := by
  constructor
  · intro h
    obtain ⟨sign, hcs, hsign⟩ := exists_sign (stripWhile isLiteralBlank given.toList)
    unfold readInteger at h
    simp only at h
    split at h
    · exact absurd h (by simp)
    · rename_i ds hds
      split at h
      · exact absurd h (by simp)
      split at h
      · rename_i hlimit hrest
        -- nothing is left behind the run, so the run is all that follows the sign
        have hrun := List.takeWhile_append_dropWhile (p := isDigitOrUnderscore)
          (l := (signed (stripWhile isLiteralBlank given.toList)).2)
        rw [List.isEmpty_iff.mp hrest, List.append_nil] at hrun
        rw [hrun] at hds
        exact ⟨sign, _, _, ds, hcs, hsign, digits?_eq_some_iff.mp hds, by omega,
          (Except.ok.inj h).symm⟩
      · exact absurd h (by simp)
  · rintro ⟨sign, digits, negative, ds, hcs, hsign, hdigits, hlimit, rfl⟩
    have htake : digits.takeWhile isDigitOrUnderscore = digits :=
      List.takeWhile_eq_self_iff.mpr hdigits.mem
    have hdrop : digits.dropWhile isDigitOrUnderscore = [] :=
      List.dropWhile_eq_nil_iff.mpr hdigits.mem
    unfold readInteger
    simp only [hcs, signed_append hsign hdigits, htake, hdrop, digits?_eq_some_iff.mpr hdigits]
    rw [if_neg (by omega), if_pos (by rfl)]

/-- A text says a number: it is a literal for it with blanks around. -/
def Says (cs : List Char) (i : Int) : Prop :=
  ∃ (before : ChainUrls.Blanks) (literal : List Char) (after : ChainUrls.Blanks),
    cs = before.chars ++ literal ++ after.chars ∧ IsInteger literal i

/-- **A text that is trimmed first is read as the number that it says.** -/
theorem readInteger_strip_eq_ok_iff : readInteger (String.ofList (strip cs)) = .ok i ↔ Says cs i := by
  rw [readInteger_eq_ok_iff, String.toList_ofList]
  constructor
  · intro h
    obtain ⟨before, after, hbefore, hafter, hcs⟩ := exists_stripWhile isBlank cs
    obtain ⟨before', after', hbefore', hafter', hstrip⟩ := exists_stripWhile isLiteralBlank (strip cs)
    have hblank {bs : List Char} (hbs : ∀ c ∈ bs, isLiteralBlank c = true) :
        ∀ c ∈ bs, isBlank c = true := fun c hc => isBlank_of_isLiteralBlank (hbs c hc)
    have happend {bs ds : List Char} (hbs : ∀ c ∈ bs, isBlank c = true)
        (hds : ∀ c ∈ ds, isBlank c = true) : ∀ c ∈ bs ++ ds, isBlank c = true := fun c hc =>
      (List.mem_append.mp hc).elim (hbs c) (hds c)
    refine ⟨⟨before ++ before', happend hbefore (hblank hbefore')⟩, _,
      ⟨after' ++ after, happend (hblank hafter') hafter⟩, ?_, h⟩
    calc cs = before ++ strip cs ++ after := hcs
      _ = before ++ (before' ++ stripWhile isLiteralBlank (strip cs) ++ after') ++ after := by
        rw [← hstrip]
      _ = before ++ before' ++ stripWhile isLiteralBlank (strip cs) ++ (after' ++ after) := by
        simp only [List.append_assoc]
  · rintro ⟨before, literal, after, rfl, hliteral⟩
    have hends {c : Char} (hc : c ∈ literal) : isBlank c = false := hliteral.isBlank_eq_false c hc
    have hends' {c : Char} (hc : c ∈ literal) : isLiteralBlank c = false := by
      simp [isLiteralBlank, hends hc]
    have hstrip := strip_between before.blank after.blank
      (fun c hc => hends (List.mem_of_mem_head? hc)) fun c hc => hends (List.mem_of_mem_getLast? hc)
    rw [hstrip, stripWhile_of_ends (fun c hc => hends' (List.mem_of_mem_head? hc))
      fun c hc => hends' (List.mem_of_mem_getLast? hc)]
    exact hliteral

end

end Literal
end Outbox
