import Mathlib.Data.List.Induction
import Mathlib.Data.List.Basic
import Mathlib.Data.List.TakeWhile
import Outbox.Settings.ChainUrls
import Outbox.Value.Text

/-!
# What is written into the setting of chain urls is read out of it

Whoever sets the chain urls has a list of chains and urls in mind, writes them one after another with
commas between them, and expects the library to have exactly that list.  The reader trims three times,
splits at commas and at the first equals sign, and reads a number, and any of these steps could damage
what was meant: a url may contain equals signs and blanks, a chain id may have a sign, and the blanks
around things may be those of any script.

The statement is about whatever can be written (`Written`): pieces that say nothing and pieces that name
a chain and a url, all of them with blanks wherever blanks mean nothing.  What is read is the table
that the pieces spell out (`tableOf`): the chains in the order in which they were first listed, each
with the url it was last given (`parse_setting`).

## What can be written

A url (`PlainUrl`) is a text that is not empty, has no comma and neither starts nor ends with a blank.  A
chain id (`ChainId`) is a whole number whose digits are not too many to be read back; numbers beyond
that cannot be written in decimal in the first place.
-/

namespace Outbox

/-! ## 1.  A whole number reads back -/

namespace Text

/-- An ASCII digit stands for its distance from the digit zero. -/
theorem decimalValue?_of_isDigit {c : Char} (hc : c.isDigit = true) :
    decimalValue? c = some (c.toNat - 48) := by
  obtain ⟨hlow, hhigh⟩ := Char.isDigit_iff_toNat.mp hc
  have hlow : 48 ≤ c.toNat := hlow
  have hhigh : c.toNat < 48 + 10 := Nat.lt_succ_of_le hhigh
  simp [decimalValue?, zeroCodes, hlow, hhigh]

/-- A character from the exclamation mark to the tilde is not blank. -/
theorem isBlank_of_printable {c : Char} (hlow : 33 ≤ c.toNat) (hhigh : c.toNat ≤ 126) :
    isBlank c = false := by
  simp only [isBlank, blankCodes, List.contains_eq_mem, List.mem_cons, List.not_mem_nil, or_false,
    decide_eq_false_iff_not]
  omega

theorem isBlank_of_isDigit {c : Char} (hc : c.isDigit = true) : isBlank c = false := by
  obtain ⟨hlow, hhigh⟩ := Char.isDigit_iff_toNat.mp hc
  have hlow : 48 ≤ c.toNat := hlow
  have hhigh : c.toNat ≤ 57 := hhigh
  exact isBlank_of_printable (by omega) (by omega)

/-- A text that ends with a character outside a class loses nothing at its end. -/
theorem stripEnd_of_getLast? {p : Char → Bool} {cs : List Char}
    (hlast : ∀ c ∈ cs.getLast?, p c = false) : stripEnd p cs = cs := by
  induction cs with
  | nil => rfl
  | cons c cs ih =>
    cases cs with
    | nil =>
      have hc : p c = false := hlast c (by simp)
      simp [stripEnd, hc]
    | cons d ds =>
      have hrest : stripEnd p (d :: ds) = d :: ds := ih fun e he => hlast e (by simpa using he)
      rw [stripEnd, hrest]

/-- A text whose ends are outside a class loses nothing. -/
theorem stripWhile_of_ends {p : Char → Bool} {cs : List Char}
    (hfirst : ∀ c ∈ cs.head?, p c = false) (hlast : ∀ c ∈ cs.getLast?, p c = false) :
    stripWhile p cs = cs := by
  have hdrop : cs.dropWhile p = cs := by
    cases cs with
    | nil => rfl
    | cons c cs => rw [List.dropWhile_cons_of_neg (by simp [hfirst c (by simp)])]
  rw [stripWhile, hdrop, stripEnd_of_getLast? hlast]

/-- What is between characters of a class and has none of them at its ends is all that is left. -/
theorem stripWhile_between {p : Char → Bool} {before cs after : List Char}
    (hbefore : ∀ c ∈ before, p c = true) (hafter : ∀ c ∈ after, p c = true)
    (hfirst : ∀ c ∈ cs.head?, p c = false) (hlast : ∀ c ∈ cs.getLast?, p c = false) :
    stripWhile p (before ++ cs ++ after) = cs := by
  rw [stripWhile_append p cs hbefore hafter, stripWhile_of_ends hfirst hlast]

/-- What is between blanks and has no blank at its ends is all that is left. -/
theorem strip_between {before cs after : List Char} (hbefore : ∀ c ∈ before, isBlank c = true)
    (hafter : ∀ c ∈ after, isBlank c = true) (hfirst : ∀ c ∈ cs.head?, isBlank c = false)
    (hlast : ∀ c ∈ cs.getLast?, isBlank c = false) : strip (before ++ cs ++ after) = cs :=
  stripWhile_between hbefore hafter hfirst hlast

end Text

namespace Literal

open Text

/-- A run of ASCII digits is read digit by digit. -/
theorem digits?_of_isDigit {cs : List Char} (hne : cs ≠ []) (hcs : ∀ c ∈ cs, c.isDigit = true) :
    digits? cs = some (cs.map fun c => c.toNat - 48) := by
  induction cs with
  | nil => exact absurd rfl hne
  | cons c cs ih =>
    have hc := decimalValue?_of_isDigit (hcs c (by simp))
    cases cs with
    | nil => simp [digits?, hc]
    | cons d ds =>
      have hd : d.isDigit = true := hcs d (by simp)
      have hrest := ih (by simp) fun e he => hcs e (List.mem_cons_of_mem c he)
      rw [digits?]
      simp only [hc]
      split
      · rename_i heq
        exact absurd heq (by simp)
      · rename_i heq
        obtain rfl : d = '_' := (List.cons.inj heq).1
        exact absurd hd (by decide)
      · rw [hrest]
        rfl

/-- The digits of a number in decimal stand for it. -/
theorem ofDigits_toDigits (n : Nat) :
    ofDigits ((Nat.toDigits 10 n).map fun c => c.toNat - 48) = n := by
  calc ofDigits ((Nat.toDigits 10 n).map fun c => c.toNat - 48)
      = Nat.ofDigitChars 10 (Nat.toDigits 10 n) 0 := by
        rw [ofDigits, List.foldl_map, Nat.ofDigitChars_eq_foldl]
        rfl
    _ = n := Nat.ofDigitChars_ten_toDigits

theorem isDigit_of_mem_decimal {n : Nat} {c : Char} (hc : c ∈ Nat.toDigits 10 n) :
    c.isDigit = true :=
  Nat.isDigit_of_mem_toDigits (by omega) (by omega) hc

/-- A whole number in decimal: a minus sign if it is negative, and its digits. -/
theorem intChars_eq (i : Int) :
    Value.intChars i =
      if i < 0 then '-' :: Nat.toDigits 10 i.natAbs else Nat.toDigits 10 i.natAbs := by
  rw [Value.intChars, Int.toString_eq_repr, Int.repr_eq_if]
  rcases Int.lt_or_le i 0 with hi | hi
  · rw [if_neg (by omega), if_pos hi, String.toList_append, Nat.toList_repr,
      show (-i).toNat = i.natAbs by omega]
    rfl
  · rw [if_pos hi, if_neg (by omega), Nat.toList_repr, show i.toNat = i.natAbs by omega]

/-- A whole number in decimal is made of digits and a minus sign. -/
theorem mem_intChars {i : Int} {c : Char} (hc : c ∈ Value.intChars i) :
    c = '-' ∨ c.isDigit = true := by
  rw [intChars_eq] at hc
  split at hc
  · rcases List.mem_cons.mp hc with rfl | hc
    · exact .inl rfl
    · exact .inr (isDigit_of_mem_decimal hc)
  · exact .inr (isDigit_of_mem_decimal hc)

theorem intChars_ne_nil (i : Int) : Value.intChars i ≠ [] := by
  rw [intChars_eq]
  split
  · simp
  · exact Nat.toDigits_ne_nil

theorem isBlank_of_mem_intChars {i : Int} {c : Char} (hc : c ∈ Value.intChars i) :
    isBlank c = false := by
  rcases mem_intChars hc with rfl | hdigit
  · decide
  · exact isBlank_of_isDigit hdigit

/-- A whole number in decimal has no character that separates the parts of a setting. -/
theorem ne_of_mem_intChars {i : Int} {c : Char} (hc : c ∈ Value.intChars i) :
    c ≠ ',' ∧ c ≠ '=' := by
  rcases mem_intChars hc with rfl | hdigit
  · decide
  · constructor <;> rintro rfl <;> exact absurd hdigit (by decide)

/-- After the sign of a whole number come the digits of its size. -/
theorem signed_intChars (i : Int) :
    signed (Value.intChars i) = (decide (i < 0), Nat.toDigits 10 i.natAbs) := by
  rw [intChars_eq]
  by_cases hi : i < 0
  · rw [if_pos hi, decide_eq_true hi]
    rfl
  · rw [if_neg hi, decide_eq_false hi]
    cases hdigits : Nat.toDigits 10 i.natAbs with
    | nil => exact absurd hdigits Nat.toDigits_ne_nil
    | cons c cs =>
      have hc : c.isDigit = true := isDigit_of_mem_decimal (n := i.natAbs) (by simp [hdigits])
      unfold signed
      split
      · rename_i heq
        obtain rfl : c = '-' := (List.cons.inj heq).1
        exact absurd hc (by decide)
      · rename_i heq
        obtain rfl : c = '+' := (List.cons.inj heq).1
        exact absurd hc (by decide)
      · rfl

/-- **A whole number in decimal is read as itself**, if its digits are not too many. -/
theorem readInteger_intChars {i : Int} (hi : (Nat.toDigits 10 i.natAbs).length ≤ digitLimit) :
    readInteger (String.ofList (Value.intChars i)) = .ok i := by
  have hends : ∀ c ∈ Value.intChars i, isLiteralBlank c = false := fun c hc => by
    simp [isLiteralBlank, isBlank_of_mem_intChars hc]
  have hstrip : stripWhile isLiteralBlank (Value.intChars i) = Value.intChars i :=
    stripWhile_of_ends (fun c hc => hends c (List.mem_of_mem_head? hc))
      fun c hc => hends c (List.mem_of_mem_getLast? hc)
  have hrun : ∀ c ∈ Nat.toDigits 10 i.natAbs, isDigitOrUnderscore c = true := fun c hc => by
    simp [isDigitOrUnderscore, decimalValue?_of_isDigit (isDigit_of_mem_decimal hc)]
  have htake : (Nat.toDigits 10 i.natAbs).takeWhile isDigitOrUnderscore
      = Nat.toDigits 10 i.natAbs := List.takeWhile_eq_self_iff.mpr hrun
  have hdrop : (Nat.toDigits 10 i.natAbs).dropWhile isDigitOrUnderscore = [] :=
    List.dropWhile_eq_nil_iff.mpr hrun
  have hdigits := digits?_of_isDigit (Nat.toDigits_ne_nil (n := i.natAbs) (b := 10))
    fun c hc => isDigit_of_mem_decimal hc
  unfold readInteger
  simp only [String.toList_ofList, hstrip, signed_intChars, htake, hdrop, hdigits,
    List.length_map, ofDigits_toDigits]
  rw [if_neg (by omega), if_pos (by rfl)]
  by_cases hneg : i < 0
  · rw [if_pos (by simpa using hneg)]
    congr 1
    omega
  · rw [if_neg (by simpa using hneg)]
    congr 1
    omega

end Literal

/-! ## 2.  The table that a list of entries spells out -/

namespace Association

variable {κ α : Type} [DecidableEq κ]

theorem putAll_append (entries first second : List (κ × α)) :
    putAll entries (first ++ second) = putAll (putAll entries first) second := by
  rw [putAll, List.foldl_append]
  rfl

/-- **What is written last under a key stands under it.** -/
theorem lookup_putAll (entries others : List (κ × α)) (key : κ) :
    (putAll entries others).lookup key = (others.reverse.lookup key).or (entries.lookup key) := by
  induction others generalizing entries with
  | nil => rfl
  | cons entry others ih =>
    have hstep : putAll entries (entry :: others) = putAll (put entry.1 entry.2 entries) others :=
      rfl
    rw [hstep, ih, lookup_put, List.reverse_cons, List.lookup_append, Option.or_assoc]
    congr 1
    obtain ⟨k, v⟩ := entry
    by_cases hk : key = k
    · simp [hk]
    · have hne : (key == k) = false := by simpa using hk
      simp [hk, List.lookup_cons, hne]

/-- **The keys stand in the order in which they were first written.**  Those that were there before
come first. -/
theorem map_fst_putAll (entries others : List (κ × α)) :
    (putAll entries others).map Prod.fst =
      entries.map Prod.fst ++ (others.map Prod.fst).eraseDups.filter fun key => !has key entries := by
  induction others using List.reverseRecOn with
  | nil => simp
  | append_singleton others entry ih =>
    have hstep : putAll entries (others ++ [entry]) = put entry.1 entry.2 (putAll entries others) := by
      rw [putAll_append]
      rfl
    have hhas : entry.1 ∈ entries.map Prod.fst ↔ has entry.1 entries = true :=
      (has_iff entry.1 entries).symm
    rw [hstep, map_fst_put, ih, List.map_append, List.eraseDups_append, List.filter_append]
    -- the key is new unless it is among the others or was there before
    by_cases hmem : entry.1 ∈ others.map Prod.fst <;>
      by_cases hentry : has entry.1 entries = true <;>
        simp [hmem, hhas, hentry, List.removeAll, List.eraseDups_cons]

/-- Written into nothing, the keys stand in the order in which they come first. -/
theorem keys_putAll (others : List (κ × α)) :
    (putAll [] others).map Prod.fst = (others.map Prod.fst).eraseDups := by
  simp [map_fst_putAll, has]

/-- Writing repeats no key. -/
theorem nodup_putAll {entries : List (κ × α)} (h : (entries.map Prod.fst).Nodup)
    (others : List (κ × α)) : ((putAll entries others).map Prod.fst).Nodup := by
  induction others generalizing entries with
  | nil => exact h
  | cons entry others ih => exact ih (nodup_put _ _ h)

/-- No key is written twice. -/
theorem nodup_keys_putAll (others : List (κ × α)) :
    ((putAll [] others).map Prod.fst).Nodup :=
  nodup_putAll (show (([] : List (κ × α)).map Prod.fst).Nodup from List.nodup_nil) others

/-- A list of entries without repeated keys is told by its keys and what stands under them. -/
theorem eq_filterMap_lookup {entries : List (κ × α)} (hnodup : (entries.map Prod.fst).Nodup) :
    entries = (entries.map Prod.fst).filterMap fun key => (entries.lookup key).map (key, ·) := by
  induction entries with
  | nil => rfl
  | cons entry entries ih =>
    obtain ⟨k, v⟩ := entry
    obtain ⟨hk, hrest⟩ := List.nodup_cons.mp hnodup
    have hskip : ∀ key ∈ entries.map Prod.fst,
        ((k, v) :: entries).lookup key = entries.lookup key := fun key hkey => by
      have hne : (key == k) = false := by
        rw [beq_eq_false_iff_ne]
        rintro rfl
        exact hk hkey
      rw [List.lookup_cons, hne]
    have htail : ((entries.map Prod.fst).filterMap fun key =>
        (((k, v) :: entries).lookup key).map (key, ·)) = entries := by
      calc _ = (entries.map Prod.fst).filterMap fun key => (entries.lookup key).map (key, ·) :=
            List.filterMap_congr fun key hkey => by rw [hskip key hkey]
        _ = entries := (ih hrest).symm
    rw [List.map_cons, List.filterMap_cons_some (b := (k, v)) (by simp), htail]

end Association

namespace ChainUrls

open Text

/-- The table that a list of entries spells out: the chains in the order in which they come first,
each with the url that comes last. -/
def tableOf (entries : List (Int × String)) : ChainUrls :=
  (entries.map Prod.fst).eraseDups.filterMap fun chain =>
    (entries.reverse.lookup chain).map (chain, ·)

/-- Writing entries one after another makes their table. -/
theorem putAll_eq_tableOf (entries : List (Int × String)) :
    Association.putAll [] entries = tableOf entries := by
  have hlookup : ∀ chain, (Association.putAll [] entries).lookup chain =
      entries.reverse.lookup chain := fun chain => by
    rw [Association.lookup_putAll, List.lookup_nil, Option.or_none]
  rw [Association.eq_filterMap_lookup (Association.nodup_keys_putAll entries),
    Association.keys_putAll, tableOf]
  simp only [hlookup]

/-! ## 3.  What can be written -/

/-- Blanks, of any number and any script. -/
structure Blanks where
  /-- The characters. -/
  chars : List Char
  blank : ∀ c ∈ chars, isBlank c = true

/-- No blanks. -/
def Blanks.none : Blanks := ⟨[], fun _ hc => nomatch hc⟩

/-- A chain id that is not too long to be written in decimal and read back. -/
structure ChainId where
  /-- The number of the chain. -/
  number : Int
  short : (Nat.toDigits 10 number.natAbs).length ≤ Literal.digitLimit

/-- A url that a setting can carry.  Equals signs, and blanks inside, do no harm. -/
structure PlainUrl where
  /-- The url. -/
  text : String
  nonempty : text.toList ≠ []
  noComma : ',' ∉ text.toList
  firstNotBlank : ∀ c ∈ text.toList.head?, isBlank c = false
  lastNotBlank : ∀ c ∈ text.toList.getLast?, isBlank c = false

/-- A piece of a setting as somebody writes it. -/
inductive Written where
  /-- Nothing but blanks. -/
  | blank (blanks : Blanks)
  /-- A chain and its url, with blanks before and after each of them. -/
  | entry (beforeChain : Blanks) (chain : ChainId) (afterChain beforeUrl : Blanks) (url : PlainUrl)
    (afterUrl : Blanks)

namespace Written

/-- The characters of a piece. -/
def chars : Written → List Char
  | .blank blanks => blanks.chars
  | .entry beforeChain chain afterChain beforeUrl url afterUrl =>
    beforeChain.chars ++
      (Value.intChars chain.number ++ afterChain.chars ++ '=' ::
        (beforeUrl.chars ++ url.text.toList)) ++
      afterUrl.chars

/-- What a piece says. -/
def entry? : Written → Option (Int × String)
  | .blank _ => none
  | .entry _ chain _ _ url _ => some (chain.number, url.text)

end Written

/-- The setting made of some pieces. -/
def setting (pieces : List Written) : String :=
  String.ofList ([','].intercalate (pieces.map Written.chars))

theorem Blanks.notMem (blanks : Blanks) {c : Char} (hc : isBlank c = false) : c ∉ blanks.chars :=
  fun hmem => by simp [blanks.blank c hmem] at hc

/-! ## 4.  What is read -/

/-- A text without commas is one piece. -/
theorem pieces_of_noComma {cs : List Char} (hcs : ',' ∉ cs) : pieces cs = [cs] := by
  induction cs with
  | nil => rfl
  | cons c cs ih =>
    have hc : c ≠ ',' := fun h => hcs (by simp [h])
    have hrest : ',' ∉ cs := fun h => hcs (List.mem_cons_of_mem c h)
    rw [pieces, if_neg hc, ih hrest]

/-- No piece has a comma of its own. -/
theorem Written.noComma (w : Written) : ',' ∉ w.chars := by
  have hblank : isBlank ',' = false := by decide
  cases w with
  | blank blanks => exact blanks.notMem hblank
  | entry beforeChain chain afterChain beforeUrl url afterUrl =>
    have hchain : ',' ∉ Value.intChars chain.number := fun hmem =>
      (Literal.ne_of_mem_intChars hmem).1 rfl
    simp [Written.chars, beforeChain.notMem hblank, hchain, afterChain.notMem hblank,
      beforeUrl.notMem hblank, url.noComma, afterUrl.notMem hblank]

section

variable {piece front back : List Char}

theorem forall_ne_of_notMem (hfront : '=' ∉ front) : ∀ c ∈ front, (c != '=') = true := fun c hc => by
  rw [bne_iff_ne]
  rintro rfl
  exact hfront hc

/-- What is before the first equals sign. -/
theorem takeWhile_of_parts (hfront : '=' ∉ front) :
    (front ++ '=' :: back).takeWhile (· != '=') = front := by
  rw [List.takeWhile_append_of_pos (forall_ne_of_notMem hfront), List.takeWhile_cons_of_neg (by simp),
    List.append_nil]

/-- What begins with the first equals sign. -/
theorem dropWhile_of_parts (hfront : '=' ∉ front) :
    (front ++ '=' :: back).dropWhile (· != '=') = '=' :: back := by
  rw [List.dropWhile_append_of_pos (forall_ne_of_notMem hfront), List.dropWhile_cons_of_neg (by simp)]

/-- A piece is parted at its first equals sign. -/
theorem readPiece_of_parts {chain : Int} (hitem : strip piece = front ++ '=' :: back)
    (hfront : '=' ∉ front)
    (hchain : Literal.readInteger (String.ofList (strip front)) = .ok chain) (hurl : strip back ≠ []) :
    readPiece piece = .ok (some (chain, String.ofList (strip back))) := by
  unfold readPiece
  simp only [hitem, takeWhile_of_parts hfront, dropWhile_of_parts hfront, List.drop_one, List.tail_cons,
    hchain]
  rw [if_neg (by simp), if_neg (by simpa using hurl)]

end

/-- What is left of a chain id with blanks after it. -/
theorem ChainId.strip_chars (chain : ChainId) (after : Blanks) :
    strip (Value.intChars chain.number ++ after.chars) = Value.intChars chain.number := by
  have hends : ∀ c ∈ Value.intChars chain.number, isBlank c = false := fun c hc =>
    Literal.isBlank_of_mem_intChars hc
  exact strip_between Blanks.none.blank after.blank
    (fun c hc => hends c (List.mem_of_mem_head? hc))
    fun c hc => hends c (List.mem_of_mem_getLast? hc)

/-- What is left of a url with blanks before it. -/
theorem PlainUrl.strip_chars (url : PlainUrl) (before : Blanks) :
    strip (before.chars ++ url.text.toList) = url.text.toList := by
  have hstrip := strip_between before.blank Blanks.none.blank url.firstNotBlank url.lastNotBlank
  rwa [show Blanks.none.chars = [] from rfl, List.append_nil] at hstrip

/-- What is left of a piece: it begins with the chain id and ends with the url. -/
theorem Written.strip_entry (beforeChain : Blanks) (chain : ChainId) (afterChain beforeUrl : Blanks)
    (url : PlainUrl) (afterUrl : Blanks) :
    strip (Written.chars (.entry beforeChain chain afterChain beforeUrl url afterUrl)) =
      Value.intChars chain.number ++ afterChain.chars ++ '=' ::
        (beforeUrl.chars ++ url.text.toList) := by
  refine strip_between beforeChain.blank afterUrl.blank ?_ ?_
  · intro c hc
    rw [List.append_assoc, List.head?_append_of_ne_nil _ (Literal.intChars_ne_nil _)] at hc
    exact Literal.isBlank_of_mem_intChars (List.mem_of_mem_head? hc)
  · intro c hc
    rw [List.getLast?_append_of_ne_nil _ (by simp), ← List.cons_append,
      List.getLast?_append_of_ne_nil _ url.nonempty] at hc
    exact url.lastNotBlank c hc

/-- **A piece is read as what it says**, blanks and equals signs in the url notwithstanding. -/
theorem Written.readPiece_chars (w : Written) : readPiece w.chars = .ok w.entry? := by
  cases w with
  | blank blanks =>
    have hnil : strip blanks.chars = [] := (strip_eq_nil_iff _).mpr blanks.blank
    simp [readPiece, Written.chars, Written.entry?, hnil]
  | entry beforeChain chain afterChain beforeUrl url afterUrl =>
    -- The equals sign after the chain is the first one.
    have hfront : '=' ∉ Value.intChars chain.number ++ afterChain.chars := by
      intro hmem
      rcases List.mem_append.mp hmem with hmem | hmem
      · exact (Literal.ne_of_mem_intChars hmem).2 rfl
      · exact afterChain.notMem (by decide) hmem
    have hchain : Literal.readInteger
        (String.ofList (strip (Value.intChars chain.number ++ afterChain.chars))) =
          .ok chain.number := by
      rw [chain.strip_chars, Literal.readInteger_intChars chain.short]
    have hurl := url.strip_chars beforeUrl
    have hne : strip (beforeUrl.chars ++ url.text.toList) ≠ [] := by
      rw [hurl]
      exact url.nonempty
    rw [readPiece_of_parts (Written.strip_entry ..) hfront hchain hne, hurl, String.ofList_toList,
      Written.entry?]

theorem Written.addPiece_chars (urls : ChainUrls) (w : Written) :
    addPiece urls w.chars = .ok (Association.putAll urls w.entry?.toList) := by
  rw [addPiece, w.readPiece_chars]
  cases w.entry? <;> rfl

/-- Pieces joined by commas are read one after another, from whatever table there is. -/
theorem parseFrom_setting (urls : ChainUrls) (pieces : List Written) :
    parseFrom urls ([','].intercalate (pieces.map Written.chars)) =
      .ok (Association.putAll urls (pieces.filterMap Written.entry?)) := by
  have hpiece : ∀ (urls : ChainUrls) (w : Written),
      parseFrom urls w.chars = .ok (Association.putAll urls w.entry?.toList) := fun urls w => by
    rw [parseFrom, pieces_of_noComma w.noComma, List.foldlM_cons, w.addPiece_chars]
    rfl
  have hcons : ∀ (w : Written) (ws : List Written), (w :: ws).filterMap Written.entry? =
      w.entry?.toList ++ ws.filterMap Written.entry? := fun w ws => by
    rw [List.filterMap_cons]
    cases w.entry? <;> rfl
  induction pieces generalizing urls with
  | nil => exact hpiece urls (.blank .none)
  | cons w ws ih =>
    rw [hcons, Association.putAll_append]
    cases ws with
    | nil =>
      rw [List.map_singleton, List.intercalate_singleton]
      exact hpiece urls w
    | cons w' ws =>
      rw [List.map_cons, List.map_cons, List.intercalate_cons_cons, List.append_assoc,
        List.singleton_append, parseFrom_append, hpiece urls w]
      exact ih (Association.putAll urls w.entry?.toList)

/-- **What is written is what is read.**  However the pieces of a setting are spaced, and however many
of them say nothing, the setting is read as the table of the chains and urls that the others name: the
chains in the order of their first pieces, each with the url of its last. -/
theorem parse_setting (pieces : List Written) :
    parse (setting pieces) = .ok (tableOf (pieces.filterMap Written.entry?)) := by
  rw [parse, setting, String.toList_ofList, parseFrom_setting, putAll_eq_tableOf]

/-- A negative chain, listed twice, the first time with an equals sign and a blank in its url; a blank
piece; and blanks of other scripts. -/
example :
    parse "\u3000-5 =\thttp://a?k= v\u001f,,1=http://b,-5=http://c\u2003" =
      .ok [(-5, "http://c"), (1, "http://b")] := by
  decide +kernel

end ChainUrls
end Outbox
