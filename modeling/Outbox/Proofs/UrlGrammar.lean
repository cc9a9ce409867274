import Mathlib.Data.List.Forall2
import Mathlib.Data.List.ReduceOption
import Outbox.Proofs.IntegerLiterals

/-!
# The grammar of the setting of chain urls

The setting of chain urls grows by appending: whoever adds a chain writes a comma and another piece
behind what is there.  The reader goes through the pieces with a table in hand and stops at the first
bad one, so it is not evident that the appended part means what it means alone.  It does
(`parse_joined_and_grammar`): a setting made of two parts is refused for what the first is refused for,
else for what the second is refused for, and otherwise is the table of the first updated with the table
of the second.

Applied again and again this leaves the single pieces, and what a piece says is a matter of its
characters alone (`Reads`).  So the meaning of a setting is the table of what its pieces say
(`parse_eq_ok_iff`), and the settings that are accepted have a grammar: every piece between commas is
blank, or it has a first equals sign with a literal for a whole number before it and something that is
not blank after it.

## Why the table is the same

From a table that is not empty, the reader writes entries one after another into it.  To update a table
with another is something else: the keys that both have keep their places and get the new values, and
the keys that are new follow in the order of the second table (`Association.updated`).  Two tables
without repeated keys are the same if they have the same keys in the same order and the same values
under them (`Association.ext_of_nodup`), and these are compared.
-/

namespace Outbox

/-! ## 1.  Updating a table -/

namespace Association

variable {κ α : Type} [DecidableEq κ]

/-- The entries updated with others.  A key that is there keeps its place, and gets its value among the
others if it has one there; the keys that are only among the others follow, in their order. -/
def updated (entries others : List (κ × α)) : List (κ × α) :=
  (entries.map fun entry => (entry.1, (others.lookup entry.1).getD entry.2)) ++
    others.filter fun entry => !has entry.1 entries

theorem lookup_filter_key (p : κ → Bool) (entries : List (κ × α)) (key : κ) :
    (entries.filter fun entry => p entry.1).lookup key =
      if p key then entries.lookup key else none := by
  induction entries with
  | nil => simp
  | cons entry entries ih =>
    obtain ⟨k, v⟩ := entry
    by_cases hk : key = k
    · subst hk
      cases hp : p key with
      | true => simp [hp]
      | false => simpa [hp] using ih
    · have hne : (key == k) = false := by simpa using hk
      cases hp : p k with
      | true => simpa [hp, List.lookup_cons, hne] using ih
      | false => simpa [hp, List.lookup_cons, hne] using ih

/-- The values of the others win. -/
theorem lookup_updated (entries others : List (κ × α)) (key : κ) :
    (updated entries others).lookup key = (others.lookup key).or (entries.lookup key) := by
  rw [updated, List.lookup_append,
    lookup_map_value fun key value => (others.lookup key).getD value,
    lookup_filter_key fun key => !has key entries]
  cases hentry : entries.lookup key <;> cases hother : others.lookup key <;> simp [has, hentry]

theorem map_fst_updated (entries others : List (κ × α)) :
    (updated entries others).map Prod.fst =
      entries.map Prod.fst ++ (others.map Prod.fst).filter fun key => !has key entries := by
  rw [updated, List.map_append, List.map_map, List.filter_map]
  rfl

/-- Two lists of entries without repeated keys are the same if their keys are and what stands under
them is. -/
theorem ext_of_nodup {first second : List (κ × α)} (hnodup : (first.map Prod.fst).Nodup)
    (hkeys : first.map Prod.fst = second.map Prod.fst)
    (hlookup : ∀ key, first.lookup key = second.lookup key) : first = second := by
  calc first
      = (first.map Prod.fst).filterMap fun key => (first.lookup key).map (key, ·) :=
        eq_filterMap_lookup hnodup
    _ = (second.map Prod.fst).filterMap fun key => (second.lookup key).map (key, ·) := by
        simp only [hkeys, hlookup]
    _ = second := (eq_filterMap_lookup (hkeys ▸ hnodup)).symm

/-- **Writing entries into a table is updating it with the table that they make alone.** -/
theorem putAll_eq_updated {entries : List (κ × α)} (hnodup : (entries.map Prod.fst).Nodup)
    (others : List (κ × α)) : putAll entries others = updated entries (putAll [] others) := by
  refine ext_of_nodup (nodup_putAll hnodup others) ?_ fun key => ?_
  · rw [map_fst_putAll, map_fst_updated, keys_putAll]
  · rw [lookup_putAll, lookup_updated, lookup_putAll, List.lookup_nil, Option.or_none]

end Association

namespace ChainUrls

open Text

/-! ## 2.  What the pieces say, one after another -/

/-- The pieces are what splitting at commas leaves. -/
theorem pieces_eq_splitOn (cs : List Char) : pieces cs = cs.splitOn ',' := by
  induction cs with
  | nil => rfl
  | cons c cs ih =>
    rw [pieces, ih]
    unfold List.splitOn
    rw [List.splitOnP_cons_eq_if_modifyHead]
    by_cases hc : c = ','
    · rw [if_pos hc, if_pos (by simpa using hc)]
    · rw [if_neg hc, if_neg (by simpa using hc)]
      cases hrest : cs.splitOnP (· == ',') with
      | nil => exact absurd hrest (List.splitOnP_ne_nil _ _)
      | cons piece rest => rfl

/-- **Nothing that is in the table already matters to what is read.**  The pieces are read one by one,
up to the first that is refused, and what they say is written into the table. -/
theorem foldlM_addPiece (urls : ChainUrls) (ps : List (List Char)) :
    ps.foldlM addPiece urls =
      (ps.mapM readPiece).map fun said => Association.putAll urls said.reduceOption := by
  induction ps generalizing urls with
  | nil => rfl
  | cons piece ps ih =>
    rw [List.foldlM_cons, List.mapM_cons, addPiece]
    cases readPiece piece with
    | error e => rfl
    | ok what =>
      cases what with
      | none =>
        refine (ih urls).trans ?_
        cases ps.mapM readPiece <;> rfl
      | some entry =>
        refine (ih (Association.put entry.1 entry.2 urls)).trans ?_
        cases ps.mapM readPiece <;> rfl

/-- What is read into a table is the table updated with what is read alone. -/
theorem parseFrom_eq_map {urls : ChainUrls} (hnodup : (urls.map Prod.fst).Nodup) (cs : List Char) :
    parseFrom urls cs = (parseFrom [] cs).map (Association.updated urls) := by
  simp only [parseFrom, foldlM_addPiece]
  cases (pieces cs).mapM readPiece with
  | error e => rfl
  | ok said => exact congrArg Except.ok (Association.putAll_eq_updated hnodup _)

/-- No chain is listed twice in what is read. -/
theorem nodup_of_parse {raw : String} {urls : ChainUrls} (h : parse raw = .ok urls) :
    (urls.map Prod.fst).Nodup := by
  rw [parse, parseFrom, foldlM_addPiece] at h
  cases hsaid : (pieces raw.toList).mapM readPiece with
  | error e => rw [hsaid] at h; exact absurd h (by simp [Except.map])
  | ok said =>
    rw [hsaid] at h
    obtain rfl := Except.ok.inj h
    exact Association.nodup_keys_putAll _

/-- **Two settings joined by a comma are refused for what the first is refused for, else for what the
second is refused for, and otherwise say what the first says updated with what the second says.** -/
theorem parse_append (a b : String) :
    parse (a ++ "," ++ b) = (parse a).bind fun urls => (parse b).map (Association.updated urls) := by
  have hsplit : (a ++ "," ++ b).toList = a.toList ++ ',' :: b.toList := by
    rw [String.toList_append, String.toList_append, List.append_assoc]
    rfl
  rw [parse, hsplit, parseFrom_append, ← parse]
  cases ha : parse a with
  | error e => rfl
  | ok urls => exact parseFrom_eq_map (nodup_of_parse ha) b.toList

/-! ## 3.  What a piece says -/

/-- What a piece says: nothing, if it is blank; otherwise the number before its first equals sign and
what is left, without the blanks around it, of the text after it. -/
inductive Reads (piece : List Char) : Option (Int × String) → Prop
  | nothing (hblank : ∀ c ∈ piece, isBlank c = true) : Reads piece none
  | entry {front back : List Char} {chain : Int} (hpiece : piece = front ++ '=' :: back)
      (hfront : '=' ∉ front) (hchain : Literal.Says front chain)
      (hback : ∃ c ∈ back, isBlank c = false) :
      Reads piece (some (chain, String.ofList (strip back)))

/-- Blanks before a text do not change what is left of it. -/
theorem strip_blanks_append {before : List Char} (hbefore : ∀ c ∈ before, isBlank c = true)
    (cs : List Char) : strip (before ++ cs) = strip cs := by
  have happend := strip_append_blank cs hbefore (List.forall_mem_nil (isBlank · = true))
  rwa [List.append_nil] at happend

/-- Blanks after a text do not change what is left of it. -/
theorem strip_append_blanks (cs : List Char) {after : List Char}
    (hafter : ∀ c ∈ after, isBlank c = true) : strip (cs ++ after) = strip cs :=
  strip_append_blank cs (List.forall_mem_nil (isBlank · = true)) hafter

theorem strip_dropWhile (cs : List Char) : strip (cs.dropWhile isBlank) = strip cs := by
  have hbefore : ∀ c ∈ cs.takeWhile isBlank, isBlank c = true :=
    List.all_eq_true.mp List.all_takeWhile
  have happend := strip_blanks_append hbefore (cs.dropWhile isBlank)
  rw [List.takeWhile_append_dropWhile] at happend
  exact happend.symm

theorem strip_stripEnd (cs : List Char) : strip (stripEnd isBlank cs) = strip cs := by
  obtain ⟨after, hafter, hcs⟩ := exists_stripEnd isBlank cs
  conv_rhs => rw [hcs]
  exact (strip_append_blanks (stripEnd isBlank cs) hafter).symm

/-- A piece is trimmed on the two sides of a character that is not blank. -/
theorem strip_append_cons {c : Char} (hc : isBlank c = false) (front back : List Char) :
    strip (front ++ c :: back) = front.dropWhile isBlank ++ c :: stripEnd isBlank back := by
  have hdrop : (front ++ c :: back).dropWhile isBlank = front.dropWhile isBlank ++ c :: back := by
    induction front with
    | nil => simp [hc]
    | cons d front ih =>
      cases hd : isBlank d with
      | true => simpa [hd] using ih
      | false => simp [hd]
  have hend : ∀ ds : List Char,
      stripEnd isBlank (ds ++ c :: back) = ds ++ c :: stripEnd isBlank back := fun ds => by
    induction ds with
    | nil =>
      rw [List.nil_append, List.nil_append, stripEnd]
      cases stripEnd isBlank back <;> simp [hc]
    | cons d ds ih =>
      rw [List.cons_append, stripEnd, ih, List.cons_append]
      cases ds <;> rfl
  rw [strip, stripWhile, hdrop, hend]

theorem strip_ne_nil_iff {cs : List Char} : strip cs ≠ [] ↔ ∃ c ∈ cs, isBlank c = false := by
  rw [Ne, strip_eq_nil_iff]
  simp

/-- A piece of which nothing is read is blank. -/
theorem blank_of_readPiece {piece : List Char} (h : readPiece piece = .ok none) :
    ∀ c ∈ piece, isBlank c = true := by
  unfold readPiece at h
  simp only at h
  split at h
  · rename_i hblank
    exact (strip_eq_nil_iff piece).mp (List.isEmpty_iff.mp hblank)
  split at h
  · exact absurd h (by simp)
  split at h
  · exact absurd h (by simp)
  · exact absurd (Except.ok.inj h) (by simp)

/-- An entry is read from the two parts of what is left of a piece without the blanks around it. -/
theorem exists_parts {piece : List Char} {entry : Int × String} (h : readPiece piece = .ok (some entry)) :
    ∃ front back, strip piece = front ++ '=' :: back ∧ '=' ∉ front ∧
      Literal.readInteger (String.ofList (strip front)) = .ok entry.1 ∧ strip back ≠ [] ∧
        entry.2 = String.ofList (strip back) := by
  unfold readPiece at h
  simp only at h
  split at h
  · exact absurd (Except.ok.inj h) (by simp)
  split at h
  · exact absurd h (by simp)
  · rename_i hparts
    simp only [Bool.or_eq_true, Bool.not_eq_true', not_or, Bool.not_eq_false, List.contains_iff_mem,
      List.isEmpty_iff] at hparts
    obtain ⟨hmem, hurl⟩ := hparts
    obtain ⟨front, back, hitem, hfront⟩ := List.eq_append_cons_of_mem hmem
    rw [hitem, dropWhile_of_parts hfront, List.drop_one, List.tail_cons] at hurl
    rw [hitem, takeWhile_of_parts hfront, dropWhile_of_parts hfront] at h
    split at h
    · exact absurd h (by simp)
    · rename_i chain hchain
      obtain rfl := Option.some.inj (Except.ok.inj h)
      exact ⟨front, back, hitem, hfront, hchain, hurl, rfl⟩

/-- **A piece is read as what it says, and is refused if it says nothing that can be read.** -/
theorem readPiece_eq_ok_iff {piece : List Char} {what : Option (Int × String)} :
    readPiece piece = .ok what ↔ Reads piece what := by
  constructor
  · intro h
    cases what with
    | none => exact .nothing (blank_of_readPiece h)
    | some entry =>
      obtain ⟨chain, url⟩ := entry
      obtain ⟨front, back, hitem, hfront, hchain, hurl, rfl⟩ := exists_parts h
      -- The blanks around the piece are before its front and behind its back.
      obtain ⟨before, after, hbefore, hafter, hpiece⟩ := exists_stripWhile isBlank piece
      have hfront' : strip (before ++ front) = strip front := strip_blanks_append hbefore front
      have hback' : strip (back ++ after) = strip back := strip_append_blanks back hafter
      have hsplit : piece = (before ++ front) ++ '=' :: (back ++ after) := by
        calc piece = before ++ strip piece ++ after := hpiece
          _ = (before ++ front) ++ '=' :: (back ++ after) := by simp [hitem]
      have hnotMem : '=' ∉ before ++ front := fun hc =>
        (List.mem_append.mp hc).elim (fun hc => absurd (hbefore _ hc) (by decide)) hfront
      rw [← hback']
      refine .entry hsplit hnotMem ?_ (strip_ne_nil_iff.mp (by rwa [hback']))
      rwa [← Literal.readInteger_strip_eq_ok_iff, hfront']
  · rintro (hblank | ⟨rfl, hfront, hchain, hback⟩)
    · simp [readPiece, (strip_eq_nil_iff piece).mpr hblank]
    · rename_i front back chain
      have hnumber : Literal.readInteger (String.ofList (strip (front.dropWhile isBlank))) = .ok chain :=
        by rwa [strip_dropWhile, Literal.readInteger_strip_eq_ok_iff]
      have hread := readPiece_of_parts (strip_append_cons (by decide) front back)
        (fun hmem => hfront ((List.dropWhile_sublist _).subset hmem)) hnumber
        (by rwa [strip_stripEnd, strip_ne_nil_iff])
      rwa [strip_stripEnd] at hread

/-! ## 4.  The grammar -/

/-- A piece is well formed: it is blank, or it has a first equals sign with a literal for a whole number
before it and something that is not blank after it. -/
def WellFormed (piece : List Char) : Prop :=
  (∀ c ∈ piece, isBlank c = true) ∨
    ∃ front back, piece = front ++ '=' :: back ∧ '=' ∉ front ∧
      (∃ chain, Literal.Says front chain) ∧ ∃ c ∈ back, isBlank c = false

/-- A piece is well formed exactly if it says something that can be read. -/
theorem wellFormed_iff {piece : List Char} : WellFormed piece ↔ ∃ what, Reads piece what := by
  constructor
  · rintro (hblank | ⟨front, back, hpiece, hfront, ⟨chain, hchain⟩, hback⟩)
    · exact ⟨none, .nothing hblank⟩
    · exact ⟨_, .entry hpiece hfront hchain hback⟩
  · rintro ⟨what, hblank | ⟨hpiece, hfront, hchain, hback⟩⟩
    · exact .inl hblank
    · exact .inr ⟨_, _, hpiece, hfront, ⟨_, hchain⟩, hback⟩

/-- All pieces say something exactly if each of them is well formed. -/
theorem exists_forall₂_reads {ps : List (List Char)} :
    (∃ said, List.Forall₂ Reads ps said) ↔ ∀ piece ∈ ps, WellFormed piece := by
  induction ps with
  | nil => simp
  | cons piece ps ih =>
    rw [List.forall_mem_cons, wellFormed_iff, ← ih]
    simp only [List.forall₂_cons_left_iff]
    constructor
    · rintro ⟨_, what, said, hwhat, hsaid, rfl⟩
      exact ⟨⟨what, hwhat⟩, said, hsaid⟩
    · rintro ⟨⟨what, hwhat⟩, said, hsaid⟩
      exact ⟨_, what, said, hwhat, hsaid, rfl⟩

/-- The pieces are read as what they say, one by one. -/
theorem mapM_readPiece_eq_ok_iff {ps : List (List Char)} {said : List (Option (Int × String))} :
    ps.mapM readPiece = .ok said ↔ List.Forall₂ Reads ps said := by
  induction ps generalizing said with
  | nil =>
    rw [List.mapM_nil, List.forall₂_nil_left_iff]
    exact ⟨fun h => (Except.ok.inj h).symm, fun h => congrArg Except.ok h.symm⟩
  | cons piece ps ih =>
    rw [List.mapM_cons, List.forall₂_cons_left_iff]
    constructor
    · intro h
      cases hwhat : readPiece piece with
      | error e =>
        rw [hwhat] at h
        cases h
      | ok what =>
        cases hrest : ps.mapM readPiece with
        | error e =>
          rw [hwhat, hrest] at h
          cases h
        | ok rest =>
          rw [hwhat, hrest] at h
          obtain rfl := Except.ok.inj h
          exact ⟨what, rest, readPiece_eq_ok_iff.mp hwhat, ih.mp hrest, rfl⟩
    · rintro ⟨what, rest, hwhat, hrest, rfl⟩
      rw [readPiece_eq_ok_iff.mpr hwhat, ih.mpr hrest]
      rfl

/-- **A setting means the table of what its pieces say.** -/
theorem parse_eq_ok_iff {raw : String} {urls : ChainUrls} :
    parse raw = .ok urls ↔
      ∃ said, List.Forall₂ Reads (raw.toList.splitOn ',') said ∧ urls = tableOf said.reduceOption := by
  have hparse : parse raw = ((pieces raw.toList).mapM readPiece).map fun said =>
      tableOf said.reduceOption := by
    simp only [parse, parseFrom, foldlM_addPiece, putAll_eq_tableOf]
  simp only [hparse, ← pieces_eq_splitOn, ← mapM_readPiece_eq_ok_iff]
  cases (pieces raw.toList).mapM readPiece with
  | error e =>
    refine iff_of_false ?_ ?_
    · intro h
      cases h
    · rintro ⟨said, h, -⟩
      cases h
  | ok said =>
    constructor
    · intro h
      exact ⟨said, rfl, (Except.ok.inj h).symm⟩
    · rintro ⟨other, h, rfl⟩
      obtain rfl := Except.ok.inj h
      rfl

/-- The chains of a setting have numbers that can be written. -/
theorem isWritable_of_parse {raw : String} {urls : ChainUrls} (h : parse raw = .ok urls) :
    ∀ entry ∈ urls, Literal.isWritable entry.1 = true := by
  obtain ⟨said, hsaid, rfl⟩ := parse_eq_ok_iff.mp h
  intro entry hentry
  obtain ⟨chain, hchain, hsome⟩ := List.mem_filterMap.mp hentry
  obtain ⟨url, -, rfl⟩ := Option.map_eq_some_iff.mp hsome
  obtain ⟨what, hwhat, rfl⟩ := List.mem_map.mp (List.mem_eraseDups.mp hchain)
  have hmem : some what ∈ said := List.reduceOption_mem_iff.mp hwhat
  obtain ⟨i, hi, hget⟩ := List.getElem_of_mem hmem
  have hreads := List.Forall₂.get hsaid (hsaid.length_eq.symm ▸ hi) hi
  simp only [List.get_eq_getElem, hget] at hreads
  obtain - | ⟨-, -, ⟨before, literal, after, -, hliteral⟩, -⟩ := hreads
  exact hliteral.isWritable

/-- A setting is accepted exactly if all its pieces are well formed. -/
theorem exists_parse_iff {raw : String} :
    (∃ urls, parse raw = .ok urls) ↔ ∀ piece ∈ raw.toList.splitOn ',', WellFormed piece := by
  simp only [parse_eq_ok_iff, ← exists_forall₂_reads]
  constructor
  · rintro ⟨urls, said, hsaid, -⟩
    exact ⟨said, hsaid⟩
  · rintro ⟨said, hsaid⟩
    exact ⟨_, said, hsaid, rfl⟩

/-- **The setting of chain urls is read part by part, and its parts have a grammar.**  A setting of two
parts with a comma between them is refused for exactly what the first part is refused for, if it is;
else for exactly what the second is refused for, if it is; else it is the table of the first part
updated with the table of the second.  A setting means the table of what its pieces between commas say,
and it is accepted exactly if every piece is well formed. -/
theorem parse_joined_and_grammar :
    (∀ a b : String, parse (a ++ "," ++ b) =
      match parse a, parse b with
      | .error e, _ => .error e
      | .ok _, .error e => .error e
      | .ok urls, .ok others => .ok (Association.updated urls others)) ∧
    (∀ (raw : String) (urls : ChainUrls), parse raw = .ok urls ↔
      ∃ said, List.Forall₂ Reads (raw.toList.splitOn ',') said ∧ urls = tableOf said.reduceOption) ∧
    ∀ raw : String,
      (∃ urls, parse raw = .ok urls) ↔ ∀ piece ∈ raw.toList.splitOn ',', WellFormed piece := by
  refine ⟨fun a b => ?_, fun raw urls => parse_eq_ok_iff, fun raw => exists_parse_iff⟩
  rw [parse_append]
  cases parse a with
  | error e => rfl
  | ok urls => cases parse b <;> rfl

/-- The second part gives the first chain another url, in its place, and lists another. -/
example :
    Association.updated [(1, "http://a"), (5, "http://b")] [(7, "http://c"), (1, "http://d")] =
      [(1, "http://d"), (5, "http://b"), (7, "http://c")] := by
  decide

end ChainUrls
end Outbox
