import Outbox.Proofs.Lines
import Outbox.Proofs.Spellings

/-!
# Which senders are accepted, and as what

Everything that is kept about a sender is kept under one text, and that text is what `normalize` makes
of the value that names the sender.  This module says for every value what comes of it, in terms of the
characters of the value alone.

A value is accepted exactly when it is a spelling (`IsSpelling`): a text of forty hexadecimal digits
behind `0x`, `0X` or nothing, not all of them zeros, and if letters of both cases occur among them, the
checksummed text of these digits to the letter.  Everything else is refused, with a complaint about the
options and no other.

What an accepted value becomes has the same digits but for the case of the letters.  It is a spelling
again, becomes itself, and is shared by two accepted values exactly when they stand for the same twenty
bytes.  So no account has two texts, and no two accounts share one (`normalize_spec`).

## The checksum

`checksummed` works on the digits as characters, as the rule for checksums is usually told: put the
letters in lower case, take the digest of the result, and make a letter capital where the digest is at
least eight.  That this is the text the library writes is `checksumDigits_eq`.  Nothing is used of the
digest but that the lower-case digits determine it.
-/

namespace Outbox
namespace Address

open Text

/-! ## 1.  Hexadecimal digits -/

/-- The hexadecimal digits. -/
def hexDigits : List Char := "0123456789abcdefABCDEF".toList

/-- The hexadecimal digits are the characters that stand for a nibble. -/
theorem mem_hexDigits_iff {c : Char} : c ∈ hexDigits ↔ ∃ n, nibble? c = some n := by
  constructor
  · intro hc
    have hall : hexDigits.all (fun c => (nibble? c).isSome) = true := by decide
    exact Option.isSome_iff_exists.mp (List.all_eq_true.mp hall c hc)
  · rintro ⟨n, hn⟩
    have hall : ∀ n : Nibble, n.lowerDigit ∈ hexDigits ∧ n.upperDigit ∈ hexDigits := by decide
    rcases eq_digit_of_nibble? hn with rfl | rfl
    · exact (hall n).1
    · exact (hall n).2

/-- In lower case every digit of a nibble is the same. -/
theorem toLower_of_nibble? {c : Char} {n : Nibble} (h : nibble? c = some n) :
    c.toLower = n.lowerDigit := by
  have hall : ∀ n : Nibble, n.lowerDigit.toLower = n.lowerDigit ∧
      n.upperDigit.toLower = n.lowerDigit := by decide
  rcases eq_digit_of_nibble? h with rfl | rfl
  · exact (hall n).1
  · exact (hall n).2

theorem lowerDigit_injective {m n : Nibble} (h : m.lowerDigit = n.lowerDigit) : m = n := by
  have hread := nibble?_lowerDigit m
  rw [h, nibble?_lowerDigit n] at hread
  exact (Option.some.inj hread).symm

/-- Hexadecimal digits have nibbles, and in lower case they are the lower-case digits of these. -/
theorem nibbles?_of_hex {digits : List Char} (hdigits : ∀ c ∈ digits, c ∈ hexDigits) :
    ∃ ns, nibbles? digits = some ns ∧ digits.map Char.toLower = ns.map Nibble.lowerDigit := by
  induction digits with
  | nil => exact ⟨[], rfl, rfl⟩
  | cons c cs ih =>
    obtain ⟨n, hn⟩ := mem_hexDigits_iff.mp (hdigits c (by simp))
    obtain ⟨ns, hns, hlower⟩ := ih fun d hd => hdigits d (List.mem_cons_of_mem c hd)
    refine ⟨n :: ns, ?_, ?_⟩
    · rw [nibbles?, hn, hns]
    · rw [List.map_cons, List.map_cons, toLower_of_nibble? hn, hlower]

/-- What is read as nibbles is made of hexadecimal digits. -/
theorem hex_of_nibbles? {digits : List Char} {ns : List Nibble} (h : nibbles? digits = some ns) :
    ∀ c ∈ digits, c ∈ hexDigits := by
  induction digits generalizing ns with
  | nil => simp
  | cons c cs ih =>
    unfold nibbles? at h
    split at h
    · rename_i n ms hn hms
      intro d hd
      rcases List.mem_cons.mp hd with rfl | hd
      · exact mem_hexDigits_iff.mpr ⟨n, hn⟩
      · exact ih hms d hd
    · exact absurd h (by simp)

/-! ## 2.  Forms -/

/-- A text is a heading and forty hexadecimal digits. -/
structure IsForm (s : String) (heading digits : List Char) : Prop where
  chars : s.toList = heading ++ digits
  heading : heading ∈ headings
  length : digits.length = 40
  hex : ∀ c ∈ digits, c ∈ hexDigits

/-- No hexadecimal digit is taken for a part of a heading. -/
theorem IsForm.unprefixed_eq {s : String} {heading digits : List Char}
    (h : IsForm s heading digits) : unprefixed s.toList = digits := by
  have hmark {c : Char} (hc : c ∉ hexDigits) : c ∉ digits := fun hmem => hc (h.hex c hmem)
  rw [h.chars, unprefixed_append h.heading (hmark (by decide)) (hmark (by decide))]

/-- What follows the heading of a text, and the heading. -/
theorem exists_heading (cs : List Char) : ∃ heading ∈ headings, cs = heading ++ unprefixed cs := by
  unfold unprefixed
  split
  · exact ⟨['0', 'x'], by simp [headings], rfl⟩
  · exact ⟨['0', 'X'], by simp [headings], rfl⟩
  · exact ⟨[], by simp [headings], rfl⟩

/-- **A text spells an account exactly when it has the form of one and its digits are, but for the
case of letters, those of the account.** -/
theorem spelled?_iff {s : String} {a : Address} :
    spelled? s.toList = some a ↔
      ∃ heading digits, IsForm s heading digits ∧ digits.map Char.toLower = a.lowerDigits := by
  constructor
  · intro h
    obtain ⟨heading, hheading, hchars⟩ := exists_heading s.toList
    obtain ⟨ns, hns, hof⟩ := Option.bind_eq_some_iff.mp h
    have hhex := hex_of_nibbles? hns
    have ha : ns.length = 40 ∧ a.nibbles = ns := by
      unfold ofNibbles? at hof
      split at hof
      · rename_i hlength
        cases hof
        exact ⟨hlength, rfl⟩
      · exact absurd hof (by simp)
    obtain ⟨ms, hms, hlower⟩ := nibbles?_of_hex hhex
    obtain rfl : ns = ms := Option.some.inj (hns.symm.trans hms)
    refine ⟨heading, unprefixed s.toList, ⟨hchars, hheading, ?_, hhex⟩, ?_⟩
    · rw [← length_of_nibbles? hns]
      exact ha.1
    · rw [hlower, lowerDigits, ha.2]
  · rintro ⟨heading, digits, hform, hlower⟩
    obtain ⟨ns, hns, hdigits⟩ := nibbles?_of_hex hform.hex
    have heq : ns = a.nibbles :=
      List.map_injective_iff.mpr (fun _ _ h => lowerDigit_injective h) (hdigits.symm.trans hlower)
    rw [spelled?, hform.unprefixed_eq, ofDigits?, hns, heq]
    exact ofNibbles?_nibbles a

/-! ## 3.  The checksum -/

/-- The digits with letters as the checksum says. -/
def checksummed (digits : List Char) : List Char :=
  let lower := digits.map Char.toLower
  let digest := digestNibbles lower
  lower.mapIdx fun i c => if 8 ≤ (digest.getD i (.ofNat 0)).val then c.toUpper else c

/-- The checksum of an account is that of its digits, whatever their case. -/
theorem checksumDigits_eq {a : Address} {digits : List Char}
    (h : digits.map Char.toLower = a.lowerDigits) : a.checksumDigits = checksummed digits := by
  have hdigit : ∀ n digest : Nibble, checksumDigit n digest =
      if 8 ≤ digest.val then n.lowerDigit.toUpper else n.lowerDigit := by decide
  unfold checksumDigits checksummed
  simp only [h]
  refine List.ext_getElem (by simp [lowerDigits]) fun i hi hi' => ?_
  simp [hdigit, lowerDigits]

/-- The digits of a checksummed text are, but for the case of letters, those of the account. -/
theorem map_toLower_checksumDigits (a : Address) :
    a.checksumDigits.map Char.toLower = a.lowerDigits := by
  have hread := nibbles?_checksumDigits a
  obtain ⟨ns, hns, hlower⟩ := nibbles?_of_hex (hex_of_nibbles? hread)
  rw [hlower, ← Option.some.inj (hread.symm.trans hns), lowerDigits]

/-- The text of an account has the form of one. -/
theorem isForm_text (a : Address) : IsForm a.text ['0', 'x'] a.checksumDigits where
  chars := String.toList_ofList
  heading := by simp [headings]
  length := length_checksumDigits a
  hex := hex_of_nibbles? (nibbles?_checksumDigits a)

theorem lowerDigits_injective {a b : Address} (h : a.lowerDigits = b.lowerDigits) : a = b :=
  ext_nibbles (List.map_injective_iff.mpr (fun _ _ h => lowerDigit_injective h) h)

/-- An account is nobody's exactly when all its digits are zeros. -/
theorem eq_zero_iff {s : String} {heading digits : List Char} {a : Address}
    (hform : IsForm s heading digits) (h : digits.map Char.toLower = a.lowerDigits) :
    a = zero ↔ ∀ c ∈ digits, c = '0' := by
  constructor
  · rintro rfl c hc
    have hlower : c.toLower ∈ lowerDigits zero := h ▸ List.mem_map_of_mem hc
    have hzero : c.toLower = '0' := by
      simp only [lowerDigits, zero, List.map_replicate] at hlower
      exact List.eq_of_mem_replicate hlower
    have hall : hexDigits.all (fun c => c.toLower != '0' || c == '0') = true := by decide
    simpa [hzero] using List.all_eq_true.mp hall c (hform.hex c hc)
  · intro hall
    refine lowerDigits_injective ?_
    rw [← h, List.eq_replicate_iff.mpr ⟨hform.length, hall⟩]
    rfl

/-! ## 4.  What is accepted -/

/-- A text is one of those in which the sender of a transaction may be written. -/
structure IsSpelling (s : String) (heading digits : List Char) : Prop
    extends IsForm s heading digits where
  nonzero : ∃ c ∈ digits, c ≠ '0'
  checksum : (∃ c ∈ digits, c.isUpper = true) → (∃ c ∈ digits, c.isLower = true) →
    s = String.ofList ('0' :: 'x' :: checksummed digits)

/-- A value is accepted exactly when it is a text that spells an account other than nobody's, and is
the text of the account if it has letters of both cases. -/
theorem accept_eq_ok_iff {v : Value} {a : Address} :
    accept v = .ok a ↔ ∃ s, v = .text s ∧ spelled? s.toList = some a ∧
      (hasBothCases (unprefixed s.toList) = true → s = a.text) ∧ a ≠ zero := by
  constructor
  · intro h
    have hne := ne_zero_of_accept h
    cases v with
    | text s =>
      have hspelled := spelled?_of_accept h
      refine ⟨s, rfl, hspelled, fun hboth => ?_, hne⟩
      unfold accept at h
      simp only [hspelled, hboth, Bool.true_and] at h
      split at h
      · exact absurd h (by simp)
      split at h
      · exact absurd h (by simp)
      · rename_i htext
        simpa using htext
    | _ => exact absurd h (by simp [accept])
  · rintro ⟨s, rfl, hspelled, hboth, hne⟩
    have hempty : s ≠ "" := by
      rintro rfl
      have hnone : spelled? "".toList = none := by decide
      exact absurd (hspelled.symm.trans hnone) (by simp)
    have hchecked : (hasBothCases (unprefixed s.toList) && s != a.text) = false := by
      cases h : hasBothCases (unprefixed s.toList) with
      | false => rfl
      | true => simp [hboth h]
    simp [accept, hempty, hspelled, hchecked, hne]

/-- **A value is accepted as an account exactly when it is a spelling with the digits of the
account.** -/
theorem accept_iff_spelling {v : Value} {a : Address} :
    accept v = .ok a ↔ ∃ s heading digits, v = .text s ∧ IsSpelling s heading digits ∧
      digits.map Char.toLower = a.lowerDigits := by
  have hboth (digits : List Char) : hasBothCases digits = true ↔
      (∃ c ∈ digits, c.isUpper = true) ∧ ∃ c ∈ digits, c.isLower = true := by
    simp [hasBothCases]
  rw [accept_eq_ok_iff]
  constructor
  · rintro ⟨s, rfl, hspelled, hchecksum, hne⟩
    obtain ⟨heading, digits, hform, hlower⟩ := spelled?_iff.mp hspelled
    refine ⟨s, heading, digits, rfl, ⟨hform, ?_, fun hupper hlow => ?_⟩, hlower⟩
    · by_contra hall
      exact hne ((eq_zero_iff hform hlower).mpr (by simpa using hall))
    · rw [hform.unprefixed_eq] at hchecksum
      rw [← checksumDigits_eq hlower]
      exact hchecksum ((hboth digits).mpr ⟨hupper, hlow⟩)
  · rintro ⟨s, heading, digits, rfl, hspelling, hlower⟩
    refine ⟨s, rfl, spelled?_iff.mpr ⟨heading, digits, hspelling.toIsForm, hlower⟩, fun h => ?_, ?_⟩
    · rw [hspelling.unprefixed_eq] at h
      obtain ⟨hupper, hlow⟩ := (hboth digits).mp h
      rw [hspelling.checksum hupper hlow, text, chars, checksumDigits_eq hlower]
    · intro hzero
      obtain ⟨c, hc, hne⟩ := hspelling.nonzero
      exact hne ((eq_zero_iff hspelling.toIsForm hlower).mp hzero c hc)

/-! ## 5.  Bytes -/

/-- The two digits of a byte tell the byte. -/
theorem fixedHex_injective {m n : UInt8} (h : fixedHex 2 m.toNat = fixedHex 2 n.toNat) : m = n := by
  simp only [fixedHex, List.nil_append, List.cons_append, List.cons.injEq, and_true] at h
  have hhigh := congrArg Fin.val (lowerDigit_injective h.1)
  have hlow := congrArg Fin.val (lowerDigit_injective h.2)
  simp only [Nibble.ofNat] at hhigh hlow
  have hm := m.toNat_lt
  have hn := n.toNat_lt
  exact UInt8.toNat_inj.mp (by omega)

/-- Two digits for each byte tell the bytes. -/
theorem bytesHex_injective {bytes others : List UInt8} (h : bytesHex bytes = bytesHex others) :
    bytes = others := by
  induction bytes generalizing others with
  | nil =>
    cases others with
    | nil => rfl
    | cons n ns => exact absurd (congrArg List.length h) (by simp [bytesHex]; omega)
  | cons m ms ih =>
    cases others with
    | nil => exact absurd (congrArg List.length h) (by simp [bytesHex])
    | cons n ns =>
      simp only [bytesHex, List.flatMap_cons] at h
      obtain ⟨hfirst, hrest⟩ := List.append_inj h (by simp)
      rw [fixedHex_injective hfirst, ih hrest]

/-- Nibbles are the digits of half as many bytes. -/
theorem exists_bytesHex (count : Nat) {ns : List Nibble} (hlength : ns.length = 2 * count) :
    ∃ bytes : List UInt8, bytes.length = count ∧ bytesHex bytes = ns.map Nibble.lowerDigit := by
  have hpair : ∀ high low : Nibble, fixedHex 2 (UInt8.ofNat (16 * high.val + low.val)).toNat =
      [high.lowerDigit, low.lowerDigit] := by decide +kernel
  induction count generalizing ns with
  | zero => exact ⟨[], rfl, by rw [List.length_eq_zero_iff.mp hlength]; rfl⟩
  | succ count ih =>
    match ns, hlength with
    | high :: low :: ns, hlength =>
      have hrest : ns.length = 2 * count := by simpa [Nat.mul_succ] using hlength
      obtain ⟨bytes, hcount, hdigits⟩ := ih hrest
      refine ⟨UInt8.ofNat (16 * high.val + low.val) :: bytes, by simp [hcount], ?_⟩
      rw [bytesHex, List.flatMap_cons, hpair]
      simp only [List.map_cons, List.cons_append, List.nil_append]
      rw [← hdigits, bytesHex]
    | [_], hlength => simp at hlength; omega

/-- A value is a text with the form of an account, and its digits are those of the bytes. -/
def Denotes (v : Value) (bytes : List UInt8) : Prop :=
  ∃ s heading digits, v = .text s ∧ IsForm s heading digits ∧ bytes.length = 20 ∧
    digits.map Char.toLower = bytesHex bytes

/-! ## 6.  What an accepted value becomes -/

/-- The text under which everything about a sender is kept. -/
def normalize (v : Value) : Except Fault String := (PendingQueue.acceptSender v).map text

theorem normalize_eq_ok_iff {v : Value} {t : String} :
    normalize v = .ok t ↔ ∃ a, accept v = .ok a ∧ t = a.text := by
  unfold normalize
  cases h : PendingQueue.acceptSender v with
  | error e =>
    refine iff_of_false (fun h => nomatch h) ?_
    rintro ⟨a, ha, -⟩
    rw [PendingQueue.acceptSender_eq_ok_iff.mpr ha] at h
    exact nomatch h
  | ok a =>
    rw [PendingQueue.acceptSender_eq_ok_iff] at h
    simp [Except.map, h, eq_comm]

theorem kind_of_normalize {v : Value} {e : Fault} (h : normalize v = .error e) :
    e.kind = .own .invalidOptions := by
  unfold normalize PendingQueue.acceptSender at h
  cases haccept : accept v with
  | ok a =>
    rw [haccept] at h
    exact nomatch h
  | error why =>
    rw [haccept] at h
    obtain rfl : RequestError.fault (.sender why) = e := Except.error.inj h
    rw [RequestError.fault_of_message (e := .sender why) rfl]
    rfl

/-- What an accepted account denotes: one list of twenty bytes, whose digits are the account's. -/
theorem denotes_iff {v : Value} {a : Address} (h : accept v = .ok a) {bytes : List UInt8} :
    Denotes v bytes ↔ bytesHex bytes = a.lowerDigits := by
  obtain ⟨s, heading, digits, rfl, hspelling, hlower⟩ := accept_iff_spelling.mp h
  constructor
  · rintro ⟨s', heading', digits', hs, hform, -, hbytes⟩
    obtain rfl : s = s' := Value.text.inj hs
    obtain rfl : digits = digits' := hspelling.unprefixed_eq.symm.trans hform.unprefixed_eq
    exact hbytes.symm.trans hlower
  · intro hbytes
    obtain ⟨others, hcount, hothers⟩ := exists_bytesHex 20 (a.length_nibbles.trans rfl)
    obtain rfl : others = bytes := bytesHex_injective (hothers.trans hbytes.symm)
    exact ⟨s, heading, digits, rfl, hspelling.toIsForm, hcount, hlower.trans hbytes.symm⟩

/-- Every account has bytes. -/
theorem exists_bytes (a : Address) : ∃ bytes : List UInt8, bytesHex bytes = a.lowerDigits := by
  obtain ⟨bytes, -, hbytes⟩ := exists_bytesHex 20 (a.length_nibbles.trans rfl)
  exact ⟨bytes, hbytes⟩

/-- A text is what a value that is accepted as a sender becomes. -/
structure IsNormalOf (t : String) (v : Value) : Prop where
  /-- The text is the value with `0x` in front and other letters capital. -/
  caseOnly : ∃ s heading digits result, v = .text s ∧ IsForm s heading digits ∧
    IsForm t ['0', 'x'] result ∧ result.map Char.toLower = digits.map Char.toLower
  /-- It becomes itself. -/
  again : normalize (.text t) = .ok t
  /-- The value stands for one list of bytes. -/
  denotes : ∃! bytes, Denotes v bytes
  /-- Another value becomes the same text exactly when it stands for the same bytes. -/
  shared : ∀ w u, normalize w = .ok u → (t = u ↔ ∃ bytes, Denotes v bytes ∧ Denotes w bytes)

theorem isNormalOf_text {v : Value} {a : Address} (h : accept v = .ok a) : IsNormalOf a.text v where
  caseOnly := by
    obtain ⟨s, heading, digits, rfl, hspelling, hlower⟩ := accept_iff_spelling.mp h
    exact ⟨s, heading, digits, a.checksumDigits, rfl, hspelling.toIsForm, isForm_text a,
      (map_toLower_checksumDigits a).trans hlower.symm⟩
  again := normalize_eq_ok_iff.mpr ⟨a, accept_text_of_accept h, rfl⟩
  denotes := by
    obtain ⟨bytes, hbytes⟩ := exists_bytes a
    refine ⟨bytes, (denotes_iff h).mpr hbytes, fun others hothers => ?_⟩
    exact bytesHex_injective (((denotes_iff h).mp hothers).trans hbytes.symm)
  shared := by
    intro w u hu
    obtain ⟨b, hb, rfl⟩ := normalize_eq_ok_iff.mp hu
    constructor
    · intro htext
      obtain rfl : a = b := text_injective htext
      obtain ⟨bytes, hbytes⟩ := exists_bytes a
      exact ⟨bytes, (denotes_iff h).mpr hbytes, (denotes_iff hb).mpr hbytes⟩
    · rintro ⟨bytes, hv, hw⟩
      have hdigits := ((denotes_iff h).mp hv).symm.trans ((denotes_iff hb).mp hw)
      rw [lowerDigits_injective hdigits]

/-- **Which values are accepted as senders, and what they become.**  The spellings are accepted, and
everything else is refused with a complaint about the options; and what an accepted value becomes is
its normal form, which no other account has. -/
theorem normalize_spec (v : Value) :
    ((∃ t, normalize v = .ok t) ↔
      ∃ s heading digits, v = .text s ∧ IsSpelling s heading digits) ∧
    (∀ e, normalize v = .error e → e.kind = .own .invalidOptions) ∧
    ∀ t, normalize v = .ok t → IsNormalOf t v := by
  refine ⟨⟨?_, ?_⟩, fun e => kind_of_normalize, ?_⟩
  · rintro ⟨t, ht⟩
    obtain ⟨a, ha, rfl⟩ := normalize_eq_ok_iff.mp ht
    obtain ⟨s, heading, digits, hv, hspelling, -⟩ := accept_iff_spelling.mp ha
    exact ⟨s, heading, digits, hv, hspelling⟩
  · rintro ⟨s, heading, digits, rfl, hspelling⟩
    -- Forty digits always are those of some account.
    obtain ⟨ns, hns, hlower⟩ := nibbles?_of_hex hspelling.hex
    have hlength : ns.length = 40 := (length_of_nibbles? hns).trans hspelling.length
    have ha : accept (.text s) = .ok ⟨ns, hlength⟩ :=
      accept_iff_spelling.mpr ⟨s, heading, digits, rfl, hspelling, hlower⟩
    exact ⟨_, normalize_eq_ok_iff.mpr ⟨_, ha, rfl⟩⟩
  · intro t ht
    obtain ⟨a, ha, rfl⟩ := normalize_eq_ok_iff.mp ht
    exact isNormalOf_text ha

/-- Digits in lower case are accepted behind `0X`, and zeros are not. -/
example :
    (normalize (.text "0Xabcdef000000000000000000000000000000dead")).isOk = true ∧
      (normalize (.text "0X0000000000000000000000000000000000000000")).isOk = false := by
  decide +kernel

end Address
end Outbox
