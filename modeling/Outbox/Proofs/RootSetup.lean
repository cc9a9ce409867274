import Outbox.Association
import Outbox.Journal.Setup
import Outbox.Settings.Basic

/-!
# How the root of the journal is set up

The first to ask for a channel sets up the root, and everybody after that relies on it.  Two things
have to be done, the handler and the level, and the second may fail.  What one would like is that
nobody ever sees the root half set up: whoever gets a channel finds one handler and the level of the
setting, and whoever does not get one leaves the root as it was, so that the next to ask meets with the
same complaint (`KeepsAllOrNothing`).

Whether this is so is decided by the word of the setting alone, and not by who asks for what.  A word
stands for a level if it names one, or if it names nothing (`Stands`).  For such a word every call
returns, and all is well.  The words that are left name things that are no levels.  For them the first
call fails when the root has its handler already, and the handler is what tells that a root has been
set up: no later call complains, and the level is never set (`channels_isSetUp`).

## Why a call is judged with the root before it

What a call has left as it was can be told only from the root that it found.  So beside the outcomes of
a session stand the roots that its calls have found, which are the roots after them moved by one
place (`foundRoots`).
-/

namespace Outbox
namespace Journal

/-! ## 1.  What a word stands for -/

/-- The level that a word of the setting stands for: the one that it names, or the ordinary one if it
names nothing. -/
inductive Stands (word : String) : Nat → Prop
  | named {level : Nat} (h : (word, .ok level) ∈ levelWords) : Stands word level
  | unknown (h : word ∉ levelWords.map Prod.fst) : Stands word ordinaryLevel

/-- The word names something that is no level. -/
def Misnames (word : String) (e : Fault) : Prop := (word, .error e) ∈ levelWords

theorem nodup_levelWords : (levelWords.map Prod.fst).Nodup := by decide

/-- What is listed for a word is what the word is taken for. -/
theorem levelNamed_of_mem {word : String} {meaning : Except Fault Nat}
    (h : (word, meaning) ∈ levelWords) : levelNamed word = meaning := by
  rw [levelNamed, Association.lookup_of_mem nodup_levelWords h, Option.getD_some]

/-- A word is taken for the level that it stands for. -/
theorem levelNamed_eq_ok_iff {word : String} {level : Nat} :
    levelNamed word = .ok level ↔ Stands word level := by
  constructor
  · intro h
    cases hlookup : levelWords.lookup word with
    | none =>
      have hunknown : word ∉ levelWords.map Prod.fst := fun hmem => by
        simpa [Association.has, hlookup] using (Association.has_iff word levelWords).mpr hmem
      rw [levelNamed, hlookup] at h
      obtain rfl := Except.ok.inj h
      exact .unknown hunknown
    | some meaning =>
      rw [levelNamed, hlookup] at h
      obtain rfl : meaning = .ok level := h
      exact .named (Association.mem_of_lookup hlookup)
  · rintro (hnamed | hunknown)
    · exact levelNamed_of_mem hnamed
    · have hlookup : levelWords.lookup word = none := by
        rw [← Option.not_isSome_iff_eq_none]
        exact fun hsome => hunknown ((Association.has_iff word levelWords).mp hsome)
      rw [levelNamed, hlookup]
      rfl

/-- A word that stands for no level is one that names something else. -/
theorem levelNamed_eq_error_iff {word : String} {e : Fault} :
    levelNamed word = .error e ↔ Misnames word e := by
  constructor
  · intro h
    cases hlookup : levelWords.lookup word with
    | none =>
      rw [levelNamed, hlookup] at h
      exact absurd h (by simp)
    | some meaning =>
      rw [levelNamed, hlookup] at h
      obtain rfl : meaning = .error e := h
      exact Association.mem_of_lookup hlookup
  · exact levelNamed_of_mem

/-! ## 2.  A call -/

/-- The root with its handler and a level. -/
def Root.handled (level : Nat) : Root := { handlers := [lineFormat], level }

/-- Whoever asks first, for a word that stands for a level, finds the root set up afterwards. -/
theorem channel_fresh_of_stands {word : String} {level : Nat} (h : Stands word level)
    (name : String) :
    channel word (.text name) .fresh = (.ok (fullName name), .handled level) := by
  simp [channel, configure, Root.fresh, levelNamed_eq_ok_iff.mpr h, fullNameOf, Root.handled]

/-- Whoever asks first, for a word that names something else, leaves a handler and no level. -/
theorem channel_fresh_of_misnames {word : String} {e : Fault} (h : Misnames word e) (name : Value) :
    channel word name .fresh = (.error e, .handled 0) := by
  simp [channel, configure, Root.fresh, levelNamed_eq_error_iff.mpr h, Root.handled]

/-- A root with a handler is not looked at any more, whatever its level. -/
theorem channel_handled (word : String) (level : Nat) (name : String) :
    channel word (.text name) (.handled level) = (.ok (fullName name), .handled level) := by
  rw [channel, configure_of_handlers (by simp [Root.handled])]
  rfl

/-- Later calls all return and change nothing. -/
theorem channels_handled (word : String) (level : Nat) (names : List String) :
    channels word (names.map .text) (.handled level) =
      names.map fun name => (.ok (fullName name), .handled level) := by
  induction names with
  | nil => rfl
  | cons name names ih =>
    rw [List.map_cons, channels, channel_handled, List.map_cons, ih]

/-! ## 3.  A session -/

/-- The root is as it should be after a call, which has found another. -/
structure IsAllOrNothing (word : String) (found : Root) (outcome : Except Fault String × Root) :
    Prop where
  /-- Whoever gets a channel finds one handler, and the level that the word stands for. -/
  returned (name : String) : outcome.1 = .ok name →
    outcome.2.handlers.length = 1 ∧ Stands word outcome.2.level
  /-- Whoever does not get one has changed nothing. -/
  raised (e : Fault) : outcome.1 = .error e → outcome.2 = found

/-- The outcomes of asking for some channels of a root that nobody has asked before. -/
def outcomes (word : String) (names : List String) : List (Except Fault String × Root) :=
  channels word (names.map .text) .fresh

/-- The roots that the calls of a session have found. -/
def foundRoots (word : String) (names : List String) : List Root :=
  .fresh :: (outcomes word names).map Prod.snd

/-- No call of a session leaves the root half set up. -/
def KeepsAllOrNothing (word : String) (names : List String) : Prop :=
  ∀ call ∈ (foundRoots word names).zip (outcomes word names), IsAllOrNothing word call.1 call.2

/-- What comes of asking for channels: everything, or half of it. -/
structure IsSetUp (word : String) : Prop where
  /-- If the word stands for a level, every call returns and leaves the root with its handler and this
  level. -/
  stands (level : Nat) : Stands word level → ∀ names,
    outcomes word names = names.map fun name => (.ok (fullName name), .handled level)
  /-- If it names something else, the first call fails, all others return, and the root has its handler
  and no level from the first call on. -/
  misnames (e : Fault) : Misnames word e → ∀ name names,
    outcomes word (name :: names) =
      (.error e, .handled 0) :: names.map fun name => (.ok (fullName name), .handled 0)
  /-- There is no third possibility. -/
  known : (∃ level, Stands word level) ∨ ∃ e, Misnames word e
  /-- No session leaves the root half set up exactly if the word stands for a level. -/
  keeps : (∀ names, KeepsAllOrNothing word names) ↔ ∃ level, Stands word level

section

variable {word : String}

theorem outcomes_of_stands {level : Nat} (h : Stands word level) (names : List String) :
    outcomes word names = names.map fun name => (.ok (fullName name), .handled level) := by
  cases names with
  | nil => rfl
  | cons name names =>
    rw [outcomes, List.map_cons, channels, channel_fresh_of_stands h, channels_handled, List.map_cons]

theorem outcomes_of_misnames {e : Fault} (h : Misnames word e) (name : String)
    (names : List String) :
    outcomes word (name :: names) =
      (.error e, .handled 0) :: names.map fun name => (.ok (fullName name), .handled 0) := by
  rw [outcomes, List.map_cons, channels, channel_fresh_of_misnames h, channels_handled]

theorem keepsAllOrNothing_of_stands {level : Nat} (h : Stands word level) (names : List String) :
    KeepsAllOrNothing word names := by
  rintro ⟨found, outcome⟩ hcall
  have houtcome := (List.of_mem_zip hcall).2
  rw [outcomes_of_stands h, List.mem_map] at houtcome
  obtain ⟨name, -, rfl⟩ := houtcome
  exact ⟨fun _ _ => ⟨rfl, h⟩, fun _ he => absurd he (by simp)⟩

/-- The first call leaves a handler at a root that had none, and fails. -/
theorem not_keepsAllOrNothing_of_misnames {e : Fault} (h : Misnames word e) (name : String) :
    ¬ KeepsAllOrNothing word [name] := by
  intro hkeeps
  have hfirst := outcomes_of_misnames h name []
  have hcall : (Root.fresh, ((.error e, .handled 0) : Except Fault String × Root)) ∈
      (foundRoots word [name]).zip (outcomes word [name]) := by
    rw [foundRoots, hfirst]
    exact List.mem_cons_self
  have hsame : Root.handled 0 = Root.fresh := (hkeeps _ hcall).raised e rfl
  exact absurd hsame (by decide)

end

/-- **The root is set up for every word that stands for a level, and only half for every other.**  The
word is that of any setting, in capital letters. -/
theorem channels_isSetUp (given : String) : IsSetUp (Settings.inUpperCase given) where
  stands _ h := outcomes_of_stands h
  misnames _ h := outcomes_of_misnames h
  known := by
    cases h : levelNamed (Settings.inUpperCase given) with
    | ok level => exact .inl ⟨level, levelNamed_eq_ok_iff.mp h⟩
    | error e => exact .inr ⟨e, levelNamed_eq_error_iff.mp h⟩
  keeps := by
    constructor
    · intro hkeeps
      cases h : levelNamed (Settings.inUpperCase given) with
      | ok level => exact ⟨level, levelNamed_eq_ok_iff.mp h⟩
      | error e =>
        exact absurd (hkeeps [rootName])
          (not_keepsAllOrNothing_of_misnames (levelNamed_eq_error_iff.mp h) rootName)
    · rintro ⟨level, h⟩
      exact keepsAllOrNothing_of_stands h

/-- **The root may be left half set up.**  The setting names the format of lines, which is no level. -/
theorem not_always_allOrNothing :
    ¬ ∀ (given : String) (names : List String),
      KeepsAllOrNothing (Settings.inUpperCase given) names := by
  intro h
  have hword : Settings.inUpperCase "BASIC_FORMAT" = "BASIC_FORMAT" := by decide +kernel
  have hkeeps := h "BASIC_FORMAT" [rootName]
  rw [hword] at hkeeps
  exact not_keepsAllOrNothing_of_misnames (List.mem_of_getElem? (i := 8) rfl) rootName hkeeps

end Journal
end Outbox
