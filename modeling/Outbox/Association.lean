/-!
# Associations

Several things in the library are kept under keys: the next nonce under the account, the
client under the chain, the url under the chain, the fields of a transaction under their
names.  All of them are lists of entries, read by `List.lookup` and written by `put`, which
replaces the entry of a key where it stands and appends a new one at the end.  So the
order of an association is the order in which its keys were first written.
-/

namespace Outbox
namespace Association

variable {κ α : Type} [DecidableEq κ]

/-- The entries with a value written under a key. -/
def put (key : κ) (value : α) : List (κ × α) → List (κ × α)
  | [] => [(key, value)]
  | (k, v) :: entries =>
    if k = key then (k, value) :: entries else (k, v) :: put key value entries

/-- The entries with other entries written into them, one after another. -/
def putAll (entries others : List (κ × α)) : List (κ × α) :=
  others.foldl (fun es entry => put entry.1 entry.2 es) entries

/-- A key has an entry. -/
def has (key : κ) (entries : List (κ × α)) : Bool := (entries.lookup key).isSome

@[simp] theorem putAll_nil (entries : List (κ × α)) : putAll entries [] = entries := rfl

/-- **Writing under a key changes what stands under that key and under no other.** -/
@[simp] theorem lookup_put (key other : κ) (value : α) (entries : List (κ × α)) :
    (put key value entries).lookup other =
      if other = key then some value else entries.lookup other := by
  induction entries with
  | nil =>
    by_cases h : other = key
    · subst h; simp [put]
    · simp [put, h]
  | cons entry entries ih =>
    obtain ⟨k, v⟩ := entry
    unfold put
    by_cases hk : k = key
    · subst hk
      by_cases h : other = k
      · subst h; simp
      · have : (other == k) = false := by simpa using h
        simp [List.lookup_cons, h, this]
    · rw [if_neg hk]
      by_cases h : other = k
      · subst h; simp [hk]
      · have : (other == k) = false := by simpa using h
        simp only [List.lookup_cons, this]
        exact ih

theorem has_put (key other : κ) (value : α) (entries : List (κ × α)) :
    has other (put key value entries) = (decide (other = key) || has other entries) := by
  by_cases h : other = key <;> simp only [has, lookup_put, h, if_true, if_false, decide_true,
    decide_false, Option.isSome_some, Bool.true_or, Bool.false_or]

/-- Writing under a key keeps the keys that are there, in their order, and adds the key at
the end if it is new. -/
theorem map_fst_put (key : κ) (value : α) (entries : List (κ × α)) :
    (put key value entries).map Prod.fst =
      if key ∈ entries.map Prod.fst then entries.map Prod.fst
      else entries.map Prod.fst ++ [key] := by
  induction entries with
  | nil => rfl
  | cons entry entries ih =>
    obtain ⟨k, v⟩ := entry
    unfold put
    by_cases hk : k = key
    · subst hk; simp
    · rw [if_neg hk, List.map_cons, ih]
      have hne : ¬ key = k := fun h => hk h.symm
      by_cases hmem : key ∈ entries.map Prod.fst
      · simp only [hmem, if_true, List.map_cons, List.mem_cons, or_true]
      · simp only [hmem, if_false, List.map_cons, List.mem_cons, hne, or_self, List.cons_append]

/-- Writing under a key repeats no key. -/
theorem nodup_put (key : κ) (value : α) {entries : List (κ × α)}
    (h : (entries.map Prod.fst).Nodup) : ((put key value entries).map Prod.fst).Nodup := by
  rw [map_fst_put]
  split
  · exact h
  · rename_i hnew
    refine List.nodup_append.mpr ⟨h, by simp, ?_⟩
    rintro k hk _ hlast rfl
    rw [List.mem_singleton.mp hlast] at hk
    exact hnew hk

/-- A key has an entry exactly if it is one of the keys. -/
theorem has_iff (key : κ) (entries : List (κ × α)) :
    has key entries = true ↔ key ∈ entries.map Prod.fst := by
  unfold has
  induction entries with
  | nil => simp
  | cons entry entries ih =>
    obtain ⟨k, v⟩ := entry
    by_cases hk : key = k
    · simp [hk]
    · have hne : (key == k) = false := by simpa using hk
      rw [List.lookup_cons, hne, List.map_cons, List.mem_cons]
      simpa only [hk, false_or] using ih

/-- What stands under a key is one of its entries. -/
theorem mem_of_lookup {key : κ} {value : α} {entries : List (κ × α)}
    (h : entries.lookup key = some value) : (key, value) ∈ entries := by
  obtain ⟨before, after, rfl, -⟩ := List.lookup_eq_some_iff.mp h
  simp

/-- If no key is repeated, an entry is what stands under its key. -/
theorem lookup_of_mem {key : κ} {value : α} {entries : List (κ × α)}
    (hnodup : (entries.map Prod.fst).Nodup) (h : (key, value) ∈ entries) :
    entries.lookup key = some value := by
  obtain ⟨before, after, rfl⟩ := List.append_of_mem h
  refine List.lookup_eq_some_iff.mpr ⟨before, after, rfl, fun entry hentry => ?_⟩
  rw [List.map_append, List.nodup_append] at hnodup
  have hne : entry.1 ≠ key := hnodup.2.2 _ (List.mem_map_of_mem hentry) key (by simp)
  simpa using hne.symm

/-- What stands under a key when every value has been made into another. -/
theorem lookup_map_value {β : Type} (f : κ → α → β) (entries : List (κ × α)) (key : κ) :
    (entries.map fun entry => (entry.1, f entry.1 entry.2)).lookup key =
      (entries.lookup key).map (f key) := by
  induction entries with
  | nil => rfl
  | cons entry entries ih =>
    obtain ⟨k, v⟩ := entry
    rw [List.map_cons, List.lookup_cons, List.lookup_cons]
    by_cases hk : key = k
    · subst hk
      simp
    · have hne : (key == k) = false := by simpa using hk
      rw [hne]
      exact ih

/-- To write what stands under a key already changes nothing. -/
theorem put_of_lookup {key : κ} {value : α} {entries : List (κ × α)}
    (h : entries.lookup key = some value) : put key value entries = entries := by
  induction entries with
  | nil => exact absurd h (by simp)
  | cons entry entries ih =>
    obtain ⟨k, v⟩ := entry
    unfold put
    by_cases hk : k = key
    · subst hk
      obtain rfl : v = value := by simpa using h
      rw [if_pos rfl]
    · have hne : (key == k) = false := by simpa using Ne.symm hk
      rw [List.lookup_cons, hne] at h
      rw [if_neg hk, ih h]

/-- Values that are made of others are written where these are. -/
theorem map_value_put {β : Type} (f : α → β) (key : κ) (value : α) (entries : List (κ × α)) :
    (put key value entries).map (fun entry => (entry.1, f entry.2)) =
      put key (f value) (entries.map fun entry => (entry.1, f entry.2)) := by
  induction entries with
  | nil => rfl
  | cons entry entries ih =>
    obtain ⟨k, v⟩ := entry
    rw [List.map_cons, put, put]
    by_cases hk : k = key
    · rw [if_pos hk, if_pos hk, List.map_cons]
    · rw [if_neg hk, if_neg hk, List.map_cons, ih]

end Association
end Outbox
