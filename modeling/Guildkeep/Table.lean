/-!
# Tables

A table holds at most one value for each key. The entries stand in the order in which they were
last put, but nothing depends on that order: the view of a table is `get?`.

## Main results

* `get?_put`: the last value put is the value found, and no other key is touched.
* `get?_erase`: an erased key is gone, and no other key is touched.
-/

namespace Guildkeep

/-- A **table**: distinct keys, each with a value. -/
structure Table (κ ν : Type) where
  entries : List (κ × ν) := []
  distinct : (entries.map (·.1)).Nodup := by exact List.nodup_nil

namespace Table

variable {κ ν : Type} [DecidableEq κ]

/-- The keys of a table. -/
def keys (t : Table κ ν) : List κ :=
  t.entries.map (·.1)

/-- How many keys a table has. -/
def size (t : Table κ ν) : Nat :=
  t.entries.length

/-- The value of a key. -/
def get? (t : Table κ ν) (k : κ) : Option ν :=
  t.entries.lookup k

/-- Whether a key has a value. -/
def has (t : Table κ ν) (k : κ) : Bool :=
  (t.get? k).isSome

omit [DecidableEq κ] in
/-- Dropping entries leaves the keys distinct. -/
theorem nodup_filter (t : Table κ ν) (keep : κ × ν → Bool) :
    ((t.entries.filter keep).map (·.1)).Nodup :=
  t.distinct.sublist (List.Sublist.map _ List.filter_sublist)

/-- The table with only the entries that pass a test. -/
def filter (t : Table κ ν) (keep : κ → Bool) : Table κ ν where
  entries := t.entries.filter fun e => keep e.1
  distinct := nodup_filter t _

/-- The table without a key. -/
def erase (t : Table κ ν) (k : κ) : Table κ ν :=
  t.filter (· ≠ k)

/-- The table with a value for a key, whatever the key had before. -/
def put (t : Table κ ν) (k : κ) (v : ν) : Table κ ν where
  entries := (t.erase k).entries ++ [(k, v)]
  distinct := by
    rw [List.map_append, List.nodup_append]
    refine ⟨(t.erase k).distinct, by simp, ?_⟩
    intro a ha b hb
    obtain ⟨e, he, rfl⟩ := List.mem_map.1 ha
    simp only [List.map_cons, List.map_nil, List.mem_singleton] at hb
    simp only [erase, filter, List.mem_filter, decide_eq_true_eq] at he
    exact hb ▸ he.2

/-- The table with values for several keys, whatever these had before. -/
def putAll (t : Table κ ν) (new : List (κ × ν)) (h : (new.map (·.1)).Nodup) : Table κ ν where
  entries := (t.filter fun k => !(new.map (·.1)).contains k).entries ++ new
  distinct := by
    rw [List.map_append, List.nodup_append]
    refine ⟨(t.filter _).distinct, h, ?_⟩
    rintro a ha b hb rfl
    obtain ⟨e, he, rfl⟩ := List.mem_map.1 ha
    simp only [filter, List.mem_filter] at he
    simp only [List.elem_eq_mem, Bool.not_eq_true', decide_eq_false_iff_not] at he
    exact he.2 hb

/-! ### Laws -/

/-- In a list of entries, dropping those that fail a test on the key drops no other key. -/
theorem lookup_filter (entries : List (κ × ν)) (keep : κ → Bool) (k : κ) :
    (entries.filter fun e => keep e.1).lookup k = if keep k then entries.lookup k else none := by
  induction entries with
  | nil => simp
  | cons e rest ih =>
    obtain ⟨k', v⟩ := e
    by_cases hk : keep k' = true
    · rw [List.filter_cons, if_pos hk, List.lookup_cons, List.lookup_cons, ih]
      by_cases h : k = k'
      · simp [h, hk]
      · simp [beq_false_of_ne h]
    · rw [List.filter_cons, if_neg hk, ih, List.lookup_cons]
      by_cases h : k = k'
      · simp [h, hk]
      · simp [beq_false_of_ne h]

/-- A filtered table has the keys that pass. -/
theorem get?_filter (t : Table κ ν) (keep : κ → Bool) (k : κ) :
    (t.filter keep).get? k = if keep k then t.get? k else none :=
  lookup_filter t.entries keep k

/-- An **erased** key is gone, and no other key is touched. -/
theorem get?_erase (t : Table κ ν) (k k' : κ) :
    (t.erase k).get? k' = if k' = k then none else t.get? k' := by
  rw [erase, get?_filter]
  by_cases h : k' = k <;> simp [h]

/-- The value **put** is the value found, and no other key is touched. -/
theorem get?_put (t : Table κ ν) (k k' : κ) (v : ν) :
    (t.put k v).get? k' = if k' = k then some v else t.get? k' := by
  have h := get?_erase t k k'
  rw [get?] at h
  rw [get?, put, List.lookup_append, h]
  by_cases hk : k' = k
  · simp [hk]
  · simp [hk, List.lookup_cons, beq_false_of_ne hk]

/-- A key has a value exactly when it is among the keys. -/
theorem mem_keys_iff (t : Table κ ν) (k : κ) : k ∈ t.keys ↔ (t.get? k).isSome := by
  rw [keys, get?]
  induction t.entries with
  | nil => simp
  | cons e rest ih =>
    obtain ⟨k', v⟩ := e
    rw [List.map_cons, List.mem_cons, ih, List.lookup_cons]
    by_cases h : k = k'
    · simp [h]
    · simp [h, beq_false_of_ne h]

end Table

end Guildkeep
