import Mathlib.Data.List.Nodup
import Mathlib.Data.List.TakeWhile

/-!
# Dictionaries

A dictionary has each key once and keeps its keys in the order in which they
came: setting a key that is there leaves it in its place. Every property of a
dictionary is read off `get?`; the order matters to those who iterate.
-/

namespace RobotLlm.Lib

structure Dict (κ α : Type) where
  entries : List (κ × α)
  nodup : (entries.map Prod.fst).Nodup

namespace Dict

variable {κ α : Type} [DecidableEq κ] {d : Dict κ α} {k k' : κ} {v : α}

def empty : Dict κ α := ⟨[], by simp⟩

def keys (d : Dict κ α) : List κ := d.entries.map Prod.fst

def values (d : Dict κ α) : List α := d.entries.map Prod.snd

def size (d : Dict κ α) : Nat := d.entries.length

def get? (d : Dict κ α) (k : κ) : Option α := d.entries.lookup k

def setEntries (k : κ) (v : α) : List (κ × α) → List (κ × α)
  | [] => [(k, v)]
  | e :: es => if e.1 = k then (k, v) :: es else e :: setEntries k v es

theorem map_fst_setEntries (k : κ) (v : α) (es : List (κ × α)) :
    (setEntries k v es).map Prod.fst = if k ∈ es.map Prod.fst then es.map Prod.fst else es.map Prod.fst ++ [k] := by
  induction es with
  | nil => simp [setEntries]
  | cons e es ih =>
    unfold setEntries
    by_cases he : e.1 = k
    · simp [he]
    · have hne : k ≠ e.1 := fun h => he h.symm
      simp only [he, ↓reduceIte, List.map_cons, ih, List.mem_cons, hne, false_or]
      split <;> simp

/-- `d[k] = v`. -/
def set (d : Dict κ α) (k : κ) (v : α) : Dict κ α where
  entries := setEntries k v d.entries
  nodup := by
    rw [map_fst_setEntries]
    split
    · exact d.nodup
    next h => exact d.nodup.append (List.nodup_singleton k) (by simpa using h)

/-- `del d[k]`, or `d.pop(k, None)`. -/
def erase (d : Dict κ α) (k : κ) : Dict κ α where
  entries := d.entries.filter fun e => e.1 ≠ k
  nodup := d.nodup.sublist (List.filter_sublist.map Prod.fst)

/-- The oldest key goes, as `popitem(last=False)` of an `OrderedDict`. -/
def dropOldest (d : Dict κ α) : Dict κ α where
  entries := d.entries.tail
  nodup := d.nodup.sublist ((List.tail_sublist d.entries).map Prod.fst)

/-- The oldest keys go, as long as their values are such. -/
def dropWhile (p : α → Bool) (d : Dict κ α) : Dict κ α where
  entries := d.entries.dropWhile fun e => p e.2
  nodup := d.nodup.sublist ((List.dropWhile_sublist _).map Prod.fst)

def mapValues (f : α → α) (d : Dict κ α) : Dict κ α where
  entries := d.entries.map fun e => (e.1, f e.2)
  nodup := by simpa [Function.comp_def] using d.nodup

-- Lookups

theorem get?_eq_some_iff : d.get? k = some v ↔ (k, v) ∈ d.entries := by
  obtain ⟨es, hes⟩ := d
  show es.lookup k = some v ↔ (k, v) ∈ es
  induction es with
  | nil => simp
  | cons e es ih =>
    obtain ⟨ek, ev⟩ := e
    simp only [List.map_cons, List.nodup_cons] at hes
    by_cases hk : k = ek
    · subst hk
      have hnot : ∀ v, (k, v) ∉ es := fun v hv => hes.1 (List.mem_map_of_mem hv)
      simp [hnot, eq_comm]
    · have hbeq : (k == ek) = false := by simpa using hk
      simp [List.lookup_cons, hbeq, ih hes.2, hk]

theorem mem_keys_iff : k ∈ d.keys ↔ ∃ v, d.get? k = some v := by
  simp [keys, get?_eq_some_iff]

theorem get?_eq_none_iff : d.get? k = none ↔ k ∉ d.keys := by
  rw [mem_keys_iff, Option.eq_none_iff_forall_ne_some]
  simp

theorem mem_values_iff : v ∈ d.values ↔ ∃ k, d.get? k = some v := by
  simp [values, get?_eq_some_iff]

@[simp] theorem get?_empty : (empty : Dict κ α).get? k = none := rfl

@[simp] theorem get?_set_self : (d.set k v).get? k = some v := by
  show (setEntries k v d.entries).lookup k = some v
  induction d.entries with
  | nil => simp [setEntries]
  | cons e es ih =>
    obtain ⟨ek, ev⟩ := e
    unfold setEntries
    by_cases he : ek = k
    · simp [he]
    · have hbeq : (k == ek) = false := by simpa using fun h : k = ek => he h.symm
      simpa [he, List.lookup_cons, hbeq] using ih

theorem get?_set_ne (hne : k' ≠ k) : (d.set k v).get? k' = d.get? k' := by
  show (setEntries k v d.entries).lookup k' = d.entries.lookup k'
  induction d.entries with
  | nil => simpa [setEntries] using hne
  | cons e es ih =>
    obtain ⟨ek, ev⟩ := e
    unfold setEntries
    by_cases he : ek = k
    · have hbeq : (k' == k) = false := by simpa using hne
      simp [he, List.lookup_cons, hbeq]
    · simp [he, List.lookup_cons, ih]

theorem get?_set : (d.set k v).get? k' = if k' = k then some v else d.get? k' := by
  by_cases h : k' = k
  · subst h
    simp
  · rw [if_neg h, get?_set_ne h]

theorem get?_erase : (d.erase k).get? k' = if k' = k then none else d.get? k' := by
  refine Option.ext fun v => ?_
  rw [get?_eq_some_iff]
  by_cases h : k' = k
  · simp [erase, h]
  · simp [erase, h, get?_eq_some_iff]

theorem get?_foldl_set (f : κ → α) (ks : List κ) :
    (ks.foldl (fun d k => d.set k (f k)) d).get? k' = if k' ∈ ks then some (f k') else d.get? k' := by
  induction ks generalizing d with
  | nil => simp
  | cons k ks ih =>
    rw [List.foldl_cons, ih, get?_set]
    by_cases hk : k' = k
    · simp [hk]
    · simp [hk]

-- Keys and size

omit [DecidableEq κ] in
theorem keys_nodup : d.keys.Nodup := d.nodup

theorem keys_set : (d.set k v).keys = if k ∈ d.keys then d.keys else d.keys ++ [k] := map_fst_setEntries k v d.entries

theorem keys_set_of_not_mem (h : k ∉ d.keys) : (d.set k v).keys = d.keys ++ [k] := by rw [keys_set, if_neg h]

theorem mem_keys_set : k' ∈ (d.set k v).keys ↔ k' = k ∨ k' ∈ d.keys := by
  rw [keys_set]
  split
  next h => exact ⟨.inr, fun h' => h'.elim (fun e => e ▸ h) id⟩
  · simp [or_comm]

theorem keys_erase : (d.erase k).keys = d.keys.filter fun k' => k' ≠ k := by
  simp only [keys, erase, List.filter_map]
  rfl

omit [DecidableEq κ] in
theorem size_eq_length_keys : d.size = d.keys.length := by simp [size, keys]

-- Values in place

omit [DecidableEq κ] in
theorem ext_entries {d' : Dict κ α} (h : d.entries = d'.entries) : d = d' := by
  cases d
  cases d'
  cases h
  rfl

theorem get?_mapValues (f : α → α) : (d.mapValues f).get? k = (d.get? k).map f := by
  refine Option.ext fun v => ?_
  rw [get?_eq_some_iff, Option.map_eq_some_iff]
  constructor
  · intro h
    obtain ⟨e, he, heq⟩ := List.mem_map.mp h
    cases heq
    exact ⟨e.2, get?_eq_some_iff.mpr he, rfl⟩
  · rintro ⟨w, hw, rfl⟩
    exact List.mem_map.mpr ⟨(k, w), get?_eq_some_iff.mp hw, rfl⟩

theorem setEntries_new {es : List (κ × α)} (hk : k ∉ es.map Prod.fst) : setEntries k v es = es ++ [(k, v)] := by
  induction es with
  | nil => rfl
  | cons e es ih =>
    rw [List.map_cons, List.mem_cons, not_or] at hk
    rw [setEntries, if_neg (Ne.symm hk.1), ih hk.2]
    rfl

theorem entries_set_new (hk : d.get? k = none) : (d.set k v).entries = d.entries ++ [(k, v)] :=
  setEntries_new (get?_eq_none_iff.mp hk)

theorem erase_set_new (hk : d.get? k = none) : (d.set k v).erase k = d := by
  refine ext_entries ?_
  have hne : ∀ e ∈ d.entries, e.1 ≠ k := fun e he h => get?_eq_none_iff.mp hk (h ▸ List.mem_map_of_mem he)
  show (d.set k v).entries.filter (fun e => e.1 ≠ k) = d.entries
  rw [entries_set_new hk, List.filter_append, List.filter_eq_self.mpr fun e he => by simpa using hne e he]
  simp

-- The oldest keys

theorem get?_of_dropWhile {p : α → Bool} (h : (d.dropWhile p).get? k = some v) : d.get? k = some v :=
  get?_eq_some_iff.mpr ((List.dropWhile_sublist _).subset (get?_eq_some_iff.mp h))

theorem get?_dropWhile {p : α → Bool} (h : d.get? k = some v) : (d.dropWhile p).get? k = some v ∨ p v = true := by
  have hmem := get?_eq_some_iff.mp h
  rw [← List.takeWhile_append_dropWhile (p := fun e => p e.2) (l := d.entries), List.mem_append] at hmem
  obtain hm | hm := hmem
  · exact .inr (List.mem_takeWhile_imp (p := fun e : κ × α => p e.2) hm)
  · exact .inl (get?_eq_some_iff.mpr hm)

theorem get?_of_dropOldest (h : d.dropOldest.get? k = some v) : d.get? k = some v :=
  get?_eq_some_iff.mpr (List.mem_of_mem_tail (get?_eq_some_iff.mp h))

theorem get?_dropOldest (h : d.get? k = some v) : d.dropOldest.get? k = some v ∨ k ∈ d.keys.take 1 := by
  have hmem := get?_eq_some_iff.mp h
  unfold keys
  rcases hes : d.entries with _ | ⟨e, es⟩
  · simp [hes] at hmem
  · rw [hes, List.mem_cons] at hmem
    obtain he | hm := hmem
    · exact .inr (by simp [← he])
    · refine .inl (get?_eq_some_iff.mpr ?_)
      show (k, v) ∈ d.entries.tail
      rw [hes]
      exact hm

-- The keys of some values

/-- The keys whose values are such, in the order of the dictionary. -/
def keysWhere (p : α → Bool) (d : Dict κ α) : List κ := (d.entries.filter fun e => p e.2).map Prod.fst

variable {p : α → Bool}

theorem mem_keysWhere : k ∈ d.keysWhere p ↔ ∃ v, d.get? k = some v ∧ p v = true := by
  unfold keysWhere
  rw [List.mem_map]
  constructor
  · rintro ⟨e, he, rfl⟩
    obtain ⟨hm, hp⟩ := List.mem_filter.mp he
    exact ⟨e.2, get?_eq_some_iff.mpr hm, hp⟩
  · rintro ⟨v, hv, hp⟩
    exact ⟨(k, v), List.mem_filter.mpr ⟨get?_eq_some_iff.mp hv, hp⟩, rfl⟩

omit [DecidableEq κ] in
theorem keysWhere_nodup : (d.keysWhere p).Nodup := d.nodup.sublist (List.filter_sublist.map Prod.fst)

omit [DecidableEq κ] in
theorem keysWhere_mapValues {f : α → α} (h : ∀ v, p (f v) = p v) : (d.mapValues f).keysWhere p = d.keysWhere p := by
  simp [keysWhere, mapValues, List.filter_map, Function.comp_def, h]

theorem keysWhere_set_new (hk : d.get? k = none) (hp : p v = true) : (d.set k v).keysWhere p = d.keysWhere p ++ [k] := by
  simp [keysWhere, entries_set_new hk, hp]

theorem filter_setEntries_same {w : α} {es : List (κ × α)} (hk : (k, w) ∈ es) (hes : (es.map Prod.fst).Nodup)
    (hp : p v = p w) :
    ((setEntries k v es).filter fun e => p e.2).map Prod.fst = (es.filter fun e => p e.2).map Prod.fst := by
  induction es with
  | nil => cases hk
  | cons e es ih =>
    rw [List.map_cons, List.nodup_cons] at hes
    rw [setEntries]
    obtain rfl | hm := List.mem_cons.mp hk
    · rw [if_pos rfl]
      simp only [List.filter_cons, hp]
      split <;> rfl
    · have hne : e.1 ≠ k := fun h => hes.1 (h ▸ List.mem_map_of_mem (f := Prod.fst) hm)
      rw [if_neg hne]
      simp only [List.filter_cons]
      split <;> simp [ih hm hes.2]

theorem keysWhere_set_same {w : α} (hk : d.get? k = some w) (hp : p v = p w) : (d.set k v).keysWhere p = d.keysWhere p :=
  filter_setEntries_same (get?_eq_some_iff.mp hk) d.nodup hp

theorem keysWhere_erase : (d.erase k).keysWhere p = (d.keysWhere p).erase k := by
  rw [keysWhere_nodup.erase_eq_filter]
  simp only [keysWhere, erase, List.filter_map, List.filter_filter]
  congr 1
  refine List.filter_congr fun e _ => ?_
  simp only [Function.comp_apply, bne, Bool.and_comm]
  congr 1
  by_cases h : e.1 = k <;> simp [h]

theorem filter_setEntries_drop {es : List (κ × α)} (hes : (es.map Prod.fst).Nodup) (hp : p v = false) :
    ((setEntries k v es).filter fun e => p e.2).map Prod.fst =
      ((es.filter fun e => e.1 ≠ k).filter fun e => p e.2).map Prod.fst := by
  induction es with
  | nil => simp [setEntries, hp]
  | cons e es ih =>
    rw [List.map_cons, List.nodup_cons] at hes
    by_cases he : e.1 = k
    · have hrest : es.filter (fun e => e.1 ≠ k) = es := List.filter_eq_self.mpr fun x hx => by
        simpa using fun h : x.1 = k => hes.1 (he ▸ h ▸ List.mem_map_of_mem hx)
      rw [setEntries, if_pos he, List.filter_cons_of_neg (by simp [hp]), List.filter_cons_of_neg (by simp [he]), hrest]
    · rw [setEntries, if_neg he, List.filter_cons_of_pos (p := fun e : κ × α => decide (e.1 ≠ k)) (by simp [he])]
      simp only [List.filter_cons]
      split <;> simp [ih hes.2]

theorem keysWhere_set_drop (hp : p v = false) : (d.set k v).keysWhere p = (d.keysWhere p).erase k := by
  rw [← keysWhere_erase]
  exact filter_setEntries_drop d.nodup hp

end Dict

end RobotLlm.Lib
