import Mathlib.Data.List.AList

/-!
# Keyed tables

A hash map and a relational table with a primary key are the same thing here:
a finite list of entries with pairwise distinct keys, Mathlib's `AList` at a
constant family.  The file adds what the bulk statements of such programs need,

* `retain`, which keeps the entries a test accepts (`HashMap::retain`,
  `DELETE ... WHERE NOT`);
* `mapVal`, which rewrites every value in place (`HashMap::values_mut`,
  `UPDATE ... SET` over a set of rows);
* `modify`, which rewrites the value of one key (`UPDATE ... WHERE key =`);
* `collect`, which builds a table from the rows a partial function accepts,

and, for each of them and for Mathlib's `insert` and `erase`, one equation that
says what a lookup sees afterwards.  Proofs about a table then never look at its
list of entries.
-/

/-- A finite table from keys to values; at most one row for each key. -/
abbrev Table (κ ν : Type*) := AList (fun _ : κ => ν)

/-- A test that accepts what is there filters nothing out. -/
theorem Option.filter_eq_self_of_forall {α : Type*} {p : α → Bool} {o : Option α}
    (h : ∀ a, o = some a → p a = true) : o.filter p = o := by
  cases o with
  | none => rfl
  | some a => exact Option.filter_some_pos (h a rfl)

namespace AList

variable {κ ν : Type*} [DecidableEq κ]

/-- Keep the rows that `p` accepts. -/
def retain (p : κ → ν → Bool) (t : Table κ ν) : Table κ ν where
  entries := t.entries.filter fun e => p e.1 e.2
  nodupKeys := t.nodupKeys.sublist List.filter_sublist

/-- Rewrite the value of every row. -/
def mapVal (f : κ → ν → ν) (t : Table κ ν) : Table κ ν where
  entries := t.entries.map fun e => ⟨e.1, f e.1 e.2⟩
  nodupKeys := by
    have hkeys : (t.entries.map fun e : (_ : κ) × ν => (⟨e.1, f e.1 e.2⟩ : (_ : κ) × ν)).keys =
        t.entries.keys := by
      simp [List.keys, Function.comp_def]
    rw [List.NodupKeys, hkeys]
    exact t.nodupKeys

/-- Rewrite the value stored under `k`, if there is one. -/
def modify (k : κ) (f : ν → ν) (t : Table κ ν) : Table κ ν :=
  t.mapVal fun k' v => if k' = k then f v else v

/-- Rewrite the rows that `f` accepts and drop the other ones. -/
def collect {ω : Type*} (f : ν → Option ω) (t : Table κ ν) : Table κ ω where
  entries := t.entries.filterMap fun e => (f e.2).map fun w => ⟨e.1, w⟩
  nodupKeys := by
    have hkeys : List.Sublist
        (t.entries.filterMap fun e : (_ : κ) × ν =>
          (f e.2).map fun w => (⟨e.1, w⟩ : (_ : κ) × ω)).keys t.entries.keys := by
      induction t.entries with
      | nil => exact List.Sublist.refl _
      | cons e l ih =>
          cases hf : f e.2 with
          | none => simpa [hf] using ih.cons e.1
          | some w => simpa [hf] using ih.cons_cons e.1
    exact List.Nodup.sublist hkeys t.nodupKeys

/-- The values of the table, in entry order. -/
def vals (t : Table κ ν) : List ν :=
  t.entries.map fun e => e.2

theorem lookup_insert_ite (t : Table κ ν) (k k' : κ) (v : ν) :
    (t.insert k v).lookup k' = if k' = k then some v else t.lookup k' := by
  by_cases h : k' = k
  · subst h
    simp
  · simp [h, lookup_insert_ne h]

theorem lookup_erase_ite (t : Table κ ν) (k k' : κ) :
    (t.erase k).lookup k' = if k' = k then none else t.lookup k' := by
  by_cases h : k' = k
  · subst h
    simp
  · simp [h, lookup_erase_ne h]

/-- Membership of an entry is a successful lookup. -/
theorem mem_entries_iff {t : Table κ ν} {k : κ} {v : ν} :
    (⟨k, v⟩ : (_ : κ) × ν) ∈ t.entries ↔ t.lookup k = some v :=
  mem_lookup_iff.symm

theorem mem_vals_iff {t : Table κ ν} {v : ν} :
    v ∈ t.vals ↔ ∃ k, t.lookup k = some v := by
  constructor
  · intro h
    obtain ⟨⟨k, w⟩, he, rfl⟩ := List.mem_map.mp h
    exact ⟨k, mem_entries_iff.mp he⟩
  · rintro ⟨k, h⟩
    exact List.mem_map.mpr ⟨⟨k, v⟩, mem_entries_iff.mpr h, rfl⟩

/-- A value that knows its key is found by it among the values. -/
theorem find?_map_vals {α : Type*} {t : Table κ ν} (f : ν → α) (key : α → κ)
    (hkey : ∀ k v, t.lookup k = some v → key (f v) = k) (k : κ) :
    (t.vals.map f).find? (fun a => key a = k) = (t.lookup k).map f := by
  cases hfound : (t.vals.map f).find? (fun a => key a = k) with
  | none =>
      cases hlookup : t.lookup k with
      | none => rfl
      | some v =>
          have hmem : f v ∈ t.vals.map f := List.mem_map_of_mem (mem_vals_iff.mpr ⟨k, hlookup⟩)
          have hne := List.find?_eq_none.mp hfound (f v) hmem
          exact absurd (hkey k v hlookup) (by simpa using hne)
  | some a =>
      have heq : key a = k := by simpa using List.find?_some hfound
      obtain ⟨v, hv, rfl⟩ := List.mem_map.mp (List.mem_of_find?_eq_some hfound)
      obtain ⟨k', hlookup⟩ := mem_vals_iff.mp hv
      have hk : k' = k := (hkey k' v hlookup).symm.trans heq
      rw [← hk, hlookup, Option.map_some]

theorem mem_keys_iff {t : Table κ ν} {k : κ} :
    k ∈ t.keys ↔ ∃ v, t.lookup k = some v := by
  rw [← mem_keys, ← lookup_isSome, Option.isSome_iff_exists]

/-- Two tables that hold the same rows give the same lookup. -/
private theorem lookup_eq_of_mem_iff {t : Table κ ν} {k : κ} {o : Option ν}
    (h : ∀ v, (⟨k, v⟩ : (_ : κ) × ν) ∈ t.entries ↔ o = some v) : t.lookup k = o := by
  apply Option.ext
  intro v
  rw [← mem_entries_iff]
  exact h v

@[simp]
theorem lookup_retain (t : Table κ ν) (p : κ → ν → Bool) (k : κ) :
    (t.retain p).lookup k = (t.lookup k).filter (p k) := by
  apply lookup_eq_of_mem_iff
  intro v
  simp [retain, mem_entries_iff, Option.filter_eq_some_iff]

@[simp]
theorem lookup_mapVal (t : Table κ ν) (f : κ → ν → ν) (k : κ) :
    (t.mapVal f).lookup k = (t.lookup k).map (f k) := by
  apply lookup_eq_of_mem_iff
  intro v
  simp only [mapVal, List.mem_map, Option.map_eq_some_iff]
  constructor
  · rintro ⟨⟨k', w⟩, he, heq⟩
    obtain ⟨rfl, hv⟩ := Sigma.mk.inj_iff.mp heq
    exact ⟨w, mem_entries_iff.mp he, eq_of_heq hv⟩
  · rintro ⟨w, hw, rfl⟩
    exact ⟨⟨k, w⟩, mem_entries_iff.mpr hw, rfl⟩

@[simp]
theorem lookup_collect {ω : Type*} (t : Table κ ν) (f : ν → Option ω) (k : κ) :
    (t.collect f).lookup k = (t.lookup k).bind f := by
  apply lookup_eq_of_mem_iff
  intro w
  simp only [collect, List.mem_filterMap, Option.map_eq_some_iff, Option.bind_eq_some_iff]
  constructor
  · rintro ⟨⟨k', v⟩, he, w', hw', heq⟩
    obtain ⟨rfl, hv⟩ := Sigma.mk.inj_iff.mp heq
    obtain rfl := eq_of_heq hv
    exact ⟨v, mem_entries_iff.mp he, hw'⟩
  · rintro ⟨v, hv, hw⟩
    exact ⟨⟨k, v⟩, mem_entries_iff.mpr hv, w, hw, rfl⟩

theorem lookup_modify (t : Table κ ν) (k k' : κ) (f : ν → ν) :
    (t.modify k f).lookup k' = if k' = k then (t.lookup k').map f else t.lookup k' := by
  rw [modify, lookup_mapVal]
  by_cases h : k' = k
  · simp [h]
  · simp [h]

/-- Rewriting a row in a way the test does not see leaves the same row to be found. -/
theorem find?_entries_modify {t : Table κ ν} (k : κ) {f : ν → ν} (p : ν → Bool)
    (hf : ∀ v, p (f v) = p v) :
    (t.modify k f).entries.find? (fun e => p e.2) =
      (t.entries.find? fun e => p e.2).map fun e => ⟨e.1, if e.1 = k then f e.2 else e.2⟩ := by
  rw [modify, mapVal, List.find?_map]
  refine congrArg (Option.map _) (congrArg (List.find? · t.entries) (funext fun e => ?_))
  show p (if e.1 = k then f e.2 else e.2) = p e.2
  split
  · exact hf e.2
  · rfl

/-- A search among the values does not see a rewrite that its question does not see. -/
theorem findSome?_vals_modify {ω : Type*} {t : Table κ ν} (k : κ) {f : ν → ν} (g : ν → Option ω)
    (hf : ∀ v, g (f v) = g v) : (t.modify k f).vals.findSome? g = t.vals.findSome? g := by
  have hvals : (t.modify k f).vals = t.entries.map fun e => if e.1 = k then f e.2 else e.2 := by
    rw [vals, modify, mapVal, List.map_map]
    rfl
  rw [hvals, vals, List.findSome?_map, List.findSome?_map]
  refine congrArg (List.findSome? · t.entries) (funext fun e => ?_)
  show g (if e.1 = k then f e.2 else e.2) = g e.2
  split
  · exact hf e.2
  · rfl

/-- Rewriting a row to itself changes nothing. -/
theorem modify_eq_self {t : Table κ ν} {k : κ} {f : ν → ν}
    (h : ∀ v, t.lookup k = some v → f v = v) : t.modify k f = t := by
  apply AList.ext
  show t.entries.map _ = t.entries
  refine (List.map_congr_left fun e he => ?_).trans (List.map_id _)
  obtain ⟨k', v⟩ := e
  by_cases hk : k' = k
  · subst hk
    simp [h v (mem_entries_iff.mp he)]
  · simp [hk]

end AList
