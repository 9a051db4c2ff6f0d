import Ldktela.Lib.Keyed

/-!
# Tables with the dead rows swept away

`SweptOf dead t t'` says that `t'` is `t` without some rows, all of them `dead`.  The statements of
such programs keep the relation, and answer alike on both tables as long as the row they look for is
not a dead one.
-/

namespace AList

variable {κ ν : Type*} [DecidableEq κ]

/-- `t'` keeps the rows of `t` by their keys, and every row it lacks is `dead`. -/
def SweptOf (dead : ν → Prop) (t t' : Table κ ν) : Prop :=
  ∃ keep : κ → Bool, t' = t.retain (fun k _ => keep k) ∧
    ∀ k v, t.lookup k = some v → keep k = false → dead v

theorem retain_congr {t : Table κ ν} {p q : κ → ν → Bool}
    (h : ∀ k v, t.lookup k = some v → p k v = q k v) : t.retain p = t.retain q :=
  AList.ext (List.filter_congr fun e he => h e.1 e.2 (mem_entries_iff.mp he))

omit [DecidableEq κ] in
theorem retain_retain (t : Table κ ν) (p q : κ → ν → Bool) :
    (t.retain p).retain q = t.retain fun k v => p k v && q k v := by
  apply AList.ext
  show (t.entries.filter _).filter _ = t.entries.filter _
  rw [List.filter_filter]
  refine List.filter_congr fun e _ => ?_
  rw [Bool.and_comm]

omit [DecidableEq κ] in
theorem retain_mapVal (t : Table κ ν) (keep : κ → Bool) (f : κ → ν → ν) :
    (t.mapVal f).retain (fun k _ => keep k) = (t.retain fun k _ => keep k).mapVal f := by
  apply AList.ext
  show (t.entries.map _).filter _ = (t.entries.filter _).map _
  rw [List.filter_map]
  rfl

theorem retain_insert {t : Table κ ν} {k : κ} (v : ν) (hk : k ∉ t) {keep : κ → Bool}
    (hkeep : keep k = true) :
    (t.insert k v).retain (fun k _ => keep k) = (t.retain fun k _ => keep k).insert k v := by
  have hk' : k ∉ t.retain fun k _ => keep k :=
    fun h => hk ((List.Sublist.map _ List.filter_sublist).subset h)
  apply AList.ext
  show (AList.insert k v t).entries.filter (fun e => keep e.1) = (AList.insert k v _).entries
  rw [AList.entries_insert_of_notMem hk, AList.entries_insert_of_notMem hk']
  exact List.filter_cons_of_pos hkeep

/-- A count does not see a rewrite that its test does not see. -/
theorem countP_vals_modify (t : Table κ ν) (k : κ) {f : ν → ν} {p : ν → Bool}
    (hf : ∀ v, p (f v) = p v) : (t.modify k f).vals.countP p = t.vals.countP p := by
  rw [vals, vals, modify, mapVal, List.map_map, List.countP_map, List.countP_map]
  refine List.countP_congr fun e _ => ?_
  show p (if e.1 = k then f e.2 else e.2) = true ↔ p e.2 = true
  split
  · rw [hf e.2]
  · exact Iff.rfl

theorem countP_vals_insert {t : Table κ ν} {k : κ} (hk : k ∉ t) (v : ν) (p : ν → Bool) :
    (t.insert k v).vals.countP p = t.vals.countP p + if p v then 1 else 0 := by
  rw [vals, vals, entries_insert_of_notMem hk, List.map_cons, List.countP_cons]

namespace SweptOf

variable {dead dead' : ν → Prop} {t t' : Table κ ν}

theorem refl (dead : ν → Prop) (t : Table κ ν) : SweptOf dead t t := by
  refine ⟨fun _ => true, AList.ext ?_, fun k v _ h => nomatch h⟩
  exact (List.filter_eq_self.mpr fun _ _ => rfl).symm

theorem mono (h : SweptOf dead t t') (himp : ∀ v, dead v → dead' v) : SweptOf dead' t t' := by
  obtain ⟨keep, heq, hdead⟩ := h
  exact ⟨keep, heq, fun k v hv hk => himp v (hdead k v hv hk)⟩

/-- A row that is alive is found. -/
theorem lookup_eq (h : SweptOf dead t t') {k : κ}
    (halive : ∀ v, t.lookup k = some v → ¬ dead v) : t'.lookup k = t.lookup k := by
  obtain ⟨keep, rfl, hdead⟩ := h
  rw [lookup_retain]
  refine Option.filter_eq_self_of_forall fun v hv => ?_
  by_contra hdrop
  exact halive v hv (hdead k v hv (by simpa using hdrop))

/-- And so is the first row of a search, if it is alive. -/
theorem find?_eq (h : SweptOf dead t t') {p : ν → Bool}
    (halive : ∀ e, t.entries.find? (fun e => p e.2) = some e → ¬ dead e.2) :
    t'.entries.find? (fun e => p e.2) = t.entries.find? fun e => p e.2 := by
  obtain ⟨keep, rfl, hdead⟩ := h
  show (t.entries.filter fun e => keep e.1).find? (fun e => p e.2) = _
  rw [List.find?_filter]
  cases hfind : t.entries.find? fun e => p e.2 with
  | none =>
      rw [List.find?_eq_none] at hfind ⊢
      intro e he hboth
      exact hfind e he (of_decide_eq_true hboth).2
  | some e =>
      have hmem : e ∈ t.entries := List.mem_of_find?_eq_some hfind
      have hkeep : keep e.1 = true := by
        by_contra hdrop
        exact halive e hfind (hdead e.1 e.2 (mem_entries_iff.mp hmem) (by simpa using hdrop))
      rw [List.find?_eq_some_iff_append] at hfind ⊢
      obtain ⟨hp, front, back, heq, hfront⟩ := hfind
      refine ⟨by simp [hkeep, hp], front, back, heq, fun x hx => ?_⟩
      have hx' : p x.2 = false := by simpa using hfront x hx
      simp [hx']

theorem mapVal (h : SweptOf dead t t') {f : κ → ν → ν} (hf : ∀ k v, dead v → dead (f k v)) :
    SweptOf dead (t.mapVal f) (t'.mapVal f) := by
  obtain ⟨keep, rfl, hdead⟩ := h
  refine ⟨keep, (retain_mapVal t keep f).symm, fun k v hv hk => ?_⟩
  rw [lookup_mapVal] at hv
  obtain ⟨w, hw, rfl⟩ := Option.map_eq_some_iff.mp hv
  exact hf k w (hdead k w hw hk)

theorem modify (h : SweptOf dead t t') (k : κ) {f : ν → ν} (hf : ∀ v, dead v → dead (f v)) :
    SweptOf dead (t.modify k f) (t'.modify k f) := by
  refine h.mapVal fun k' v hv => ?_
  split
  · exact hf v hv
  · exact hv

/-- A key that neither table has. -/
theorem insert (h : SweptOf dead t t') {k : κ} (hk : k ∉ t) (v : ν) :
    SweptOf dead (t.insert k v) (t'.insert k v) := by
  obtain ⟨keep, rfl, hdead⟩ := h
  refine ⟨fun k' => decide (k' = k) || keep k', ?_, fun k' w hw hdrop => ?_⟩
  · rw [retain_insert v hk (by simp)]
    refine congrArg (AList.insert k v) (retain_congr fun k' w hw => ?_)
    have hne : k' ≠ k := by
      rintro rfl
      rw [lookup_eq_none.mpr hk] at hw
      cases hw
    simp [hne]
  · rw [Bool.or_eq_false_iff, decide_eq_false_iff_not] at hdrop
    rw [lookup_insert_ite, if_neg hdrop.1] at hw
    exact hdead k' w hw hdrop.2

/-- Sweeping once more. -/
theorem retain (h : SweptOf dead t t') {p : ν → Bool} (hp : ∀ v, p v = false → dead v) :
    SweptOf dead t (t'.retain fun _ v => p v) := by
  obtain ⟨keep, rfl, hdead⟩ := h
  rw [retain_retain]
  refine ⟨fun k => keep k && (t.lookup k).all p, retain_congr fun k v hv => ?_,
    fun k v hv hdrop => ?_⟩
  · show _ = (keep k && (t.lookup k).all p)
    rw [hv]
    rfl
  · replace hdrop : (keep k && (t.lookup k).all p) = false := hdrop
    rw [hv, Bool.and_eq_false_iff] at hdrop
    rcases hdrop with hdrop | hdrop
    · exact hdead k v hv hdrop
    · exact hp v hdrop

theorem mem_of_mem (h : SweptOf dead t t') {k : κ} (hk : k ∈ t') : k ∈ t := by
  obtain ⟨keep, rfl, -⟩ := h
  exact (List.Sublist.map _ List.filter_sublist).subset hk

end SweptOf

end AList
