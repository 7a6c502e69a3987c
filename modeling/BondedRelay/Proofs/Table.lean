import Mathlib.Algebra.Ring.Nat
import BondedRelay.Table

namespace BondedRelay.Table

variable {κ ν : Type}

def total (t : Table κ ν) (weight : ν → Nat) : Nat := (t.values.map weight).sum

theorem total_eq_sum (t : Table κ ν) (weight : ν → Nat) :
    t.total weight = (t.entries.map fun e => weight e.2).sum := by
  simp only [total, values, List.map_map, Function.comp_def]

variable [DecidableEq κ]

theorem find?_modify (t : Table κ ν) (k k' : κ) (f : ν → ν) :
    (t.modify k f).find? k' = if k = k' then (t.find? k').map f else t.find? k' := by
  unfold modify
  cases h : t.find? k with
  | none =>
      by_cases hk : k = k'
      · subst hk
        simp [h]
      · simp [hk]
  | some v =>
      rw [find?_set]
      by_cases hk : k = k'
      · subst hk
        simp [h]
      · simp [hk]

theorem sum_replaceIn {k : κ} {old : ν} {l : List (κ × ν)} (v : ν) (weight : ν → Nat)
    (h : findIn k l = some old) :
    ((replaceIn k v l).map fun e => weight e.2).sum + weight old =
      (l.map fun e => weight e.2).sum + weight v := by
  induction l with
  | nil => simp [findIn] at h
  | cons e rest ih =>
      unfold findIn at h
      unfold replaceIn
      split at h
      · next he =>
          obtain rfl : e.2 = old := by simpa using h
          simp only [he, if_true, List.map_cons, List.sum_cons]
          omega
      · next he =>
          have := ih h
          simp only [he, if_false, List.map_cons, List.sum_cons]
          omega

theorem sum_eraseIn {k : κ} {old : ν} {l : List (κ × ν)} (weight : ν → Nat)
    (h : findIn k l = some old) :
    ((eraseIn k l).map fun e => weight e.2).sum + weight old = (l.map fun e => weight e.2).sum := by
  induction l with
  | nil => simp [findIn] at h
  | cons e rest ih =>
      unfold findIn at h
      unfold eraseIn
      split at h
      · next he =>
          obtain rfl : e.2 = old := by simpa using h
          simp only [he, if_true, List.map_cons, List.sum_cons]
          omega
      · next he =>
          have := ih h
          simp only [he, if_false, List.map_cons, List.sum_cons]
          omega

theorem total_set (t : Table κ ν) (k : κ) (v : ν) (weight : ν → Nat) :
    (t.set k v).total weight + (t.find? k).elim 0 weight = t.total weight + weight v := by
  rw [total_eq_sum, total_eq_sum]
  unfold set find?
  split
  · next old h =>
      simp only [h, Option.elim_some]
      exact sum_replaceIn v weight h
  · next h =>
      simp only [h, List.map_cons, List.sum_cons, Option.elim_none]
      omega

theorem total_erase {t : Table κ ν} {k : κ} {v : ν} (weight : ν → Nat) (h : t.find? k = some v) :
    (t.erase k).total weight + weight v = t.total weight := by
  rw [total_eq_sum, total_eq_sum]
  exact sum_eraseIn weight h

theorem total_modify {t : Table κ ν} {k : κ} {v : ν} (f : ν → ν) (weight : ν → Nat)
    (h : t.find? k = some v) :
    (t.modify k f).total weight + weight v = t.total weight + weight (f v) := by
  have hs := total_set t k (f v) weight
  rw [h] at hs
  simpa [modify, h] using hs

theorem le_total {t : Table κ ν} {k : κ} {v : ν} (weight : ν → Nat) (h : t.find? k = some v) :
    weight v ≤ t.total weight := by
  have := total_erase weight h
  omega

theorem find?_foldl_set {l : List (κ × ν)} (h : (l.map Prod.fst).Nodup) (t : Table κ ν) (k : κ) :
    (l.foldl (fun t e => t.set e.1 e.2) t).find? k = (findIn k l).or (t.find? k) := by
  induction l generalizing t with
  | nil => rfl
  | cons e rest ih =>
      rw [List.map_cons, List.nodup_cons] at h
      rw [List.foldl_cons, ih h.2, find?_set, findIn]
      by_cases hk : e.1 = k
      · have hlast : findIn k rest = none := findIn_eq_none_iff.2 (hk ▸ h.1)
        simp [hk, hlast]
      · simp [hk]

theorem find?_ofList (t : Table κ ν) (k : κ) : (ofList t.entries).find? k = t.find? k := by
  rw [ofList, find?_foldl_set t.nodup, find?_empty, Option.or_none]
  rfl

theorem map_put_of_notMem {l : List (κ × ν)} {k : κ} (h : k ∉ l.map Prod.fst) (v : ν) :
    (l.map fun e => if e.1 = k then (k, v) else e) = l := by
  have hother : ∀ e ∈ l, (if e.1 = k then (k, v) else e) = e := by
    intro e hmem
    refine if_neg fun hk => h ?_
    rw [← hk]
    exact List.mem_map_of_mem hmem
  rw [List.map_congr_left hother, List.map_id']

theorem replaceIn_eq_map {l : List (κ × ν)} (h : (l.map Prod.fst).Nodup) (k : κ) (v : ν) :
    replaceIn k v l = l.map fun e => if e.1 = k then (k, v) else e := by
  induction l with
  | nil => rfl
  | cons e rest ih =>
      obtain ⟨hfirst, hrest⟩ := List.nodup_cons.1 h
      rw [replaceIn, List.map_cons]
      split
      · next hk =>
          rw [map_put_of_notMem (hk ▸ hfirst)]
      · rw [ih hrest]

theorem entries_set_of_some {t : Table κ ν} {k : κ} {old : ν} (h : t.find? k = some old) (v : ν) :
    (t.set k v).entries = t.entries.map fun e => if e.1 = k then (k, v) else e := by
  unfold set
  split
  · exact replaceIn_eq_map t.nodup k v
  · next hnone => exact absurd (hnone.symm.trans h) (by simp)

theorem entries_set_of_none {t : Table κ ν} {k : κ} (h : t.find? k = none) (v : ν) :
    (t.set k v).entries = (k, v) :: t.entries := by
  unfold set
  split
  · next hsome => exact absurd (hsome.symm.trans h) (by simp)
  · rfl

theorem findIn_map {ν' : Type} (f : κ → ν → ν') (k : κ) (l : List (κ × ν)) :
    findIn k (l.map fun e => (e.1, f e.1 e.2)) = (findIn k l).map (f k) := by
  induction l with
  | nil => rfl
  | cons e rest ih =>
      by_cases hk : e.1 = k
      · simp [findIn, hk]
      · simp [findIn, hk, ih]

def mapValues {ν' : Type} (f : ν → ν') (t : Table κ ν) : Table κ ν' where
  entries := t.entries.map fun e => (e.1, f e.2)
  nodup := by
    rw [List.map_map]
    exact t.nodup

theorem find?_mapValues {ν' : Type} (f : ν → ν') (t : Table κ ν) (k : κ) :
    (t.mapValues f).find? k = (t.find? k).map f :=
  findIn_map (fun _ => f) k t.entries

theorem mapValues_set {ν' : Type} (f : ν → ν') (t : Table κ ν) (k : κ) (v : ν) :
    (t.set k v).mapValues f = (t.mapValues f).set k (f v) := by
  apply ext
  show (t.set k v).entries.map _ = _
  cases h : t.find? k with
  | none =>
      rw [entries_set_of_none h, entries_set_of_none (by rw [find?_mapValues, h]; rfl)]
      rfl
  | some old =>
      rw [entries_set_of_some h, entries_set_of_some (by rw [find?_mapValues, h]; rfl)]
      show _ = (t.entries.map _).map _
      rw [List.map_map, List.map_map]
      refine List.map_congr_left fun e _ => ?_
      by_cases hk : e.1 = k <;> simp [hk]

theorem set_set (t : Table κ ν) (k : κ) (v w : ν) : (t.set k v).set k w = t.set k w := by
  apply ext
  rw [entries_set_of_some (find?_set_self t k v)]
  cases h : t.find? k with
  | none =>
      rw [entries_set_of_none h, entries_set_of_none h, List.map_cons, if_pos rfl,
        map_put_of_notMem (find?_eq_none_iff.1 h)]
  | some old =>
      rw [entries_set_of_some h, entries_set_of_some h, List.map_map]
      refine List.map_congr_left fun e _ => ?_
      by_cases hk : e.1 = k <;> simp [hk]

theorem set_comm {t : Table κ ν} {k k' : κ} (hne : k ≠ k') (h : t.find? k ≠ none) (v w : ν) :
    (t.set k v).set k' w = (t.set k' w).set k v := by
  obtain ⟨old, hold⟩ := Option.ne_none_iff_exists'.1 h
  have hold' : (t.set k' w).find? k = some old := by rw [find?_set, if_neg hne.symm, hold]
  have hother : (t.set k v).find? k' = t.find? k' := by rw [find?_set, if_neg hne]
  apply ext
  rw [entries_set_of_some hold']
  cases h' : t.find? k' with
  | none =>
      rw [entries_set_of_none (hother.trans h'), entries_set_of_none h', entries_set_of_some hold,
        List.map_cons, if_neg hne.symm]
  | some old' =>
      rw [entries_set_of_some (hother.trans h'), entries_set_of_some h', entries_set_of_some hold,
        List.map_map, List.map_map]
      refine List.map_congr_left fun e _ => ?_
      by_cases hk : e.1 = k
      · simp [hk, hne]
      · by_cases hk' : e.1 = k' <;> simp [hk, hk', hne.symm]

theorem modify_of_some {t : Table κ ν} {k : κ} {v : ν} (h : t.find? k = some v) (f : ν → ν) :
    t.modify k f = t.set k (f v) := by
  simp [modify, h]

theorem modify_of_none {t : Table κ ν} {k : κ} (h : t.find? k = none) (f : ν → ν) :
    t.modify k f = t := by
  simp [modify, h]

theorem modify_modify (t : Table κ ν) (k : κ) (f g : ν → ν) :
    (t.modify k f).modify k g = t.modify k fun v => g (f v) := by
  cases h : t.find? k with
  | none => rw [modify_of_none h, modify_of_none h, modify_of_none h]
  | some v =>
      rw [modify_of_some h, modify_of_some (find?_set_self ..), modify_of_some h, set_set]

theorem modify_comm {k k' : κ} (hne : k ≠ k') (t : Table κ ν) (f g : ν → ν) :
    (t.modify k f).modify k' g = (t.modify k' g).modify k f := by
  cases h : t.find? k with
  | none =>
      have hafter : (t.modify k' g).find? k = none := by
        rw [find?_modify, if_neg hne.symm, h]
      rw [modify_of_none h, modify_of_none hafter]
  | some v =>
      have hafter : (t.modify k' g).find? k = some v := by
        rw [find?_modify, if_neg hne.symm, h]
      rw [modify_of_some h, modify_of_some hafter]
      cases h' : t.find? k' with
      | none =>
          have hafter' : (t.set k (f v)).find? k' = none := by rw [find?_set, if_neg hne, h']
          rw [modify_of_none h', modify_of_none hafter']
      | some v' =>
          have hafter' : (t.set k (f v)).find? k' = some v' := by rw [find?_set, if_neg hne, h']
          rw [modify_of_some h', modify_of_some hafter', set_comm hne (by simp [h])]

theorem eraseIn_eq_filter {l : List (κ × ν)} (h : (l.map Prod.fst).Nodup) (k : κ) :
    eraseIn k l = l.filter fun e => e.1 ≠ k := by
  induction l with
  | nil => rfl
  | cons e rest ih =>
      obtain ⟨hfirst, hrest⟩ := List.nodup_cons.1 h
      rw [eraseIn]
      split
      · next hk =>
          have hother : ∀ e' ∈ rest, decide (e'.1 ≠ k) = true := by
            intro e' hmem
            refine decide_eq_true fun hk' => hfirst ?_
            rw [hk, ← hk']
            exact List.mem_map_of_mem hmem
          rw [List.filter_cons_of_neg (by simp [hk]), List.filter_eq_self.2 hother]
      · next hk => rw [List.filter_cons_of_pos (by simp [hk]), ih hrest]

theorem erase_comm (t : Table κ ν) (k k' : κ) : (t.erase k).erase k' = (t.erase k').erase k := by
  apply ext
  have hentries (t : Table κ ν) (k : κ) : (t.erase k).entries = t.entries.filter fun e => e.1 ≠ k :=
    eraseIn_eq_filter t.nodup k
  rw [hentries, hentries, hentries, hentries, List.filter_filter, List.filter_filter]
  exact List.filter_congr fun e _ => Bool.and_comm ..

end BondedRelay.Table
