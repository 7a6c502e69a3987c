namespace BondedRelay

structure Table (κ ν : Type) where
  entries : List (κ × ν)
  nodup : (entries.map Prod.fst).Nodup
  deriving DecidableEq

namespace Table

variable {κ ν : Type} [DecidableEq κ]

instance [Repr κ] [Repr ν] : Repr (Table κ ν) := ⟨fun t _ => repr t.entries⟩

def empty : Table κ ν := ⟨[], List.nodup_nil⟩

instance : Inhabited (Table κ ν) := ⟨empty⟩

def keys (t : Table κ ν) : List κ := t.entries.map Prod.fst

def values (t : Table κ ν) : List ν := t.entries.map Prod.snd

def size (t : Table κ ν) : Nat := t.entries.length

def findIn (k : κ) : List (κ × ν) → Option ν
  | [] => none
  | (k', v) :: rest => if k' = k then some v else findIn k rest

def find? (t : Table κ ν) (k : κ) : Option ν := findIn k t.entries

def contains (t : Table κ ν) (k : κ) : Bool := (t.find? k).isSome

def getD (t : Table κ ν) (k : κ) (default : ν) : ν := (t.find? k).getD default

def replaceIn (k : κ) (v : ν) : List (κ × ν) → List (κ × ν)
  | [] => []
  | (k', v') :: rest => if k' = k then (k, v) :: rest else (k', v') :: replaceIn k v rest

def eraseIn (k : κ) : List (κ × ν) → List (κ × ν)
  | [] => []
  | (k', v) :: rest => if k' = k then rest else (k', v) :: eraseIn k rest

omit [DecidableEq κ] in
theorem ext {t u : Table κ ν} (h : t.entries = u.entries) : t = u := by
  cases t
  cases u
  simpa using h

theorem map_fst_replaceIn (k : κ) (v : ν) (l : List (κ × ν)) :
    (replaceIn k v l).map Prod.fst = l.map Prod.fst := by
  induction l with
  | nil => rfl
  | cons e rest ih =>
      unfold replaceIn
      split
      · next h => simp [h]
      · simp [ih]

theorem map_fst_eraseIn (k : κ) (l : List (κ × ν)) :
    (eraseIn k l).map Prod.fst = (l.map Prod.fst).erase k := by
  induction l with
  | nil => rfl
  | cons e rest ih =>
      unfold eraseIn
      split
      · next h => simp [h]
      · next h => simp [ih, h]

theorem findIn_eq_none_iff {k : κ} {l : List (κ × ν)} :
    findIn k l = none ↔ k ∉ l.map Prod.fst := by
  induction l with
  | nil => simp [findIn]
  | cons e rest ih =>
      unfold findIn
      split
      · next h => simp [h]
      · next h => simp [ih, Ne.symm h]

def set (t : Table κ ν) (k : κ) (v : ν) : Table κ ν :=
  match h : findIn k t.entries with
  | some _ => ⟨replaceIn k v t.entries, by rw [map_fst_replaceIn]; exact t.nodup⟩
  | none => ⟨(k, v) :: t.entries, List.nodup_cons.2 ⟨findIn_eq_none_iff.1 h, t.nodup⟩⟩

def erase (t : Table κ ν) (k : κ) : Table κ ν :=
  ⟨eraseIn k t.entries, by rw [map_fst_eraseIn]; exact t.nodup.erase k⟩

def modify (t : Table κ ν) (k : κ) (f : ν → ν) : Table κ ν :=
  match t.find? k with
  | some v => t.set k (f v)
  | none => t

def ofList (l : List (κ × ν)) : Table κ ν := l.foldl (fun t e => t.set e.1 e.2) empty

theorem findIn_replaceIn (k k' : κ) (v : ν) (l : List (κ × ν)) (h : (findIn k l).isSome) :
    findIn k' (replaceIn k v l) = if k = k' then some v else findIn k' l := by
  induction l with
  | nil => simp [findIn] at h
  | cons e rest ih =>
      unfold replaceIn
      split
      · next he =>
          subst he
          by_cases hk : e.1 = k' <;> simp [findIn, hk]
      · next he =>
          have hr : (findIn k rest).isSome := by simpa [findIn, he] using h
          by_cases hk : e.1 = k'
          · have hkk : k ≠ k' := fun c => he (hk.trans c.symm)
            simp [findIn, hk, hkk]
          · simp [findIn, hk, ih hr]

theorem findIn_eraseIn (k k' : κ) (l : List (κ × ν)) (hn : (l.map Prod.fst).Nodup) :
    findIn k' (eraseIn k l) = if k = k' then none else findIn k' l := by
  induction l with
  | nil => simp [eraseIn, findIn]
  | cons e rest ih =>
      simp only [List.map_cons, List.nodup_cons] at hn
      unfold eraseIn
      split
      · next he =>
          subst he
          by_cases hk : e.1 = k'
          · subst hk
            simp [findIn_eq_none_iff.2 hn.1]
          · simp [findIn, hk]
      · next he =>
          by_cases hk : e.1 = k'
          · have hkk : k ≠ k' := fun c => he (hk.trans c.symm)
            simp [findIn, hk, hkk]
          · simp [findIn, hk, ih hn.2]

@[simp]
theorem find?_empty (k : κ) : (empty : Table κ ν).find? k = none := rfl

theorem find?_set (t : Table κ ν) (k k' : κ) (v : ν) :
    (t.set k v).find? k' = if k = k' then some v else t.find? k' := by
  unfold set find?
  split
  · next h => exact findIn_replaceIn k k' v _ (by rw [h]; rfl)
  · rfl

@[simp]
theorem find?_set_self (t : Table κ ν) (k : κ) (v : ν) : (t.set k v).find? k = some v := by
  simp [find?_set]

theorem find?_erase (t : Table κ ν) (k k' : κ) :
    (t.erase k).find? k' = if k = k' then none else t.find? k' :=
  findIn_eraseIn k k' t.entries t.nodup

theorem find?_eq_none_iff {t : Table κ ν} {k : κ} : t.find? k = none ↔ k ∉ t.keys :=
  findIn_eq_none_iff

end Table

end BondedRelay
