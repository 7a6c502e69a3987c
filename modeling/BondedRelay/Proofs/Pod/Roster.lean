import Mathlib.Data.List.Nodup
import BondedRelay.Proofs.Pod.Membership

namespace BondedRelay.PodRegistry

variable {r r' : PodRegistry} {pod : Uint 32} {member : Address} {p : Pod} {n : Nat}

def roster (r : PodRegistry) : List Address := r.pods.flatMap Pod.members

def bases (r : PodRegistry) : List Amount := r.pods.map Pod.base

def number (n : Nat) : Uint 32 := .wrap (n + 1)

theorem toNat_number (h : n + 1 < Uint.limit 32) : (number n).toNat = n + 1 :=
  Nat.mod_eq_of_lt h

theorem number_of_toNat (h : pod.toNat = n + 1) : number n = pod := by
  rw [number, ← h, Uint.wrap_toNat]

@[simp]
theorem length_bases (r : PodRegistry) : r.bases.length = r.count := List.length_map ..

theorem pod_ok_iff :
    (∃ p, r.pod pod = .ok p) ↔ 1 ≤ pod.toNat ∧ pod.toNat ≤ r.count := by
  rw [← exists?_iff]
  constructor
  · rintro ⟨p, hp⟩
    cases hexists : r.exists? pod with
    | true => rfl
    | false => simp [PodRegistry.pod, pod?, hexists] at hp
  · exact pod_of_exists

theorem exists_of_mem_membersOf (h : member ∈ r.membersOf pod) :
    ∃ p ∈ r.pods, member ∈ p.members := by
  have hexists := exists?_of_mem h
  unfold membersOf pod? at h
  rw [if_pos hexists] at h
  cases hp : r.pods[index pod]? with
  | none => simp [hp] at h
  | some p => exact ⟨p, List.mem_of_getElem? hp, by simpa [hp] using h⟩

theorem membersOf_number (hcount : r.count < Uint.limit 32) (h : r.pods[n]? = some p) :
    r.membersOf (number n) = p.members := by
  have hinside : n < r.count := (List.getElem?_eq_some_iff.1 h).1
  have hnumber := toNat_number (Nat.lt_of_le_of_lt hinside hcount)
  have hexists : r.exists? (number n) = true := by
    rw [exists?_iff, hnumber]
    omega
  have hindex : index (number n) = n := by
    rw [index, hnumber]
    omega
  unfold membersOf pod?
  rw [if_pos hexists, hindex, h]

theorem getElem?_of_pod (h : r.pod pod = .ok p) :
    r.exists? pod = true ∧ r.pods[index pod]? = some p := by
  have hexists : r.exists? pod = true := exists?_iff.2 (pod_ok_iff.1 ⟨p, h⟩)
  refine ⟨hexists, ?_⟩
  unfold PodRegistry.pod pod? at h
  rw [if_pos hexists] at h
  cases hp : r.pods[index pod]? with
  | none => simp [hp] at h
  | some q => simpa [hp] using h

theorem number_index (h : r.exists? pod = true) : number (index pod) = pod := by
  have hbounds := exists?_iff.1 h
  refine number_of_toNat ?_
  unfold index
  omega

theorem mem_populated_iff (hcount : r.count < Uint.limit 32) :
    pod ∈ r.populated ↔ r.membersOf pod ≠ [] := by
  unfold populated
  rw [List.mem_filterMap]
  constructor
  · rintro ⟨⟨p, n⟩, hplace, hnumber⟩
    obtain ⟨hfirst, hp⟩ := List.mk_mem_zipIdx_iff_le_and_getElem?_sub.1 hplace
    obtain ⟨k, rfl⟩ := Nat.exists_eq_add_of_le' hfirst
    dsimp only at hnumber
    split at hnumber
    · simp at hnumber
    · next hmembers =>
        obtain rfl := Option.some.inj hnumber
        rw [Nat.add_sub_cancel] at hp
        rw [← number, membersOf_number hcount hp]
        simpa using hmembers
  · intro hmembers
    obtain ⟨member, hmember⟩ := List.exists_mem_of_ne_nil _ hmembers
    have hexists := exists?_of_mem hmember
    obtain ⟨p, hp⟩ := pod_of_exists hexists
    have hplace := (getElem?_of_pod hp).2
    refine ⟨(p, index pod + 1), ?_, ?_⟩
    · exact List.mk_mem_zipIdx_iff_le_and_getElem?_sub.2 ⟨Nat.le_add_left .., hplace⟩
    · have hsame : r.membersOf pod = p.members := by
        rw [← number_index hexists]
        exact membersOf_number hcount hplace
      rw [hsame] at hmembers
      simp only [List.isEmpty_iff, hmembers, if_false]
      exact congrArg some (number_index hexists)

theorem mem_roster_iff (hcount : r.count < Uint.limit 32) :
    member ∈ r.roster ↔ ∃ pod, member ∈ r.membersOf pod := by
  rw [roster, List.mem_flatMap]
  constructor
  · rintro ⟨p, hp, hmember⟩
    obtain ⟨n, hn⟩ := List.mem_iff_getElem?.1 hp
    exact ⟨number n, membersOf_number hcount hn ▸ hmember⟩
  · rintro ⟨pod, hmember⟩
    exact exists_of_mem_membersOf hmember

theorem Aligned.place_unique (ha : r.Aligned) {pod pod' : Uint 32} {i j : Nat}
    (h : r.memberAt pod i = some member) (h' : r.memberAt pod' j = some member) :
    pod' = pod ∧ j = i := by
  have hposition := (ha.positionOf_iff member pod i).2 h
  have hposition' := (ha.positionOf_iff member pod' j).2 h'
  rw [hposition] at hposition'
  simpa [eq_comm] using hposition'

theorem Aligned.number_unique (ha : r.Aligned) (hcount : r.count < Uint.limit 32)
    {n m i j : Nat} {p q : Pod} (hp : r.pods[n]? = some p) (hq : r.pods[m]? = some q)
    (hi : p.members[i]? = some member) (hj : q.members[j]? = some member) : m = n ∧ j = i := by
  have hn : n < r.count := (List.getElem?_eq_some_iff.1 hp).1
  have hm : m < r.count := (List.getElem?_eq_some_iff.1 hq).1
  have hplace : r.memberAt (number n) i = some member := by
    rw [memberAt, membersOf_number hcount hp, hi]
  have hplace' : r.memberAt (number m) j = some member := by
    rw [memberAt, membersOf_number hcount hq, hj]
  obtain ⟨hpod, rfl⟩ := ha.place_unique hplace hplace'
  have hnumber := congrArg Uint.toNat hpod
  rw [toNat_number (by omega), toNat_number (by omega)] at hnumber
  exact ⟨by omega, rfl⟩

theorem Aligned.nodup_roster (ha : r.Aligned) (hcount : r.count < Uint.limit 32) :
    r.roster.Nodup := by
  rw [roster, List.nodup_flatMap]
  constructor
  · intro p hp
    obtain ⟨n, hn⟩ := List.mem_iff_getElem?.1 hp
    rw [List.nodup_iff_getElem?_ne_getElem?]
    intro i j hij hj heq
    rw [List.getElem?_eq_getElem hj] at heq
    have hsame := ha.number_unique hcount hn hn heq (List.getElem?_eq_getElem hj)
    omega
  · rw [List.pairwise_iff_getElem]
    intro n m hn hm hnm
    show List.Disjoint r.pods[n].members r.pods[m].members
    rw [List.disjoint_left]
    intro member hmember hmember'
    obtain ⟨i, hi⟩ := List.mem_iff_getElem?.1 hmember
    obtain ⟨j, hj⟩ := List.mem_iff_getElem?.1 hmember'
    have hsame := ha.number_unique hcount (List.getElem?_eq_getElem hn)
      (List.getElem?_eq_getElem hm) hi hj
    omega

def rows (r : PodRegistry) : List (List Address) := r.pods.map Pod.members

def seat (rows : List (List Address)) (pod : Uint 32) (member : Address) : List (List Address) :=
  if pod.toNat = rows.length + 1 then rows ++ [[member]]
  else rows.modify (index pod) fun members => members ++ [member]

def unseat (rows : List (List Address)) (member : Address) : List (List Address) :=
  rows.map fun members =>
    if members.contains member then swapRemove members (members.idxOf member) else members

@[simp]
theorem length_rows (r : PodRegistry) : r.rows.length = r.count := List.length_map ..

theorem index_lt_of_exists (h : r.exists? pod = true) : index pod < r.count := by
  have hbounds := exists?_iff.1 h
  unfold index
  omega

theorem getElem?_rows_index (h : r.exists? pod = true) :
    r.rows[index pod]? = some (r.membersOf pod) := by
  have hindex : index pod < r.pods.length := index_lt_of_exists h
  unfold rows membersOf pod?
  rw [if_pos h, List.getElem?_map, List.getElem?_eq_getElem hindex]
  rfl

theorem getElem?_rows {members : List Address} (hcount : r.count < Uint.limit 32)
    (h : r.rows[n]? = some members) : index (number n) = n ∧ r.membersOf (number n) = members := by
  rw [rows, List.getElem?_map] at h
  obtain ⟨p, hp, rfl⟩ := Option.map_eq_some_iff.1 h
  have hinside : n < r.count := (List.getElem?_eq_some_iff.1 hp).1
  have hnumber := toNat_number (Nat.lt_of_le_of_lt hinside hcount)
  refine ⟨?_, membersOf_number hcount hp⟩
  rw [index, hnumber]
  omega

theorem rows_setMembers (r : PodRegistry) (pod : Uint 32) (members : List Address) :
    (r.setMembers pod members).rows = r.rows.modify (index pod) fun _ => members := by
  unfold rows setMembers
  apply List.ext_getElem?
  intro n
  rw [List.getElem?_map, List.getElem?_modify, List.getElem?_modify, List.getElem?_map]
  cases r.pods[n]? with
  | none => rfl
  | some p => by_cases h : index pod = n <;> simp [h]

theorem rows_join (h : r.join pod member = .ok r') : r'.rows = seat r.rows pod member := by
  obtain ⟨hexists, rfl⟩ := join_ok h
  show ((r.opened pod).setMembers pod _).rows = _
  rw [rows_setMembers, seat, length_rows]
  unfold opened at hexists ⊢
  split
  · next hnext =>
      have hnobody : r.membersOf pod = [] := by
        apply membersOf_of_not_exists
        rw [exists?, hnext]
        simp
      have hlast : index pod = r.rows.length := by
        rw [index, hnext, length_rows]
        omega
      have hrows : ({ r with pods := r.pods ++ [⟨r.schedule.base pod, []⟩] } : PodRegistry).rows =
          r.rows ++ [[]] := List.map_append
      rw [hrows, hnobody, hlast, List.nil_append]
      simp [-length_rows, List.modify_eq_take_drop]
  · next hnext =>
      rw [if_neg hnext] at hexists
      have hrow := getElem?_rows_index hexists
      apply List.ext_getElem?
      intro n
      rw [List.getElem?_modify, List.getElem?_modify]
      by_cases hn : index pod = n
      · rw [← hn, hrow]
        simp
      · simp [hn]

theorem rows_leave (ha : r.Aligned) (hcount : r.count < Uint.limit 32) (member : Address) :
    (r.leave member).rows = unseat r.rows member := by
  apply List.ext_getElem?
  intro n
  rw [unseat, List.getElem?_map]
  cases hposition : r.positionOf member with
  | none =>
      rw [leave_of_none hposition]
      cases hrow : r.rows[n]? with
      | none => rfl
      | some members =>
          obtain ⟨-, rfl⟩ := getElem?_rows hcount hrow
          have hnot : member ∉ r.membersOf (number n) := by
            intro hmember
            obtain ⟨i, hi⟩ := ha.positionOf_of_mem hmember
            simp [hposition] at hi
          simp [hnot]
  | some place =>
      obtain ⟨pod, i⟩ := place
      have hexists := ha.exists? hposition
      have hrows : (r.leave member).rows =
          r.rows.modify (index pod) fun _ => swapRemove (r.membersOf pod) i := by
        unfold leave
        rw [show r.positions.find? member = some ⟨pod, i⟩ from hposition]
        exact rows_setMembers ..
      rw [hrows, List.getElem?_modify]
      cases hrow : r.rows[n]? with
      | none => rfl
      | some members =>
          obtain ⟨hindex, rfl⟩ := getElem?_rows hcount hrow
          -- The one list that has the member has it at the place on record.
          by_cases hmember : member ∈ r.membersOf (number n)
          · have hat : r.memberAt (number n) ((r.membersOf (number n)).idxOf member) =
                some member := List.getElem?_idxOf hmember
            obtain ⟨rfl, hi⟩ := Position.mk.inj (Option.some.inj
              (hposition.symm.trans ((ha.positionOf_iff member _ _).2 hat)))
            simp [hindex, hmember, ← hi]
          · have hne : index pod ≠ n := by
              intro hn
              have hsame := getElem?_rows_index hexists
              rw [hn, hrow] at hsame
              have hat := (ha.positionOf_iff member pod i).1 hposition
              exact hmember (Option.some.inj hsame ▸ List.mem_of_getElem? hat)
            simp [hne, hmember]

theorem bases_setMembers (r : PodRegistry) (pod : Uint 32) (members : List Address) :
    (r.setMembers pod members).bases = r.bases := by
  unfold bases setMembers
  apply List.ext_getElem?
  intro n
  rw [List.getElem?_map, List.getElem?_map, List.getElem?_modify]
  cases r.pods[n]? with
  | none => rfl
  | some p => by_cases h : index pod = n <;> simp [h]

theorem bases_opened (r : PodRegistry) (pod : Uint 32) :
    (r.opened pod).bases =
      if pod.toNat = r.count + 1 then r.bases ++ [r.schedule.base pod] else r.bases := by
  unfold opened bases
  split
  · exact List.map_append
  · rfl

theorem schedule_join (h : r.join pod member = .ok r') : r'.schedule = r.schedule := by
  obtain ⟨-, rfl⟩ := join_ok h
  unfold opened
  split <;> rfl

theorem bases_join (h : r.join pod member = .ok r') :
    r'.bases =
      if pod.toNat = r.count + 1 then r.bases ++ [r.schedule.base pod] else r.bases := by
  obtain ⟨-, rfl⟩ := join_ok h
  rw [← bases_opened]
  exact bases_setMembers ..

theorem schedule_leave (r : PodRegistry) (member : Address) :
    (r.leave member).schedule = r.schedule := by
  unfold leave
  split <;> rfl

theorem bases_leave (r : PodRegistry) (member : Address) : (r.leave member).bases = r.bases := by
  unfold leave
  split
  · rfl
  · exact bases_setMembers ..

theorem bases_prefix_join (h : r.join pod member = .ok r') : r.bases <+: r'.bases := by
  rw [bases_join h]
  split
  · exact List.prefix_append ..
  · exact List.prefix_refl _

structure Priced (r : PodRegistry) (schedule : BondSchedule) : Prop where
  schedule_eq : r.schedule = schedule
  count_lt : r.count < Uint.limit 32
  bases_eq : r.bases = (List.range r.count).map fun n => schedule.base (number n)

theorem priced_empty (schedule : BondSchedule) : (empty schedule).Priced schedule :=
  ⟨rfl, Uint.limit_pos 32, rfl⟩

namespace Priced

variable {schedule : BondSchedule}

theorem join (hp : r.Priced schedule) (h : r.join pod member = .ok r') : r'.Priced schedule := by
  have hbases := bases_join h
  have hcount : r'.count = r'.bases.length := (length_bases r').symm
  refine ⟨(schedule_join h).trans hp.schedule_eq, ?_, ?_⟩
  · have hpod := pod.isLt
    have hlt := hp.count_lt
    rw [hcount, hbases]
    split
    · rw [List.length_append, length_bases, List.length_singleton]
      omega
    · rwa [length_bases]
  · rw [hcount, hbases, hp.bases_eq, hp.schedule_eq]
    split
    · next hnext =>
        rw [List.length_append, List.length_map, List.length_range, List.length_singleton,
          List.range_succ, List.map_append, List.map_singleton, number_of_toNat hnext]
    · rw [List.length_map, List.length_range]

theorem leave (hp : r.Priced schedule) (member : Address) :
    (r.leave member).Priced schedule := by
  refine ⟨(r.schedule_leave member).trans hp.schedule_eq, ?_, ?_⟩
  · rw [count_leave]
    exact hp.count_lt
  · rw [bases_leave, count_leave, hp.bases_eq]

theorem base_eq (hp : r.Priced schedule) (h : r.pod pod = .ok p) : p.base = schedule.base pod := by
  obtain ⟨hexists, hplace⟩ := getElem?_of_pod h
  have hinside := index_lt_of_exists hexists
  have hbase : r.bases[index pod]? = some p.base := by
    rw [bases, List.getElem?_map, hplace]
    rfl
  rw [hp.bases_eq, List.getElem?_map, List.getElem?_range hinside, Option.map_some,
    number_index hexists] at hbase
  exact (Option.some.inj hbase).symm

theorem requirement_ok {required : BondRequirement} (hp : r.Priced schedule)
    (h : r.requirement pod = .ok required) :
    ∃ p, r.pod pod = .ok p ∧ required.base = p.base ∧ p.base = schedule.base pod ∧
      p.base ≤ required.current := by
  unfold requirement at h
  split at h
  · next p hpod =>
      obtain rfl := Except.ok.inj h
      exact ⟨p, hpod, rfl, hp.base_eq hpod, r.schedule.base_le_current ..⟩
  · simp at h

theorem le_of_entryRequirement {required : BondRequirement} (hp : r.Priced schedule)
    (h : r.entryRequirement pod = .ok required) : schedule.base pod ≤ required.current := by
  unfold entryRequirement at h
  split at h
  · obtain rfl := Except.ok.inj h
    exact hp.schedule_eq ▸ Nat.le_refl _
  · obtain ⟨p, -, -, hbase, hle⟩ := hp.requirement_ok h
    exact hbase ▸ hle

end Priced

end BondedRelay.PodRegistry
