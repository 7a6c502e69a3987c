import BondedRelay.Pod.Registry

namespace BondedRelay

theorem getElem?_swapRemove {α : Type} {l : List α} {i : Nat} (h : i < l.length) (j : Nat) :
    (swapRemove l i)[j]? =
      if j < l.length - 1 then if i = j then l[l.length - 1]? else l[j]? else none := by
  have hlast : l.getLast? = l[l.length - 1]? := List.getLast?_eq_getElem?
  have hinside : l.length - 1 < l.length := by omega
  unfold swapRemove
  rw [hlast, List.getElem?_eq_getElem hinside]
  simp only [List.getElem?_dropLast, List.length_set, List.getElem?_set]
  split
  · split
    · next hij =>
        subst hij
        simp
    · rfl
  · rfl

namespace PodRegistry

variable {r r' : PodRegistry} {pod other : Uint 32} {member : Address}

theorem exists?_iff : r.exists? pod = true ↔ 1 ≤ pod.toNat ∧ pod.toNat ≤ r.count := by
  simp [exists?]

theorem exists?_of_count_le (h : r.count ≤ r'.count) (hpod : r.exists? pod = true) :
    r'.exists? pod = true := by
  rw [exists?_iff] at hpod ⊢
  omega

theorem membersOf_of_not_exists (h : r.exists? pod = false) : r.membersOf pod = [] := by
  simp [membersOf, pod?, h]

theorem exists?_of_mem (h : member ∈ r.membersOf pod) : r.exists? pod = true := by
  cases hpod : r.exists? pod with
  | true => rfl
  | false => simp [membersOf_of_not_exists hpod] at h

theorem pod_of_exists (h : r.exists? pod = true) : ∃ p, r.pod pod = .ok p := by
  have hbounds := exists?_iff.1 h
  have hindex : index pod < r.pods.length := by
    unfold index count at *
    omega
  exact ⟨r.pods[index pod], by simp [PodRegistry.pod, pod?, h, hindex]⟩

theorem requirement_of_exists (h : r.exists? pod = true) :
    ∃ required, r.requirement pod = .ok required := by
  obtain ⟨p, hp⟩ := pod_of_exists h
  exact ⟨_, by rw [requirement, hp]⟩

theorem members_eq_ok_iff {members : List Address} :
    r.members pod = .ok members ↔ r.exists? pod = true ∧ members = r.membersOf pod := by
  cases hpod : r.exists? pod with
  | false => simp [PodRegistry.members, PodRegistry.pod, pod?, hpod, Except.map]
  | true =>
      obtain ⟨p, hp⟩ := pod_of_exists hpod
      have hfound : r.pod? pod = some p := by
        unfold PodRegistry.pod at hp
        cases hq : r.pod? pod with
        | none => simp [hq] at hp
        | some q =>
            obtain rfl : q = p := by simpa [hq] using hp
            rfl
      simp [PodRegistry.members, hp, membersOf, hfound, Except.map, eq_comm]

theorem index_inj (h : 1 ≤ pod.toNat) (h' : 1 ≤ other.toNat) :
    index pod = index other ↔ pod = other := by
  unfold index
  refine ⟨fun heq => Uint.ext ?_, fun heq => by rw [heq]⟩
  omega

@[simp]
theorem count_setMembers (r : PodRegistry) (pod : Uint 32) (members : List Address) :
    (r.setMembers pod members).count = r.count :=
  List.length_modify ..

theorem membersOf_setMembers (h : r.exists? pod = true) (members : List Address)
    (other : Uint 32) :
    (r.setMembers pod members).membersOf other =
      if pod = other then members else r.membersOf other := by
  have hexists : (r.setMembers pod members).exists? other = r.exists? other := by
    simp only [exists?, count_setMembers]
  unfold membersOf pod?
  rw [hexists]
  cases hother : r.exists? other with
  | false =>
      have hne : pod ≠ other := fun heq => by simp [← heq, h] at hother
      simp [hne]
  | true =>
      have hbounds := exists?_iff.1 hother
      have hindex : index other < r.pods.length := by
        unfold index count at *
        omega
      have hinj := index_inj (exists?_iff.1 h).1 hbounds.1
      simp only [setMembers, if_true, List.getElem?_modify, hinj]
      by_cases heq : pod = other <;> simp [heq, hindex]

def opened (r : PodRegistry) (pod : Uint 32) : PodRegistry :=
  if pod.toNat = r.count + 1 then { r with pods := r.pods ++ [⟨r.schedule.base pod, []⟩] } else r

theorem count_le_opened (r : PodRegistry) (pod : Uint 32) : r.count ≤ (r.opened pod).count := by
  unfold opened
  split
  · simp [count]
  · exact Nat.le_refl _

theorem membersOf_opened (r : PodRegistry) (pod other : Uint 32) :
    (r.opened pod).membersOf other = r.membersOf other := by
  unfold opened
  split
  · next hnext =>
      unfold membersOf pod? exists? index count
      rw [List.length_append, List.length_singleton]
      by_cases hother : 1 ≤ other.toNat ∧ other.toNat ≤ r.pods.length
      · have hindex : other.toNat - 1 < r.pods.length := by omega
        rw [List.getElem?_append_left hindex]
        simp [hother, Nat.le_succ_of_le hother.2]
      · by_cases hlast : other.toNat = r.pods.length + 1
        · simp [hlast]
        · have hout : ¬ (1 ≤ other.toNat ∧ other.toNat ≤ r.pods.length + 1) := by omega
          simp [hother, hout]
  · rfl

theorem join_eq (r : PodRegistry) (pod : Uint 32) (member : Address) :
    r.join pod member = ((r.opened pod).members pod).map fun ms =>
      { (r.opened pod).setMembers pod (ms ++ [member]) with
        positions := (r.opened pod).positions.set member ⟨pod, ms.length⟩ } := by
  unfold join
  rw [← opened]
  dsimp only
  cases (r.opened pod).members pod <;> rfl

theorem positions_opened (r : PodRegistry) (pod : Uint 32) :
    (r.opened pod).positions = r.positions := by
  unfold opened
  split <;> rfl

theorem join_ok (h : r.join pod member = .ok r') :
    (r.opened pod).exists? pod = true ∧
      r' = { (r.opened pod).setMembers pod (r.membersOf pod ++ [member]) with
        positions := r.positions.set member ⟨pod, (r.membersOf pod).length⟩ } := by
  rw [join_eq] at h
  cases hms : (r.opened pod).members pod with
  | error e => simp [hms, Except.map] at h
  | ok ms =>
      obtain ⟨hexists, rfl⟩ := members_eq_ok_iff.1 hms
      rw [hms, positions_opened, membersOf_opened] at h
      exact ⟨hexists, (Except.ok.inj h).symm⟩

theorem membersOf_join (h : r.join pod member = .ok r') (other : Uint 32) :
    r'.membersOf other =
      if pod = other then r.membersOf pod ++ [member] else r.membersOf other := by
  obtain ⟨hexists, rfl⟩ := join_ok h
  rw [← membersOf_opened r pod other]
  exact membersOf_setMembers hexists _ other

theorem positionOf_join (h : r.join pod member = .ok r') (other : Address) :
    r'.positionOf other =
      if member = other then some ⟨pod, (r.membersOf pod).length⟩ else r.positionOf other := by
  obtain ⟨-, rfl⟩ := join_ok h
  exact Table.find?_set ..

theorem count_le_join (h : r.join pod member = .ok r') : r.count ≤ r'.count := by
  obtain ⟨-, rfl⟩ := join_ok h
  exact (count_setMembers (r.opened pod) pod _).symm ▸ count_le_opened r pod

theorem count_leave (r : PodRegistry) (member : Address) : (r.leave member).count = r.count := by
  unfold leave
  split
  · rfl
  · exact count_setMembers ..

theorem leave_of_none (h : r.positionOf member = none) : r.leave member = r := by
  unfold leave
  rw [show r.positions.find? member = none from h]

section

variable {i : Nat}

theorem membersOf_leave (h : r.positionOf member = some ⟨pod, i⟩) (hpod : r.exists? pod = true)
    (other : Uint 32) :
    (r.leave member).membersOf other =
      if pod = other then swapRemove (r.membersOf pod) i else r.membersOf other := by
  unfold leave
  rw [show r.positions.find? member = some ⟨pod, i⟩ from h]
  exact membersOf_setMembers hpod _ other

theorem positionOf_leave (h : r.positionOf member = some ⟨pod, i⟩) (other : Address) :
    (r.leave member).positionOf other =
      if (swapRemove (r.membersOf pod) i)[i]? = some other then some ⟨pod, i⟩
      else if member = other then none else r.positionOf other := by
  unfold positionOf leave
  rw [show r.positions.find? member = some ⟨pod, i⟩ from h]
  cases hmoved : (swapRemove (r.membersOf pod) i)[i]? with
  | none => simp only [hmoved, Table.find?_erase, reduceCtorEq, if_false]
  | some moved => simp only [hmoved, Table.find?_set, Table.find?_erase, Option.some.injEq]

end

structure Aligned (r : PodRegistry) : Prop where
  positionOf_iff : ∀ member pod i,
    r.positionOf member = some ⟨pod, i⟩ ↔ r.memberAt pod i = some member

theorem aligned_empty (schedule : BondSchedule) : (empty schedule).Aligned := by
  refine ⟨fun member pod i => ?_⟩
  have hnobody : (empty schedule).membersOf pod = [] := by
    simp [membersOf, pod?, empty]
  rw [memberAt, hnobody]
  simp [positionOf, empty]

namespace Aligned

theorem exists? (ha : r.Aligned) {i : Nat} (h : r.positionOf member = some ⟨pod, i⟩) :
    r.exists? pod = true :=
  exists?_of_mem (List.mem_of_getElem? ((ha.positionOf_iff member pod i).1 h))

theorem positionOf_of_mem (ha : r.Aligned) (h : member ∈ r.membersOf pod) :
    ∃ i, r.positionOf member = some ⟨pod, i⟩ := by
  obtain ⟨i, hi⟩ := List.mem_iff_getElem?.1 h
  exact ⟨i, (ha.positionOf_iff member pod i).2 hi⟩

theorem join (ha : r.Aligned) (hfree : r.positionOf member = none)
    (h : r.join pod member = .ok r') : r'.Aligned := by
  refine ⟨fun other pod' i => ?_⟩
  have hother := ha.positionOf_iff other pod' i
  rw [positionOf_join h, memberAt, membersOf_join h]
  unfold memberAt at hother
  by_cases hmember : member = other
  · subst hmember
    rw [hfree] at hother
    by_cases hpod : pod = pod'
    · subst hpod
      simp only [if_true, List.getElem?_append]
      grind
    · simp [hpod, ← hother]
  · by_cases hpod : pod = pod'
    · subst hpod
      simp only [hmember, if_false, if_true, List.getElem?_append]
      grind
    · simp [hmember, hpod, hother]

theorem leave (ha : r.Aligned) (member : Address) : (r.leave member).Aligned := by
  cases hposition : r.positionOf member with
  | none => rwa [leave_of_none hposition]
  | some place =>
      obtain ⟨pod, i⟩ := place
      have hmember := (ha.positionOf_iff member pod i).1 hposition
      have hinside : i < (r.membersOf pod).length := (List.getElem?_eq_some_iff.1 hmember).1
      refine ⟨fun other pod' j => ?_⟩
      have hother := ha.positionOf_iff other
      rw [positionOf_leave hposition, memberAt, membersOf_leave hposition (ha.exists? hposition)]
      unfold memberAt at hother hmember
      simp only [getElem?_swapRemove hinside, if_true]
      -- The member in the last place gets the place that is given up; all others keep theirs.
      by_cases hpod : pod = pod'
      · subst hpod
        rw [if_pos rfl, getElem?_swapRemove hinside]
        grind
      · rw [if_neg hpod]
        grind

theorem pod_positionOf_leave (ha : r.Aligned) (member other : Address) :
    ((r.leave member).positionOf other).map Position.pod =
      if member = other then none else (r.positionOf other).map Position.pod := by
  cases hposition : r.positionOf member with
  | none =>
      rw [leave_of_none hposition]
      split
      · next heq => rw [← heq, hposition, Option.map_none]
      · rfl
  | some place =>
      obtain ⟨pod, i⟩ := place
      have hmember := (ha.positionOf_iff member pod i).1 hposition
      have hinside : i < (r.membersOf pod).length := (List.getElem?_eq_some_iff.1 hmember).1
      rw [positionOf_leave hposition, getElem?_swapRemove hinside, if_pos rfl]
      by_cases hmoved : i < (r.membersOf pod).length - 1 ∧
          (r.membersOf pod)[(r.membersOf pod).length - 1]? = some other
      · have hother := (ha.positionOf_iff other pod _).2 hmoved.2
        have hne : member ≠ other := by
          intro heq
          rw [← heq, hposition] at hother
          simp only [Option.some.injEq, Position.mk.injEq, true_and] at hother
          omega
        rw [if_pos hmoved.1, if_pos hmoved.2, if_neg hne, hother]
        rfl
      · have hstays : ¬ (if i < (r.membersOf pod).length - 1 then
            (r.membersOf pod)[(r.membersOf pod).length - 1]? else none) = some other := by
          split
          · next hlast => exact fun h => hmoved ⟨hlast, h⟩
          · simp
        rw [if_neg hstays]
        split <;> rfl

end Aligned

end PodRegistry

end BondedRelay
