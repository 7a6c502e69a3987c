import BondedRelay.Job.Assignment
import BondedRelay.Proofs.Job.Window
import BondedRelay.Proofs.Pod.Roster

namespace BondedRelay.Assignment

variable {γ : Type} [ChainContext γ] {config : Protocol} {pods pods' : PodRegistry} {chain : γ}
  {payload : Payload} {members : List Address} {job : JobId} {blockHash : Hash}

theorem drawn_mem {α : Type} {l : List α} {seed : Amount} (default : α) (h : l ≠ []) :
    (l[Entropy.pick seed l.length]?).getD default ∈ l := by
  have hdrawn := Entropy.pick_lt seed (List.length_pos_iff.2 h)
  rw [List.getElem?_eq_getElem hdrawn, Option.getD_some]
  exact List.getElem_mem hdrawn

theorem choosePod_mem (h : pods.populated ≠ []) :
    choosePod .random pods job blockHash ∈ pods.populated := drawn_mem _ h

theorem choosePod_congr (h : pods.populated = pods'.populated) (policy : PodPolicy) (job : JobId)
    (blockHash : Hash) :
    choosePod policy pods job blockHash = choosePod policy pods' job blockHash := by
  cases policy with
  | fixed pod => rfl
  | random => simp only [choosePod, h]

@[simp]
theorem primary_nil (job : JobId) (blockHash : Hash) : primary [] job blockHash = 0 := rfl

theorem primary_mem (h : members ≠ []) : primary members job blockHash ∈ members := drawn_mem _ h

theorem primary_mem_of_ne_zero (h : primary members job blockHash ≠ 0) :
    primary members job blockHash ∈ members := by
  refine primary_mem fun hnobody => ?_
  rw [hnobody] at h
  exact h (primary_nil job blockHash)

theorem length_fallbacks {count length : Nat} (h : length ≠ 0) :
    (fallbacks count length job blockHash).length = count := by
  rw [fallbacks, if_neg h, List.length_map, List.length_range]

theorem lt_of_mem_fallbacks {count length : Nat} {place : Uint 32}
    (h : place ∈ fallbacks count length job blockHash) : place.toNat < length := by
  unfold fallbacks at h
  split at h
  · simp at h
  · next hsome =>
      obtain ⟨k, -, rfl⟩ := List.mem_map.1 h
      -- A place is kept in fewer bits than it is drawn in, which cannot raise it.
      exact Nat.lt_of_le_of_lt (Nat.mod_le ..) (Entropy.pick_lt _ (Nat.pos_of_ne_zero hsome))

theorem assign_congr (hpopulated : pods.populated = pods'.populated)
    (hmembers : pods.membersOf (assign config pods chain payload).pod =
      pods'.membersOf (assign config pods chain payload).pod) :
    assign config pods chain payload = assign config pods' chain payload := by
  have hpod := choosePod_congr hpopulated config.podPolicy payload.jobId
    (ChainContext.recentBlockHash chain)
  dsimp only [assign] at hmembers ⊢
  rw [hmembers, hpod]

theorem fallbackOperator_mem {r : JobRecord} {k : Nat}
    (hplaces : ∀ place ∈ r.fallbacks, place.toNat < (pods.membersOf r.pod).length) (hk : 1 ≤ k)
    (hlast : k ≤ r.fallbacks.length) :
    ∃ member ∈ pods.membersOf r.pod, Window.fallbackOperator pods r k = some member := by
  have hinside : k - 1 < r.fallbacks.length := by omega
  have hplace := hplaces _ (List.getElem_mem hinside)
  refine ⟨_, List.getElem_mem hplace, ?_⟩
  rw [Window.fallbackOperator_eq hk (List.getElem?_eq_getElem hinside), PodRegistry.memberAt,
    List.getElem?_eq_getElem hplace]

structure WellMade (config : Protocol) (pods : PodRegistry) (chain : γ) (payload : Payload)
    (r : JobRecord) : Prop where
  fields : r = { r with
    id := payload.jobId, sourceChain := payload.sourceChain, gasLimit := payload.gasLimit,
    gasPrice := payload.gasPrice, assignedBlock := ChainContext.block chain,
    assignedAt := ChainContext.timestamp chain, status := .pending }
  pod_fixed : ∀ pod, config.podPolicy = .fixed pod → r.pod = pod
  pod_random : config.podPolicy = .random → (∃ pod, pods.membersOf pod ≠ []) →
    pods.membersOf r.pod ≠ []
  manned : pods.membersOf r.pod ≠ [] → r.primary ∈ pods.membersOf r.pod ∧
    r.fallbacks.length = config.fallbackCount.toNat ∧
    (∀ place ∈ r.fallbacks, place.toNat < (pods.membersOf r.pod).length) ∧
    ∀ k, 1 ≤ k → k ≤ r.fallbacks.length →
      ∃ member ∈ pods.membersOf r.pod, Window.fallbackOperator pods r k = some member
  deserted : pods.membersOf r.pod = [] → r.primary = 0 ∧ r.fallbacks = []

theorem wellMade_assign (hcount : pods.count < Uint.limit 32) :
    WellMade config pods chain payload (assign config pods chain payload) where
  fields := rfl
  pod_fixed pod hpolicy := by simp only [assign, hpolicy, choosePod]
  pod_random := by
    rintro hpolicy ⟨pod, hpod⟩
    have hsome := List.ne_nil_of_mem ((PodRegistry.mem_populated_iff hcount).2 hpod)
    dsimp only [assign]
    rw [hpolicy]
    exact (PodRegistry.mem_populated_iff hcount).1 (choosePod_mem hsome)
  manned hmembers := by
    have hplaces (place : Uint 32) (h : place ∈ (assign config pods chain payload).fallbacks) :
        place.toNat < (pods.membersOf (assign config pods chain payload).pod).length :=
      lt_of_mem_fallbacks h
    have hsome : (pods.membersOf (assign config pods chain payload).pod).length ≠ 0 :=
      Nat.ne_of_gt (List.length_pos_iff.2 hmembers)
    exact ⟨primary_mem hmembers, length_fallbacks hsome, hplaces,
      fun k => fallbackOperator_mem hplaces⟩
  deserted hmembers := by
    dsimp only [assign] at hmembers ⊢
    rw [hmembers]
    exact ⟨rfl, rfl⟩

end BondedRelay.Assignment
