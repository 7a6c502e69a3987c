import BondedRelay.Proofs.Bond.Fines
import BondedRelay.Proofs.Bond.Records
import BondedRelay.Proofs.Job.Outcome
import BondedRelay.Proofs.Pod.Roster

namespace BondedRelay

theorem BondSchedule.base_of_free {s : BondSchedule} {pod : Uint 32} (h : (s.base pod).toNat = 0)
    (other : Uint 32) : (s.base other).toNat = 0 ∨ s.base other = .top := by
  have htop : (Uint.top : Amount).toNat ≠ 0 := by decide
  have hunit : s.unit.toNat = 0 := by
    unfold base at h
    split at h
    · exact absurd h htop
    · have hpos := Nat.two_pow_pos (doublings pod)
      have hlimit : 1 < Uint.limit 256 := by decide
      rw [Uint.toNat_clamp, Nat.shiftLeft_eq] at h
      by_contra hne
      have hmul := Nat.mul_pos (Nat.pos_of_ne_zero hne) hpos
      omega
  unfold base
  split
  · exact .inr rfl
  · left
    rw [Uint.toNat_clamp, hunit, Nat.zero_shiftLeft, Nat.zero_min]

namespace PodRegistry

variable {r : PodRegistry} {schedule : BondSchedule} {pod other : Uint 32}
  {required required' : BondRequirement}

theorem Priced.base_of_free (hp : r.Priced schedule) (h : r.requirement pod = .ok required)
    (hfree : required.current.toNat = 0) (h' : r.requirement other = .ok required') :
    required'.base.toNat = 0 ∨ required'.base = .top := by
  obtain ⟨p, -, -, hbase, hle⟩ := hp.requirement_ok h
  obtain ⟨p', -, hasked, hbase', -⟩ := hp.requirement_ok h'
  rw [hbase, Uint.le_iff, hfree] at hle
  rw [hasked, hbase']
  exact BondSchedule.base_of_free (Nat.eq_zero_of_le_zero hle) other

end PodRegistry

namespace Execution

section

variable {τ ε : Type} [UtilityToken τ] [JobEffect ε] {config : Protocol} {w : Workplace τ ε}
  {l' : Ledger τ} {r : JobRecord} {caller : Address} {payload : Payload} {now : Uint 64}
  {params : ExecutionParams} {phase : WindowPhase} {slash : Option SlashReceipt}

theorem execute_of_penalize (hfound : w.jobs.get? payload.jobId = some r)
    (hpending : r.status = .pending)
    (hcheck : check config w.ledger r caller now params = .ok phase)
    (hpenalize : penalize w.ledger r caller phase = (.ok slash, l')) :
    execute config w caller payload now params =
      let i : Invocation := ⟨payload, caller, r.gasLimit⟩
      (.ok ⟨payload.jobId, caller, JobEffect.outcome w.effect i, slash⟩,
        { jobs := ⟨w.jobs.jobs.set payload.jobId
            { r with status := (JobEffect.outcome w.effect i).status }⟩,
          ledger := l', effect := (JobEffect.apply w.effect i).2,
          invocations := i :: w.invocations }) := by
  unfold execute
  simp only [JobStore.pending_eq_ok_iff.2 ⟨hfound, hpending⟩, hcheck, hpenalize]
  rw [JobStore.finish_of_pending hfound hpending (by simp)]
  rfl

end

variable {l l' l₁ l₂ : Ledger MemoryToken} {r r' : JobRecord} {caller : Address}
  {phase phase' : WindowPhase} {slash : Option SlashReceipt}

inductive Levies (l : Ledger MemoryToken) (r : JobRecord) (caller : Address)
    (phase : WindowPhase) : Ledger MemoryToken → Prop
  | nothing (hdue : ¬ Due l r caller phase) : Levies l r caller phase l
  | fine {required : BondRequirement} {l' : Ledger MemoryToken} (hdue : Due l r caller phase)
      (hrequired : l.pods.requirement r.pod = .ok required)
      (hfines : l.Fines r.primary required.base (claimant l caller) l') :
      Levies l r caller phase l'

theorem Levies.penalize (h : Levies l r caller phase l') :
    ∃ slash, Execution.penalize l r caller phase = (.ok slash, l') := by
  cases h with
  | nothing hdue => exact ⟨none, penalize_of_not_due hdue⟩
  | fine hdue hrequired hfines =>
      obtain ⟨receipt, hslash, -⟩ := hfines
      exact ⟨some receipt, penalize_of_due hdue hrequired hslash⟩

theorem Levies.frame (h : Levies l r caller phase l') :
    l'.pods = l.pods ∧ l'.isBonded = l.isBonded := by
  cases h with
  | nothing hdue => exact ⟨rfl, rfl⟩
  | fine hdue hrequired hfines => exact hfines.frame

theorem Levies.covered (h : Levies l r caller phase l')
    (hcovered : l.liabilities ≤ l.held.toNat) : l'.liabilities ≤ l'.held.toNat := by
  cases h with
  | nothing hdue => exact hcovered
  | fine hdue hrequired hfines => exact hfines.covered hcovered

theorem demoted_of_slash {operator : Address} {amount : Amount} {beneficiary : Beneficiary}
    {receipt : SlashReceipt} (h : l.slash operator amount beneficiary = (.ok receipt, l'))
    (hkeeps : l'.isBonded operator = l.isBonded operator) : receipt.demoted = false := by
  obtain ⟨bond, hbond, -, hafter⟩ := Ledger.record?_slash_operator h
  cases hdemoted : receipt.demoted with
  | false => rfl
  | true =>
      rw [hdemoted, if_pos rfl] at hafter
      simp [Ledger.isBonded, hafter, hbond] at hkeeps

theorem levies_of_penalize (h : Execution.penalize l r caller phase = (.ok slash, l'))
    (hkeeps : l'.isBonded r.primary = l.isBonded r.primary) : Levies l r caller phase l' := by
  by_cases hdue : Due l r caller phase
  · have ⟨hescalated, hne, hbonded⟩ := hdue
    cases hrequired : l.pods.requirement r.pod with
    | error e => simp [Execution.penalize, hescalated, hne, hbonded, hrequired] at h
    | ok required =>
        rw [penalize_eq_of_due hdue hrequired] at h
        rcases hslash : l.slash r.primary required.base (claimant l caller) with ⟨e | receipt, l''⟩
        · simp [hslash] at h
        · obtain ⟨-, rfl⟩ : some receipt = slash ∧ l'' = l' := by simpa [hslash] using h
          exact .fine hdue hrequired ⟨receipt, hslash, demoted_of_slash hslash hkeeps⟩
  · obtain ⟨-, rfl⟩ := Prod.mk.inj ((penalize_of_not_due hdue).symm.trans h)
    exact .nothing hdue

theorem due_congr (h : l'.isBonded = l.isBonded) :
    Due l' r caller phase ↔ Due l r caller phase := by
  unfold Due
  rw [h]

theorem claimant_congr (h : l'.isBonded = l.isBonded) (caller : Address) :
    claimant l' caller = claimant l caller := by
  unfold claimant
  rw [h]

theorem Levies.swap {schedule : BondSchedule} (hp : l.pods.Priced schedule)
    (h : Levies l r caller phase l₁) (h' : Levies l₁ r' caller phase' l₂) :
    ∃ l₁', Levies l r' caller phase' l₁' ∧ Levies l₁' r caller phase l₂ := by
  obtain ⟨hpods, hbonded⟩ := h.frame
  cases h with
  | nothing hdue =>
      obtain ⟨-, hbonded'⟩ := h'.frame
      exact ⟨l₂, h', .nothing ((due_congr hbonded').not.2 hdue)⟩
  | @fine required _ hdue hrequired hfines =>
      cases h' with
      | nothing hdue' =>
          exact ⟨l, .nothing ((due_congr hbonded).not.1 hdue'), .fine hdue hrequired hfines⟩
      | @fine required' _ hdue' hrequired' hfines' =>
          rw [claimant_congr hbonded] at hfines'
          rw [hpods] at hrequired'
          obtain ⟨l₁', hfirst, hsecond⟩ := hfines.swap hfines' fun bond asked _ hasked hfree => by
            rcases hp.base_of_free hasked hfree hrequired with hzero | htop
            · exact .inl hzero
            · exact .inr (htop ▸ by rw [Uint.toNat_top]; exact bond.amount.toNat_le)
          obtain ⟨hpods', hbonded'⟩ := hfirst.frame
          refine ⟨l₁', .fine ((due_congr hbonded).1 hdue') hrequired' hfirst,
            .fine ((due_congr hbonded').2 hdue) (hpods'.symm ▸ hrequired) ?_⟩
          rwa [claimant_congr hbonded']

end Execution

end BondedRelay
