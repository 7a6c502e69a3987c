import BondedRelay.Job.Execution
import BondedRelay.Proofs.Bond.Operations
import BondedRelay.Proofs.Job.Window

namespace BondedRelay

@[simp]
theorem ExecutionOutcome.isFinal_status (outcome : ExecutionOutcome) :
    outcome.status.isFinal = true := by
  cases outcome <;> rfl

@[simp]
theorem JobStatus.isFinal_pending : JobStatus.pending.isFinal = false := rfl

namespace JobStore

variable {s s' : JobStore} {id : JobId} {r : JobRecord} {status : JobStatus}

theorem get?_set (s : JobStore) (id other : JobId) (r : JobRecord) :
    (⟨s.jobs.set id r⟩ : JobStore).get? other = if id = other then some r else s.get? other :=
  Table.find?_set ..

theorem pending_eq_ok_iff : s.pending id = .ok r ↔ s.get? id = some r ∧ r.status = .pending := by
  unfold pending
  cases h : s.get? id with
  | none => simp
  | some r' =>
      by_cases hp : r'.status = .pending
      · simp only [hp, if_true, Except.ok.injEq, Option.some.injEq]
        exact ⟨fun he => ⟨he, he ▸ hp⟩, fun he => he.1⟩
      · simp only [hp, if_false, reduceCtorEq, Option.some.injEq, false_iff, not_and]
        exact fun he => he ▸ hp

theorem insert_eq_ok_iff :
    s.insert r = .ok s' ↔ s.get? r.id = none ∧ s' = ⟨s.jobs.set r.id r⟩ := by
  unfold insert contains
  cases h : s.get? r.id with
  | none => simp [eq_comm]
  | some r' => simp

theorem finish_of_pending (h : s.get? id = some r) (hp : r.status = .pending)
    (hf : status.isFinal = true) : s.finish id status = .ok ⟨s.jobs.set id { r with status }⟩ := by
  simp [finish, h, hp, hf]

end JobStore

namespace Execution

variable {τ ε : Type} {config : Protocol} {l l' : Ledger τ} {w w' : Workplace τ ε} {r : JobRecord}
  {caller : Address} {payload : Payload} {now : Uint 64} {params : ExecutionParams}
  {phase : WindowPhase} {slash : Option SlashReceipt} {receipt : ExecutionReceipt} {e : Rejection}

theorem check_eq_ok_iff :
    check config l r caller now params = .ok phase ↔
      Window.authorize config l.pods l.isBonded r caller now = .ok phase ∧
        params.gasPrice ≤ BasisPoints.ceiling r.gasPrice config.spikeToleranceBps ∧
        r.gasLimit ≤ params.gasLeft := by
  unfold check
  cases hauthorized : Window.authorize config l.pods l.isBonded r caller now with
  | error e => simp
  | ok authorized =>
      simp only [Uint.lt_iff, Uint.le_iff, ← Nat.not_lt]
      by_cases hprice : (BasisPoints.ceiling r.gasPrice config.spikeToleranceBps).toNat <
          params.gasPrice.toNat
      · simp [hprice]
      · by_cases hgas : params.gasLeft.toNat < r.gasLimit.toNat <;> simp [hprice, hgas]

theorem authorize_of_check (h : check config l r caller now params = .ok phase) :
    Window.authorize config l.pods l.isBonded r caller now = .ok phase :=
  (check_eq_ok_iff.1 h).1

theorem check_ok (h : check config l r caller now params = .ok phase) :
    phase = WindowPhase.at_ r now config.windowDuration ∧
      Window.Admits config l.pods l.isBonded r caller phase :=
  Window.authorize_eq_ok_iff.1 (authorize_of_check h)

def claimant (l : Ledger τ) (caller : Address) : Beneficiary :=
  if l.isBonded caller then .bond caller else .account caller

theorem refuses?_claimant {operator : Address} (h : caller ≠ operator) :
    l.refuses? operator (claimant l caller) = none := by
  rw [Ledger.refuses?_eq_none_iff]
  unfold claimant
  split
  · next hbonded =>
      refine ⟨h, fun receiver hreceiver => ?_⟩
      obtain rfl := Beneficiary.bond.inj hreceiver
      exact hbonded
  · exact ⟨h, fun receiver hreceiver => by cases hreceiver⟩

def Due (l : Ledger τ) (r : JobRecord) (caller : Address) (phase : WindowPhase) : Prop :=
  phase.isEscalated = true ∧ caller ≠ r.primary ∧ l.isBonded r.primary = true

variable [UtilityToken τ] [JobEffect ε]

theorem penalize_of_not_due (h : ¬ Due l r caller phase) :
    penalize l r caller phase = (.ok none, l) := by
  unfold penalize
  rw [if_neg]
  simpa [Due, and_assoc] using h

theorem penalize_eq_of_due {required : BondRequirement} (h : Due l r caller phase)
    (hrequired : l.pods.requirement r.pod = .ok required) :
    penalize l r caller phase =
      match l.slash r.primary required.base (claimant l caller) with
      | (.error e, l) => (.error e, l)
      | (.ok receipt, l) => (.ok (some receipt), l) := by
  rcases hslash : l.slash r.primary required.base (claimant l caller) with ⟨e | receipt, l'⟩ <;>
    unfold claimant at hslash <;>
    simp [penalize, h.1, h.2.1, h.2.2, hrequired, hslash]

theorem penalize_of_due {required : BondRequirement} {receipt : SlashReceipt}
    (h : Due l r caller phase) (hrequired : l.pods.requirement r.pod = .ok required)
    (hslash : l.slash r.primary required.base (claimant l caller) = (.ok receipt, l')) :
    penalize l r caller phase = (.ok (some receipt), l') := by
  rw [penalize_eq_of_due h hrequired, hslash]

theorem execute_of_penalize_error (hfound : w.jobs.get? payload.jobId = some r)
    (hpending : r.status = .pending)
    (hcheck : check config w.ledger r caller now params = .ok phase)
    (hpenalize : penalize w.ledger r caller phase = (.error e, l')) :
    execute config w caller payload now params = (.error e, { w with ledger := l' }) := by
  unfold execute
  simp only [JobStore.pending_eq_ok_iff.2 ⟨hfound, hpending⟩, hcheck, hpenalize]

theorem execute_of_check (hfound : w.jobs.get? payload.jobId = some r)
    (hpending : r.status = .pending)
    (hcheck : check config w.ledger r caller now params = .ok phase)
    (hpenalize : penalize w.ledger r caller phase = (.ok slash, l')) :
    ∃ receipt w', execute config w caller payload now params = (.ok receipt, w') ∧
      receipt.slash = slash := by
  unfold execute
  simp only [JobStore.pending_eq_ok_iff.2 ⟨hfound, hpending⟩, hcheck, hpenalize]
  rw [JobStore.finish_of_pending hfound hpending (by simp)]
  exact ⟨_, _, rfl, rfl⟩

theorem penalize_ok (h : penalize l r caller phase = (.ok slash, l')) :
    slash = none ∧ l' = l ∨
      ∃ receipt required, slash = some receipt ∧ phase.isEscalated = true ∧ caller ≠ r.primary ∧
        l.pods.requirement r.pod = .ok required ∧
        l.slash r.primary required.base (claimant l caller) = (.ok receipt, l') := by
  unfold penalize at h
  split at h
  · next hdue =>
      simp only [Bool.and_eq_true, decide_eq_true_eq] at hdue
      split at h
      · simp at h
      · next required hrequired =>
          dsimp only at h
          split at h
          · simp at h
          · next receipt l₁ hslash =>
              simp only [Prod.mk.injEq, Except.ok.injEq] at h
              obtain ⟨rfl, rfl⟩ := h
              exact .inr ⟨receipt, required, rfl, hdue.1.1, hdue.1.2, hrequired, hslash⟩
  · simp only [Prod.mk.injEq, Except.ok.injEq] at h
    exact .inl ⟨h.1.symm, h.2.symm⟩

theorem penalize_error (h : penalize l r caller phase = (.error e, l')) :
    l' = l ∨ ∃ amount beneficiary, l.slash r.primary amount beneficiary = (.error e, l') := by
  unfold penalize at h
  split at h
  · split at h
    · exact .inl (congrArg Prod.snd h).symm
    · next required hrequired =>
        dsimp only at h
        split at h
        · next e' l₁ hslash =>
            obtain ⟨rfl, rfl⟩ : e' = e ∧ l₁ = l' := by simpa using h
            exact .inr ⟨required.base, _, hslash⟩
        · simp at h
  · simp at h

theorem execute_ok (h : execute config w caller payload now params = (.ok receipt, w')) :
    ∃ r phase, w.jobs.get? payload.jobId = some r ∧ r.status = .pending ∧
      check config w.ledger r caller now params = .ok phase ∧
      penalize w.ledger r caller phase = (.ok receipt.slash, w'.ledger) ∧
      receipt.job = payload.jobId ∧ receipt.executor = caller ∧
      w'.invocations = ⟨payload, caller, r.gasLimit⟩ :: w.invocations ∧
      w'.jobs = ⟨w.jobs.jobs.set payload.jobId { r with status := receipt.outcome.status }⟩ := by
  unfold execute at h
  dsimp only at h
  split at h
  · simp at h
  · next r hpending =>
      obtain ⟨hfound, hstatus⟩ := JobStore.pending_eq_ok_iff.1 hpending
      split at h
      · simp at h
      · next phase hcheck =>
          split at h
          · simp at h
          · next slash ledger hpenalize =>
              rw [JobStore.finish_of_pending hfound hstatus (by simp)] at h
              simp only [Prod.mk.injEq, Except.ok.injEq] at h
              obtain ⟨rfl, rfl⟩ := h
              exact ⟨r, phase, hfound, hstatus, hcheck, hpenalize, rfl, rfl, rfl, rfl⟩

theorem execute_error (h : execute config w caller payload now params = (.error e, w')) :
    w' = w ∨ ∃ operator amount beneficiary ledger,
      w.ledger.slash operator amount beneficiary = (.error e, ledger) ∧
      w' = { w with ledger } := by
  unfold execute at h
  dsimp only at h
  split at h
  · exact .inl (congrArg Prod.snd h).symm
  · next r hpending =>
      obtain ⟨hfound, hstatus⟩ := JobStore.pending_eq_ok_iff.1 hpending
      split at h
      · exact .inl (congrArg Prod.snd h).symm
      · next phase hcheck =>
          split at h
          · next e' ledger hpenalize =>
              obtain ⟨rfl, rfl⟩ : e' = e ∧ { w with ledger } = w' := by simpa using h
              rcases penalize_error hpenalize with rfl | ⟨amount, beneficiary, hslash⟩
              · exact .inl rfl
              · exact .inr ⟨r.primary, amount, beneficiary, ledger, hslash, rfl⟩
          · next slash ledger hpenalize =>
              -- A pending job takes every final status, so closing it cannot fail.
              rw [JobStore.finish_of_pending hfound hstatus (by simp)] at h
              simp at h

end Execution

end BondedRelay
