import BondedRelay.Bond.Ledger
import BondedRelay.Proofs.Table

namespace BondedRelay

namespace PodRegistry

theorem join_of_entryRequirement {r : PodRegistry} {pod : Uint 32} {required : BondRequirement}
    (h : r.entryRequirement pod = .ok required) (member : Address) :
    ∃ r', r.join pod member = .ok r' := by
  unfold entryRequirement at h
  split at h
  · next hnext =>
      have hindex : index pod = r.pods.length := by
        unfold index count at *
        omega
      unfold join
      simp [hnext, members, PodRegistry.pod, pod?, exists?, count, hindex, Except.map]
  · next hnext =>
      cases hp : r.pod pod with
      | error e => simp [requirement, hp] at h
      | ok p => exact ⟨_, by simp [join, hnext, members, hp, Except.map]; rfl⟩

end PodRegistry

namespace Ledger

variable {τ : Type} {l l' : Ledger τ}

@[simp]
theorem record?_token (l : Ledger τ) (token : τ) (operator : Address) :
    ({ l with token } : Ledger τ).record? operator = l.record? operator := rfl

theorem record?_remove (l : Ledger τ) (operator other : Address) :
    (l.remove operator).record? other = if operator = other then none else l.record? other :=
  Table.find?_erase ..

theorem record?_updateAmount (l : Ledger τ) (operator other : Address) (f : Amount → Amount) :
    (l.updateAmount operator f).record? other =
      if operator = other then
        (l.record? other).map fun r => { r with amount := f r.amount }
      else l.record? other :=
  Table.find?_modify ..

theorem isBonded_eq_false_iff {operator : Address} :
    l.isBonded operator = false ↔ l.record? operator = none := by
  simp [isBonded]

theorem refuses?_eq_none_iff {operator : Address} {beneficiary : Beneficiary} :
    l.refuses? operator beneficiary = none ↔
      beneficiary.address ≠ operator ∧
        ∀ receiver, beneficiary = .bond receiver → l.isBonded receiver = true := by
  unfold refuses?
  split
  · next h => simp [h]
  · next h =>
      cases beneficiary with
      | bond receiver => simpa using fun _ => h
      | account receiver => simpa using h

def deduct (l : Ledger τ) (receipt : SlashReceipt) : Ledger τ :=
  if receipt.demoted then l.remove receipt.operator
  else l.updateAmount receipt.operator fun _ => receipt.remaining

theorem settle_eq (l : Ledger τ) (receipt : SlashReceipt) :
    l.settle receipt =
      match receipt.beneficiary with
      | .bond receiver =>
          (l.deduct receipt).updateAmount receiver fun amount => amount.satAdd receipt.slashed
      | .account _ => l.deduct receipt := rfl

theorem deduct_frame (l : Ledger τ) (receipt : SlashReceipt) :
    ∃ pods bonds, l.deduct receipt = { l with pods, bonds } := by
  unfold deduct
  split <;> exact ⟨_, _, rfl⟩

theorem settle_frame (l : Ledger τ) (receipt : SlashReceipt) :
    ∃ pods bonds, l.settle receipt = { l with pods, bonds } := by
  obtain ⟨pods, bonds, hdeduct⟩ := l.deduct_frame receipt
  rw [settle_eq]
  split <;> rw [hdeduct] <;> exact ⟨_, _, rfl⟩

theorem record?_deduct_operator (l : Ledger τ) (receipt : SlashReceipt) :
    (l.deduct receipt).record? receipt.operator =
      if receipt.demoted then none
      else (l.record? receipt.operator).map fun r => { r with amount := receipt.remaining } := by
  unfold deduct
  split <;> simp [record?_remove, record?_updateAmount]

theorem record?_deduct_other (l : Ledger τ) {receipt : SlashReceipt} {other : Address}
    (h : receipt.operator ≠ other) : (l.deduct receipt).record? other = l.record? other := by
  unfold deduct
  split <;> simp [record?_remove, record?_updateAmount, h]

theorem record?_settle_operator (l : Ledger τ) {receipt : SlashReceipt}
    (h : receipt.beneficiary.address ≠ receipt.operator) :
    (l.settle receipt).record? receipt.operator =
      if receipt.demoted then none
      else (l.record? receipt.operator).map fun r => { r with amount := receipt.remaining } := by
  rw [settle_eq]
  cases hb : receipt.beneficiary with
  | account receiver => exact l.record?_deduct_operator receipt
  | bond receiver =>
      have hne : receiver ≠ receipt.operator := by simpa [hb, Beneficiary.address] using h
      simp only [record?_updateAmount, hne, if_false]
      exact l.record?_deduct_operator receipt

theorem record?_settle_other (l : Ledger τ) {receipt : SlashReceipt} {other : Address}
    (h : receipt.operator ≠ other) :
    (l.settle receipt).record? other =
      if receipt.beneficiary = .bond other then
        (l.record? other).map fun r => { r with amount := r.amount.satAdd receipt.slashed }
      else l.record? other := by
  rw [settle_eq]
  cases hb : receipt.beneficiary with
  | account receiver => simp [record?_deduct_other l h]
  | bond receiver => simp [record?_updateAmount, record?_deduct_other l h]

structure Divides (receipt : SlashReceipt) (r : BondRecord) : Prop where
  sum_eq :
    receipt.slashed.toNat + receipt.remaining.toNat + receipt.refunded.toNat = r.amount.toNat
  remaining_eq : receipt.demoted = true → receipt.remaining.toNat = 0
  refunded_eq : receipt.demoted = false → receipt.refunded.toNat = 0

theorem divides_slashReceipt (r : BondRecord) (required : BondRequirement) (operator : Address)
    (amount : Amount) (beneficiary : Beneficiary) :
    Divides (slashReceipt r required operator amount beneficiary) r := by
  unfold slashReceipt
  by_cases h : r.amount.satSub (min amount r.amount) < required.current
  · refine ⟨?_, fun _ => ?_, fun hd => ?_⟩
    · simp only [h, decide_true, if_true, Uint.toNat_satSub, Uint.toNat_min, Uint.toNat_zero]
      omega
    · simp [h]
    · simp [h] at hd
  · refine ⟨?_, fun hd => ?_, fun _ => ?_⟩
    · simp only [h, decide_false, Bool.false_eq_true, if_false, Uint.toNat_satSub, Uint.toNat_min,
        Uint.toNat_zero]
      omega
    · simp [h] at hd
    · simp [h]

section

variable {r : BondRecord} {required : BondRequirement} {operator : Address} {amount : Amount}
  {beneficiary : Beneficiary}

theorem demoted_slashReceipt_eq_false_iff :
    (slashReceipt r required operator amount beneficiary).demoted = false ↔
      required.current.toNat ≤ r.amount.toNat - amount.toNat := by
  simp only [slashReceipt, decide_eq_false_iff_not, Uint.lt_iff, Uint.toNat_satSub, Uint.toNat_min]
  omega

theorem current_le_remaining
    (h : (slashReceipt r required operator amount beneficiary).demoted = false) :
    required.current ≤ (slashReceipt r required operator amount beneficiary).remaining := by
  have hstays := demoted_slashReceipt_eq_false_iff.1 h
  have hremaining : (slashReceipt r required operator amount beneficiary).remaining =
      r.amount.satSub (min amount r.amount) := if_neg (Bool.eq_false_iff.1 h)
  rw [hremaining, Uint.le_iff, Uint.toNat_satSub, Uint.toNat_min]
  omega

end

theorem Divides.paid_le {receipt : SlashReceipt} {r : BondRecord} (h : Divides receipt r) :
    receipt.slashed.toNat + receipt.refunded.toNat ≤ (Uint.top : Amount).toNat := by
  have hsum := h.sum_eq
  have htop := r.amount.toNat_le
  rw [Uint.toNat_top]
  omega

inductive Call where
  | bond (payer operator : Address) (amount : Amount) (pod : Uint 32) (kind : OperatorKind)
  | topUp (payer operator : Address) (amount : Amount)
  | unbond (caller operator recipient : Address)
  | slash (operator : Address) (amount : Amount) (beneficiary : Beneficiary)
  deriving DecidableEq, Repr

variable [UtilityToken τ]

def after (l : Ledger τ) : Call → Ledger τ
  | .bond payer operator amount pod kind => (l.bond payer operator amount pod kind).2
  | .topUp payer operator amount => (l.topUp payer operator amount).2
  | .unbond caller operator recipient => (l.unbond caller operator recipient).2
  | .slash operator amount beneficiary => (l.slash operator amount beneficiary).2

def rejects (l : Ledger τ) (e : Rejection) : Call → Prop
  | .bond payer operator amount pod kind => (l.bond payer operator amount pod kind).1 = .error e
  | .topUp payer operator amount => (l.topUp payer operator amount).1 = .error e
  | .unbond caller operator recipient => (l.unbond caller operator recipient).1 = .error e
  | .slash operator amount beneficiary => (l.slash operator amount beneficiary).1 = .error e

variable {payer payee caller operator recipient : Address} {amount : Amount}
  {pod : Uint 32} {kind : OperatorKind} {beneficiary : Beneficiary} {e : Rejection}

def taken (l : Ledger τ) (t : Except TokenError Unit × τ) : Except Rejection Unit × Ledger τ :=
  (t.1.mapError .token, { l with token := t.2 })

omit [UtilityToken τ] in
theorem taken_ok {t : Except TokenError Unit × τ} (h : l.taken t = (.ok (), l')) :
    ∃ token, t = (.ok (), token) ∧ l' = { l with token } := by
  obtain ⟨error | _, token⟩ := t
  · cases congrArg Prod.fst h
  · exact ⟨token, rfl, (congrArg Prod.snd h).symm⟩

omit [UtilityToken τ] in
theorem taken_error {t : Except TokenError Unit × τ} (h : l.taken t = (.error e, l')) :
    ∃ error token, t = (.error error, token) ∧ e = .token error ∧ l' = { l with token } := by
  obtain ⟨error | _, token⟩ := t
  · exact ⟨error, token, rfl, (Except.error.inj (congrArg Prod.fst h)).symm,
      (congrArg Prod.snd h).symm⟩
  · cases congrArg Prod.fst h

theorem collect_ok (h : l.collect payer amount = (.ok (), l')) :
    ∃ token, UtilityToken.transferFrom l.token l.address payer l.address amount = (.ok (), token) ∧
      l' = { l with token } := taken_ok h

theorem collect_error (h : l.collect payer amount = (.error e, l')) :
    ∃ error token,
      UtilityToken.transferFrom l.token l.address payer l.address amount = (.error error, token) ∧
      e = .token error ∧ l' = { l with token } := taken_error h

theorem pay_ok (h : l.pay payee amount = (.ok (), l')) :
    ∃ token, UtilityToken.transfer l.token l.address payee amount = (.ok (), token) ∧
      l' = { l with token } := taken_ok h

theorem pay_error (h : l.pay payee amount = (.error e, l')) :
    ∃ error token, UtilityToken.transfer l.token l.address payee amount = (.error error, token) ∧
      e = .token error ∧ l' = { l with token } := taken_error h

theorem payNonzero_frame (l : Ledger τ) (payee : Address) (amount : Amount) :
    ∃ token, (l.payNonzero payee amount).2 = { l with token } := by
  unfold payNonzero
  split
  · exact ⟨l.token, rfl⟩
  · exact ⟨_, rfl⟩

def reward (l : Ledger τ) (receipt : SlashReceipt) : Except Rejection Unit × Ledger τ :=
  match receipt.beneficiary with
  | .account receiver => l.payNonzero receiver receipt.slashed
  | .bond _ => (.ok (), l)

theorem payOut_eq (l : Ledger τ) (receipt : SlashReceipt) :
    l.payOut receipt =
      match l.reward receipt with
      | (.error e, l) => (.error e, l)
      | (.ok _, l) => l.payNonzero receipt.operator receipt.refunded := rfl

theorem reward_frame (l : Ledger τ) (receipt : SlashReceipt) :
    ∃ token, (l.reward receipt).2 = { l with token } := by
  unfold reward
  cases receipt.beneficiary with
  | account receiver => exact l.payNonzero_frame receiver receipt.slashed
  | bond receiver => exact ⟨l.token, rfl⟩

theorem payOut_frame (l : Ledger τ) (receipt : SlashReceipt) :
    ∃ token, (l.payOut receipt).2 = { l with token } := by
  obtain ⟨token, hreward⟩ := l.reward_frame receipt
  rw [payOut_eq]
  split
  · next heq =>
      rw [heq] at hreward
      exact ⟨token, hreward⟩
  · next heq =>
      rw [heq] at hreward
      obtain rfl := hreward
      exact payNonzero_frame _ receipt.operator receipt.refunded

theorem bond_ok {r : BondRecord} (h : l.bond payer operator amount pod kind = (.ok r, l')) :
    l.record? operator = none ∧ r = ⟨amount, pod, kind⟩ ∧
      (∃ required, l.pods.entryRequirement pod = .ok required ∧ required.current ≤ amount) ∧
      ∃ token pods,
        UtilityToken.transferFrom l.token l.address payer l.address amount = (.ok (), token) ∧
        l.pods.join pod operator = .ok pods ∧
        l' = { l with token, pods, bonds := l.bonds.set operator r } := by
  unfold bond at h
  split at h
  · simp at h
  · next hfree =>
      split at h
      · simp at h
      · next required hrequired =>
          split at h
          · simp at h
          · next hamount =>
              split at h
              · simp at h
              · next l₁ hcollect =>
                  obtain ⟨token, htransfer, rfl⟩ := collect_ok hcollect
                  obtain ⟨pods, hjoin⟩ := PodRegistry.join_of_entryRequirement hrequired operator
                  simp only [hjoin, Prod.mk.injEq, Except.ok.injEq] at h
                  obtain ⟨rfl, rfl⟩ := h
                  exact ⟨isBonded_eq_false_iff.1 (by simpa using hfree), rfl,
                    ⟨required, hrequired, Nat.le_of_not_lt hamount⟩,
                    token, pods, htransfer, hjoin, rfl⟩

theorem bond_error (h : l.bond payer operator amount pod kind = (.error e, l')) :
    l' = l ∨ ∃ error token,
      UtilityToken.transferFrom l.token l.address payer l.address amount = (.error error, token) ∧
      e = .token error ∧ l' = { l with token } := by
  unfold bond at h
  split at h
  · exact .inl (congrArg Prod.snd h).symm
  · split at h
    · exact .inl (congrArg Prod.snd h).symm
    · next required hrequired =>
        split at h
        · exact .inl (congrArg Prod.snd h).symm
        · split at h
          · next e' l₁ hcollect =>
              obtain ⟨rfl, rfl⟩ : e' = e ∧ l₁ = l' := by simpa using h
              exact .inr (collect_error hcollect)
          · next l₁ hcollect =>
              obtain ⟨token, -, rfl⟩ := collect_ok hcollect
              obtain ⟨pods, hjoin⟩ := PodRegistry.join_of_entryRequirement hrequired operator
              simp [hjoin] at h

theorem topUp_ok {updated : Amount} (h : l.topUp payer operator amount = (.ok updated, l')) :
    ∃ r token, l.record? operator = some r ∧
      UtilityToken.transferFrom l.token l.address payer l.address amount = (.ok (), token) ∧
      updated = r.amount.satAdd amount ∧
      l' = ({ l with token } : Ledger τ).updateAmount operator fun _ => updated := by
  unfold topUp at h
  split at h
  · simp at h
  · next r hr =>
      split at h
      · simp at h
      · next l₁ hcollect =>
          obtain ⟨token, htransfer, rfl⟩ := collect_ok hcollect
          simp only [Prod.mk.injEq, Except.ok.injEq] at h
          obtain ⟨rfl, rfl⟩ := h
          exact ⟨r, token, hr, htransfer, rfl, rfl⟩

theorem topUp_error (h : l.topUp payer operator amount = (.error e, l')) :
    l' = l ∨ ∃ error token,
      UtilityToken.transferFrom l.token l.address payer l.address amount = (.error error, token) ∧
      e = .token error ∧ l' = { l with token } := by
  unfold topUp at h
  split at h
  · exact .inl (congrArg Prod.snd h).symm
  · split at h
    · next e' l₁ hcollect =>
        obtain ⟨rfl, rfl⟩ : e' = e ∧ l₁ = l' := by simpa using h
        exact .inr (collect_error hcollect)
    · simp at h

theorem unbond_ok {paid : Amount} (h : l.unbond caller operator recipient = (.ok paid, l')) :
    ∃ r token, l.record? operator = some r ∧ caller = r.kind.authority operator ∧
      UtilityToken.transfer l.token l.address recipient r.amount = (.ok (), token) ∧
      paid = r.amount ∧ l' = ({ l with token } : Ledger τ).remove operator := by
  unfold unbond at h
  split at h
  · simp at h
  · next r hr =>
      split at h
      · next hmay =>
          split at h
          · simp at h
          · next l₁ hpay =>
              obtain ⟨token, htransfer, rfl⟩ := pay_ok hpay
              simp only [Prod.mk.injEq, Except.ok.injEq] at h
              obtain ⟨rfl, rfl⟩ := h
              have hcaller := by simpa [OperatorKind.mayUnbond] using hmay
              exact ⟨r, token, hr, hcaller, htransfer, rfl, rfl⟩
      · simp at h

theorem unbond_error (h : l.unbond caller operator recipient = (.error e, l')) :
    l' = l ∨ ∃ amount error token,
      UtilityToken.transfer l.token l.address recipient amount = (.error error, token) ∧
      e = .token error ∧ l' = { l with token } := by
  unfold unbond at h
  split at h
  · exact .inl (congrArg Prod.snd h).symm
  · next r hr =>
      split at h
      · split at h
        · next e' l₁ hpay =>
            obtain ⟨rfl, rfl⟩ : e' = e ∧ l₁ = l' := by simpa using h
            exact .inr ⟨r.amount, pay_error hpay⟩
        · simp at h
      · exact .inl (congrArg Prod.snd h).symm

theorem slash_ok {receipt : SlashReceipt}
    (h : l.slash operator amount beneficiary = (.ok receipt, l')) :
    ∃ r required paid, l.record? operator = some r ∧ l.refuses? operator beneficiary = none ∧
      l.pods.requirement r.pod = .ok required ∧
      receipt = slashReceipt r required operator amount beneficiary ∧
      outgoing receipt ≤ l.held ∧ l.payOut receipt = (.ok (), paid) ∧ l' = paid.settle receipt := by
  unfold slash at h
  split at h
  · simp at h
  · next r hr =>
      split at h
      · simp at h
      · next hrefuses =>
          split at h
          · simp at h
          · next required hrequired =>
              dsimp only at h
              split at h
              · simp at h
              · next hheld =>
                  split at h
                  · simp at h
                  · next paid hpaid =>
                      simp only [Prod.mk.injEq, Except.ok.injEq] at h
                      obtain ⟨rfl, rfl⟩ := h
                      exact ⟨r, required, paid, hr, hrefuses, hrequired, rfl,
                        Nat.le_of_not_lt hheld, hpaid, rfl⟩

theorem slash_settles {receipt : SlashReceipt}
    (h : l.slash operator amount beneficiary = (.ok receipt, l')) :
    ∃ token, l.payOut receipt = (.ok (), { l with token }) ∧
      l' = ({ l with token } : Ledger τ).settle receipt := by
  obtain ⟨r, required, paid, -, -, -, -, -, hpaid, rfl⟩ := slash_ok h
  obtain ⟨token, hframe⟩ := l.payOut_frame receipt
  rw [hpaid] at hframe
  obtain rfl := hframe
  exact ⟨token, hpaid, rfl⟩

theorem slash_error (h : l.slash operator amount beneficiary = (.error e, l')) :
    l' = l ∨ ∃ r required, l.record? operator = some r ∧ l.refuses? operator beneficiary = none ∧
      l.pods.requirement r.pod = .ok required ∧
      outgoing (slashReceipt r required operator amount beneficiary) ≤ l.held ∧
      l.payOut (slashReceipt r required operator amount beneficiary) = (.error e, l') := by
  unfold slash at h
  split at h
  · exact .inl (congrArg Prod.snd h).symm
  · next r hr =>
      split at h
      · exact .inl (congrArg Prod.snd h).symm
      · next hrefuses =>
          split at h
          · exact .inl (congrArg Prod.snd h).symm
          · next required hrequired =>
              dsimp only at h
              split at h
              · exact .inl (congrArg Prod.snd h).symm
              · next hheld =>
                  split at h
                  · next e' l₁ hpaid =>
                      obtain ⟨rfl, rfl⟩ : e' = e ∧ l₁ = l' := by simpa using h
                      exact .inr ⟨r, required, hr, hrefuses, hrequired, Nat.le_of_not_lt hheld,
                        hpaid⟩
                  · simp at h

theorem after_frame {call : Call} (h : l.rejects e call) :
    ∃ token, l.after call = { l with token } := by
  cases call with
  | bond payer operator amount pod kind =>
      rcases bond_error (Prod.ext h rfl) with hsame | ⟨error, token, -, -, htoken⟩
      · exact ⟨l.token, hsame⟩
      · exact ⟨token, htoken⟩
  | topUp payer operator amount =>
      rcases topUp_error (Prod.ext h rfl) with hsame | ⟨error, token, -, -, htoken⟩
      · exact ⟨l.token, hsame⟩
      · exact ⟨token, htoken⟩
  | unbond caller operator recipient =>
      rcases unbond_error (Prod.ext h rfl) with hsame | ⟨amount, error, token, -, -, htoken⟩
      · exact ⟨l.token, hsame⟩
      · exact ⟨token, htoken⟩
  | slash operator amount beneficiary =>
      rcases slash_error (Prod.ext h rfl) with hsame | ⟨r, required, -, -, -, -, hpaid⟩
      · exact ⟨l.token, hsame⟩
      · obtain ⟨token, htoken⟩ :=
          l.payOut_frame (slashReceipt r required operator amount beneficiary)
        rw [hpaid] at htoken
        exact ⟨token, htoken⟩

inductive Accepts (l : Ledger τ) : Call → Ledger τ → Prop
  | bond {payer operator : Address} {amount : Amount} {pod : Uint 32} {kind : OperatorKind}
      {r : BondRecord} {l' : Ledger τ} (h : l.bond payer operator amount pod kind = (.ok r, l')) :
      Accepts l (.bond payer operator amount pod kind) l'
  | topUp {payer operator : Address} {amount updated : Amount} {l' : Ledger τ}
      (h : l.topUp payer operator amount = (.ok updated, l')) :
      Accepts l (.topUp payer operator amount) l'
  | unbond {caller operator recipient : Address} {paid : Amount} {l' : Ledger τ}
      (h : l.unbond caller operator recipient = (.ok paid, l')) :
      Accepts l (.unbond caller operator recipient) l'
  | slash {operator : Address} {amount : Amount} {beneficiary : Beneficiary}
      {receipt : SlashReceipt} {l' : Ledger τ}
      (h : l.slash operator amount beneficiary = (.ok receipt, l')) :
      Accepts l (.slash operator amount beneficiary) l'

theorem after_cases (l : Ledger τ) (call : Call) :
    (∃ e, l.rejects e call) ∨ l.Accepts call (l.after call) := by
  cases call with
  | bond payer operator amount pod kind =>
      rcases h : l.bond payer operator amount pod kind with ⟨e | r, l'⟩
      · exact .inl ⟨e, congrArg Prod.fst h⟩
      · rw [after, h]
        exact .inr (.bond h)
  | topUp payer operator amount =>
      rcases h : l.topUp payer operator amount with ⟨e | updated, l'⟩
      · exact .inl ⟨e, congrArg Prod.fst h⟩
      · rw [after, h]
        exact .inr (.topUp h)
  | unbond caller operator recipient =>
      rcases h : l.unbond caller operator recipient with ⟨e | paid, l'⟩
      · exact .inl ⟨e, congrArg Prod.fst h⟩
      · rw [after, h]
        exact .inr (.unbond h)
  | slash operator amount beneficiary =>
      rcases h : l.slash operator amount beneficiary with ⟨e | receipt, l'⟩
      · exact .inl ⟨e, congrArg Prod.fst h⟩
      · rw [after, h]
        exact .inr (.slash h)

end Ledger

end BondedRelay
