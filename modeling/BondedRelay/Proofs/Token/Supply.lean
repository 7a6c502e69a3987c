import BondedRelay.Proofs.Table
import BondedRelay.Token.Memory

namespace BondedRelay.MemoryToken

variable {t t' : MemoryToken} {payer payee holder spender : Address} {amount : Amount}

def supply (t : MemoryToken) : Nat := t.balances.total Uint.toNat

theorem balanceOf_le_supply (t : MemoryToken) (who : Address) :
    (t.balanceOf who).toNat ≤ t.supply := by
  unfold balanceOf Table.getD
  cases h : t.balances.find? who with
  | none => simp
  | some b => exact Table.le_total Uint.toNat h

theorem balanceOf_setBalance (t : MemoryToken) (who other : Address) (amount : Amount) :
    (t.setBalance who amount).balanceOf other =
      if who = other then amount else t.balanceOf other := by
  unfold balanceOf setBalance Table.getD
  simp only [Table.find?_set]
  split <;> rfl

theorem supply_setBalance (t : MemoryToken) (who : Address) (amount : Amount) :
    (t.setBalance who amount).supply + (t.balanceOf who).toNat = t.supply + amount.toNat := by
  have h := Table.total_set t.balances who amount Uint.toNat
  unfold supply setBalance balanceOf Table.getD
  cases hw : t.balances.find? who <;> simpa [hw] using h

theorem toNat_balanceOf_mint (h : t.supply + amount.toNat ≤ (Uint.top : Amount).toNat)
    (who : Address) :
    ((t.mint payee amount).balanceOf who).toNat =
      (t.balanceOf who).toNat + if payee = who then amount.toNat else 0 := by
  have hb := t.balanceOf_le_supply payee
  rw [Uint.toNat_top] at h
  rw [mint, balanceOf_setBalance]
  split
  · next hw =>
      subst hw
      rw [Uint.toNat_satAdd]
      omega
  · rfl

theorem le_balanceOf_mint (t : MemoryToken) (payee who : Address) (amount : Amount) :
    (t.balanceOf who).toNat ≤ ((t.mint payee amount).balanceOf who).toNat := by
  have hb := (t.balanceOf payee).toNat_le
  rw [mint, balanceOf_setBalance]
  split
  · next hw =>
      subst hw
      rw [Uint.toNat_satAdd]
      omega
  · exact Nat.le_refl _

theorem supply_mint (h : t.supply + amount.toNat ≤ (Uint.top : Amount).toNat) :
    (t.mint payee amount).supply = t.supply + amount.toNat := by
  have hb := t.balanceOf_le_supply payee
  have hs := t.supply_setBalance payee ((t.balanceOf payee).satAdd amount)
  rw [Uint.toNat_top] at h
  rw [Uint.toNat_satAdd] at hs
  unfold mint
  omega

@[simp]
theorem allowance_mint (t : MemoryToken) (payee owner spender : Address) (amount : Amount) :
    (t.mint payee amount).allowance owner spender = t.allowance owner spender := rfl

@[simp]
theorem allowance_setBalance (t : MemoryToken) (who owner spender : Address) (amount : Amount) :
    (t.setBalance who amount).allowance owner spender = t.allowance owner spender := rfl

theorem allowance_approve (t : MemoryToken) (owner spender owner' spender' : Address)
    (amount : Amount) :
    (t.approve owner spender amount).allowance owner' spender' =
      if (owner, spender) = (owner', spender') then amount else t.allowance owner' spender' := by
  unfold allowance approve Table.getD
  simp only [Table.find?_set]
  split <;> rfl

theorem debit_eq_ok_iff :
    t.debit holder amount = .ok t' ↔
      amount.toNat ≤ (t.balanceOf holder).toNat ∧
        t' = t.setBalance holder ((t.balanceOf holder).satSub amount) := by
  unfold debit
  simp only [Uint.lt_iff]
  split
  · next h =>
      simp only [reduceCtorEq, false_iff, not_and]
      omega
  · next h =>
      simp only [Except.ok.injEq]
      exact ⟨fun e => ⟨by omega, e.symm⟩, fun e => e.2.symm⟩

theorem allowance_debit (h : t.debit holder amount = .ok t') (owner spender : Address) :
    t'.allowance owner spender = t.allowance owner spender := by
  rw [(debit_eq_ok_iff.1 h).2, allowance_setBalance]

structure Moves (t : MemoryToken) (payer payee : Address) (amount : Amount) (t' : MemoryToken) :
    Prop where
  covered : amount.toNat ≤ (t.balanceOf payer).toNat
  supply_eq : t'.supply = t.supply
  balanceOf_eq : ∀ who,
    (t'.balanceOf who).toNat + (if payer = who then amount.toNat else 0) =
      (t.balanceOf who).toNat + if payee = who then amount.toNat else 0

theorem moves_mint {u : MemoryToken} (hs : t.supply ≤ (Uint.top : Amount).toNat)
    (hd : t.debit payer amount = .ok u) (hu : t'.balances = u.balances) :
    t.Moves payer payee amount (t'.mint payee amount) := by
  obtain ⟨hcov, rfl⟩ := debit_eq_ok_iff.1 hd
  have hset := t.supply_setBalance payer ((t.balanceOf payer).satSub amount)
  have hbal (who : Address) : t'.balanceOf who =
      if payer = who then (t.balanceOf payer).satSub amount else t.balanceOf who := by
    rw [← balanceOf_setBalance, balanceOf, balanceOf, hu]
  have hsup : t'.supply + amount.toNat = t.supply := by
    rw [supply, hu, ← supply]
    rw [Uint.toNat_satSub] at hset
    omega
  refine ⟨hcov, ?_, fun who => ?_⟩
  · rw [supply_mint (by omega)]
    exact hsup
  · rw [toNat_balanceOf_mint (by omega), hbal]
    split
    · next hw =>
        subst hw
        rw [Uint.toNat_satSub]
        omega
    · omega

theorem transfer_eq_ok_iff :
    t.transfer payer payee amount = (.ok (), t') ↔
      ∃ debited, t.debit payer amount = .ok debited ∧ t' = debited.mint payee amount := by
  unfold transfer
  cases t.debit payer amount with
  | error e => simp
  | ok debited => simp [eq_comm]

theorem transfer_ok (hs : t.supply ≤ (Uint.top : Amount).toNat)
    (h : t.transfer payer payee amount = (.ok (), t')) :
    t.Moves payer payee amount t' ∧ t'.allowances = t.allowances := by
  obtain ⟨debited, hdebit, rfl⟩ := transfer_eq_ok_iff.1 h
  refine ⟨moves_mint hs hdebit rfl, ?_⟩
  rw [(debit_eq_ok_iff.1 hdebit).2]
  rfl

theorem transfer_of_le (payee : Address) (h : amount.toNat ≤ (t.balanceOf payer).toNat) :
    ∃ t', t.transfer payer payee amount = (.ok (), t') :=
  ⟨_, transfer_eq_ok_iff.2 ⟨_, debit_eq_ok_iff.2 ⟨h, rfl⟩, rfl⟩⟩

theorem le_balanceOf_transfer (h : t.transfer payer payee amount = (.ok (), t')) :
    (t.balanceOf payer).toNat ≤ (t'.balanceOf payer).toNat + amount.toNat := by
  obtain ⟨debited, hdebit, rfl⟩ := transfer_eq_ok_iff.1 h
  have hminted := debited.le_balanceOf_mint payee payer amount
  rw [(debit_eq_ok_iff.1 hdebit).2] at hminted ⊢
  simp only [balanceOf_setBalance, if_true, Uint.toNat_satSub] at hminted
  omega

theorem transfer_error {e : TokenError} (h : t.transfer payer payee amount = (.error e, t')) :
    t' = t := by
  unfold transfer at h
  split at h
  · exact (congrArg Prod.snd h).symm
  · simp at h

def spent (t : MemoryToken) (owner spender : Address) (amount : Amount) : MemoryToken :=
  if t.allowance owner spender = .top then t
  else t.approve owner spender ((t.allowance owner spender).satSub amount)

theorem balances_spent (t : MemoryToken) (owner spender : Address) (amount : Amount) :
    (t.spent owner spender amount).balances = t.balances := by
  unfold spent
  split <;> rfl

theorem toNat_allowance_spent (h : amount.toNat ≤ (t.allowance holder spender).toNat)
    (owner other : Address) :
    ((t.spent holder spender amount).allowance owner other).toNat +
        (if holder = owner ∧ spender = other ∧ t.allowance owner other ≠ .top then amount.toNat
        else 0) =
      (t.allowance owner other).toNat := by
  unfold spent
  by_cases hkey : holder = owner ∧ spender = other
  · obtain ⟨rfl, rfl⟩ := hkey
    split
    · next htop => simp [htop]
    · next hlimited =>
        rw [allowance_approve, if_pos rfl, if_pos ⟨rfl, rfl, hlimited⟩, Uint.toNat_satSub]
        omega
  · have hother : ¬ (holder = owner ∧ spender = other ∧ t.allowance owner other ≠ .top) :=
      fun h => hkey ⟨h.1, h.2.1⟩
    rw [if_neg hother, Nat.add_zero]
    split
    · rfl
    · rw [allowance_approve, if_neg (by simpa using hkey)]

theorem transferFrom_eq_ok_iff :
    t.transferFrom spender payer payee amount = (.ok (), t') ↔
      amount.toNat ≤ (t.allowance payer spender).toNat ∧
        ∃ debited, t.debit payer amount = .ok debited ∧
          t' = (debited.spent payer spender amount).mint payee amount := by
  unfold transferFrom
  simp only [Uint.lt_iff]
  split
  · next hshort =>
      simp only [Prod.mk.injEq, reduceCtorEq, false_and, false_iff]
      intro h
      omega
  · next hallowed =>
      cases hdebit : t.debit payer amount with
      | error e => simp
      | ok debited =>
          simp only [Prod.mk.injEq, true_and, Except.ok.injEq, exists_eq_left', spent,
            allowance_debit hdebit]
          constructor
          · intro h
            exact ⟨Nat.le_of_not_lt hallowed, h.symm⟩
          · intro h
            exact h.2.symm

theorem allowance_transferFrom (h : t.transferFrom spender payer payee amount = (.ok (), t'))
    (owner other : Address) :
    (t'.allowance owner other).toNat +
        (if payer = owner ∧ spender = other ∧ t.allowance owner other ≠ .top then amount.toNat
        else 0) =
      (t.allowance owner other).toNat := by
  obtain ⟨hallowed, debited, hdebit, rfl⟩ := transferFrom_eq_ok_iff.1 h
  rw [← allowance_debit hdebit] at hallowed
  rw [allowance_mint, ← allowance_debit hdebit]
  exact toNat_allowance_spent hallowed owner other

theorem transferFrom_ok (hs : t.supply ≤ (Uint.top : Amount).toNat)
    (h : t.transferFrom spender payer payee amount = (.ok (), t')) :
    t.Moves payer payee amount t' ∧ amount.toNat ≤ (t.allowance payer spender).toNat ∧
      ∀ owner other, (t'.allowance owner other).toNat ≤ (t.allowance owner other).toNat := by
  obtain ⟨hallowed, debited, hdebit, rfl⟩ := transferFrom_eq_ok_iff.1 h
  refine ⟨moves_mint hs hdebit (balances_spent ..), hallowed, fun owner other => ?_⟩
  exact Nat.le_of_add_right_le (Nat.le_of_eq (allowance_transferFrom h owner other))

theorem transferFrom_error {e : TokenError}
    (h : t.transferFrom spender payer payee amount = (.error e, t')) : t' = t := by
  unfold transferFrom at h
  simp only [Uint.lt_iff] at h
  split at h
  · exact (congrArg Prod.snd h).symm
  · split at h
    · exact (congrArg Prod.snd h).symm
    · simp at h

end BondedRelay.MemoryToken
