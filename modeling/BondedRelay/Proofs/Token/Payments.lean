import BondedRelay.Proofs.Token.Supply

namespace BondedRelay

namespace MemoryToken

variable {t : MemoryToken} {payer payee : Address} {amount first second : Amount}

theorem setBalance_setBalance (t : MemoryToken) (who : Address) (a b : Amount) :
    (t.setBalance who a).setBalance who b = t.setBalance who b :=
  congrArg (fun balances => { t with balances }) (Table.set_set ..)

theorem setBalance_comm {who other : Address} (hne : who ≠ other) (t : MemoryToken)
    (a b c : Amount) :
    ((t.setBalance who a).setBalance other b).setBalance who c =
      (t.setBalance who c).setBalance other b := by
  have hpresent : (t.setBalance who a).balances.find? who ≠ none := by
    simp [setBalance, Table.find?_set_self]
  rw [← setBalance_setBalance t who a c]
  exact congrArg (fun balances => { t with balances }) (Table.set_comm hne hpresent c b).symm

def moved (t : MemoryToken) (payer payee : Address) (amount : Amount) : MemoryToken :=
  (t.setBalance payer ((t.balanceOf payer).satSub amount)).mint payee amount

theorem transfer_eq_moved (h : amount.toNat ≤ (t.balanceOf payer).toNat) (payee : Address) :
    t.transfer payer payee amount = (.ok (), t.moved payer payee amount) := by
  rw [transfer, debit_eq_ok_iff.2 ⟨h, rfl⟩]
  rfl

theorem moved_self (h : amount.toNat ≤ (t.balanceOf payer).toNat) :
    t.moved payer payer amount = t.setBalance payer (t.balanceOf payer) := by
  have hback : ((t.balanceOf payer).satSub amount).satAdd amount = t.balanceOf payer := by
    have hle := (t.balanceOf payer).toNat_le
    apply Uint.ext
    rw [Uint.toNat_satAdd, Uint.toNat_satSub]
    omega
  rw [moved, mint, balanceOf_setBalance, if_pos rfl, hback, setBalance_setBalance]

theorem moved_moved (hne : payer ≠ payee)
    (h : first.toNat + second.toNat ≤ (t.balanceOf payer).toNat) :
    (t.moved payer payee first).moved payer payee second =
      t.moved payer payee (first.satAdd second) := by
  have hle := (t.balanceOf payer).toNat_le
  have hpayer : ((t.balanceOf payer).satSub first).satSub second =
      (t.balanceOf payer).satSub (first.satAdd second) := by
    apply Uint.ext
    simp only [Uint.toNat_satSub, Uint.toNat_satAdd]
    omega
  have hpayee : ((t.balanceOf payee).satAdd first).satAdd second =
      (t.balanceOf payee).satAdd (first.satAdd second) := by
    apply Uint.ext
    simp only [Uint.toNat_satAdd]
    omega
  simp only [moved, mint, balanceOf_setBalance, if_neg hne, if_neg hne.symm, if_true]
  rw [setBalance_comm hne, setBalance_setBalance, hpayer, hpayee]

def paid (t : MemoryToken) (payer payee : Address) (amount : Amount) : MemoryToken :=
  if amount.toNat = 0 then t else t.moved payer payee amount

theorem balanceOf_paid (h : amount.toNat ≤ (t.balanceOf payer).toNat) (payee : Address) :
    ((t.paid payer payee amount).balanceOf payer).toNat =
      (t.balanceOf payer).toNat - if payer = payee then 0 else amount.toNat := by
  unfold paid
  split
  · next hzero => simp [hzero]
  · by_cases hself : payer = payee
    · subst hself
      rw [moved_self h, balanceOf_setBalance, if_pos rfl, if_pos rfl, Nat.sub_zero]
    · rw [moved, mint, balanceOf_setBalance, if_neg (Ne.symm hself), balanceOf_setBalance,
        if_pos rfl, if_neg hself, Uint.toNat_satSub]

theorem paid_paid (hne : payer ≠ payee)
    (h : first.toNat + second.toNat ≤ (t.balanceOf payer).toNat) :
    (t.paid payer payee first).paid payer payee second =
      t.paid payer payee (first.satAdd second) := by
  have hle := (t.balanceOf payer).toNat_le
  have hsum : (first.satAdd second).toNat = first.toNat + second.toNat := by
    rw [Uint.toNat_satAdd]
    omega
  by_cases hfirst : first.toNat = 0
  · have hsame : first.satAdd second = second := Uint.ext (by omega)
    rw [hsame, paid, paid, if_pos hfirst]
    rfl
  · by_cases hsecond : second.toNat = 0
    · have hsame : first.satAdd second = first := Uint.ext (by omega)
      rw [hsame]
      exact if_pos hsecond
    · rw [paid, paid, paid, if_neg hfirst, if_neg hsecond, if_neg (by omega), moved_moved hne h]

theorem paid_paid_self (hfirst : first.toNat ≤ (t.balanceOf payer).toNat)
    (hsecond : second.toNat ≤ (t.balanceOf payer).toNat) :
    (t.paid payer payer first).paid payer payer second =
      if first.toNat + second.toNat = 0 then t else t.setBalance payer (t.balanceOf payer) := by
  have hself {amount : Amount} {t : MemoryToken}
      (h : amount.toNat ≤ (t.balanceOf payer).toNat) : t.paid payer payer amount =
        if amount.toNat = 0 then t else t.setBalance payer (t.balanceOf payer) := by
    rw [paid, moved_self h]
  have hkept : (t.setBalance payer (t.balanceOf payer)).balanceOf payer = t.balanceOf payer := by
    rw [balanceOf_setBalance, if_pos rfl]
  rw [hself hfirst]
  by_cases hzero : first.toNat = 0
  · rw [if_pos hzero, hself hsecond, hzero, Nat.zero_add]
  · rw [if_neg hzero, if_neg (by omega), hself (hkept.symm ▸ hsecond), hkept,
      setBalance_setBalance, ite_self]

theorem paid_paid_comm {first' second' : Amount}
    (hsum : first.toNat + second.toNat = first'.toNat + second'.toNat)
    (hfirst : first.toNat ≤ (t.balanceOf payer).toNat)
    (hsecond : second.toNat ≤ ((t.paid payer payee first).balanceOf payer).toNat)
    (hfirst' : first'.toNat ≤ (t.balanceOf payer).toNat)
    (hsecond' : second'.toNat ≤ ((t.paid payer payee first').balanceOf payer).toNat) :
    (t.paid payer payee first).paid payer payee second =
      (t.paid payer payee first').paid payer payee second' := by
  rw [balanceOf_paid hfirst] at hsecond
  rw [balanceOf_paid hfirst'] at hsecond'
  by_cases hself : payer = payee
  · subst hself
    rw [if_pos rfl, Nat.sub_zero] at hsecond hsecond'
    rw [paid_paid_self hfirst hsecond, paid_paid_self hfirst' hsecond', hsum]
  · rw [if_neg hself] at hsecond hsecond'
    have hsame : first.satAdd second = first'.satAdd second' := by
      apply Uint.ext
      rw [Uint.toNat_satAdd, Uint.toNat_satAdd, hsum]
    rw [paid_paid hself (by omega), paid_paid hself (by omega), hsame]

end MemoryToken

end BondedRelay
