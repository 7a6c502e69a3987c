import BondedRelay.Proofs.Token.Supply

namespace BondedRelay.MemoryToken

inductive Call where
  | transfer (payer payee : Address) (amount : Amount)
  | transferFrom (spender payer payee : Address) (amount : Amount)
  deriving DecidableEq, Repr

namespace Call

def payer : Call → Address
  | .transfer payer _ _ => payer
  | .transferFrom _ payer _ _ => payer

def payee : Call → Address
  | .transfer _ payee _ => payee
  | .transferFrom _ _ payee _ => payee

def amount : Call → Amount
  | .transfer _ _ amount => amount
  | .transferFrom _ _ _ amount => amount

def spender? : Call → Option Address
  | .transfer _ _ _ => none
  | .transferFrom spender _ _ _ => some spender

end Call

variable {t t' : MemoryToken} {call : Call} {e : TokenError}

def respond (t : MemoryToken) : Call → Except TokenError Unit × MemoryToken
  | .transfer payer payee amount => t.transfer payer payee amount
  | .transferFrom spender payer payee amount => t.transferFrom spender payer payee amount

def after (t : MemoryToken) (call : Call) : MemoryToken := (t.respond call).2

def run (t : MemoryToken) (calls : List Call) : MemoryToken := calls.foldl after t

structure Affords (t : MemoryToken) (call : Call) : Prop where
  covered : call.amount ≤ t.balanceOf call.payer
  allowed : ∀ spender, call.spender? = some spender →
    call.amount ≤ t.allowance call.payer spender

def Spends (t : MemoryToken) (call : Call) (owner spender : Address) : Prop :=
  call.payer = owner ∧ call.spender? = some spender ∧ t.allowance owner spender ≠ .top

instance (t : MemoryToken) (call : Call) (owner spender : Address) :
    Decidable (t.Spends call owner spender) :=
  inferInstanceAs (Decidable (_ ∧ _ ∧ _))

structure Pays (t : MemoryToken) (call : Call) (t' : MemoryToken) : Prop where
  moves : t.Moves call.payer call.payee call.amount t'
  allowance_eq : ∀ owner spender,
    (t'.allowance owner spender).toNat +
        (if t.Spends call owner spender then call.amount.toNat else 0) =
      (t.allowance owner spender).toNat

theorem respond_ok_iff : (∃ t', t.respond call = (.ok (), t')) ↔ t.Affords call := by
  cases call with
  | transfer payer payee amount =>
      constructor
      · rintro ⟨t', h⟩
        obtain ⟨debited, hdebit, -⟩ := transfer_eq_ok_iff.1 h
        refine ⟨(debit_eq_ok_iff.1 hdebit).1, ?_⟩
        intro spender hspender
        simp [Call.spender?] at hspender
      · intro h
        exact transfer_of_le payee h.covered
  | transferFrom spender payer payee amount =>
      constructor
      · rintro ⟨t', h⟩
        obtain ⟨hallowed, debited, hdebit, -⟩ := transferFrom_eq_ok_iff.1 h
        refine ⟨(debit_eq_ok_iff.1 hdebit).1, ?_⟩
        rintro _ ⟨⟩
        exact hallowed
      · intro h
        have hdebit := debit_eq_ok_iff.2 ⟨h.covered, rfl⟩
        exact ⟨_, transferFrom_eq_ok_iff.2 ⟨h.allowed spender rfl, _, hdebit, rfl⟩⟩

theorem pays_of_ok (hs : t.supply ≤ (Uint.top : Amount).toNat)
    (h : t.respond call = (.ok (), t')) : t.Pays call t' := by
  cases call with
  | transfer payer payee amount =>
      obtain ⟨hmoves, hallowances⟩ := transfer_ok hs h
      refine ⟨hmoves, fun owner spender => ?_⟩
      have hkept : t'.allowance owner spender = t.allowance owner spender := by
        rw [allowance, hallowances, ← allowance]
      simp [Spends, Call.spender?, hkept]
  | transferFrom spender payer payee amount =>
      refine ⟨(transferFrom_ok hs h).1, fun owner other => ?_⟩
      simpa [Spends, Call.payer, Call.spender?, Call.amount] using
        allowance_transferFrom h owner other

theorem eq_of_error (h : t.respond call = (.error e, t')) : t' = t := by
  cases call with
  | transfer payer payee amount => exact transfer_error h
  | transferFrom spender payer payee amount => exact transferFrom_error h

theorem supply_after (hs : t.supply ≤ (Uint.top : Amount).toNat) (call : Call) :
    (t.after call).supply = t.supply := by
  rcases hanswer : t.respond call with ⟨e | ⟨⟩, t'⟩
  · rw [after, hanswer, eq_of_error hanswer]
  · rw [after, hanswer]
    exact (pays_of_ok hs hanswer).moves.supply_eq

theorem supply_run (hs : t.supply ≤ (Uint.top : Amount).toNat) (calls : List Call) :
    (t.run calls).supply = t.supply := by
  induction calls generalizing t with
  | nil => rfl
  | cons call rest ih =>
      have hafter := supply_after hs call
      rw [run, List.foldl_cons, ← run, ih (hafter ▸ hs), hafter]

theorem transfers_conserve_supply (t : MemoryToken) (hs : t.supply ≤ (Uint.top : Amount).toNat)
    (calls : List Call) :
    let u := t.run calls
    u.supply = t.supply ∧
      ∀ call, ((∃ u', u.respond call = (.ok (), u')) ↔ u.Affords call) ∧
        (∀ u', u.respond call = (.ok (), u') → u.Pays call u') ∧
        ∀ e u', u.respond call = (.error e, u') → u' = u := by
  intro u
  have hsupply : u.supply = t.supply := supply_run hs calls
  refine ⟨hsupply, fun call => ⟨respond_ok_iff, fun u' h => ?_, fun e u' h => eq_of_error h⟩⟩
  exact pays_of_ok (hsupply ▸ hs) h

theorem allowance_used_up_in_two_transfers :
    let t : MemoryToken := ((empty.mint 1 100).mint 2 5).approve 1 3 60
    let u := t.run [.transfer 1 1 40, .transferFrom 3 1 2 50]
    let last : Call := .transferFrom 3 1 2 10
    t.supply ≤ (Uint.top : Amount).toNat ∧ u.supply = 105 ∧ u.Pays last (u.after last) := by
  intro t u last
  have hs : t.supply ≤ (Uint.top : Amount).toNat := by decide +kernel
  obtain ⟨hsupply, hcalls⟩ :=
    transfers_conserve_supply t hs [.transfer 1 1 40, .transferFrom 3 1 2 50]
  have hok : u.respond last = (.ok (), u.after last) := Prod.ext (by rfl) rfl
  exact ⟨hs, hsupply.trans (by decide +kernel), (hcalls last).2.1 _ hok⟩

end BondedRelay.MemoryToken
