import BondedRelay.Proofs.Bond.Solvency
import BondedRelay.Token.Fused

namespace BondedRelay

structure UtilityToken.KeepsOnFailure {τ β : Type} [UtilityToken τ] (view : τ → β) : Prop where
  transfer : ∀ {t t' : τ} {payer payee : Address} {amount : Amount} {e : TokenError},
    UtilityToken.transfer t payer payee amount = (.error e, t') → view t' = view t
  transferFrom : ∀ {t t' : τ} {spender payer payee : Address} {amount : Amount} {e : TokenError},
    UtilityToken.transferFrom t spender payer payee amount = (.error e, t') → view t' = view t

theorem MemoryToken.keepsOnFailure {β : Type} (view : MemoryToken → β) :
    UtilityToken.KeepsOnFailure view :=
  ⟨fun h => congrArg view (transfer_error h), fun h => congrArg view (transferFrom_error h)⟩

namespace FusedToken

variable {τ β : Type} {view : τ → β}

theorem guarded_error {t t' : FusedToken τ} {call : τ → Except TokenError Unit × τ}
    {e : TokenError} (hcall : ∀ {inner inner' e}, call inner = (.error e, inner') →
      view inner' = view inner)
    (h : t.guarded call = (.error e, t')) : view t'.inner = view t.inner := by
  obtain ⟨inner, _ | ⟨_ | n, error⟩⟩ := t
  · obtain ⟨herror, rfl⟩ := Prod.mk.inj h
    exact hcall (Prod.ext herror rfl)
  · obtain ⟨-, rfl⟩ := Prod.mk.inj h
    rfl
  · obtain ⟨herror, rfl⟩ := Prod.mk.inj h
    exact hcall (Prod.ext herror rfl)

theorem keepsOnFailure [UtilityToken τ] (h : UtilityToken.KeepsOnFailure view) :
    UtilityToken.KeepsOnFailure fun t : FusedToken τ => view t.inner :=
  ⟨fun hcall => guarded_error h.transfer hcall, fun hcall => guarded_error h.transferFrom hcall⟩

end FusedToken

namespace Ledger

variable {τ β : Type} [UtilityToken τ] {l l' : Ledger τ} {operator payee receiver : Address}
  {amount : Amount} {receipt : SlashReceipt} {call : Call} {e : Rejection} {error : TokenError}
  {rewarded token : τ} {view : τ → β}

structure HalfPaid (l : Ledger τ) (receipt : SlashReceipt) (receiver : Address)
    (error : TokenError) (rewarded token : τ) : Prop where
  slashed_ne : receipt.slashed.toNat ≠ 0
  refunded_ne : receipt.refunded.toNat ≠ 0
  reward :
    UtilityToken.transfer l.token l.address receiver receipt.slashed = (.ok (), rewarded)
  refund :
    UtilityToken.transfer rewarded l.address receipt.operator receipt.refunded =
      (.error error, token)

theorem payNonzero_ok (h : l.payNonzero payee amount = (.ok (), l')) :
    l' = l ∨ amount.toNat ≠ 0 ∧ l.pay payee amount = (.ok (), l') := by
  unfold payNonzero at h
  split at h
  · exact .inl (congrArg Prod.snd h).symm
  · next hamount => exact .inr ⟨hamount, h⟩

theorem payNonzero_error (h : l.payNonzero payee amount = (.error e, l')) :
    amount.toNat ≠ 0 ∧ l.pay payee amount = (.error e, l') := by
  unfold payNonzero at h
  split at h
  · simp at h
  · next hamount => exact ⟨hamount, h⟩

theorem payNonzero_of_ne (h : amount.toNat ≠ 0) (l : Ledger τ) (payee : Address) :
    l.payNonzero payee amount = l.pay payee amount := if_neg h

theorem payOut_error (h : l.payOut receipt = (.error e, l')) :
    ∃ error token, e = .token error ∧ l' = { l with token } ∧
      ((∃ payee amount,
        UtilityToken.transfer l.token l.address payee amount = (.error error, token)) ∨
      ∃ receiver rewarded, receipt.beneficiary = .account receiver ∧
        l.HalfPaid receipt receiver error rewarded token) := by
  rw [payOut_eq, reward] at h
  cases hb : receipt.beneficiary with
  | bond receiver =>
      simp only [hb] at h
      obtain ⟨error, token, hrefund, rfl, rfl⟩ := pay_error (payNonzero_error h).2
      exact ⟨error, token, rfl, rfl, .inl ⟨_, _, hrefund⟩⟩
  | account receiver =>
      simp only [hb] at h
      split at h
      · next e' l₁ hreward =>
          obtain ⟨rfl, rfl⟩ : e' = e ∧ l₁ = l' := by simpa using h
          obtain ⟨error, token, hfailed, rfl, rfl⟩ := pay_error (payNonzero_error hreward).2
          exact ⟨error, token, rfl, rfl, .inl ⟨_, _, hfailed⟩⟩
      · next l₁ hreward =>
          obtain ⟨hrefunded, hpay⟩ := payNonzero_error h
          obtain ⟨error, token, hrefund, rfl, rfl⟩ := pay_error hpay
          rcases payNonzero_ok hreward with rfl | ⟨hslashed, hpaid⟩
          · exact ⟨error, token, rfl, rfl, .inl ⟨_, _, hrefund⟩⟩
          · obtain ⟨rewarded, htransfer, rfl⟩ := pay_ok hpaid
            exact ⟨error, token, rfl, rfl,
              .inr ⟨receiver, rewarded, rfl, hslashed, hrefunded, htransfer, hrefund⟩⟩

inductive Tears (l : Ledger τ) : Call → TokenError → τ → Prop
  | slash {operator receiver : Address} {amount : Amount} {r : BondRecord}
      {required : BondRequirement} {error : TokenError} {rewarded token : τ}
      (hr : l.record? operator = some r) (hreceiver : receiver ≠ operator)
      (hrequired : l.pods.requirement r.pod = .ok required)
      (hheld : outgoing (slashReceipt r required operator amount (.account receiver)) ≤ l.held)
      (hpaid : l.HalfPaid (slashReceipt r required operator amount (.account receiver)) receiver
        error rewarded token) :
      Tears l (.slash operator amount (.account receiver)) error rewarded

theorem after_of_rejected (hkeeps : UtilityToken.KeepsOnFailure view) (h : l.rejects e call) :
    ∃ token, l.after call = { l with token } ∧ (view token = view l.token ∨
      ∃ error rewarded, e = .token error ∧ l.Tears call error rewarded ∧
        view token = view rewarded) := by
  cases call with
  | bond payer operator amount pod kind =>
      rcases bond_error (Prod.ext h rfl) with hsame | ⟨error, token, hfailed, -, htoken⟩
      · exact ⟨l.token, hsame, .inl rfl⟩
      · exact ⟨token, htoken, .inl (hkeeps.transferFrom hfailed)⟩
  | topUp payer operator amount =>
      rcases topUp_error (Prod.ext h rfl) with hsame | ⟨error, token, hfailed, -, htoken⟩
      · exact ⟨l.token, hsame, .inl rfl⟩
      · exact ⟨token, htoken, .inl (hkeeps.transferFrom hfailed)⟩
  | unbond caller operator recipient =>
      rcases unbond_error (Prod.ext h rfl) with hsame | ⟨amount, error, token, hfailed, -, htoken⟩
      · exact ⟨l.token, hsame, .inl rfl⟩
      · exact ⟨token, htoken, .inl (hkeeps.transfer hfailed)⟩
  | slash operator amount beneficiary =>
      rcases slash_error (Prod.ext h rfl) with
        hsame | ⟨r, required, hr, hrefuses, hrequired, hheld, hpaid⟩
      · exact ⟨l.token, hsame, .inl rfl⟩
      · obtain ⟨error, token, rfl, htoken, hcause⟩ := payOut_error hpaid
        rcases hcause with ⟨payee, paid, hfailed⟩ | ⟨receiver, rewarded, hb, hhalf⟩
        · exact ⟨token, htoken, .inl (hkeeps.transfer hfailed)⟩
        · obtain rfl : beneficiary = .account receiver := hb
          have hreceiver := (refuses?_eq_none_iff.1 hrefuses).1
          exact ⟨token, htoken, .inr ⟨error, rewarded, rfl,
            .slash hr hreceiver hrequired hheld hhalf, hkeeps.transfer hhalf.refund⟩⟩

theorem HalfPaid.payOut (h : l.HalfPaid receipt receiver error rewarded token)
    (hb : receipt.beneficiary = .account receiver) :
    l.payOut receipt = (.error (.token error), { l with token }) := by
  have hreward : l.pay receiver receipt.slashed = (.ok (), { l with token := rewarded }) := by
    rw [pay, h.reward]
    rfl
  have hrefund : ({ l with token := rewarded } : Ledger τ).pay receipt.operator receipt.refunded =
      (.error (.token error), { l with token }) := by
    rw [pay, h.refund]
    rfl
  rw [payOut_eq, Ledger.reward, hb]
  simp only [payNonzero_of_ne h.slashed_ne, payNonzero_of_ne h.refunded_ne, hreward, hrefund]

theorem Tears.after (h : l.Tears call error rewarded) (hkeeps : UtilityToken.KeepsOnFailure view) :
    l.rejects (.token error) call ∧
      ∃ token, l.after call = { l with token } ∧ view token = view rewarded := by
  cases h with
  | @slash operator receiver amount r required error rewarded token hr hreceiver hrequired hheld
      hpaid =>
      have hrefuses : l.refuses? operator (.account receiver) = none :=
        refuses?_eq_none_iff.2 ⟨hreceiver, by simp⟩
      have hcovered : ¬ l.held <
          outgoing (slashReceipt r required operator amount (.account receiver)) :=
        Nat.not_lt_of_le hheld
      have hslash : l.slash operator amount (.account receiver) =
          (.error (.token error), { l with token }) := by
        simp only [Ledger.slash, hr, hrefuses, hrequired, hcovered, if_false, hpaid.payOut rfl]
      exact ⟨congrArg Prod.fst hslash, token, congrArg Prod.snd hslash,
        hkeeps.transfer hpaid.refund⟩

theorem rejects_unique {e' : Rejection} (h : l.rejects e call) (h' : l.rejects e' call) :
    e = e' := by
  cases call <;> exact Except.error.inj (h.symm.trans h')

theorem faults_tear_only_double_payments
    (hkeeps : UtilityToken.KeepsOnFailure fun t : τ => UtilityToken.balanceOf t)
    (l : Ledger τ) (call : Call) (e : Rejection) (h : l.rejects e call) :
    (l.after call).address = l.address ∧ (l.after call).bonds = l.bonds ∧
      (l.after call).pods = l.pods ∧
      ((∀ error rewarded, ¬ l.Tears call error rewarded) →
        (∀ who, UtilityToken.balanceOf (l.after call).token who =
          UtilityToken.balanceOf l.token who) ∧
        (l.liabilities ≤ l.held.toNat →
          (l.after call).liabilities ≤ (l.after call).held.toNat)) ∧
      ∀ error rewarded, l.Tears call error rewarded → e = .token error ∧
        ∀ who, UtilityToken.balanceOf (l.after call).token who =
          UtilityToken.balanceOf rewarded who := by
  obtain ⟨token, hafter, hview⟩ := after_of_rejected hkeeps h
  rw [hafter]
  refine ⟨rfl, rfl, rfl, fun hwhole => ?_, fun error rewarded htears => ?_⟩
  · have hbalances : UtilityToken.balanceOf token = UtilityToken.balanceOf l.token := by
      rcases hview with hsame | ⟨error, rewarded, -, htears, -⟩
      · exact hsame
      · exact absurd htears (hwhole error rewarded)
    refine ⟨fun who => congrFun hbalances who, fun hcovered => ?_⟩
    have hheld : ({ l with token } : Ledger τ).held = l.held := congrFun hbalances l.address
    rw [hheld]
    exact hcovered
  · obtain ⟨hrejects, token', hafter', hview'⟩ := htears.after hkeeps
    have hsame : token' = token := congrArg Ledger.token (hafter'.symm.trans hafter)
    exact ⟨rejects_unique h hrejects, fun who => hsame ▸ congrFun hview' who⟩

def wired (remaining : Nat) : Ledger (FusedToken MemoryToken) :=
  let funded := ((MemoryToken.empty.mint 1 150).approve 1 9 150).mint 2 200
  let token : FusedToken MemoryToken := ⟨funded.approve 2 9 200, none⟩
  let bonded := ((create 9 token ⟨100, 1000, 100⟩).after (.bond 1 1 150 1 .account)).after
    (.bond 2 2 200 1 .account)
  { bonded with token := ⟨bonded.token.inner, some ⟨remaining, .custom "flaky"⟩⟩ }

theorem first_payment_fault_keeps_balances :
    (wired 0).rejects (.token (.custom "flaky")) (.slash 1 100 (.account 4)) ∧
      ∀ who, UtilityToken.balanceOf ((wired 0).after (.slash 1 100 (.account 4))).token who =
        UtilityToken.balanceOf (wired 0).token who := by
  have hkeeps : UtilityToken.KeepsOnFailure
      fun t : FusedToken MemoryToken => UtilityToken.balanceOf t :=
    FusedToken.keepsOnFailure (MemoryToken.keepsOnFailure UtilityToken.balanceOf)
  have hrejected : (wired 0).rejects (.token (.custom "flaky")) (.slash 1 100 (.account 4)) := by
    rfl
  have hwhole (error : TokenError) (rewarded : FusedToken MemoryToken) :
      ¬ (wired 0).Tears (.slash 1 100 (.account 4)) error rewarded := by
    rintro ⟨-, -, -, -, hpaid⟩
    cases hpaid.reward
  exact ⟨hrejected,
    ((faults_tear_only_double_payments hkeeps _ _ _ hrejected).2.2.2.1 hwhole).1⟩

theorem refund_fault_pays_reward_twice :
    let slash : Call := .slash 1 100 (.account 4)
    let torn := (wired 1).after slash
    (wired 1).rejects (.token (.custom "flaky")) slash ∧
      UtilityToken.balanceOf (wired 1).token 4 = 0 ∧ UtilityToken.balanceOf torn.token 4 = 100 ∧
      (wired 1).liabilities ≤ (wired 1).held.toNat ∧ ¬ torn.liabilities ≤ torn.held.toNat ∧
      UtilityToken.balanceOf (torn.after slash).token 4 = 200 := by
  refine ⟨by rfl, by decide +kernel⟩

end Ledger

end BondedRelay
