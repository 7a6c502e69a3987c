import BondedRelay.Proofs.Bond.Solvency
import BondedRelay.Proofs.Token.Payments

namespace BondedRelay

namespace Ledger

variable {l l' l₁ l₂ : Ledger MemoryToken} {operator other payee receiver : Address}
  {amount amount' taken taken' : Amount} {beneficiary : Beneficiary} {r : BondRecord}

theorem updateAmount_updateAmount (l : Ledger MemoryToken) (operator : Address)
    (f g : Amount → Amount) :
    (l.updateAmount operator f).updateAmount operator g =
      l.updateAmount operator fun a => g (f a) :=
  congrArg (fun bonds => { l with bonds }) (Table.modify_modify ..)

theorem updateAmount_comm (hne : operator ≠ other) (l : Ledger MemoryToken)
    (f g : Amount → Amount) :
    (l.updateAmount operator f).updateAmount other g =
      (l.updateAmount other g).updateAmount operator f :=
  congrArg (fun bonds => { l with bonds }) (Table.modify_comm hne ..)

theorem payNonzero_eq_paid (h : amount ≤ l.held) (payee : Address) :
    l.payNonzero payee amount =
      (.ok (), { l with token := l.token.paid l.address payee amount }) := by
  unfold payNonzero MemoryToken.paid
  split
  · rfl
  · rw [pay, show UtilityToken.transfer l.token l.address payee amount = _ from
      MemoryToken.transfer_eq_moved h payee]
    rfl

def credited (l : Ledger MemoryToken) (taken : Amount) : Beneficiary → Ledger MemoryToken
  | .bond receiver => l.updateAmount receiver fun a => a.satAdd taken
  | .account receiver => { l with token := l.token.paid l.address receiver taken }

def fined (l : Ledger MemoryToken) (operator : Address) (taken : Amount)
    (beneficiary : Beneficiary) : Ledger MemoryToken :=
  (l.updateAmount operator fun a => a.satSub taken).credited taken beneficiary

def Fines (l : Ledger MemoryToken) (operator : Address) (amount : Amount)
    (beneficiary : Beneficiary) (l' : Ledger MemoryToken) : Prop :=
  ∃ receipt, l.slash operator amount beneficiary = (.ok receipt, l') ∧ receipt.demoted = false

structure Affords (l : Ledger MemoryToken) (operator : Address) (amount : Amount)
    (beneficiary : Beneficiary) (r : BondRecord) : Prop where
  found : l.record? operator = some r
  accepted : l.refuses? operator beneficiary = none
  stays : ∃ required, l.pods.requirement r.pod = .ok required ∧
    required.current.toNat ≤ r.amount.toNat - amount.toNat
  covered : ∀ receiver, beneficiary = .account receiver → min amount r.amount ≤ l.held

def fineReceipt (r : BondRecord) (operator : Address) (taken : Amount)
    (beneficiary : Beneficiary) : SlashReceipt where
  operator := operator
  slashed := taken
  remaining := r.amount.satSub taken
  refunded := 0
  demoted := false
  beneficiary := beneficiary

theorem slashReceipt_of_stays {required : BondRequirement}
    (h : (slashReceipt r required operator amount beneficiary).demoted = false) :
    slashReceipt r required operator amount beneficiary =
      fineReceipt r operator (min amount r.amount) beneficiary := by
  have hstays : ¬ r.amount.satSub (min amount r.amount) < required.current := by
    simpa [slashReceipt] using h
  simp [slashReceipt, fineReceipt, hstays]

theorem outgoing_fineReceipt (r : BondRecord) (operator receiver : Address) (taken : Amount) :
    outgoing (fineReceipt r operator taken (.account receiver)) = taken := by
  have hle := taken.toNat_le
  apply Uint.ext
  simp only [outgoing, fineReceipt, Uint.toNat_satAdd, Uint.toNat_zero]
  omega

theorem payOut_fine (hr : l.record? operator = some r)
    (hcovered : ∀ receiver, beneficiary = .account receiver → taken ≤ l.held) :
    ∃ paid, l.payOut (fineReceipt r operator taken beneficiary) = (.ok (), paid) ∧
      paid.settle (fineReceipt r operator taken beneficiary) =
        l.fined operator taken beneficiary := by
  have hrecord : l.bonds.find? operator = some r := hr
  have hbonds : (l.bonds.modify operator fun r' => { r' with amount := r.amount.satSub taken }) =
      l.bonds.modify operator fun r' => { r' with amount := r'.amount.satSub taken } := by
    rw [Table.modify_of_some hrecord, Table.modify_of_some hrecord]
  cases beneficiary with
  | bond receiver =>
      refine ⟨l, rfl, ?_⟩
      simp [settle, fineReceipt, fined, credited, updateAmount, hbonds]
  | account receiver =>
      refine ⟨{ l with token := l.token.paid l.address receiver taken }, ?_, ?_⟩
      · have hpaid := payNonzero_eq_paid (hcovered receiver rfl) receiver
        rw [payOut_eq, reward]
        simp only [fineReceipt, hpaid]
        rfl
      · simp [settle, fineReceipt, fined, credited, updateAmount, hbonds]

theorem fines_iff :
    l.Fines operator amount beneficiary l' ↔ ∃ r, l.Affords operator amount beneficiary r ∧
      l' = l.fined operator (min amount r.amount) beneficiary := by
  constructor
  · rintro ⟨receipt, hslash, hstays⟩
    obtain ⟨r, required, paid, hr, haccepted, hrequired, rfl, hheld, hpaid, rfl⟩ := slash_ok hslash
    have hleft := demoted_slashReceipt_eq_false_iff.1 hstays
    rw [slashReceipt_of_stays hstays] at hheld hpaid ⊢
    have hcovered : ∀ receiver, beneficiary = .account receiver → min amount r.amount ≤ l.held := by
      rintro receiver rfl
      rwa [outgoing_fineReceipt] at hheld
    obtain ⟨paid', hpaid', hsettled⟩ := payOut_fine hr hcovered
    obtain rfl : paid = paid' := congrArg Prod.snd (hpaid.symm.trans hpaid')
    exact ⟨r, ⟨hr, haccepted, ⟨required, hrequired, hleft⟩, hcovered⟩, hsettled⟩
  · rintro ⟨r, ⟨hr, haccepted, ⟨required, hrequired, hleft⟩, hcovered⟩, rfl⟩
    have hstays : (slashReceipt r required operator amount beneficiary).demoted = false :=
      demoted_slashReceipt_eq_false_iff.2 hleft
    obtain ⟨paid, hpaid, hsettled⟩ := payOut_fine hr hcovered
    refine ⟨fineReceipt r operator (min amount r.amount) beneficiary, ?_, rfl⟩
    have hheld :
        ¬ l.held < outgoing (fineReceipt r operator (min amount r.amount) beneficiary) := by
      cases beneficiary with
      | bond receiver => exact Nat.not_lt_zero _
      | account receiver =>
          rw [outgoing_fineReceipt]
          exact Nat.not_lt_of_le (hcovered receiver rfl)
    simp only [slash, hr, haccepted, hrequired, slashReceipt_of_stays hstays]
    rw [if_neg hheld, hpaid]
    simp only [hsettled]

@[simp]
theorem pods_fined (l : Ledger MemoryToken) (operator : Address) (taken : Amount)
    (beneficiary : Beneficiary) : (l.fined operator taken beneficiary).pods = l.pods := by
  cases beneficiary <;> rfl

theorem record?_fined (hne : beneficiary.address ≠ operator) (other : Address) :
    (l.fined operator taken beneficiary).record? other =
      if operator = other then
        (l.record? other).map fun r => { r with amount := r.amount.satSub taken }
      else if beneficiary = .bond other then
        (l.record? other).map fun r => { r with amount := r.amount.satAdd taken }
      else l.record? other := by
  cases beneficiary with
  | bond receiver =>
      have hreceiver : receiver ≠ operator := hne
      simp only [fined, credited, record?_updateAmount, Beneficiary.bond.injEq]
      by_cases hother : operator = other
      · subst hother
        simp [hreceiver]
      · simp [hother]
  | account receiver => simp [fined, credited, record?_updateAmount]

theorem isBonded_fined (hne : beneficiary.address ≠ operator) :
    (l.fined operator taken beneficiary).isBonded = l.isBonded := by
  funext other
  unfold isBonded
  rw [record?_fined hne]
  split
  · exact Option.isSome_map
  · split
    · exact Option.isSome_map
    · rfl

theorem refuses?_congr (h : l'.isBonded = l.isBonded) (operator : Address)
    (beneficiary : Beneficiary) :
    l'.refuses? operator beneficiary = l.refuses? operator beneficiary := by
  unfold refuses?
  rw [h]

theorem credited_updateAmount (hne : beneficiary.address ≠ operator) (f : Amount → Amount) :
    (l.credited taken beneficiary).updateAmount operator f =
      (l.updateAmount operator f).credited taken beneficiary := by
  cases beneficiary with
  | bond receiver => exact updateAmount_comm hne ..
  | account receiver => rfl

structure Balanced (l : Ledger MemoryToken) (beneficiary : Beneficiary)
    (first second first' second' : Amount) : Prop where
  sum_eq : first.toNat + second.toNat = first'.toNat + second'.toNat
  token_eq : ∀ receiver, beneficiary = .account receiver →
    (l.token.paid l.address receiver first).paid l.address receiver second =
      (l.token.paid l.address receiver first').paid l.address receiver second'

variable {first second first' second' : Amount}

theorem credited_comm (h : l.Balanced beneficiary first second first' second') :
    (l.credited first beneficiary).credited second beneficiary =
      (l.credited first' beneficiary).credited second' beneficiary := by
  have hsum := h.sum_eq
  cases beneficiary with
  | bond receiver =>
      have hmore : (fun a : Amount => (a.satAdd first).satAdd second) =
          fun a => (a.satAdd first').satAdd second' := by
        funext a
        apply Uint.ext
        simp only [Uint.toNat_satAdd]
        omega
      simp only [credited]
      rw [updateAmount_updateAmount, updateAmount_updateAmount, hmore]
  | account receiver => exact congrArg (fun token => { l with token }) (h.token_eq receiver rfl)

theorem fined_comm_self (hne : beneficiary.address ≠ operator)
    (h : l.Balanced beneficiary first second first' second') :
    (l.fined operator first beneficiary).fined operator second beneficiary =
      (l.fined operator first' beneficiary).fined operator second' beneficiary := by
  have hsum := h.sum_eq
  have hless : (fun a : Amount => (a.satSub first).satSub second) =
      fun a => (a.satSub first').satSub second' := by
    funext a
    apply Uint.ext
    simp only [Uint.toNat_satSub]
    omega
  have hbalanced (f : Amount → Amount) :
      (l.updateAmount operator f).Balanced beneficiary first second first' second' :=
    ⟨hsum, h.token_eq⟩
  unfold fined
  rw [credited_updateAmount hne, credited_updateAmount hne, updateAmount_updateAmount,
    updateAmount_updateAmount, hless, credited_comm (hbalanced _)]

theorem fined_comm_other (hne : beneficiary.address ≠ operator)
    (hne' : beneficiary.address ≠ other) (hother : operator ≠ other)
    (h : l.Balanced beneficiary first second second first) :
    (l.fined operator first beneficiary).fined other second beneficiary =
      (l.fined other second beneficiary).fined operator first beneficiary := by
  have hbalanced (f g : Amount → Amount) :
      ((l.updateAmount operator f).updateAmount other g).Balanced beneficiary first second second
        first := ⟨h.sum_eq, h.token_eq⟩
  unfold fined
  rw [credited_updateAmount hne', credited_updateAmount hne, updateAmount_comm hother.symm,
    credited_comm (hbalanced _ _)]

theorem held_fined (hbeneficiary : beneficiary = .account receiver) (h : taken ≤ l.held)
    (operator : Address) :
    (l.fined operator taken beneficiary).held.toNat =
      l.held.toNat - if l.address = receiver then 0 else taken.toNat := by
  subst hbeneficiary
  exact MemoryToken.balanceOf_paid h receiver

def Covers (l : Ledger MemoryToken) (beneficiary : Beneficiary) (operator : Address)
    (first second : Amount) : Prop :=
  ∀ receiver, beneficiary = .account receiver →
    first ≤ l.held ∧ second ≤ (l.fined operator first beneficiary).held

theorem Covers.balanced (h : l.Covers beneficiary operator first second)
    (h' : l.Covers beneficiary other first' second')
    (hsum : first.toNat + second.toNat = first'.toNat + second'.toNat) :
    l.Balanced beneficiary first second first' second' := by
  refine ⟨hsum, ?_⟩
  rintro receiver rfl
  obtain ⟨hfirst, hsecond⟩ := h receiver rfl
  obtain ⟨hfirst', hsecond'⟩ := h' receiver rfl
  exact MemoryToken.paid_paid_comm hsum hfirst hsecond hfirst' hsecond'

theorem Covers.swap (h : l.Covers beneficiary operator first second) (other : Address) :
    l.Covers beneficiary other second first := by
  intro receiver hreceiver
  obtain ⟨hfirst, hsecond⟩ := h receiver hreceiver
  rw [Uint.le_iff, held_fined hreceiver hfirst] at hsecond
  rw [Uint.le_iff] at hfirst
  have hless : second ≤ l.held := Nat.le_trans hsecond (Nat.sub_le ..)
  refine ⟨hless, ?_⟩
  rw [Uint.le_iff, held_fined hreceiver hless]
  split at hsecond <;> split <;> omega

-- A payment of the ledger to itself does not use up what it holds, so nothing is known there
-- about the sum of two payments. But a bond that both exhaust can only stay in a pod that asks
-- for nothing.
theorem Covers.swap_self {bonded : Amount}
    (h : l.Covers beneficiary operator (min amount bonded)
      (min amount' (bonded.satSub (min amount bonded))))
    (hwhole : bonded.toNat < amount.toNat + amount'.toNat →
      amount.toNat = 0 ∨ bonded.toNat ≤ amount.toNat) :
    l.Covers beneficiary operator (min amount' bonded)
      (min amount (bonded.satSub (min amount' bonded))) := by
  intro receiver hreceiver
  obtain ⟨hfirst, hsecond⟩ := h receiver hreceiver
  rw [Uint.le_iff, held_fined hreceiver hfirst] at hsecond
  simp only [Uint.le_iff, Uint.toNat_min, Uint.toNat_satSub] at hfirst hsecond
  have hless : min amount' bonded ≤ l.held := by
    rw [Uint.le_iff, Uint.toNat_min]
    split at hsecond <;> omega
  refine ⟨hless, ?_⟩
  rw [Uint.le_iff, held_fined hreceiver hless]
  simp only [Uint.toNat_min, Uint.toNat_satSub]
  split at hsecond <;> split <;> omega

namespace Affords

theorem ne (h : l.Affords operator amount beneficiary r) : beneficiary.address ≠ operator :=
  (refuses?_eq_none_iff.1 h.accepted).1

theorem covers {r' : BondRecord} (h : l.Affords operator amount beneficiary r)
    (h' : (l.fined operator (min amount r.amount) beneficiary).Affords other amount' beneficiary
      r') :
    l.Covers beneficiary operator (min amount r.amount) (min amount' r'.amount) :=
  fun receiver hreceiver => ⟨h.covered receiver hreceiver, h'.covered receiver hreceiver⟩

theorem swap_other {r' : BondRecord} (hother : operator ≠ other)
    (h : l.Affords operator amount beneficiary r)
    (h' : (l.fined operator (min amount r.amount) beneficiary).Affords other amount' beneficiary
      r') :
    l.Affords other amount' beneficiary r' ∧
      (l.fined other (min amount' r'.amount) beneficiary).Affords operator amount beneficiary
        r := by
  have hne := h.ne
  have hne' := h'.ne
  have hcovers := (h.covers h').swap other
  refine ⟨⟨?_, ?_, ?_, fun receiver hreceiver => (hcovers receiver hreceiver).1⟩,
    ⟨?_, ?_, ?_, fun receiver hreceiver => (hcovers receiver hreceiver).2⟩⟩
  · have hbond : beneficiary ≠ .bond other := fun hb => hne' (by rw [hb]; rfl)
    rw [← h'.found, record?_fined hne, if_neg hother, if_neg hbond]
  · rw [← refuses?_congr (isBonded_fined hne), h'.accepted]
  · simpa using h'.stays
  · have hbond : beneficiary ≠ .bond operator := fun hb => hne (by rw [hb]; rfl)
    rw [← h.found, record?_fined hne', if_neg hother.symm, if_neg hbond]
  · rw [refuses?_congr (isBonded_fined hne'), h.accepted]
  · simpa using h.stays

theorem found_fined (h : l.Affords operator amount beneficiary r) (taken : Amount) :
    (l.fined operator taken beneficiary).record? operator =
      some { r with amount := r.amount.satSub taken } := by
  rw [record?_fined h.ne, if_pos rfl, h.found]
  rfl

theorem swap_self {r' : BondRecord} (h : l.Affords operator amount beneficiary r)
    (h' : (l.fined operator (min amount r.amount) beneficiary).Affords operator amount' beneficiary
      r')
    (hwhole : ∀ required, l.pods.requirement r.pod = .ok required → required.current.toNat = 0 →
      amount.toNat = 0 ∨ r.amount.toNat ≤ amount.toNat) :
    ∃ r'', l.Affords operator amount' beneficiary r ∧
      (l.fined operator (min amount' r.amount) beneficiary).Affords operator amount beneficiary
        r'' ∧
      (min amount r.amount).toNat + (min amount' r'.amount).toNat =
        (min amount' r.amount).toNat + (min amount r''.amount).toNat := by
  obtain rfl := Option.some.inj (h'.found.symm.trans (h.found_fined _))
  obtain ⟨required, hrequired, hstays⟩ := h'.stays
  rw [pods_fined] at hrequired
  simp only [Uint.toNat_satSub, Uint.toNat_min] at hstays
  have hpart := hwhole required hrequired
  have hcovers := (h.covers h').swap_self (by omega)
  refine ⟨{ r with amount := r.amount.satSub (min amount' r.amount) },
    ⟨h.found, h.accepted, ⟨required, hrequired, by omega⟩,
      fun receiver hreceiver => (hcovers receiver hreceiver).1⟩,
    ⟨h.found_fined _, ?_, ⟨required, ?_, ?_⟩,
      fun receiver hreceiver => (hcovers receiver hreceiver).2⟩, ?_⟩
  · rw [refuses?_congr (isBonded_fined h.ne), h.accepted]
  · simpa using hrequired
  · simp only [Uint.toNat_satSub, Uint.toNat_min]
    omega
  · simp only [Uint.toNat_min, Uint.toNat_satSub]
    omega

theorem covered_fined (h : l.Affords operator amount beneficiary r)
    (hcovered : l.liabilities ≤ l.held.toNat) :
    (l.fined operator (min amount r.amount) beneficiary).liabilities ≤
      (l.fined operator (min amount r.amount) beneficiary).held.toNat := by
  have hless := liabilities_updateAmount (fun a => a.satSub (min amount r.amount)) h.found
  rw [Uint.toNat_satSub, Uint.toNat_min] at hless
  obtain ⟨hne, hbonded⟩ := refuses?_eq_none_iff.1 h.accepted
  have hpaid := h.covered
  cases beneficiary with
  | account receiver =>
      have hheld :=
        held_fined (Eq.refl (Beneficiary.account receiver)) (hpaid receiver rfl) operator
      rw [Uint.toNat_min] at hheld
      have hsame : (l.fined operator (min amount r.amount) (.account receiver)).liabilities =
          (l.updateAmount operator fun a => a.satSub (min amount r.amount)).liabilities := rfl
      rw [hheld, hsame]
      split <;> omega
  | bond receiver =>
      have hreceiver : operator ≠ receiver := Ne.symm hne
      obtain ⟨s, hs⟩ := Option.isSome_iff_exists.1 (hbonded receiver rfl)
      have hkept : (l.updateAmount operator fun a =>
          a.satSub (min amount r.amount)).record? receiver = some s := by
        rw [record?_updateAmount, if_neg hreceiver, hs]
      have hmore := liabilities_updateAmount (fun a => a.satAdd (min amount r.amount)) hkept
      rw [Uint.toNat_satAdd, Uint.toNat_min] at hmore
      show ((l.updateAmount operator _).updateAmount receiver _).liabilities ≤ l.held.toNat
      omega

end Affords

theorem Fines.covered (h : l.Fines operator amount beneficiary l')
    (hcovered : l.liabilities ≤ l.held.toNat) : l'.liabilities ≤ l'.held.toNat := by
  obtain ⟨r, haffords, rfl⟩ := fines_iff.1 h
  exact haffords.covered_fined hcovered

theorem Fines.frame (h : l.Fines operator amount beneficiary l') :
    l'.pods = l.pods ∧ l'.isBonded = l.isBonded := by
  obtain ⟨r, haffords, rfl⟩ := fines_iff.1 h
  exact ⟨pods_fined .., isBonded_fined haffords.ne⟩

theorem Fines.swap (h : l.Fines operator amount beneficiary l₁)
    (h' : l₁.Fines other amount' beneficiary l₂)
    (hwhole : ∀ r required, l.record? operator = some r → l.pods.requirement r.pod = .ok required →
      required.current.toNat = 0 → amount.toNat = 0 ∨ r.amount.toNat ≤ amount.toNat) :
    ∃ l₁', l.Fines other amount' beneficiary l₁' ∧ l₁'.Fines operator amount beneficiary l₂ := by
  obtain ⟨r, haffords, rfl⟩ := fines_iff.1 h
  obtain ⟨r', haffords', rfl⟩ := fines_iff.1 h'
  have hcovers := haffords.covers haffords'
  by_cases hother : operator = other
  · subst hother
    obtain ⟨r'', hfirst, hsecond, hsum⟩ :=
      haffords.swap_self haffords' fun required => hwhole r required haffords.found
    refine ⟨_, fines_iff.2 ⟨r, hfirst, rfl⟩, fines_iff.2 ⟨r'', hsecond, ?_⟩⟩
    exact fined_comm_self haffords.ne (hcovers.balanced (hfirst.covers hsecond) hsum)
  · obtain ⟨hfirst, hsecond⟩ := haffords.swap_other hother haffords'
    refine ⟨_, fines_iff.2 ⟨r', hfirst, rfl⟩, fines_iff.2 ⟨r, hsecond, ?_⟩⟩
    exact fined_comm_other haffords.ne haffords'.ne hother
      (hcovers.balanced (hfirst.covers hsecond) (Nat.add_comm ..))

end Ledger

end BondedRelay
