import Mathlib.Data.List.Induction
import BondedRelay.Proofs.Bond.Records
import BondedRelay.Proofs.Coordinator.Run

namespace BondedRelay.Coordinator

variable {τ ε : Type} {start c c' : Coordinator τ ε} {call : Call} {reply : Reply}
  {operator : Address} {r r' : BondRecord}

def Escalates (c : Coordinator τ ε) (call : Call) (reply : Reply) (operator : Address) : Prop :=
  ∃ caller payload params receipt slash job,
    call.execution? = some (caller, payload, params) ∧ reply = .executed receipt ∧
    receipt.slash = some slash ∧ slash.operator = operator ∧ caller ≠ operator ∧
    c.jobs.get? payload.jobId = some job ∧ job.primary = operator ∧
    job.assignedAt.toNat + max c.config.windowDuration.toNat 1 ≤ c.clock.timestamp.toNat

def Credits (call : Call) (reply : Reply) (operator : Address) : Prop :=
  (∃ caller amount, call = .topUp caller operator amount) ∨
    ∃ receipt slash, reply = .executed receipt ∧ receipt.slash = some slash ∧
      slash.beneficiary = .bond operator

inductive BondChange (c : Coordinator τ ε) (call : Call) (reply : Reply) (operator : Address) :
    Option BondRecord → Option BondRecord → Prop
  | same (r? : Option BondRecord) : BondChange c call reply operator r? r?
  | bonded {caller : Address} {amount : Amount} {pod : Uint 32}
      (hcall : call = .bond caller operator amount pod) :
      BondChange c call reply operator none (some ⟨amount, pod, c.kindOf operator⟩)
  | raised {r : BondRecord} {amount : Amount} (hcredits : Credits call reply operator)
      (hle : r.amount ≤ amount) :
      BondChange c call reply operator (some r) (some { r with amount })
  | unbonded {r : BondRecord} {recipient : Address}
      (hcall : call = .unbond (r.kind.authority operator) operator recipient)
      (hreply : reply = .unbonded r.amount) : BondChange c call reply operator (some r) none
  | demoted {r : BondRecord} (hescalates : c.Escalates call reply operator) :
      BondChange c call reply operator (some r) none
  | slashed {r : BondRecord} {amount : Amount} (hescalates : c.Escalates call reply operator)
      (hle : amount ≤ r.amount) :
      BondChange c call reply operator (some r) (some { r with amount })

theorem BondChange.authority_eq {now? : Option BondRecord}
    (h : c.BondChange call reply operator (some r) now?)
    (hless : ∀ r', now? = some r' → r'.amount < r.amount) :
    (∃ recipient, call = .unbond (r.kind.authority operator) operator recipient ∧
      reply = .unbonded r.amount) ∨ c.Escalates call reply operator := by
  cases h with
  | same => exact absurd (hless r rfl) (Nat.lt_irrefl _)
  | raised hcredits hle => exact absurd (hless _ rfl) (Nat.not_lt_of_le hle)
  | unbonded hcall hreply => exact .inl ⟨_, hcall, hreply⟩
  | demoted hescalates => exact .inr hescalates
  | slashed hescalates hle => exact .inr hescalates

theorem BondChange.pod_kind_eq (h : c.BondChange call reply operator (some r) (some r')) :
    r'.pod = r.pod ∧ r'.kind = r.kind := by
  cases h with
  | same => exact ⟨rfl, rfl⟩
  | raised hcredits hle => exact ⟨rfl, rfl⟩
  | slashed hescalates hle => exact ⟨rfl, rfl⟩

theorem BondChange.credits (h : c.BondChange call reply operator (some r) (some r'))
    (hmore : r.amount < r'.amount) : Credits call reply operator := by
  cases h with
  | same => exact absurd hmore (Nat.lt_irrefl _)
  | raised hcredits hle => exact hcredits
  | slashed hescalates hle => exact absurd hmore (Nat.not_lt_of_le hle)

theorem BondChange.bond_eq (h : c.BondChange call reply operator none (some r)) :
    ∃ caller, call = .bond caller operator r.amount r.pod ∧ r.kind = c.kindOf operator := by
  cases h with
  | bonded hcall => exact ⟨_, hcall, rfl⟩

variable [UtilityToken τ] [JobEffect ε]

omit [JobEffect ε] in
theorem bondChange_of_slash {caller : Address} {payload : Payload} {params : ExecutionParams}
    {receipt : ExecutionReceipt} {slash : SlashReceipt} {job : JobRecord} {amount : Amount}
    {beneficiary : Beneficiary} {ledger : Ledger τ}
    (hcall : call.execution? = some (caller, payload, params)) (hslash : receipt.slash = some slash)
    (hfound : c.jobs.get? payload.jobId = some job) (hcaller : caller ≠ job.primary)
    (hlate : job.assignedAt.toNat + max c.config.windowDuration.toNat 1 ≤ c.clock.timestamp.toNat)
    (h : c.ledger.slash job.primary amount beneficiary = (.ok slash, ledger))
    (operator : Address) :
    c.BondChange call (.executed receipt) operator (c.ledger.record? operator)
      (ledger.record? operator) := by
  by_cases hprimary : job.primary = operator
  · subst hprimary
    have hescalates : c.Escalates call (.executed receipt) job.primary :=
      ⟨caller, payload, params, receipt, slash, job, hcall, rfl, hslash, Ledger.operator_slash h,
        hcaller, hfound, rfl, hlate⟩
    obtain ⟨r, hr, hdivides, hafter⟩ := Ledger.record?_slash_operator h
    rw [hr, hafter]
    split
    · exact .demoted hescalates
    · have hsum := hdivides.sum_eq
      exact .slashed hescalates (by rw [Uint.le_iff]; omega)
  · rw [Ledger.record?_slash_other h hprimary]
    split
    · next hbeneficiary =>
        cases hr : c.ledger.record? operator with
        | none => exact .same none
        | some r =>
            refine .raised (.inr ⟨receipt, slash, rfl, hslash, hbeneficiary⟩) ?_
            have hbound := r.amount.toNat_le
            rw [Uint.le_iff, Uint.toNat_satAdd]
            omega
    · exact .same _

theorem bondChange_of_accepts (h : c.Accepts call reply c') (operator : Address) :
    c.BondChange call reply operator (c.ledger.record? operator) (c'.ledger.record? operator) := by
  cases h with
  | deliver hcall htrusted hfresh => exact .same _
  | @execute call caller payload params receipt place hcall hexecute =>
      obtain ⟨job, phase, hfound, -, hcheck, hpenalize, -⟩ := Execution.execute_ok hexecute
      show c.BondChange call _ operator _ (place.ledger.record? operator)
      rcases Execution.penalize_ok hpenalize with
        ⟨-, hsame⟩ | ⟨slash, required, hslash, hescalated, hcaller, -, hledger⟩
      · rw [hsame]
        exact .same _
      · have helapsed := (inPhase_of_check hcheck).1.elapsed hescalated
        exact bondChange_of_slash hcall hslash hfound hcaller helapsed.2 hledger operator
  | @bond caller bonded amount pod r ledger hbond =>
      show c.BondChange _ _ operator _ (ledger.record? operator)
      rw [Ledger.record?_bond hbond]
      split
      · next hoperator =>
          subst hoperator
          obtain ⟨hfree, rfl, -⟩ := Ledger.bond_ok hbond
          rw [hfree]
          exact .bonded rfl
      · exact .same _
  | @topUp caller raised amount updated ledger htopUp =>
      show c.BondChange _ _ operator _ (ledger.record? operator)
      rw [Ledger.record?_topUp htopUp]
      split
      · next hoperator =>
          subst hoperator
          cases hr : c.ledger.record? raised with
          | none => exact .same none
          | some r =>
              refine .raised (.inl ⟨caller, amount, rfl⟩) ?_
              have hbound := r.amount.toNat_le
              rw [Uint.le_iff, Uint.toNat_satAdd]
              omega
      · exact .same _
  | @unbond caller leaving recipient amount ledger hunbond =>
      show c.BondChange _ _ operator _ (ledger.record? operator)
      rw [Ledger.record?_unbond hunbond]
      split
      · next hoperator =>
          subst hoperator
          obtain ⟨r, token, hr, rfl, -, rfl, -⟩ := Ledger.unbond_ok hunbond
          rw [hr]
          exact .unbonded rfl rfl
      · exact .same _

def Loses (c c' : Coordinator τ ε) (operator : Address) : Prop :=
  ∃ r, c.ledger.record? operator = some r ∧
    ∀ r', c'.ledger.record? operator = some r' → r'.amount < r.amount

theorem bondChange_after (c : Coordinator τ ε) (call : Call) :
    (∃ reply, c.answer call = .ok reply ∧ ∀ operator,
      c.BondChange call reply operator (c.ledger.record? operator)
        ((c.after call).ledger.record? operator)) ∨
      ∀ operator, (c.after call).ledger.record? operator = c.ledger.record? operator := by
  rcases c.step_cases (.call call) with ⟨call', reply, hcall, hanswer, haccepts⟩ | ⟨hquiet, -⟩
  · obtain rfl := Move.call.inj hcall
    exact .inl ⟨reply, hanswer, bondChange_of_accepts haccepts⟩
  · exact .inr hquiet.record?_eq

theorem cause_of_loses (h : Loses c (c.after call) operator) :
    ∃ r reply, c.ledger.record? operator = some r ∧ c.answer call = .ok reply ∧
      ((∃ recipient, call = .unbond (r.kind.authority operator) operator recipient ∧
        reply = .unbonded r.amount) ∨ c.Escalates call reply operator) := by
  obtain ⟨r, hr, hless⟩ := h
  rcases c.bondChange_after call with ⟨reply, hanswer, hchange⟩ | hsame
  · have hoperator := hchange operator
    rw [hr] at hoperator
    exact ⟨r, reply, hr, hanswer, hoperator.authority_eq hless⟩
  · exact absurd (hless r ((hsame operator).trans hr)) (Nat.lt_irrefl _)

theorem loses_unique {other : Address} (h : Loses c (c.after call) operator)
    (h' : Loses c (c.after call) other) : operator = other := by
  obtain ⟨r, reply, -, hanswer, hcause⟩ := cause_of_loses h
  obtain ⟨r', reply', -, hanswer', hcause'⟩ := cause_of_loses h'
  obtain rfl : reply = reply' := Except.ok.inj (hanswer.symm.trans hanswer')
  rcases hcause with ⟨recipient, rfl, rfl⟩ | hescalates
  · rcases hcause' with ⟨recipient', hcall, -⟩ | hescalates'
    · exact (Call.unbond.inj hcall).2.1
    · obtain ⟨_, _, _, _, _, _, hexecution, -⟩ := hescalates'
      simp [Call.execution?] at hexecution
  · obtain ⟨_, _, _, receipt, slash, _, hexecution, hreply, hslash, hoperator, -⟩ := hescalates
    rcases hcause' with ⟨recipient', rfl, -⟩ | hescalates'
    · simp [Call.execution?] at hexecution
    · obtain ⟨_, _, _, receipt', slash', _, -, hreply', hslash', hother, -⟩ := hescalates'
      obtain rfl : receipt = receipt' := Reply.executed.inj (hreply.symm.trans hreply')
      obtain rfl : slash = slash' := Option.some.inj (hslash.symm.trans hslash')
      exact hoperator.symm.trans hother

theorem kept_of_not_loses (hr : c.ledger.record? operator = some r)
    (hkeeps : ¬ Loses c (c.after call) operator) :
    ∃ r', (c.after call).ledger.record? operator = some r' ∧ (r'.amount = r.amount ∨
      r.amount < r'.amount ∧ ∃ reply, c.answer call = .ok reply ∧ Credits call reply operator) := by
  obtain ⟨r', hr', hle⟩ : ∃ r', (c.after call).ledger.record? operator = some r' ∧
      r.amount ≤ r'.amount := by
    by_contra hnone
    exact hkeeps ⟨r, hr, fun r' hr' => Nat.lt_of_not_le fun hle => hnone ⟨r', hr', hle⟩⟩
  refine ⟨r', hr', ?_⟩
  rcases c.bondChange_after call with ⟨reply, hanswer, hchange⟩ | hsame
  · have hoperator := hchange operator
    rw [hr, hr'] at hoperator
    rcases Nat.eq_or_lt_of_le hle with heq | hlt
    · exact .inl (Uint.ext heq.symm)
    · exact .inr ⟨hlt, reply, hanswer, hoperator.credits hlt⟩
  · rw [hsame, hr] at hr'
    exact .inl (congrArg BondRecord.amount (Option.some.inj hr')).symm

theorem pod_kind_after (hr : c.ledger.record? operator = some r)
    (hr' : (c.after call).ledger.record? operator = some r') :
    r'.pod = r.pod ∧ r'.kind = r.kind := by
  rcases c.bondChange_after call with ⟨reply, -, hchange⟩ | hsame
  · have hoperator := hchange operator
    rw [hr, hr'] at hoperator
    exact hoperator.pod_kind_eq
  · rw [hsame, hr] at hr'
    obtain rfl := Option.some.inj hr'
    exact ⟨rfl, rfl⟩

theorem bond_of_opened (hfree : c.ledger.record? operator = none)
    (hr' : (c.after call).ledger.record? operator = some r') :
    ∃ caller, call = .bond caller operator r'.amount r'.pod ∧ r'.kind = c.kindOf operator := by
  rcases c.bondChange_after call with ⟨reply, -, hchange⟩ | hsame
  · have hoperator := hchange operator
    rw [hfree, hr'] at hoperator
    exact hoperator.bond_eq
  · rw [hsame, hfree] at hr'
    simp at hr'

theorem Accepts.reply_bond {caller : Address} {amount : Amount} {pod : Uint 32}
    (h : c.Accepts (.bond caller operator amount pod) reply c') : reply = .bonded := by
  cases h with
  | deliver hcall => simp [Call.delivery?] at hcall
  | execute hcall => simp [Call.execution?] at hcall
  | bond hbond => rfl

def BondedSince (start : Coordinator τ ε) (moves : List (Move τ ε)) (operator : Address)
    (r : BondRecord) : Prop :=
  ∃ before caller amount since,
    moves = before ++ .call (.bond caller operator amount r.pod) :: since ∧
    (start.run before).answer (.bond caller operator amount r.pod) = .ok .bonded ∧
    (start.run before).kindOf operator = r.kind ∧
    ∀ sofar, sofar <+: since →
      ∃ r', (((start.run before).after (.bond caller operator amount r.pod)).run
        sofar).ledger.record? operator = some r' ∧ r'.pod = r.pod ∧ r'.kind = r.kind

theorem BondedSince.extend {moves : List (Move τ ε)} {move : Move τ ε}
    (h : BondedSince start moves operator r)
    (hr' : ((start.run moves).step move).ledger.record? operator = some r')
    (hpod : r'.pod = r.pod) (hkind : r'.kind = r.kind) :
    BondedSince start (moves ++ [move]) operator r' := by
  obtain ⟨before, caller, amount, since, rfl, hanswer, hkindOf, hthroughout⟩ := h
  refine ⟨before, caller, amount, since ++ [move], by simp [hpod], hpod ▸ hanswer,
    hkindOf.trans hkind.symm, fun sofar hsofar => ?_⟩
  rw [hpod, hkind]
  rcases List.prefix_concat_iff.1 hsofar with rfl | hearlier
  · refine ⟨r', ?_, hpod, hkind⟩
    rw [run_append, run_cons] at hr'
    rw [run_append]
    exact hr'
  · exact hthroughout sofar hearlier

theorem bondedSince_run (hfresh : ∀ operator, start.ledger.record? operator = none)
    (moves : List (Move τ ε)) (h : (start.run moves).ledger.record? operator = some r) :
    BondedSince start moves operator r := by
  induction moves using List.reverseRecOn generalizing r with
  | nil => simp [hfresh] at h
  | append_singleton moves move ih =>
      rw [run_append, run_cons, run_nil] at h
      rcases (start.run moves).step_cases move with
        ⟨call, reply, rfl, hanswer, haccepts⟩ | ⟨hquiet, -⟩
      · have hchange := bondChange_of_accepts haccepts operator
        rw [h] at hchange
        cases hr : (start.run moves).ledger.record? operator with
        | none =>
            rw [hr] at hchange
            obtain ⟨caller, rfl, hkind⟩ := hchange.bond_eq
            have hbonded := haccepts.reply_bond
            refine ⟨moves, caller, r.amount, [], rfl, hbonded ▸ hanswer, hkind.symm,
              fun sofar hsofar => ?_⟩
            rw [List.prefix_nil.1 hsofar]
            exact ⟨r, h, rfl, rfl⟩
        | some r₀ =>
            rw [hr] at hchange
            obtain ⟨hpod, hkind⟩ := hchange.pod_kind_eq
            exact (ih hr).extend h hpod hkind
      · exact (ih ((hquiet.record?_eq operator).symm.trans h)).extend h rfl rfl

theorem bonds_in_safe_custody (chainId : Uint 32) (config : Protocol) (address : Address)
    (token : τ) (clock : Clock) (effect : ε) (owners : Table Address Address)
    (moves : List (Move τ ε)) (call : Call) :
    let start := create chainId config address token clock effect owners
    let c := start.run moves
    let c' := c.after call
    (∀ operator, Loses c c' operator → ∃ r reply, c.ledger.record? operator = some r ∧
      c.answer call = .ok reply ∧
        ((∃ recipient, call = .unbond (r.kind.authority operator) operator recipient ∧
          BondedSince start moves operator r) ∨ c.Escalates call reply operator)) ∧
      (∀ operator other, Loses c c' operator → Loses c c' other → operator = other) ∧
      (∀ operator r, c.ledger.record? operator = some r → ¬ Loses c c' operator →
        ∃ r', c'.ledger.record? operator = some r' ∧ (r'.amount = r.amount ∨
          r.amount < r'.amount ∧ ∃ reply, c.answer call = .ok reply ∧
            Credits call reply operator)) ∧
      (∀ operator r r', c.ledger.record? operator = some r →
        c'.ledger.record? operator = some r' → r'.pod = r.pod ∧ r'.kind = r.kind) ∧
      ∀ operator r', c.ledger.record? operator = none → c'.ledger.record? operator = some r' →
        ∃ caller, call = .bond caller operator r'.amount r'.pod ∧
          r'.kind = c.kindOf operator := by
  intro start c c'
  refine ⟨fun operator hloses => ?_, fun operator other => loses_unique,
    fun operator r hr hkeeps => kept_of_not_loses hr hkeeps,
    fun operator r r' hr hr' => pod_kind_after hr hr',
    fun operator r' hfree hr' => bond_of_opened hfree hr'⟩
  obtain ⟨r, reply, hr, hanswer, hcause⟩ := cause_of_loses hloses
  refine ⟨r, reply, hr, hanswer, ?_⟩
  rcases hcause with ⟨recipient, hcall, -⟩ | hescalates
  · exact .inl ⟨recipient, hcall, bondedSince_run (fun _ => rfl) moves hr⟩
  · exact .inr hescalates

end BondedRelay.Coordinator
