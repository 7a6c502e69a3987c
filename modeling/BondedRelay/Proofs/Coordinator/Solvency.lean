import BondedRelay.Proofs.Bond.Solvency
import BondedRelay.Proofs.Coordinator.Run

namespace BondedRelay.Coordinator

variable {ε : Type} [JobEffect ε]

inductive Guarded : Coordinator MemoryToken ε → Coordinator MemoryToken ε → Prop
  | call (c : Coordinator MemoryToken ε) (call : Call) : Guarded c (c.after call)
  | ledger (c : Coordinator MemoryToken ε) (call : Ledger.Call) :
      Guarded c (c.setLedger (c.ledger.after call))
  | token (c : Coordinator MemoryToken ε) (token : MemoryToken)
      (h : c.token.Outside c.ledger.address token) : Guarded c (c.setToken token)
  | clock (c : Coordinator MemoryToken ε) (clock : Clock) : Guarded c { c with clock }
  | owners (c : Coordinator MemoryToken ε) (owners : Table Address Address) :
      Guarded c { c with owners }
  | source (c : Coordinator MemoryToken ε) (chain : Uint 32) (sender : Address) :
      Guarded c (c.registerSource chain sender)

variable {c c' : Coordinator MemoryToken ε} {operator : Address} {r : BondRecord}

theorem solvent_guarded (hs : c.ledger.Solvent) (h : Guarded c c') : c'.ledger.Solvent := by
  cases h with
  | call call =>
      rcases c.ledger_after call with hsame | ⟨operation, hafter⟩
      · exact hsame ▸ hs
      · exact hafter ▸ hs.after operation
  | ledger call => exact hs.after call
  | token token houtside => exact hs.outside houtside
  | clock clock => exact hs
  | owners owners => exact hs
  | source chain sender => exact hs

theorem solvent_run (hs : c.ledger.Solvent) (h : Relation.ReflTransGen Guarded c c') :
    c'.ledger.Solvent := by
  induction h with
  | refl => exact hs
  | tail _ hstep ih => exact solvent_guarded ih hstep

theorem unbond_paid (hs : c.ledger.Solvent) (hr : c.ledger.record? operator = some r)
    (recipient : Address) :
    c.answer (.unbond (r.kind.authority operator) operator recipient) =
      .ok (.unbonded r.amount) := by
  have hpaid := hs.pays hr recipient
  rcases h : c.ledger.unbond (r.kind.authority operator) operator recipient with ⟨e | paid, ledger⟩
  · simp [h] at hpaid
  · obtain rfl : paid = r.amount := by simpa [h] using hpaid
    simp [answer, respond, Coordinator.unbond, h, Except.map]

theorem bonds_always_payable (chainId : Uint 32) (config : Protocol) (schedule : BondSchedule)
    (address : Address) (token : MemoryToken) (clock : Clock) (effect : ε)
    (owners : Table Address Address) (hsupply : token.supply ≤ (Uint.top : Amount).toNat)
    (hallowance : (token.allowance address address).toNat = 0) :
    (∀ c, Relation.ReflTransGen Guarded
        (create chainId config address token clock effect owners) c →
      c.ledger.liabilities ≤ c.ledger.held.toNat ∧
        ∀ operator r recipient, c.ledger.record? operator = some r →
          c.answer (.unbond (r.kind.authority operator) operator recipient) =
            .ok (.unbonded r.amount)) ∧
      ∀ l, Relation.ReflTransGen Ledger.Guarded (Ledger.create address token schedule) l →
        l.liabilities ≤ l.held.toNat ∧
          ∀ operator r recipient, l.record? operator = some r →
            (l.unbond (r.kind.authority operator) operator recipient).1 = .ok r.amount := by
  have hfit : token.Fit address := ⟨hsupply, hallowance⟩
  constructor
  · intro c hrun
    have hstart : (create chainId config address token clock effect owners).ledger.Solvent :=
      Ledger.solvent_create hfit _
    have hs : c.ledger.Solvent := solvent_run hstart hrun
    exact ⟨hs.liabilities_le, fun operator r recipient hr => unbond_paid hs hr recipient⟩
  · intro l hrun
    have hs : l.Solvent := (Ledger.solvent_create hfit schedule).run hrun
    exact ⟨hs.liabilities_le, fun operator r recipient hr => hs.pays hr recipient⟩

theorem bonds_always_payable_after_bond :
    let funded := (MemoryToken.empty.mint 5 Protocol.standard.bondUnit).approve 5 9 .top
    let c := (create 1 .standard 9 funded .standard (RecordingEffect.create []) .empty).after
      (.bond 5 7 Protocol.standard.bondUnit 1)
    c.ledger.record? 7 = some ⟨Protocol.standard.bondUnit, 1, .account⟩ ∧
      c.answer (.unbond 7 7 5) = .ok (.unbonded Protocol.standard.bondUnit) := by
  intro funded c
  have hsupply : funded.supply ≤ (Uint.top : Amount).toNat := by decide +kernel
  have hallowance : (funded.allowance 9 9).toNat = 0 := by decide +kernel
  have hrun : Relation.ReflTransGen Guarded
      (create 1 .standard 9 funded .standard (RecordingEffect.create []) .empty) c :=
    .single (.call _ _)
  have hbonded : c.ledger.record? 7 = some ⟨Protocol.standard.bondUnit, 1, .account⟩ := by
    decide +kernel
  have hpaid := ((bonds_always_payable 1 .standard (.ofProtocol .standard) 9 funded .standard
    (RecordingEffect.create []) .empty hsupply hallowance).1 c hrun).2 7 _ 5 hbonded
  exact ⟨hbonded, hpaid⟩

end BondedRelay.Coordinator
