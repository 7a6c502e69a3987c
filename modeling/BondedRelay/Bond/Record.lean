import BondedRelay.Uint

namespace BondedRelay

inductive OperatorKind where
  | account
  | delegated (owner : Address)
  deriving DecidableEq, Repr

def OperatorKind.authority (operator : Address) : OperatorKind → Address
  | .account => operator
  | .delegated owner => owner

def OperatorKind.mayUnbond (kind : OperatorKind) (operator caller : Address) : Bool :=
  caller = kind.authority operator

structure BondRecord where
  amount : Amount
  pod : Uint 32
  kind : OperatorKind
  deriving DecidableEq, Repr

structure BondRequirement where
  base : Amount
  current : Amount
  deriving DecidableEq, Repr

inductive Beneficiary where
  | bond (receiver : Address)
  | account (receiver : Address)
  deriving DecidableEq, Repr

def Beneficiary.address : Beneficiary → Address
  | .bond receiver => receiver
  | .account receiver => receiver

structure SlashReceipt where
  operator : Address
  slashed : Amount
  remaining : Amount
  refunded : Amount
  demoted : Bool
  beneficiary : Beneficiary
  deriving DecidableEq, Repr

end BondedRelay
