import BondedRelay.Job.Record
import BondedRelay.Rejection
import BondedRelay.Table

namespace BondedRelay

structure JobStore where
  jobs : Table JobId JobRecord
  deriving DecidableEq, Repr

namespace JobStore

def empty : JobStore := ⟨.empty⟩

def size (s : JobStore) : Nat := s.jobs.size

def get? (s : JobStore) (id : JobId) : Option JobRecord := s.jobs.find? id

def contains (s : JobStore) (id : JobId) : Bool := (s.get? id).isSome

def pending (s : JobStore) (id : JobId) : Except Rejection JobRecord :=
  match s.get? id with
  | some r => if r.status = .pending then .ok r else .error (.invalidJob id)
  | none => .error (.invalidJob id)

def pendingIds (s : JobStore) : List JobId :=
  ((s.jobs.values.filter fun r => r.status = .pending).map JobRecord.id).mergeSort
    fun a b => a.toNat ≤ b.toNat

def insert (s : JobStore) (r : JobRecord) : Except Rejection JobStore :=
  if s.contains r.id then .error (.duplicateJob r.id) else .ok ⟨s.jobs.set r.id r⟩

def finish (s : JobStore) (id : JobId) (status : JobStatus) : Except Rejection JobStore :=
  match s.get? id with
  | some r =>
      if r.status = .pending && status.isFinal then .ok ⟨s.jobs.set id { r with status }⟩
      else .error (.invalidJob id)
  | none => .error (.invalidJob id)

end JobStore

end BondedRelay
