import BondedRelay.Pod.Schedule
import BondedRelay.Rejection
import BondedRelay.Table

namespace BondedRelay

structure Pod where
  base : Amount
  members : List Address
  deriving DecidableEq, Repr

structure Position where
  pod : Uint 32
  index : Nat
  deriving DecidableEq, Repr

structure PodRegistry where
  schedule : BondSchedule
  pods : List Pod
  positions : Table Address Position
  deriving DecidableEq, Repr

def swapRemove {α : Type} (l : List α) (i : Nat) : List α :=
  match l.getLast? with
  | some last => (l.set i last).dropLast
  | none => []

namespace PodRegistry

def empty (schedule : BondSchedule) : PodRegistry := ⟨schedule, [], .empty⟩

def count (r : PodRegistry) : Nat := r.pods.length

def exists? (r : PodRegistry) (pod : Uint 32) : Bool :=
  1 ≤ pod.toNat && pod.toNat ≤ r.count

def index (pod : Uint 32) : Nat := pod.toNat - 1

def pod? (r : PodRegistry) (pod : Uint 32) : Option Pod :=
  if r.exists? pod then r.pods[index pod]? else none

def pod (r : PodRegistry) (pod : Uint 32) : Except Rejection Pod :=
  match r.pod? pod with
  | some p => .ok p
  | none => .error (.podDoesNotExist pod)

def requirement (r : PodRegistry) (pod : Uint 32) : Except Rejection BondRequirement :=
  match r.pod pod with
  | .ok p => .ok ⟨p.base, r.schedule.current pod p.base p.members.length⟩
  | .error e => .error e

def entryRequirement (r : PodRegistry) (pod : Uint 32) : Except Rejection BondRequirement :=
  if pod.toNat = r.count + 1 then .ok ⟨r.schedule.base pod, r.schedule.base pod⟩
  else r.requirement pod

def members (r : PodRegistry) (pod : Uint 32) : Except Rejection (List Address) :=
  (r.pod pod).map Pod.members

def membersOf (r : PodRegistry) (pod : Uint 32) : List Address :=
  match r.pod? pod with
  | some p => p.members
  | none => []

def slice (r : PodRegistry) (pod : Uint 32) (offset count : Nat) :
    Except Rejection (List Address) :=
  (r.members pod).map fun ms => (ms.drop offset).take count

def memberCount (r : PodRegistry) (pod : Uint 32) : Except Rejection Nat :=
  (r.members pod).map List.length

def memberAt (r : PodRegistry) (pod : Uint 32) (index : Nat) : Option Address :=
  (r.membersOf pod)[index]?

def populated (r : PodRegistry) : List (Uint 32) :=
  (r.pods.zipIdx 1).filterMap fun (p, n) => if p.members.isEmpty then none else some (.wrap n)

def positionOf (r : PodRegistry) (member : Address) : Option Position := r.positions.find? member

def setMembers (r : PodRegistry) (pod : Uint 32) (members : List Address) : PodRegistry :=
  { r with pods := r.pods.modify (index pod) fun p => { p with members } }

def join (r : PodRegistry) (pod : Uint 32) (member : Address) : Except Rejection PodRegistry :=
  let r :=
    if pod.toNat = r.count + 1 then { r with pods := r.pods ++ [⟨r.schedule.base pod, []⟩] } else r
  match r.members pod with
  | .error e => .error e
  | .ok ms =>
      .ok { r.setMembers pod (ms ++ [member]) with
        positions := r.positions.set member ⟨pod, ms.length⟩ }

def leave (r : PodRegistry) (member : Address) : PodRegistry :=
  match r.positions.find? member with
  | none => r
  | some at_ =>
      let remaining := swapRemove (r.membersOf at_.pod) at_.index
      let positions := r.positions.erase member
      let positions := match remaining[at_.index]? with
        | some moved => positions.set moved at_
        | none => positions
      { r.setMembers at_.pod remaining with positions }

end PodRegistry

end BondedRelay
