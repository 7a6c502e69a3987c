namespace BondedRelay

inductive TaskEnd where
  | done
  | failed (text : String)
  | panicked
  deriving DecidableEq, Repr

def TaskEnd.result : TaskEnd → Except String Unit
  | .done => .ok ()
  | .failed text => .error text
  | .panicked => .error "task panicked or was cancelled"

structure TimedTask where
  delay : Nat
  ending : TaskEnd
  deriving DecidableEq, Repr

namespace TimedTask

def first? : List TimedTask → Option (Nat × TimedTask)
  | [] => none
  | t :: rest =>
      match first? rest with
      | none => some (0, t)
      | some (i, u) => if u.delay < t.delay then some (i + 1, u) else some (0, t)

def runAll (tasks : List TimedTask) : Except String Unit :=
  match first? tasks with
  | none => .ok ()
  | some (_, t) => t.ending.result

def ended (tasks : List TimedTask) : List Nat := (first? tasks).toList.map Prod.fst

theorem first?_delay_le {tasks : List TimedTask} {i : Nat} {t : TimedTask}
    (h : first? tasks = some (i, t)) : ∀ u ∈ tasks, t.delay ≤ u.delay := by
  induction tasks generalizing i t with
  | nil => simp [first?] at h
  | cons v rest ih =>
      unfold first? at h
      split at h
      · next hr =>
          obtain ⟨_, rfl⟩ : 0 = i ∧ v = t := by simpa using h
          cases rest with
          | nil => simp
          | cons w more =>
              unfold first? at hr
              split at hr
              · simp at hr
              · split at hr <;> simp at hr
      · next j w hr =>
          have hw := ih hr
          split at h
          · next hlt =>
              obtain ⟨_, rfl⟩ : j + 1 = i ∧ w = t := by simpa using h
              intro u hu
              rcases List.mem_cons.1 hu with rfl | hu
              · omega
              · exact hw u hu
          · next hge =>
              obtain ⟨_, rfl⟩ : 0 = i ∧ v = t := by simpa using h
              intro u hu
              rcases List.mem_cons.1 hu with rfl | hu
              · omega
              · have := hw u hu
                omega

end TimedTask

end BondedRelay
