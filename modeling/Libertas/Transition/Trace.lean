import Libertas.Transition.Basic

/-!
# What a run puts out

`emit` gives the outputs of a step, and `trace` those of a run, oldest first.
`ahead` says for a state what is still to come. A step accounts for its outputs
when it takes them from the front of what was ahead, and then a run does.

When every step lowers a rank as well, the runs have a bounded length, and each of
them can be continued until nothing is left to do.
-/

universe u v w

namespace Machine

variable {State : Type u} {Action : Type v} {Output : Type w}

/-- The outputs of a list of actions. -/
def trace (m : Machine State Action) (emit : State → Action → List Output) :
    State → List Action → List Output
  | _, [] => []
  | s, action :: rest =>
      match m.step s action with
      | none => []
      | some t => emit s action ++ m.trace emit t rest

/-- Between good states, the allowed steps account for their outputs and lower a rank. -/
structure Accounts (m : Machine State Action) (emit : State → Action → List Output)
    (allowed : Action → Prop) (Good : State → Prop) (ahead : State → List Output)
    (rank : State → Nat) : Prop where
  good : ∀ s action t, Good s → allowed action → m.step s action = some t → Good t
  outputs : ∀ s action t, Good s → allowed action → m.step s action = some t →
    ahead s = emit s action ++ ahead t
  lower : ∀ s action t, Good s → allowed action → m.step s action = some t → rank t < rank s

namespace Accounts

variable {m : Machine State Action} {emit : State → Action → List Output}
  {allowed : Action → Prop} {Good : State → Prop} {ahead : State → List Output}
  {rank : State → Nat} {s t : State} {actions : List Action}

/-- A run of allowed actions accounts for its outputs, and is no longer than the rank. -/
theorem run (accounts : m.Accounts emit allowed Good ahead rank) (good : Good s)
    (executed : m.run s actions = some t) (calm : ∀ action ∈ actions, allowed action) :
    Good t ∧ ahead s = m.trace emit s actions ++ ahead t ∧
      actions.length + rank t ≤ rank s := by
  induction actions generalizing s with
  | nil =>
      cases executed
      exact ⟨good, rfl, by simp⟩
  | cons action rest ih =>
      have first := calm action List.mem_cons_self
      simp only [Machine.run] at executed
      cases stepped : m.step s action with
      | none => simp [stepped] at executed
      | some next =>
          simp only [stepped] at executed
          have good' := accounts.good s action next good first stepped
          obtain ⟨last, outputs, length⟩ := ih good' executed fun other member =>
            calm other (List.mem_cons_of_mem action member)
          have lower := accounts.lower s action next good first stepped
          refine ⟨last, ?_, by rw [List.length_cons]; omega⟩
          rw [accounts.outputs s action next good first stepped, outputs]
          simp only [trace, stepped, List.append_assoc]

/-- When every good state is done or has an allowed step, a run can be continued until it is
done. -/
theorem exists_run (accounts : m.Accounts emit allowed Good ahead rank) (Done : State → Prop)
    (progress : ∀ s, Good s → Done s ∨ ∃ action t, allowed action ∧ m.step s action = some t)
    (good : Good s) :
    ∃ actions t, m.run s actions = some t ∧ (∀ action ∈ actions, allowed action) ∧ Done t := by
  induction bound : rank s using Nat.strongRecOn generalizing s with
  | ind n ih =>
    rcases progress s good with done | ⟨action, next, first, stepped⟩
    · exact ⟨[], s, rfl, nofun, done⟩
    · have good' := accounts.good s action next good first stepped
      have lower := accounts.lower s action next good first stepped
      obtain ⟨rest, t, executed, calm, done⟩ := ih (rank next) (bound ▸ lower) good' rfl
      refine ⟨action :: rest, t, ?_, ?_, done⟩
      · simp only [Machine.run, stepped]
        exact executed
      · intro other member
        rcases List.mem_cons.mp member with rfl | later
        · exact first
        · exact calm other later

end Accounts

/-- When every step puts what it accepts behind what is held, and takes from the front of it, then a
run takes what was held and accepted in that order, up to what it still holds. -/
theorem trace_conserves {m : Machine State Action} (accept take : State → Action → List Output)
    (held : State → List Output) {s t : State} {actions : List Action}
    (conserves : ∀ s action t, m.step s action = some t →
      held s ++ accept s action = take s action ++ held t)
    (executed : m.run s actions = some t) :
    held s ++ m.trace accept s actions = m.trace take s actions ++ held t := by
  induction actions generalizing s with
  | nil =>
      cases executed
      simp [trace]
  | cons action rest ih =>
      simp only [Machine.run] at executed
      cases stepped : m.step s action with
      | none => simp [stepped] at executed
      | some next =>
          simp only [stepped] at executed
          simp only [trace, stepped]
          rw [← List.append_assoc, conserves s action next stepped, List.append_assoc, ih executed,
            List.append_assoc]

end Machine
