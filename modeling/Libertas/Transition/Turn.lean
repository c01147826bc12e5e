import Libertas.Transition.Basic

/-!
# Turns of one party

A turn is what one party of a machine does between two visits of its home states
when no other party steps in. `own` says which actions are the party's, and the
turn ends in the first home state.

`Turn.invariant` is the rule for what a turn keeps, `Turn.exists_of_variant` the
rule for its termination: a rank that each of the steps can lower. Where the
party has no choice, `Turn.forced` follows it.

`outside_of_variant` is the rule for a party that the others may interrupt.
-/

universe u v

namespace Machine

variable {State : Type u} {Action : Type v}

/-- The party whose actions are `own` comes from one state to its next home state. -/
inductive Turn (m : Machine State Action) (own : State → Action → Prop) (home : State → Prop) :
    State → State → Prop
  | ends {s} : home s → Turn m own home s s
  | step {s action s' t} : ¬ home s → own s action → m.step s action = some s' →
      Turn m own home s' t → Turn m own home s t

namespace Turn

variable {m : Machine State Action} {own : State → Action → Prop} {home : State → Prop}
  {s s' t : State}

theorem arrives (turn : m.Turn own home s t) : home t := by
  induction turn with
  | ends home => exact home
  | step _ _ _ _ ih => exact ih

/-- At home, the turn is over. -/
theorem eq_of_home (turn : m.Turn own home s t) (home : home s) : t = s := by
  cases turn with
  | ends _ => rfl
  | step away => exact absurd home away

/-- Away from home, the turn has a next step. -/
theorem next (turn : m.Turn own home s t) (away : ¬ home s) :
    ∃ action s', own s action ∧ m.step s action = some s' ∧ m.Turn own home s' t := by
  cases turn with
  | ends home => exact absurd home away
  | step _ mine stepped rest => exact ⟨_, _, mine, stepped, rest⟩

/-- Where all actions of the party lead to one state, the turn goes there. -/
theorem forced (turn : m.Turn own home s t) (away : ¬ home s)
    (only : ∀ action u, own s action → m.step s action = some u → u = s') :
    m.Turn own home s' t := by
  obtain ⟨action, u, mine, stepped, rest⟩ := turn.next away
  rw [← only action u mine stepped]
  exact rest

/-- A party that has one action goes on from the state behind it. -/
theorem iff_next {action : Action} (away : ¬ home s) (mine : own s action)
    (stepped : m.step s action = some s') (only : ∀ action', own s action' → action' = action) :
    m.Turn own home s t ↔ m.Turn own home s' t := by
  constructor
  · intro turn
    apply turn.forced away
    intro action' u mine' stepped'
    rw [only action' mine', stepped] at stepped'
    exact (Option.some.inj stepped').symm
  · exact .step away mine stepped

/-- What every step of the party keeps holds at the end of its turn. -/
theorem invariant (turn : m.Turn own home s t) (Good : State → Prop)
    (keep : ∀ s action s', Good s → ¬ home s → own s action → m.step s action = some s' → Good s')
    (good : Good s) : Good t := by
  induction turn with
  | ends _ => exact good
  | step away mine stepped _ ih => exact ih (keep _ _ _ good away mine stepped)

/-- A turn ends if from every good state the party can step to a good state of lower rank. -/
theorem exists_of_variant (Good : State → Prop) (rank : State → Nat)
    (lower : ∀ s, Good s → ¬ home s →
      ∃ action s', own s action ∧ m.step s action = some s' ∧ Good s' ∧ rank s' < rank s)
    (s : State) (good : Good s) : ∃ t, m.Turn own home s t := by
  induction bound : rank s using Nat.strongRecOn generalizing s with
  | ind n ih =>
    by_cases at_home : home s
    · exact ⟨s, .ends at_home⟩
    · obtain ⟨action, s', mine, stepped, good', lowered⟩ := lower s good at_home
      obtain ⟨t, rest⟩ := ih (rank s') (bound ▸ lowered) s' good' rfl
      exact ⟨t, .step at_home mine stepped rest⟩

end Turn

section Interference

variable {m : Machine State Action} {own : Action → Bool}

/-- A party whose steps lower a rank, while the steps of the others do not raise it, gets outside
before it has taken more steps than the rank allows. -/
theorem outside_of_variant {s t : State} {actions : List Action} (Good Outside : State → Prop)
    (rank : State → Nat)
    (lower : ∀ s action t, Good s → m.step s action = some t →
      Outside t ∨ Good t ∧ rank t + (if own action then 1 else 0) ≤ rank s)
    (good : Good s) (executed : m.run s actions = some t)
    (many : rank s < actions.countP own) :
    ∃ first later u, actions = first ++ later ∧ m.run s first = some u ∧ Outside u := by
  induction actions generalizing s with
  | nil => simp at many
  | cons action rest ih =>
      rw [List.countP_cons] at many
      simp only [run] at executed
      cases stepped : m.step s action with
      | none => simp [stepped] at executed
      | some next =>
          simp only [stepped] at executed
          rcases lower s action next good stepped with outside | ⟨good', lowered⟩
          · exact ⟨[action], rest, next, rfl, by simp [run, stepped], outside⟩
          · obtain ⟨first, later, u, split, goes, outside⟩ := ih good' executed (by omega)
            refine ⟨action :: first, later, u, by rw [split, List.cons_append], ?_, outside⟩
            simp only [run, stepped]
            exact goes

end Interference

end Machine
