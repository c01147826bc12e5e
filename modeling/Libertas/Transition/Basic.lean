import Mathlib.Data.List.Basic

/-!
# Machines, runs and reachable states

A `Machine` is a deterministic partial step function together with a set of
initial states. Nondeterminism lives in the action: whoever chooses the list of
actions chooses the interleaving. `run` executes a list of actions and fails as
soon as one of them is disabled.

`ReachableUnder allowed` collects the states that are reached by steps which all
satisfy a condition on the state before the step and the action. An unrestricted
run is the special case `Reachable`. Safety results are proved with `invariant`,
where the step premise may use that the earlier state was itself reachable, so
one invariant can lean on another that is already proved. `simulates` carries the runs
of a finer machine over to a coarser one, in which some of its steps do not show.
-/

universe u v

/-- A labelled machine: initial states and a partial step function. -/
structure Machine (State : Type u) (Action : Type v) where
  /-- The states a run may start from. -/
  initial : State → Prop
  /-- The effect of an action; `none` when the action is disabled. -/
  step : State → Action → Option State

namespace Machine

variable {State : Type u} {Action : Type v}

/-- Execute a list of actions in order. -/
def run (m : Machine State Action) : State → List Action → Option State
  | s, [] => some s
  | s, action :: rest =>
      match m.step s action with
      | none => none
      | some t => m.run t rest

/-- States reached by steps that all satisfy `allowed` in the state they leave. -/
inductive ReachableUnder (m : Machine State Action) (allowed : State → Action → Prop) :
    State → Prop
  | initial {s} : m.initial s → ReachableUnder m allowed s
  | step {s action t} : ReachableUnder m allowed s → allowed s action →
      m.step s action = some t → ReachableUnder m allowed t

/-- States reached by any run. -/
def Reachable (m : Machine State Action) : State → Prop :=
  m.ReachableUnder fun _ _ => True

variable {m : Machine State Action}

@[simp] theorem run_nil (s : State) : m.run s [] = some s := rfl

/-- A run begins with a step. -/
theorem run_cons_eq_some {s t : State} {action : Action} {rest : List Action} :
    m.run s (action :: rest) = some t ↔
      ∃ middle, m.step s action = some middle ∧ m.run middle rest = some t := by
  simp only [run]
  cases m.step s action with
  | none => simp
  | some middle => simp

namespace ReachableUnder

variable {allowed stronger : State → Action → Prop} {s t : State}

/-- A weaker condition on the steps reaches at least as many states. -/
theorem mono (reached : m.ReachableUnder stronger s)
    (weaken : ∀ s action, stronger s action → allowed s action) :
    m.ReachableUnder allowed s := by
  induction reached with
  | initial start => exact .initial start
  | step _ ok step ih => exact .step ih (weaken _ _ ok) step

theorem reachable (reached : m.ReachableUnder allowed s) : m.Reachable s :=
  reached.mono fun _ _ _ => trivial

/-- The induction rule for safety: a property that holds at the start and is kept by every
allowed step from a reached state holds in every reached state. -/
theorem invariant (reached : m.ReachableUnder allowed s) (Good : State → Prop)
    (start : ∀ s, m.initial s → Good s)
    (keep : ∀ s action t, m.ReachableUnder allowed s → Good s → allowed s action →
      m.step s action = some t → Good t) : Good s := by
  induction reached with
  | initial h => exact start _ h
  | step before ok step ih => exact keep _ _ _ before ih ok step

/-- A run of a finer machine is a run of a coarser one: each of its steps is a step there, or
does not show. `Good` is what the finer machine keeps besides. -/
theorem simulates {Coarse : Type*} {Move : Type*} {coarse : Machine Coarse Move}
    {permitted : Coarse → Move → Prop} (reached : m.ReachableUnder allowed s)
    (view : State → Coarse) (Good : State → Prop)
    (start : ∀ s, m.initial s → Good s ∧ coarse.initial (view s))
    (keep : ∀ s action t, Good s → allowed s action → m.step s action = some t →
      Good t ∧ (view t = view s ∨
        ∃ move, permitted (view s) move ∧ coarse.step (view s) move = some (view t))) :
    Good s ∧ coarse.ReachableUnder permitted (view s) := by
  induction reached with
  | initial h => exact ⟨(start _ h).1, .initial (start _ h).2⟩
  | step _ ok step ih =>
      obtain ⟨good, still | ⟨move, may, moved⟩⟩ := keep _ _ _ ih.1 ok step
      · exact ⟨good, still ▸ ih.2⟩
      · exact ⟨good, .step ih.2 may moved⟩

end ReachableUnder

/-- What a run does to a reached state is reached as well. -/
theorem Reachable.run {s t : State} {actions : List Action} (reached : m.Reachable s)
    (executed : m.run s actions = some t) : m.Reachable t := by
  induction actions generalizing s with
  | nil =>
      cases executed
      exact reached
  | cons action rest ih =>
      obtain ⟨middle, step, executed⟩ := run_cons_eq_some.mp executed
      exact ih (.step reached trivial step) executed

/-- Execute a list of actions and check a condition in front of every step. -/
def runUnder (m : Machine State Action) (allowed : State → Action → Prop)
    [∀ s action, Decidable (allowed s action)] : State → List Action → Option State
  | s, [] => some s
  | s, action :: rest =>
      if allowed s action then
        match m.step s action with
        | none => none
        | some t => m.runUnder allowed t rest
      else none

/-- A checked run witnesses restricted reachability. -/
theorem ReachableUnder.run {allowed : State → Action → Prop}
    [∀ s action, Decidable (allowed s action)] {s t : State} {actions : List Action}
    (reached : m.ReachableUnder allowed s) (executed : m.runUnder allowed s actions = some t) :
    m.ReachableUnder allowed t := by
  induction actions generalizing s with
  | nil =>
      cases executed
      exact reached
  | cons action rest ih =>
      simp only [runUnder] at executed
      split at executed
      · rename_i permitted
        cases step : m.step s action with
        | none => simp [step] at executed
        | some middle =>
            simp only [step] at executed
            exact ih (.step reached permitted step) executed
      · cases executed

/-- A run that ends in a state with a decidable property has an end with this property. -/
theorem exists_of_map (Good : State → Prop) [DecidablePred Good] {outcome : Option State}
    (holds : outcome.map (fun s => decide (Good s)) = some true) :
    ∃ s, outcome = some s ∧ Good s := by
  cases outcome with
  | none => cases holds
  | some s => exact ⟨s, rfl, by simpa using holds⟩

/-- The end of a run from an initial state is reachable. -/
theorem reachable_of_run {s t : State} {actions : List Action} (start : m.initial s)
    (executed : m.run s actions = some t) : m.Reachable t :=
  Reachable.run (.initial start) executed

/-- The runs of a machine from one state on. -/
def startingIn (m : Machine State Action) (s : State) : Machine State Action :=
  { m with initial := (· = s) }

/-- A part of a run belongs to the whole run. -/
theorem Reachable.startingIn {allowed : State → Action → Prop} {s t : State}
    (reached : m.Reachable s) (part : (m.startingIn s).ReachableUnder allowed t) :
    m.Reachable t := by
  induction part with
  | initial start =>
      cases start
      exact reached
  | step _ _ step ih => exact .step ih trivial step

end Machine
