import Libertas.Driver.System

/-!
# List operations without the lock

`driver_lock` guards `cmdfreeq` and `cmdpendingq`, but the main thread does not always
take it: `lbs_execute_next_command` unlinks the command it has chosen, `lbs_thread` puts
a timed out command back, and the completion of a command whose retries are spent frees
its node, all without the lock. `list_del` and `list_add` are several loads and stores,
so another party may work on the same queue in the middle of one of them, with the lock
and to no avail: a link that one of them has read is stale when it is stored.

In the machine `linking` such an operation has a beginning, which is the step of the
main thread in `driver`, and an end of its own, and everybody else may step in between.
An operation under the lock stays one step; when the main thread begins in the middle of
it, this step comes behind that beginning. Whoever works on the queue meanwhile tears its
links. Nothing is assumed about torn links: any state may follow. As long as no operation
meets another one, a run is a run of `driver`.
-/

namespace Libertas

/-- A queue of command nodes. -/
inductive CmdQueue
  | cmdfreeq
  | cmdpendingq
deriving DecidableEq, Repr

/-- The command is taken from the queue. -/
def HeadAction.takes : HeadAction → Bool
  | .ignore _ | .submit => true
  | .refuse | .markWakeup | .wakeup => false

namespace Sys

variable (s : Sys)

/-- The queue that the next step of the main thread works on without `driver_lock`. -/
def unlockedQueue : Option CmdQueue :=
  match s.main with
  | .head n =>
      if (headAction s.priv.psstate (s.priv.cmdArray n).cmdbuf).takes then some .cmdpendingq
      else none
  | .requeue _ => some .cmdpendingq
  | .giveUpFree n => if (s.priv.cmdArray n).isAsync then some .cmdfreeq else none
  | _ => none

/-- The queue that an action of another party works on under `driver_lock`. -/
def lockedQueue : Action → Option CmdQueue
  | .client c =>
      match (s.client c).phase with
      | .alloc | .abort _ => some .cmdfreeq
      | .insert _ _ => some .cmdpendingq
      | .finish _ => if (s.client c).req.isCmd then some .cmdfreeq else none
      | _ => none
  | .stopCard => some .cmdpendingq
  | _ => none

end Sys

/-- A state of the driver, with the list operation that the main thread is in the middle of. -/
structure Linking where
  sys : Sys
  /-- The queue whose links the main thread is writing without the lock. -/
  writing : Option CmdQueue
  /-- Another party worked on this queue meanwhile. -/
  torn : Bool

/-- What happens next. -/
inductive LinkingAction
  /-- A step of the driver. One with which the main thread works on a queue without the lock is the
  beginning of this operation. -/
  | act (a : Action)
  /-- The list operation of the main thread is done. -/
  | linked
  /-- What comes of torn links. -/
  | afterwards (sys : Sys)

namespace Linking

/-- No list operation is going on. -/
def init : Linking :=
  { sys := Sys.init, writing := none, torn := false }

variable (s : Linking)

/-- The action works on the queue whose links are being written. -/
def Meets (a : Action) : Prop :=
  s.writing.isSome = true ∧ s.sys.lockedQueue a = s.writing

instance (a : Action) : Decidable (s.Meets a) :=
  inferInstanceAs (Decidable (_ ∧ _))

/-- The effect of a step of the driver. -/
def act (a : Action) : Option Linking :=
  match a with
  | .main success c =>
      -- The main thread is in the middle of its operation.
      if s.writing.isSome then none
      else
        (s.sys.step (.main success c)).map fun t =>
          { sys := t, writing := s.sys.unlockedQueue, torn := false }
  | a => (s.sys.step a).map fun t => { s with sys := t, torn := decide (s.Meets a) }

/-- The effect of an action. -/
def step (a : LinkingAction) : Option Linking :=
  match a with
  | .act a => if s.torn then none else s.act a
  | .linked => if s.torn then none else some { s with writing := none }
  | .afterwards sys => if s.torn then some { s with sys := sys } else none

/-- A step of the driver that satisfies a condition and does not meet the list operation of the
main thread. -/
def Apart (allowed : Sys → Action → Prop) (s : Linking) : LinkingAction → Prop
  | .act a => allowed s.sys a ∧ ¬ s.Meets a
  | .linked | .afterwards _ => True

instance {allowed : Sys → Action → Prop} [∀ s a, Decidable (allowed s a)] (s : Linking) :
    (a : LinkingAction) → Decidable (s.Apart allowed a)
  | .act a => inferInstanceAs (Decidable (allowed s.sys a ∧ ¬ s.Meets a))
  | .linked | .afterwards _ => .isTrue trivial

variable {s}

/-- What an action does to the driver when it meets nothing. -/
theorem act_apart {a : Action} {t : Linking} (apart : ¬ s.Meets a) (acted : s.act a = some t) :
    t.torn = false ∧ s.sys.step a = some t.sys := by
  cases a <;> simp only [act] at acted
  case main success c =>
    split at acted
    · cases acted
    · obtain ⟨next, stepped, rfl⟩ := Option.map_eq_some_iff.mp acted
      exact ⟨rfl, stepped⟩
  all_goals
    obtain ⟨next, stepped, rfl⟩ := Option.map_eq_some_iff.mp acted
    exact ⟨decide_eq_false apart, stepped⟩

end Linking

/-- The driver with the unlocked list operations of its main thread. -/
def linking : Machine Linking LinkingAction where
  initial s := s = Linking.init
  step := Linking.step

namespace Linking

variable {allowed : Sys → Action → Prop} {s t : Linking}

/-- Where the links are whole, an action that meets nothing is a step of the driver. -/
theorem act_step {a : Action} (whole : s.torn = false) (apart : ¬ s.Meets a)
    (stepped : linking.step s (.act a) = some t) :
    t.torn = false ∧ s.sys.step a = some t.sys := by
  simp only [linking, step, whole, Bool.false_eq_true, if_false] at stepped
  exact act_apart apart stepped

/-- A step that meets nothing is a step of the driver, or the end of a list operation. -/
theorem step_apart {a : LinkingAction} (whole : s.torn = false) (apart : s.Apart allowed a)
    (stepped : linking.step s a = some t) :
    t.torn = false ∧ (t.sys = s.sys ∨ ∃ a, allowed s.sys a ∧ s.sys.step a = some t.sys) := by
  cases a with
  | act a =>
      obtain ⟨torn, moved⟩ := act_step whole apart.2 stepped
      exact ⟨torn, .inr ⟨a, apart.1, moved⟩⟩
  | linked =>
      simp only [linking, step, whole, Bool.false_eq_true, if_false] at stepped
      cases stepped
      exact ⟨rfl, .inl rfl⟩
  | afterwards sys => simp [linking, step, whole] at stepped

/-- As long as no list operation meets another one, the links are whole, and what the driver does
is a run of the machine in which these operations are one step. -/
theorem driver_reachable (reached : linking.ReachableUnder (Apart allowed) s) :
    s.torn = false ∧ driver.ReachableUnder allowed s.sys :=
  reached.simulates sys (fun s => s.torn = false) (fun _ start => start ▸ ⟨rfl, rfl⟩)
    fun _ _ _ => step_apart

/-- The same from a given state on. -/
theorem driver_reachable_from (whole : s.torn = false)
    (reached : (linking.startingIn s).ReachableUnder (Apart allowed) t) :
    (driver.startingIn s.sys).ReachableUnder allowed t.sys :=
  (reached.simulates sys (fun t => t.torn = false)
    (fun _ start => ⟨start ▸ whole, congrArg sys start⟩) fun _ _ _ => step_apart).2

end Linking

end Libertas
