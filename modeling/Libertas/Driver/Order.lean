import Libertas.Driver.Ownership

/-!
# The order of the command queue

`cmdpendingq` is written by three parties: a call puts its command at the end, or at the
head if it is EXIT_PS and the card saves power, the main thread puts a command that
timed out back to the head, and it takes the head when it executes the next command.
The test of the head and its removal are apart, so an EXIT_PS command may get in front
of the command that is being taken.

Two commands in the queue keep their order as long as both are there, and the first of
them is taken first.
-/

namespace Libertas

namespace Sys

variable {s t : Sys} {c : CallId} {n m : NodeId} {success : Bool}

/-- What a step does to `cmdpendingq`. -/
inductive QueueMove (s t : Sys) : Action → Prop
  | keeps {action : Action} : t.priv.cmdpendingq = s.priv.cmdpendingq → QueueMove s t action
  | inserts {c : CallId} {n : NodeId} {tail : Bool} : (s.client c).phase = .insert n tail →
      t.priv.cmdpendingq =
        (if tail then s.priv.cmdpendingq ++ [n] else n :: s.priv.cmdpendingq) →
      QueueMove s t (.client c)
  | requeues {success : Bool} {c : CallId} {n : NodeId} : s.main = .requeue n →
      t.priv.cmdpendingq = n :: s.priv.cmdpendingq → QueueMove s t (.main success c)
  | takes {success : Bool} {c : CallId} {n : NodeId} : s.main = .head n →
      (headAction s.priv.psstate (s.priv.cmdArray n).cmdbuf).takes = true →
      t.priv.cmdpendingq = s.priv.cmdpendingq.erase n → QueueMove s t (.main success c)

theorem clientStep_queue (stepped : s.clientStep c = some t) : QueueMove s t (.client c) := by
  cases phase : (s.client c).phase <;> simp only [clientStep, phase, reduceCtorEq] at stepped
  case alloc =>
    split at stepped <;> cases stepped
    · exact .keeps rfl
    · rename_i n cs got
      obtain ⟨rest, free, rfl⟩ := CommandState.lbsGetCmdCtrlNode_eq_some got
      exact .keeps rfl
  case insert n tail =>
    cases stepped
    exact .inserts phase rfl
  case unqueued n =>
    split at stepped
    · split at stepped <;> cases stepped
      exact .keeps rfl
    · cases stepped
      exact .keeps rfl
  case finish n =>
    split at stepped <;> cases stepped
    · exact .keeps rfl
    · exact .keeps (congrArg NodeState.cmdpendingq s.priv.takeRetcode_nodes)
  case fill | abort =>
    cases stepped
    exact .keeps rfl
  case start | stamp | queue | wait =>
    split at stepped <;> cases stepped <;> exact .keeps rfl

theorem headStep_queue (pc : s.main = .head n) (moved : s.headStep n c = some t) :
    QueueMove s t (.main success c) := by
  rw [headStep] at moved
  split at moved
  · cases moved
    exact .keeps rfl
  · cases moved
    exact .keeps rfl
  · obtain ⟨_, rfl⟩ := beginCall_eq_some moved
    exact .keeps rfl
  · rename_i wake ignored
    cases moved
    exact .takes pc (by rw [ignored]; rfl) rfl
  · rename_i submitted
    cases moved
    exact .takes pc (by rw [submitted]; rfl) rfl

theorem mainStep_queue (moved : s.mainStep success c = some t) :
    QueueMove s t (.main success c) := by
  by_cases quiet : s.main.quiet = true
  · exact .keeps (congrArg NodeState.cmdpendingq (mainStep_quiet quiet moved).priv.nodes)
  cases pc : s.main
  all_goals
    simp only [Sys.mainStep, pc] at moved
    have loud := congrArg MainPc.quiet pc
  case process idx =>
    rcases processResponse_cases moved with rfl | ⟨n, accepts⟩
    · exact .keeps rfl
    · refine .keeps ?_
      rcases accepts.outcome with ⟨cmd, _⟩ | ⟨cmd, _⟩
      · have pending := congrArg (fun cs : CommandState => cs.cmdpendingq) cmd
        rw [CommandState.lbsCompleteCommand_cmdpendingq] at pending
        exact pending
      · have pending := congrArg (fun cs : CommandState => cs.cmdpendingq) cmd
        exact pending
  case dispatch idx result =>
    exact .keeps (congrArg (fun cs : CommandState => cs.cmdpendingq) (dispatchStep_frame moved).cmd)
  case complete idx result =>
    cases moved
    refine .keeps ?_
    rw [completeCurCmd]
    split
    · rfl
    · exact CommandState.lbsCompleteCommand_cmdpendingq
  case timeout =>
    cases moved
    refine .keeps ?_
    rw [timeoutStep]
    split
    · dsimp only
      split <;> rfl
    · rfl
  case giveUpFree n =>
    cases moved
    refine .keeps ?_
    simp [CommandState.releaseAsync]
    split <;> rfl
  case requeue n =>
    cases moved
    exact .requeues pc rfl
  case head n => exact headStep_queue pc moved
  case ignore n wake =>
    cases moved
    exact .keeps CommandState.lbsCompleteCommand_cmdpendingq
  case send n =>
    cases moved
    exact .keeps (congrArg NodeState.cmdpendingq (sendCurCmd_nodes s.priv success))
  case response | execute =>
    split at moved
    · first
      | (cases moved; exact .keeps rfl)
      | (split at moved <;> cases moved <;> exact .keeps rfl)
    · cases moved
      exact .keeps rfl
  case clear | giveUpDrop | submit =>
    cases moved
    exact .keeps rfl
  all_goals exact absurd loud quiet

/-- The steps that write to `cmdpendingq`. -/
theorem step_queue {action : Action} (stepped : s.step action = some t) :
    QueueMove s t action := by
  unfold Sys.step at stepped
  split at stepped
  · cases stepped
  cases action with
  | client c => exact clientStep_queue stepped
  | main success c => exact mainStep_queue stepped
  | deliver data =>
      cases stepped
      refine .keeps ?_
      rw [deliverStep]
      split
      · rfl
      · dsimp only
        split <;> rfl
  | call _ _ | stopCard | timerExpire | commandTimerFn =>
      dsimp only at stepped
      split at stepped <;> cases stepped
      exact .keeps rfl
  | hostToCardDone | signal _ | queueEvent _ | remove | kthreadStop | setFwReady | configure _
    | transmit _ _ =>
      cases stepped
      exact .keeps rfl

/-- The main thread takes a command from the queue. -/
def Picks (s : Sys) (n : NodeId) : Action → Prop
  | .main _ _ =>
      s.main = .head n ∧ (headAction s.priv.psstate (s.priv.cmdArray n).cmdbuf).takes = true
  | _ => False

/-- One command waits in front of another, and the main thread has not yet turned to the other. -/
structure InFront (n m : NodeId) (s : Sys) : Prop where
  queued : [n, m].Sublist s.priv.cmdpendingq
  unchosen : s.main ≠ .head m

/-- The head of the queue is not behind another command. -/
theorem head_ne_of_inFront {rest : List NodeId} (owned : s.Owned)
    (queued : [n, m].Sublist s.priv.cmdpendingq) (head : s.priv.cmdpendingq = m :: rest) :
    False := by
  have nodup : (m :: rest).Nodup := head ▸ owned.owned.pending_nodup
  rw [head] at queued
  rcases List.sublist_cons_iff.mp queued with inside | ⟨tail, same, inside⟩
  · exact (List.nodup_cons.mp nodup).1 (inside.subset (by simp))
  · obtain ⟨rfl, rfl⟩ := List.cons.inj same
    exact (List.nodup_cons.mp nodup).1 (inside.subset (by simp))

/-- The main thread turns to the head of the queue only. -/
theorem mainStep_chooses (moved : s.mainStep success c = some t)
    (chosen : t.main.looking = some m) : ∃ rest, s.priv.cmdpendingq = m :: rest := by
  have away : t.main.looking = none → ∃ rest, s.priv.cmdpendingq = m :: rest := fun elsewhere => by
    rw [elsewhere] at chosen
    cases chosen
  by_cases quiet : s.main.quiet = true
  · exact away (mainStep_quiet quiet moved).plain.looking
  cases pc : s.main
  all_goals
    simp only [Sys.mainStep, pc] at moved
    have loud := congrArg MainPc.quiet pc
  case process idx =>
    rcases processResponse_cases moved with rfl | ⟨n, accepts⟩
    · exact away rfl
    · rcases accepts.outcome with ⟨_, main, _⟩ | ⟨_, _, task, _⟩
      · exact away (by rw [main]; rfl)
      · exact away (MainPc.plain_of_answer (congrArg Prod.fst task)).looking
  case dispatch idx result =>
    have task := (dispatchStep_frame moved).task
    exact away (MainPc.plain_of_answer (congrArg Prod.fst task)).looking
  case timeout =>
    cases moved
    apply away
    rw [timeoutStep]
    split
    · dsimp only
      split <;> rfl
    · rfl
  case head n =>
    rw [headStep] at moved
    split at moved
    · cases moved
      exact away rfl
    · cases moved
      exact away rfl
    · obtain ⟨_, rfl⟩ := beginCall_eq_some moved
      exact away rfl
    · cases moved
      exact away rfl
    · cases moved
      exact away rfl
  case execute =>
    split at moved
    · split at moved <;> cases moved
      · exact away rfl
      · rename_i n rest pending
        cases chosen
        exact ⟨rest, pending⟩
    · cases moved
      exact away rfl
  case response =>
    split at moved <;> cases moved <;> exact away rfl
  case complete | clear | giveUpFree | giveUpDrop | requeue | ignore | submit | send =>
    cases moved
    exact away rfl
  all_goals exact absurd loud quiet

/-- Only the main thread moves its control point. -/
theorem step_main {action : Action} (other : ∀ success c, action ≠ .main success c)
    (stepped : s.step action = some t) : t.main = s.main := by
  unfold Sys.step at stepped
  split at stepped
  · cases stepped
  cases action with
  | client c => exact (clientStep_frame stepped).main
  | main success c => exact absurd rfl (other success c)
  | deliver data =>
      cases stepped
      rw [deliverStep]
      split
      · rfl
      · dsimp only
        split <;> rfl
  | call _ _ | stopCard | timerExpire | commandTimerFn =>
      dsimp only at stepped
      split at stepped <;> cases stepped
      rfl
  | hostToCardDone | signal _ | queueEvent _ | remove | kthreadStop | setFwReady | configure _
    | transmit _ _ =>
      cases stepped
      rfl

/-- As long as the first command is not taken, the second one stays behind it. -/
theorem InFront.step {action : Action} (inFront : InFront n m s) (owned : s.Owned)
    (waits : ¬ s.Picks n action) (stepped : s.step action = some t) : InFront n m t := by
  have unchosen : t.main ≠ .head m := by
    intro chosen
    by_cases moves : ∃ success c, action = .main success c
    · obtain ⟨success, c, rfl⟩ := moves
      have moved : s.mainStep success c = some t := by
        unfold Sys.step at stepped
        split at stepped
        · cases stepped
        · exact stepped
      obtain ⟨rest, head⟩ := mainStep_chooses moved (by rw [chosen]; rfl)
      exact head_ne_of_inFront owned inFront.queued head
    · have same := step_main (fun success c same => moves ⟨success, c, same⟩) stepped
      exact inFront.unchosen (same ▸ chosen)
  refine ⟨?_, unchosen⟩
  cases step_queue stepped with
  | keeps same =>
      rw [same]
      exact inFront.queued
  | @inserts c k tail phase inserted =>
      rw [inserted]
      split
      · exact inFront.queued.trans (List.sublist_append_left _ _)
      · exact inFront.queued.trans (List.sublist_cons_self _ _)
  | requeues pc requeued =>
      rw [requeued]
      exact inFront.queued.trans (List.sublist_cons_self _ _)
  | @takes success c k pc takes taken =>
      have other : k ≠ m := by
        rintro rfl
        exact inFront.unchosen pc
      have first : k ≠ n := by
        rintro rfl
        exact waits ⟨pc, takes⟩
      have kept : [n, m].erase k = [n, m] :=
        List.erase_of_not_mem (by simp [other, first])
      rw [taken, ← kept]
      exact inFront.queued.erase k

/-- A command that joins the queue at its end is behind all that wait. -/
theorem inFront_of_insert (owned : s.Owned) (waiting : n ∈ s.priv.cmdpendingq)
    (phase : (s.client c).phase = .insert m true) (stepped : s.clientStep c = some t) :
    InFront n m t := by
  have elsewhere := owned.owned.prepared_elsewhere (c := c) (n := m) (by rw [phase]; rfl)
  refine ⟨?_, fun chosen => ?_⟩
  · simp only [clientStep, phase] at stepped
    cases stepped
    exact (List.singleton_sublist.mpr waiting).append (.refl [m])
  · rw [(clientStep_frame stepped).main] at chosen
    exact elsewhere.2.1 (owned.owned.looking m (by rw [chosen]; rfl))

/-- Two commands of which the second was queued at the end stay in this order as long as the first
one is not taken. -/
theorem inFront_of_run {next : Sys} (reached : driver.ReachableUnder NodesSafe s)
    (waiting : n ∈ s.priv.cmdpendingq) (phase : (s.client c).phase = .insert m true)
    (safe : s.NodesSafe (.client c)) (inserted : s.step (.client c) = some next)
    (run : (driver.startingIn next).ReachableUnder
      (fun u action => u.NodesSafe action ∧ ¬ u.Picks n action) t) : InFront n m t := by
  have stepped : s.clientStep c = some next := by
    unfold Sys.step at inserted
    split at inserted
    · cases inserted
    · exact inserted
  have behind : driver.ReachableUnder NodesSafe t ∧ InFront n m t := by
    refine run.invariant (fun u => driver.ReachableUnder NodesSafe u ∧ InFront n m u) ?_ ?_
    · rintro u rfl
      exact ⟨.step reached safe inserted,
        inFront_of_insert (.of_reachable reached) waiting phase stepped⟩
    · rintro u action v - ⟨before, inFront⟩ ⟨steady, waits⟩ moved
      exact ⟨.step before steady moved, inFront.step (.of_reachable before) waits moved⟩
  exact behind.2

end Sys

/-- A command that is queued at the end stays in the queue behind every command that waits there, as
long as the main thread has not taken the other one. -/
theorem no_overtaking {s next t : Linking} {c : CallId} {n m : NodeId}
    (reached : linking.ReachableUnder (Linking.Apart Sys.NodesSafe) s)
    (waiting : n ∈ s.sys.priv.cmdpendingq)
    (phase : (s.sys.client c).phase = .insert m true)
    (safe : s.Apart Sys.NodesSafe (.act (.client c)))
    (inserted : linking.step s (.act (.client c)) = some next)
    (run : (linking.startingIn next).ReachableUnder
      (Linking.Apart fun u action => u.NodesSafe action ∧ ¬ u.Picks n action) t) :
    [n, m].Sublist t.sys.priv.cmdpendingq ∧ t.sys.main ≠ .head m := by
  obtain ⟨whole, before⟩ := Linking.driver_reachable reached
  obtain ⟨whole', stepped⟩ := Linking.act_step whole safe.2 inserted
  have behind := Sys.inFront_of_run before waiting phase safe.1 stepped
    (Linking.driver_reachable_from whole' run)
  exact ⟨behind.queued, behind.unchosen⟩

/-- Two calls: the command of the first one waits, the second one is about to queue its own. -/
def secondQueuing : List Action :=
  hwSpecQueued ++ .call 1 hwSpecRequest :: List.replicate 5 (.client 1)

/-- The second call queues its command while the first one waits. -/
theorem no_overtaking_second : ∃ s next,
    linking.runUnder (Linking.Apart Sys.NodesSafe) Linking.init (secondQueuing.map .act) =
      some s ∧
    linking.step s (.act (.client 1)) = some next ∧
    [0, 1].Sublist next.sys.priv.cmdpendingq ∧ next.sys.main ≠ .head 1 := by
  obtain ⟨s, executed, waiting, phase, safe, moves⟩ := Machine.exists_of_map
    (fun s : Linking => 0 ∈ s.sys.priv.cmdpendingq ∧
      (s.sys.client 1).phase = .insert 1 true ∧ s.Apart Sys.NodesSafe (.act (.client 1)) ∧
      (linking.step s (.act (.client 1))).isSome = true)
    (show (linking.runUnder (Linking.Apart Sys.NodesSafe) Linking.init
      (secondQueuing.map .act)).map _ = some true by decide +kernel)
  obtain ⟨next, stepped⟩ := Option.isSome_iff_exists.mp moves
  exact ⟨s, next, executed, stepped,
    no_overtaking (.run (.initial rfl) executed) waiting phase safe stepped (.initial rfl)⟩

end Libertas
