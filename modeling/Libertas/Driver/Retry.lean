import Libertas.Driver.Live
import Libertas.Driver.Progress

/-!
# How often a command is submitted

`nr_retries` is one field, while the queue has several commands. It counts for
the command that was submitted last. As long as no other command is submitted
while it is not zero, every command gets its four attempts and no more.
-/

namespace Libertas

/-- The call whose command was submitted. -/
def Event.submission : Event → Option CallId
  | .submitted c => some c
  | _ => none

/-- Attempts are counted by such an event. -/
def Event.counted : Event → Bool
  | .submitted _ | .timedOut _ => true
  | _ => false

/-- The call has taken its node. -/
def Phase.begun : Phase → Bool
  | .idle | .start | .alloc => false
  | _ => true

/-- The call has left its command to the main thread, or has returned. -/
def Phase.queued : Phase → Bool
  | .wait _ | .finish _ | .returned _ => true
  | _ => false

namespace Sys

/-- Every node that is not free was taken by a call of its own. -/
structure Labelled (s : Sys) : Prop where
  begun : ∀ n, n ∉ s.priv.cmdfreeq → (s.client (s.owner n)).phase.begun = true
  distinct : ∀ m n, m ∉ s.priv.cmdfreeq → n ∉ s.priv.cmdfreeq → s.owner m = s.owner n → m = n

/-- No node was taken from `cmdfreeq`. -/
structure NothingTaken (s t : Sys) : Prop where
  owner : t.owner = s.owner
  free : ∀ n, n ∈ s.priv.cmdfreeq → n ∈ t.priv.cmdfreeq

section Owners

variable {s t u : Sys} {c : CallId} {n : NodeId}

theorem NothingTaken.of_nodes (nodes : t.priv.toNodeState = s.priv.toNodeState) :
    NothingTaken s t where
  owner := by
    funext n
    simp only [Sys.owner, congrArg NodeState.cmdArray nodes]
  free n free := congrArg NodeState.cmdfreeq nodes ▸ free

/-- One node is updated, its owner apart. -/
theorem NothingTaken.of_update (others : ∀ m, m ≠ n → t.priv.cmdArray m = s.priv.cmdArray m)
    (same : (t.priv.cmdArray n).owner = (s.priv.cmdArray n).owner)
    (free : ∀ n, n ∈ s.priv.cmdfreeq → n ∈ t.priv.cmdfreeq) : NothingTaken s t where
  owner := by
    funext m
    by_cases here : m = n
    · exact here ▸ same
    · simp only [Sys.owner, others m here]
  free := free

theorem NothingTaken.letGo (gone : LetGo n s.priv.toNodeState t.priv.toNodeState)
    (free : ∀ n, n ∈ s.priv.cmdfreeq → n ∈ t.priv.cmdfreeq) : NothingTaken s t :=
  .of_update gone.others gone.owner free

/-- Completing a command takes no node. -/
theorem NothingTaken.complete (cs : CommandState) (n : NodeId) (result : Int)
    (same : cs.toNodeState = s.priv.toNodeState)
    (completed : t.priv.toNodeState = (cs.lbsCompleteCommand n result).toNodeState) :
    NothingTaken s t := by
  have gone := LetGo.complete cs n result
  rw [← completed, same] at gone
  refine .letGo gone fun m free => ?_
  rw [completed]
  rw [← same] at free
  have kept : m ∈ (cs.recordResult n result).cmdfreeq := free
  exact CommandState.mem_releaseAsync kept

theorem NothingTaken.processResponse {idx : Fin 2} (processed : s.processResponse idx c = some t) :
    NothingTaken s t := by
  rcases processResponse_cases processed with rfl | ⟨n, accepts⟩
  · exact .of_nodes rfl
  · rcases accepts.outcome with ⟨cmd, _, _⟩ | ⟨cmd, _⟩
    · exact .complete _ n _ (acceptResponse_nodes _ _) (congrArg CommandState.toNodeState cmd)
    · exact .of_nodes ((congrArg CommandState.toNodeState cmd).trans (acceptResponse_nodes _ _))

theorem NothingTaken.timeout : NothingTaken s s.timeoutStep := by
  rw [timeoutStep]
  split
  · rename_i n timedOut current
    dsimp only
    split
    · exact .letGo (.record _ n _) fun _ => id
    · exact ⟨rfl, fun _ => id⟩
  · exact .of_nodes rfl

/-- The main thread takes no node. -/
theorem NothingTaken.mainStep {success : Bool} (moved : s.mainStep success c = some t) :
    NothingTaken s t := by
  by_cases quiet : s.main.quiet = true
  · exact .of_nodes (mainStep_quiet quiet moved).priv.nodes
  cases pc : s.main
  all_goals simp only [Sys.mainStep, pc] at moved
  case process idx => exact .processResponse moved
  case dispatch idx result =>
    exact .of_nodes (congrArg CommandState.toNodeState (dispatchStep_frame moved).cmd)
  case response =>
    split at moved <;> cases moved <;> exact .of_nodes rfl
  case complete idx result =>
    cases moved
    cases current : s.priv.curCmd with
    | none => exact .of_nodes (by simp [completeCurCmd, current])
    | some n =>
        exact .complete s.priv.toCommandState n result.toNat rfl
          (by simp [completeCurCmd, current])
  case timeout =>
    cases moved
    exact .timeout
  case giveUpFree n =>
    cases moved
    exact .letGo (.release s.priv.toCommandState n) fun _ => CommandState.mem_releaseAsync
  case execute =>
    split at moved
    · split at moved <;> cases moved <;> exact .of_nodes rfl
    · cases moved
      exact .of_nodes rfl
  case head n =>
    rw [headStep] at moved
    split at moved
    case h_3 =>
      obtain ⟨_, rfl⟩ := beginCall_eq_some moved
      exact .of_nodes rfl
    all_goals
      cases moved
      exact ⟨rfl, fun _ => id⟩
  case ignore n wake =>
    cases moved
    exact .complete s.priv.toCommandState n 0 rfl rfl
  case send n =>
    cases moved
    exact .of_nodes (by simp)
  case clear | giveUpDrop | requeue | submit =>
    cases moved
    exact ⟨rfl, fun _ => id⟩
  all_goals exact absurd (congrArg MainPc.quiet pc) quiet

theorem Labelled.kept (labelled : s.Labelled) (nothing : NothingTaken s t)
    (clients : ∀ d, (s.client d).phase.begun = true → (t.client d).phase.begun = true) :
    t.Labelled where
  begun n taken := by
    rw [nothing.owner]
    exact clients _ (labelled.begun n fun free => taken (nothing.free n free))
  distinct m n takenM takenN same := by
    rw [nothing.owner] at same
    exact labelled.distinct m n (fun free => takenM (nothing.free m free))
      (fun free => takenN (nothing.free n free)) same

/-- A call takes the first free node. -/
structure Takes (c : CallId) (n : NodeId) (s t : Sys) : Prop where
  free : n ∈ s.priv.cmdfreeq
  alloc : (s.client c).phase = .alloc
  fill : (t.client c).phase = .fill n
  owner : t.owner n = c
  others : ∀ m, m ≠ n → t.owner m = s.owner m ∧ (m ∈ s.priv.cmdfreeq → m ∈ t.priv.cmdfreeq)

/-- A call takes a node only in `lbs_get_cmd_ctrl_node`. -/
theorem clientStep_takes (stepped : s.clientStep c = some t) :
    NothingTaken s t ∨ ∃ n, Takes c n s t := by
  cases phase : (s.client c).phase <;> simp only [Sys.clientStep, phase, reduceCtorEq] at stepped
  case start =>
    split at stepped <;> cases stepped <;> exact .inl (.of_nodes rfl)
  case alloc =>
    split at stepped <;> cases stepped
    · exact .inl (.of_nodes rfl)
    · rename_i n cs got
      obtain ⟨rest, free, rfl⟩ := CommandState.lbsGetCmdCtrlNode_eq_some got
      refine .inr ⟨n, by simp [free], phase, by simp, by simp [Sys.owner], fun m other => ⟨?_, ?_⟩⟩
      · simp [Sys.owner, CommandState.modifyNode_of_ne other]
      · simp [free, other]
  case fill n =>
    cases stepped
    refine .inl (.of_update (n := n) (fun m other => ?_) ?_ fun _ => id)
    · simp [CommandState.initNode, CommandState.modifyNode_of_ne other]
    · simp [CommandState.initNode]
  case stamp n =>
    split at stepped <;> cases stepped
    · exact .inl (.of_nodes rfl)
    · exact .inl (.of_nodes rfl)
    · refine .inl (.of_update (n := n) (fun m other => ?_) ?_ fun _ => id)
      · exact CommandState.modifyNode_of_ne other
      · simp [CommandState.stampNode]
  case abort n =>
    cases stepped
    refine .inl (.of_update (n := n) (fun m other => ?_) ?_ fun _ => List.mem_append_left _)
    · exact CommandState.lbsCleanupAndInsertCmd_of_ne other
    · simp [CommandState.lbsCleanupAndInsertCmd]
  case queue n =>
    split at stepped <;> cases stepped
    · exact .inl (.of_nodes rfl)
    · refine .inl (.of_update (n := n) (fun m other => ?_) ?_ fun _ => id)
      · exact CommandState.modifyNode_of_ne other
      · simp [CommandState.clearResult]
  case insert n tail =>
    cases stepped
    exact .inl ⟨rfl, fun _ => id⟩
  case unqueued n =>
    split at stepped
    · split at stepped <;> cases stepped
      exact .inl (.of_nodes rfl)
    · cases stepped
      exact .inl (.of_nodes rfl)
  case wait n =>
    split at stepped <;> cases stepped
    exact .inl (.of_nodes rfl)
  case finish n =>
    split at stepped <;> cases stepped
    · refine .inl (.of_update (n := n) (fun m other => ?_) ?_ fun _ => List.mem_append_left _)
      · exact CommandState.lbsCleanupAndInsertCmd_of_ne other
      · simp [CommandState.lbsCleanupAndInsertCmd]
    · exact .inl (.of_nodes (by simp))

/-- A call does not go back. -/
theorem clientStep_onward (stepped : s.clientStep c = some t) (d : CallId) :
    ((s.client d).phase.begun = true → (t.client d).phase.begun = true) ∧
      ((s.client d).phase.queued = true → (t.client d).phase.queued = true) := by
  obtain ⟨next, _, client⟩ := (clientStep_frame stepped).client
  by_cases mine : d = c
  · subst mine
    cases phase : (s.client d).phase <;>
      simp only [Sys.clientStep, phase, reduceCtorEq] at stepped <;>
      simp only [Phase.begun, Phase.queued, reduceCtorEq, false_implies, and_true, true_implies]
    case fill n =>
      cases stepped
      simp
    case stamp n =>
      split at stepped <;> cases stepped <;> simp
    case abort n =>
      cases stepped
      simp
    case queue n =>
      split at stepped <;> cases stepped <;> simp
    case insert n tail =>
      cases stepped
      by_cases waits : (s.client d).req.waits = true
      · simp [waits]
      · by_cases async : (s.client d).req.kind = .cmdAsync <;> simp [waits, async]
    case unqueued n =>
      split at stepped
      · split at stepped <;> cases stepped
        simp
      · cases stepped
        by_cases async : (s.client d).req.kind = .cmdAsync <;> simp [async]
    case wait n =>
      split at stepped <;> cases stepped
      simp
    case finish n =>
      split at stepped <;> cases stepped <;> simp
  · rw [client, setPhase_client_of_ne mine]
    exact ⟨id, id⟩

theorem Labelled.client (labelled : s.Labelled) (stepped : s.clientStep c = some t) :
    t.Labelled := by
  have onward := fun d => (clientStep_onward stepped d).1
  rcases clientStep_takes stepped with nothing | ⟨n, takes⟩
  · exact labelled.kept nothing onward
  have stranger : ∀ m, m ∉ s.priv.cmdfreeq → s.owner m ≠ c := by
    rintro m taken rfl
    have begun := labelled.begun m taken
    rw [takes.alloc] at begun
    cases begun
  have before : ∀ m, m ≠ n → m ∉ t.priv.cmdfreeq → m ∉ s.priv.cmdfreeq :=
    fun m other taken free => taken ((takes.others m other).2 free)
  refine ⟨fun m taken => ?_, fun m k takenM takenK same => ?_⟩
  · by_cases here : m = n
    · rw [here, takes.owner, takes.fill]
      rfl
    · rw [(takes.others m here).1]
      exact onward _ (labelled.begun m (before m here taken))
  · by_cases hereM : m = n <;> by_cases hereK : k = n
    · exact hereM.trans hereK.symm
    · rw [hereM, takes.owner, (takes.others k hereK).1] at same
      exact absurd same.symm (stranger k (before k hereK takenK))
    · rw [hereK, takes.owner, (takes.others m hereM).1] at same
      exact absurd same (stranger m (before m hereM takenM))
    · rw [(takes.others m hereM).1, (takes.others k hereK).1] at same
      exact labelled.distinct m k (before m hereM takenM) (before k hereK takenK) same

theorem SameClients.onward (clients : SameClients s t) (d : CallId) :
    ((s.client d).phase.begun = true → t.client d = s.client d) ∧
      ((t.client d).phase.queued = true ↔ (s.client d).phase.queued = true) := by
  rcases clients with same | ⟨e, req, idle, _, _, began⟩
  · rw [same]
    exact ⟨fun _ => rfl, .rfl⟩
  · rw [began]
    by_cases mine : d = e
    · subst mine
      simp [idle, Phase.begun, Phase.queued]
    · simp [mine]

theorem SameClients.mainStep {success : Bool} (moved : s.mainStep success c = some t) :
    SameClients s t := by
  by_cases quiet : s.main.quiet = true
  · exact (mainStep_quiet quiet moved).clients
  cases pc : s.main
  all_goals simp only [Sys.mainStep, pc] at moved
  case process idx =>
    rcases processResponse_cases moved with rfl | ⟨n, accepts⟩
    · exact .inl rfl
    · exact accepts.clients
  case dispatch idx result => exact (dispatchStep_frame moved).clients
  case complete idx result =>
    cases moved
    exact .inl (by simp)
  case timeout =>
    cases moved
    rw [timeoutStep]
    split
    · dsimp only
      split <;> exact .inl rfl
    · exact .inl rfl
  case execute =>
    split at moved
    · split at moved <;> cases moved <;> exact .inl rfl
    · cases moved
      exact .inl rfl
  case head n =>
    rw [headStep] at moved
    split at moved
    case h_3 =>
      obtain ⟨idle, rfl⟩ := beginCall_eq_some moved
      exact .inr ⟨c, psWakeupRequest, idle, rfl, rfl, rfl⟩
    all_goals
      cases moved
      exact .inl rfl
  case response =>
    split at moved <;> cases moved <;> exact .inl rfl
  case clear | giveUpFree | giveUpDrop | requeue | ignore | submit | send =>
    cases moved
    exact .inl rfl
  all_goals exact absurd (congrArg MainPc.quiet pc) quiet

/-- A call queues its command. -/
theorem clientStep_inserts {tail : Bool} (phase : (s.client c).phase = .insert n tail)
    (stepped : s.clientStep c = some t) :
    t.priv.cmdArray = s.priv.cmdArray ∧ (t.client c).phase =
      if (s.client c).req.waits then .wait n
      else if (s.client c).req.kind = .cmdAsync then .returned 0 else .finish n := by
  simp only [Sys.clientStep, phase] at stepped
  cases stepped
  exact ⟨rfl, by simp⟩

theorem queued_of_inserted {tail : Bool} (phase : (s.client c).phase = .insert n tail)
    (stepped : s.clientStep c = some t) : (t.client c).phase.queued = true := by
  rw [(clientStep_inserts phase stepped).2]
  by_cases waits : (s.client c).req.waits = true
  · simp [waits, Phase.queued]
  · by_cases async : (s.client c).req.kind = .cmdAsync <;> simp [waits, async, Phase.queued]

/-- A call neither counts retries nor changes whether a command timed out. -/
theorem clientStep_retries (stepped : s.clientStep c = some t) :
    t.priv.nrRetries = s.priv.nrRetries ∧ t.priv.cmdTimedOut = s.priv.cmdTimedOut := by
  cases phase : (s.client c).phase <;> simp only [Sys.clientStep, phase, reduceCtorEq] at stepped
  case alloc =>
    split at stepped <;> cases stepped
    · exact ⟨rfl, rfl⟩
    · rename_i n cs got
      obtain ⟨rest, free, rfl⟩ := CommandState.lbsGetCmdCtrlNode_eq_some got
      exact ⟨rfl, rfl⟩
  case unqueued n =>
    split at stepped
    · split at stepped <;> cases stepped
      exact ⟨rfl, rfl⟩
    · cases stepped
      exact ⟨rfl, rfl⟩
  case finish n =>
    split at stepped <;> cases stepped
    · exact ⟨rfl, rfl⟩
    · show s.priv.takeRetcode.1.nrRetries = s.priv.nrRetries ∧
        s.priv.takeRetcode.1.cmdTimedOut = s.priv.cmdTimedOut
      rw [CommandState.takeRetcode]
      split <;> exact ⟨rfl, rfl⟩
  case fill | abort | insert =>
    cases stepped
    exact ⟨rfl, rfl⟩
  case start | stamp | queue | wait =>
    split at stepped <;> cases stepped <;> exact ⟨rfl, rfl⟩

/-- A step of neither a call nor the main thread: no call moves on, and no command is moved. -/
structure Aside (action : Action) (s t : Sys) : Prop where
  nothing : NothingTaken s t
  pending : t.priv.cmdpendingq = s.priv.cmdpendingq
  current : t.priv.curCmd = s.priv.curCmd
  retries : t.priv.nrRetries = s.priv.nrRetries
  array : action ≠ .stopCard → t.priv.cmdArray = s.priv.cmdArray
  main : t.main = s.main
  clients : ∀ d, ((s.client d).phase = .idle ∧ (t.client d).phase = .start) ∨
    ((t.client d).phase = (s.client d).phase ∧ (t.client d).req = (s.client d).req)

/-- Such a step, as long as it leaves the nodes and the calls alone. -/
theorem Aside.still {action : Action} (nodes : t.priv.toNodeState = s.priv.toNodeState)
    (retries : t.priv.nrRetries = s.priv.nrRetries) (main : t.main = s.main)
    (client : t.client = s.client) : Aside action s t where
  nothing := .of_nodes nodes
  pending := congrArg NodeState.cmdpendingq nodes
  current := congrArg NodeState.curCmd nodes
  retries := retries
  array _ := congrArg NodeState.cmdArray nodes
  main := main
  clients d := .inr (by rw [client]; exact ⟨rfl, rfl⟩)

theorem Aside.onward {action : Action} (aside : Aside action s t) (d : CallId) :
    (t.client d).phase.begun = (s.client d).phase.begun ∧
      (t.client d).phase.queued = (s.client d).phase.queued := by
  rcases aside.clients d with ⟨idle, start⟩ | ⟨same, _⟩
  · rw [idle, start]
    exact ⟨rfl, rfl⟩
  · rw [same]
    exact ⟨rfl, rfl⟩

theorem step_aside {action : Action} (stepped : s.step action = some t)
    (elsewhere : (∀ c, action ≠ .client c) ∧ ∀ success c, action ≠ .main success c) :
    Aside action s t := by
  unfold Sys.step at stepped
  split at stepped
  · cases stepped
  cases action with
  | client c => exact absurd rfl (elsewhere.1 c)
  | main success c => exact absurd rfl (elsewhere.2 success c)
  | call c req =>
      dsimp only at stepped
      split at stepped <;> cases stepped
      rename_i idle
      refine ⟨.of_nodes rfl, rfl, rfl, rfl, fun _ => rfl, rfl, fun d => ?_⟩
      by_cases mine : d = c
      · exact .inl ⟨mine ▸ idle, by simp [mine]⟩
      · exact .inr (by simp [mine])
  | signal c =>
      cases stepped
      refine ⟨.of_nodes rfl, rfl, rfl, rfl, fun _ => rfl, rfl, fun d => .inr ?_⟩
      by_cases mine : d = c
      · simp [mine]
      · simp [mine]
  | stopCard =>
      dsimp only at stepped
      split at stepped <;> cases stepped
      refine ⟨⟨?_, fun _ => id⟩, rfl, rfl, rfl, fun other => absurd rfl other, rfl,
        fun _ => .inr ⟨rfl, rfl⟩⟩
      funext n
      simp only [Sys.owner, CommandState.flushPending]
      split <;> rfl
  | deliver data =>
      cases stepped
      rw [deliverStep]
      split
      · exact .still rfl rfl rfl rfl
      · dsimp only
        split <;> exact .still rfl rfl rfl rfl
  | timerExpire | commandTimerFn =>
      dsimp only at stepped
      split at stepped <;> cases stepped
      exact .still rfl rfl rfl rfl
  | queueEvent _ | hostToCardDone | remove | kthreadStop | setFwReady | configure _
    | transmit _ _ =>
      cases stepped
      exact .still rfl rfl rfl rfl

theorem Labelled.step {action : Action} (labelled : s.Labelled)
    (stepped : s.step action = some t) : t.Labelled := by
  by_cases client : ∃ c, action = .client c
  · obtain ⟨c, rfl⟩ := client
    rw [Sys.step] at stepped
    split at stepped
    · cases stepped
    · exact labelled.client stepped
  by_cases main : ∃ success c, action = .main success c
  · obtain ⟨success, c, rfl⟩ := main
    rw [Sys.step] at stepped
    split at stepped
    · cases stepped
    · refine labelled.kept (.mainStep stepped) fun d begun => ?_
      rw [((SameClients.mainStep stepped).onward d).1 begun]
      exact begun
  · have aside := step_aside stepped
      ⟨not_exists.mp client, fun success c same => main ⟨success, c, same⟩⟩
    exact labelled.kept aside.nothing fun d begun => (aside.onward d).1 ▸ begun

theorem Labelled.init : Sys.init.Labelled where
  begun n taken := absurd (List.mem_finRange n) taken
  distinct m _ taken := absurd (List.mem_finRange m) taken

end Owners

/-- The calls whose commands were submitted, in this order. -/
def submissions (s : Sys) : List CallId :=
  s.trace.filterMap Event.submission

/-- How often the command of a call was submitted. -/
def tries (s : Sys) (c : CallId) : Nat :=
  s.submissions.count c

/-- The command of the node waits for its submission. -/
def Queued (s : Sys) (n : NodeId) : Prop :=
  n ∈ s.priv.cmdpendingq ∨ s.main.transit = some n

/-- The command of the node is in flight and not being given up. -/
def InFlight (s : Sys) (n : NodeId) : Prop :=
  s.main.givingUp = none ∧ s.priv.curCmd = some n

/-- The command of the node was submitted last, this often. -/
def Tried (s : Sys) (n : NodeId) (times : Nat) : Prop :=
  s.submissions.getLast? = some (s.owner n) ∧ s.tries (s.owner n) = times

/-- While `nr_retries` is not zero, only the command that was submitted last is submitted. -/
def InTurn (s : Sys) : Prop :=
  ∀ n, s.main = .submit n → s.priv.nrRetries ≠ 0 → s.submissions.getLast? = some (s.owner n)

/-- The steps under which the attempts are counted for the right command. -/
def RetrySafe (s : Sys) (action : Action) : Prop :=
  s.HeldSafe action ∧ ((∃ success c, action = .main success c) → s.InTurn)

/-- `nr_retries` counts the attempts of the command that was submitted last. -/
structure Budget (s : Sys) : Prop where
  held : s.Held
  labelled : s.Labelled
  handed : ∀ n, s.InHand n → (s.client (s.owner n)).phase.queued = true
  early : ∀ c, (s.client c).phase.queued = false → s.tries c = 0
  waiting : ∀ n, s.Queued n → s.tries (s.owner n) = 0 ∨
    (s.priv.nrRetries ≠ 0 ∧ s.priv.nrRetries ≤ 3 ∧ s.Tried n s.priv.nrRetries)
  last : ∀ n, s.InFlight n → s.submissions.getLast? = some (s.owner n)
  flight : ∀ n, s.InFlight n → s.main.answer = none →
    s.priv.nrRetries ≤ 3 ∧ s.Tried n (s.priv.nrRetries + 1)
  spent : s.main.givingUp ≠ none → 3 < s.priv.nrRetries
  bounded : ∀ c, s.tries c ≤ 4
  timedOut : ∀ c, .timedOut c ∈ s.trace → s.tries c = 4

section Budget

variable {s t : Sys} {c : CallId} {n m : NodeId}

theorem tries_ne_zero (last : s.submissions.getLast? = some c) : s.tries c ≠ 0 := by
  have member := List.mem_of_getLast? last
  exact Nat.pos_iff_ne_zero.mp (List.count_pos_iff.mpr member)

theorem Queued.inHand (queued : s.Queued n) : s.InHand n :=
  queued.elim .inl fun transit => .inr (.inl transit)

theorem Queued.before (queued : t.Queued n) (pending : t.priv.cmdpendingq = s.priv.cmdpendingq)
    (transit : t.main.transit = none) : s.Queued n := by
  rcases queued with inPending | inTransit
  · exact .inl (pending ▸ inPending)
  · rw [transit] at inTransit
    cases inTransit

theorem InFlight.inHand (flight : s.InFlight n) : s.InHand n :=
  .inr (.inr flight)

/-- A command under way is in no free node. -/
theorem Held.not_free (held : s.Held) (inHand : s.InHand n) : n ∉ s.priv.cmdfreeq :=
  fun free => held.untouched inHand 0 (.inr (.inl free))

/-- A command in flight waits for nothing else. -/
theorem Held.not_queued (held : s.Held) (flight : s.InFlight n) : ¬ s.Queued n := by
  have owned := (held.settled flight.1).owned
  rintro (pending | transit)
  · exact (owned.held_elsewhere (.inl flight.2)).2.1 pending
  · have clash := owned.exclusive.eq (p := .current) (q := .transit) flight.2 transit
    cases clash

/-- The main thread moves commands on without counting an attempt. -/
structure PassesOn (s t : Sys) : Prop where
  retries : t.priv.nrRetries = s.priv.nrRetries
  queued : ∀ n, t.Queued n → s.Queued n
  flight : ∀ n, t.InFlight n → s.InFlight n ∧ (t.main.answer = none → s.main.answer = none)
  spent : t.main.givingUp ≠ none → s.main.givingUp ≠ none

theorem processEvent_retries {e : UInt32} {success : Bool}
    (processed : s.processEvent e success c = some t) :
    t.priv.nrRetries = s.priv.nrRetries := by
  have lost := congrArg (fun core => core.1.nrRetries) (lbsMacEventDisconnected_core s.priv 0)
  rw [processEvent] at processed
  split at processed
  · dsimp only at processed
    split at processed
    · obtain ⟨_, rfl⟩ := beginCall_eq_some processed
      exact lost
    · cases processed
      exact lost
  split at processed
  · split at processed <;> cases processed <;> rfl
  split at processed
  · cases processed
    simp
  split at processed
  · split at processed
    · cases processed
      rfl
    · dsimp only at processed
      split at processed
      · obtain ⟨_, rfl⟩ := beginCall_eq_some processed
        rfl
      · cases processed
        rfl
  split at processed
  · cases processed
    dsimp only
    split <;> rfl
  · cases processed
    rfl

/-- `nr_retries` is written when a response is accepted, when a command timed out, and when it was
given up. -/
theorem mainStep_retries {success : Bool} (moved : s.mainStep success c = some t)
    (elsewhere : (∀ idx, s.main ≠ .process idx) ∧ s.main ≠ .timeout ∧
      ∀ n, s.main ≠ .giveUpDrop n) :
    t.priv.nrRetries = s.priv.nrRetries := by
  cases pc : s.main
  all_goals simp only [Sys.mainStep, pc] at moved
  case process idx => exact absurd pc (elsewhere.1 idx)
  case timeout => exact absurd pc elsewhere.2.1
  case giveUpDrop n => exact absurd pc (elsewhere.2.2 n)
  case dispatch idx result =>
    exact congrArg CommandState.nrRetries (dispatchStep_frame moved).cmd
  case event e => exact processEvent_retries moved
  case complete idx result =>
    cases moved
    unfold completeCurCmd CommandState.lbsCompleteCommand CommandState.releaseAsync
    split
    · rfl
    · dsimp only
      split <;> rfl
  case ignore n wake =>
    cases moved
    rw [CommandState.lbsCompleteCommand, CommandState.releaseAsync]
    split <;> rfl
  case giveUpFree n =>
    cases moved
    rw [CommandState.releaseAsync]
    split <;> rfl
  case head n =>
    rw [headStep] at moved
    split at moved
    case h_3 =>
      obtain ⟨_, rfl⟩ := beginCall_eq_some moved
      rfl
    all_goals
      cases moved
      rfl
  case goSleep =>
    split at moved
    · obtain ⟨_, rfl⟩ := beginCall_eq_some moved
      rfl
    · cases moved
      rfl
  case tx =>
    cases moved
    rw [txStep]
    split <;> rfl
  case stopped => cases moved
  case confirmSend | send =>
    cases moved
    simp [sendCurCmd]
  case top | sleeping | clear | requeue | timeoutClear | ready | confirmSet | blocked | submit =>
    cases moved
    rfl
  case calling | response | events | confirm =>
    split at moved <;> cases moved <;> rfl
  case awake | presleep | execute =>
    split at moved
    · first
      | (cases moved; rfl)
      | (split at moved <;> cases moved <;> rfl)
    · first
      | (cases moved; rfl)
      | (split at moved <;> cases moved <;> rfl)

theorem PassesOn.quiet (retries : t.priv.nrRetries = s.priv.nrRetries)
    (nodes : t.priv.toNodeState = s.priv.toNodeState) (plain : t.main.Plain)
    (kept : s.main.givingUp = none) (answer : t.main.answer = none → s.main.answer = none) :
    PassesOn s t where
  retries := retries
  queued _ queued := queued.before (congrArg NodeState.cmdpendingq nodes) plain.transit
  flight _ flight := ⟨⟨kept, congrArg NodeState.curCmd nodes ▸ flight.2⟩, answer⟩
  spent givingUp := absurd plain.givingUp givingUp

/-- The main thread completes a command, and then has none in flight. -/
theorem PassesOn.done (retries : t.priv.nrRetries = s.priv.nrRetries)
    (pending : t.priv.cmdpendingq = s.priv.cmdpendingq) (plain : t.main.Plain)
    (current : t.priv.curCmd = none) : PassesOn s t where
  retries := retries
  queued _ queued := queued.before pending plain.transit
  flight _ flight := by
    have := flight.2
    rw [current] at this
    cases this
  spent givingUp := absurd plain.givingUp givingUp

theorem mainStep_passes {success : Bool} (moved : s.mainStep success c = some t)
    (looking : ∀ n, s.main.looking = some n → n ∈ s.priv.cmdpendingq)
    (elsewhere : (∀ idx, s.main ≠ .process idx) ∧ s.main ≠ .timeout ∧
      ∀ n, s.main ≠ .giveUpDrop n) (notSubmit : ∀ n, s.main ≠ .submit n) : PassesOn s t := by
  have retries := mainStep_retries moved elsewhere
  by_cases quiet : s.main.quiet = true
  · have step := mainStep_quiet quiet moved
    refine .quiet retries step.priv.nodes step.plain (MainPc.givingUp_of_quiet quiet) ?_
    intro answered
    exact (congrArg Prod.fst step.task).symm.trans answered
  cases pc : s.main
  all_goals
    simp only [Sys.mainStep, pc] at moved
    have givingUp := congrArg MainPc.givingUp pc
    have transit := congrArg MainPc.transit pc
    have answer := congrArg MainPc.answer pc
  case process idx => exact absurd pc (elsewhere.1 idx)
  case timeout => exact absurd pc elsewhere.2.1
  case giveUpDrop n => exact absurd pc (elsewhere.2.2 n)
  case submit n => exact absurd pc (notSubmit n)
  case response =>
    split at moved <;> cases moved <;>
      exact .quiet retries rfl ⟨rfl, rfl, rfl⟩ givingUp fun _ => answer
  case dispatch idx result =>
    have frame := dispatchStep_frame moved
    have answered : t.main.answer = some result := congrArg Prod.fst frame.task
    refine .quiet retries (congrArg CommandState.toNodeState frame.cmd) ?_ givingUp ?_
    · cases pc' : t.main <;> rw [pc'] at answered <;>
        first | exact ⟨rfl, rfl, rfl⟩ | cases answered
    · rw [answered]
      simp
  case complete idx result =>
    cases moved
    have emptied : (completeCurCmd s.priv result.toNat).cmdpendingq = s.priv.cmdpendingq ∧
        (completeCurCmd s.priv result.toNat).curCmd = none := by
      rw [completeCurCmd]
      split
      · rename_i current
        exact ⟨rfl, current⟩
      · simp
    exact .done retries emptied.1 ⟨rfl, rfl, rfl⟩ emptied.2
  case clear idx =>
    cases moved
    exact .quiet retries rfl ⟨rfl, rfl, rfl⟩ givingUp fun _ => answer
  case giveUpFree n =>
    cases moved
    refine ⟨retries, fun m queued => ?_, fun m flight => (by cases flight.1), fun _ => ?_⟩
    · rcases queued with pending | inTransit
      · exact .inl (by simpa using pending)
      · cases inTransit
    · rw [givingUp]
      exact Option.some_ne_none n
  case requeue n =>
    cases moved
    refine ⟨retries, fun m queued => ?_, fun m flight => ⟨⟨givingUp, flight.2⟩, fun _ => answer⟩,
      fun spent => absurd rfl spent⟩
    rcases queued with pending | inTransit
    · rcases CommandState.mem_insertPending.mp pending with rfl | before
      · exact .inr transit
      · exact .inl before
    · cases inTransit
  case execute =>
    split at moved
    · split at moved <;> cases moved
      · exact .quiet retries rfl ⟨rfl, rfl, rfl⟩ givingUp fun _ => answer
      · refine ⟨retries, fun m queued => ?_,
          fun m flight => ⟨⟨givingUp, flight.2⟩, fun _ => answer⟩, fun spent => absurd rfl spent⟩
        exact queued.elim .inl (by cases ·)
    · cases moved
      exact .quiet retries rfl ⟨rfl, rfl, rfl⟩ givingUp fun _ => answer
  case head n =>
    have member := looking n (by rw [pc]; rfl)
    have unlinked : ∀ pc' : MainPc, pc'.transit = some n → pc'.givingUp = none →
        PassesOn s { s.withCmd (s.priv.unlinkPending n) with main := pc' } := by
      intro pc' moving kept
      refine ⟨rfl, fun m queued => ?_, fun m flight => ⟨⟨givingUp, flight.2⟩, fun _ => answer⟩,
        fun spent => absurd kept spent⟩
      rcases queued with pending | inTransit
      · exact .inl (List.mem_of_mem_erase pending)
      · exact .inl (Option.some.inj (moving.symm.trans inTransit) ▸ member)
    rw [headStep] at moved
    split at moved
    · cases moved
      exact .quiet retries rfl ⟨rfl, rfl, rfl⟩ givingUp fun _ => answer
    · cases moved
      exact .quiet retries rfl ⟨rfl, rfl, rfl⟩ givingUp fun _ => answer
    · obtain ⟨_, rfl⟩ := beginCall_eq_some moved
      exact .quiet retries rfl ⟨rfl, rfl, rfl⟩ givingUp fun _ => answer
    · cases moved
      exact unlinked _ rfl rfl
    · cases moved
      exact unlinked _ rfl rfl
  case ignore n wake =>
    cases moved
    exact .done retries (by simp) ⟨rfl, rfl, rfl⟩ (by simp)
  case send n =>
    cases moved
    exact .quiet retries (by simp) ⟨rfl, rfl, rfl⟩ givingUp fun _ => answer
  all_goals exact absurd (congrArg MainPc.quiet pc) quiet

/-- No attempt was made and no command given up. -/
def Uncounted (s t : Sys) : Prop :=
  ∃ events, t.trace = s.trace ++ events ∧ ∀ e ∈ events, e.counted = false

theorem Uncounted.submissions (uncounted : Uncounted s t) : t.submissions = s.submissions := by
  obtain ⟨events, appended, plain⟩ := uncounted
  have nothing : events.filterMap Event.submission = [] := by
    refine List.filterMap_eq_nil_iff.mpr fun e member => ?_
    have := plain e member
    cases e <;> first | rfl | cases this
  rw [Sys.submissions, appended, List.filterMap_append, nothing, List.append_nil, Sys.submissions]

theorem Uncounted.timedOut (uncounted : Uncounted s t) (member : .timedOut c ∈ t.trace) :
    .timedOut c ∈ s.trace := by
  obtain ⟨events, appended, plain⟩ := uncounted
  rw [appended] at member
  rcases List.mem_append.mp member with before | fresh
  · exact before
  · cases plain _ fresh

theorem mainStep_uncounted {success : Bool} (moved : s.mainStep success c = some t)
    (notSubmit : ∀ n, s.main ≠ .submit n) (unspent : ∀ n, ¬ s.Spent n) : Uncounted s t := by
  obtain ⟨events, appended, told⟩ := mainStep_tells moved
  refine ⟨events, appended, ?_⟩
  cases told with
  | givesUp n spent => exact absurd spent (unspent n)
  | submits n pc => exact absurd pc (notSubmit n)
  | _ => simp [Event.counted]

theorem inHand_cases (inHand : s.InHand n) : s.Queued n ∨ s.InFlight n := by
  rcases inHand with pending | transit | flight
  · exact .inl (.inl pending)
  · exact .inl (.inr transit)
  · exact .inr flight

namespace Budget

/-- While a command is in flight, no other command has been tried. -/
theorem alone (budget : s.Budget) (flight : s.InFlight n) (queued : s.Queued m) :
    s.tries (s.owner m) = 0 := by
  rcases budget.waiting m queued with fresh | ⟨_, _, last, _⟩
  · exact fresh
  · have owners : s.owner m = s.owner n :=
      Option.some.inj (last.symm.trans (budget.last n flight))
    have same := budget.labelled.distinct m n (budget.held.not_free queued.inHand)
      (budget.held.not_free flight.inHand) owners
    exact absurd (same ▸ queued) (budget.held.not_queued flight)

/-- The main thread makes no attempt. What is left to show is how its step counts. -/
theorem recount {success : Bool} (budget : s.Budget) (moved : s.mainStep success c = some t)
    (submissions : t.submissions = s.submissions) (queued : ∀ n, t.Queued n → s.InHand n)
    (flight : ∀ n, t.InFlight n → s.InFlight n)
    (waiting : ∀ n, t.Queued n → s.tries (s.owner n) = 0 ∨
      (t.priv.nrRetries ≠ 0 ∧ t.priv.nrRetries ≤ 3 ∧ s.Tried n t.priv.nrRetries))
    (answered : ∀ n, s.InFlight n → t.InFlight n → t.main.answer = none →
      t.priv.nrRetries ≤ 3 ∧ s.Tried n (t.priv.nrRetries + 1))
    (spent : t.main.givingUp ≠ none → 3 < t.priv.nrRetries)
    (timedOut : ∀ c, .timedOut c ∈ t.trace → s.tries c = 4) : t.Budget := by
  have nothing := NothingTaken.mainStep moved
  have clients := SameClients.mainStep moved
  have tries : t.tries = s.tries := by
    funext d
    rw [Sys.tries, submissions, Sys.tries]
  have tried : ∀ n times, s.Tried n times → t.Tried n times := by
    intro n times tried
    rw [Tried, submissions, nothing.owner, tries]
    exact tried
  refine
    { held := budget.held.main moved
      labelled := budget.labelled.kept nothing fun d begun => ?_
      handed := fun n inHand => ?_
      early := fun d early => ?_
      waiting := fun n after => ?_
      last := fun n after => ?_
      flight := fun n after answer => ?_
      spent := spent
      bounded := fun d => tries ▸ budget.bounded d
      timedOut := fun d member => tries ▸ timedOut d member }
  · rw [(clients.onward d).1 begun]
    exact begun
  · have before : s.InHand n :=
      (inHand_cases inHand).elim (queued n) fun after => (flight n after).inHand
    rw [nothing.owner]
    exact (clients.onward _).2.mpr (budget.handed n before)
  · rw [tries]
    refine budget.early d (Bool.eq_false_iff.mpr fun before => ?_)
    rw [(clients.onward d).2.mpr before] at early
    cases early
  · rw [tries, nothing.owner]
    rcases waiting n after with fresh | ⟨counting, few, times⟩
    · exact .inl fresh
    · exact .inr ⟨counting, few, tried n _ times⟩
  · rw [submissions, nothing.owner]
    exact budget.last n (flight n after)
  · obtain ⟨few, times⟩ := answered n (flight n after) after answer
    exact ⟨few, tried n _ times⟩

/-- The main thread moves commands on. -/
theorem pass {success : Bool} (budget : s.Budget) (moved : s.mainStep success c = some t)
    (uncounted : Uncounted s t) (passes : PassesOn s t) : t.Budget := by
  refine budget.recount moved uncounted.submissions (fun n after => (passes.queued n after).inHand)
    (fun n after => (passes.flight n after).1) (fun n after => ?_)
    (fun n before after answer => ?_) (fun givingUp => ?_)
    fun d member => budget.timedOut d (uncounted.timedOut member)
  · rw [passes.retries]
    exact budget.waiting n (passes.queued n after)
  · rw [passes.retries]
    exact budget.flight n before ((passes.flight n after).2 answer)
  · rw [passes.retries]
    exact budget.spent (passes.spent givingUp)

/-- The count starts again, when no waiting command has been tried. -/
theorem reset {success : Bool} (budget : s.Budget) (moved : s.mainStep success c = some t)
    (uncounted : Uncounted s t) (queued : ∀ n, t.Queued n → s.Queued n)
    (flight : ∀ n, t.InFlight n → s.InFlight n ∧ t.main.answer ≠ none)
    (fresh : ∀ n, s.Queued n → s.tries (s.owner n) = 0) (kept : t.main.givingUp = none) :
    t.Budget :=
  budget.recount moved uncounted.submissions (fun n after => (queued n after).inHand)
    (fun n after => (flight n after).1) (fun n after => .inl (fresh n (queued n after)))
    (fun n _ after answer => absurd answer (flight n after).2)
    (fun givingUp => absurd kept givingUp)
    fun d member => budget.timedOut d (uncounted.timedOut member)

theorem process {success : Bool} {idx : Fin 2} (budget : s.Budget) (pc : s.main = .process idx)
    (moved : s.mainStep success c = some t) : t.Budget := by
  have uncounted := mainStep_uncounted moved (by simp [pc]) fun n spent => by
    have := spent.1
    rw [pc] at this
    cases this
  have kept : s.main.givingUp = none := by rw [pc]; rfl
  have step := moved
  simp only [Sys.mainStep, pc] at step
  rcases processResponse_cases step with rfl | ⟨n, accepts⟩
  · exact budget.pass moved uncounted
      (.quiet rfl rfl ⟨rfl, rfl, rfl⟩ kept fun _ => by rw [pc]; rfl)
  have flight : s.InFlight n := ⟨kept, accepts.accepted.current⟩
  have fresh : ∀ m, s.Queued m → s.tries (s.owner m) = 0 := fun m => budget.alone flight
  rcases accepts.outcome with ⟨cmd, main, _⟩ | ⟨cmd, _, task, _, _⟩
  · refine budget.reset moved uncounted (fun m queued => ?_) (fun m after => ?_) fresh
      (by rw [main]; rfl)
    · exact queued.before (by rw [cmd]; simp) (by rw [main]; rfl)
    · have current := after.2
      rw [cmd, CommandState.lbsCompleteCommand_curCmd] at current
      cases current
  · have answered := congrArg Prod.fst task
    have plain : t.main.Plain := by
      cases pc' : t.main <;>
        simp only [pc', MainPc.task, MainPc.answer, reduceCtorEq] at answered <;>
        exact ⟨rfl, rfl, rfl⟩
    refine budget.reset moved uncounted (fun m queued => ?_) (fun m after => ⟨⟨kept, ?_⟩, ?_⟩) fresh
      plain.givingUp
    · exact queued.before (by rw [cmd]; rfl) plain.transit
    · have current := after.2
      rw [cmd] at current
      exact current
    · rw [show t.main.answer = _ from answered]
      simp

theorem giveUpDrop {success : Bool} (budget : s.Budget) (pc : s.main = .giveUpDrop n)
    (moved : s.mainStep success c = some t) : t.Budget := by
  have uncounted := mainStep_uncounted moved (by simp [pc]) fun n spent => by
    have := spent.1
    rw [pc] at this
    cases this
  have spent := budget.spent (by rw [pc]; simp [MainPc.givingUp])
  have fresh : ∀ m, s.Queued m → s.tries (s.owner m) = 0 := by
    intro m queued
    rcases budget.waiting m queued with fresh | ⟨_, few, _⟩
    · exact fresh
    · omega
  have step := moved
  simp only [Sys.mainStep, pc] at step
  cases step
  exact budget.reset moved uncounted (fun m queued => queued.before rfl rfl)
    (fun m after => by cases after.2) fresh rfl

/-- The retries of a command are counted, and compared with the limit. -/
theorem timeout {success : Bool} (budget : s.Budget) (pc : s.main = .timeout)
    (moved : s.mainStep success c = some t) : t.Budget := by
  have kept : s.main.givingUp = none := by rw [pc]; rfl
  have unanswered : s.main.answer = none := by rw [pc]; rfl
  have step := moved
  simp only [Sys.mainStep, pc, timeoutStep] at step
  split at step
  · rename_i n timedOut current
    have flight : s.InFlight n := ⟨kept, current⟩
    obtain ⟨few, last, times⟩ := budget.flight n flight unanswered
    have fresh : ∀ m, s.Queued m → s.tries (s.owner m) = 0 := fun m => budget.alone flight
    split at step
    · rename_i spent
      cases step
      refine budget.recount moved ?_
        (fun m after => (Queued.before (s := s) after rfl rfl).inHand)
        (fun m after => by cases after.1) (fun m after => .inl (fresh m (after.before rfl rfl)))
        (fun m _ after => by cases after.1) (fun _ => spent) fun d member => ?_
      · simp [Sys.submissions, Event.submission]
      · rcases List.mem_append.mp member with before | now
        · exact budget.timedOut d before
        · simp only [List.mem_cons, Event.timedOut.injEq, reduceCtorEq, List.not_mem_nil,
            or_false] at now
          rw [now, times]
          omega
    · rename_i unspent
      cases step
      refine budget.recount moved rfl (fun m after => ?_) (fun m after => by cases after.2)
        (fun m after => ?_) (fun m _ after => by cases after.2) (fun spent => absurd rfl spent)
        budget.timedOut
      · rcases after with pending | transit
        · exact .inl pending
        · exact Option.some.inj transit ▸ flight.inHand
      · rcases after with pending | transit
        · exact .inl (fresh m (.inl pending))
        · obtain rfl : n = m := Option.some.inj transit
          exact .inr ⟨Nat.succ_ne_zero _, Nat.le_of_not_gt unspent, last, times⟩
  · cases step
    refine budget.pass moved ⟨[], by simp⟩ (.quiet rfl rfl ⟨rfl, rfl, rfl⟩ kept fun _ => unanswered)

/-- An attempt is made, by the command that was tried last or by one that was never tried. -/
theorem submit {success : Bool} (budget : s.Budget) (pc : s.main = .submit n)
    (again : s.priv.nrRetries ≠ 0 → s.submissions.getLast? = some (s.owner n))
    (moved : s.mainStep success c = some t) : t.Budget := by
  have queued : s.Queued n := .inr (by rw [pc]; rfl)
  have held := budget.held.main moved
  have nothing := NothingTaken.mainStep moved
  have retries := mainStep_retries moved (by simp [pc])
  simp only [Sys.mainStep, pc] at moved
  obtain ⟨told, client, pending, main, current⟩ :
      t.trace = s.trace ++ [.submitted (s.owner n)] ∧ t.client = s.client ∧
        t.priv.cmdpendingq = s.priv.cmdpendingq ∧ t.main = .send n ∧ t.priv.curCmd = some n := by
    cases moved
    exact ⟨rfl, rfl, rfl, rfl, rfl⟩
  have submissions : t.submissions = s.submissions ++ [s.owner n] := by
    simp [Sys.submissions, told, Event.submission]
  have last : t.submissions.getLast? = some (s.owner n) := by simp [submissions]
  have mine : t.tries (s.owner n) = s.tries (s.owner n) + 1 := by
    simp [Sys.tries, submissions]
  have theirs : ∀ d, d ≠ s.owner n → t.tries d = s.tries d := by
    intro d other
    simp [Sys.tries, submissions, Ne.symm other]
  have times : s.tries (s.owner n) = s.priv.nrRetries ∧ s.priv.nrRetries ≤ 3 := by
    rcases budget.waiting n queued with fresh | ⟨_, few, _, times⟩
    · by_cases first : s.priv.nrRetries = 0
      · exact ⟨fresh.trans first.symm, by omega⟩
      · exact absurd fresh (tries_ne_zero (again first))
    · exact ⟨times, few⟩
  have flight : t.InFlight n := ⟨by rw [main]; rfl, current⟩
  have only : ∀ m, t.InFlight m → m = n :=
    fun m after => Option.some.inj (after.2.symm.trans current)
  have before : ∀ m, t.Queued m → s.Queued m :=
    fun m after => after.before pending (by rw [main]; rfl)
  refine
    { held := held
      labelled := budget.labelled.kept nothing fun d => by rw [client]; exact id
      handed := fun m inHand => ?_
      early := fun d early => ?_
      waiting := fun m after => .inl ?_
      last := fun m after => ?_
      flight := fun m after _ => ?_
      spent := fun spent => absurd flight.1 spent
      bounded := fun d => ?_
      timedOut := fun d member => ?_ }
  · rw [client, nothing.owner]
    rcases inHand_cases inHand with after | after
    · exact budget.handed m (before m after).inHand
    · exact only m after ▸ budget.handed n queued.inHand
  · rw [client] at early
    have other : d ≠ s.owner n := by
      rintro rfl
      rw [budget.handed n queued.inHand] at early
      cases early
    rw [theirs d other]
    exact budget.early d early
  · have other : s.owner m ≠ s.owner n := by
      intro owners
      have same := budget.labelled.distinct m n (budget.held.not_free (before m after).inHand)
        (budget.held.not_free queued.inHand) owners
      exact held.not_queued flight (same ▸ after)
    rw [nothing.owner, theirs _ other]
    rcases budget.waiting m (before m after) with fresh | ⟨counting, _, last, _⟩
    · exact fresh
    · exact absurd (Option.some.inj (last.symm.trans (again counting))) other
  · rw [nothing.owner, only m after]
    exact last
  · rw [only m after, Tried, nothing.owner, mine, retries, times.1]
    exact ⟨times.2, last, rfl⟩
  · by_cases same : d = s.owner n
    · rw [same, mine, times.1]
      exact Nat.succ_le_succ times.2
    · rw [theirs d same]
      exact budget.bounded d
  · have earlier : .timedOut d ∈ s.trace := by
      rw [told] at member
      rcases List.mem_append.mp member with before | now
      · exact before
      · cases List.mem_singleton.mp now
    have other : d ≠ s.owner n := by
      rintro rfl
      have spent := budget.timedOut _ earlier
      omega
    rw [theirs d other]
    exact budget.timedOut d earlier

theorem main {success : Bool} (budget : s.Budget) (inTurn : s.InTurn)
    (moved : s.mainStep success c = some t) : t.Budget := by
  by_cases process : ∃ idx, s.main = .process idx
  · obtain ⟨idx, pc⟩ := process
    exact budget.process pc moved
  by_cases drop : ∃ n, s.main = .giveUpDrop n
  · obtain ⟨n, pc⟩ := drop
    exact budget.giveUpDrop pc moved
  by_cases timeout : s.main = .timeout
  · exact budget.timeout timeout moved
  by_cases submit : ∃ n, s.main = .submit n
  · obtain ⟨n, pc⟩ := submit
    exact budget.submit pc (inTurn n pc) moved
  have uncounted := mainStep_uncounted moved (not_exists.mp submit) fun n spent => timeout spent.1
  refine budget.pass moved uncounted (mainStep_passes moved (fun n looking => ?_)
    ⟨not_exists.mp process, timeout, not_exists.mp drop⟩ (not_exists.mp submit))
  have kept : s.main.givingUp = none := by
    cases pc : s.main <;> rw [pc] at looking <;> first | rfl | cases looking
  exact (budget.held.settled kept).owned.looking n looking

/-- A step of another party, which may queue a command that was never tried. -/
theorem steady (budget : s.Budget) (held : t.Held) (labelled : t.Labelled)
    (uncounted : Uncounted s t) (retries : t.priv.nrRetries = s.priv.nrRetries)
    (main : t.main = s.main) (current : t.priv.curCmd = s.priv.curCmd)
    (onward : ∀ d, (s.client d).phase.queued = true → (t.client d).phase.queued = true)
    (owner : ∀ n, s.InHand n → t.owner n = s.owner n)
    (queued : ∀ n, t.Queued n → s.Queued n ∨
      (s.tries (t.owner n) = 0 ∧ (t.client (t.owner n)).phase.queued = true)) : t.Budget := by
  have tries : t.tries = s.tries := by
    funext d
    rw [Sys.tries, uncounted.submissions, Sys.tries]
  have tried : ∀ n times, s.InHand n → s.Tried n times → t.Tried n times := by
    intro n times inHand tried
    rw [Tried, uncounted.submissions, owner n inHand, tries]
    exact tried
  have before : ∀ n, t.InFlight n → s.InFlight n :=
    fun n after => ⟨main ▸ after.1, current ▸ after.2⟩
  have handed : ∀ n, s.InHand n → (t.client (t.owner n)).phase.queued = true := by
    intro n inHand
    rw [owner n inHand]
    exact onward _ (budget.handed n inHand)
  refine
    { held := held
      labelled := labelled
      handed := fun n inHand => ?_
      early := fun d early => ?_
      waiting := fun n after => ?_
      last := fun n after => ?_
      flight := fun n after answer => ?_
      spent := by rw [main, retries]; exact budget.spent
      bounded := fun d => tries ▸ budget.bounded d
      timedOut := fun d member => tries ▸ budget.timedOut d (uncounted.timedOut member) }
  · rcases inHand_cases inHand with after | after
    · exact (queued n after).elim (fun was => handed n was.inHand) fun fresh => fresh.2
    · exact handed n (before n after).inHand
  · rw [tries]
    refine budget.early d (Bool.eq_false_iff.mpr fun was => ?_)
    rw [onward d was] at early
    cases early
  · rw [tries, retries]
    rcases queued n after with was | fresh
    · rw [owner n was.inHand]
      rcases budget.waiting n was with fresh | ⟨counting, few, times⟩
      · exact .inl fresh
      · exact .inr ⟨counting, few, tried n _ was.inHand times⟩
    · exact .inl fresh.1
  · rw [uncounted.submissions, owner n (before n after).inHand]
    exact budget.last n (before n after)
  · rw [main] at answer
    rw [retries]
    obtain ⟨few, times⟩ := budget.flight n (before n after) answer
    exact ⟨few, tried n _ (before n after).inHand times⟩

theorem client (budget : s.Budget) (patient : s.Patient s.mainView c)
    (stepped : s.clientStep c = some t) : t.Budget := by
  have frame := clientStep_frame stepped
  have held := budget.held.client patient stepped
  have onward := fun d => (clientStep_onward stepped d).2
  have uncounted : Uncounted s t := by
    rcases frame.trace with same | fetched | issued
    · exact ⟨[], by simp [same]⟩
    · exact ⟨_, fetched, by simp [Event.counted]⟩
    · exact ⟨_, issued, by simp [Event.counted]⟩
  refine budget.steady held (budget.labelled.client stepped) uncounted
    (clientStep_retries stepped).1 frame.main frame.curCmd onward (fun n inHand => ?_)
    fun n after => ?_
  · rw [Sys.owner, frame.array n (budget.held.untouched inHand c), Sys.owner]
  · rcases after with pending | transit
    · rcases frame.pending n pending with was | ⟨tail, phase⟩
      · exact .inl (.inl was)
      · have fits := budget.held.fits c
        simp only [Client.Fits, phase] at fits
        have mine : s.owner n = c := fits.1
        have fresh := budget.early c (by rw [phase]; rfl)
        have owner : t.owner n = c := by
          rw [Sys.owner, (clientStep_inserts phase stepped).1]
          exact mine
        rw [owner]
        exact .inr ⟨fresh, queued_of_inserted phase stepped⟩
    · rw [frame.main] at transit
      exact .inl (.inr transit)

theorem step {action : Action} (budget : s.Budget) (safe : s.RetrySafe action)
    (stepped : s.step action = some t) : t.Budget := by
  have held := budget.held.step safe.1 stepped
  have labelled := budget.labelled.step stepped
  by_cases client : ∃ c, action = .client c
  · obtain ⟨c, rfl⟩ := client
    rw [Sys.step] at stepped
    split at stepped
    · cases stepped
    · exact budget.client safe.1 stepped
  by_cases main : ∃ success c, action = .main success c
  · obtain ⟨success, c, rfl⟩ := main
    rw [Sys.step] at stepped
    split at stepped
    · cases stepped
    · exact budget.main (safe.2 ⟨success, c, rfl⟩) stepped
  · have elsewhere : (∀ c, action ≠ .client c) ∧ ∀ success c, action ≠ .main success c :=
      ⟨not_exists.mp client, fun success c same => main ⟨success, c, same⟩⟩
    have aside := step_aside stepped elsewhere
    obtain ⟨events, appended, told⟩ := step_tells stepped
    have uncounted : Uncounted s t := by
      refine ⟨events, appended, ?_⟩
      cases action with
      | client c => exact absurd rfl (elsewhere.1 c)
      | main success c => exact absurd rfl (elsewhere.2 success c)
      | deliver data => rcases told with rfl | rfl <;> simp [Event.counted]
      | _ =>
          obtain rfl : events = [] := told
          exact nofun
    refine budget.steady held labelled uncounted aside.retries aside.main aside.current
      (fun d queued => (aside.onward d).2 ▸ queued) (fun n _ => by rw [aside.nothing.owner])
      fun n after => .inl ?_
    rcases after with pending | transit
    · exact .inl (aside.pending ▸ pending)
    · exact .inr (aside.main ▸ transit)

theorem init : Sys.init.Budget := by
  refine
    { held := .init
      labelled := .init
      handed := fun n inHand => ?_
      early := fun _ _ => rfl
      waiting := fun n queued => ?_
      last := fun n flight => nomatch flight.2
      flight := fun n flight => nomatch flight.2
      spent := fun spent => absurd rfl spent
      bounded := fun _ => Nat.zero_le _
      timedOut := nofun }
  · rcases inHand with pending | transit | flight
    · cases pending
    · cases transit
    · exact nomatch flight.2
  · rcases queued with pending | transit
    · cases pending
    · cases transit

theorem of_reachable (reached : driver.ReachableUnder RetrySafe s) : s.Budget :=
  reached.invariant Budget (fun _ start => start ▸ .init)
    fun _ _ _ _ budget safe stepped => budget.step safe stepped

end Budget

end Budget

end Sys

/-- If commands are only resubmitted in turn, a command is submitted at most four times, and one
whose retries are spent was submitted exactly four times. -/
theorem submitted_at_most_four_times {s : Sys} (reached : driver.ReachableUnder Sys.RetrySafe s)
    (c : CallId) : s.tries c ≤ 4 ∧ (.timedOut c ∈ s.trace → s.tries c = 4) :=
  have budget := Sys.Budget.of_reachable reached
  ⟨budget.bounded c, budget.timedOut c⟩

instance (s : Sys) : (action : Action) → Decidable (s.HeldSafe action)
  | .client c => inferInstanceAs (Decidable (s.Patient s.mainView c))
  | .stopCard =>
      inferInstanceAs
        (Decidable (∀ n ∈ s.priv.cmdpendingq, (s.priv.cmdArray n).isAsync = true))
  | .call _ _ | .main _ _ | .signal _ | .deliver _ | .queueEvent _ | .hostToCardDone
  | .timerExpire | .commandTimerFn | .remove | .kthreadStop | .setFwReady | .configure _
  | .transmit _ _ => .isTrue trivial

instance (s : Sys) : Decidable s.InTurn := by
  unfold Sys.InTurn
  infer_instance

instance (action : Action) : Decidable (∃ success c, action = .main success c) :=
  match action with
  | .main success c => .isTrue ⟨success, c, rfl⟩
  | .call _ _ | .client _ | .signal _ | .deliver _ | .queueEvent _ | .hostToCardDone
  | .timerExpire | .commandTimerFn | .stopCard | .remove | .kthreadStop | .setFwReady
  | .configure _ | .transmit _ _ => .isFalse nofun

instance (s : Sys) (action : Action) : Decidable (s.RetrySafe action) :=
  inferInstanceAs (Decidable (s.HeldSafe action ∧
    ((∃ success c, action = .main success c) → s.InTurn)))

/-- The command timer expires, and the main thread makes this many steps. -/
def timesOut (steps : Nat) : List Action :=
  [.timerExpire, .commandTimerFn] ++ List.replicate steps (.main true 400)

/-- A command is never answered. -/
theorem submitted_at_most_four_times_unanswered : ∃ s,
    driver.runUnder Sys.RetrySafe Sys.init
      (hwSpecSent ++ timesOut 15 ++ timesOut 15 ++ timesOut 15 ++ timesOut 6) = some s ∧
    .timedOut 0 ∈ s.trace ∧ s.tries 0 ≤ 4 ∧ (.timedOut 0 ∈ s.trace → s.tries 0 = 4) := by
  obtain ⟨s, executed, spent⟩ := Machine.exists_of_map
    (fun s : Sys => .timedOut 0 ∈ s.trace)
    (show (driver.runUnder Sys.RetrySafe Sys.init
      (hwSpecSent ++ timesOut 15 ++ timesOut 15 ++ timesOut 15 ++ timesOut 6)).map _ = some true by
        decide +kernel)
  exact ⟨s, executed, spent, submitted_at_most_four_times (.run (.initial rfl) executed) 0⟩

/-- The main thread sends EXIT_PS, with call 200. It times out and is queued again. Then call 300
puts its own EXIT_PS in front of it. -/
def overtaken : List Action :=
  enterPsInFlight ++ [.hostToCardDone, .deliver enterPsReply] ++
    List.replicate 4 (.main true 200) ++ List.replicate 7 (.client 200) ++
    List.replicate 13 (.main true 400) ++ timesOut 6 ++
    [.call 300 { psWakeupRequest with kind := .prepareAndSend true }] ++
    List.replicate 6 (.client 300) ++ List.replicate 9 (.main true 400)

/-- The retries of call 200 are counted for call 300, which is given up too early. Then the count
starts again for call 200. -/
theorem overtaken_retries_miscounted : ∃ s,
    driver.run Sys.init (overtaken ++ timesOut 15 ++ timesOut 15 ++ timesOut 15 ++
      [.hostToCardDone] ++ List.replicate 13 (.main true 400) ++
      timesOut 15 ++ timesOut 15 ++ timesOut 15) = some s ∧
    driver.Reachable s ∧ .timedOut 300 ∈ s.trace ∧ s.tries 300 = 3 ∧ s.tries 200 = 5 := by
  obtain ⟨s, executed, spent, few, many⟩ := Machine.exists_of_map
    (fun s : Sys => .timedOut 300 ∈ s.trace ∧ s.tries 300 = 3 ∧ s.tries 200 = 5)
    (show (driver.run Sys.init (overtaken ++ timesOut 15 ++ timesOut 15 ++ timesOut 15 ++
      [.hostToCardDone] ++ List.replicate 13 (.main true 400) ++
      timesOut 15 ++ timesOut 15 ++ timesOut 15)).map _ = some true by decide +kernel)
  exact ⟨s, executed, Machine.reachable_of_run rfl executed, spent, few, many⟩

end Libertas
