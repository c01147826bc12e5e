import Libertas.Driver.System

/-!
# Views of a driver state

Most invariants do not need the exact control point of the main thread or of a
call, only which node is in its hands and which accepted response is being
completed. The views in this file say that much. `QuietStep` is the rule for the
steps of the main thread that handle no command node at all.
-/

namespace Libertas

/-- The node that a call has taken and not yet submitted. -/
def Phase.preparing : Phase → Option NodeId
  | .fill n | .stamp n | .abort n | .queue n | .insert n _ | .unqueued n => some n
  | _ => none

/-- The node whose completion a call waits for or has just seen. -/
def Phase.awaiting : Phase → Option NodeId
  | .wait n | .finish n => some n
  | _ => none

/-- The node that the main thread has unlinked and not yet put elsewhere. -/
def MainPc.transit : MainPc → Option NodeId
  | .ignore n _ | .submit n | .requeue n => some n
  | _ => none

/-- The node that the main thread completes without the lock. -/
def MainPc.givingUp : MainPc → Option NodeId
  | .giveUpFree n | .giveUpDrop n => some n
  | _ => none

/-- The node that the main thread looked up at the head of `cmdpendingq`. -/
def MainPc.looking : MainPc → Option NodeId
  | .head n => some n
  | _ => none

/-- The result of the accepted response that the main thread is working on. -/
def MainPc.answer : MainPc → Option UInt16
  | .dispatch _ result | .complete _ result | .calling _ (.complete _ result) => some result
  | _ => none

/-- The response slot that the main thread is working on. -/
def MainPc.slot : MainPc → Option (Fin 2)
  | .process idx | .dispatch idx _ | .complete idx _ | .clear idx
  | .calling _ (.complete idx _) => some idx
  | _ => none

/-- The slot whose response was found and not yet passed on. -/
def MainPc.unread : MainPc → Option (Fin 2)
  | .process idx => some idx
  | _ => none

/-- The slot whose response was accepted and not yet passed to a callback or handler. -/
def MainPc.unhandled : MainPc → Option (Fin 2)
  | .dispatch idx _ => some idx
  | _ => none

/-- What the main thread has to do with a response. -/
def MainPc.task (pc : MainPc) :
    Option UInt16 × Option (Fin 2) × Option (Fin 2) × Option (Fin 2) :=
  (pc.answer, pc.slot, pc.unread, pc.unhandled)

/-- The main thread is not about to touch a command node, a queue of them or a response slot. -/
def MainPc.quiet : MainPc → Bool
  | .response | .clear _ | .process _ | .dispatch _ _ | .complete _ _ | .timeout
  | .giveUpFree _ | .giveUpDrop _ | .requeue _ | .execute | .head _ | .ignore _ _ | .submit _
  | .send _ => false
  | _ => true

theorem MainPc.givingUp_of_quiet {pc : MainPc} (quiet : pc.quiet = true) :
    pc.givingUp = none := by
  cases pc <;> first | rfl | cases quiet

/-- A control point that holds no node. -/
structure MainPc.Plain (pc : MainPc) : Prop where
  transit : pc.transit = none
  givingUp : pc.givingUp = none
  looking : pc.looking = none

/-- Working on an accepted response, the main thread holds no node. -/
theorem MainPc.plain_of_answer {pc : MainPc} {result : UInt16}
    (answer : pc.answer = some result) : pc.Plain := by
  cases pc <;> first | exact ⟨rfl, rfl, rfl⟩ | cases answer

/-- What the main thread hands to the card at a control point. -/
def MainPc.hands : MainPc → Option Handover
  | .event e => if e = macregIntCodeHostAwake then some .wakeConfirm else none
  | .confirmSend _ => some .sleepConfirm
  | .send n => some (.command n)
  | .tx => some .data
  | _ => none

/-- An event that concerns neither a call nor a response. -/
def Event.neutral : Event → Bool
  | .handed _ _ _ => true
  | _ => false

/-- Where a call of the main thread returns to, no node is held. -/
theorem Resume.plain (next : Resume) : next.pc.Plain := by
  cases next <;> exact ⟨rfl, rfl, rfl⟩

theorem ConfirmSite.plain (site : ConfirmSite) : site.pc.Plain := by
  cases site <;> exact ⟨rfl, rfl, rfl⟩

theorem ConfirmSite.pc_task (site : ConfirmSite) : site.pc.task = (none, none, none, none) := by
  cases site <;> rfl

namespace Sys

section Updates

variable (s : Sys) (c d : CallId) (phase : Phase) (cs : CommandState) (e : Event)

@[simp] theorem setPhase_priv : (s.setPhase c phase).priv = s.priv := rfl
@[simp] theorem setPhase_main : (s.setPhase c phase).main = s.main := rfl
@[simp] theorem setPhase_memory : (s.setPhase c phase).memory = s.memory := rfl
@[simp] theorem setPhase_bug : (s.setPhase c phase).bug = s.bug := rfl
@[simp] theorem setPhase_trace : (s.setPhase c phase).trace = s.trace := rfl

theorem setPhase_client : (s.setPhase c phase).client d =
    if d = c then { s.client c with phase := phase } else s.client d := rfl

@[simp] theorem setPhase_client_self :
    (s.setPhase c phase).client c = { s.client c with phase := phase } := by
  simp [setPhase_client]

theorem setPhase_client_of_ne {s : Sys} {c d : CallId} {phase : Phase} (other : d ≠ c) :
    (s.setPhase c phase).client d = s.client d := by
  simp [setPhase_client, other]

@[simp] theorem withCmd_cmd : (s.withCmd cs).priv.toCommandState = cs := rfl
@[simp] theorem withCmd_main : (s.withCmd cs).main = s.main := rfl
@[simp] theorem withCmd_client : (s.withCmd cs).client = s.client := rfl
@[simp] theorem withCmd_memory : (s.withCmd cs).memory = s.memory := rfl
@[simp] theorem withCmd_bug : (s.withCmd cs).bug = s.bug := rfl
@[simp] theorem withCmd_trace : (s.withCmd cs).trace = s.trace := rfl
@[simp] theorem withCmd_power : (s.withCmd cs).priv.toPowerState = s.priv.toPowerState := rfl
@[simp] theorem withCmd_mailbox : (s.withCmd cs).priv.toMailbox = s.priv.toMailbox := rfl

@[simp] theorem log_priv : (s.log e).priv = s.priv := rfl
@[simp] theorem log_main : (s.log e).main = s.main := rfl
@[simp] theorem log_client : (s.log e).client = s.client := rfl
@[simp] theorem log_memory : (s.log e).memory = s.memory := rfl
@[simp] theorem log_bug : (s.log e).bug = s.bug := rfl
@[simp] theorem log_trace : (s.log e).trace = s.trace ++ [e] := rfl

variable (resp : List UInt8) (result : Int)

@[simp] theorem logAccepted_priv : (s.logAccepted resp).priv = s.priv := by
  rw [logAccepted]
  split <;> rfl

@[simp] theorem logAccepted_main : (s.logAccepted resp).main = s.main := by
  rw [logAccepted]
  split <;> rfl

@[simp] theorem logAccepted_client : (s.logAccepted resp).client = s.client := by
  rw [logAccepted]
  split <;> rfl

@[simp] theorem logAccepted_memory : (s.logAccepted resp).memory = s.memory := by
  rw [logAccepted]
  split <;> rfl

@[simp] theorem logAccepted_bug : (s.logAccepted resp).bug = s.bug := by
  rw [logAccepted]
  split <;> rfl

@[simp] theorem logCompleted_priv : (s.logCompleted result).priv = s.priv := by
  rw [logCompleted]
  split <;> rfl

@[simp] theorem logCompleted_main : (s.logCompleted result).main = s.main := by
  rw [logCompleted]
  split <;> rfl

@[simp] theorem logCompleted_client : (s.logCompleted result).client = s.client := by
  rw [logCompleted]
  split <;> rfl

@[simp] theorem logCompleted_memory : (s.logCompleted result).memory = s.memory := by
  rw [logCompleted]
  split <;> rfl

@[simp] theorem logCompleted_bug : (s.logCompleted result).bug = s.bug := by
  rw [logCompleted]
  split <;> rfl

@[simp] theorem logCallback_priv : (s.logCallback resp).priv = s.priv := by
  rw [logCallback]
  split <;> rfl

@[simp] theorem logCallback_main : (s.logCallback resp).main = s.main := by
  rw [logCallback]
  split <;> rfl

@[simp] theorem logCallback_client : (s.logCallback resp).client = s.client := by
  rw [logCallback]
  split <;> rfl

@[simp] theorem logCallback_memory : (s.logCallback resp).memory = s.memory := by
  rw [logCallback]
  split <;> rfl

@[simp] theorem logCallback_bug : (s.logCallback resp).bug = s.bug := by
  rw [logCallback]
  split <;> rfl

end Updates

/-- The state after a call of the main thread has begun. -/
def withCall (s : Sys) (c : CallId) (req : Request) (next : Resume) : Sys :=
  { s with
    client := fun d =>
      if d = c then { req := req, phase := .start, signalled := false } else s.client d
    main := .calling c next }

theorem beginCall_eq_some {s t : Sys} {c : CallId} {req : Request} {next : Resume}
    (began : s.beginCall c req next = some t) :
    (s.client c).phase = .idle ∧ t = s.withCall c req next := by
  rw [beginCall] at began
  split at began
  · exact ⟨‹_›, (Option.some.inj began).symm⟩
  · cases began

/-- The nodes that the next step of a call may change: one it has in its hands, a free one it
takes, or one it frees. -/
def Touches (s : Sys) (c : CallId) (n : NodeId) : Prop :=
  (s.client c).phase.preparing = some n ∨ n ∈ s.priv.cmdfreeq ∨
    ((s.client c).req.isCmd = true ∧ (s.client c).phase = .finish n)

/-- A step of a call. It changes the command state, its own phase and the trace. -/
structure CallStep (c : CallId) (s t : Sys) : Prop where
  priv : t.priv = { s.priv with toCommandState := t.priv.toCommandState }
  main : t.main = s.main
  memory : t.memory = s.memory
  bug : t.bug = s.bug
  client : ∃ phase, phase ≠ .idle ∧ t.client = (s.setPhase c phase).client
  curCmd : t.priv.curCmd = s.priv.curCmd
  array : ∀ n, ¬ s.Touches c n → t.priv.cmdArray n = s.priv.cmdArray n
  pending : ∀ n, n ∈ t.priv.cmdpendingq → n ∈ s.priv.cmdpendingq ∨
    ∃ tail, (s.client c).phase = .insert n tail
  trace : t.trace = s.trace ∨ t.trace = s.trace ++ [.fetched c] ∨
    t.trace = s.trace ++ [.issued c s.priv.seqnum]

theorem CallStep.pass {s : Sys} {c : CallId} {phase : Phase} (started : phase ≠ .idle) :
    CallStep c s (s.setPhase c phase) :=
  ⟨rfl, rfl, rfl, rfl, ⟨phase, started, rfl⟩, rfl, fun _ _ => rfl, fun _ => .inl, .inl rfl⟩

/-- A step that edits a single node. -/
theorem CallStep.edit {s : Sys} {c : CallId} {n : NodeId} {cs : CommandState} {phase : Phase}
    (started : phase ≠ .idle) (curCmd : cs.curCmd = s.priv.curCmd)
    (pending : cs.cmdpendingq = s.priv.cmdpendingq) (touched : s.Touches c n)
    (others : ∀ m, m ≠ n → cs.cmdArray m = s.priv.cmdArray m) :
    CallStep c s ((s.withCmd cs).setPhase c phase) := by
  refine ⟨rfl, rfl, rfl, rfl, ⟨phase, started, rfl⟩, curCmd, fun m untouched => ?_,
    fun m member => .inl (pending ▸ member), .inl rfl⟩
  exact others m fun other => untouched (other ▸ touched)

theorem CallStep.log {s t : Sys} {c : CallId} {e : Event} (step : CallStep c s t)
    (before : t.trace = s.trace) (e_mem : e = .fetched c ∨ e = .issued c s.priv.seqnum) :
    CallStep c s (t.log e) := by
  refine { step with trace := ?_ }
  rcases e_mem with rfl | rfl
  · exact .inr (.inl (by simp [before]))
  · exact .inr (.inr (by simp [before]))

theorem clientStep_frame {s t : Sys} {c : CallId} (stepped : s.clientStep c = some t) :
    CallStep c s t := by
  have holding : ∀ n, (s.client c).phase.preparing = some n → s.Touches c n := fun _ => .inl
  cases phase : (s.client c).phase <;> simp only [clientStep, phase, reduceCtorEq] at stepped
  all_goals rw [phase] at holding
  case start => split at stepped <;> cases stepped <;> exact .pass nofun
  case alloc =>
    split at stepped <;> cases stepped
    · exact .pass nofun
    · rename_i n cs got
      obtain ⟨rest, free, rfl⟩ := CommandState.lbsGetCmdCtrlNode_eq_some got
      have taken : s.Touches c n := .inr (.inl (by simp [free]))
      exact .edit nofun rfl rfl taken fun m other => CommandState.modifyNode_of_ne other
  case fill n =>
    cases stepped
    refine .edit nofun rfl rfl (holding n rfl) fun m other => ?_
    simp [CommandState.initNode, CommandState.modifyNode_of_ne other]
  case stamp n =>
    split at stepped <;> cases stepped
    · exact .pass nofun
    · exact .pass nofun
    · refine CallStep.log ?_ rfl (.inr rfl)
      exact .edit nofun rfl rfl (holding n rfl) fun m other => CommandState.modifyNode_of_ne other
  case abort n =>
    cases stepped
    exact .edit nofun rfl rfl (holding n rfl) fun m other =>
      CommandState.lbsCleanupAndInsertCmd_of_ne other
  case queue n =>
    split at stepped <;> cases stepped
    · exact .pass nofun
    · exact .edit nofun rfl rfl (holding n rfl) fun m other => CommandState.modifyNode_of_ne other
  case insert n tail =>
    cases stepped
    refine ⟨rfl, rfl, rfl, rfl, ⟨_, ?_, rfl⟩, rfl, fun _ _ => rfl, fun m member => ?_, .inl rfl⟩
    · split
      · exact nofun
      · split <;> exact nofun
    · rcases CommandState.mem_insertPending.mp member with rfl | before
      · exact .inr ⟨tail, phase⟩
      · exact .inl before
  case unqueued n =>
    split at stepped
    · split at stepped <;> cases stepped
      exact .pass nofun
    · cases stepped
      refine .pass ?_
      split <;> exact nofun
  case wait n =>
    split at stepped <;> cases stepped
    exact .pass nofun
  case finish n =>
    split at stepped <;> cases stepped
    · rename_i isCmd
      have freed : s.Touches c n := .inr (.inr ⟨isCmd, phase⟩)
      exact .edit nofun rfl rfl freed fun m other => CommandState.lbsCleanupAndInsertCmd_of_ne other
    · have same := s.priv.takeRetcode_nodes
      refine CallStep.log ?_ rfl (.inl rfl)
      refine ⟨rfl, rfl, rfl, rfl, ⟨.returned s.priv.takeRetcode.2, nofun, rfl⟩,
        congrArg NodeState.curCmd same, fun m _ => ?_, fun m member => .inl ?_, .inl rfl⟩
      · exact congrFun (congrArg NodeState.cmdArray same) m
      · exact congrArg NodeState.cmdpendingq same ▸ member

/-- The clients after a step of the main thread: unchanged, or one fresh call has begun. -/
def SameClients (s t : Sys) : Prop :=
  t.client = s.client ∨
    ∃ c req, (s.client c).phase = .idle ∧ req.isCmd = false ∧ req.waits = false ∧
      t.client = fun d =>
        if d = c then { req := req, phase := .start, signalled := false } else s.client d

/-- A call that has started is not affected. -/
theorem SameClients.of_started {s t : Sys} {d : CallId} (clients : SameClients s t)
    (started : (s.client d).phase ≠ .idle) : t.client d = s.client d := by
  rcases clients with same | ⟨c, req, idle, _, _, began⟩
  · rw [same]
  · have other : d ≠ c := fun same => started (same ▸ idle)
    rw [began]
    exact if_neg other

/-- Neither the command nodes nor the return code nor the response slots differ. -/
structure Undisturbed (p q : Priv) : Prop where
  nodes : q.toNodeState = p.toNodeState
  curCmdRetcode : q.curCmdRetcode = p.curCmdRetcode
  slots : q.toResponseSlots = p.toResponseSlots

theorem Undisturbed.of_core {p q : Priv} (core : q.core = p.core) : Undisturbed p q := by
  obtain ⟨cmd, _, mailbox⟩ := Prod.mk.inj core |>.imp_right Prod.mk.inj
  exact
    { nodes := congrArg CommandState.toNodeState cmd
      curCmdRetcode := congrArg CommandState.curCmdRetcode cmd
      slots := congrArg Mailbox.toResponseSlots mailbox }

theorem Undisturbed.handCommand (p : Priv) (success : Bool) :
    Undisturbed p (handCommand p success) := by
  cases success <;> exact ⟨rfl, rfl, rfl⟩

/-- A step of the main thread that handles no command node and no response slot. -/
structure QuietStep (s t : Sys) : Prop where
  priv : Undisturbed s.priv t.priv
  bug : t.bug = s.bug
  clients : SameClients s t
  memory : t.memory = s.memory
  plain : t.main.Plain
  task : t.main.task = s.main.task
  trace : ∃ events, t.trace = s.trace ++ events ∧ ∀ e ∈ events, e.neutral = true

section Quiet

variable {s t : Sys}

theorem QuietStep.move {p : Priv} {pc : MainPc} (priv : Undisturbed s.priv p)
    (plain : pc.Plain) (task : pc.task = s.main.task) :
    QuietStep s { s with priv := p, main := pc } where
  priv := priv
  bug := rfl
  clients := .inl rfl
  memory := rfl
  plain := plain
  task := task
  trace := ⟨[], by simp⟩

theorem QuietStep.call {c : CallId} {req : Request} {next : Resume} {p : Priv}
    (began : { s with priv := p }.beginCall c req next = some t)
    (priv : Undisturbed s.priv p) (kind : req.isCmd = false ∧ req.waits = false)
    (task : (MainPc.calling c next).task = s.main.task) : QuietStep s t := by
  obtain ⟨idle, rfl⟩ := beginCall_eq_some began
  exact
    { priv := priv
      bug := rfl
      clients := .inr ⟨c, req, idle, kind.1, kind.2, rfl⟩
      memory := rfl
      plain := ⟨rfl, rfl, rfl⟩
      task := task
      trace := ⟨[], by simp [withCall]⟩ }

theorem QuietStep.log {e : Event} (quiet : QuietStep s t) (neutral : e.neutral = true) :
    QuietStep s (t.log e) := by
  obtain ⟨events, appended, all⟩ := quiet.trace
  refine { quiet with trace := ⟨events ++ [e], by simp [appended], ?_⟩ }
  intro e' member
  rcases List.mem_append.mp member with old | new
  · exact all e' old
  · rw [List.mem_singleton.mp new]
    exact neutral

theorem processEvent_quiet {e : UInt32} {success : Bool} {c : CallId} (pc : s.main = .event e)
    (processed : s.processEvent e success c = some t) : QuietStep s t := by
  have task : s.main.task = (none, none, none, none) := by rw [pc]; rfl
  rw [processEvent] at processed
  split at processed
  · dsimp only at processed
    have same := Undisturbed.of_core (lbsMacEventDisconnected_core s.priv 0)
    split at processed
    · exact .call processed same ⟨rfl, rfl⟩ task.symm
    · cases processed
      exact .move same ⟨rfl, rfl, rfl⟩ task.symm
  split at processed
  · split at processed
    · cases processed
      exact .move ⟨rfl, rfl, rfl⟩ ⟨rfl, rfl, rfl⟩ task.symm
    · cases processed
      exact .move ⟨rfl, rfl, rfl⟩ ⟨rfl, rfl, rfl⟩ task.symm
  split at processed
  · cases processed
    have same : Undisturbed s.priv
        (handCommand { s.priv with seqnum := s.priv.seqnum + 1 } success) := by
      cases success <;> exact ⟨rfl, rfl, rfl⟩
    exact QuietStep.log (.move same ⟨rfl, rfl, rfl⟩ task.symm) rfl
  split at processed
  · split at processed
    · cases processed
      exact .move ⟨rfl, rfl, rfl⟩ ⟨rfl, rfl, rfl⟩ task.symm
    · dsimp only at processed
      split at processed
      · exact .call processed ⟨rfl, rfl, rfl⟩ ⟨rfl, rfl⟩ task.symm
      · cases processed
        exact .move ⟨rfl, rfl, rfl⟩ ⟨rfl, rfl, rfl⟩ task.symm
  split at processed
  · cases processed
    dsimp only
    split
    · exact .move ⟨rfl, rfl, rfl⟩ ⟨rfl, rfl, rfl⟩ task.symm
    · exact .move ⟨rfl, rfl, rfl⟩ ⟨rfl, rfl, rfl⟩ task.symm
  · cases processed
    exact .move ⟨rfl, rfl, rfl⟩ ⟨rfl, rfl, rfl⟩ task.symm

/-- From a quiet control point the main thread takes a quiet step. -/
theorem mainStep_quiet {success : Bool} {c : CallId} (quiet : s.main.quiet = true)
    (moved : s.mainStep success c = some t) : QuietStep s t := by
  cases pc : s.main <;> rw [pc] at quiet <;> try cases quiet
  all_goals
    simp only [mainStep, pc] at moved
    have task := congrArg MainPc.task pc
  case top =>
    cases moved
    exact .move ⟨rfl, rfl, rfl⟩ (by split <;> exact ⟨rfl, rfl, rfl⟩) (by rw [task]; split <;> rfl)
  case sleeping =>
    cases moved
    exact .move ⟨rfl, rfl, rfl⟩ ⟨rfl, rfl, rfl⟩ task.symm
  case awake =>
    split at moved
    · cases moved
      exact .move ⟨rfl, rfl, rfl⟩ ⟨rfl, rfl, rfl⟩ task.symm
    · split at moved <;> cases moved
      · exact .move ⟨rfl, rfl, rfl⟩ ⟨rfl, rfl, rfl⟩ task.symm
      · exact .move ⟨rfl, rfl, rfl⟩ ⟨rfl, rfl, rfl⟩ task.symm
  case timeoutClear =>
    cases moved
    exact .move ⟨rfl, rfl, rfl⟩ ⟨rfl, rfl, rfl⟩ task.symm
  case events =>
    split at moved <;> cases moved
    · exact .move ⟨rfl, rfl, rfl⟩ ⟨rfl, rfl, rfl⟩ task.symm
    · exact .move ⟨rfl, rfl, rfl⟩ ⟨rfl, rfl, rfl⟩ task.symm
  case event e => exact processEvent_quiet pc moved
  case confirm site =>
    split at moved <;> cases moved
    · exact .move ⟨rfl, rfl, rfl⟩ ⟨rfl, rfl, rfl⟩ task.symm
    · exact .move ⟨rfl, rfl, rfl⟩ site.plain (by rw [task]; exact site.pc_task)
  case confirmSend site =>
    cases moved
    refine QuietStep.log (.move (.handCommand _ success) ?_ ?_) rfl
    · split
      · exact ⟨rfl, rfl, rfl⟩
      · exact site.plain
    · rw [task]
      split
      · rfl
      · exact site.pc_task
  case confirmSet site =>
    cases moved
    exact .move ⟨rfl, rfl, rfl⟩ site.plain (by rw [task]; exact site.pc_task)
  case ready =>
    cases moved
    exact .move ⟨rfl, rfl, rfl⟩ (by split <;> exact ⟨rfl, rfl, rfl⟩) (by rw [task]; split <;> rfl)
  case presleep =>
    split at moved
    · split at moved <;> cases moved
      · exact .move ⟨rfl, rfl, rfl⟩ ⟨rfl, rfl, rfl⟩ task.symm
      · exact .move ⟨rfl, rfl, rfl⟩ ⟨rfl, rfl, rfl⟩ task.symm
    · cases moved
      exact .move ⟨rfl, rfl, rfl⟩ ⟨rfl, rfl, rfl⟩ task.symm
  case blocked =>
    cases moved
    exact .move ⟨rfl, rfl, rfl⟩ (by split <;> exact ⟨rfl, rfl, rfl⟩) (by rw [task]; split <;> rfl)
  case goSleep =>
    split at moved
    · exact .call moved ⟨rfl, rfl, rfl⟩ ⟨rfl, rfl⟩ task.symm
    · cases moved
      exact .move ⟨rfl, rfl, rfl⟩ ⟨rfl, rfl, rfl⟩ task.symm
  case calling d next =>
    split at moved <;> cases moved
    exact .move ⟨rfl, rfl, rfl⟩ next.plain (by rw [task]; cases next <;> rfl)
  case tx =>
    cases moved
    rw [txStep]
    split
    · exact QuietStep.log (.move ⟨rfl, rfl, rfl⟩ ⟨rfl, rfl, rfl⟩ task.symm) rfl
    · exact .move ⟨rfl, rfl, rfl⟩ ⟨rfl, rfl, rfl⟩ task.symm
  case stopped => cases moved

end Quiet

/-- The main thread is about to give up a command whose retries are spent. -/
def Spent (s : Sys) (n : NodeId) : Prop :=
  s.main = .timeout ∧ s.priv.cmdTimedOut = true ∧ s.priv.nrRetries + 1 > 3 ∧
    s.priv.curCmd = some n

/-- The response in a slot. -/
def stored (s : Sys) (idx : Fin 2) : List UInt8 :=
  (s.priv.respBuf idx).take (s.priv.respLen idx)

/-- The locked start of `lbs_process_command_response` accepts a response for the command in
flight. It completes the command, or leaves that for after the lock was dropped. -/
structure Accepts (idx : Fin 2) (n : NodeId) (s t : Sys) : Prop where
  accepted : Accepted s.priv (s.priv.respBuf idx) n
  clients : SameClients s t
  memory : t.memory = s.memory
  outcome :
    (t.priv.toCommandState = (acceptResponse s.priv (s.priv.respBuf idx)).lbsCompleteCommand n
        (respResult (s.priv.respBuf idx)).toNat ∧
      t.main = .clear idx ∧
      t.trace = s.trace ++ [.passed (s.stored idx), .accepted (s.owner n) (s.priv.respBuf idx),
        .completed (s.owner n) (respResult (s.priv.respBuf idx)).toNat]) ∨
    (t.priv.toCommandState = (acceptResponse s.priv (s.priv.respBuf idx)).toCommandState ∧
      t.priv.toResponseSlots = s.priv.toResponseSlots ∧
      t.main.task = (some (respResult (s.priv.respBuf idx)), some idx, none, t.main.unhandled) ∧
      (t.main.unhandled = none ∨ t.main.unhandled = some idx) ∧
      t.trace = s.trace ++ [.passed (s.stored idx), .accepted (s.owner n) (s.priv.respBuf idx)])

/-- The unlocked callback or handler of an accepted response. It touches the caller's buffer and
fields outside the command path. -/
structure Dispatches (idx : Fin 2) (result : UInt16) (s t : Sys) : Prop where
  cmd : t.priv.toCommandState = s.priv.toCommandState
  slots : t.priv.toResponseSlots = s.priv.toResponseSlots
  clients : SameClients s t
  memory : t.memory =
    applyWrite s.memory (dispatchResponse s.memory s.priv (s.priv.respBuf idx)).write
  task : t.main.task = (some result, some idx, none, none)
  trace : t.trace = (s.logCallback (s.priv.respBuf idx)).trace

section Steps

variable {s t : Sys} {c : CallId} {n : NodeId} {idx : Fin 2}

theorem logAccepted_trace {resp : List UInt8} (current : s.priv.curCmd = some n) :
    (s.logAccepted resp).trace = s.trace ++ [.accepted (s.owner n) resp] := by
  simp [logAccepted, current]

theorem logCompleted_trace {result : Int} (current : s.priv.curCmd = some n) :
    (s.logCompleted result).trace = s.trace ++ [.completed (s.owner n) result] := by
  simp [logCompleted, current]

/-- The locked start of `lbs_process_command_response` drops a response or accepts it. -/
theorem processResponse_cases (processed : s.processResponse idx c = some t) :
    t = { s.log (.passed (s.stored idx)) with main := .clear idx } ∨ ∃ n, Accepts idx n s t := by
  have accepting : ∀ n, Accepted s.priv (s.priv.respBuf idx) n →
      ((s.log (.passed (s.stored idx))).logAccepted (s.priv.respBuf idx)).trace =
        s.trace ++ [.passed (s.stored idx), .accepted (s.owner n) (s.priv.respBuf idx)] := by
    intro n accepted
    have current : (s.log (.passed (s.stored idx))).priv.curCmd = some n := accepted.current
    rw [logAccepted_trace current]
    simp [Sys.owner]
  rw [processResponse] at processed
  dsimp only at processed
  split at processed
  · cases processed
    exact .inl rfl
  · rename_i next ret done
    obtain ⟨n, accepted, cmd⟩ := judge_eq_done done
    cases processed
    refine .inr ⟨n, accepted, .inl (by simp), by simp, .inl ⟨cmd, rfl, ?_⟩⟩
    have current : ((s.log (.passed (s.stored idx))).logAccepted
        (s.priv.respBuf idx)).priv.curCmd = some n := by simpa using accepted.current
    apply (logCompleted_trace current).trans
    rw [accepting n accepted]
    simp [Sys.owner]
  · rename_i next wakeup
    obtain ⟨n, accepted, _, cmd⟩ := judge_eq_wakeup wakeup
    have slots := congrArg Mailbox.toResponseSlots
      (judge_frame (congrArg Verdict.next wakeup)).mailbox
    obtain ⟨idle, rfl⟩ := beginCall_eq_some processed
    refine .inr ⟨n, accepted, .inr ⟨c, psWakeupRequest, ?_⟩, by simp [withCall],
      .inr ⟨cmd, slots, rfl, .inl rfl, accepting n accepted⟩⟩
    exact ⟨by simpa using idle, rfl, rfl, by simp [withCall]⟩
  · rename_i next dispatch
    obtain ⟨n, accepted, _, rfl⟩ := judge_eq_dispatch dispatch
    cases processed
    exact .inr ⟨n, accepted, .inl (by simp), by simp,
      .inr ⟨rfl, rfl, rfl, .inr rfl, accepting n accepted⟩⟩

theorem dispatchStep_frame {result : UInt16} (dispatched : s.dispatchStep idx result c = some t) :
    Dispatches idx result s t := by
  have core := dispatchResponse_core s.memory s.priv (s.priv.respBuf idx)
  have cmd := congrArg Prod.fst core
  have slots := (Undisturbed.of_core core).slots
  rw [dispatchStep] at dispatched
  dsimp only at dispatched
  split at dispatched
  · obtain ⟨idle, rfl⟩ := beginCall_eq_some dispatched
    refine ⟨cmd, slots, .inr ⟨c, psWakeupRequest, ?_⟩, rfl, rfl, rfl⟩
    exact ⟨by simpa using idle, rfl, rfl, by simp [withCall]⟩
  · cases dispatched
    exact ⟨cmd, slots, .inl (by simp), rfl, rfl, rfl⟩

/-- What a step of the main thread adds to the trace. -/
inductive Tells (s : Sys) : List Event → Prop
  | nothing : Tells s []
  | drops (idx : Fin 2) : s.main = .process idx → Tells s [.passed (s.stored idx)]
  | accepts (idx : Fin 2) (n : NodeId) : s.main = .process idx →
      Accepted s.priv (s.priv.respBuf idx) n →
      Tells s [.passed (s.stored idx), .accepted (s.owner n) (s.priv.respBuf idx)]
  | completes (idx : Fin 2) (n : NodeId) : s.main = .process idx →
      Accepted s.priv (s.priv.respBuf idx) n →
      Tells s [.passed (s.stored idx), .accepted (s.owner n) (s.priv.respBuf idx),
        .completed (s.owner n) (respResult (s.priv.respBuf idx)).toNat]
  | calls (idx : Fin 2) (result : UInt16) (n : NodeId) (callback : Callback) :
      s.main = .dispatch idx result → s.priv.curCmd = some n →
      (s.priv.cmdArray n).callback = some callback →
      Tells s [.callback (s.owner n) callback (s.priv.respBuf idx)]
  | finishes (idx : Fin 2) (result : UInt16) (n : NodeId) : s.main = .complete idx result →
      s.priv.curCmd = some n → Tells s [.completed (s.owner n) result.toNat]
  | givesUp (n : NodeId) : s.Spent n →
      Tells s [.timedOut (s.owner n), .completed (s.owner n) (-eTimedOut)]
  | ignores (n : NodeId) (wake : Bool) : s.main = .ignore n wake →
      Tells s [.completed (s.owner n) 0]
  | submits (n : NodeId) : s.main = .submit n → Tells s [.submitted (s.owner n)]
  | hands (what : Handover) : s.main.hands = some what →
      (what = .data → s.priv.dnldSent = .resReceived) →
      Tells s [.handed what s.priv.psstate s.priv.dnldSent]

theorem processEvent_tells {e : UInt32} {success : Bool} (pc : s.main = .event e)
    (processed : s.processEvent e success c = some t) :
    ∃ events, t.trace = s.trace ++ events ∧ s.Tells events := by
  have silent : t.trace = s.trace → ∃ events, t.trace = s.trace ++ events ∧ s.Tells events :=
    fun same => ⟨[], by simp [same], .nothing⟩
  rw [processEvent] at processed
  split at processed
  · dsimp only at processed
    split at processed
    · obtain ⟨_, rfl⟩ := beginCall_eq_some processed
      exact silent rfl
    · cases processed
      exact silent rfl
  split at processed
  · split at processed <;> cases processed <;> exact silent rfl
  split at processed
  · rename_i awake
    cases processed
    exact ⟨_, rfl, .hands .wakeConfirm (by rw [pc]; exact if_pos awake) nofun⟩
  split at processed
  · split at processed
    · cases processed
      exact silent rfl
    · dsimp only at processed
      split at processed
      · obtain ⟨_, rfl⟩ := beginCall_eq_some processed
        exact silent rfl
      · cases processed
        exact silent rfl
  split at processed <;> cases processed <;> exact silent rfl

/-- What a step of the main thread adds to the trace, by its control point. -/
theorem mainStep_tells {success : Bool} (moved : s.mainStep success c = some t) :
    ∃ events, t.trace = s.trace ++ events ∧ s.Tells events := by
  have silent : ∀ {u : Sys}, u.trace = s.trace →
      ∃ events, u.trace = s.trace ++ events ∧ s.Tells events :=
    fun same => ⟨[], by simp [same], .nothing⟩
  cases pc : s.main
  all_goals simp only [mainStep, pc] at moved
  case process idx =>
    rcases processResponse_cases moved with rfl | ⟨n, accepts⟩
    · exact ⟨_, rfl, .drops idx pc⟩
    · rcases accepts.outcome with ⟨_, _, trace⟩ | ⟨_, _, _, _, trace⟩
      · exact ⟨_, trace, .completes idx n pc accepts.accepted⟩
      · exact ⟨_, trace, .accepts idx n pc accepts.accepted⟩
  case dispatch idx result =>
    have trace := (dispatchStep_frame moved).trace
    rw [logCallback] at trace
    split at trace
    · exact silent trace
    · rename_i n callback found
      obtain ⟨m, current, called⟩ := Option.bind_eq_some_iff.mp found
      obtain ⟨cb, installed, same⟩ := Option.map_eq_some_iff.mp called
      cases same
      exact ⟨_, trace, .calls idx result n callback pc current installed⟩
  case complete idx result =>
    cases moved
    cases current : s.priv.curCmd with
    | none => exact silent (by simp [logCompleted, current])
    | some n => exact ⟨_, logCompleted_trace current, .finishes idx result n pc current⟩
  case timeout =>
    cases moved
    rw [timeoutStep]
    split
    · rename_i n timedOut current
      dsimp only
      split
      · rename_i spent
        exact ⟨_, rfl, .givesUp n ⟨pc, timedOut, spent, current⟩⟩
      · exact silent rfl
    · exact silent rfl
  case event e => exact processEvent_tells pc moved
  case confirmSend site =>
    cases moved
    exact ⟨_, rfl, .hands .sleepConfirm (by rw [pc]; rfl) nofun⟩
  case ignore n wake =>
    cases moved
    exact ⟨_, rfl, .ignores n wake pc⟩
  case submit n =>
    cases moved
    exact ⟨_, rfl, .submits n pc⟩
  case send n =>
    cases moved
    exact ⟨_, rfl, .hands (.command n) (by rw [pc]; rfl) nofun⟩
  case tx =>
    cases moved
    rw [txStep]
    split
    · rename_i ready
      exact ⟨_, rfl, .hands .data (by rw [pc]; rfl) fun _ => ready.1⟩
    · exact silent rfl
  case head n =>
    rw [headStep] at moved
    split at moved
    case h_3 =>
      obtain ⟨_, rfl⟩ := beginCall_eq_some moved
      exact silent rfl
    all_goals
      cases moved
      exact silent rfl
  case goSleep =>
    split at moved
    · obtain ⟨_, rfl⟩ := beginCall_eq_some moved
      exact silent rfl
    · cases moved
      exact silent rfl
  case stopped => cases moved
  case top | sleeping | clear | giveUpFree | giveUpDrop | requeue | timeoutClear | ready
      | confirmSet | blocked =>
    cases moved
    exact silent rfl
  case calling | response | events | confirm =>
    split at moved <;> cases moved <;> exact silent rfl
  case awake | presleep | execute =>
    split at moved
    · first
      | (cases moved; exact silent rfl)
      | (split at moved <;> cases moved <;> exact silent rfl)
    · first
      | (cases moved; exact silent rfl)
      | (split at moved <;> cases moved <;> exact silent rfl)

/-- What a step of any party adds to the trace. -/
def ActionTells (s : Sys) : Action → List Event → Prop
  | .main _ _, events => s.Tells events
  | .client c, events => events = [] ∨ events = [.fetched c] ∨ events = [.issued c s.priv.seqnum]
  | .deliver data, events => events = [] ∨ events = [.delivered data]
  | _, events => events = []

theorem step_tells {action : Action} (stepped : s.step action = some t) :
    ∃ events, t.trace = s.trace ++ events ∧ s.ActionTells action events := by
  unfold step at stepped
  split at stepped
  · cases stepped
  cases action with
  | client c =>
      rcases (clientStep_frame stepped).trace with same | fetched | issued
      · exact ⟨[], by simp [same], .inl rfl⟩
      · exact ⟨_, fetched, .inr (.inl rfl)⟩
      · exact ⟨_, issued, .inr (.inr rfl)⟩
  | main success c => exact mainStep_tells stepped
  | deliver data =>
      cases stepped
      rw [deliverStep]
      split
      · exact ⟨[], by simp, .inl rfl⟩
      · dsimp only
        split
        · exact ⟨[], by simp, .inl rfl⟩
        · exact ⟨_, rfl, .inr rfl⟩
  | call _ _ | stopCard | timerExpire | commandTimerFn =>
      dsimp only at stepped
      split at stepped <;> cases stepped
      exact ⟨[], by simp, rfl⟩
  | signal _ | queueEvent _ | hostToCardDone | remove | kthreadStop | setFwReady | configure _
    | transmit _ _ =>
      cases stepped
      exact ⟨[], by simp, rfl⟩

end Steps

end Sys

end Libertas
