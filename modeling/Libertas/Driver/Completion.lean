import Libertas.Driver.Submission

/-!
# Completions of commands

What the main thread does to the two fields through which the caller of a legacy
command learns how it ended: the wait condition of the node, which a completion
sets and which the next command on the node clears, and `cur_cmd_retcode`, which
all commands share. A step of the main thread completes one command that it has in
hand, or none. `recorded` reads from the trace whose result is in
`cur_cmd_retcode`.
-/

namespace Libertas

/-- The command of a call was issued or completed. -/
def Event.settles (c : CallId) : Event → Bool
  | .issued d _ | .completed d _ => d = c
  | _ => false

/-- The call whose command was completed. -/
def Event.completion : Event → Option CallId
  | .completed c _ => some c
  | _ => none

/-- The result in `cur_cmd_retcode` and the call it belongs to, after an event. -/
def Event.record (last : Option (CallId × Int)) : Event → Option (CallId × Int)
  | .accepted c resp => some (c, (respResult resp).toNat)
  | .timedOut c => some (c, -eTimedOut)
  | .completed c result => if result = 0 then last else some (c, result)
  | .submitted _ | .fetched _ => none
  | _ => last

namespace Sys

/-- What the trace tells about the command of a call. -/
def account (s : Sys) (c : CallId) : List Event :=
  s.trace.filter (Event.settles c)

/-- The calls whose commands were completed. -/
def completions (s : Sys) : List CallId :=
  s.trace.filterMap Event.completion

/-- The result that was recorded last and not cleared since, and the call it belongs to. -/
def recorded (s : Sys) : Option (CallId × Int) :=
  s.trace.foldl Event.record none

/-- What the next step of the main thread writes to `cur_cmd_retcode`. -/
def stores (s : Sys) : Option Int :=
  match s.main with
  | .process idx =>
      match judge s.priv (s.priv.respBuf idx) with
      | .drop => none
      | _ => some (respResult (s.priv.respBuf idx)).toNat
  | .complete _ result => s.priv.curCmd.map fun _ => (result.toNat : Int)
  | .timeout =>
      if s.priv.cmdTimedOut ∧ s.priv.nrRetries + 1 > 3 then s.priv.curCmd.map fun _ => -eTimedOut
      else none
  | .submit _ => some 0
  | _ => none

/-- The wait conditions of the other nodes are as they were. -/
def SameWaits (s t : Sys) (touched : NodeId → Prop) : Prop :=
  ∀ n, ¬ touched n → (t.priv.cmdArray n).cmdwaitqwoken = (s.priv.cmdArray n).cmdwaitqwoken

/-- The main thread completes the command of a node. -/
structure Completes (n : NodeId) (r : Int) (s t : Sys) : Prop where
  inHand : s.InHand n
  account : ∀ c, t.account c = s.account c ++ if s.owner n = c then [.completed c r] else []
  woken : (t.priv.cmdArray n).cmdwaitqwoken = true
  waits : SameWaits s t (· = n)
  hand : ∀ m, m ≠ n → s.InHand m → t.InHand m
  status : t.priv.curCmdRetcode = r ∨
    ∃ wake, s.main = .ignore n wake ∧ r = 0 ∧ t.priv.curCmdRetcode = s.priv.curCmdRetcode

/-- The main thread completes no command. -/
structure CompletesNone (s t : Sys) : Prop where
  account : t.account = s.account
  waits : SameWaits s t fun _ => False
  hand : ∀ n, s.InHand n → t.InHand n

section Main

variable {s t : Sys} {c : CallId} {n : NodeId}

theorem account_append {events : List Event} (appended : t.trace = s.trace ++ events) :
    t.account c = s.account c ++ events.filter (Event.settles c) := by
  rw [account, appended, List.filter_append, account]

theorem recorded_append {events : List Event} (appended : t.trace = s.trace ++ events) :
    t.recorded = events.foldl Event.record s.recorded := by
  rw [recorded, appended, List.foldl_append, recorded]

/-- What is completed is told last, and only what is completed counts. -/
theorem account_completed {events : List Event} {r : Int}
    (appended : t.trace = s.trace ++ (events ++ [.completed (s.owner n) r]))
    (others : ∀ e ∈ events, ∀ d, e.settles d = false) (d : CallId) :
    t.account d = s.account d ++ if s.owner n = d then [.completed d r] else [] := by
  have nothing : events.filter (Event.settles d) = [] :=
    List.filter_eq_nil_iff.mpr fun e member => by simp [others e member d]
  rw [account_append appended, List.filter_append, nothing, List.nil_append]
  by_cases mine : s.owner n = d
  · subst mine
    simp [Event.settles]
  · simp [Event.settles, mine]

/-- The main thread leaves the nodes and the queues alone, and completes nothing. -/
theorem CompletesNone.still (events : List Event) (appended : t.trace = s.trace ++ events)
    (others : ∀ e ∈ events, ∀ d, e.settles d = false)
    (array : ∀ n, (t.priv.cmdArray n).cmdwaitqwoken = (s.priv.cmdArray n).cmdwaitqwoken)
    (hand : ∀ n, s.InHand n → t.InHand n) : CompletesNone s t where
  account := by
    funext d
    rw [account_append appended, List.filter_eq_nil_iff.mpr, List.append_nil]
    intro e member
    simp [others e member d]
  waits n _ := array n
  hand := hand

/-- No command is completed by these events. -/
def Unsettling (events : List Event) : Prop :=
  ∀ e ∈ events, ∀ d, e.settles d = false

theorem Unsettling.nil : Unsettling [] :=
  List.forall_mem_nil _

/-- The commands in hand stay there, if neither the nodes nor the queues change. -/
theorem InHand.still (inHand : s.InHand n) (nodes : t.priv.toNodeState = s.priv.toNodeState)
    (transit : s.main.transit = none) (kept : t.main.givingUp = none) : t.InHand n := by
  rcases inHand with pending | moving | ⟨_, current⟩
  · exact .inl (congrArg NodeState.cmdpendingq nodes ▸ pending)
  · rw [transit] at moving
    cases moving
  · exact .inr (.inr ⟨kept, congrArg NodeState.curCmd nodes ▸ current⟩)

theorem CompletesNone.of_nodes (events : List Event) (appended : t.trace = s.trace ++ events)
    (others : Unsettling events) (nodes : t.priv.toNodeState = s.priv.toNodeState)
    (transit : s.main.transit = none) (kept : t.main.givingUp = none) : CompletesNone s t :=
  .still events appended others (fun _ => by rw [congrArg NodeState.cmdArray nodes])
    fun _ inHand => inHand.still nodes transit kept

/-- The main thread completes the command that it has in hand, and has no other. -/
theorem Completes.of_only (events : List Event) {r : Int}
    (appended : t.trace = s.trace ++ (events ++ [.completed (s.owner n) r]))
    (others : Unsettling events) (inHand : s.InHand n)
    (only : ∀ m, s.InHand m → m = n ∨ m ∈ s.priv.cmdpendingq)
    (woken : (t.priv.cmdArray n).cmdwaitqwoken = true)
    (array : ∀ m, m ≠ n → t.priv.cmdArray m = s.priv.cmdArray m)
    (pending : t.priv.cmdpendingq = s.priv.cmdpendingq)
    (status : t.priv.curCmdRetcode = r ∨
      ∃ wake, s.main = .ignore n wake ∧ r = 0 ∧
        t.priv.curCmdRetcode = s.priv.curCmdRetcode) : Completes n r s t where
  inHand := inHand
  account := account_completed appended others
  woken := woken
  waits m other := by rw [array m other]
  hand m other held := by
    rcases only m held with here | waiting
    · exact absurd here other
    · exact .inl (pending ▸ waiting)
  status := status

theorem lbsCompleteCommand_curCmdRetcode (cs : CommandState) (r : Int) :
    (cs.lbsCompleteCommand n r).curCmdRetcode =
      if cs.curCmd = some n then r else cs.curCmdRetcode := by
  rw [CommandState.lbsCompleteCommand, CommandState.clearCurCmd]
  simp [CommandState.recordResult]

/-- Filling or clearing a node leaves its wait condition alone. -/
theorem modifyNode_cmdwaitqwoken {cs : CommandState} {f : CmdCtrlNode → CmdCtrlNode}
    (kept : ∀ node, (f node).cmdwaitqwoken = node.cmdwaitqwoken) (m : NodeId) :
    ((cs.modifyNode n f).cmdArray m).cmdwaitqwoken = (cs.cmdArray m).cmdwaitqwoken := by
  by_cases same : m = n
  · rw [same, CommandState.modifyNode_self, kept]
  · rw [CommandState.modifyNode_of_ne same]

theorem initNode_cmdwaitqwoken {cs : CommandState} {callback : Option Callback}
    {arg : Option Pointer} (m : NodeId) :
    ((cs.initNode n callback arg).cmdArray m).cmdwaitqwoken = (cs.cmdArray m).cmdwaitqwoken := by
  rw [CommandState.initNode_nodes]
  apply modifyNode_cmdwaitqwoken
  exact fun _ => rfl

theorem lbsCleanupAndInsertCmd_cmdwaitqwoken {cs : CommandState} (m : NodeId) :
    ((cs.lbsCleanupAndInsertCmd n).cmdArray m).cmdwaitqwoken = (cs.cmdArray m).cmdwaitqwoken := by
  by_cases same : m = n
  · simp [same, CommandState.lbsCleanupAndInsertCmd]
  · rw [CommandState.lbsCleanupAndInsertCmd_of_ne same]

theorem releaseAsync_cmdwaitqwoken (cs : CommandState) (m : NodeId) :
    ((cs.releaseAsync n).cmdArray m).cmdwaitqwoken = (cs.cmdArray m).cmdwaitqwoken := by
  rw [CommandState.releaseAsync]
  split
  · exact lbsCleanupAndInsertCmd_cmdwaitqwoken m
  · rfl

/-- Only where the main thread completes commands the trace tells of a completion. -/
theorem Tells.unsettling {events : List Event} (told : s.Tells events)
    (process : ∀ idx, s.main ≠ .process idx)
    (complete : ∀ idx result, s.main ≠ .complete idx result)
    (ignore : ∀ n wake, s.main ≠ .ignore n wake) (unspent : ∀ n, ¬ s.Spent n) :
    Unsettling events := by
  cases told with
  | nothing => exact nofun
  | drops idx pc | accepts idx n pc _ | completes idx n pc _ => exact absurd pc (process idx)
  | finishes idx result n pc _ => exact absurd pc (complete idx result)
  | ignores n wake pc => exact absurd pc (ignore n wake)
  | givesUp n spent => exact absurd spent (unspent n)
  | calls | submits | hands => simp [Unsettling, Event.settles]

/-- The command in flight is completed under the lock. -/
theorem Completes.process {idx : Fin 2} (kept : s.main.givingUp = none)
    (transit : s.main.transit = none) (accepts : Accepts idx n s t)
    (cmd : t.priv.toCommandState =
      (acceptResponse s.priv (s.priv.respBuf idx)).lbsCompleteCommand n
        (respResult (s.priv.respBuf idx)).toNat)
    (trace : t.trace = s.trace ++ [.passed (s.stored idx),
      .accepted (s.owner n) (s.priv.respBuf idx),
      .completed (s.owner n) (respResult (s.priv.respBuf idx)).toNat]) :
    Completes n (respResult (s.priv.respBuf idx)).toNat s t := by
  have current := accepts.accepted.current
  refine .of_only [.passed (s.stored idx), .accepted (s.owner n) (s.priv.respBuf idx)] trace ?_
    (.inr (.inr ⟨kept, current⟩)) (fun m inHand => ?_) ?_
    (fun m other => ?_) ?_ (.inl ?_)
  · simp [Unsettling, Event.settles]
  · rcases inHand with pending | moving | ⟨_, isCurrent⟩
    · exact .inr pending
    · rw [transit] at moving
      cases moving
    · exact .inl (Option.some.inj (isCurrent.symm.trans current))
  · rw [cmd]
    exact CommandState.lbsCompleteCommand_cmdwaitqwoken
  · rw [cmd]
    exact CommandState.lbsCompleteCommand_of_ne other
  · rw [cmd]
    exact CommandState.lbsCompleteCommand_cmdpendingq
  · rw [cmd, lbsCompleteCommand_curCmdRetcode]
    exact if_pos current

/-- The main thread handles a timed out command. -/
theorem timeout_completes {success : Bool} (pc : s.main = .timeout)
    (moved : s.mainStep success c = some t) :
    CompletesNone s t ∨ ∃ n r, Completes n r s t := by
  have transit : s.main.transit = none := by rw [pc]; rfl
  have kept : s.main.givingUp = none := by rw [pc]; rfl
  simp only [Sys.mainStep, pc] at moved
  cases moved
  rw [timeoutStep]
  split
  · rename_i n timedOut current
    dsimp only
    have only : ∀ m, s.InHand m → m = n ∨ m ∈ s.priv.cmdpendingq := by
      intro m inHand
      rcases inHand with pending | moving | ⟨_, isCurrent⟩
      · exact .inr pending
      · rw [transit] at moving
        cases moving
      · exact .inl (Option.some.inj (isCurrent.symm.trans current))
    split
    · have told : Unsettling [.timedOut (s.owner n)] := by simp [Unsettling, Event.settles]
      refine .inr ⟨n, -eTimedOut, .of_only _ rfl told (.inr (.inr ⟨kept, current⟩)) only ?_
        (fun m other => CommandState.recordResult_of_ne other) rfl
        (.inl (if_pos current))⟩
      simp [CommandState.recordResult_self]
    · refine .inl (.still [] (List.append_nil _).symm Unsettling.nil (fun _ => rfl)
        fun m inHand => ?_)
      rcases only m inHand with rfl | pending
      · exact .inr (.inl rfl)
      · exact .inl pending
  · exact .inl (.of_nodes [] (List.append_nil _).symm .nil rfl transit rfl)

/-- The main thread looks at the head of the queue. -/
theorem head_completes {success : Bool} (pc : s.main = .head n)
    (moved : s.mainStep success c = some t) : CompletesNone s t := by
  have transit : s.main.transit = none := by rw [pc]; rfl
  have kept : s.main.givingUp = none := by rw [pc]; rfl
  have unlinked : ∀ pc' : MainPc, pc'.transit = some n → pc'.givingUp = none →
      CompletesNone s { s.withCmd (s.priv.unlinkPending n) with main := pc' } := by
    intro pc' holding kept'
    refine .still [] (List.append_nil _).symm nofun (fun _ => rfl) fun m inHand => ?_
    rcases inHand with pending | moving | ⟨_, current⟩
    · by_cases same : m = n
      · exact .inr (.inl (same ▸ holding))
      · exact .inl ((List.mem_erase_of_ne same).mpr pending)
    · rw [transit] at moving
      cases moving
    · exact .inr (.inr ⟨kept', current⟩)
  simp only [Sys.mainStep, pc] at moved
  rw [headStep] at moved
  split at moved
  · cases moved
    exact .of_nodes [] (List.append_nil _).symm nofun rfl transit rfl
  · cases moved
    exact .of_nodes [] (List.append_nil _).symm nofun rfl transit rfl
  · obtain ⟨_, rfl⟩ := beginCall_eq_some moved
    exact .of_nodes [] (List.append_nil _).symm nofun rfl transit rfl
  · cases moved
    exact unlinked _ rfl rfl
  · cases moved
    exact unlinked _ rfl rfl

/-- A step of the main thread completes a command or none. -/
theorem mainStep_completes {success : Bool}
    (idle : s.main.choosing = true → s.priv.curCmd = none)
    (moved : s.mainStep success c = some t) : CompletesNone s t ∨ ∃ n r, Completes n r s t := by
  obtain ⟨events, appended, told⟩ := mainStep_tells moved
  by_cases quiet : s.main.quiet = true
  · have step := mainStep_quiet quiet moved
    have elsewhere : ∀ pc, s.main = pc → pc.quiet = true := fun pc same => same ▸ quiet
    have transit : s.main.transit = none := by
      cases pc : s.main <;> first | rfl | exact absurd (elsewhere _ pc) Bool.false_ne_true
    have unsettling : Unsettling events :=
      told.unsettling (fun _ pc => absurd (elsewhere _ pc) Bool.false_ne_true)
        (fun _ _ pc => absurd (elsewhere _ pc) Bool.false_ne_true)
        (fun _ _ pc => absurd (elsewhere _ pc) Bool.false_ne_true)
        fun _ spent => absurd (elsewhere _ spent.1) Bool.false_ne_true
    exact .inl (.of_nodes events appended unsettling step.priv.nodes transit step.plain.givingUp)
  cases pc : s.main
  case timeout => exact timeout_completes pc moved
  case head m => exact .inl (head_completes pc moved)
  all_goals
    simp only [Sys.mainStep, pc] at moved
    have givingUp := congrArg MainPc.givingUp pc
    have transit := congrArg MainPc.transit pc
  case process idx =>
    rcases processResponse_cases moved with rfl | ⟨n, accepts⟩
    · exact .inl (.of_nodes _ rfl (by simp [Unsettling, Event.settles]) rfl transit rfl)
    rcases accepts.outcome with ⟨cmd, _, trace⟩ | ⟨cmd, _, task, _, trace⟩
    · exact .inr ⟨n, _, .process givingUp transit accepts cmd trace⟩
    · exact .inl (.of_nodes _ trace (by simp [Unsettling, Event.settles])
        ((congrArg CommandState.toNodeState cmd).trans (acceptResponse_nodes _ _)) transit
        (MainPc.plain_of_answer (congrArg Prod.fst task)).givingUp)
  case complete idx result =>
    cases moved
    cases current : s.priv.curCmd with
    | none =>
        refine .inl (.of_nodes [] ?_ .nil ?_ transit rfl)
        · simp [logCompleted, current]
        · simp [completeCurCmd, current]
    | some n =>
        have completed := completeCurCmd_of_current (result.toNat : Int) current
        refine .inr ⟨n, result.toNat, .of_only [] (logCompleted_trace current) .nil
          (.inr (.inr ⟨givingUp, current⟩)) (fun m inHand => ?_) ?_ (fun m other => ?_) ?_
          (.inl ?_)⟩
        · rcases inHand with pending | moving | ⟨_, isCurrent⟩
          · exact .inr pending
          · rw [transit] at moving
            cases moving
          · exact .inl (Option.some.inj (isCurrent.symm.trans current))
        · simp [completed]
        · simp [completed, CommandState.lbsCompleteCommand_of_ne other]
        · simp [completed]
        · simp [completed, lbsCompleteCommand_curCmdRetcode, current]
  case ignore m wake =>
    cases moved
    have unheld := idle (by rw [pc]; rfl)
    refine .inr ⟨m, 0, .of_only [] rfl .nil (.inr (.inl transit)) (fun k inHand => ?_)
      CommandState.lbsCompleteCommand_cmdwaitqwoken
      (fun k other => CommandState.lbsCompleteCommand_of_ne other)
      CommandState.lbsCompleteCommand_cmdpendingq (.inr ⟨wake, pc, rfl, ?_⟩)⟩
    · rcases inHand with pending | moving | ⟨_, isCurrent⟩
      · exact .inr pending
      · exact .inl (Option.some.inj (moving.symm.trans transit))
      · rw [unheld] at isCurrent
        cases isCurrent
    · simp [lbsCompleteCommand_curCmdRetcode, unheld]
  case dispatch idx result =>
    have frame := dispatchStep_frame moved
    have unsettling : Unsettling events := told.unsettling (by simp [pc]) (by simp [pc])
      (by simp [pc]) fun _ spent => absurd (pc.symm.trans spent.1) (by simp)
    exact .inl (.of_nodes events appended unsettling
      (congrArg CommandState.toNodeState frame.cmd) transit
      (MainPc.plain_of_answer (congrArg Prod.fst frame.task)).givingUp)
  case response =>
    split at moved <;> cases moved <;>
      exact .inl (.of_nodes [] (List.append_nil _).symm .nil rfl transit rfl)
  case clear idx =>
    cases moved
    exact .inl (.of_nodes [] (List.append_nil _).symm .nil rfl transit rfl)
  case giveUpFree m =>
    cases moved
    refine .inl (.still [] (List.append_nil _).symm Unsettling.nil (releaseAsync_cmdwaitqwoken _)
      fun k inHand => ?_)
    rcases inHand with pending | moving | ⟨kept, _⟩
    · exact .inl (CommandState.releaseAsync_cmdpendingq.symm ▸ pending)
    · rw [transit] at moving
      cases moving
    · rw [givingUp] at kept
      cases kept
  case giveUpDrop m =>
    cases moved
    refine .inl (.still [] (List.append_nil _).symm Unsettling.nil (fun _ => rfl)
      fun k inHand => ?_)
    rcases inHand with pending | moving | ⟨kept, _⟩
    · exact .inl pending
    · rw [transit] at moving
      cases moving
    · rw [givingUp] at kept
      cases kept
  case requeue m =>
    cases moved
    refine .inl (.still [] (List.append_nil _).symm Unsettling.nil (fun _ => rfl)
      fun k inHand => ?_)
    rcases inHand with pending | moving | ⟨_, current⟩
    · exact .inl (CommandState.mem_insertPending.mpr (.inr pending))
    · obtain rfl := Option.some.inj (transit.symm.trans moving)
      exact .inl (CommandState.mem_insertPending.mpr (.inl rfl))
    · exact .inr (.inr ⟨rfl, current⟩)
  case execute =>
    split at moved
    · split at moved <;> cases moved <;>
        exact .inl (.of_nodes [] (List.append_nil _).symm .nil rfl transit rfl)
    · cases moved
      exact .inl (.of_nodes [] (List.append_nil _).symm .nil rfl transit rfl)
  case submit m =>
    cases moved
    have unheld := idle (by rw [pc]; rfl)
    refine .inl (.still _ rfl (by simp [Event.settles]) (fun _ => rfl)
      fun k inHand => ?_)
    rcases inHand with pending | moving | ⟨_, current⟩
    · exact .inl pending
    · exact .inr (.inr ⟨rfl, transit.symm.trans moving⟩)
    · rw [unheld] at current
      cases current
  case send m =>
    cases moved
    exact .inl (.of_nodes _ rfl (by simp [Unsettling, Event.settles]) (by simp) transit rfl)
  all_goals exact absurd (congrArg MainPc.quiet pc) quiet

/-- The record of `cur_cmd_retcode` is kept by events that say nothing about it. -/
theorem recorded_keep {events : List Event} (appended : t.trace = s.trace ++ events)
    (silent : ∀ e ∈ events, ∀ last, Event.record last e = last) : t.recorded = s.recorded := by
  rw [recorded_append appended]
  generalize s.recorded = last
  clear appended
  induction events with
  | nil => rfl
  | cons e rest ih =>
      rw [List.foldl_cons, silent e List.mem_cons_self]
      exact ih fun e member => silent e (List.mem_cons_of_mem _ member)

/-- Where the main thread handles no command it writes no result. -/
theorem stores_of_quiet (quiet : s.main.quiet = true) : s.stores = none := by
  rw [stores]
  cases pc : s.main <;> rw [pc] at quiet <;> first | rfl | cases quiet

/-- The locked start of `lbs_process_command_response` records the result that it accepts. -/
theorem processResponse_retcode {idx : Fin 2} (pc : s.main = .process idx)
    (processed : s.processResponse idx c = some t) :
    (s.stores = none ∧ t.priv.curCmdRetcode = s.priv.curCmdRetcode ∧ t.recorded = s.recorded) ∨
      ∃ v, s.stores = some v ∧ t.priv.curCmdRetcode = v ∧
        (v ≠ 0 → ∃ d, t.recorded = some (d, v)) := by
  rw [processResponse] at processed
  dsimp only at processed
  split at processed
  · rename_i drop
    cases processed
    exact .inl ⟨by simp [stores, pc, drop], rfl, recorded_keep rfl (by simp [Event.record])⟩
  · rename_i next ret done
    obtain ⟨n, accepted, cmd⟩ := judge_eq_done done
    cases processed
    refine .inr ⟨(respResult (s.priv.respBuf idx)).toNat, by simp [stores, pc, done], ?_, ?_⟩
    · show next.curCmdRetcode = _
      rw [cmd, lbsCompleteCommand_curCmdRetcode]
      exact if_pos accepted.current
    · intro nonzero
      have failed : (respResult (s.priv.respBuf idx)).toNat ≠ 0 := by exact_mod_cast nonzero
      refine ⟨s.owner n, ?_⟩
      simp [recorded, logAccepted, logCompleted, accepted.current, Event.record, failed, Sys.owner]
  · rename_i next wakeup
    obtain ⟨n, accepted, zero, cmd⟩ := judge_eq_wakeup wakeup
    obtain ⟨_, rfl⟩ := beginCall_eq_some processed
    refine .inr ⟨0, by simp [stores, pc, wakeup, zero], ?_, fun nonzero => absurd rfl nonzero⟩
    show next.curCmdRetcode = 0
    rw [cmd]
    simp [acceptResponse, zero]
  · rename_i next dispatch
    obtain ⟨n, accepted, zero, rfl⟩ := judge_eq_dispatch dispatch
    cases processed
    refine .inr ⟨0, by simp [stores, pc, dispatch, zero], ?_, fun nonzero => absurd rfl nonzero⟩
    simp [acceptResponse, zero]

/-- What a step of the main thread does to `cur_cmd_retcode` and to the record of it. -/
theorem mainStep_retcode {success : Bool} (idle : s.main.choosing = true → s.priv.curCmd = none)
    (moved : s.mainStep success c = some t) :
    (s.stores = none ∧ t.priv.curCmdRetcode = s.priv.curCmdRetcode ∧ t.recorded = s.recorded) ∨
      ∃ v, s.stores = some v ∧ t.priv.curCmdRetcode = v ∧
        (v ≠ 0 → ∃ d, t.recorded = some (d, v)) := by
  by_cases quiet : s.main.quiet = true
  · have step := mainStep_quiet quiet moved
    obtain ⟨events, appended, neutral⟩ := step.trace
    refine .inl ⟨?_, step.priv.curCmdRetcode, recorded_keep appended fun e member last => ?_⟩
    · exact stores_of_quiet quiet
    · have outside := neutral e member
      cases e <;> first | rfl | cases outside
  cases pc : s.main
  all_goals simp only [Sys.mainStep, pc] at moved
  case process idx => exact processResponse_retcode pc moved
  case dispatch idx result =>
    have frame := dispatchStep_frame moved
    refine .inl ⟨by simp [stores, pc], congrArg CommandState.curCmdRetcode frame.cmd, ?_⟩
    have trace := frame.trace
    rw [logCallback] at trace
    split at trace
    · exact recorded_keep (trace.trans (List.append_nil _).symm) (by simp)
    · exact recorded_keep trace (by simp [Event.record])
  case complete idx result =>
    cases moved
    cases current : s.priv.curCmd with
    | none =>
        refine .inl ⟨by simp [stores, pc, current], by simp [completeCurCmd, current], ?_⟩
        simp [recorded, logCompleted, current]
    | some n =>
        refine .inr ⟨result.toNat, by simp [stores, pc, current], ?_, fun nonzero => ?_⟩
        · simp [completeCurCmd_of_current _ current, lbsCompleteCommand_curCmdRetcode, current]
        · refine ⟨s.owner n, ?_⟩
          have failed : result.toNat ≠ 0 := by exact_mod_cast nonzero
          simp [recorded, logCompleted, current, Event.record, failed]
  case timeout =>
    cases moved
    rw [timeoutStep]
    split
    · rename_i n timedOut current
      dsimp only
      split
      · rename_i many
        refine .inr ⟨-eTimedOut, by simp [stores, pc, timedOut, current, many], if_pos current,
          fun _ => ⟨s.owner n, ?_⟩⟩
        simp [recorded, Event.record, eTimedOut]
      · rename_i few
        exact .inl ⟨by simp [stores, pc, few], rfl, rfl⟩
    · rename_i other
      refine .inl ⟨?_, rfl, rfl⟩
      simp only [stores, pc]
      split
      · rename_i spent
        cases current : s.priv.curCmd with
        | none => rfl
        | some n => exact absurd current (other n spent.1)
      · rfl
  case ignore n wake =>
    cases moved
    have unheld := idle (by rw [pc]; rfl)
    refine .inl ⟨by simp [stores, pc], ?_, recorded_keep rfl (by simp [Event.record])⟩
    simp [lbsCompleteCommand_curCmdRetcode, unheld]
  case submit n =>
    cases moved
    exact .inr ⟨0, by simp [stores, pc], rfl, fun nonzero => absurd rfl nonzero⟩
  case head n =>
    rw [headStep] at moved
    split at moved
    case h_3 =>
      obtain ⟨_, rfl⟩ := beginCall_eq_some moved
      exact .inl ⟨by simp [stores, pc], rfl, rfl⟩
    all_goals
      cases moved
      exact .inl ⟨by simp [stores, pc], rfl, rfl⟩
  case execute | response =>
    split at moved
    · first
      | (cases moved; exact .inl ⟨by simp [stores, pc], rfl, rfl⟩)
      | (split at moved <;> cases moved <;> exact .inl ⟨by simp [stores, pc], rfl, rfl⟩)
    · cases moved
      exact .inl ⟨by simp [stores, pc], rfl, rfl⟩
  case send n =>
    cases moved
    exact .inl ⟨by simp [stores, pc], by simp, recorded_keep rfl (by simp [Event.record])⟩
  case giveUpFree n =>
    cases moved
    exact .inl ⟨by simp [stores, pc], CommandState.releaseAsync_curCmdRetcode, rfl⟩
  case clear | giveUpDrop | requeue =>
    cases moved
    exact .inl ⟨by simp [stores, pc], rfl, rfl⟩
  all_goals exact absurd (congrArg MainPc.quiet pc) quiet

end Main

end Sys

end Libertas
