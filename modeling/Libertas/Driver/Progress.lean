import Libertas.Driver.System

/-!
# When the command queue moves on

With the card awake but in power save, a command that is not allowed there waits
until an EXIT_PS command was sent. `lbs_execute_next_command` queues one with
`lbs_ps_wakeup`, which needs a free node and ignores that there is none.
-/

namespace Libertas

/-- The command queue moved on. -/
inductive Advances (priv next : Priv) : Prop
  /-- A pending command was submitted. -/
  | submitted (n : NodeId) : n ∈ priv.cmdpendingq → next.curCmd = some n → Advances priv next
  /-- The first pending command was completed. -/
  | completed (n : NodeId) : priv.cmdpendingq = n :: next.cmdpendingq →
      (next.cmdArray n).cmdwaitqwoken = true → Advances priv next
  /-- The first pending command is EXIT_PS. -/
  | exiting (n : NodeId) : next.cmdpendingq.head? = some n →
      (next.cmdArray n).cmdbuf.command = cmd80211PsMode →
      (next.cmdArray n).cmdbuf.psAction = cmdSubcmdExitPs → Advances priv next

section Wakeup

variable {priv : Priv} {call : CallId}

/-- Without a card or a free node, `lbs_ps_wakeup` does nothing. -/
theorem lbsPsWakeup_of_exhausted (exhausted : priv.surpriseremoved = true ∨ priv.cmdfreeq = []) :
    lbsPsWakeup priv call = priv := by
  rw [lbsPsWakeup, lbsPrepareAndSendCommand]
  rcases exhausted with removed | exhausted
  · rw [if_pos removed]
  · have none : priv.lbsGetCmdCtrlNode call = none := by
      simp [CommandState.lbsGetCmdCtrlNode, exhausted]
    rw [none]
    split <;> rfl

/-- An EXIT_PS command that is queued while the card saves power comes first. -/
theorem lbsQueueCmd_exitPs (cs : CommandState) (n : NodeId) {psstate : PsState}
    (saving : psstate ≠ .fullPower) :
    let stamped := cs.stampNode n cmd80211PsMode 18 (lbsCmd80211PsMode cmdSubcmdExitPs)
    stamped.lbsQueueCmd n psstate = (stamped.clearResult n).insertPending n false := by
  intro stamped
  have action := psAction_of_psMode cmdSubcmdExitPs cs.seqnum
  have front : (stamped.clearResult n).addtail n psstate = false := by
    simp [stamped, CommandState.addtail, CommandState.clearResult, CommandState.stampNode,
      action, saving]
  rw [CommandState.lbsQueueCmd]
  rw [if_neg (by simp [stamped, CommandState.stampNode]), front]

/-- With a free node, `lbs_ps_wakeup` puts EXIT_PS in front of everything that is pending. -/
theorem lbsPsWakeup_of_free (call : CallId) {n : NodeId} {rest : List NodeId}
    (present : priv.surpriseremoved = false) (free : priv.cmdfreeq = n :: rest)
    (saving : priv.psstate ≠ .fullPower) :
    (lbsPsWakeup priv call).cmdpendingq = n :: priv.cmdpendingq ∧
      ((lbsPsWakeup priv call).cmdArray n).cmdbuf.command = cmd80211PsMode ∧
      ((lbsPsWakeup priv call).cmdArray n).cmdbuf.psAction = cmdSubcmdExitPs := by
  have got : priv.lbsGetCmdCtrlNode call =
      some (n, { priv.toCommandState with cmdfreeq := rest }.modifyNode n
        fun node => { node with owner := call }) := by
    simp [CommandState.lbsGetCmdCtrlNode, free]
  have action := psAction_of_psMode cmdSubcmdExitPs
  have prepared : psWakeupRequest.prepare =
      .ready cmd80211PsMode 18 (lbsCmd80211PsMode cmdSubcmdExitPs) := rfl
  rw [lbsPsWakeup, lbsPrepareAndSendCommand]
  simp only [present, Bool.false_eq_true, ↓reduceIte, got, prepared,
    lbsQueueCmd_exitPs _ n saving]
  generalize queue : CommandState.insertPending _ n false = queued
  have nodes : queued.takeRetcode.1.toNodeState = queued.toNodeState := by simp
  have pending : queued.takeRetcode.1.cmdpendingq = queued.cmdpendingq :=
    congrArg NodeState.cmdpendingq nodes
  have array : queued.takeRetcode.1.cmdArray = queued.cmdArray :=
    congrArg NodeState.cmdArray nodes
  rw [pending, array, ← queue]
  refine ⟨rfl, ?_, ?_⟩
  · simp [CommandState.clearResult, CommandState.stampNode]
  · simp [CommandState.clearResult, CommandState.stampNode, action]

/-- The head of the queue can be dealt with. -/
def HeadMoves (priv : Priv) (n : NodeId) : Prop :=
  isCommandAllowedInPs (priv.cmdArray n).cmdbuf.command = true ∨
    (priv.cmdArray n).cmdbuf.command = cmd80211PsMode ∨
    (priv.surpriseremoved = false ∧ priv.cmdfreeq ≠ [])

section Awake

variable {n : NodeId} {rest : List NodeId} {success : Bool}

theorem executes (idle : priv.curCmd = none) (pending : priv.cmdpendingq = n :: rest) :
    lbsExecuteNextCommand priv call success = executeHead priv n call success := by
  simp [lbsExecuteNextCommand, idle, pending]

theorem advances_of_submit (pending : priv.cmdpendingq = n :: rest)
    (action : headAction priv.psstate (priv.cmdArray n).cmdbuf = .submit) :
    Advances priv (executeHead priv n call success).1 := by
  have member : n ∈ priv.cmdpendingq := by simp [pending]
  simp only [executeHead, action]
  apply Advances.submitted n member
  cases success <;> rfl

theorem advances_of_ignore {wake : Bool} (pending : priv.cmdpendingq = n :: rest)
    (action : headAction priv.psstate (priv.cmdArray n).cmdbuf = .ignore wake) :
    Advances priv (executeHead priv n call success).1 := by
  simp only [executeHead, action]
  apply Advances.completed n
  · simp [pending]
  · exact CommandState.lbsCompleteCommand_cmdwaitqwoken

theorem advances_of_wakeup (present : priv.surpriseremoved = false) (free : priv.cmdfreeq ≠ [])
    (saving : priv.psstate ≠ .fullPower)
    (action : headAction priv.psstate (priv.cmdArray n).cmdbuf = .wakeup) :
    Advances priv (executeHead priv n call success).1 := by
  obtain ⟨m, others, free⟩ := List.exists_cons_of_ne_nil free
  obtain ⟨pending, command, exits⟩ := lbsPsWakeup_of_free call present free saving
  simp only [executeHead, action]
  exact .exiting m (by simp [pending]) command exits

/-- A command that cannot be dealt with waits for EXIT_PS. -/
theorem headAction_of_stuck (awake : priv.psstate = .awake) (stuck : ¬ HeadMoves priv n) :
    headAction priv.psstate (priv.cmdArray n).cmdbuf = .wakeup := by
  simp only [HeadMoves, not_or] at stuck
  obtain ⟨forbidden, other, _⟩ := stuck
  simp [headAction, awake, forbidden, other, PsState.asleep]

/-- A command that waits for EXIT_PS stays where it is when there is no node for it. -/
theorem executeHead_of_stuck (awake : priv.psstate = .awake) (stuck : ¬ HeadMoves priv n) :
    executeHead priv n call success = (priv, 0) := by
  have action := headAction_of_stuck awake stuck
  simp only [HeadMoves, not_or, not_and, ne_eq, not_not] at stuck
  obtain ⟨_, _, exhausted⟩ := stuck
  have nothing : lbsPsWakeup priv call = priv := by
    apply lbsPsWakeup_of_exhausted
    cases removed : priv.surpriseremoved with
    | true => exact .inl rfl
    | false => exact .inr (exhausted removed)
  simp only [executeHead, action, nothing]

/-- A state that stays as it is has not moved on. -/
theorem not_advances_of_stuck (idle : priv.curCmd = none) (pending : priv.cmdpendingq = n :: rest)
    (stuck : ¬ HeadMoves priv n) : ¬ Advances priv priv := by
  intro advances
  cases advances with
  | submitted m _ current => simp [idle] at current
  | completed m same => simp [pending] at same
  | exiting m first mode =>
      obtain rfl : n = m := by simpa [pending] using first
      exact stuck (.inr (.inl mode))

/-- With the card awake in power save and no command in flight, the queue moves on exactly when
its head is allowed in power save or a power-save command, or the card is present and a node is
free. -/
theorem advances_iff_headMoves (priv : Priv) (call : CallId) (success : Bool) (n : NodeId)
    (rest : List NodeId) (awake : priv.psstate = .awake) (idle : priv.curCmd = none)
    (pending : priv.cmdpendingq = n :: rest) :
    Advances priv (lbsExecuteNextCommand priv call success).1 ↔ HeadMoves priv n := by
  rw [executes idle pending]
  constructor
  · intro advances
    by_contra stuck
    rw [executeHead_of_stuck awake stuck] at advances
    exact not_advances_of_stuck idle pending stuck advances
  · intro moves
    by_cases allowed : isCommandAllowedInPs (priv.cmdArray n).cmdbuf.command = true
    · apply advances_of_submit pending
      simp [headAction, allowed, awake, PsState.asleep]
    by_cases mode : (priv.cmdArray n).cmdbuf.command = cmd80211PsMode
    · rw [mode] at allowed
      by_cases exits : (priv.cmdArray n).cmdbuf.psAction = cmdSubcmdExitPs
      · apply advances_of_submit pending
        simp [headAction, mode, exits, awake, PsState.asleep]
      · have action : headAction priv.psstate (priv.cmdArray n).cmdbuf = .ignore false := by
          simp [headAction, allowed, mode, exits, awake]
        exact advances_of_ignore pending action
    · obtain ⟨present, free⟩ := (moves.resolve_left allowed).resolve_left mode
      apply advances_of_wakeup present free (by simp [awake])
      simp [headAction, allowed, mode, awake, PsState.asleep]

end Awake

end Wakeup

theorem advances_iff_headMoves_one_pending :
    let priv : Priv := { initAdapter with psstate := .awake, cmdpendingq := [0], cmdfreeq := [1] }
    Advances priv (lbsExecuteNextCommand priv 0 true).1 ↔ HeadMoves priv 0 :=
  advances_iff_headMoves _ 0 true 0 [] rfl rfl rfl

/-- In this state the queue does not move on. -/
structure Starved (priv : Priv) : Prop where
  awake : priv.psstate = .awake
  idle : priv.curCmd = none
  pending : priv.cmdpendingq.length = lbsNumCmdBuffers
  free : priv.cmdfreeq = []
  command : ∀ n ∈ priv.cmdpendingq, (priv.cmdArray n).cmdbuf.command = cmdGetHwSpec

instance (priv : Priv) : Decidable (Starved priv) :=
  decidable_of_iff
    (priv.psstate = .awake ∧ priv.curCmd = none ∧ priv.cmdpendingq.length = lbsNumCmdBuffers ∧
      priv.cmdfreeq = [] ∧
      ∀ n ∈ priv.cmdpendingq, (priv.cmdArray n).cmdbuf.command = cmdGetHwSpec)
    ⟨fun ⟨a, i, p, f, c⟩ => ⟨a, i, p, f, c⟩, fun ⟨a, i, p, f, c⟩ => ⟨a, i, p, f, c⟩⟩

/-- The settings of a station that saves power on a mesh. -/
def meshPowerSaving : Settings :=
  { initAdapter.settings with psmode := 1, meshConnectStatus := .connected }

/-- The reply to an ENTER_PS command with sequence number 1. -/
def enterPsReply : List UInt8 :=
  [0x21, 0x80, 18, 0, 1, 0, 0, 0, 0x30, 0, 0, 0, 0, 0, 0, 0, 0, 0]

/-- The main thread finds nothing pending and sends ENTER_PS, with call 100. -/
def enterPsInFlight : List Action :=
  [.setFwReady, .configure meshPowerSaving] ++ List.replicate 12 (.main true 100) ++
    List.replicate 7 (.client 100) ++ List.replicate 17 (.main true 101)

/-- A call that queues its command. -/
def hwSpecCall (c : CallId) : List Action :=
  .call c hwSpecRequest :: List.replicate 6 (.client c)

/-- While ENTER_PS is in flight nine calls take the other nodes. The reply comes when there is no
link, so the main thread makes call 200 to wake the card, finds no free node, and frees the node
of call 100. A tenth call takes it. -/
def starvingRun : List Action :=
  enterPsInFlight ++ (List.range 9).flatMap hwSpecCall ++
    [.hostToCardDone, .deliver enterPsReply] ++ List.replicate 4 (.main true 200) ++
    [.client 200, .client 200] ++ List.replicate 2 (.main true 201) ++ hwSpecCall 9

/-- All nodes are pending and nothing moves. -/
theorem starved_is_reachable : ∃ s, driver.Reachable s ∧ s.priv.psstate = .awake ∧
    s.priv.curCmd = none ∧ s.priv.cmdpendingq.length = lbsNumCmdBuffers ∧
    s.priv.cmdfreeq = [] ∧ ∀ call success,
      lbsExecuteNextCommand s.priv call success = (s.priv, 0) ∧
        ¬ Advances s.priv (lbsExecuteNextCommand s.priv call success).1 := by
  obtain ⟨s, executed, starved⟩ := Machine.exists_of_map (fun s : Sys => Starved s.priv)
    (show (driver.run Sys.init starvingRun).map _ = some true by decide +kernel)
  obtain ⟨n, rest, pending⟩ : ∃ n rest, s.priv.cmdpendingq = n :: rest := by
    exact List.exists_cons_of_length_eq_add_one starved.pending
  have command := starved.command n (by simp [pending])
  have stuck : ¬ HeadMoves s.priv n := by
    have forbidden : isCommandAllowedInPs cmdGetHwSpec = false := by decide
    have other : cmdGetHwSpec ≠ cmd80211PsMode := by decide
    simp [HeadMoves, command, starved.free, forbidden, other]
  have nothing : ∀ call success, lbsExecuteNextCommand s.priv call success = (s.priv, 0) :=
    fun call success => (executes starved.idle pending).trans
      (executeHead_of_stuck starved.awake stuck)
  refine ⟨s, Machine.reachable_of_run rfl executed, starved.awake, starved.idle,
    starved.pending, starved.free, fun call success => ⟨nothing call success, ?_⟩⟩
  rw [nothing]
  exact not_advances_of_stuck starved.idle pending stuck

end Libertas
