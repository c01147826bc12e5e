import Libertas.Cmd.Prepare

/-!
# Executing the next pending command

`lbs_execute_next_command` looks at the head of `cmdpendingq` under the lock and
then decides, without the lock, what to do with it. The decision is `headAction`,
the one for an empty queue is `mustSleep`. `lbsExecuteNextCommand` runs the whole
function without interruption.
-/

namespace Libertas

/-- `is_command_allowed_in_ps`. -/
def isCommandAllowedInPs (cmd : UInt16) : Bool :=
  cmd = cmd80211Rssi

/-- The card sleeps or is about to. -/
def PsState.asleep : PsState → Bool
  | .sleep | .preSleep => true
  | .fullPower | .awake => false

/-- What is done with the head of `cmdpendingq`. -/
inductive HeadAction
  /-- The command cannot be sent now. -/
  | refuse
  /-- `needtowakeup` is set and the command stays queued. -/
  | markWakeup
  /-- `lbs_ps_wakeup` is called and the command stays queued. -/
  | wakeup
  /-- The command is unlinked and completed with result 0 without being sent; the flag says
  whether `needtowakeup` is set. -/
  | ignore (wake : Bool)
  /-- The command is unlinked and submitted. -/
  | submit
deriving DecidableEq, Repr

/-- The decision of `lbs_execute_next_command` about a command. -/
def headAction (psstate : PsState) (cmdbuf : CmdBuf) : HeadAction :=
  if isCommandAllowedInPs cmdbuf.command then
    if psstate.asleep then .refuse else .submit
  else if psstate ≠ .fullPower then
    if cmdbuf.command ≠ cmd80211PsMode then
      if psstate.asleep then .markWakeup else .wakeup
    else if cmdbuf.psAction ≠ cmdSubcmdExitPs then .ignore false
    else if psstate.asleep then .ignore true
    else .submit
  else .submit

/-- Only power-save commands are ignored. -/
theorem command_of_ignore {psstate : PsState} {cmdbuf : CmdBuf} {wake : Bool}
    (ignored : headAction psstate cmdbuf = .ignore wake) : cmdbuf.command = cmd80211PsMode := by
  rw [headAction] at ignored
  split at ignored
  · split at ignored <;> cases ignored
  split at ignored
  · split at ignored
    · split at ignored <;> cases ignored
    · rename_i mode
      simpa using mode
  · cases ignored

/-- Nothing is put off while the card does not sleep. -/
theorem headAction_of_awake {psstate : PsState} {cmdbuf : CmdBuf}
    (awake : psstate.asleep = false) :
    headAction psstate cmdbuf ≠ .refuse ∧ headAction psstate cmdbuf ≠ .markWakeup := by
  rw [headAction]
  simp only [awake, Bool.false_eq_true, ↓reduceIte]
  repeat' split
  all_goals exact ⟨nofun, nofun⟩

/-- A command waits for EXIT_PS only while the card is awake in power save. -/
theorem waiting_of_wakeup {psstate : PsState} {cmdbuf : CmdBuf}
    (wakeup : headAction psstate cmdbuf = .wakeup) :
    psstate = .awake ∧ isCommandAllowedInPs cmdbuf.command = false ∧
      cmdbuf.command ≠ cmd80211PsMode := by
  rw [headAction] at wakeup
  split at wakeup
  · split at wakeup <;> cases wakeup
  rename_i forbidden
  split at wakeup
  · rename_i saving
    split at wakeup
    · rename_i other
      split at wakeup <;> cases wakeup
      rename_i rouses
      refine ⟨?_, by simpa using forbidden, other⟩
      cases psstate with
      | fullPower => exact absurd rfl saving
      | awake => rfl
      | preSleep | sleep => exact absurd rfl rouses
    · split at wakeup
      · cases wakeup
      · split at wakeup <;> cases wakeup
  · cases wakeup

/-- With nothing pending, the card is put back to power save. -/
def mustSleep (priv : Priv) : Bool :=
  priv.settings.psmode ≠ lbs80211PowermodeCam && priv.psstate = .fullPower &&
  (priv.connectStatus = .connected || priv.settings.meshConnectStatus = .connected) &&
  (if priv.settings.wpaEnabled || priv.settings.wpa2Enabled then
    priv.settings.wpaMcastKeyLen ≠ 0 || priv.settings.wpaUnicastKeyLen ≠ 0
  else true)

/-- `hw_host_to_card` with a command: a successful call marks the download as in progress. -/
def handCommand (priv : Priv) (success : Bool) : Priv :=
  if success then { priv with dnldSent := .cmdSent } else priv

@[simp] theorem handCommand_cmd (priv : Priv) (success : Bool) :
    (handCommand priv success).toCommandState = priv.toCommandState := by
  rw [handCommand]
  split <;> rfl

/-- `lbs_submit_command` behind its locked part: the timer is started whether or not the command
was handed to the card. -/
def sendCurCmd (priv : Priv) (success : Bool) : Priv :=
  { handCommand priv success with commandTimer := true }

@[simp] theorem sendCurCmd_nodes (priv : Priv) (success : Bool) :
    (sendCurCmd priv success).toNodeState = priv.toNodeState := by
  simp [sendCurCmd]

@[simp] theorem sendCurCmd_curCmdRetcode (priv : Priv) (success : Bool) :
    (sendCurCmd priv success).curCmdRetcode = priv.curCmdRetcode := by
  simp [sendCurCmd]

/-- What `lbs_execute_next_command` does with the head of `cmdpendingq`. -/
def executeHead (priv : Priv) (n : NodeId) (call : CallId) (success : Bool) : Priv × Int :=
  match headAction priv.psstate (priv.cmdArray n).cmdbuf with
  | .refuse => (priv, -1)
  | .markWakeup => ({ priv with needtowakeup := true }, 0)
  | .wakeup => (lbsPsWakeup priv call, 0)
  | .ignore wake =>
      ({ priv with
          toCommandState := (priv.unlinkPending n).lbsCompleteCommand n 0
          needtowakeup := wake || priv.needtowakeup }, 0)
  | .submit =>
      (sendCurCmd
        { priv with toCommandState := (priv.unlinkPending n).setCurCmd n } success, 0)

/-- `lbs_execute_next_command`, run without interruption. The call is the one it makes when it
wakes the card or puts it to sleep, and `success` is the outcome of `hw_host_to_card`. -/
def lbsExecuteNextCommand (priv : Priv) (call : CallId) (success : Bool) : Priv × Int :=
  if priv.curCmd.isSome then (priv, -1)
  else
    match priv.cmdpendingq with
    | [] => (if mustSleep priv then lbsPsSleep priv call else priv, 0)
    | n :: _ => executeHead priv n call success

end Libertas
