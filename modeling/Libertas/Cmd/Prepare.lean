import Libertas.Cmd.Queue

/-!
# Calls of the command functions

A `Request` is one call of `lbs_prepare_and_send_command`, `__lbs_cmd` or
`lbs_cmd_async` with everything the caller passes. The switch over `cmd_no` is
`Request.prepare`; apart from the power-save command, whose contents the driver
itself inspects, the bytes that a builder writes are part of the request.
-/

namespace Libertas

/-- Which function was called. -/
inductive CallKind
  /-- `lbs_prepare_and_send_command`, with or without `CMD_OPTION_WAITFORRSP`. -/
  | prepareAndSend (waitForRsp : Bool)
  /-- `__lbs_cmd` with a callback. -/
  | cmd (callback : SyncCallback)
  /-- `lbs_cmd_async`. -/
  | cmdAsync
deriving DecidableEq, Repr

/-- One call of a command function. -/
structure Request where
  kind : CallKind
  cmdNo : UInt16
  cmdAction : UInt16
  /-- The size field and the bytes behind the header: those of `in_cmd`, or those the builder
  of `cmd_no` writes; `none` when that builder fails. -/
  content : Option (UInt16 × List UInt8)
  /-- The buffer behind `pdata_buf` or `callback_arg`; `none` for a NULL pointer. -/
  buffer : Option (List UInt8)
deriving DecidableEq, Repr

/-- The body of `struct cmd_ds_802_11_ps_mode` that `lbs_cmd_802_11_ps_mode` writes.
`MRVDRV_DEFAULT_MULTIPLE_DTIM` is 1. -/
def lbsCmd80211PsMode (cmdAction : UInt16) : List UInt8 :=
  let multipledtim : UInt16 := if cmdAction = cmdSubcmdEnterPs then 1 else 0
  ByteOrder.le16Bytes cmdAction ++ [0, 0] ++ ByteOrder.le16Bytes multipledtim ++ [0, 0, 0, 0]

/-- The commands that the switch of `lbs_prepare_and_send_command` passes to a builder. -/
def builtCommands : List UInt16 :=
  [cmd80211Associate, cmd80211Reassociate, cmd80211Deauthenticate, cmd80211AdHocStart,
    cmd80211Reset, cmd80211Authenticate, cmd80211SnmpMib, cmdMacRegAccess, cmdBbpRegAccess,
    cmdRfRegAccess, cmd80211RfTxPower, cmd80211MonitorMode, cmd80211AdHocJoin, cmd80211Rssi,
    cmd80211AdHocStop, cmd80211dDomainInfo, cmd80211TpcCfg, cmd80211LedGpioCtrl, cmdBtAccess,
    cmdFwtAccess, cmdGetTsf, cmd80211BeaconCtrl]

/-- How the switch over `cmd_no` ends. -/
inductive Prepared
  /-- The builder failed, or there is none. -/
  | failed
  /-- `CMD_802_11_SET_AFC` and `CMD_802_11_GET_AFC` jump over the submission. -/
  | unsubmitted
  | ready (command size : UInt16) (body : List UInt8)
deriving DecidableEq, Repr

namespace Request

variable (req : Request)

/-- The switch over `cmd_no`. A reassociation is sent as an association. -/
def prepare : Prepared :=
  if req.cmdNo = cmd80211PsMode then
    .ready cmd80211PsMode 18 (lbsCmd80211PsMode req.cmdAction)
  else if req.cmdNo = cmd80211SetAfc ∨ req.cmdNo = cmd80211GetAfc then .unsubmitted
  else if req.cmdNo ∈ builtCommands then
    match req.content with
    | none => .failed
    | some (size, body) =>
        .ready (if req.cmdNo = cmd80211Reassociate then cmd80211Associate else req.cmdNo)
          size body
  else .failed

/-- What `__lbs_cmd_async` copies into the buffer. It always gets a command. -/
def copied : Prepared :=
  let (size, body) := req.content.getD (0, [])
  .ready req.cmdNo size body

/-- The command that the call puts into its node. -/
def assemble : Prepared :=
  match req.kind with
  | .prepareAndSend _ => req.prepare
  | .cmd _ | .cmdAsync => req.copied

/-- The callback that the call installs. -/
def callback : Option Callback :=
  match req.kind with
  | .prepareAndSend _ => none
  | .cmd callback => some (.sync callback)
  | .cmdAsync => some .lbsCmdAsyncCallback

/-- The call sleeps until its command completes. -/
def waits : Bool :=
  match req.kind with
  | .prepareAndSend waitForRsp => waitForRsp
  | .cmd _ => true
  | .cmdAsync => false

/-- The call frees its node itself. -/
def isCmd : Bool :=
  match req.kind with
  | .cmd _ => true
  | .prepareAndSend _ | .cmdAsync => false

/-- The pointer that a call passes. -/
def pointer (call : CallId) : Option Pointer :=
  req.buffer.map fun _ => call

/-- The buffer when the call starts. The macro `lbs_cmd_with_response` first writes the size of
the caller's structure into the size field of its header. -/
def storedBuffer (bytes : List UInt8) : List UInt8 :=
  if req.kind = .cmd .lbsCmdCopyback then
    bytes.take 2 ++ ByteOrder.le16Bytes (UInt16.ofNat bytes.length) ++ bytes.drop 4
  else bytes

theorem callback_of_isCmd {req : Request} (cmd : req.isCmd = true) :
    ∃ cb, req.callback = some (.sync cb) := by
  cases kind : req.kind <;> simp_all [isCmd, callback]

theorem waits_of_isCmd {req : Request} (cmd : req.isCmd = true) : req.waits = true := by
  cases kind : req.kind <;> simp_all [isCmd, waits]

/-- The return value when the card is gone. -/
def removedRet : Int :=
  match req.kind with
  | .prepareAndSend _ => -1
  | .cmd _ | .cmdAsync => -eNoEnt

/-- The return value when there is no free node. -/
def exhaustedRet : Int :=
  match req.kind with
  | .prepareAndSend _ => -1
  | .cmd _ | .cmdAsync => -eNoBufs

end Request

/-- The call that `lbs_ps_wakeup(priv, 0)` makes. It passes a local variable that holds
`LBS802_11POWERMODECAM`. -/
def psWakeupRequest : Request :=
  { kind := .prepareAndSend false, cmdNo := cmd80211PsMode, cmdAction := cmdSubcmdExitPs
    content := none, buffer := some [0, 0, 0, 0] }

/-- The call that `lbs_ps_sleep(priv, 0)` makes. -/
def psSleepRequest : Request :=
  { kind := .prepareAndSend false, cmdNo := cmd80211PsMode, cmdAction := cmdSubcmdEnterPs
    content := none, buffer := none }

/-- The call that `lbs_update_hw_spec` makes, for an address of zeros. -/
def hwSpecRequest : Request :=
  { kind := .cmd .lbsCmdCopyback, cmdNo := cmdGetHwSpec, cmdAction := 0
    content := some (46, List.replicate 38 0), buffer := some (List.replicate 46 0) }

/-- `lbs_prepare_and_send_command` without `CMD_OPTION_WAITFORRSP`, run without interruption. -/
def lbsPrepareAndSendCommand (priv : Priv) (call : CallId) (req : Request) : Priv × Int :=
  if priv.surpriseremoved then (priv, -1)
  else
    match priv.lbsGetCmdCtrlNode call with
    | none => (priv, -1)
    | some (n, cs) =>
        let cs := cs.initNode n none (req.pointer call)
        match req.prepare with
        | .failed => ({ priv with toCommandState := cs.lbsCleanupAndInsertCmd n }, -1)
        | .unsubmitted => ({ priv with toCommandState := cs }, 0)
        | .ready command size body =>
            let queued := (cs.stampNode n command size body).lbsQueueCmd n priv.psstate
            ({ priv with toCommandState := queued.takeRetcode.1 }, queued.takeRetcode.2)

/-- `lbs_ps_wakeup(priv, 0)`. -/
def lbsPsWakeup (priv : Priv) (call : CallId) : Priv :=
  (lbsPrepareAndSendCommand priv call psWakeupRequest).1

/-- `lbs_ps_sleep(priv, 0)`. -/
def lbsPsSleep (priv : Priv) (call : CallId) : Priv :=
  (lbsPrepareAndSendCommand priv call psSleepRequest).1

/-- What the driver reads back from a power-save command it built is the action it was built
with. -/
theorem psAction_of_psMode (action : UInt16) (seqnum : UInt16) :
    CmdBuf.psAction
      { command := cmd80211PsMode, size := 18, seqnum := seqnum, result := 0
        body := lbsCmd80211PsMode action } = action := by
  simp [CmdBuf.psAction, lbsCmd80211PsMode]

end Libertas
