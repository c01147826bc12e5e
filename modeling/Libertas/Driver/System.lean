import Libertas.Transition.Basic
import Libertas.CmdResp.Process
import Libertas.Cmd.Execute

/-!
# The driver as a transition system

The parties are the main thread `lbs_thread`, any number of calls of the command
functions, the interrupt side that delivers responses and events, the command
timer, and the contexts that stop or remove the card or change settings. A step
is one region that no other party can observe half done: a region under
`driver_lock`, or a piece of unlocked code between two accesses to shared data.
The list operations that the main thread makes without the lock are one step here;
`Driver.Linking` gives them a duration.

Each call has a name that is used once. The main thread makes its own calls of
`lbs_ps_wakeup` and `lbs_ps_sleep` under names chosen by the action and waits
until they return.

`trace` and `memory` are observers: the trace records what happened, the memory
holds the callers' buffers. No step depends on the trace.
-/

namespace Libertas

/-- Where a call is. -/
inductive Phase
  /-- Not started. -/
  | idle
  /-- Before the test of `surpriseremoved`. -/
  | start
  /-- Before `lbs_get_cmd_ctrl_node`. -/
  | alloc
  /-- Before the callback and the sequence counter are set. -/
  | fill (n : NodeId)
  /-- Before the command is written to the buffer. -/
  | stamp (n : NodeId)
  /-- The builder failed. -/
  | abort (n : NodeId)
  /-- Before `lbs_queue_cmd`. -/
  | queue (n : NodeId)
  /-- Before the lock in `lbs_queue_cmd`, with the value of `addtail`. -/
  | insert (n : NodeId) (tail : Bool)
  /-- Waiting for a command of size zero, which was not queued. -/
  | unqueued (n : NodeId)
  /-- In `wait_event_interruptible`. -/
  | wait (n : NodeId)
  /-- Before the last lock. -/
  | finish (n : NodeId)
  | returned (ret : Int)
deriving DecidableEq, Repr

/-- A call of a command function. -/
structure Client where
  req : Request
  phase : Phase
  /-- A signal is pending for the caller. -/
  signalled : Bool
deriving DecidableEq, Repr

/-- A call that has not started. -/
def Client.unused : Client :=
  { req := psWakeupRequest, phase := .idle, signalled := false }

/-- Where `lbs_ps_confirm_sleep` was called from. -/
inductive ConfirmSite
  | event
  | presleep
deriving DecidableEq, Repr

/-- Where the main thread goes on after a call of its own. -/
inductive Resume
  /-- In `lbs_process_command_response`, before the completion. -/
  | complete (idx : Fin 2) (result : UInt16)
  /-- In the event loop. -/
  | events
  /-- After `lbs_execute_next_command`. -/
  | tx
deriving DecidableEq, Repr

/-- The control point of `lbs_thread`. -/
inductive MainPc
  /-- Before the decision to sleep. -/
  | top
  | sleeping
  /-- After `schedule`. -/
  | awake
  /-- Before the test for a response. -/
  | response
  /-- At the locked start of `lbs_process_command_response`. -/
  | process (idx : Fin 2)
  /-- Before the callback or handler of an accepted response. -/
  | dispatch (idx : Fin 2) (result : UInt16)
  /-- Before the completion of the command in flight. -/
  | complete (idx : Fin 2) (result : UInt16)
  /-- Before `resp_len[resp_idx] = 0`. -/
  | clear (idx : Fin 2)
  /-- Before the test for a timed out command. -/
  | timeout
  /-- In the unlocked completion of a command whose retries are spent, after the waiter was
  woken. -/
  | giveUpFree (n : NodeId)
  /-- In the same completion, before `cur_cmd = NULL`. -/
  | giveUpDrop (n : NodeId)
  /-- Before a timed out command goes back to the queue. -/
  | requeue (n : NodeId)
  | timeoutClear
  /-- At the head of the event loop. -/
  | events
  | event (e : UInt32)
  /-- At the locked test of `lbs_ps_confirm_sleep`. -/
  | confirm (site : ConfirmSite)
  /-- Before the sleep confirmation is handed to the card. -/
  | confirmSend (site : ConfirmSite)
  /-- At the locked end of `lbs_send_confirmsleep`. -/
  | confirmSet (site : ConfirmSite)
  /-- Before the test of `fw_ready`. -/
  | ready
  /-- Before the test for a delayed sleep confirmation. -/
  | presleep
  /-- Before the test for power save. -/
  | blocked
  /-- At the locked start of `lbs_execute_next_command`. -/
  | execute
  /-- Before the decision about the head of `cmdpendingq`. -/
  | head (n : NodeId)
  /-- Before an ignored power-save command is completed. -/
  | ignore (n : NodeId) (wake : Bool)
  /-- At the locked start of `lbs_submit_command`. -/
  | submit (n : NodeId)
  /-- Before the command is handed to the card. -/
  | send (n : NodeId)
  /-- With nothing pending, before the decision to go back to sleep. -/
  | goSleep
  /-- Waiting for a call of its own. -/
  | calling (c : CallId) (next : Resume)
  /-- Before a staged packet is sent. -/
  | tx
  | stopped
deriving DecidableEq, Repr

/-- The control point behind a call. -/
def Resume.pc : Resume → MainPc
  | .complete idx result => .complete idx result
  | .events => .events
  | .tx => .tx

/-- The control point behind `lbs_ps_confirm_sleep`. -/
def ConfirmSite.pc : ConfirmSite → MainPc
  | .event => .events
  | .presleep => .blocked

/-- What was passed to `hw_host_to_card`. -/
inductive Handover
  | command (n : NodeId)
  | sleepConfirm
  | wakeConfirm
  | data
deriving DecidableEq, Repr

/-- Something that happened, newest last in the trace. -/
inductive Event
  /-- A call wrote its command with this sequence number. -/
  | issued (call : CallId) (seqnum : UInt16)
  /-- The command of a call became the command in flight. -/
  | submitted (call : CallId)
  /-- This response was accepted for the command of a call. -/
  | accepted (call : CallId) (resp : List UInt8)
  /-- A callback ran on this response for the command of a call. -/
  | callback (call : CallId) (callback : Callback) (resp : List UInt8)
  /-- The retries of the command of a call were spent. -/
  | timedOut (call : CallId)
  /-- The command of a call was completed with this result. -/
  | completed (call : CallId) (result : Int)
  /-- A call read `cur_cmd_retcode`. -/
  | fetched (call : CallId)
  /-- `hw_host_to_card` was called in this power state. -/
  | handed (what : Handover) (psstate : PsState) (dnldSent : DnldState)
  /-- The card delivered a response. -/
  | delivered (data : List UInt8)
  /-- A response was passed to `lbs_process_command_response`. -/
  | passed (data : List UInt8)
deriving DecidableEq, Repr

/-- A state of the whole driver. -/
structure Sys where
  priv : Priv
  main : MainPc
  client : CallId → Client
  memory : Pointer → List UInt8
  /-- The timer function was started and waits for the lock. -/
  timerRunning : Bool
  /-- `kthread_stop` was called. -/
  shouldStop : Bool
  /-- A `BUG_ON` was reached. -/
  bug : Bool
  trace : List Event

/-- What a party does next. -/
inductive Action
  /-- A call starts. -/
  | call (c : CallId) (req : Request)
  /-- A call takes its next step. -/
  | client (c : CallId)
  /-- A signal for a caller. -/
  | signal (c : CallId)
  /-- The main thread takes its next step. `success` is the outcome of `hw_host_to_card`, `c` the
  name of a call it makes. -/
  | main (success : Bool) (c : CallId)
  /-- `if_sdio_handle_cmd`. -/
  | deliver (data : List UInt8)
  /-- `lbs_queue_event`. -/
  | queueEvent (e : UInt32)
  /-- `lbs_host_to_card_done`. -/
  | hostToCardDone
  /-- The command timer expires. -/
  | timerExpire
  /-- `command_timer_fn`. -/
  | commandTimerFn
  /-- `lbs_stop_card`. -/
  | stopCard
  /-- The card is removed. -/
  | remove
  /-- `kthread_stop` of the main thread. -/
  | kthreadStop
  /-- The firmware is loaded, or the card resumed. -/
  | setFwReady
  /-- Another context writes its settings. -/
  | configure (settings : Settings)
  /-- The transmit path stages a packet or reports one as sent. -/
  | transmit (len : Int) (skb : Bool)

namespace Sys

/-- The state after `lbs_add_card`. -/
def init : Sys where
  priv := initAdapter
  main := .top
  client := fun _ => .unused
  memory := fun _ => []
  timerRunning := false
  shouldStop := false
  bug := false
  trace := []

variable (s : Sys)

/-- Append to the trace. -/
def log (e : Event) : Sys :=
  { s with trace := s.trace ++ [e] }

/-- Move a call to another phase. -/
def setPhase (c : CallId) (phase : Phase) : Sys :=
  { s with
    client := fun d => if d = c then { s.client c with phase := phase } else s.client d }

/-- Update the command state. -/
def withCmd (cs : CommandState) : Sys :=
  { s with priv := { s.priv with toCommandState := cs } }

/-- A call of the main thread itself. -/
def beginCall (c : CallId) (req : Request) (next : Resume) : Option Sys :=
  if (s.client c).phase = .idle then
    some
      { s with
        client := fun d =>
          if d = c then { req := req, phase := .start, signalled := false } else s.client d
        main := .calling c next }
  else none

/-- The next step of a call. -/
def clientStep (c : CallId) : Option Sys :=
  let cl := s.client c
  let req := cl.req
  match cl.phase with
  | .idle | .returned _ => none
  | .start =>
      if s.priv.surpriseremoved then some (s.setPhase c (.returned req.removedRet))
      else some (s.setPhase c .alloc)
  | .alloc =>
      match s.priv.lbsGetCmdCtrlNode c with
      | none => some (s.setPhase c (.returned req.exhaustedRet))
      | some (n, cs) => some ((s.withCmd cs).setPhase c (.fill n))
  | .fill n =>
      some ((s.withCmd (s.priv.initNode n req.callback (req.pointer c))).setPhase c (.stamp n))
  | .stamp n =>
      match req.assemble with
      | .failed => some (s.setPhase c (.abort n))
      | .unsubmitted => some (s.setPhase c (.returned 0))
      | .ready command size body =>
          some (((s.withCmd (s.priv.stampNode n command size body)).setPhase c (.queue n)).log
            (.issued c s.priv.seqnum))
  | .abort n =>
      some ((s.withCmd (s.priv.lbsCleanupAndInsertCmd n)).setPhase c (.returned (-1)))
  | .queue n =>
      if (s.priv.cmdArray n).cmdbuf.size = 0 then some (s.setPhase c (.unqueued n))
      else
        some ((s.withCmd (s.priv.clearResult n)).setPhase c
          (.insert n (s.priv.addtail n s.priv.psstate)))
  | .insert n tail =>
      some ((s.withCmd (s.priv.insertPending n tail)).setPhase c
        (if req.waits then .wait n else if req.kind = .cmdAsync then .returned 0 else .finish n))
  | .unqueued n =>
      if req.waits then
        if (s.priv.cmdArray n).cmdwaitqwoken || cl.signalled then some (s.setPhase c (.finish n))
        else none
      else some (s.setPhase c (if req.kind = .cmdAsync then .returned 0 else .finish n))
  | .wait n =>
      if (s.priv.cmdArray n).cmdwaitqwoken || cl.signalled then some (s.setPhase c (.finish n))
      else none
  | .finish n =>
      if req.isCmd then
        some ((s.withCmd (s.priv.lbsCleanupAndInsertCmd n)).setPhase c
          (.returned (s.priv.cmdArray n).result))
      else
        some (((s.withCmd s.priv.takeRetcode.1).setPhase c (.returned s.priv.takeRetcode.2)).log
          (.fetched c))

/-- The main thread decides to sleep. -/
def shouldSleep : Bool :=
  if s.shouldStop then false
  else if s.priv.surpriseremoved then true
  else if s.priv.psstate = .sleep then true
  else if s.priv.cmdTimedOut then false
  else if !s.priv.fwReady then true
  else if s.priv.dnldSent ≠ .resReceived then true
  else if s.priv.txPendingLen > 0 then false
  else if s.priv.respLen s.priv.respIdx ≠ 0 then false
  else if s.priv.curCmd.isSome then true
  else if s.priv.cmdpendingq ≠ [] then false
  else if s.priv.eventFifo ≠ [] then false
  else true

/-- `lbs_process_event`, up to the places where other parties can step in. -/
def processEvent (e : UInt32) (success : Bool) (c : CallId) : Option Sys :=
  if e = macregIntCodeDeauthenticated ∨ e = macregIntCodeDisassociated ∨
      e = macregIntCodeLinkLostNoScan then
    let handled := lbsMacEventDisconnected s.priv 0
    let next := { s with priv := handled.priv }
    if handled.wakeup then next.beginCall c psWakeupRequest .events
    else some { next with main := .events }
  else if e = macregIntCodePsSleep then
    if s.priv.psstate = .fullPower then some { s with main := .events }
    else some { s with priv := { s.priv with psstate := .preSleep }, main := .confirm .event }
  else if e = macregIntCodeHostAwake then
    let sent := handCommand { s.priv with seqnum := s.priv.seqnum + 1 } success
    some ({ s with priv := sent, main := .events }.log
      (.handed .wakeConfirm s.priv.psstate s.priv.dnldSent))
  else if e = macregIntCodePsAwake then
    if s.priv.psstate = .fullPower then some { s with main := .events }
    else
      let next := { s with priv := { s.priv with psstate := .awake } }
      if s.priv.needtowakeup then next.beginCall c psWakeupRequest .events
      else some { next with main := .events }
  else if e = macregIntCodeMeshAutoStarted ∧ s.priv.settings.meshAutostartEnabled then
    let started :=
      { s.priv with
        settings :=
          { s.priv.settings with meshConnectStatus := .connected, mode := iwModeAdhoc } }
    let opened :=
      if s.priv.settings.meshOpen then
        { started with
          meshCarrier := true
          meshQueue := if started.txPendingLen = 0 then true else started.meshQueue }
      else started
    some { s with priv := opened, main := .events }
  else some { s with main := .events }

/-- The call in flight, for the trace. -/
def owner (n : NodeId) : CallId :=
  (s.priv.cmdArray n).owner

/-- An accepted response is recorded for the owner of the command in flight. -/
def logAccepted (resp : List UInt8) : Sys :=
  match s.priv.curCmd with
  | none => s
  | some n => s.log (.accepted (s.owner n) resp)

/-- The completion of the command in flight is recorded. -/
def logCompleted (result : Int) : Sys :=
  match s.priv.curCmd with
  | none => s
  | some n => s.log (.completed (s.owner n) result)

/-- The callback of the command in flight is recorded. -/
def logCallback (resp : List UInt8) : Sys :=
  match s.priv.curCmd.bind fun n => (s.priv.cmdArray n).callback.map fun cb => (n, cb) with
  | none => s
  | some (n, callback) => s.log (.callback (s.owner n) callback resp)

/-- The locked start of `lbs_process_command_response`. -/
def processResponse (idx : Fin 2) (c : CallId) : Option Sys :=
  let resp := s.priv.respBuf idx
  let passed := s.log (.passed (resp.take (s.priv.respLen idx)))
  match judge s.priv resp with
  | .drop => some { passed with main := .clear idx }
  | .done priv _ =>
      some { (passed.logAccepted resp).logCompleted (respResult resp).toNat with
        priv := priv, main := .clear idx }
  | .wakeup priv =>
      { passed.logAccepted resp with priv := priv }.beginCall c psWakeupRequest
        (.complete idx (respResult resp))
  | .dispatch priv =>
      some { passed.logAccepted resp with
        priv := priv, main := .dispatch idx (respResult resp) }

/-- The unlocked middle of `lbs_process_command_response`. -/
def dispatchStep (idx : Fin 2) (result : UInt16) (c : CallId) : Option Sys :=
  let handled := dispatchResponse s.memory s.priv (s.priv.respBuf idx)
  let next :=
    { s.logCallback (s.priv.respBuf idx) with
      priv := handled.priv, memory := applyWrite s.memory handled.write }
  if handled.wakeup then next.beginCall c psWakeupRequest (.complete idx result)
  else some { next with main := .complete idx result }

/-- The test for a timed out command. -/
def timeoutStep : Sys :=
  match s.priv.cmdTimedOut, s.priv.curCmd with
  | true, some n =>
      let counted := { s.priv with nrRetries := s.priv.nrRetries + 1 }
      if s.priv.nrRetries + 1 > 3 then
        { s with
          priv := { counted with toCommandState := counted.recordResult n (-eTimedOut) }
          main := .giveUpFree n
          trace := s.trace ++ [.timedOut (s.owner n), .completed (s.owner n) (-eTimedOut)] }
      else
        { s with
          priv := { counted with curCmd := none, dnldSent := .resReceived }
          main := .requeue n }
  | _, _ => { s with main := .timeoutClear }

/-- The decision about the head of `cmdpendingq`. -/
def headStep (n : NodeId) (c : CallId) : Option Sys :=
  match headAction s.priv.psstate (s.priv.cmdArray n).cmdbuf with
  | .refuse => some { s with main := .tx }
  | .markWakeup => some { s with priv := { s.priv with needtowakeup := true }, main := .tx }
  | .wakeup => s.beginCall c psWakeupRequest .tx
  | .ignore wake => some { s.withCmd (s.priv.unlinkPending n) with main := .ignore n wake }
  | .submit => some { s.withCmd (s.priv.unlinkPending n) with main := .submit n }

/-- A staged packet is sent. -/
def txStep (success : Bool) : Sys :=
  if s.priv.dnldSent = .resReceived ∧ s.priv.txPendingLen > 0 then
    let wake := !s.priv.currenttxskb
    { s with
      priv :=
        { s.priv with
          dnldSent := if success then .dataSent else .resReceived
          txPendingLen := 0
          devQueue :=
            (wake && s.priv.connectStatus = ConnectStatus.connected) || s.priv.devQueue
          meshQueue :=
            (wake && s.priv.settings.meshDev &&
              s.priv.settings.meshConnectStatus = ConnectStatus.connected) || s.priv.meshQueue }
      main := .top }.log (.handed .data s.priv.psstate s.priv.dnldSent)
  else { s with main := .top }

/-- The next step of the main thread. -/
def mainStep (success : Bool) (c : CallId) : Option Sys :=
  match s.main with
  | .top => some { s with main := if s.shouldSleep then .sleeping else .awake }
  | .sleeping => some { s with main := .awake }
  | .awake =>
      if s.shouldStop then
        some { s with priv := { s.priv with commandTimer := false }, main := .stopped }
      else if s.priv.surpriseremoved then some { s with main := .top }
      else some { s with main := .response }
  | .response =>
      if s.priv.respLen s.priv.respIdx ≠ 0 then some { s with main := .process s.priv.respIdx }
      else some { s with main := .timeout }
  | .process idx => s.processResponse idx c
  | .dispatch idx result => s.dispatchStep idx result c
  | .complete idx result =>
      some { s.logCompleted result.toNat with
        priv := completeCurCmd s.priv result.toNat, main := .clear idx }
  | .clear idx =>
      some { s with
        priv := { s.priv with respLen := Function.update s.priv.respLen idx 0 }
        main := .timeout }
  | .timeout => some s.timeoutStep
  | .giveUpFree n => some { s.withCmd (s.priv.releaseAsync n) with main := .giveUpDrop n }
  | .giveUpDrop _ =>
      some { s.withCmd { s.priv.clearCurCmd with nrRetries := 0 } with main := .timeoutClear }
  | .requeue n => some { s.withCmd (s.priv.insertPending n false) with main := .timeoutClear }
  | .timeoutClear =>
      some { s with priv := { s.priv with cmdTimedOut := false }, main := .events }
  | .events =>
      match s.priv.eventFifo with
      | [] => some { s with main := .ready }
      | e :: rest =>
          some { s with priv := { s.priv with eventFifo := rest }, main := .event e }
  | .event e => s.processEvent e success c
  | .confirm site =>
      if s.priv.dnldSent = .resReceived ∧ s.priv.curCmd = none ∧ s.priv.eventFifo = [] ∧
          s.priv.respLen s.priv.respIdx = 0 then
        some { s with main := .confirmSend site }
      else some { s with main := site.pc }
  | .confirmSend site =>
      some ({ s with
        priv := handCommand s.priv success
        main := if success then .confirmSet site else site.pc }.log
          (.handed .sleepConfirm s.priv.psstate s.priv.dnldSent))
  | .confirmSet site =>
      let idle := s.priv.eventFifo = [] ∧ s.priv.respLen s.priv.respIdx = 0
      some { s with
        priv :=
          { s.priv with
            dnldSent := .resReceived
            psstate := if idle then .sleep else s.priv.psstate }
        main := site.pc }
  | .ready => some { s with main := if s.priv.fwReady then .presleep else .top }
  | .presleep =>
      if s.priv.psstate = .preSleep ∧ s.priv.dnldSent = .resReceived ∧ s.priv.curCmd = none then
        if s.priv.connectStatus = .connected then some { s with main := .confirm .presleep }
        else some { s with priv := { s.priv with psstate := .awake }, main := .blocked }
      else some { s with main := .blocked }
  | .blocked => some { s with main := if s.priv.psstate.asleep then .top else .execute }
  | .execute =>
      if s.priv.dnldSent = .resReceived ∧ s.priv.curCmd = none then
        match s.priv.cmdpendingq with
        | [] => some { s with main := .goSleep }
        | n :: _ => some { s with main := .head n }
      else some { s with main := .tx }
  | .head n => s.headStep n c
  | .ignore n wake =>
      some ({ s with
        priv :=
          { s.priv with
            toCommandState := s.priv.lbsCompleteCommand n 0
            needtowakeup := wake || s.priv.needtowakeup }
        main := .tx }.log (.completed (s.owner n) 0))
  | .submit n =>
      some ({ s.withCmd (s.priv.setCurCmd n) with main := .send n }.log (.submitted (s.owner n)))
  | .send n =>
      some ({ s with priv := sendCurCmd s.priv success, main := .tx }.log
        (.handed (.command n) s.priv.psstate s.priv.dnldSent))
  | .goSleep =>
      if mustSleep s.priv then s.beginCall c psSleepRequest .tx else some { s with main := .tx }
  | .calling d next =>
      match (s.client d).phase with
      | .returned _ => some { s with main := next.pc }
      | _ => none
  | .tx => some (s.txStep success)
  | .stopped => none

/-- The interrupt side may find the card asleep: it is awake then. -/
def wakePsstate (psstate : PsState) : PsState :=
  if psstate = .sleep then .awake else psstate

/-- The slot that the interrupt side fills. -/
def otherSlot (respIdx : Fin 2) : Fin 2 :=
  if respIdx = 0 then 1 else 0

/-- `if_sdio_handle_cmd` and the `lbs_notify_command_response` in it. -/
def deliverStep (data : List UInt8) : Sys :=
  if data.length > lbsCmdBufferSize then s
  else
    let i := otherSlot s.priv.respIdx
    if s.priv.respLen i ≠ 0 then { s with bug := true }
    else
      { s with
        priv :=
          { s.priv with
            respLen := Function.update s.priv.respLen i data.length
            respBuf :=
              Function.update s.priv.respBuf i (ByteOrder.overwrite data (s.priv.respBuf i))
            psstate := wakePsstate s.priv.psstate
            respIdx := i } }.log (.delivered data)

/-- The effect of an action. After a `BUG_ON` nothing moves. -/
def step (a : Action) : Option Sys :=
  if s.bug then none
  else
    match a with
    | .call c req =>
        if (s.client c).phase = .idle then
          some
            { s with
              client := fun d =>
                if d = c then { req := req, phase := .start, signalled := false } else s.client d
              memory :=
                match req.buffer with
                | none => s.memory
                | some bytes => Function.update s.memory c (req.storedBuffer bytes) }
        else none
    | .client c => s.clientStep c
    | .signal c =>
        some
          { s with
            client := fun d =>
              if d = c then { s.client c with signalled := true } else s.client d }
    | .main success c => s.mainStep success c
    | .deliver data => some (s.deliverStep data)
    | .queueEvent e =>
        some { s with
          priv :=
            { s.priv with
              psstate := wakePsstate s.priv.psstate
              eventFifo :=
                if s.priv.eventFifo.length < 16 then s.priv.eventFifo ++ [e]
                else s.priv.eventFifo } }
    | .hostToCardDone => some { s with priv := { s.priv with dnldSent := .resReceived } }
    | .timerExpire =>
        if s.priv.commandTimer then
          some { s with priv := { s.priv with commandTimer := false }, timerRunning := true }
        else none
    | .commandTimerFn =>
        if s.timerRunning then
          some { s with
            priv := { s.priv with cmdTimedOut := s.priv.curCmd.isSome || s.priv.cmdTimedOut }
            timerRunning := false }
        else none
    | .stopCard =>
        -- `del_timer_sync` waits for a running timer function.
        if s.timerRunning then none
        else
          some { s with
            priv :=
              { s.priv with
                toCommandState := { s.priv.flushPending with commandTimer := false }
                devQueue := false
                carrier := false } }
    | .remove => some { s with priv := { s.priv with surpriseremoved := true } }
    | .kthreadStop => some { s with shouldStop := true }
    | .setFwReady => some { s with priv := { s.priv with fwReady := true } }
    | .configure settings => some { s with priv := { s.priv with settings := settings } }
    | .transmit len skb =>
        some { s with priv := { s.priv with txPendingLen := len, currenttxskb := skb } }

end Sys

/-- The driver from the state after `lbs_add_card` on. -/
def driver : Machine Sys Action where
  initial s := s = Sys.init
  step := Sys.step

end Libertas
