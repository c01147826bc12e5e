import Libertas.Host

/-!
# The private structure of the driver

`Priv` is the part of `struct lbs_private` that the main thread, the command
path and the interrupt side read or write. It is assembled from groups of fields
that change together, so a function on one group leaves the others untouched by
definition.

Command nodes are indices into `cmd_array`; the lists `cmdfreeq` and
`cmdpendingq` hold indices in queue order. A caller's buffer is named by the
call, and `none` is the NULL pointer.
-/

namespace Libertas

/-- An index into `cmd_array`. -/
abbrev NodeId := Fin lbsNumCmdBuffers

instance : NeZero lbsNumCmdBuffers := ⟨by decide⟩

instance : LawfulBEq NodeId := inferInstance

/-- Names one call of a command function. A name is used for a single call. -/
abbrev CallId := Nat

/-- Names a buffer of a caller: the one that the call of this name passed. -/
abbrev Pointer := CallId

/-- `struct cmd_header` and the bytes that follow it in a command buffer. -/
structure CmdBuf where
  command : UInt16
  size : UInt16
  seqnum : UInt16
  result : UInt16
  body : List UInt8
deriving DecidableEq, Repr

/-- A command buffer after `memset`. -/
def CmdBuf.zero : CmdBuf :=
  { command := 0, size := 0, seqnum := 0, result := 0, body := [] }

/-- The `action` of `struct cmd_ds_802_11_ps_mode`, the first field behind the header. -/
def CmdBuf.psAction (cmdbuf : CmdBuf) : UInt16 :=
  ByteOrder.le16At cmdbuf.body 0

/-- The functions that callers pass to `__lbs_cmd`. -/
inductive SyncCallback
  | lbsCmdCopyback
  | lbsRet80211Scan
  | lbsSuspendCallback
deriving DecidableEq, Repr

/-- The functions that are installed as `callback` of a command node. Only `lbs_cmd_async` can
install `lbs_cmd_async_callback`, which is private to its file. -/
inductive Callback
  | lbsCmdAsyncCallback
  | sync (callback : SyncCallback)
deriving DecidableEq, Repr

/-- `struct cmd_ctrl_node`. The last field is not in the source: it remembers which call took
the node from `cmdfreeq`, so that events can be attributed to calls. -/
structure CmdCtrlNode where
  result : Int
  callback : Option Callback
  callbackArg : Option Pointer
  cmdbuf : CmdBuf
  cmdwaitqwoken : Bool
  owner : CallId
deriving DecidableEq, Repr

/-- A node of the zeroed `cmd_array`. -/
def CmdCtrlNode.zero : CmdCtrlNode :=
  { result := 0, callback := none, callbackArg := none, cmdbuf := .zero
    cmdwaitqwoken := false, owner := 0 }

/-- Nobody waits for such a node to free it: it goes to `cmdfreeq` when it completes. -/
def CmdCtrlNode.isAsync (node : CmdCtrlNode) : Bool :=
  node.callback = none || node.callback = some .lbsCmdAsyncCallback

/-- `enum PS_STATE`. -/
inductive PsState
  | fullPower
  | awake
  | preSleep
  | sleep
deriving DecidableEq, Repr

/-- `enum DNLD_STATE`. -/
inductive DnldState
  | resReceived
  | dataSent
  | cmdSent
deriving DecidableEq, Repr

/-- The two values of `connect_status` and `mesh_connect_status`. -/
inductive ConnectStatus
  | connected
  | disconnected
deriving DecidableEq, Repr

/-- The command nodes and where the main thread and the queues hold them. -/
structure NodeState where
  cmdArray : NodeId → CmdCtrlNode
  cmdfreeq : List NodeId
  cmdpendingq : List NodeId
  curCmd : Option NodeId

/-- The command path: the nodes, the shared return code, the timer and the retries. -/
structure CommandState extends NodeState where
  curCmdRetcode : Int
  seqnum : UInt16
  /-- `command_timer` is armed. -/
  commandTimer : Bool
  nrRetries : Nat
  cmdTimedOut : Bool

/-- Power saving as the firmware and the main thread see it. -/
structure PowerState where
  psstate : PsState
  needtowakeup : Bool

instance neZero_slots : NeZero 2 := ⟨two_ne_zero⟩

/-- The two response slots and the one that was filled last. -/
structure ResponseSlots where
  respIdx : Fin 2
  respBuf : Fin 2 → List UInt8
  respLen : Fin 2 → Nat

/-- Responses and events delivered by the card. -/
structure Mailbox extends ResponseSlots where
  /-- `event_fifo`, oldest event first. -/
  eventFifo : List UInt32

/-- The descriptor fields that the association replies copy. -/
structure BssIdentity where
  bssid : List UInt8
  ssid : List UInt8
  ssidLen : UInt8
deriving DecidableEq, Repr

/-- `SNR`, `NF` or `RSSI` of one source: the last sample and the average. -/
structure Level (α : Type) where
  noavg : α
  avg : α
deriving DecidableEq, Repr

/-- Signal statistics of beacons and of received packets. -/
structure Signal where
  snrBeacon : Level UInt16
  snrRxpd : Level UInt16
  nfBeacon : Level UInt16
  nfRxpd : Level UInt16
  rssiBeacon : Level UInt8
  rssiRxpd : Level UInt8
  rawSNR : List UInt8
  rawNF : List UInt8
  nextSNRNF : UInt16
  numSNRNF : UInt16
deriving DecidableEq, Repr

/-- All statistics cleared. `DEFAULT_DATA_AVG_FACTOR` is 8. -/
def Signal.zero : Signal :=
  { snrBeacon := ⟨0, 0⟩, snrRxpd := ⟨0, 0⟩, nfBeacon := ⟨0, 0⟩, nfRxpd := ⟨0, 0⟩
    rssiBeacon := ⟨0, 0⟩, rssiRxpd := ⟨0, 0⟩
    rawSNR := List.replicate 8 0, rawNF := List.replicate 8 0, nextSNRNF := 0, numSNRNF := 0 }

/-- The infrastructure link and what is known about it. -/
structure LinkState where
  connectStatus : ConnectStatus
  curbssparams : BssIdentity
  signal : Signal
  /-- The carrier of `dev` is on. -/
  carrier : Bool
  /-- The transmit queue of `dev` is running. -/
  devQueue : Bool
  /-- The transmit queue of `mesh_dev` is running. -/
  meshQueue : Bool
  /-- The carrier of `mesh_dev` is on. -/
  meshCarrier : Bool

/-- Data download. -/
structure TxState where
  dnldSent : DnldState
  /-- `-1` while a packet is being built. -/
  txPendingLen : Int
  /-- `currenttxskb` is not NULL. -/
  currenttxskb : Bool

/-- Values that responses report and nobody on the command path reads. -/
structure Registers where
  offset : UInt32
  value : UInt32
  fragthsd : UInt32
  rtsthsd : UInt32
  txretrycount : UInt8
  txpowerlevel : UInt16
  beaconEnable : UInt8
  beaconPeriod : UInt16
deriving DecidableEq, Repr

/-- Fields that ioctls, workers and netdevice operations write at any time. -/
structure Settings where
  psmode : UInt16
  mode : UInt8
  wpaEnabled : Bool
  wpa2Enabled : Bool
  wpaMcastKeyLen : UInt16
  wpaUnicastKeyLen : UInt16
  meshDev : Bool
  meshOpen : Bool
  meshAutostartEnabled : Bool
  meshConnectStatus : ConnectStatus
  /-- The BSS of `in_progress_assoc_req`. -/
  inProgressAssocReq : Option BssIdentity
deriving DecidableEq, Repr

/-- The modelled part of `struct lbs_private`. -/
structure Priv extends CommandState, PowerState, Mailbox, LinkState, TxState where
  registers : Registers
  settings : Settings
  surpriseremoved : Bool
  fwReady : Bool

/-- The part of the private structure that no handler of a response or event changes. -/
def Priv.core (priv : Priv) : CommandState × PowerState × Mailbox :=
  (priv.toCommandState, priv.toPowerState, priv.toMailbox)

/-- The state `lbs_init_adapter` sets up in a zeroed structure. The firmware is not yet
ready. -/
def initAdapter : Priv where
  cmdArray := fun _ => .zero
  cmdfreeq := List.finRange lbsNumCmdBuffers
  cmdpendingq := []
  curCmd := none
  curCmdRetcode := 0
  seqnum := 0
  commandTimer := false
  nrRetries := 0
  cmdTimedOut := false
  psstate := .fullPower
  needtowakeup := false
  respIdx := 0
  respBuf := fun _ => []
  respLen := fun _ => 0
  eventFifo := []
  connectStatus := .disconnected
  curbssparams := { bssid := List.replicate ethAlen 0, ssid := [], ssidLen := 0 }
  signal := .zero
  carrier := true
  devQueue := true
  meshQueue := true
  meshCarrier := true
  dnldSent := .resReceived
  txPendingLen := 0
  currenttxskb := false
  registers :=
    { offset := 0, value := 0, fragthsd := 0, rtsthsd := 0, txretrycount := 0
      txpowerlevel := 0, beaconEnable := 0, beaconPeriod := 0 }
  settings :=
    { psmode := lbs80211PowermodeCam, mode := iwModeInfra, wpaEnabled := false
      wpa2Enabled := false, wpaMcastKeyLen := 0, wpaUnicastKeyLen := 0, meshDev := false
      meshOpen := false, meshAutostartEnabled := false, meshConnectStatus := .disconnected
      inProgressAssocReq := none }
  surpriseremoved := false
  fwReady := false

end Libertas
