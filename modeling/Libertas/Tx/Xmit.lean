import Libertas.Stores
import Libertas.Transition.Basic
import Libertas.Driver.System

/-!
# The transmit path

`lbs_hard_start_xmit` claims `tx_pending_buf` under `driver_lock`, fills it without
the lock and lines it up under the lock again. The main thread hands a lined-up
packet to the card. A disconnect, which the main thread handles without the lock,
empties the buffer.

The parties of the machine are the transmit paths of the eth and the mesh device,
which the network stack serialises for each device but not between them, the main
thread, the transmit feedback, the scan, which runs on the work queue of the
driver, and the contexts that open, close, suspend or remove something. The monitor
device has a transmit function of its own that never gets here.

A step is a region under the lock or one access to shared data; the buffer is
filled byte by byte.
-/

namespace Libertas

open ByteOrder

/-- The devices that transmit with `lbs_hard_start_xmit`. -/
inductive TxDev
  | eth
  | mesh
deriving DecidableEq, Repr

/-- The bytes of an `sk_buff`. -/
abbrev Skb := List UInt8

/-- What a device was asked to transmit. -/
structure TxPacket where
  dev : TxDev
  skb : Skb
deriving DecidableEq, Repr

/-- `sizeof(struct txpd)`. -/
def txpdSize : Nat := 24

/-- `MRVDRV_ETH_TX_PACKET_BUFFER_SIZE`: `ETH_FRAME_LEN` is 1514, `EXTRA_LEN` is 36. -/
def mrvdrvEthTxPacketBufferSize : Nat := 1514 + txpdSize + 36

/-- `TxPD_MESH_FRAME` in little-endian order. -/
def txpdMeshFrame : List UInt8 := [0, 0, 2, 0]

/-- The fields that the transmit path and the queues depend on. -/
structure TxPriv extends TxState where
  txPendingBuf : Nat → UInt8
  monitormode : Bool
  connectStatus : ConnectStatus
  meshConnectStatus : ConnectStatus
  infraOpen : Bool
  meshOpen : Bool
  /-- `mesh_dev` is not NULL. -/
  meshDev : Bool
  /-- The transmit queue of `dev` is running. -/
  devQueue : Bool
  /-- The transmit queue of `mesh_dev` is running. -/
  meshQueue : Bool
  surpriseremoved : Bool

/-- The stores into `struct txpd`: it is cleared, then the destination, the length, the location
and, for the mesh, a flag are set. -/
def fillTxpd (packet : TxPacket) : List Store :=
  Store.copyTo 0 (List.replicate txpdSize 0) ++
    Store.copyTo 14 (slice packet.skb 0 ethAlen) ++
    Store.copyTo 12 (le16Bytes (UInt16.ofNat packet.skb.length)) ++
    Store.copyTo 8 [24, 0, 0, 0] ++
    match packet.dev with
    | .eth => []
    | .mesh => Store.mergeTo 4 txpdMeshFrame

/-- The stores of the payload. The length is read back from the descriptor in the buffer. -/
def fillPayload (skb : Skb) (buf : Nat → UInt8) : List Store :=
  Store.copyTo txpdSize (slice skb 0 (le16At (Store.read buf 12 2) 0).toNat)

/-- A call of `lbs_hard_start_xmit` that fills the buffer. -/
structure Filling where
  skb : Skb
  /-- The stores that are left. -/
  stores : List Store
  /-- The payload is among them. -/
  payload : Bool
deriving DecidableEq, Repr

/-- Where the main thread is, as far as the transmit path is concerned. -/
inductive TxMain
  | idle
  /-- In the sleep of `lbs_mac_event_disconnected`. -/
  | disconnecting
  /-- Before `currenttxskb = NULL`. -/
  | freeing
  /-- Before `tx_pending_len = 0`. -/
  | clearing
  /-- Before `connect_status = LBS_DISCONNECTED`. -/
  | unlinking
  /-- In the reply to an association, before the queue of `dev` is woken. -/
  | linked
  /-- In the start of the mesh, before the queue of `mesh_dev` is woken. -/
  | meshStarted
deriving DecidableEq, Repr

/-- Where `lbs_send_tx_feedback` is. -/
inductive TxFeedback
  | idle
  /-- Before the queue of `dev` is woken. -/
  | freed
  /-- Before the queue of `mesh_dev` is woken. -/
  | devWoken
deriving DecidableEq, Repr

/-- Where `lbs_scan_networks` is. -/
inductive TxScan
  | idle
  /-- Before the queue of `mesh_dev` is stopped. -/
  | stopping
  /-- Before the queue of `dev` is woken. -/
  | running
  /-- Before the queue of `mesh_dev` is woken. -/
  | devWoken
deriving DecidableEq, Repr

/-- Where `lbs_rtap_set` is. -/
inductive TxMonitor
  | idle
  /-- Before `monitormode` is set. -/
  | adding
  /-- Before `currenttxskb` is freed. -/
  | freeing
  /-- Before `lbs_host_to_card_done`. -/
  | finishing
deriving DecidableEq, Repr

/-- A state of the transmit path. -/
structure TxSys where
  priv : TxPriv
  xmit : TxDev → Option Filling
  main : TxMain
  feedback : TxFeedback
  scan : TxScan
  monitor : TxMonitor
  /-- In `lbs_remove_mesh`, before `unregister_netdev`. -/
  meshRemoving : Bool
  suspended : Bool
  /-- The packets that were lined up, oldest first. -/
  accepted : List TxPacket
  /-- What was handed to `hw_host_to_card` with `MVMS_DAT`, oldest first. -/
  handed : List (List UInt8)

/-- What can happen to the transmit path. -/
inductive TxAction
  /-- `lbs_hard_start_xmit` up to the end of its first locked part. -/
  | hardStartXmit (packet : TxPacket)
  /-- The next step of the call on this device. -/
  | fill (dev : TxDev)
  /-- The main thread looks for a lined-up packet. -/
  | send (success : Bool)
  /-- The main thread hands a command to the card. -/
  | command
  /-- `lbs_host_to_card_done`. -/
  | hostToCardDone
  /-- The main thread calls `lbs_mac_event_disconnected`. -/
  | disconnect
  /-- The main thread handles the reply to a successful association. -/
  | link
  /-- The main thread handles the event that the mesh was started. -/
  | meshStart
  /-- The main thread goes on. -/
  | main
  /-- `lbs_send_tx_feedback` starts or goes on. -/
  | feedback
  /-- `lbs_scan_networks` starts or goes on. It starts with an allocation. -/
  | scan (allocated : Bool)
  /-- `lbs_rtap_set` switches the monitor on. -/
  | monitorOn
  /-- `lbs_rtap_set` switches the monitor off. -/
  | monitorOff
  /-- `lbs_rtap_set` goes on. -/
  | monitor
  /-- `lbs_dev_open`. -/
  | devOpen (dev : TxDev)
  /-- `lbs_eth_stop` or `lbs_mesh_stop`. -/
  | devStop (dev : TxDev)
  /-- `lbs_add_mesh`. -/
  | addMesh
  /-- `lbs_remove_mesh` starts or goes on. -/
  | removeMesh
  /-- `lbs_suspend_callback`. -/
  | suspend
  /-- `lbs_resume`. -/
  | resume
  /-- The card is removed. -/
  | remove
deriving DecidableEq, Repr

namespace TxPriv

variable (priv : TxPriv)

/-- `netif_stop_queue` for both devices. -/
def stopQueues : TxPriv :=
  { priv with devQueue := false, meshQueue := !priv.meshDev && priv.meshQueue }

/-- Wake the queue of `dev` if there is a link. -/
def wakeDev : TxPriv :=
  { priv with devQueue := priv.connectStatus = ConnectStatus.connected || priv.devQueue }

/-- Wake the queue of `mesh_dev` if the mesh is connected. -/
def wakeMesh : TxPriv :=
  { priv with
    meshQueue := priv.meshDev && priv.meshConnectStatus = ConnectStatus.connected ||
      priv.meshQueue }

/-- The same, unless a packet is pending. -/
def wakeDevUnlessPending : TxPriv :=
  if priv.txPendingLen = 0 then priv.wakeDev else priv

def wakeMeshUnlessPending : TxPriv :=
  if priv.txPendingLen = 0 then priv.wakeMesh else priv

/-- `hw_host_to_card` with the lined-up packet and what follows it in `lbs_thread`, under the
lock. -/
def sendPending (success : Bool) : TxPriv :=
  let sent :=
    { priv with
      dnldSent := if success then .dataSent else .resReceived
      txPendingLen := 0 }
  if priv.currenttxskb then sent else sent.wakeDev.wakeMesh

/-- `lbs_dev_open`. -/
def lbsDevOpen (dev : TxDev) : TxPriv :=
  if priv.monitormode then priv
  else
    match dev with
    | .eth =>
        { priv with infraOpen := true, devQueue := priv.txPendingLen = 0 || priv.devQueue }
    | .mesh =>
        { priv with
          meshOpen := true
          meshConnectStatus := .connected
          meshQueue := priv.txPendingLen = 0 || priv.meshQueue }

/-- `lbs_eth_stop`. -/
def lbsEthStop : TxPriv :=
  { priv with infraOpen := false, devQueue := false }

/-- `lbs_mesh_stop`. -/
def lbsMeshStop : TxPriv :=
  { priv with meshOpen := false, meshConnectStatus := .disconnected, meshQueue := false }

/-- `netif_device_detach` for both devices. -/
def detach : TxPriv :=
  { priv with
    devQueue := !priv.infraOpen && priv.devQueue
    meshQueue := !priv.meshOpen && priv.meshQueue }

/-- `netif_device_attach` for both devices. -/
def attach : TxPriv :=
  { priv with
    devQueue := priv.infraOpen || priv.devQueue
    meshQueue := priv.meshOpen || priv.meshQueue }

end TxPriv

namespace TxSys

/-- The state after the card was started. -/
def init : TxSys where
  priv :=
    { dnldSent := .resReceived, txPendingLen := 0, currenttxskb := false
      txPendingBuf := fun _ => 0
      monitormode := false
      connectStatus := .disconnected, meshConnectStatus := .disconnected
      infraOpen := false, meshOpen := false, meshDev := true
      devQueue := true, meshQueue := true
      surpriseremoved := false }
  xmit := fun _ => none
  main := .idle
  feedback := .idle
  scan := .idle
  monitor := .idle
  meshRemoving := false
  suspended := false
  accepted := []
  handed := []

variable (s : TxSys)

/-- The first locked part of `lbs_hard_start_xmit`. A packet that is dropped or refused leaves
nothing behind but the stopped queues. -/
def hardStartXmit (packet : TxPacket) : TxSys :=
  if s.priv.surpriseremoved then s
  else if packet.skb.length = 0 ∨ packet.skb.length > mrvdrvEthTxPacketBufferSize then s
  else
    let stopped := s.priv.stopQueues
    if s.priv.txPendingLen ≠ 0 then { s with priv := stopped }
    else
      { s with
        priv := { stopped with txPendingLen := -1 }
        xmit := Function.update s.xmit packet.dev
          (some { skb := packet.skb, stores := fillTxpd packet, payload := false }) }

/-- The rest of `lbs_hard_start_xmit`: the stores, and the last locked part. -/
def fillStep (dev : TxDev) : Option TxSys :=
  match s.xmit dev with
  | none => none
  | some filling =>
      match filling.stores with
      | store :: rest =>
          some
            { s with
              priv := { s.priv with txPendingBuf := store.apply s.priv.txPendingBuf }
              xmit := Function.update s.xmit dev (some { filling with stores := rest }) }
      | [] =>
          if filling.payload then
            some
              { s with
                priv :=
                  { s.priv with
                    txPendingLen := (txpdSize + filling.skb.length : Nat)
                    currenttxskb := s.priv.monitormode || s.priv.currenttxskb }
                xmit := Function.update s.xmit dev none
                accepted := s.accepted ++ [{ dev := dev, skb := filling.skb }] }
          else
            some
              { s with
                xmit := Function.update s.xmit dev
                  (some
                    { filling with
                      stores := fillPayload filling.skb s.priv.txPendingBuf
                      payload := true }) }

/-- The end of an iteration of `lbs_thread`. -/
def sendStep (success : Bool) : TxSys :=
  if s.priv.dnldSent = .resReceived ∧ s.priv.txPendingLen > 0 then
    { s with
      priv := s.priv.sendPending success
      handed := s.handed ++ [Store.read s.priv.txPendingBuf 0 s.priv.txPendingLen.toNat] }
  else s

/-- The main thread goes on with what it handles. -/
def mainStep : Option TxSys :=
  match s.main with
  | .idle => none
  | .disconnecting => some { s with priv := { s.priv with devQueue := false }, main := .freeing }
  | .freeing => some { s with priv := { s.priv with currenttxskb := false }, main := .clearing }
  | .clearing => some { s with priv := { s.priv with txPendingLen := 0 }, main := .unlinking }
  | .unlinking =>
      some { s with priv := { s.priv with connectStatus := .disconnected }, main := .idle }
  | .linked =>
      some { s with
        priv := { s.priv with devQueue := s.priv.txPendingLen = 0 || s.priv.devQueue }
        main := .idle }
  | .meshStarted =>
      some { s with
        priv :=
          { s.priv with
            meshQueue := s.priv.meshOpen && s.priv.txPendingLen = 0 || s.priv.meshQueue }
        main := .idle }

/-- `lbs_send_tx_feedback`. -/
def feedbackStep : TxSys :=
  match s.feedback with
  | .idle =>
      if s.priv.monitormode && s.priv.currenttxskb then
        { s with priv := { s.priv with currenttxskb := false }, feedback := .freed }
      else s
  | .freed => { s with priv := s.priv.wakeDev, feedback := .devWoken }
  | .devWoken => { s with priv := s.priv.wakeMesh, feedback := .idle }

/-- `lbs_scan_networks`, as far as the queues are concerned. -/
def scanStep (allocated : Bool) : TxSys :=
  match s.scan with
  | .idle =>
      if allocated then { s with priv := { s.priv with devQueue := false }, scan := .stopping }
      else { s with scan := .running }
  | .stopping =>
      { s with
        priv := { s.priv with meshQueue := !s.priv.meshDev && s.priv.meshQueue }, scan := .running }
  | .running => { s with priv := s.priv.wakeDevUnlessPending, scan := .devWoken }
  | .devWoken => { s with priv := s.priv.wakeMeshUnlessPending, scan := .idle }

/-- `lbs_rtap_set` behind its first part. -/
def monitorStep : Option TxSys :=
  match s.monitor with
  | .idle => none
  | .adding => some { s with priv := { s.priv with monitormode := true }, monitor := .idle }
  | .freeing => some { s with priv := { s.priv with currenttxskb := false }, monitor := .finishing }
  | .finishing => some { s with priv := { s.priv with dnldSent := .resReceived }, monitor := .idle }

/-- `lbs_remove_mesh`. `unregister_netdev` closes the device. -/
def removeMeshStep : TxSys :=
  if !s.priv.meshDev then s
  else if s.meshRemoving then
    { s with priv := { s.priv.lbsMeshStop with meshDev := false }, meshRemoving := false }
  else { s with priv := { s.priv with meshQueue := false }, meshRemoving := true }

/-- The effect of an action. -/
def step (a : TxAction) : Option TxSys :=
  match a with
  | .hardStartXmit packet =>
      if s.xmit packet.dev = none ∧ (packet.dev = .mesh → s.priv.meshDev) then
        some (s.hardStartXmit packet)
      else none
  | .fill dev => s.fillStep dev
  | .send success => if s.main = .idle then some (s.sendStep success) else none
  | .command =>
      if s.main = .idle then some { s with priv := { s.priv with dnldSent := .cmdSent } } else none
  | .hostToCardDone => some { s with priv := { s.priv with dnldSent := .resReceived } }
  | .disconnect =>
      if s.main = .idle ∧ s.priv.connectStatus = .connected then
        some { s with main := .disconnecting }
      else none
  | .link =>
      if s.main = .idle then
        some { s with priv := { s.priv with connectStatus := .connected }, main := .linked }
      else none
  | .meshStart =>
      if s.main = .idle then
        some { s with
          priv := { s.priv with meshConnectStatus := .connected }, main := .meshStarted }
      else none
  | .main => s.mainStep
  | .feedback => some s.feedbackStep
  | .scan allocated => some (s.scanStep allocated)
  | .monitorOn =>
      if s.monitor = .idle ∧ !s.priv.monitormode ∧ !s.priv.infraOpen ∧ !s.priv.meshOpen then
        some { s with monitor := .adding }
      else none
  | .monitorOff =>
      if s.monitor = .idle ∧ s.priv.monitormode then
        some { s with priv := { s.priv with monitormode := false }, monitor := .freeing }
      else none
  | .monitor => s.monitorStep
  | .devOpen dev =>
      if dev = .mesh → s.priv.meshDev ∧ !s.meshRemoving then
        some { s with priv := s.priv.lbsDevOpen dev }
      else none
  | .devStop .eth => some { s with priv := s.priv.lbsEthStop }
  | .devStop .mesh => some { s with priv := s.priv.lbsMeshStop }
  | .addMesh =>
      if s.priv.meshDev then none
      else some { s with priv := { s.priv with meshDev := true, meshQueue := true } }
  | .removeMesh => some s.removeMeshStep
  | .suspend =>
      if s.suspended then none else some { s with priv := s.priv.detach, suspended := true }
  | .resume =>
      if s.suspended then some { s with priv := s.priv.attach, suspended := false } else none
  | .remove => some { s with priv := { s.priv with surpriseremoved := true } }

end TxSys

/-- The transmit path from the start of the card on. -/
def txPath : Machine TxSys TxAction where
  initial s := s = TxSys.init
  step := TxSys.step

section Driver

variable {s : Sys} {t : TxSys}

/-- What the transmit path has in common with the driver. The driver leaves out the bytes of the
buffer, the monitor and whether `dev` is open. -/
structure SharedPriv (priv : Priv) (tx : TxPriv) : Prop where
  state : tx.toTxState = priv.toTxState
  connectStatus : tx.connectStatus = priv.connectStatus
  meshConnectStatus : tx.meshConnectStatus = priv.settings.meshConnectStatus
  meshOpen : tx.meshOpen = priv.settings.meshOpen
  meshDev : tx.meshDev = priv.settings.meshDev
  devQueue : tx.devQueue = priv.devQueue
  meshQueue : tx.meshQueue = priv.meshQueue

/-- The driver sends a packet as the transmit path does. -/
theorem SharedPriv.send (shared : SharedPriv s.priv t.priv) (success : Bool) :
    SharedPriv (s.txStep success).priv (t.sendStep success).priv := by
  obtain ⟨state, connectStatus, meshConnectStatus, meshOpen, meshDev, devQueue, meshQueue⟩ := shared
  have sent : t.priv.dnldSent = s.priv.dnldSent := congrArg TxState.dnldSent state
  have pending : t.priv.txPendingLen = s.priv.txPendingLen := congrArg TxState.txPendingLen state
  have kept : t.priv.currenttxskb = s.priv.currenttxskb := congrArg TxState.currenttxskb state
  rw [TxSys.sendStep, Sys.txStep]
  rw [sent, pending]
  split
  · rw [TxPriv.sendPending, TxPriv.wakeMesh, TxPriv.wakeDev, Sys.log]
    simp only [kept]
    cases skb : s.priv.currenttxskb with
    | true => constructor <;> simp [*]
    | false => constructor <;> simp [*]
  · exact ⟨state, connectStatus, meshConnectStatus, meshOpen, meshDev, devQueue, meshQueue⟩

/-- The driver disconnects in one step, the transmit path between the steps of the others. -/
theorem SharedPriv.disconnect {ret : Int} (shared : SharedPriv s.priv t.priv)
    (idle : t.main = .idle) (connected : t.priv.connectStatus = .connected) :
    ∃ u, txPath.run t [.disconnect, .main, .main, .main, .main] = some u ∧
      SharedPriv (lbsMacEventDisconnected s.priv ret).priv u.priv := by
  have linked : s.priv.connectStatus = .connected := shared.connectStatus.symm.trans connected
  have sent : t.priv.dnldSent = s.priv.dnldSent := congrArg TxState.dnldSent shared.state
  have executed : txPath.run t [.disconnect, .main, .main, .main, .main] =
      some
        { t with
          priv :=
            { t.priv with
              devQueue := false, currenttxskb := false, txPendingLen := 0
              connectStatus := .disconnected }
          main := .idle } := by
    simp only [Machine.run, txPath, TxSys.step, idle, connected, TxSys.mainStep, and_self, if_true]
  refine ⟨_, executed, ?_⟩
  rw [lbsMacEventDisconnected, if_neg (not_not.mpr linked)]
  constructor
  · simp [sent]
  · rfl
  · exact shared.meshConnectStatus
  · exact shared.meshOpen
  · exact shared.meshDev
  · rfl
  · exact shared.meshQueue

end Driver

end Libertas
