import Libertas.IfSdio.Firmware
import Libertas.Interfaces
import Libertas.Transition.Ledger

/-!
# The card comes and goes

`if_sdio_probe` brings a card up: it enables the SDIO function, loads the firmware, adds
the card with its buffers and its thread, and starts it. `if_sdio_remove` takes it down
again. What the calls of the kernel and the commands of the card return is a
`BringupInput`. The procedures book what they acquire, use and release.

The host of the card is a resource of which somebody has the claim: it is `hostFree` or
`host`. The SDIO functions need the claim.
-/

namespace Libertas

open Procedure

/-- `ENODEV`. -/
def eNoDev : Int := 19

/-- What is acquired and released. -/
inductive Resource
  | hostFree
  | host
  /-- `struct if_sdio_card`, and the packets that are queued in it. -/
  | card
  | packet (i : Nat)
  | function
  | irq
  | firmware
  | chunkBuffer
  /-- The net device with `struct lbs_private`, which is a part of it. -/
  | netDev
  /-- An allocation that starts at `struct lbs_private`. -/
  | priv
  | networks
  | cmdArray
  | cmdBuffer (i : Nat)
  | eventFifo
  | mainThread
  | workThread
  | registration
  | meshDev
  | meshRegistration
  | meshGroup
  | rtapDev
  | rtapRegistration
deriving DecidableEq, Repr

/-- A pointer that a function returned: NULL, `ERR_PTR`, or valid. -/
inductive FifoPointer
  | null
  | error
  | valid
deriving DecidableEq, Repr

/-- The pointers of the card and of its private structure. -/
structure CardState where
  /-- The number of queued packets. -/
  packets : Nat
  networks : Bool
  cmdArray : Bool
  /-- `cmd_array[i].cmdbuf` -/
  cmdbuf : Nat → Bool
  eventFifo : FifoPointer
  workThread : Bool
  meshDev : Bool
  rtapNetDev : Bool
  monitormode : Int

/-- The structures are zeroed. -/
def CardState.zero : CardState where
  packets := 0
  networks := false
  cmdArray := false
  cmdbuf := fun _ => false
  eventFifo := .null
  workThread := false
  meshDev := false
  rtapNetDev := false
  monitormode := 0

/-- What `request_firmware`, `kzalloc` and the transfers behind them return. -/
structure ImageAnswers where
  request : Int
  alloc : Bool
  transfer : Int
deriving DecidableEq, Repr

/-- What is answered while the card is brought up. -/
structure BringupInput where
  /-- The model in the tuples of the card. -/
  model : Option UInt32
  kzallocCard : Bool
  enableFunc : Int
  claimIrq : Int
  /-- The errors of the three readings of `IF_SDIO_IOPORT`. -/
  ioport : Int × Int × Int
  /-- The two scratch registers. -/
  scratch : (UInt8 × Int) × (UInt8 × Int)
  helper : ImageAnswers
  real : ImageAnswers
  allocEtherdev : Bool
  networks : Bool
  cmdArray : Bool
  cmdbuf : Nat → Bool
  kfifoAlloc : Bool
  kthreadRun : Bool
  createWorkqueue : Bool
  /-- The error of writing `IF_SDIO_H_INT_MASK`. -/
  intMask : Int
  /-- The result of `lbs_setup_firmware`. -/
  setupFirmware : Int
  /-- The packets that will be left in the queue. -/
  packets : Nat
  registerNetdev : Bool
  /-- `fwrelease` is above `0x05001000`. -/
  newer : Bool
  /-- The results of the two calls of `lbs_mesh_config`. -/
  config : Int × Int
  mesh : AddOutcome

/-- Procedures that bring the card up and down. -/
abbrev Bringup (α : Type) := Procedure CardState (Booking Resource) α

/-- `sdio_claim_host` and `sdio_release_host`. -/
def sdioClaimHost : Bringup PUnit := do
  release .hostFree
  acquire .host

def sdioReleaseHost : Bringup PUnit := do
  release .host
  acquire .hostFree

/-- A register of the function is read or written. -/
def accessFunc : Bringup PUnit := do
  use .host
  use .function

def sdioReleaseIrq : Bringup PUnit := do
  use .host
  release .irq

def sdioDisableFunc : Bringup PUnit := do
  use .host
  release .function

/-- `if_sdio_prog_helper` and `if_sdio_prog_real`: an image and a buffer are there while the
host is claimed for the transfers. -/
def progImage (answers : ImageAnswers) : Bringup Int :=
  if answers.request ≠ 0 then pure answers.request
  else do
    acquire .firmware
    if !answers.alloc then do
      release .firmware
      pure (-eNoMem)
    else do
      acquire .chunkBuffer
      sdioClaimHost
      accessFunc
      sdioReleaseHost
      release .chunkBuffer
      release .firmware
      pure answers.transfer

namespace BringupInput

variable (input : BringupInput)

/-- `if_sdio_prog_firmware`. -/
def ifSdioProgFirmware : Bringup Int := do
  sdioClaimHost
  accessFunc
  sdioReleaseHost
  let (scratch, error) := readRegisters input.scratch.1 input.scratch.2
  if error ≠ 0 then pure error
  else if scratch = ifSdioFirmwareOk then pure 0
  else do
    let ret ← progImage input.helper
    if ret ≠ 0 then pure ret
    else progImage input.real

/-- One buffer in `lbs_allocate_cmd_buffer`. -/
def allocateCmdbuf (i : Nat) : Bringup Int :=
  if !input.cmdbuf i then pure (-1)
  else do
    acquire (.cmdBuffer i)
    modify fun s => { s with cmdbuf := Function.update s.cmdbuf i true }
    pure 0

/-- `lbs_allocate_cmd_buffer`. -/
def lbsAllocateCmdBuffer : Bringup Int :=
  if !input.cmdArray then pure (-1)
  else do
    acquire .cmdArray
    modify fun s => { s with cmdArray := true }
    stages ((List.range lbsNumCmdBuffers).map input.allocateCmdbuf)

/-- `lbs_init_adapter`. -/
def lbsInitAdapter : Bringup Int :=
  if !input.networks then pure (-1)
  else do
    acquire .networks
    modify fun s => { s with networks := true }
    let ret ← input.lbsAllocateCmdBuffer
    if ret ≠ 0 then pure (-eNoMem)
    else if !input.kfifoAlloc then do
      modify fun s => { s with eventFifo := .error }
      pure (-eNoMem)
    else do
      acquire .eventFifo
      modify fun s => { s with eventFifo := .valid }
      pure 0

end BringupInput

/-- One buffer in `lbs_free_cmd_buffer`. -/
def freeCmdbuf (i : Nat) : Bringup PUnit := do
  let s ← get
  if s.cmdbuf i then do
    release (.cmdBuffer i)
    modify fun s => { s with cmdbuf := Function.update s.cmdbuf i false }
  else pure ⟨⟩

/-- `lbs_free_cmd_buffer`. -/
def lbsFreeCmdBuffer : Bringup PUnit := do
  let s ← get
  if !s.cmdArray then pure ⟨⟩
  else do
    each freeCmdbuf (List.range lbsNumCmdBuffers)
    release .cmdArray
    modify fun s => { s with cmdArray := false }

/-- `lbs_free_adapter`. The pointer to the FIFO is only compared with NULL. -/
def lbsFreeAdapter : Bringup PUnit := do
  lbsFreeCmdBuffer
  let s ← get
  if s.eventFifo ≠ .null then release .eventFifo else pure ⟨⟩
  if s.networks then release .networks else pure ⟨⟩
  modify fun s => { s with networks := false }

/-- The label `err_init_adapter` of `lbs_add_card`, which returns NULL. -/
def errInitAdapter : Bringup Bool := do
  lbsFreeAdapter
  release .netDev
  pure false

/-- `lbs_add_mesh`; its result is ignored. The pointer is written before the device is
registered. -/
def lbsAddMesh (outcome : AddOutcome) : Bringup PUnit :=
  if !outcome.alloc then pure ⟨⟩
  else do
    acquire .meshDev
    modify fun s => { s with meshDev := true }
    if !outcome.register then release .meshDev
    else do
      acquire .meshRegistration
      if !outcome.group then do
        release .meshRegistration
        release .meshDev
      else acquire .meshGroup

/-- `lbs_remove_mesh`. -/
def lbsRemoveMesh : Bringup PUnit := do
  let s ← get
  if !s.meshDev then pure ⟨⟩
  else do
    release .meshGroup
    release .meshRegistration
    modify fun s => { s with meshDev := false }
    release .meshDev

/-- `lbs_add_rtap`. -/
def lbsAddRtap (outcome : AddOutcome) : Bringup PUnit := do
  let s ← get
  if s.rtapNetDev || !outcome.alloc then pure ⟨⟩
  else do
    acquire .rtapDev
    if !outcome.register then release .rtapDev
    else do
      acquire .rtapRegistration
      modify fun s => { s with rtapNetDev := true }

/-- `lbs_remove_rtap`. -/
def lbsRemoveRtap : Bringup PUnit := do
  let s ← get
  if !s.rtapNetDev then pure ⟨⟩
  else do
    release .rtapRegistration
    release .rtapDev
    modify fun s => { s with rtapNetDev := false }

/-- `lbs_mesh_set`, with the result of `lbs_mesh_config`. -/
def lbsMeshSet (enable : Bool) (config : Int) (outcome : AddOutcome) : Bringup PUnit := do
  let s ← get
  if enable = s.meshDev then pure ⟨⟩
  else if config ≠ 0 then pure ⟨⟩
  else if enable then lbsAddMesh outcome
  else lbsRemoveMesh

/-- `lbs_rtap_set`; `opened` is `infra_open` or `mesh_open`. -/
def lbsRtapSet (monitorMode : Int) (opened : Bool) (outcome : AddOutcome) : Bringup PUnit := do
  let s ← get
  if monitorMode ≠ 0 then
    if s.monitormode = monitorMode then pure ⟨⟩
    else if s.monitormode = 0 then
      if opened then pure ⟨⟩
      else do
        lbsAddRtap outcome
        modify fun s => { s with monitormode := monitorMode }
    else modify fun s => { s with monitormode := monitorMode }
  else if s.monitormode = 0 then pure ⟨⟩
  else do
    modify fun s => { s with monitormode := 0 }
    lbsRemoveRtap

namespace BringupInput

variable (input : BringupInput)

/-- `lbs_add_card`, and whether it returns a pointer. The result of
`create_singlethread_workqueue` is not looked at. -/
def lbsAddCard : Bringup Bool :=
  if !input.allocEtherdev then pure false
  else do
    acquire .netDev
    modify fun _ => .zero
    let ret ← input.lbsInitAdapter
    if ret ≠ 0 then errInitAdapter
    else if !input.kthreadRun then errInitAdapter
    else do
      acquire .mainThread
      if input.createWorkqueue then acquire .workThread else pure ⟨⟩
      modify fun s => { s with workThread := input.createWorkqueue }
      pure true

/-- `lbs_setup_firmware` sends commands. -/
def lbsSetupFirmware : Bringup Int := do
  each (fun i => acquire (.packet i)) (List.range input.packets)
  modify fun s => { s with packets := input.packets }
  pure input.setupFirmware

/-- `lbs_start_card`. It returns 0 also when the net device cannot be registered. -/
def lbsStartCard : Bringup Int := do
  let ret ← input.lbsSetupFirmware
  if ret ≠ 0 then pure ret
  else if !input.registerNetdev then pure ret
  else do
    acquire .registration
    if input.newer && IfSys.startMeshTlv input.config.1 input.config.2 ≠ 0 then
      lbsAddMesh input.mesh
    else pure ⟨⟩
    pure 0

end BringupInput

/-- `lbs_stop_card`. -/
def lbsStopCard : Bringup PUnit :=
  release .registration

/-- `lbs_remove_card`. -/
def lbsRemoveCard : Bringup PUnit := do
  lbsRemoveMesh
  lbsRemoveRtap
  release .workThread
  release .mainThread
  lbsFreeAdapter
  release .netDev

/-- The packets of the card are freed, and the card. -/
def freeCard : Bringup PUnit := do
  let s ← get
  each (fun i => release (.packet i)) (List.range s.packets)
  modify fun s => { s with packets := 0 }
  release .card

/-- The labels of `if_sdio_probe`, from the last one up. -/
def labelFree (ret : Int) : Bringup Int := do
  freeCard
  pure ret

def labelRelease (ret : Int) : Bringup Int := do
  sdioReleaseHost
  labelFree ret

def labelDisable (ret : Int) : Bringup Int := do
  sdioDisableFunc
  labelRelease ret

def labelReleaseInt (ret : Int) : Bringup Int := do
  sdioReleaseIrq
  labelDisable ret

def labelReclaim (ret : Int) : Bringup Int := do
  sdioClaimHost
  labelReleaseInt ret

def labelErrActivateCard (ret : Int) : Bringup Int := do
  release .netDev
  release .priv
  labelReclaim ret

namespace BringupInput

variable (input : BringupInput)

/-- `if_sdio_probe`, behind `lbs_add_card`. -/
def activate : Bringup Int := do
  sdioClaimHost
  accessFunc
  sdioReleaseHost
  if input.intMask ≠ 0 then labelReclaim input.intMask
  else do
    let ret ← input.lbsStartCard
    if ret ≠ 0 then labelErrActivateCard ret
    else pure 0

/-- `if_sdio_probe`, behind the readings of `IF_SDIO_IOPORT`. -/
def loadAndAdd : Bringup Int := do
  sdioReleaseHost
  let ret ← input.ifSdioProgFirmware
  if ret ≠ 0 then labelReclaim ret
  else do
    let added ← input.lbsAddCard
    if !added then labelReclaim (-eNoMem)
    else input.activate

/-- `if_sdio_probe`, when the function is enabled. -/
def claimAndRead : Bringup Int := do
  use .host
  if input.claimIrq ≠ 0 then labelDisable input.claimIrq
  else do
    acquire .irq
    accessFunc
    if input.ioport.1 ≠ 0 then labelReleaseInt input.ioport.1
    else do
      accessFunc
      if input.ioport.2.1 ≠ 0 then labelReleaseInt input.ioport.2.1
      else do
        accessFunc
        if input.ioport.2.2 ≠ 0 then labelReleaseInt input.ioport.2.2
        else input.loadAndAdd

/-- `if_sdio_probe`. -/
def ifSdioProbe : Bringup Int :=
  match input.model with
  | none => pure (-eNoDev)
  | some model =>
      if !input.kzallocCard then pure (-eNoMem)
      else do
        acquire .card
        modify fun s => { s with packets := 0 }
        if model ≠ 0x04 ∧ model ≠ 0x0b then labelFree (-eNoDev)
        else do
          sdioClaimHost
          use .host
          if input.enableFunc ≠ 0 then labelRelease input.enableFunc
          else do
            acquire .function
            input.claimAndRead

end BringupInput

/-- `if_sdio_remove`. -/
def ifSdioRemove : Bringup PUnit := do
  lbsStopCard
  lbsRemoveCard
  sdioClaimHost
  sdioReleaseIrq
  sdioDisableFunc
  sdioReleaseHost
  freeCard

/-- The attributes `lbs_mesh` and `lbs_rtap` are written. -/
inductive AttrWrite
  | mesh (enable : Bool) (config : Int) (outcome : AddOutcome)
  | rtap (monitorMode : Int) (opened : Bool) (outcome : AddOutcome)
deriving DecidableEq, Repr

def AttrWrite.run : AttrWrite → Bringup PUnit
  | mesh enable config outcome => lbsMeshSet enable config outcome
  | rtap monitorMode opened outcome => lbsRtapSet monitorMode opened outcome

/-- The card comes, its attributes are written, and it goes. What its packets do to the host is in
`BringupInput.busyLife`. -/
def BringupInput.life (input : BringupInput) (writes : List AttrWrite) : Bringup PUnit := do
  let _ ← input.ifSdioProbe
  each AttrWrite.run writes
  ifSdioRemove

/-- A part of the driver has the host to itself: `if_sdio_host_to_card_worker` for one packet, which
reads the status until the card is ready and writes the packet, and the thread of the SDIO core
that calls `if_sdio_interrupt`. Both end at the first error. -/
def withHost (accesses : Nat) : Bringup PUnit := do
  sdioClaimHost
  each (fun _ => accessFunc) (List.range accesses)
  sdioReleaseHost

/-- What happens to a card that is there. Each `packet` and `interrupt` comes with the number of its
accesses. -/
inductive CardEvent
  | write (attr : AttrWrite)
  | packet (accesses : Nat)
  | interrupt (accesses : Nat)
deriving DecidableEq, Repr

def CardEvent.run : CardEvent → Bringup PUnit
  | .write attr => attr.run
  | .packet accesses | .interrupt accesses => withHost accesses

end Libertas
