import Libertas.Transition.Basic

/-!
# The virtual interfaces

Besides its own net device the driver adds a mesh device and a monitor device.
They are added and removed by the sysfs attributes `lbs_mesh` and `lbs_rtap` of
the net device, and by `lbs_start_card` and `lbs_remove_card`. Whether an
allocation or a registration succeeds comes with the action.

Devices are numbered as they are allocated. What was done with them is kept in
three lists, newest first.
-/

namespace Libertas

abbrev NetDevId := Nat

/-- What the kernel did with net devices. -/
structure NetDevs where
  next : NetDevId
  registered : List NetDevId
  unregistered : List NetDevId
  freed : List NetDevId
deriving DecidableEq, Repr

namespace NetDevs

variable (devs : NetDevs) (dev : NetDevId)

/-- `alloc_netdev`, which returns the next number. -/
def allocNetdev : NetDevs :=
  { devs with next := devs.next + 1 }

/-- `register_netdev`. -/
def registerNetdev : NetDevs :=
  { devs with registered := dev :: devs.registered }

/-- `unregister_netdev`. -/
def unregisterNetdev : NetDevs :=
  { devs with unregistered := dev :: devs.unregistered }

/-- `free_netdev`. -/
def freeNetdev : NetDevs :=
  { devs with freed := dev :: devs.freed }

/-- A device that is registered and not yet freed. -/
structure Live : Prop where
  registered : dev ∈ devs.registered
  unregistered : dev ∉ devs.unregistered
  freed : dev ∉ devs.freed

instance : Decidable (devs.Live dev) :=
  decidable_of_iff
    (dev ∈ devs.registered ∧ dev ∉ devs.unregistered ∧ dev ∉ devs.freed)
    ⟨fun parts => ⟨parts.1, parts.2.1, parts.2.2⟩,
      fun live => ⟨live.registered, live.unregistered, live.freed⟩⟩

end NetDevs

/-- Which steps of adding a device succeed: its allocation, its registration, and the creation
of its sysfs group. -/
structure AddOutcome where
  alloc : Bool
  register : Bool
  group : Bool
deriving DecidableEq, Repr

/-- The life of the card. -/
inductive CardPhase
  | added
  | started
  | stopped
  | removed
deriving DecidableEq, Repr

/-- The fields of the private structure that are about the interfaces, and the kernel. -/
structure IfSys where
  devs : NetDevs
  /-- `priv->dev`. -/
  dev : NetDevId
  meshDev : Option NetDevId
  rtapNetDev : Option NetDevId
  monitormode : Int
  meshTlv : UInt16
  phase : CardPhase
  /-- The attribute `lbs_rtap` exists. -/
  attrRtap : Bool
  /-- The attribute `lbs_mesh` exists. -/
  attrMesh : Bool
deriving DecidableEq, Repr

namespace IfSys

variable (s : IfSys)

/-- `lbs_add_mesh`. The pointer is written before the device is registered. -/
def lbsAddMesh (outcome : AddOutcome) : IfSys :=
  if !outcome.alloc then s
  else
    let meshDev := s.devs.next
    let s := { s with devs := s.devs.allocNetdev, meshDev := some meshDev }
    if !outcome.register then { s with devs := s.devs.freeNetdev meshDev }
    else if !outcome.group then
      { s with
        devs := ((s.devs.registerNetdev meshDev).unregisterNetdev meshDev).freeNetdev meshDev }
    else { s with devs := s.devs.registerNetdev meshDev }

/-- `lbs_remove_mesh`. -/
def lbsRemoveMesh : IfSys :=
  match s.meshDev with
  | none => s
  | some meshDev =>
      { s with devs := (s.devs.unregisterNetdev meshDev).freeNetdev meshDev, meshDev := none }

/-- `lbs_add_rtap`. -/
def lbsAddRtap (outcome : AddOutcome) : IfSys :=
  if s.rtapNetDev.isSome || !outcome.alloc then s
  else
    let rtapDev := s.devs.next
    let s := { s with devs := s.devs.allocNetdev }
    if !outcome.register then { s with devs := s.devs.freeNetdev rtapDev }
    else { s with devs := s.devs.registerNetdev rtapDev, rtapNetDev := some rtapDev }

/-- `lbs_remove_rtap`. -/
def lbsRemoveRtap : IfSys :=
  match s.rtapNetDev with
  | none => s
  | some rtapDev =>
      { s with
        devs := (s.devs.unregisterNetdev rtapDev).freeNetdev rtapDev, rtapNetDev := none }

/-- `lbs_mesh_set`, with the result of `lbs_mesh_config`. -/
def lbsMeshSet (enable : Bool) (config : Int) (outcome : AddOutcome) : IfSys :=
  if enable = s.meshDev.isSome then s
  else if config ≠ 0 then s
  else if enable then s.lbsAddMesh outcome
  else s.lbsRemoveMesh

/-- `lbs_rtap_set`; `opened` is `infra_open` or `mesh_open`. The result of `lbs_add_rtap` is
ignored. -/
def lbsRtapSet (monitorMode : Int) (opened : Bool) (outcome : AddOutcome) : IfSys :=
  if monitorMode ≠ 0 then
    if s.monitormode = monitorMode then s
    else if s.monitormode = 0 then
      if opened then s else { s.lbsAddRtap outcome with monitormode := monitorMode }
    else { s with monitormode := monitorMode }
  else if s.monitormode = 0 then s
  else { s with monitormode := 0 }.lbsRemoveRtap

/-- The TLV that `lbs_start_card` finds out, from the results of `lbs_mesh_config`: `0x100 + 291`,
`0x100 + 37`, or none. -/
def startMeshTlv (first second : Int) : UInt16 :=
  if first = 0 then 0x0223 else if second = 0 then 0x0125 else 0

end IfSys

/-- What `lbs_start_card` meets. -/
structure StartOutcome where
  /-- `lbs_setup_firmware` succeeds. -/
  setup : Bool
  /-- The net device is registered. -/
  register : Bool
  /-- The attributes are created. -/
  attrRtap : Bool
  attrMesh : Bool
  /-- The firmware is newer than 5.0.16p0. -/
  newer : Bool
  /-- The results of the two calls of `lbs_mesh_config`. -/
  config : Int × Int
  mesh : AddOutcome
deriving DecidableEq, Repr

namespace IfSys

/-- `lbs_start_card`. When the firmware cannot be set up the caller frees the card. When the
net device cannot be registered the function returns 0 all the same. -/
def lbsStartCard (s : IfSys) (outcome : StartOutcome) : IfSys :=
  if !outcome.setup then { s with devs := s.devs.freeNetdev s.dev, phase := .removed }
  else if !outcome.register then { s with phase := .started }
  else
    let s := { s with
      devs := s.devs.registerNetdev s.dev, phase := .started, attrRtap := outcome.attrRtap }
    if !outcome.newer then s
    else
      let s := { s with meshTlv := startMeshTlv outcome.config.1 outcome.config.2 }
      if s.meshTlv = 0 then s
      else { s.lbsAddMesh outcome.mesh with attrMesh := outcome.attrMesh }

/-- `lbs_stop_card`. -/
def lbsStopCard (s : IfSys) : IfSys :=
  { s with
    devs := s.devs.unregisterNetdev s.dev, phase := .stopped
    attrRtap := false, attrMesh := if s.meshTlv ≠ 0 then false else s.attrMesh }

/-- `lbs_remove_card`. -/
def lbsRemoveCard (s : IfSys) : IfSys :=
  let s := s.lbsRemoveMesh.lbsRemoveRtap
  { s with devs := s.devs.freeNetdev s.dev, phase := .removed }

end IfSys

/-- What can happen. -/
inductive IfAction
  | start (outcome : StartOutcome)
  | meshSet (enable : Bool) (config : Int) (outcome : AddOutcome)
  | rtapSet (monitorMode : Int) (opened : Bool) (outcome : AddOutcome)
  | stop
  | remove
deriving DecidableEq, Repr

namespace IfSys

/-- One step. The order of starting, stopping and removing is that of the probe and remove
functions of the card's bus; an attribute is written while it exists. -/
def step (s : IfSys) : IfAction → Option IfSys
  | .start outcome => if s.phase = .added then some (s.lbsStartCard outcome) else none
  | .meshSet enable config outcome =>
      if s.attrMesh then some (s.lbsMeshSet enable config outcome) else none
  | .rtapSet monitorMode opened outcome =>
      if s.attrRtap then some (s.lbsRtapSet monitorMode opened outcome) else none
  | .stop => if s.phase = .started then some s.lbsStopCard else none
  | .remove => if s.phase = .stopped then some s.lbsRemoveCard else none

/-- `lbs_add_card` has allocated the net device. -/
def init : IfSys :=
  { devs := { next := 1, registered := [], unregistered := [], freed := [] }
    dev := 0, meshDev := none, rtapNetDev := none, monitormode := 0, meshTlv := 0
    phase := .added, attrRtap := false, attrMesh := false }

end IfSys

/-- The life of the interfaces. -/
def interfaces : Machine IfSys IfAction where
  initial s := s = .init
  step := IfSys.step

/-- The pointers are NULL or point to live devices, and while the card is there the monitor mode
has its device. No device is unregistered or freed twice. -/
structure InterfacesConsistent (s : IfSys) : Prop where
  mesh : ∀ dev, s.meshDev = some dev → s.devs.Live dev
  rtap : ∀ dev, s.rtapNetDev = some dev → s.devs.Live dev
  monitor : s.phase ≠ .removed → s.monitormode ≠ 0 → s.rtapNetDev ≠ none
  unregistered : s.devs.unregistered.Nodup
  freed : s.devs.freed.Nodup

/-- Adding the mesh device does not fail once it is allocated, and `lbs_add_rtap` does not
fail. -/
def AddsSucceed (s : IfSys) : IfAction → Prop
  | .start outcome => outcome.mesh.alloc = true → outcome.mesh.register = true ∧
      outcome.mesh.group = true
  | .meshSet _ _ outcome => outcome.alloc = true → outcome.register = true ∧
      outcome.group = true
  | .rtapSet monitorMode opened outcome => monitorMode ≠ 0 → s.monitormode = 0 →
      opened = false → outcome.alloc = true ∧ outcome.register = true
  | .stop | .remove => True

instance (s : IfSys) (action : IfAction) : Decidable (AddsSucceed s action) := by
  unfold AddsSucceed
  split <;> infer_instance

/-- What is known about the devices, and about the pointers to them. -/
structure DevicesKept (s : IfSys) : Prop where
  registeredKnown : ∀ dev ∈ s.devs.registered, dev < s.devs.next
  unregisteredKnown : ∀ dev ∈ s.devs.unregistered, dev < s.devs.next
  freedKnown : ∀ dev ∈ s.devs.freed, dev < s.devs.next
  devKnown : s.dev < s.devs.next
  unregisteredOnce : s.devs.unregistered.Nodup
  freedOnce : s.devs.freed.Nodup
  mesh : ∀ dev, s.meshDev = some dev → s.devs.Live dev
  rtap : ∀ dev, s.rtapNetDev = some dev → s.devs.Live dev
  apart : ∀ dev, s.meshDev = some dev → s.rtapNetDev ≠ some dev
  meshOther : s.meshDev ≠ some s.dev
  rtapOther : s.rtapNetDev ≠ some s.dev

/-- The net device of the card is left aside. -/
structure DevAside (s t : IfSys) : Prop where
  dev : t.dev = s.dev
  phase : t.phase = s.phase
  attrRtap : t.attrRtap = s.attrRtap
  attrMesh : t.attrMesh = s.attrMesh
  meshTlv : t.meshTlv = s.meshTlv
  monitormode : t.monitormode = s.monitormode
  unregistered : s.dev ∉ s.devs.unregistered → s.dev ∉ t.devs.unregistered
  freed : s.dev ∉ s.devs.freed → s.dev ∉ t.devs.freed

section Operations

variable {s t u : IfSys}

theorem DevAside.refl (s : IfSys) : DevAside s s :=
  ⟨rfl, rfl, rfl, rfl, rfl, rfl, id, id⟩

theorem DevAside.trans (first : DevAside s t) (second : DevAside t u) : DevAside s u :=
  { dev := second.dev.trans first.dev
    phase := second.phase.trans first.phase
    attrRtap := second.attrRtap.trans first.attrRtap
    attrMesh := second.attrMesh.trans first.attrMesh
    meshTlv := second.meshTlv.trans first.meshTlv
    monitormode := second.monitormode.trans first.monitormode
    unregistered := fun absent =>
      first.dev ▸ second.unregistered (first.dev ▸ first.unregistered absent)
    freed := fun absent => first.dev ▸ second.freed (first.dev ▸ first.freed absent) }

/-- A new device is registered. -/
theorem live_new (kept : DevicesKept s) :
    (s.devs.allocNetdev.registerNetdev s.devs.next).Live s.devs.next :=
  { registered := List.mem_cons_self
    unregistered := fun member => Nat.lt_irrefl _ (kept.unregisteredKnown _ member)
    freed := fun member => Nat.lt_irrefl _ (kept.freedKnown _ member) }

theorem live_alloc {other : NetDevId} {devs : NetDevs} (live : devs.Live other) :
    devs.allocNetdev.Live other :=
  ⟨live.registered, live.unregistered, live.freed⟩

theorem live_register {dev other : NetDevId} {devs : NetDevs} (live : devs.Live other) :
    (devs.registerNetdev dev).Live other :=
  ⟨List.mem_cons_of_mem _ live.registered, live.unregistered, live.freed⟩

theorem live_unregister {dev other : NetDevId} {devs : NetDevs} (live : devs.Live other)
    (different : other ≠ dev) : (devs.unregisterNetdev dev).Live other :=
  ⟨live.registered, List.not_mem_cons_of_ne_of_not_mem different live.unregistered, live.freed⟩

theorem live_free {dev other : NetDevId} {devs : NetDevs} (live : devs.Live other)
    (different : other ≠ dev) : (devs.freeNetdev dev).Live other :=
  ⟨live.registered, live.unregistered, List.not_mem_cons_of_ne_of_not_mem different live.freed⟩

/-- A device that is closed does not disturb another one. -/
theorem live_close {dev other : NetDevId} {devs : NetDevs} (live : devs.Live other)
    (different : other ≠ dev) : ((devs.unregisterNetdev dev).freeNetdev dev).Live other :=
  live_free (live_unregister live different) different

theorem known_new {dev next : NetDevId} {known : List NetDevId} (all : ∀ d ∈ known, d < next)
    (within : dev < next) : ∀ d ∈ dev :: known, d < next := by
  intro d member
  rcases List.mem_cons.mp member with rfl | member
  · exact within
  · exact all d member

theorem known_grows {next : NetDevId} {known : List NetDevId} (all : ∀ d ∈ known, d < next) :
    ∀ d ∈ known, d < next + 1 :=
  fun d member => Nat.lt_succ_of_lt (all d member)

theorem lbsAddMesh_kept (kept : DevicesKept s) {outcome : AddOutcome}
    (clean : outcome.alloc = true → outcome.register = true ∧ outcome.group = true) :
    DevicesKept (s.lbsAddMesh outcome) ∧ DevAside s (s.lbsAddMesh outcome) := by
  rw [IfSys.lbsAddMesh]
  cases alloc : outcome.alloc with
  | false => exact ⟨kept, .refl s⟩
  | true =>
      obtain ⟨registered, grouped⟩ := clean alloc
      simp only [registered, grouped, Bool.not_true, Bool.false_eq_true, if_false]
      refine ⟨?_, ⟨rfl, rfl, rfl, rfl, rfl, rfl, id, id⟩⟩
      exact
        { registeredKnown := known_new (known_grows kept.registeredKnown) (Nat.lt_succ_self _)
          unregisteredKnown := known_grows kept.unregisteredKnown
          freedKnown := known_grows kept.freedKnown
          devKnown := Nat.lt_succ_of_lt kept.devKnown
          unregisteredOnce := kept.unregisteredOnce
          freedOnce := kept.freedOnce
          mesh := by
            rintro dev ⟨⟩
            exact live_new kept
          rtap := fun dev pointer => live_register (live_alloc (kept.rtap dev pointer))
          apart := by
            rintro dev ⟨⟩ same
            exact Nat.lt_irrefl _ (kept.registeredKnown _ (kept.rtap _ same).registered)
          meshOther := by
            intro same
            have new := kept.devKnown
            rw [← Option.some.inj same] at new
            exact Nat.lt_irrefl _ new
          rtapOther := kept.rtapOther }

theorem lbsAddRtap_kept (kept : DevicesKept s) {outcome : AddOutcome}
    (succeeds : outcome.alloc = true ∧ outcome.register = true) :
    DevicesKept (s.lbsAddRtap outcome) ∧ DevAside s (s.lbsAddRtap outcome) ∧
      (s.lbsAddRtap outcome).rtapNetDev ≠ none := by
  rw [IfSys.lbsAddRtap]
  cases pointer : s.rtapNetDev with
  | some dev =>
      rw [if_pos (by simp)]
      exact ⟨kept, .refl s, by rw [pointer]; nofun⟩
  | none =>
      simp only [succeeds.1, succeeds.2, Option.isSome_none, Bool.not_true, Bool.or_self,
        Bool.false_eq_true, if_false]
      refine ⟨?_, ⟨rfl, rfl, rfl, rfl, rfl, rfl, id, id⟩, nofun⟩
      exact
        { registeredKnown := known_new (known_grows kept.registeredKnown) (Nat.lt_succ_self _)
          unregisteredKnown := known_grows kept.unregisteredKnown
          freedKnown := known_grows kept.freedKnown
          devKnown := Nat.lt_succ_of_lt kept.devKnown
          unregisteredOnce := kept.unregisteredOnce
          freedOnce := kept.freedOnce
          mesh := fun dev pointer => live_register (live_alloc (kept.mesh dev pointer))
          rtap := by
            rintro dev ⟨⟩
            exact live_new kept
          apart := by
            rintro dev pointer same
            have known := kept.registeredKnown _ (kept.mesh _ pointer).registered
            rw [← Option.some.inj same] at known
            exact Nat.lt_irrefl _ known
          meshOther := kept.meshOther
          rtapOther := by
            intro same
            have new := kept.devKnown
            rw [← Option.some.inj same] at new
            exact Nat.lt_irrefl _ new }

theorem lbsRemoveMesh_kept (kept : DevicesKept s) :
    DevicesKept s.lbsRemoveMesh ∧ DevAside s s.lbsRemoveMesh ∧
      s.lbsRemoveMesh.rtapNetDev = s.rtapNetDev := by
  rw [IfSys.lbsRemoveMesh]
  cases pointer : s.meshDev with
  | none => exact ⟨kept, .refl s, rfl⟩
  | some dev =>
      have live := kept.mesh dev pointer
      have known := kept.registeredKnown dev live.registered
      have other : s.dev ≠ dev := fun same => kept.meshOther (same ▸ pointer)
      refine ⟨?_, ⟨rfl, rfl, rfl, rfl, rfl, rfl, List.not_mem_cons_of_ne_of_not_mem other,
        List.not_mem_cons_of_ne_of_not_mem other⟩, rfl⟩
      exact
        { registeredKnown := kept.registeredKnown
          unregisteredKnown := known_new kept.unregisteredKnown known
          freedKnown := known_new kept.freedKnown known
          devKnown := kept.devKnown
          unregisteredOnce := List.nodup_cons.mpr ⟨live.unregistered, kept.unregisteredOnce⟩
          freedOnce := List.nodup_cons.mpr ⟨live.freed, kept.freedOnce⟩
          mesh := nofun
          rtap := fun rtapDev rtapPointer => live_close (kept.rtap rtapDev rtapPointer) fun same =>
            kept.apart dev pointer (same ▸ rtapPointer)
          apart := nofun
          meshOther := nofun
          rtapOther := kept.rtapOther }

theorem lbsRemoveRtap_kept (kept : DevicesKept s) :
    DevicesKept s.lbsRemoveRtap ∧ DevAside s s.lbsRemoveRtap := by
  rw [IfSys.lbsRemoveRtap]
  cases pointer : s.rtapNetDev with
  | none => exact ⟨kept, .refl s⟩
  | some dev =>
      have live := kept.rtap dev pointer
      have known := kept.registeredKnown dev live.registered
      have other : s.dev ≠ dev := fun same => kept.rtapOther (same ▸ pointer)
      refine ⟨?_, ⟨rfl, rfl, rfl, rfl, rfl, rfl, List.not_mem_cons_of_ne_of_not_mem other,
        List.not_mem_cons_of_ne_of_not_mem other⟩⟩
      exact
        { registeredKnown := kept.registeredKnown
          unregisteredKnown := known_new kept.unregisteredKnown known
          freedKnown := known_new kept.freedKnown known
          devKnown := kept.devKnown
          unregisteredOnce := List.nodup_cons.mpr ⟨live.unregistered, kept.unregisteredOnce⟩
          freedOnce := List.nodup_cons.mpr ⟨live.freed, kept.freedOnce⟩
          mesh := fun meshDev meshPointer => live_close (kept.mesh meshDev meshPointer) fun same =>
            kept.apart meshDev meshPointer (same ▸ pointer)
          rtap := nofun
          apart := fun _ _ => nofun
          meshOther := kept.meshOther
          rtapOther := nofun }

end Operations

/-- What every reachable state keeps, if adding devices succeeds. -/
structure IfInvariant (s : IfSys) : Prop where
  kept : DevicesKept s
  monitor : s.phase ≠ .removed → s.monitormode ≠ 0 → s.rtapNetDev ≠ none
  unregistered : s.phase = .added ∨ s.phase = .started → s.dev ∉ s.devs.unregistered
  freed : s.phase ≠ .removed → s.dev ∉ s.devs.freed
  attrs : s.attrRtap = true ∨ s.attrMesh = true → s.phase = .started
  tlv : s.attrMesh = true → s.meshTlv ≠ 0

namespace IfInvariant

variable {s t : IfSys}

/-- An operation on the other devices keeps the invariant, if the monitor mode has its device. -/
theorem aside (inv : IfInvariant s) (kept : DevicesKept t) (away : DevAside s t)
    (monitor : t.phase ≠ .removed → t.monitormode ≠ 0 → t.rtapNetDev ≠ none) :
    IfInvariant t where
  kept := kept
  monitor := monitor
  unregistered := by
    rw [away.phase, away.dev]
    exact fun there => away.unregistered (inv.unregistered there)
  freed := by
    rw [away.phase, away.dev]
    exact fun there => away.freed (inv.freed there)
  attrs := by
    rw [away.attrRtap, away.attrMesh, away.phase]
    exact inv.attrs
  tlv := by
    rw [away.attrMesh, away.meshTlv]
    exact inv.tlv

theorem lbsAddMesh_rtapNetDev (s : IfSys) (outcome : AddOutcome) :
    (s.lbsAddMesh outcome).rtapNetDev = s.rtapNetDev := by
  rw [IfSys.lbsAddMesh]
  split
  · rfl
  · dsimp only
    split
    · rfl
    · split <;> rfl

theorem addMesh (inv : IfInvariant s) {outcome : AddOutcome}
    (clean : outcome.alloc = true → outcome.register = true ∧ outcome.group = true) :
    IfInvariant (s.lbsAddMesh outcome) := by
  obtain ⟨kept, away⟩ := lbsAddMesh_kept inv.kept clean
  apply inv.aside kept away
  rw [away.phase, away.monitormode, lbsAddMesh_rtapNetDev]
  exact inv.monitor

theorem meshSet (inv : IfInvariant s) {enable : Bool} {config : Int} {outcome : AddOutcome}
    (clean : outcome.alloc = true → outcome.register = true ∧ outcome.group = true) :
    IfInvariant (s.lbsMeshSet enable config outcome) := by
  rw [IfSys.lbsMeshSet]
  split
  · exact inv
  · split
    · exact inv
    · split
      · exact inv.addMesh clean
      · obtain ⟨kept, away, rtap⟩ := lbsRemoveMesh_kept inv.kept
        apply inv.aside kept away
        rw [away.phase, away.monitormode, rtap]
        exact inv.monitor

/-- The monitor mode may change to one that has its device. -/
theorem setMonitor (inv : IfInvariant s) {mode : Int}
    (monitor : mode ≠ 0 → s.rtapNetDev ≠ none) :
    IfInvariant { s with monitormode := mode } where
  kept := ⟨inv.kept.registeredKnown, inv.kept.unregisteredKnown, inv.kept.freedKnown,
    inv.kept.devKnown, inv.kept.unregisteredOnce, inv.kept.freedOnce, inv.kept.mesh,
    inv.kept.rtap, inv.kept.apart, inv.kept.meshOther, inv.kept.rtapOther⟩
  monitor := fun _ => monitor
  unregistered := inv.unregistered
  freed := inv.freed
  attrs := inv.attrs
  tlv := inv.tlv

theorem rtapSet (inv : IfInvariant s) {monitorMode : Int} {opened : Bool} {outcome : AddOutcome}
    (there : s.phase ≠ .removed)
    (succeeds : monitorMode ≠ 0 → s.monitormode = 0 → opened = false →
      outcome.alloc = true ∧ outcome.register = true) :
    IfInvariant (s.lbsRtapSet monitorMode opened outcome) := by
  rw [IfSys.lbsRtapSet]
  split
  · rename_i wanted
    split
    · exact inv
    · split
      · rename_i off
        split
        · exact inv
        · rename_i closed
          obtain ⟨kept, away, added⟩ := lbsAddRtap_kept inv.kept
            (succeeds wanted off (Bool.eq_false_iff.mpr closed))
          exact (inv.aside kept away fun _ _ => added).setMonitor fun _ => added
      · rename_i on
        exact inv.setMonitor fun _ => inv.monitor there on
  · split
    · exact inv
    · have off : IfInvariant { s with monitormode := 0 } := inv.setMonitor fun on => absurd rfl on
      obtain ⟨kept, away⟩ := lbsRemoveRtap_kept off.kept
      exact off.aside kept away fun _ on => absurd away.monitormode on

/-- The net device of the card is registered. -/
theorem registered (inv : IfInvariant s) (added : s.phase = .added) (attrRtap : Bool) :
    IfInvariant { s with
      devs := s.devs.registerNetdev s.dev, phase := .started, attrRtap := attrRtap } where
  kept :=
    { registeredKnown := known_new inv.kept.registeredKnown inv.kept.devKnown
      unregisteredKnown := inv.kept.unregisteredKnown
      freedKnown := inv.kept.freedKnown
      devKnown := inv.kept.devKnown
      unregisteredOnce := inv.kept.unregisteredOnce
      freedOnce := inv.kept.freedOnce
      mesh := fun dev pointer => live_register (inv.kept.mesh dev pointer)
      rtap := fun dev pointer => live_register (inv.kept.rtap dev pointer)
      apart := inv.kept.apart
      meshOther := inv.kept.meshOther
      rtapOther := inv.kept.rtapOther }
  monitor := fun _ => inv.monitor (by rw [added]; nofun)
  unregistered := fun _ => inv.unregistered (.inl added)
  freed := fun _ => inv.freed (by rw [added]; nofun)
  attrs := fun _ => rfl
  tlv := inv.tlv

theorem start (inv : IfInvariant s) (added : s.phase = .added) {outcome : StartOutcome}
    (clean : outcome.mesh.alloc = true → outcome.mesh.register = true ∧
      outcome.mesh.group = true) : IfInvariant (s.lbsStartCard outcome) := by
  have there : s.phase ≠ .removed := by
    rw [added]
    nofun
  have noAttr : ¬ (s.attrRtap = true ∨ s.attrMesh = true) := by
    intro attr
    have started := inv.attrs attr
    rw [added] at started
    cases started
  rw [IfSys.lbsStartCard]
  split
  · exact
      { kept :=
          { inv.kept with
            freedKnown := known_new inv.kept.freedKnown inv.kept.devKnown
            freedOnce := List.nodup_cons.mpr ⟨inv.freed there, inv.kept.freedOnce⟩
            mesh := fun dev pointer => live_free (inv.kept.mesh dev pointer)
              fun same => inv.kept.meshOther (same ▸ pointer)
            rtap := fun dev pointer => live_free (inv.kept.rtap dev pointer)
              fun same => inv.kept.rtapOther (same ▸ pointer) }
        monitor := fun gone => absurd rfl gone
        unregistered := nofun
        freed := fun gone => absurd rfl gone
        attrs := fun attr => absurd attr noAttr
        tlv := inv.tlv }
  split
  · exact
      { kept := { inv.kept with }
        monitor := fun _ => inv.monitor there
        unregistered := fun _ => inv.unregistered (.inl added)
        freed := fun _ => inv.freed there
        attrs := fun _ => rfl
        tlv := inv.tlv }
  have started := inv.registered added outcome.attrRtap
  dsimp only
  split
  · exact started
  have probed : IfInvariant { s with
      devs := s.devs.registerNetdev s.dev, phase := .started, attrRtap := outcome.attrRtap
      meshTlv := IfSys.startMeshTlv outcome.config.1 outcome.config.2 } :=
    { kept := { started.kept with }
      monitor := started.monitor
      unregistered := started.unregistered
      freed := started.freed
      attrs := started.attrs
      tlv := fun attr => absurd (.inr attr) noAttr }
  split
  · exact probed
  · rename_i found
    have added := probed.addMesh clean
    obtain ⟨_, away⟩ := lbsAddMesh_kept probed.kept clean
    exact
      { kept := { added.kept with }
        monitor := added.monitor
        unregistered := added.unregistered
        freed := added.freed
        attrs := fun _ => away.phase
        tlv := fun _ => by
          rw [away.meshTlv]
          exact found }

theorem stop (inv : IfInvariant s) (started : s.phase = .started) :
    IfInvariant s.lbsStopCard := by
  have there : s.phase ≠ .removed := by
    rw [started]
    nofun
  have attrGone : ¬ (if s.meshTlv ≠ 0 then false else s.attrMesh) = true := by
    split
    · nofun
    · rename_i none
      intro attr
      exact none (inv.tlv attr)
  exact
    { kept :=
        { inv.kept with
          unregisteredKnown := known_new inv.kept.unregisteredKnown inv.kept.devKnown
          unregisteredOnce :=
            List.nodup_cons.mpr ⟨inv.unregistered (.inr started), inv.kept.unregisteredOnce⟩
          mesh := fun dev pointer => live_unregister (inv.kept.mesh dev pointer)
            fun same => inv.kept.meshOther (same ▸ pointer)
          rtap := fun dev pointer => live_unregister (inv.kept.rtap dev pointer)
            fun same => inv.kept.rtapOther (same ▸ pointer) }
      monitor := fun _ => inv.monitor there
      unregistered := by rintro (phase | phase) <;> cases phase
      freed := fun _ => inv.freed there
      attrs := by
        rintro (attr | attr)
        · cases attr
        · exact absurd attr attrGone
      tlv := fun attr => absurd attr attrGone }

theorem remove (inv : IfInvariant s) (stopped : s.phase = .stopped) :
    IfInvariant s.lbsRemoveCard := by
  have there : s.phase ≠ .removed := by
    rw [stopped]
    nofun
  obtain ⟨meshKept, meshAway, _⟩ := lbsRemoveMesh_kept inv.kept
  obtain ⟨kept, rtapAway⟩ := lbsRemoveRtap_kept meshKept
  have away := meshAway.trans rtapAway
  have held : s.lbsRemoveMesh.lbsRemoveRtap.dev ∉ s.lbsRemoveMesh.lbsRemoveRtap.devs.freed := by
    rw [away.dev]
    exact away.freed (inv.freed there)
  have noAttr : ¬ (s.lbsRemoveMesh.lbsRemoveRtap.attrRtap = true ∨
      s.lbsRemoveMesh.lbsRemoveRtap.attrMesh = true) := by
    rw [away.attrRtap, away.attrMesh]
    intro attr
    have started := inv.attrs attr
    rw [stopped] at started
    cases started
  exact
    { kept :=
        { kept with
          freedKnown := known_new kept.freedKnown kept.devKnown
          freedOnce := List.nodup_cons.mpr ⟨held, kept.freedOnce⟩
          mesh := fun dev pointer => live_free (kept.mesh dev pointer)
            fun same => kept.meshOther (same ▸ pointer)
          rtap := fun dev pointer => live_free (kept.rtap dev pointer)
            fun same => kept.rtapOther (same ▸ pointer) }
      monitor := fun gone => absurd rfl gone
      unregistered := by rintro (phase | phase) <;> cases phase
      freed := fun gone => absurd rfl gone
      attrs := fun attr => absurd attr noAttr
      tlv := fun attr => absurd (.inr attr) noAttr }

theorem init : IfInvariant .init where
  kept :=
    { registeredKnown := nofun
      unregisteredKnown := nofun
      freedKnown := nofun
      devKnown := Nat.zero_lt_one
      unregisteredOnce := List.nodup_nil
      freedOnce := List.nodup_nil
      mesh := nofun
      rtap := nofun
      apart := nofun
      meshOther := nofun
      rtapOther := nofun }
  monitor := fun _ on => absurd rfl on
  unregistered := nofun
  freed := nofun
  attrs := by rintro (attr | attr) <;> cases attr
  tlv := nofun

/-- Every step in which adding devices succeeds keeps the invariant. -/
theorem step (inv : IfInvariant s) {action : IfAction} (succeeds : AddsSucceed s action)
    (stepped : s.step action = some t) : IfInvariant t := by
  cases action with
  | start outcome =>
      simp only [IfSys.step] at stepped
      split at stepped <;> cases stepped
      rename_i added
      exact inv.start added succeeds
  | meshSet enable config outcome =>
      simp only [IfSys.step] at stepped
      split at stepped <;> cases stepped
      exact inv.meshSet succeeds
  | rtapSet monitorMode opened outcome =>
      simp only [IfSys.step] at stepped
      split at stepped <;> cases stepped
      rename_i attr
      have there : s.phase ≠ .removed := by
        rw [inv.attrs (.inl attr)]
        nofun
      exact inv.rtapSet there succeeds
  | stop =>
      simp only [IfSys.step] at stepped
      split at stepped <;> cases stepped
      rename_i started
      exact inv.stop started
  | remove =>
      simp only [IfSys.step] at stepped
      split at stepped <;> cases stepped
      rename_i stopped
      exact inv.remove stopped

end IfInvariant

/-- In every run in which adding devices succeeds the interfaces are consistent. -/
theorem interfaces_consistent {s : IfSys} (reached : interfaces.ReachableUnder AddsSucceed s) :
    InterfacesConsistent s := by
  have inv : IfInvariant s := by
    refine reached.invariant IfInvariant ?_ fun _ _ _ _ inv succeeds stepped =>
      inv.step succeeds stepped
    rintro _ rfl
    exact .init
  exact ⟨inv.kept.mesh, inv.kept.rtap, inv.monitor, inv.kept.unregisteredOnce,
    inv.kept.freedOnce⟩

/-- The card is started, and the firmware supports mesh. -/
def startMesh (mesh : AddOutcome) : IfAction :=
  .start { setup := true, register := true, attrRtap := true, attrMesh := true, newer := true
           config := (0, 0), mesh := mesh }

/-- Every step of adding a device succeeds. -/
def addsFully : AddOutcome :=
  { alloc := true, register := true, group := true }

/-- A whole life of the card, with both devices. -/
theorem interfaces_consistent_life : ∃ s, interfaces.ReachableUnder AddsSucceed s ∧
    s.phase = .removed ∧ s.devs.freed = [0, 2, 1] ∧ InterfacesConsistent s := by
  obtain ⟨s, executed, removed, freed⟩ := Machine.exists_of_map
    (fun s : IfSys => s.phase = .removed ∧ s.devs.freed = [0, 2, 1])
    (show (interfaces.runUnder AddsSucceed .init
      [startMesh addsFully, .rtapSet 1 false addsFully, .stop, .remove]).map _ = some true by
      decide +kernel)
  have reached := Machine.ReachableUnder.run (.initial rfl) executed
  exact ⟨s, reached, removed, freed, interfaces_consistent reached⟩

/-- The mesh device cannot be registered: its pointer is left behind, and the device is freed
again when mesh is switched off. The monitor device cannot be allocated: the mode is set. -/
theorem interfaces_inconsistent :
    (∃ s, interfaces.Reachable s ∧ s.devs.freed = [1] ∧ s.meshDev = some 1) ∧
      (∃ s, interfaces.Reachable s ∧ s.devs.freed = [1, 1]) ∧
      ∃ s, interfaces.Reachable s ∧ s.phase = .started ∧ s.monitormode = 1 ∧
        s.rtapNetDev = none := by
  refine ⟨?_, ?_, ?_⟩
  · obtain ⟨s, executed, found⟩ := Machine.exists_of_map
      (fun s : IfSys => s.devs.freed = [1] ∧ s.meshDev = some 1)
      (show (interfaces.run .init [startMesh { addsFully with register := false }]).map _ =
        some true by decide +kernel)
    exact ⟨s, Machine.reachable_of_run rfl executed, found⟩
  · obtain ⟨s, executed, found⟩ := Machine.exists_of_map
      (fun s : IfSys => s.devs.freed = [1, 1])
      (show (interfaces.run .init [startMesh { addsFully with register := false },
        .meshSet false 0 addsFully]).map _ = some true by decide +kernel)
    exact ⟨s, Machine.reachable_of_run rfl executed, found⟩
  · obtain ⟨s, executed, found⟩ := Machine.exists_of_map
      (fun s : IfSys => s.phase = .started ∧ s.monitormode = 1 ∧ s.rtapNetDev = none)
      (show (interfaces.run .init [startMesh addsFully,
        .rtapSet 1 false { addsFully with alloc := false }]).map _ = some true by decide +kernel)
    exact ⟨s, Machine.reachable_of_run rfl executed, found⟩

end Libertas
