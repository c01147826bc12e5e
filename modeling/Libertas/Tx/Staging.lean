import Libertas.Tx.Xmit

/-!
# What the card is handed

The staging buffer is empty, or one transmit path builds a packet in it, or it holds
the packet that was lined up last. A disconnect that comes while a packet is built
declares the buffer empty, and the two devices then write into it together.

`StagingArea` is what the transmit path has of the buffer, and `AreaStep` says all that
a step can do to it.
-/

namespace Libertas

open ByteOrder

/-- The descriptor of a packet. -/
def TxPacket.txpd (packet : TxPacket) : List UInt8 :=
  let control :=
    match packet.dev with
    | .eth => [0, 0, 0, 0]
    | .mesh => txpdMeshFrame
  [0, 0, 0, 0] ++ (control ++ ([24, 0, 0, 0] ++
    (le16Bytes (UInt16.ofNat packet.skb.length) ++ (slice packet.skb 0 ethAlen ++ [0, 0, 0, 0]))))

/-- What the card has to be handed for a packet. -/
def TxPacket.frame (packet : TxPacket) : List UInt8 :=
  packet.txpd ++ packet.skb

section Frames

open Store

/-- The fields of the descriptor before the flag of the mesh is merged in. -/
structure TxpdFields (mem : Nat → UInt8) (dest : List UInt8) (size : UInt16) : Prop where
  status : read mem 0 4 = [0, 0, 0, 0]
  control : read mem 4 4 = [0, 0, 0, 0]
  location : read mem 8 4 = [24, 0, 0, 0]
  length : read mem 12 2 = le16Bytes size
  destination : read mem 14 6 = dest
  rest : read mem 20 4 = [0, 0, 0, 0]

theorem txpdFields (mem : Nat → UInt8) {dest : List UInt8} (size : UInt16)
    (full : dest.length = 6) :
    TxpdFields
      (run (copyTo 0 (List.replicate txpdSize 0) ++ copyTo 14 dest ++ copyTo 12 (le16Bytes size) ++
        copyTo 8 [24, 0, 0, 0]) mem) dest size := by
  have cleared : ∀ start count, start + count ≤ 24 →
      read (run (copyTo 0 (List.replicate txpdSize 0)) mem) start count =
        List.replicate count 0 := by
    intro start count within
    have part : read (run (copyTo 0 (List.replicate txpdSize 0)) mem) (0 + start) count = _ :=
      read_copyTo_within (by simpa [txpdSize] using within)
    rw [Nat.zero_add] at part
    rw [part, List.drop_replicate, List.take_replicate, Nat.min_eq_left (by simp [txpdSize]; omega)]
  have located (mem : Nat → UInt8) : read (run (copyTo 8 [24, 0, 0, 0]) mem) 8 4 = [24, 0, 0, 0] :=
    read_copyTo
  have sized (mem : Nat → UInt8) :
      read (run (copyTo 12 (le16Bytes size)) mem) 12 2 = le16Bytes size :=
    read_copyTo
  have addressed (mem : Nat → UInt8) : read (run (copyTo 14 dest) mem) 14 6 = dest := by
    rw [← full]
    exact read_copyTo
  have two : (le16Bytes size).length = 2 := rfl
  simp only [run_append]
  constructor
  · simp (disch := simp [full, two]) only [read_copyTo_of_apart]
    exact cleared 0 4 (by decide)
  · simp (disch := simp [full, two]) only [read_copyTo_of_apart]
    exact cleared 4 4 (by decide)
  · exact located _
  · simp (disch := simp [full, two]) only [read_copyTo_of_apart]
    exact sized _
  · simp (disch := simp [full, two]) only [read_copyTo_of_apart]
    exact addressed _
  · simp (disch := simp [full, two]) only [read_copyTo_of_apart]
    exact cleared 20 4 (by decide)

variable (packet : TxPacket) (mem : Nat → UInt8)

/-- Whatever the buffer held, the descriptor is the one of the packet. -/
theorem read_fillTxpd : read (run (fillTxpd packet) mem) 0 txpdSize = packet.txpd := by
  have fields := txpdFields mem (UInt16.ofNat packet.skb.length) (slice_length packet.skb 0 ethAlen)
  have parts : txpdSize = 4 + (4 + (4 + (2 + (6 + 4)))) := rfl
  rw [parts, read_append, read_append, read_append, read_append, read_append]
  rcases packet with ⟨dev, skb⟩
  cases dev with
  | eth =>
      simp only [fillTxpd, List.append_nil]
      rw [fields.status, fields.control, fields.location, fields.length, fields.destination,
        fields.rest]
      rfl
  | mesh =>
      have flagged (mem : Nat → UInt8) : read (run (mergeTo 4 txpdMeshFrame) mem) 4 4 =
          List.zipWith (· ||| ·) (read mem 4 4) txpdMeshFrame :=
        read_mergeTo
      simp only [fillTxpd]
      rw [run_append _ (mergeTo 4 txpdMeshFrame)]
      rw [flagged, fields.control]
      simp (disch := simp [txpdMeshFrame]) only [read_mergeTo_of_apart]
      rw [fields.status, fields.location, fields.length, fields.destination, fields.rest]
      rfl

/-- The length field is read back. -/
theorem length_fillTxpd (fits : packet.skb.length ≤ mrvdrvEthTxPacketBufferSize) :
    (le16At (read (run (fillTxpd packet) mem) 12 2) 0).toNat = packet.skb.length := by
  have whole := read_fillTxpd packet mem
  have parts : txpdSize = 12 + (2 + 10) := rfl
  rw [parts, read_append, read_append] at whole
  have front : packet.txpd = packet.txpd.take 12 ++
      (le16Bytes (UInt16.ofNat packet.skb.length) ++
        (slice packet.skb 0 ethAlen ++ [0, 0, 0, 0])) := by
    rcases packet with ⟨_ | _, skb⟩ <;> rfl
  rw [front] at whole
  have behind := List.append_inj_right whole (by
    rw [read_length]
    rcases packet with ⟨_ | _, skb⟩ <;> rfl)
  have size := List.append_inj_left behind (read_length _ _ _)
  rw [Nat.zero_add] at size
  rw [size, ← List.append_nil (le16Bytes _), le16At_le16Bytes]
  have bound : mrvdrvEthTxPacketBufferSize < UInt16.size := by decide
  exact UInt16.toNat_ofNat_of_lt' (by omega)

end Frames

/-- The call that fills the buffer with a packet, at its begin. -/
def TxPacket.filling (packet : TxPacket) : Filling where
  skb := packet.skb
  stores := fillTxpd packet
  payload := false

namespace Filling

variable (filling : Filling) (mem : Nat → UInt8)

/-- The buffer when the call has stored what is left to store. -/
def finish : Nat → UInt8 :=
  let filled := Store.run filling.stores mem
  if filling.payload then filled else Store.run (fillPayload filling.skb filled) filled

theorem finish_store {store : Store} {rest : List Store} (next : filling.stores = store :: rest) :
    ({ filling with stores := rest } : Filling).finish (store.apply mem) = filling.finish mem := by
  simp only [finish, next, Store.run]

theorem finish_payload (stored : filling.stores = []) (header : filling.payload = false) :
    ({ filling with stores := fillPayload filling.skb mem, payload := true } : Filling).finish
      mem = filling.finish mem := by
  simp [finish, stored, header, Store.run]

theorem finish_done (stored : filling.stores = []) (payload : filling.payload = true) :
    filling.finish mem = mem := by
  simp [finish, stored, payload, Store.run]

end Filling

/-- A call that is not disturbed leaves the frame of its packet. -/
theorem TxPacket.read_finish (packet : TxPacket)
    (fits : packet.skb.length ≤ mrvdrvEthTxPacketBufferSize) (mem : Nat → UInt8) :
    Store.read (packet.filling.finish mem) 0 (txpdSize + packet.skb.length) = packet.frame := by
  let filled := Store.run (fillTxpd packet) mem
  have payload : fillPayload packet.skb filled = Store.copyTo txpdSize packet.skb := by
    rw [fillPayload, length_fillTxpd packet mem fits, slice_self]
  have finished :
      packet.filling.finish mem = Store.run (Store.copyTo txpdSize packet.skb) filled := by
    rw [← payload]
    rfl
  rw [finished, Store.read_append, Store.read_copyTo_of_apart (by simp), Nat.zero_add,
    Store.read_copyTo, read_fillTxpd]
  rfl

/-- What the transmit path has of the staging buffer. -/
structure StagingArea where
  len : Int
  buf : Nat → UInt8
  xmit : TxDev → Option Filling
  accepted : List TxPacket
  handed : List (List UInt8)

/-- All that a step can do to the staging buffer. -/
inductive AreaStep (a : StagingArea) : StagingArea → Prop
  | stay : AreaStep a a
  | claim (packet : TxPacket) (free : a.len = 0) (quiet : a.xmit packet.dev = none)
      (fits : packet.skb.length ≤ mrvdrvEthTxPacketBufferSize) :
      AreaStep a
        { a with len := -1, xmit := Function.update a.xmit packet.dev (some packet.filling) }
  | store (dev : TxDev) (filling : Filling) (store : Store) (rest : List Store)
      (busy : a.xmit dev = some filling) (next : filling.stores = store :: rest) :
      AreaStep a
        { a with
          buf := store.apply a.buf
          xmit := Function.update a.xmit dev (some { filling with stores := rest }) }
  | payload (dev : TxDev) (filling : Filling) (busy : a.xmit dev = some filling)
      (stored : filling.stores = []) (header : filling.payload = false) :
      AreaStep a
        { a with
          xmit := Function.update a.xmit dev
            (some
              { filling with stores := fillPayload filling.skb a.buf, payload := true }) }
  | lineUp (dev : TxDev) (filling : Filling) (busy : a.xmit dev = some filling)
      (stored : filling.stores = []) (done : filling.payload = true) :
      AreaStep a
        { a with
          len := (txpdSize + filling.skb.length : Nat)
          xmit := Function.update a.xmit dev none
          accepted := a.accepted ++ [{ dev := dev, skb := filling.skb }] }
  | hand (full : 0 < a.len) :
      AreaStep a { a with len := 0, handed := a.handed ++ [Store.read a.buf 0 a.len.toNat] }
  | discard (settled : a.len ≠ -1) : AreaStep a { a with len := 0 }

namespace TxSys

/-- The staging buffer of a state. -/
def area (s : TxSys) : StagingArea where
  len := s.priv.txPendingLen
  buf := s.priv.txPendingBuf
  xmit := s.xmit
  accepted := s.accepted
  handed := s.handed

/-- A disconnect does not empty the buffer while a packet is built in it. -/
def StagingSafe (s : TxSys) (action : TxAction) : Prop :=
  action = .main → s.main = .clearing → s.priv.txPendingLen ≠ -1

instance (s : TxSys) (action : TxAction) : Decidable (s.StagingSafe action) := by
  unfold StagingSafe
  infer_instance

section Steps

variable {s t : TxSys}

theorem hardStartXmit_area (packet : TxPacket) (quiet : s.xmit packet.dev = none) :
    AreaStep s.area (s.hardStartXmit packet).area := by
  rw [hardStartXmit]
  split
  · exact .stay
  · split
    · exact .stay
    · rename_i sized
      simp only
      split
      · exact .stay
      · rename_i pending
        exact .claim packet (not_not.mp pending) quiet (by omega)

theorem fillStep_area {dev : TxDev} (stepped : s.fillStep dev = some t) :
    AreaStep s.area t.area := by
  simp only [fillStep] at stepped
  split at stepped
  · cases stepped
  · rename_i filling busy
    split at stepped
    · rename_i store rest next
      cases stepped
      exact .store dev filling store rest busy next
    · rename_i stored
      split at stepped <;> cases stepped
      · rename_i payload
        exact .lineUp dev filling busy stored payload
      · rename_i payload
        exact .payload dev filling busy stored (by simpa using payload)

theorem sendStep_area (success : Bool) : AreaStep s.area (s.sendStep success).area := by
  rw [sendStep]
  split
  · rename_i sends
    have sent : (s.priv.sendPending success).txPendingLen = 0 ∧
        (s.priv.sendPending success).txPendingBuf = s.priv.txPendingBuf := by
      unfold TxPriv.sendPending
      simp only
      split <;> exact ⟨rfl, rfl⟩
    have step : AreaStep s.area _ := .hand sends.2
    simpa [area, sent] using step
  · exact .stay

theorem mainStep_area (safe : s.StagingSafe .main) (stepped : s.mainStep = some t) :
    AreaStep s.area t.area := by
  simp only [mainStep] at stepped
  split at stepped <;> cases stepped
  case h_4 clearing => exact .discard (safe rfl clearing)
  all_goals exact .stay

theorem feedbackStep_area : s.feedbackStep.area = s.area := by
  rw [feedbackStep]
  split
  · split <;> rfl
  · rfl
  · rfl

theorem scanStep_area (allocated : Bool) : (s.scanStep allocated).area = s.area := by
  rw [scanStep, TxPriv.wakeDevUnlessPending, TxPriv.wakeMeshUnlessPending]
  split
  · split <;> rfl
  · rfl
  · split <;> rfl
  · split <;> rfl

theorem monitorStep_area (stepped : s.monitorStep = some t) : t.area = s.area := by
  simp only [monitorStep] at stepped
  split at stepped <;> cases stepped
  all_goals rfl

theorem removeMeshStep_area : s.removeMeshStep.area = s.area := by
  rw [removeMeshStep]
  split
  · rfl
  · split <;> rfl

theorem lbsDevOpen_area (dev : TxDev) :
    ({ s with priv := s.priv.lbsDevOpen dev } : TxSys).area = s.area := by
  unfold TxPriv.lbsDevOpen
  split
  · rfl
  · cases dev <;> rfl

/-- A guarded step that does not touch the staging buffer. -/
theorem area_of_guarded {p : Prop} [Decidable p] {next : TxSys}
    (stepped : (if p then some next else none) = some t) (same : next.area = s.area) :
    AreaStep s.area t.area := by
  split at stepped <;> cases stepped
  rw [same]
  exact .stay

/-- Every step does one of these things to the staging buffer. -/
theorem step_area {action : TxAction} (safe : s.StagingSafe action)
    (stepped : txPath.step s action = some t) : AreaStep s.area t.area := by
  change s.step action = some t at stepped
  cases action with
  | hardStartXmit packet =>
      simp only [step] at stepped
      split at stepped <;> cases stepped
      rename_i idle
      exact hardStartXmit_area packet idle.1
  | fill dev => exact fillStep_area stepped
  | send success =>
      simp only [step] at stepped
      split at stepped <;> cases stepped
      exact sendStep_area success
  | command => exact area_of_guarded stepped rfl
  | hostToCardDone =>
      cases stepped
      exact .stay
  | disconnect => exact area_of_guarded stepped rfl
  | link => exact area_of_guarded stepped rfl
  | meshStart => exact area_of_guarded stepped rfl
  | main => exact mainStep_area safe stepped
  | feedback =>
      cases stepped
      rw [feedbackStep_area]
      exact .stay
  | scan allocated =>
      cases stepped
      rw [scanStep_area]
      exact .stay
  | monitorOn => exact area_of_guarded stepped rfl
  | monitorOff => exact area_of_guarded stepped rfl
  | monitor =>
      rw [monitorStep_area stepped]
      exact .stay
  | devOpen dev => exact area_of_guarded stepped (lbsDevOpen_area dev)
  | devStop dev =>
      cases dev <;> cases stepped <;> exact .stay
  | addMesh =>
      simp only [step] at stepped
      split at stepped <;> cases stepped
      exact .stay
  | removeMesh =>
      cases stepped
      rw [removeMeshStep_area]
      exact .stay
  | suspend =>
      simp only [step] at stepped
      split at stepped <;> cases stepped
      exact .stay
  | resume => exact area_of_guarded stepped rfl
  | remove =>
      cases stepped
      exact .stay

end Steps

end TxSys

namespace StagingArea

/-- What the buffer is in the middle of. -/
inductive Phase (a : StagingArea) : Prop
  | empty (len : a.len = 0) (quiet : ∀ dev, a.xmit dev = none)
  | building (dev : TxDev) (filling : Filling) (len : a.len = -1)
      (busy : a.xmit dev = some filling) (alone : ∀ other, other ≠ dev → a.xmit other = none)
      (finish : Store.read (filling.finish a.buf) 0 (txpdSize + filling.skb.length) =
        TxPacket.frame { dev := dev, skb := filling.skb })
  | full (front : List TxPacket) (packet : TxPacket) (accepted : a.accepted = front ++ [packet])
      (len : a.len = (txpdSize + packet.skb.length : Nat)) (quiet : ∀ dev, a.xmit dev = none)
      (lined : Store.read a.buf 0 (txpdSize + packet.skb.length) = packet.frame)

/-- The accepted packets without the one that waits in the buffer. -/
def settled (a : StagingArea) : List TxPacket :=
  if 0 < a.len then a.accepted.dropLast else a.accepted

/-- Nothing but frames of accepted packets is handed to the card, and no packet twice. -/
structure Faithful (a : StagingArea) : Prop where
  phase : a.Phase
  sent : ∃ picked : List TxPacket,
    picked.Sublist a.settled ∧ a.handed = picked.map TxPacket.frame

section Phases

variable {a b : StagingArea} {dev : TxDev} {filling : Filling}

theorem settled_of_nonpos (len : a.len ≤ 0) : a.settled = a.accepted :=
  if_neg (by omega)

theorem settled_of_accepted {front : List TxPacket} {packet : TxPacket}
    (accepted : a.accepted = front ++ [packet]) (len : 0 < a.len) : a.settled = front := by
  rw [settled, if_pos len, accepted, List.dropLast_concat]

theorem settled_sublist (a : StagingArea) : a.settled.Sublist a.accepted := by
  rw [settled]
  split
  · exact List.dropLast_sublist _
  · exact List.Sublist.refl _

/-- The only call in the buffer leaves the frame of its packet. -/
structure Building (a : StagingArea) (dev : TxDev) (filling : Filling) : Prop where
  len : a.len = -1
  alone : ∀ other, other ≠ dev → a.xmit other = none
  finish : Store.read (filling.finish a.buf) 0 (txpdSize + filling.skb.length) =
    TxPacket.frame { dev := dev, skb := filling.skb }

theorem Phase.of_busy (phase : a.Phase) (busy : a.xmit dev = some filling) :
    a.Building dev filling := by
  cases phase with
  | empty len quiet => rw [quiet dev] at busy; cases busy
  | full front packet accepted len quiet lined => rw [quiet dev] at busy; cases busy
  | building builder started len at_ alone finish =>
      by_cases same : dev = builder
      · subst same
        rw [at_] at busy
        cases busy
        exact ⟨len, alone, finish⟩
      · rw [alone dev same] at busy
        cases busy

theorem Phase.quiet_of_free (phase : a.Phase) (free : a.len = 0) (dev : TxDev) :
    a.xmit dev = none := by
  cases phase with
  | empty _ quiet => exact quiet dev
  | building _ _ len => omega
  | full _ _ _ _ quiet => exact quiet dev

/-- A packet waits in the buffer. -/
structure Lined (a : StagingArea) (front : List TxPacket) (packet : TxPacket) : Prop where
  accepted : a.accepted = front ++ [packet]
  len : a.len = (txpdSize + packet.skb.length : Nat)
  quiet : ∀ dev, a.xmit dev = none
  lined : Store.read a.buf 0 (txpdSize + packet.skb.length) = packet.frame

theorem Phase.of_full (phase : a.Phase) (full : 0 < a.len) :
    ∃ front packet, a.Lined front packet := by
  cases phase with
  | empty len => omega
  | building _ _ len => omega
  | full front packet accepted len quiet lined =>
      exact ⟨front, packet, accepted, len, quiet, lined⟩

/-- The call goes on. -/
theorem Building.next {next : Filling} {buf : Nat → UInt8} (building : a.Building dev filling)
    (skb : next.skb = filling.skb) (finish : next.finish buf = filling.finish a.buf) :
    Phase { a with buf := buf, xmit := Function.update a.xmit dev (some next) } := by
  refine .building dev next building.len (Function.update_self _ _ _) ?_ ?_
  · intro other apart
    rw [← building.alone other apart]
    exact Function.update_of_ne apart _ _
  · rw [skb]
    exact finish ▸ building.finish

/-- The call in the buffer is over. -/
theorem Building.quiet (building : a.Building dev filling) (other : TxDev) :
    Function.update a.xmit dev none other = none := by
  by_cases same : other = dev
  · rw [same]
    exact Function.update_self _ _ _
  · rw [Function.update_of_ne same]
    exact building.alone other same

theorem Faithful.step (faithful : a.Faithful) (step : AreaStep a b) : b.Faithful := by
  obtain ⟨phase, picked, sublist, handed⟩ := faithful
  cases step with
  | stay => exact ⟨phase, picked, sublist, handed⟩
  | claim packet free quiet fits =>
      rw [settled_of_nonpos (by omega)] at sublist
      refine ⟨.building packet.dev packet.filling rfl (Function.update_self _ _ _) ?_ ?_,
        picked, sublist, handed⟩
      · intro other apart
        rw [← phase.quiet_of_free free other]
        exact Function.update_of_ne apart _ _
      · exact packet.read_finish fits _
  | store dev filling store rest busy next =>
      have building := phase.of_busy busy
      exact ⟨building.next rfl (filling.finish_store a.buf next), picked, sublist, handed⟩
  | payload dev filling busy stored header =>
      have building := phase.of_busy busy
      exact ⟨building.next rfl (filling.finish_payload a.buf stored header), picked, sublist,
        handed⟩
  | lineUp dev filling busy stored done =>
      have building := phase.of_busy busy
      rw [settled_of_nonpos (by rw [building.len]; decide)] at sublist
      refine ⟨.full a.accepted ⟨dev, filling.skb⟩ rfl rfl building.quiet ?_, picked, ?_, handed⟩
      · exact filling.finish_done a.buf stored done ▸ building.finish
      · rw [settled_of_accepted rfl (Int.natCast_pos.mpr (Nat.add_pos_left (by decide) _))]
        exact sublist
  | hand full =>
      obtain ⟨front, packet, lined⟩ := phase.of_full full
      rw [settled_of_accepted lined.accepted full] at sublist
      refine ⟨.empty rfl lined.quiet, picked ++ [packet], ?_, ?_⟩
      · rw [settled_of_nonpos (Int.le_refl 0), lined.accepted]
        exact sublist.append (List.Sublist.refl _)
      · rw [List.map_append, ← handed, lined.len, Int.toNat_natCast, lined.lined]
        rfl
  | discard settled =>
      refine ⟨?_, picked, ?_, handed⟩
      · cases phase with
        | empty _ quiet => exact .empty rfl quiet
        | building _ _ len => exact absurd len settled
        | full _ _ _ _ quiet => exact .empty rfl quiet
      · rw [settled_of_nonpos (Int.le_refl 0)]
        exact sublist.trans a.settled_sublist

/-- A packet that waits in the buffer stays as it is. -/
theorem Phase.keeps_full (phase : a.Phase) (full : 0 < a.len) (step : AreaStep a b) :
    b.buf = a.buf := by
  cases step with
  | store dev filling store rest busy next =>
      have building := phase.of_busy busy
      rw [building.len] at full
      cases full
  | _ => rfl

theorem Phase.unique (phase : a.Phase) {dev dev' : TxDev} (busy : a.xmit dev ≠ none)
    (busy' : a.xmit dev' ≠ none) : dev = dev' := by
  obtain ⟨filling, at_⟩ := Option.ne_none_iff_exists'.mp busy
  by_contra apart
  exact busy' ((phase.of_busy at_).alone dev' (Ne.symm apart))

end Phases

end StagingArea

theorem TxSys.faithful_of_reachable {s : TxSys}
    (reached : txPath.ReachableUnder TxSys.StagingSafe s) : s.area.Faithful := by
  apply reached.invariant (fun s => s.area.Faithful)
  · rintro _ rfl
    exact ⟨.empty rfl fun _ => rfl, [], List.Sublist.refl _, rfl⟩
  · intro s action t _ faithful safe stepped
    exact faithful.step (TxSys.step_area safe stepped)

/-- As long as no disconnect empties the buffer under a packet that is being built, one packet is
built at a time, a packet that waits is not overwritten, and the card is handed the frames of
accepted packets, each at most once and in order. -/
theorem staging_buffer_faithful {s : TxSys}
    (reached : txPath.ReachableUnder TxSys.StagingSafe s) :
    (∀ dev dev', s.xmit dev ≠ none → s.xmit dev' ≠ none → dev = dev') ∧
      (∀ action t, txPath.step s action = some t → 0 < s.priv.txPendingLen →
        t.priv.txPendingBuf = s.priv.txPendingBuf) ∧
      ∃ picked : List TxPacket,
        picked.Sublist s.accepted ∧ s.handed = picked.map TxPacket.frame := by
  obtain ⟨phase, picked, sublist, handed⟩ := TxSys.faithful_of_reachable reached
  refine ⟨fun _ _ => phase.unique, fun action t stepped full => ?_, picked, ?_, handed⟩
  · have safe : s.StagingSafe action := by
      intro _ _ building
      omega
    exact phase.keeps_full full (TxSys.step_area safe stepped)
  · exact sublist.trans (StagingArea.settled_sublist _)

/-- Both devices are open and there is a link. -/
def txOpenRun : List TxAction :=
  [.devOpen .eth, .devOpen .mesh, .link, .main]

def ethPacket : TxPacket :=
  { dev := .eth, skb := List.replicate 20 0x11 }

def meshPacket : TxPacket :=
  { dev := .mesh, skb := List.replicate 16 0xaa }

/-- A packet is built, lined up and sent. -/
def txPacketRun : List TxAction :=
  txOpenRun ++ [.hardStartXmit meshPacket] ++ List.replicate 58 (.fill .mesh) ++ [.send true]

theorem staging_buffer_faithful_packet : ∃ s, txPath.ReachableUnder TxSys.StagingSafe s ∧
    s.handed = [meshPacket.frame] ∧
    ∃ picked : List TxPacket,
      picked.Sublist s.accepted ∧ s.handed = picked.map TxPacket.frame := by
  obtain ⟨s, executed, handed⟩ := Machine.exists_of_map
    (fun s : TxSys => s.handed = [meshPacket.frame])
    (show (txPath.runUnder TxSys.StagingSafe .init txPacketRun).map _ = some true by
      decide +kernel)
  have reached : txPath.ReachableUnder TxSys.StagingSafe s := .run (.initial rfl) executed
  exact ⟨s, reached, handed, (staging_buffer_faithful reached).2.2⟩

/-- A disconnect empties the buffer while a packet for `dev` is built, and the event that the mesh
was started wakes the queue of the mesh. -/
def disconnectRun : List TxAction :=
  txOpenRun ++ [.disconnect, .hardStartXmit ethPacket] ++ List.replicate 24 (.fill .eth) ++
    List.replicate 4 .main ++ [.meshStart, .main]

/-- The mesh builds its packet in the same buffer and lines it up. -/
def sharedBufferRun : List TxAction :=
  disconnectRun ++ [.hardStartXmit meshPacket] ++ List.replicate 58 (.fill .mesh)

/-- The first call goes on and lines up what is now in the buffer. -/
def mixedFrameRun : List TxAction :=
  sharedBufferRun ++ List.replicate 34 (.fill .eth) ++ [.send true]

/-- Two packets are built at a time, a packet that waits is overwritten, and a packet of `dev` is
handed to the card as a packet of the mesh. -/
theorem staging_buffer_shared :
    (∃ s, txPath.Reachable s ∧ s.xmit .eth ≠ none ∧ s.xmit .mesh ≠ none) ∧
      (∃ s action t, txPath.Reachable s ∧ 0 < s.priv.txPendingLen ∧
        txPath.step s action = some t ∧ t.priv.txPendingBuf ≠ s.priv.txPendingBuf) ∧
      ∃ s, txPath.Reachable s ∧ ∃ frame ∈ s.handed, ∀ packet ∈ s.accepted,
        frame ≠ packet.frame := by
  refine ⟨?_, ?_, ?_⟩
  · obtain ⟨s, executed, both⟩ := Machine.exists_of_map
      (fun s : TxSys => s.xmit .eth ≠ none ∧ s.xmit .mesh ≠ none)
      (show (txPath.run .init (disconnectRun ++ [.hardStartXmit meshPacket])).map _ = some true by
        decide +kernel)
    exact ⟨s, Machine.reachable_of_run rfl executed, both⟩
  · obtain ⟨s, executed, full, goes, changes⟩ := Machine.exists_of_map
      (fun s : TxSys => 0 < s.priv.txPendingLen ∧ (txPath.step s (.fill .eth)).isSome ∧
        (txPath.step s (.fill .eth)).map (fun t => t.priv.txPendingBuf 14) ≠
          some (s.priv.txPendingBuf 14))
      (show (txPath.run .init sharedBufferRun).map _ = some true by decide +kernel)
    obtain ⟨t, stepped⟩ := Option.isSome_iff_exists.mp goes
    refine ⟨s, .fill .eth, t, Machine.reachable_of_run rfl executed, full, stepped, ?_⟩
    intro same
    rw [stepped, Option.map_some, same] at changes
    exact changes rfl
  · obtain ⟨s, executed, mixed⟩ := Machine.exists_of_map
      (fun s : TxSys => ∃ frame ∈ s.handed, ∀ packet ∈ s.accepted, frame ≠ packet.frame)
      (show (txPath.run .init mixedFrameRun).map _ = some true by decide +kernel)
    exact ⟨s, Machine.reachable_of_run rfl executed, mixed⟩

end Libertas
