import Libertas.Tx.Staging

/-!
# The transmit queues

A transmit on either device stops the queues of both, and a scan stops them too.
Whoever stops a queue leaves somebody behind who will wake it: the packet in the
buffer or the one that waits for its feedback, the scan, or a handler that is half
done. `EthDue` and `MeshDue` list them.

A disconnect empties the buffer and leaves the queue of the mesh as it is. Switching
the monitor off drops the packet that waits for its feedback, and wakes no queue.
`QueuesSafe` leaves out the steps in which a stopped queue loses its packet that way.
-/

namespace Libertas

/-- A packet is built or pending, or waits for its feedback. -/
def TxPriv.Busy (priv : TxPriv) : Prop :=
  priv.txPendingLen ≠ 0 ∨ priv.currenttxskb = true

section Wake

variable {priv : TxPriv}

/-- The queue of `dev` that is stopped after it was woken has no link. -/
theorem TxPriv.unlinked_of_wakeDev (stopped : priv.wakeDev.devQueue = false) :
    priv.connectStatus ≠ .connected :=
  of_decide_eq_false (Bool.or_eq_false_iff.mp stopped).1

theorem TxPriv.unlinked_of_wakeMesh (stopped : priv.wakeMesh.meshQueue = false) :
    ¬ (priv.meshDev = true ∧ priv.meshConnectStatus = .connected) := by
  have waker := (Bool.or_eq_false_iff.mp stopped).1
  simpa using waker

end Wake

/-- The main thread is about to end the link or to wake the queue of `dev`. -/
def TxMain.HandlesLink (main : TxMain) : Prop :=
  main = .freeing ∨ main = .clearing ∨ main = .unlinking ∨ main = .linked

instance (main : TxMain) : Decidable main.HandlesLink := by
  unfold TxMain.HandlesLink
  infer_instance

namespace TxSys

/-- The eth device could transmit, but its queue is stopped. -/
structure EthStopped (s : TxSys) : Prop where
  opened : s.priv.infraOpen = true
  connected : s.priv.connectStatus = .connected
  awake : s.suspended = false
  stopped : s.priv.devQueue = false

/-- The mesh device could transmit, but its queue is stopped. -/
structure MeshStopped (s : TxSys) : Prop where
  opened : s.priv.meshOpen = true
  connected : s.priv.meshConnectStatus = .connected
  awake : s.suspended = false
  stopped : s.priv.meshQueue = false

/-- Somebody will wake the queue of `dev`, or the link will end. -/
inductive EthDue (s : TxSys) : Prop
  | packet (busy : s.priv.Busy)
  | scan (scanning : s.scan = .stopping ∨ s.scan = .running)
  | feedback (freed : s.feedback = .freed)
  | handler (handles : s.main.HandlesLink)

/-- Somebody will wake the queue of `mesh_dev`, or the device goes away. -/
inductive MeshDue (s : TxSys) : Prop
  | packet (busy : s.priv.Busy)
  | scan (scanning : s.scan = .running ∨ s.scan = .devWoken)
  | feedback (freed : s.feedback = .freed ∨ s.feedback = .devWoken)
  | removal (removing : s.meshRemoving = true)

/-- A stopped queue does not lose the packet that it waits for. -/
def QueuesSafe (s : TxSys) : TxAction → Prop
  | .main =>
      s.main = .freeing ∧ s.priv.currenttxskb = true ∨
        s.main = .clearing ∧ s.priv.txPendingLen ≠ 0 → ¬ s.MeshStopped
  | .monitor =>
      s.monitor = .freeing ∧ s.priv.currenttxskb = true → ¬ s.EthStopped ∧ ¬ s.MeshStopped
  | _ => True

/-- Nothing is sent and no scan is in progress. -/
structure Quiet (s : TxSys) : Prop where
  present : s.priv.surpriseremoved = false
  awake : s.suspended = false
  empty : s.priv.txPendingLen = 0
  free : s.priv.currenttxskb = false
  scan : s.scan = .idle

/-- Whoever stopped a queue has left somebody behind. An open mesh device is there, and is
connected. -/
structure Attended (s : TxSys) : Prop where
  mesh : s.priv.meshOpen = true → s.priv.meshDev = true ∧ s.priv.meshConnectStatus = .connected
  ethDue : s.EthStopped → s.EthDue
  meshDue : s.MeshStopped → s.MeshDue

section Decide

variable (s : TxSys)

instance : Decidable s.EthStopped :=
  decidable_of_iff
    (s.priv.infraOpen = true ∧ s.priv.connectStatus = .connected ∧ s.suspended = false ∧
      s.priv.devQueue = false)
    ⟨fun ⟨opened, connected, awake, stopped⟩ => ⟨opened, connected, awake, stopped⟩,
      fun ⟨opened, connected, awake, stopped⟩ => ⟨opened, connected, awake, stopped⟩⟩

instance : Decidable s.MeshStopped :=
  decidable_of_iff
    (s.priv.meshOpen = true ∧ s.priv.meshConnectStatus = .connected ∧ s.suspended = false ∧
      s.priv.meshQueue = false)
    ⟨fun ⟨opened, connected, awake, stopped⟩ => ⟨opened, connected, awake, stopped⟩,
      fun ⟨opened, connected, awake, stopped⟩ => ⟨opened, connected, awake, stopped⟩⟩

instance : Decidable s.Quiet :=
  decidable_of_iff
    (s.priv.surpriseremoved = false ∧ s.suspended = false ∧ s.priv.txPendingLen = 0 ∧
      s.priv.currenttxskb = false ∧ s.scan = .idle)
    ⟨fun ⟨present, awake, empty, free, scan⟩ => ⟨present, awake, empty, free, scan⟩,
      fun ⟨present, awake, empty, free, scan⟩ => ⟨present, awake, empty, free, scan⟩⟩

instance (action : TxAction) : Decidable (s.QueuesSafe action) := by
  unfold QueuesSafe
  split <;> infer_instance

end Decide

section Steps

variable {s t : TxSys}

theorem EthDue.mono (due : s.EthDue) (busy : s.priv.Busy → t.priv.Busy)
    (scan : s.scan = .stopping ∨ s.scan = .running → t.scan = .stopping ∨ t.scan = .running)
    (feedback : s.feedback = .freed → t.feedback = .freed)
    (main : s.main.HandlesLink → t.main.HandlesLink) : t.EthDue := by
  cases due with
  | packet packet => exact .packet (busy packet)
  | scan scanning => exact .scan (scan scanning)
  | feedback freed => exact .feedback (feedback freed)
  | handler handles => exact .handler (main handles)

theorem MeshDue.mono (due : s.MeshDue) (busy : s.priv.Busy → t.priv.Busy)
    (scan : s.scan = .running ∨ s.scan = .devWoken → t.scan = .running ∨ t.scan = .devWoken)
    (feedback : s.feedback = .freed ∨ s.feedback = .devWoken →
      t.feedback = .freed ∨ t.feedback = .devWoken)
    (removing : s.meshRemoving = true → t.meshRemoving = true) : t.MeshDue := by
  cases due with
  | packet packet => exact .packet (busy packet)
  | scan scanning => exact .scan (scan scanning)
  | feedback freed => exact .feedback (feedback freed)
  | removal going => exact .removal (removing going)

namespace Attended

/-- A step that stops no queue and leaves those behind who were there. -/
theorem aside (attended : s.Attended) (eth : t.EthStopped → s.EthStopped)
    (mesh : t.MeshStopped → s.MeshStopped)
    (present : t.priv.meshOpen = true →
      t.priv.meshDev = true ∧ t.priv.meshConnectStatus = .connected)
    (busy : s.priv.Busy → t.priv.Busy) (scan : t.scan = s.scan)
    (feedback : t.feedback = s.feedback) (main : s.main.HandlesLink → t.main.HandlesLink)
    (removing : s.meshRemoving = true → t.meshRemoving = true) : t.Attended where
  mesh := present
  ethDue := fun stopped =>
    (attended.ethDue (eth stopped)).mono busy (scan ▸ id) (feedback ▸ id) main
  meshDue := fun stopped =>
    (attended.meshDue (mesh stopped)).mono busy (scan ▸ id) (feedback ▸ id) removing

/-- As long as a packet is in the buffer the queues may be stopped. -/
theorem of_busy (busy : t.priv.Busy)
    (present : t.priv.meshOpen = true →
      t.priv.meshDev = true ∧ t.priv.meshConnectStatus = .connected) : t.Attended where
  mesh := present
  ethDue := fun _ => .packet busy
  meshDue := fun _ => .packet busy

theorem hardStartXmit (attended : s.Attended) (packet : TxPacket) :
    (s.hardStartXmit packet).Attended := by
  rw [TxSys.hardStartXmit]
  split
  · exact attended
  · split
    · exact attended
    · dsimp only
      split
      · rename_i pending
        exact of_busy (.inl pending) attended.mesh
      · exact of_busy (.inl (Int.negSucc_ne_zero 0)) attended.mesh

theorem fillStep (attended : s.Attended) {dev : TxDev} (stepped : s.fillStep dev = some t) :
    t.Attended := by
  simp only [TxSys.fillStep] at stepped
  split at stepped
  · cases stepped
  · rename_i filling _
    split at stepped
    · cases stepped
      exact attended.aside (fun h => ⟨h.1, h.2, h.3, h.4⟩) (fun h => ⟨h.1, h.2, h.3, h.4⟩)
        attended.mesh id rfl rfl id id
    · split at stepped <;> cases stepped
      · have lined : ((txpdSize + filling.skb.length : Nat) : Int) ≠ 0 :=
          Int.natCast_ne_zero.mpr (Nat.ne_of_gt (Nat.add_pos_left (by decide) _))
        exact of_busy (.inl lined) attended.mesh
      · exact attended.aside (fun h => ⟨h.1, h.2, h.3, h.4⟩) (fun h => ⟨h.1, h.2, h.3, h.4⟩)
          attended.mesh id rfl rfl id id

/-- The packet that was handed to the card is gone, and both queues are woken, unless its feedback
is waited for. -/
theorem sendStep (attended : s.Attended) (success : Bool) : (s.sendStep success).Attended := by
  unfold TxSys.sendStep TxPriv.sendPending
  split
  · dsimp only
    split
    · rename_i kept
      exact of_busy (.inr kept) attended.mesh
    · refine ⟨attended.mesh, fun eth => ?_, fun mesh => ?_⟩
      · exact (TxPriv.unlinked_of_wakeDev eth.stopped eth.connected).elim
      · exact (TxPriv.unlinked_of_wakeMesh mesh.stopped (attended.mesh mesh.opened)).elim
  · exact attended

theorem mainStep (attended : s.Attended) (safe : s.QueuesSafe .main)
    (stepped : s.mainStep = some t) : t.Attended := by
  simp only [TxSys.mainStep] at stepped
  split at stepped <;> cases stepped
  case h_2 =>
    refine ⟨attended.mesh, fun _ => .handler (.inl rfl), fun h => ?_⟩
    exact (attended.meshDue ⟨h.1, h.2, h.3, h.4⟩).mono id id id id
  case h_3 freeing =>
    refine ⟨attended.mesh, fun _ => .handler (.inr (.inl rfl)), fun h => ?_⟩
    have stopped : s.MeshStopped := ⟨h.1, h.2, h.3, h.4⟩
    refine (attended.meshDue stopped).mono ?_ id id id
    rintro (pending | kept)
    · exact .inl pending
    · exact absurd stopped (safe (.inl ⟨freeing, kept⟩))
  case h_4 clearing =>
    refine ⟨attended.mesh, fun _ => .handler (.inr (.inr (.inl rfl))), fun h => ?_⟩
    have stopped : s.MeshStopped := ⟨h.1, h.2, h.3, h.4⟩
    refine (attended.meshDue stopped).mono ?_ id id id
    rintro (pending | kept)
    · exact absurd stopped (safe (.inr ⟨clearing, pending⟩))
    · exact .inr kept
  case h_5 =>
    refine ⟨attended.mesh, fun h => ?_, fun h => ?_⟩
    · cases h.connected
    · exact (attended.meshDue ⟨h.1, h.2, h.3, h.4⟩).mono id id id id
  case h_6 =>
    refine ⟨attended.mesh, fun h => ?_, fun h => ?_⟩
    · exact .packet (.inl (of_decide_eq_false (Bool.or_eq_false_iff.mp h.stopped).1))
    · exact (attended.meshDue ⟨h.1, h.2, h.3, h.4⟩).mono id id id id
  case h_7 started =>
    have idle : ¬ s.main.HandlesLink := by
      rw [started]
      decide
    exact attended.aside (fun h => ⟨h.1, h.2, h.3, h.4⟩)
      (fun h => ⟨h.1, h.2, h.3, (Bool.or_eq_false_iff.mp h.4).2⟩) attended.mesh id rfl rfl
      (fun handles => absurd handles idle) id

theorem feedbackStep (attended : s.Attended) : s.feedbackStep.Attended := by
  rw [TxSys.feedbackStep]
  split
  · split
    · exact ⟨attended.mesh, fun _ => .feedback rfl, fun _ => .feedback (.inl rfl)⟩
    · exact attended
  · refine ⟨attended.mesh, fun eth => ?_, fun _ => .feedback (.inr rfl)⟩
    exact (TxPriv.unlinked_of_wakeDev eth.stopped eth.connected).elim
  · rename_i woken
    refine ⟨attended.mesh, fun eth => ?_, fun mesh => ?_⟩
    · refine (attended.ethDue ⟨eth.1, eth.2, eth.3, eth.4⟩).mono id id (fun freed => ?_) id
      rw [woken] at freed
      cases freed
    · exact (TxPriv.unlinked_of_wakeMesh mesh.stopped (attended.mesh mesh.opened)).elim

theorem scanStep (attended : s.Attended) (allocated : Bool) :
    (s.scanStep allocated).Attended := by
  rw [TxSys.scanStep]
  split
  · rename_i idle
    split
    · refine ⟨attended.mesh, fun _ => .scan (.inl rfl), fun mesh => ?_⟩
      refine (attended.meshDue ⟨mesh.1, mesh.2, mesh.3, mesh.4⟩).mono id ?_ id id
      rw [idle]
      rintro (scanning | scanning) <;> cases scanning
    · exact ⟨attended.mesh, fun _ => .scan (.inr rfl), fun _ => .scan (.inl rfl)⟩
  · exact ⟨attended.mesh, fun _ => .scan (.inr rfl), fun _ => .scan (.inl rfl)⟩
  · rw [TxPriv.wakeDevUnlessPending]
    split
    · refine ⟨attended.mesh, fun eth => ?_, fun _ => .scan (.inr rfl)⟩
      exact (TxPriv.unlinked_of_wakeDev eth.stopped eth.connected).elim
    · rename_i pending
      exact of_busy (.inl pending) attended.mesh
  · rename_i woken
    rw [TxPriv.wakeMeshUnlessPending]
    split
    · refine ⟨attended.mesh, fun eth => ?_, fun mesh => ?_⟩
      · refine (attended.ethDue ⟨eth.1, eth.2, eth.3, eth.4⟩).mono id ?_ id id
        rw [woken]
        rintro (scanning | scanning) <;> cases scanning
      · exact (TxPriv.unlinked_of_wakeMesh mesh.stopped (attended.mesh mesh.opened)).elim
    · rename_i pending
      exact of_busy (.inl pending) attended.mesh

theorem monitorStep (attended : s.Attended) (safe : s.QueuesSafe .monitor)
    (stepped : s.monitorStep = some t) : t.Attended := by
  simp only [TxSys.monitorStep] at stepped
  split at stepped <;> cases stepped
  case h_3 freeing =>
    refine ⟨attended.mesh, fun eth => ?_, fun mesh => ?_⟩
    · have stopped : s.EthStopped := ⟨eth.1, eth.2, eth.3, eth.4⟩
      refine (attended.ethDue stopped).mono ?_ id id id
      rintro (pending | kept)
      · exact .inl pending
      · exact absurd stopped (safe ⟨freeing, kept⟩).1
    · have stopped : s.MeshStopped := ⟨mesh.1, mesh.2, mesh.3, mesh.4⟩
      refine (attended.meshDue stopped).mono ?_ id id id
      rintro (pending | kept)
      · exact .inl pending
      · exact absurd stopped (safe ⟨freeing, kept⟩).2
  all_goals
    exact attended.aside (fun h => ⟨h.1, h.2, h.3, h.4⟩) (fun h => ⟨h.1, h.2, h.3, h.4⟩)
      attended.mesh id rfl rfl id id

theorem devOpen (attended : s.Attended) {dev : TxDev}
    (present : dev = .mesh → s.priv.meshDev = true) :
    ({ s with priv := s.priv.lbsDevOpen dev } : TxSys).Attended := by
  unfold TxPriv.lbsDevOpen
  split
  · exact attended
  · by_cases pending : s.priv.txPendingLen = 0
    · cases dev with
      | eth =>
          refine ⟨attended.mesh, fun eth => ?_, fun mesh => ?_⟩
          · have running := (Bool.or_eq_false_iff.mp eth.stopped).1
            exact absurd pending (of_decide_eq_false running)
          · exact (attended.meshDue ⟨mesh.1, mesh.2, mesh.3, mesh.4⟩).mono id id id id
      | mesh =>
          refine ⟨fun _ => ⟨present rfl, rfl⟩, fun eth => ?_, fun mesh => ?_⟩
          · exact (attended.ethDue ⟨eth.1, eth.2, eth.3, eth.4⟩).mono id id id id
          · have running := (Bool.or_eq_false_iff.mp mesh.stopped).1
            exact absurd pending (of_decide_eq_false running)
    · cases dev with
      | eth => exact of_busy (.inl pending) attended.mesh
      | mesh => exact of_busy (.inl pending) fun _ => ⟨present rfl, rfl⟩

theorem removeMeshStep (attended : s.Attended) : s.removeMeshStep.Attended := by
  rw [TxSys.removeMeshStep]
  split
  · exact attended
  · split
    · refine ⟨(by cases ·), fun eth => ?_, fun mesh => by cases mesh.opened⟩
      exact (attended.ethDue ⟨eth.1, eth.2, eth.3, eth.4⟩).mono id id id id
    · refine ⟨attended.mesh, fun eth => ?_, fun _ => .removal rfl⟩
      exact (attended.ethDue ⟨eth.1, eth.2, eth.3, eth.4⟩).mono id id id id

/-- A guarded step. -/
theorem guarded {p : Prop} [Decidable p] {next : TxSys}
    (stepped : (if p then some next else none) = some t) (kept : p → next.Attended) :
    t.Attended := by
  split at stepped <;> cases stepped
  rename_i holds
  exact kept holds

/-- Every step that is not left out leaves somebody behind for a stopped queue. -/
theorem step (attended : s.Attended) {action : TxAction} (safe : s.QueuesSafe action)
    (stepped : txPath.step s action = some t) : t.Attended := by
  have untouched {u : TxSys} (queues : u.priv = s.priv ∧ u.suspended = s.suspended)
      (scan : u.scan = s.scan) (feedback : u.feedback = s.feedback)
      (main : s.main.HandlesLink → u.main.HandlesLink)
      (removing : u.meshRemoving = s.meshRemoving) : u.Attended := by
    obtain ⟨priv, suspended⟩ := queues
    refine attended.aside (fun h => ?_) (fun h => ?_) (priv ▸ attended.mesh) (priv ▸ id) scan
      feedback main (removing ▸ id)
    · exact ⟨priv ▸ h.1, priv ▸ h.2, suspended ▸ h.3, priv ▸ h.4⟩
    · exact ⟨priv ▸ h.1, priv ▸ h.2, suspended ▸ h.3, priv ▸ h.4⟩
  change s.step action = some t at stepped
  cases action with
  | hardStartXmit packet => exact guarded stepped fun _ => attended.hardStartXmit packet
  | fill dev => exact attended.fillStep stepped
  | send success => exact guarded stepped fun _ => attended.sendStep success
  | command =>
      exact guarded stepped fun _ => attended.aside (fun h => ⟨h.1, h.2, h.3, h.4⟩)
        (fun h => ⟨h.1, h.2, h.3, h.4⟩) attended.mesh id rfl rfl id id
  | hostToCardDone =>
      cases stepped
      exact attended.aside (fun h => ⟨h.1, h.2, h.3, h.4⟩)
        (fun h => ⟨h.1, h.2, h.3, h.4⟩) attended.mesh id rfl rfl id id
  | disconnect =>
      refine guarded stepped fun ready => untouched ⟨rfl, rfl⟩ rfl rfl (fun handles => ?_) rfl
      rw [ready.1] at handles
      exact absurd handles (by decide)
  | link =>
      refine guarded stepped fun _ => ⟨attended.mesh, fun _ => ?_, fun mesh => ?_⟩
      · exact .handler (.inr (.inr (.inr rfl)))
      · exact (attended.meshDue ⟨mesh.1, mesh.2, mesh.3, mesh.4⟩).mono id id id id
  | meshStart =>
      refine guarded stepped fun idle =>
        ⟨fun opened => ⟨(attended.mesh opened).1, rfl⟩, fun eth => ?_, fun mesh => ?_⟩
      · refine (attended.ethDue ⟨eth.1, eth.2, eth.3, eth.4⟩).mono id id id fun handles => ?_
        rw [idle] at handles
        exact absurd handles (by decide)
      · have connected := (attended.mesh mesh.opened).2
        exact (attended.meshDue ⟨mesh.1, connected, mesh.3, mesh.4⟩).mono id id id id
  | main => exact attended.mainStep safe stepped
  | feedback =>
      cases stepped
      exact attended.feedbackStep
  | scan allocated =>
      cases stepped
      exact attended.scanStep allocated
  | monitorOn => exact guarded stepped fun _ => untouched ⟨rfl, rfl⟩ rfl rfl id rfl
  | monitorOff =>
      exact guarded stepped fun _ => attended.aside (fun h => ⟨h.1, h.2, h.3, h.4⟩)
        (fun h => ⟨h.1, h.2, h.3, h.4⟩) attended.mesh id rfl rfl id id
  | monitor => exact attended.monitorStep safe stepped
  | devOpen dev => exact guarded stepped fun ready => attended.devOpen fun mesh => (ready mesh).1
  | devStop dev =>
      cases dev with
      | eth =>
          cases stepped
          refine ⟨attended.mesh, fun eth => (by cases eth.opened), fun mesh => ?_⟩
          exact (attended.meshDue ⟨mesh.1, mesh.2, mesh.3, mesh.4⟩).mono id id id id
      | mesh =>
          cases stepped
          refine ⟨nofun, fun eth => ?_, fun mesh => by cases mesh.opened⟩
          exact (attended.ethDue ⟨eth.1, eth.2, eth.3, eth.4⟩).mono id id id id
  | addMesh =>
      simp only [TxSys.step] at stepped
      split at stepped <;> cases stepped
      refine ⟨fun opened => ⟨rfl, (attended.mesh opened).2⟩, fun eth => ?_,
        fun mesh => by cases mesh.stopped⟩
      exact (attended.ethDue ⟨eth.1, eth.2, eth.3, eth.4⟩).mono id id id id
  | removeMesh =>
      cases stepped
      exact attended.removeMeshStep
  | suspend =>
      simp only [TxSys.step] at stepped
      split at stepped <;> cases stepped
      exact ⟨attended.mesh, fun eth => (by cases eth.awake), fun mesh => (by cases mesh.awake)⟩
  | resume =>
      refine guarded stepped fun _ => ⟨attended.mesh, fun eth => ?_, fun mesh => ?_⟩
      · exact absurd eth.opened (ne_true_of_eq_false (Bool.or_eq_false_iff.mp eth.stopped).1)
      · exact absurd mesh.opened (ne_true_of_eq_false (Bool.or_eq_false_iff.mp mesh.stopped).1)
  | remove =>
      cases stepped
      exact attended.aside (fun h => ⟨h.1, h.2, h.3, h.4⟩)
        (fun h => ⟨h.1, h.2, h.3, h.4⟩) attended.mesh id rfl rfl id id

end Attended

end Steps

end TxSys

theorem TxSys.attended_of_reachable {s : TxSys}
    (reached : txPath.ReachableUnder TxSys.QueuesSafe s) : s.Attended := by
  apply reached.invariant TxSys.Attended
  · rintro _ rfl
    exact ⟨nofun, fun eth => (by cases eth.opened), fun mesh => (by cases mesh.opened)⟩
  · intro s action t _ attended safe stepped
    exact attended.step safe stepped

/-- As long as no stopped queue loses its packet, the queues run when nothing is sent and no scan is
in progress, unless the handler that is about to wake them, or to end the link, is half done. -/
theorem quiet_queues_run {s : TxSys} (reached : txPath.ReachableUnder TxSys.QueuesSafe s)
    (quiet : s.Quiet) :
    (s.feedback = .idle → s.meshRemoving = false → s.priv.meshOpen = true →
      s.priv.meshConnectStatus = .connected → s.priv.meshQueue = true) ∧
      (s.feedback ≠ .freed → ¬ s.main.HandlesLink → s.priv.infraOpen = true →
        s.priv.connectStatus = .connected → s.priv.devQueue = true) := by
  have attended := TxSys.attended_of_reachable reached
  have free : ¬ s.priv.Busy := by
    rintro (pending | kept)
    · exact pending quiet.empty
    · exact absurd kept (ne_true_of_eq_false quiet.free)
  constructor
  · intro feedback present opened connected
    by_contra stopped
    rw [Bool.not_eq_true] at stopped
    cases attended.meshDue ⟨opened, connected, quiet.awake, stopped⟩ with
    | packet busy => exact free busy
    | scan scanning => simp [quiet.scan] at scanning
    | feedback freed => simp [feedback] at freed
    | removal removing => exact absurd removing (ne_true_of_eq_false present)
  · intro feedback handles opened connected
    by_contra stopped
    rw [Bool.not_eq_true] at stopped
    cases attended.ethDue ⟨opened, connected, quiet.awake, stopped⟩ with
    | packet busy => exact free busy
    | scan scanning => simp [quiet.scan] at scanning
    | feedback freed => exact feedback freed
    | handler handling => exact handles handling

/-- After a packet was sent the queues run again. -/
theorem quiet_queues_run_packet : ∃ s, txPath.ReachableUnder TxSys.QueuesSafe s ∧ s.Quiet ∧
    s.accepted = [meshPacket] ∧ s.priv.meshQueue = true ∧ s.priv.devQueue = true := by
  obtain ⟨s, executed, quiet, accepted, main, others⟩ := Machine.exists_of_map
    (fun s : TxSys => s.Quiet ∧ s.accepted = [meshPacket] ∧ s.main = .idle ∧
      s.feedback = .idle ∧ s.meshRemoving = false ∧ s.priv.meshOpen = true ∧
      s.priv.meshConnectStatus = .connected ∧ s.priv.infraOpen = true ∧
      s.priv.connectStatus = .connected)
    (show (txPath.runUnder TxSys.QueuesSafe .init txPacketRun).map _ = some true by
      decide +kernel)
  obtain ⟨feedback, present, meshOpen, meshConnected, infraOpen, connected⟩ := others
  have reached : txPath.ReachableUnder TxSys.QueuesSafe s := .run (.initial rfl) executed
  obtain ⟨mesh, eth⟩ := quiet_queues_run reached quiet
  refine ⟨s, reached, quiet, accepted, mesh feedback present meshOpen meshConnected, ?_⟩
  refine eth ?_ ?_ infraOpen connected
  · rw [feedback]
    nofun
  · rw [main]
    decide

/-- A packet for `dev` is lined up during a disconnect, which then empties the buffer. -/
def droppedPacketRun : List TxAction :=
  txOpenRun ++ [.disconnect, .hardStartXmit ethPacket] ++ List.replicate 58 (.fill .eth) ++
    List.replicate 4 .main

/-- The mesh device is opened while the monitor is switched on. A packet is sent, and the monitor is
switched off before its feedback has come. -/
def droppedFeedbackRun : List TxAction :=
  [.monitorOn, .devOpen .mesh, .monitor, .hardStartXmit meshPacket] ++
    List.replicate 58 (.fill .mesh) ++ [.send true, .monitorOff, .monitor, .monitor]

/-- A scan stops the queue of `dev`, and the reply to an association sets the link. -/
def scannedLinkRun : List TxAction :=
  [.devOpen .eth] ++ List.replicate 4 (.scan true) ++ [.link]

/-- A disconnect, or switching the monitor off, leaves the queue of the mesh stopped, and nobody
will wake it. In the reply to an association the link is there before the queue of `dev` is
woken. -/
theorem quiet_queues_stop :
    (∃ s, txPath.Reachable s ∧ s.Quiet ∧ s.MeshStopped ∧ s.main = .idle ∧ s.feedback = .idle ∧
      s.meshRemoving = false) ∧
      (∃ s, txPath.Reachable s ∧ s.Quiet ∧ s.MeshStopped ∧ s.monitor = .idle ∧
        s.feedback = .idle ∧ s.meshRemoving = false) ∧
      ∃ s, txPath.Reachable s ∧ s.Quiet ∧ s.EthStopped ∧ s.main = .linked := by
  refine ⟨?_, ?_, ?_⟩
  · obtain ⟨s, executed, stopped⟩ := Machine.exists_of_map
      (fun s : TxSys => s.Quiet ∧ s.MeshStopped ∧ s.main = .idle ∧ s.feedback = .idle ∧
        s.meshRemoving = false)
      (show (txPath.run .init droppedPacketRun).map _ = some true by decide +kernel)
    exact ⟨s, Machine.reachable_of_run rfl executed, stopped⟩
  · obtain ⟨s, executed, stopped⟩ := Machine.exists_of_map
      (fun s : TxSys => s.Quiet ∧ s.MeshStopped ∧ s.monitor = .idle ∧ s.feedback = .idle ∧
        s.meshRemoving = false)
      (show (txPath.run .init droppedFeedbackRun).map _ = some true by decide +kernel)
    exact ⟨s, Machine.reachable_of_run rfl executed, stopped⟩
  · obtain ⟨s, executed, stopped⟩ := Machine.exists_of_map
      (fun s : TxSys => s.Quiet ∧ s.EthStopped ∧ s.main = .linked)
      (show (txPath.run .init scannedLinkRun).map _ = some true by decide +kernel)
    exact ⟨s, Machine.reachable_of_run rfl executed, stopped⟩

end Libertas
