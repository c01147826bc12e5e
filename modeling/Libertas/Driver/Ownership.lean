import Libertas.Transition.Ownership
import Libertas.Driver.Linking
import Libertas.Driver.Views

/-!
# Who owns a command node
-/

namespace Libertas

/-- Where a command node can be. -/
inductive Place
  /-- In `cmdfreeq`. -/
  | free
  /-- In `cmdpendingq`. -/
  | pending
  /-- In `cur_cmd`. -/
  | current
  /-- Unlinked by the main thread, on its way to another place. -/
  | transit
  /-- Taken by a call and not yet submitted. -/
  | client (c : CallId)
deriving DecidableEq, Repr

/-- A `__lbs_cmd` call waits for the node, or is about to free it. -/
def Client.awaits (client : Client) (n : NodeId) : Prop :=
  client.req.isCmd = true ∧ client.phase.awaiting = some n

/-- The node is at the place. -/
def holds (nodes : NodeState) (pc : MainPc) (client : CallId → Client) :
    Place → NodeId → Prop
  | .free, n => n ∈ nodes.cmdfreeq
  | .pending, n => n ∈ nodes.cmdpendingq
  | .current, n => nodes.curCmd = some n
  | .transit, n => pc.transit = some n
  | .client c, n => (client c).phase.preparing = some n

/-- The node is in neither queue of the main thread, apart from the one completion that the main
thread makes without the lock. -/
structure Detached (nodes : NodeState) (pc : MainPc) (n : NodeId) : Prop where
  pending : n ∉ nodes.cmdpendingq
  transit : pc.transit ≠ some n
  current : nodes.curCmd = some n → pc.givingUp = some n

/-- What a call may assume about its node. A call that frees its node itself keeps it from the
moment it takes the node until it frees it; any other call loses it when it is queued. -/
def Client.Fits (client : Client) (c : CallId) (nodes : NodeState) (pc : MainPc) : Prop :=
  match client.phase with
  | .fill n | .abort n => (nodes.cmdArray n).owner = c
  | .stamp n | .unqueued n =>
      (nodes.cmdArray n).owner = c ∧
        (client.req.isCmd = true → (nodes.cmdArray n).isAsync = false)
  | .queue n | .insert n _ =>
      (nodes.cmdArray n).owner = c ∧ (nodes.cmdArray n).cmdwaitqwoken = false ∧
        (client.req.isCmd = true → (nodes.cmdArray n).isAsync = false)
  | .wait n =>
      client.req.isCmd = true →
        (nodes.cmdArray n).owner = c ∧ (nodes.cmdArray n).isAsync = false ∧
        n ∉ nodes.cmdfreeq ∧ ((nodes.cmdArray n).cmdwaitqwoken = true → Detached nodes pc n)
  | .finish n =>
      client.req.isCmd = true →
        (nodes.cmdArray n).owner = c ∧ (nodes.cmdArray n).isAsync = false ∧
        n ∉ nodes.cmdfreeq ∧ Detached nodes pc n
  | .idle | .start | .alloc | .returned _ => True

/-- The invariant behind exclusive ownership. -/
structure Ownership (nodes : NodeState) (pc : MainPc) (client : CallId → Client) : Prop where
  free_nodup : nodes.cmdfreeq.Nodup
  pending_nodup : nodes.cmdpendingq.Nodup
  exclusive : Exclusive (holds nodes pc client)
  looking : ∀ n, pc.looking = some n → n ∈ nodes.cmdpendingq
  givingUp : ∀ n, pc.givingUp = some n → nodes.curCmd = some n
  fits : ∀ c, (client c).Fits c nodes pc

/-- The node of a call, if it has one. -/
def Phase.node : Phase → Option NodeId
  | .fill n | .stamp n | .abort n | .queue n | .insert n _ | .unqueued n | .wait n
  | .finish n => some n
  | .idle | .start | .alloc | .returned _ => none

theorem Phase.node_of_preparing {phase : Phase} {n : NodeId}
    (preparing : phase.preparing = some n) :
    phase.node = some n := by
  cases phase <;> simp_all [Phase.node, Phase.preparing]

theorem Phase.node_cases {phase : Phase} {n : NodeId} (node : phase.node = some n) :
    phase.preparing = some n ∨ phase.awaiting = some n := by
  cases phase <;> simp_all [Phase.node, Phase.preparing, Phase.awaiting]

namespace Client.Fits

variable {cl : Client} {c : CallId} {nodes nodes' : NodeState} {pc pc' : MainPc} {n : NodeId}

/-- A step that concerns some nodes matters only to the calls that have one of them. -/
theorem updateAll (fits : cl.Fits c nodes pc) (touched : NodeId → Prop)
    (others : ∀ m, ¬ touched m → nodes'.cmdArray m = nodes.cmdArray m)
    (free : ∀ m, ¬ touched m → m ∈ nodes'.cmdfreeq → m ∈ nodes.cmdfreeq)
    (detached : ∀ m, ¬ touched m → Detached nodes pc m → Detached nodes' pc' m)
    (here : ∀ n, cl.phase.node = some n → touched n → cl.Fits c nodes' pc') :
    cl.Fits c nodes' pc' := by
  by_cases hit : ∃ n, cl.phase.node = some n ∧ touched n
  · obtain ⟨n, node, touched⟩ := hit
    exact here n node touched
  · clear here
    rw [Client.Fits] at fits ⊢
    cases phase : cl.phase <;>
      simp only [phase, Phase.node, Option.some.injEq, exists_eq_left'] at fits hit ⊢
    all_goals grind

/-- A step that concerns a single node matters only to the calls that have this node. -/
theorem update (fits : cl.Fits c nodes pc) (n : NodeId)
    (others : ∀ m, m ≠ n → nodes'.cmdArray m = nodes.cmdArray m)
    (free : ∀ m, m ≠ n → m ∈ nodes'.cmdfreeq → m ∈ nodes.cmdfreeq)
    (detached : ∀ m, m ≠ n → Detached nodes pc m → Detached nodes' pc' m)
    (here : cl.phase.node = some n → cl.Fits c nodes' pc') : cl.Fits c nodes' pc' :=
  fits.updateAll (· = n) others free detached fun _ node same => here (same ▸ node)

/-- The part of `Fits` about a call that awaits its node. -/
theorem awaiting_iff (awaiting : cl.phase.awaiting = some n) :
    cl.Fits c nodes pc ↔ (cl.req.isCmd = true →
      (nodes.cmdArray n).owner = c ∧ (nodes.cmdArray n).isAsync = false ∧ n ∉ nodes.cmdfreeq ∧
        (cl.phase = .finish n ∨ (nodes.cmdArray n).cmdwaitqwoken = true →
          Detached nodes pc n)) := by
  rw [Client.Fits]
  cases phase : cl.phase <;> simp_all [Phase.awaiting]

end Client.Fits

/-- The nodes, under a view of `cur_cmd`. -/
def NodeState.holding (nodes : NodeState) (cur : Option NodeId) : NodeState :=
  { nodes with curCmd := cur }

section Holding

variable (nodes : NodeState) (cur : Option NodeId)

@[simp] theorem NodeState.holding_cmdArray : (nodes.holding cur).cmdArray = nodes.cmdArray := rfl
@[simp] theorem NodeState.holding_cmdfreeq : (nodes.holding cur).cmdfreeq = nodes.cmdfreeq := rfl
@[simp] theorem NodeState.holding_cmdpendingq :
    (nodes.holding cur).cmdpendingq = nodes.cmdpendingq := rfl
@[simp] theorem NodeState.holding_curCmd : (nodes.holding cur).curCmd = cur := rfl

end Holding

/-- Only one node differs, in content or in the queues that hold it. -/
structure NodeUpdate (n : NodeId) (nodes nodes' : NodeState) : Prop where
  others : ∀ m, m ≠ n → nodes'.cmdArray m = nodes.cmdArray m
  free : ∀ m, m ≠ n → (m ∈ nodes'.cmdfreeq ↔ m ∈ nodes.cmdfreeq)
  pending : ∀ m, m ≠ n → (m ∈ nodes'.cmdpendingq ↔ m ∈ nodes.cmdpendingq)
  current : nodes'.curCmd = nodes.curCmd

namespace NodeUpdate

variable {cs : CommandState} {n : NodeId}

/-- The content of one node changes. -/
theorem modify (f : CmdCtrlNode → CmdCtrlNode) :
    NodeUpdate n cs.toNodeState (cs.modifyNode n f).toNodeState where
  others _ other := CommandState.modifyNode_of_ne other
  free _ _ := .rfl
  pending _ _ := .rfl
  current := rfl

/-- A node is cleared and freed. -/
theorem cleanup : NodeUpdate n cs.toNodeState (cs.lbsCleanupAndInsertCmd n).toNodeState where
  others _ other := CommandState.lbsCleanupAndInsertCmd_of_ne other
  free _ other := by simp [other]
  pending _ _ := .rfl
  current := rfl

/-- A node is queued. -/
theorem insert (tail : Bool) :
    NodeUpdate n cs.toNodeState (cs.insertPending n tail).toNodeState where
  others _ _ := rfl
  free _ _ := .rfl
  pending _ other := by simp [other]
  current := rfl

/-- The first free node is taken. -/
theorem take {rest : List NodeId} (free : cs.cmdfreeq = n :: rest)
    (f : CmdCtrlNode → CmdCtrlNode) :
    NodeUpdate n cs.toNodeState ({ cs with cmdfreeq := rest }.modifyNode n f).toNodeState where
  others _ other := CommandState.modifyNode_of_ne other
  free _ other := by simp [free, other]
  pending _ _ := .rfl
  current := rfl

theorem holding {nodes nodes' : NodeState} (update : NodeUpdate n nodes nodes')
    (cur : Option NodeId) : NodeUpdate n (nodes.holding cur) (nodes'.holding cur) :=
  ⟨update.others, update.free, update.pending, rfl⟩

end NodeUpdate

namespace Ownership

variable {cs : CommandState} {pc pc' : MainPc} {client : CallId → Client} {n : NodeId}

/-- A node that the main thread holds is in no queue and in no call's hands. -/
theorem held_elsewhere {nodes : NodeState} (owned : Ownership nodes pc client)
    (held : nodes.curCmd = some n ∨ pc.transit = some n) :
    n ∉ nodes.cmdfreeq ∧ n ∉ nodes.cmdpendingq ∧
      ∀ c, (client c).phase.preparing ≠ some n := by
  have apart : ∀ p, p ≠ .current → p ≠ .transit → ¬ holds nodes pc client p n := by
    intro p notCurrent notTransit there
    rcases held with held | held
    · exact notCurrent (owned.exclusive.eq there (q := .current) held)
    · exact notTransit (owned.exclusive.eq there (q := .transit) held)
  exact ⟨apart .free (by simp) (by simp), apart .pending (by simp) (by simp),
    fun c => apart (.client c) (by simp) (by simp)⟩

/-- A node that a call prepares is nowhere else. -/
theorem prepared_elsewhere {nodes : NodeState} {c : CallId} (owned : Ownership nodes pc client)
    (prepared : (client c).phase.preparing = some n) :
    n ∉ nodes.cmdfreeq ∧ n ∉ nodes.cmdpendingq ∧ nodes.curCmd ≠ some n ∧
      pc.transit ≠ some n := by
  have apart : ∀ p, p ≠ .client c → ¬ holds nodes pc client p n :=
    fun p other there => other (owned.exclusive.eq there (q := .client c) prepared)
  exact ⟨apart .free (by simp), apart .pending (by simp), apart .current (by simp),
    apart .transit (by simp)⟩

/-- A free node is nowhere else. -/
theorem free_elsewhere {nodes : NodeState} (owned : Ownership nodes pc client)
    (free : n ∈ nodes.cmdfreeq) :
    n ∉ nodes.cmdpendingq ∧ nodes.curCmd ≠ some n ∧ pc.transit ≠ some n := by
  have apart : ∀ p, p ≠ .free → ¬ holds nodes pc client p n :=
    fun p other there => other (owned.exclusive.eq there (q := .free) free)
  exact ⟨apart .pending (by simp), apart .current (by simp), apart .transit (by simp)⟩

/-- The main thread frees the node it holds, which no caller frees. -/
theorem release {nodes nodes' : NodeState} (owned : Ownership nodes pc client)
    (held : nodes.curCmd = some n ∨ pc.transit = some n)
    (async : (nodes.cmdArray n).isAsync = true)
    (others : ∀ m, m ≠ n → nodes'.cmdArray m = nodes.cmdArray m)
    (free : nodes'.cmdfreeq = nodes.cmdfreeq ++ [n])
    (pending : nodes'.cmdpendingq = nodes.cmdpendingq) (current : nodes'.curCmd = none)
    (plain : pc'.Plain) : Ownership nodes' pc' client := by
  obtain ⟨notFree, notPending, notPrepared⟩ := owned.held_elsewhere held
  refine
    { free_nodup := ?_
      pending_nodup := pending ▸ owned.pending_nodup
      exclusive := ?_
      looking := by simp [plain.looking]
      givingUp := by simp [plain.givingUp]
      fits := ?_ }
  · rw [free]
    simpa [List.nodup_append] using
      ⟨owned.free_nodup, fun a member same => notFree (same ▸ member)⟩
  · refine owned.exclusive.move n .free fun p r after => ?_
    have apart : r = n → p = .free := by
      rintro rfl
      cases p <;> simp_all [holds, plain.transit]
    cases p <;> simp_all [holds, plain.transit]; tauto
  · intro c
    refine (owned.fits c).update n others (fun m other => by simp [free, other])
      (fun m other was => ⟨by rw [pending]; exact was.pending, by simp [plain.transit],
        by simp [current]⟩) fun node => ?_
    rcases Phase.node_cases node with prepared | awaiting
    · exact absurd prepared (notPrepared c)
    · have before := (Client.Fits.awaiting_iff awaiting).mp (owned.fits c)
      refine (Client.Fits.awaiting_iff awaiting).mpr fun isCmd => ?_
      have sync := (before isCmd).2.1
      exact absurd async (by simp [sync])

theorem complete {result : Int} (owned : Ownership cs.toNodeState pc client)
    (held : cs.curCmd = some n ∨ pc.transit = some n)
    (plain : pc'.Plain) : Ownership (cs.lbsCompleteCommand n result).toNodeState pc' client := by
  obtain ⟨notFree, notPending, notPrepared⟩ := owned.held_elsewhere held
  cases async : (cs.cmdArray n).isAsync with
  | false =>
    rw [CommandState.lbsCompleteCommand_of_sync async]
    refine
      { free_nodup := owned.free_nodup
        pending_nodup := owned.pending_nodup
        exclusive := ?_
        looking := by simp [plain.looking]
        givingUp := by simp [plain.givingUp]
        fits := ?_ }
    · refine owned.exclusive.shrink fun p r after => ?_
      cases p <;> simp_all [holds, plain.transit, CommandState.recordResult]
    · intro c
      refine (owned.fits c).update n (fun m other => ?_) (fun m other => by simp)
        (fun m other was => ⟨by simpa using was.pending, by simp [plain.transit], by simp⟩)
        fun node => ?_
      · simp [CommandState.recordResult_of_ne other]
      · rcases Phase.node_cases node with prepared | awaiting
        · exact absurd prepared (notPrepared c)
        · have before := (Client.Fits.awaiting_iff awaiting).mp (owned.fits c)
          refine (Client.Fits.awaiting_iff awaiting).mpr fun isCmd => ?_
          obtain ⟨owner, _, _, _⟩ := before isCmd
          exact ⟨by simpa [CommandState.recordResult_self] using owner, by simp [async],
            notFree, fun _ => ⟨notPending, by simp [plain.transit], by simp⟩⟩
  | true =>
    refine owned.release held async (fun m other => CommandState.lbsCompleteCommand_of_ne other)
      ?_ (by simp) (by simp) plain
    rw [CommandState.lbsCompleteCommand_of_async async]
    rfl

/-- A step of the main thread that leaves the nodes alone. -/
theorem advance {nodes : NodeState} (owned : Ownership nodes pc client) (kept : pc.givingUp = none)
    (transit : pc'.transit = none) (givingUp : pc'.givingUp = none)
    (looking : ∀ n, pc'.looking = some n → n ∈ nodes.cmdpendingq) :
    Ownership nodes pc' client where
  free_nodup := owned.free_nodup
  pending_nodup := owned.pending_nodup
  exclusive := owned.exclusive.shrink fun p r after => by
    cases p <;> simp_all [holds]
  looking := looking
  givingUp := by simp [givingUp]
  fits c := by
    have detached : ∀ m, Detached nodes pc m → Detached nodes pc' m := fun m was =>
      ⟨was.pending, by simp [transit], fun current => by simpa [kept] using was.current current⟩
    have fits := owned.fits c
    rw [Client.Fits] at fits ⊢
    cases phase : (client c).phase <;> simp only [phase] at fits ⊢
    all_goals grind

/-- A step of the main thread between control points without a node. -/
theorem plain {nodes : NodeState} (owned : Ownership nodes pc client) (kept : pc.givingUp = none)
    (plain : pc'.Plain) : Ownership nodes pc' client :=
  owned.advance kept plain.transit plain.givingUp (by simp [plain.looking])

/-- The step of a call with its node: content and whereabouts of no other node change, and no
other call has a claim on the node. -/
theorem touch {nodes nodes' : NodeState} {client' : CallId → Client} (c : CallId) (target : Place)
    (owned : Ownership nodes pc client) (update : NodeUpdate n nodes nodes')
    (clients : ∀ d, d ≠ c → client' d = client d)
    (vacant : ∀ d, d ≠ c → (client d).phase.node = some n →
      (client d).phase.preparing = none ∧ (client d).req.isCmd = false)
    (free_nodup : nodes'.cmdfreeq.Nodup) (pending_nodup : nodes'.cmdpendingq.Nodup)
    (kept : n ∈ nodes.cmdpendingq → n ∈ nodes'.cmdpendingq)
    (unheld : nodes.curCmd ≠ some n ∧ pc.transit ≠ some n)
    (atFree : n ∈ nodes'.cmdfreeq → target = .free)
    (atPending : n ∈ nodes'.cmdpendingq → target = .pending)
    (atClient : ∀ m, (client' c).phase.preparing = some m → m = n ∧ target = .client c)
    (fits : (client' c).Fits c nodes' pc) : Ownership nodes' pc client' where
  free_nodup := free_nodup
  pending_nodup := pending_nodup
  exclusive := by
    refine owned.exclusive.move n target fun p r after => ?_
    by_cases same : r = n
    · refine .inl ⟨same, ?_⟩
      rw [same] at after
      cases p with
      | free => exact (atFree after).symm
      | pending => exact (atPending after).symm
      | current => exact absurd (update.current.symm.trans after) unheld.1
      | transit => exact absurd after unheld.2
      | client d =>
          by_cases other : d = c
          · rw [other] at after ⊢
            exact (atClient n after).2.symm
          · have preparing : (client d).phase.preparing = some n := by
              simpa [holds, clients d other] using after
            simp [(vacant d other (Phase.node_of_preparing preparing)).1] at preparing
    · refine .inr ⟨same, ?_⟩
      cases p with
      | free => exact (update.free r same).mp after
      | pending => exact (update.pending r same).mp after
      | current => exact update.current.symm.trans after
      | transit => exact after
      | client d =>
          by_cases other : d = c
          · exact absurd (atClient r (other ▸ after)).1 same
          · simpa [holds, clients d other] using after
  looking m looking := by
    by_cases same : m = n
    · exact same ▸ kept (same ▸ owned.looking m looking)
    · exact (update.pending m same).mpr (owned.looking m looking)
  givingUp m givingUp := by
    rw [update.current]
    exact owned.givingUp m givingUp
  fits d := by
    by_cases other : d = c
    · exact other ▸ fits
    · rw [clients d other]
      refine (owned.fits d).update n update.others (fun m same => (update.free m same).mp)
        (fun m same was => ⟨fun member => was.pending ((update.pending m same).mp member),
          was.transit, update.current ▸ was.current⟩) fun node => ?_
      obtain ⟨notPreparing, notCmd⟩ := vacant d other node
      rcases Phase.node_cases node with preparing | awaiting
      · simp [notPreparing] at preparing
      · exact (Client.Fits.awaiting_iff awaiting).mpr (by simp [notCmd])

/-- Another call has no claim on a node that a call has taken. -/
theorem vacant_of_owner {nodes : NodeState} {c : CallId} (owned : Ownership nodes pc client)
    (mine : (nodes.cmdArray n).owner = c) (d : CallId) (other : d ≠ c)
    (node : (client d).phase.node = some n) :
    (client d).phase.preparing = none ∧ (client d).req.isCmd = false := by
  have fits := owned.fits d
  rw [Client.Fits] at fits
  cases phase : (client d).phase <;>
    simp only [phase, Phase.node, Phase.preparing, Option.some.injEq] at fits node ⊢
  all_goals grind

/-- No call has a claim on a free node. -/
theorem vacant_of_free {nodes : NodeState} (owned : Ownership nodes pc client)
    (free : n ∈ nodes.cmdfreeq) (d : CallId) (node : (client d).phase.node = some n) :
    (client d).phase.preparing = none ∧ (client d).req.isCmd = false := by
  have apart : (client d).phase.preparing ≠ some n := fun preparing => by
    cases owned.exclusive.eq (p := .free) (q := .client d) free preparing
  rcases Phase.node_cases node with preparing | awaiting
  · exact absurd preparing apart
  · have fits := (Client.Fits.awaiting_iff awaiting).mp (owned.fits d)
    refine ⟨by cases phase : (client d).phase <;> simp_all [Phase.awaiting, Phase.preparing], ?_⟩
    by_contra isCmd
    exact (fits (by simpa using isCmd)).2.2.1 free

/-- A step of a call that changes no node. -/
theorem withClient {nodes : NodeState} {client' : CallId → Client} {c : CallId}
    (owned : Ownership nodes pc client) (clients : ∀ d, d ≠ c → client' d = client d)
    (shrinks : ∀ m, (client' c).phase.preparing = some m →
      (client c).phase.preparing = some m)
    (fits : (client' c).Fits c nodes pc) : Ownership nodes pc client' where
  free_nodup := owned.free_nodup
  pending_nodup := owned.pending_nodup
  exclusive := by
    refine owned.exclusive.shrink fun p r after => ?_
    cases p with
    | client d =>
        by_cases other : d = c
        · exact other ▸ shrinks r (other ▸ after)
        · simpa [holds, clients d other] using after
    | _ => exact after
  looking := owned.looking
  givingUp := owned.givingUp
  fits d := by
    by_cases other : d = c
    · exact other ▸ fits
    · exact clients d other ▸ owned.fits d

/-- Only the control point changes, and no view of it. -/
theorem relabel {nodes : NodeState} (owned : Ownership nodes pc client)
    (transit : pc'.transit = pc.transit) (givingUp : pc'.givingUp = pc.givingUp)
    (looking : pc'.looking = pc.looking) : Ownership nodes pc' client where
  free_nodup := owned.free_nodup
  pending_nodup := owned.pending_nodup
  exclusive := owned.exclusive.shrink fun p r after => by
    cases p <;> simp_all [holds]
  looking := looking ▸ owned.looking
  givingUp := givingUp ▸ owned.givingUp
  fits c := by
    have detached : ∀ m, Detached nodes pc m → Detached nodes pc' m := fun m was =>
      ⟨was.pending, transit ▸ was.transit, givingUp ▸ was.current⟩
    have fits := owned.fits c
    rw [Client.Fits] at fits ⊢
    cases phase : (client c).phase <;> simp only [phase] at fits ⊢
    all_goals grind

/-- The main thread moves the node it deals with to the next place. -/
theorem relocate {nodes nodes' : NodeState} (source target : Place)
    (owned : Ownership nodes pc client) (was : holds nodes pc client source n)
    (mainPlace : source = .pending ∨ source = .current ∨ source = .transit)
    (array : nodes'.cmdArray = nodes.cmdArray) (free : nodes'.cmdfreeq = nodes.cmdfreeq)
    (nodup : nodes'.cmdpendingq.Nodup)
    (pending : ∀ m, m ≠ n → (m ∈ nodes'.cmdpendingq ↔ m ∈ nodes.cmdpendingq))
    (current : ∀ m, m ≠ n → nodes'.curCmd = some m → nodes.curCmd = some m)
    (transit : ∀ m, pc'.transit = some m → m = n)
    (kept : pc.givingUp = none) (kept' : pc'.givingUp = none) (looking : pc'.looking = none)
    (atPending : n ∈ nodes'.cmdpendingq → target = .pending)
    (atCurrent : nodes'.curCmd = some n → target = .current)
    (atTransit : pc'.transit = some n → target = .transit) :
    Ownership nodes' pc' client where
  free_nodup := free ▸ owned.free_nodup
  pending_nodup := nodup
  exclusive := by
    refine owned.exclusive.move n target fun p r after => ?_
    have apart : p ≠ .pending → p ≠ .current → p ≠ .transit → holds nodes pc client p r →
        r ≠ n := by
      rintro notPending notCurrent notTransit there rfl
      have same := owned.exclusive.eq there was
      rcases mainPlace with rfl | rfl | rfl <;> contradiction
    cases p with
    | free =>
        have before : holds nodes pc client .free r := by simpa [holds, free] using after
        exact .inr ⟨apart (by simp) (by simp) (by simp) before, before⟩
    | client d => exact .inr ⟨apart (by simp) (by simp) (by simp) after, after⟩
    | pending =>
        by_cases same : r = n
        · exact .inl ⟨same, (atPending (same ▸ after)).symm⟩
        · exact .inr ⟨same, (pending r same).mp after⟩
    | current =>
        by_cases same : r = n
        · exact .inl ⟨same, (atCurrent (same ▸ after)).symm⟩
        · exact .inr ⟨same, current r same after⟩
    | transit =>
        have same := transit r after
        exact .inl ⟨same, (atTransit (same ▸ after)).symm⟩
  looking := by simp [looking]
  givingUp := by simp [kept']
  fits c := by
    have attached : ¬ Detached nodes pc n := by
      intro detached
      rcases mainPlace with rfl | rfl | rfl
      · exact detached.pending was
      · simpa [kept] using detached.current was
      · exact detached.transit was
    refine (owned.fits c).update n (fun m _ => by rw [array]) (fun m _ => by simp [free])
      (fun m other was => ⟨fun member => was.pending ((pending m other).mp member),
        fun inTransit => other (transit m inTransit), fun isCurrent => ?_⟩) fun node => ?_
    · simpa [kept] using was.current (current m other isCurrent)
    · rcases Phase.node_cases node with prepared | awaiting
      · have same := owned.exclusive.eq (p := .client c) prepared was
        rcases mainPlace with rfl | rfl | rfl <;> cases same
      · have before := (Client.Fits.awaiting_iff awaiting).mp (owned.fits c)
        refine (Client.Fits.awaiting_iff awaiting).mpr fun isCmd => ?_
        obtain ⟨owner, sync, notFree, detached⟩ := before isCmd
        exact ⟨by rw [array]; exact owner, by rw [array]; exact sync, by rw [free]; exact notFree,
          fun done => absurd (detached (by simpa [array] using done)) attached⟩

/-- The main thread wakes the caller of a command whose retries are spent. -/
theorem giveUp {result : Int} (owned : Ownership cs.toNodeState pc client)
    (current : cs.curCmd = some n) :
    Ownership (cs.recordResult n result).toNodeState (.giveUpFree n) client where
  free_nodup := owned.free_nodup
  pending_nodup := owned.pending_nodup
  exclusive := owned.exclusive.shrink fun p r after => by
    cases p <;> simp_all [holds, MainPc.transit]
  looking m same := by cases same
  givingUp m same := by
    cases same
    exact current
  fits c := by
    obtain ⟨notFree, notPending, notPrepared⟩ := owned.held_elsewhere (.inl current)
    refine (owned.fits c).update n (fun m other => CommandState.recordResult_of_ne other)
      (fun m _ => id) (fun m other was => ⟨was.pending, by simp [MainPc.transit], fun same => ?_⟩)
      fun node => ?_
    · exact absurd (Option.some.inj (same.symm.trans current)) other
    · rcases Phase.node_cases node with prepared | awaiting
      · exact absurd prepared (notPrepared c)
      · have before := (Client.Fits.awaiting_iff awaiting).mp (owned.fits c)
        refine (Client.Fits.awaiting_iff awaiting).mpr fun isCmd => ?_
        obtain ⟨owner, sync, _⟩ := before isCmd
        exact ⟨by simpa [CommandState.recordResult_self] using owner, by simp [sync],
          notFree, fun _ => ⟨notPending, by simp [MainPc.transit], fun _ => rfl⟩⟩

/-- The main thread finishes giving up a command. -/
theorem drop {nodes : NodeState} (owned : Ownership nodes pc client) (plain : pc'.Plain) :
    Ownership (nodes.holding none) pc' client where
  free_nodup := owned.free_nodup
  pending_nodup := owned.pending_nodup
  exclusive := owned.exclusive.shrink fun p r after => by
    cases p <;> simp_all [holds, plain.transit]
  looking := by simp [plain.looking]
  givingUp := by simp [plain.givingUp]
  fits c := by
    have detached : ∀ m, Detached nodes pc m → Detached (nodes.holding none) pc' m :=
      fun m was => ⟨was.pending, by simp [plain.transit], by simp⟩
    have fits := owned.fits c
    rw [Client.Fits] at fits ⊢
    cases phase : (client c).phase <;>
      simp only [phase, NodeState.holding_cmdArray, NodeState.holding_cmdfreeq] at fits ⊢
    all_goals grind

end Ownership

namespace Sys

/-- The ownership invariant, under a view of `cur_cmd` and of the control point of the main
thread. -/
def OwnedAs (s : Sys) (cur : Option NodeId) (pc : MainPc) : Prop :=
  Ownership (s.priv.toNodeState.holding cur) pc s.client

/-- What a call may do without disturbing the owner of its node: it stops waiting only when its
command was completed, and it frees its node only when the main thread is not in the middle of
completing it without the lock. -/
def Patient (s : Sys) (pc : MainPc) (c : CallId) : Prop :=
  (s.client c).req.isCmd = true →
    (∀ n, (s.client c).phase = .wait n → (s.priv.cmdArray n).cmdwaitqwoken = true) ∧
    (∀ n, (s.client c).phase = .finish n → pc.givingUp ≠ some n)

/-- The invariant while the main thread is not giving up a command. -/
structure Settled (s : Sys) : Prop where
  owned : s.OwnedAs s.priv.curCmd s.main
  kept : s.main.givingUp = none

namespace OwnedAs

variable {s t : Sys} {c : CallId} {n : NodeId} {phase : Phase} {cur : Option NodeId} {pc : MainPc}

/-- A call goes on without touching a node. -/
theorem go {cs : CommandState} (owned : s.OwnedAs cur pc)
    (same : cs.toNodeState = s.priv.toNodeState)
    (shrinks : ∀ m, phase.preparing = some m → (s.client c).phase.preparing = some m)
    (fits : { s.client c with phase := phase }.Fits c (s.priv.toNodeState.holding cur) pc) :
    ((s.withCmd cs).setPhase c phase).OwnedAs cur pc := by
  change Ownership (cs.toNodeState.holding cur) _ _
  rw [same]
  exact Ownership.withClient owned (fun _ other => setPhase_client_of_ne other)
    (by simpa using shrinks) (by simpa using fits)

/-- A call that has a node in its hands changes its content. -/
theorem edit {f : CmdCtrlNode → CmdCtrlNode} {cs : CommandState}
    (owned : s.OwnedAs cur pc) (before : (s.client c).phase.preparing = some n)
    (edited : cs.toNodeState = (s.priv.modifyNode n f).toNodeState)
    (mine : (s.priv.cmdArray n).owner = c) (after : phase.preparing = some n)
    (fits : { s.client c with phase := phase }.Fits c
      ((s.priv.modifyNode n f).toNodeState.holding cur) pc) :
    ((s.withCmd cs).setPhase c phase).OwnedAs cur pc := by
  obtain ⟨notFree, notPending, unheld⟩ := owned.prepared_elsewhere before
  change Ownership (cs.toNodeState.holding cur) _ _
  rw [edited]
  exact Ownership.touch c (.client c) owned (NodeUpdate.holding (.modify f) cur)
    (fun d other => setPhase_client_of_ne other) (fun d => owned.vacant_of_owner mine d)
    owned.free_nodup owned.pending_nodup id unheld (fun member => absurd member notFree)
    (fun member => absurd member notPending) (by simp [after, eq_comm]) (by simpa using fits)

/-- A call clears a node that is nowhere else and frees it. -/
theorem free (owned : s.OwnedAs cur pc) (notFree : n ∉ s.priv.cmdfreeq)
    (notPending : n ∉ s.priv.cmdpendingq) (unheld : cur ≠ some n ∧ pc.transit ≠ some n)
    (mine : (s.priv.cmdArray n).owner = c) (ret : Int) :
    ((s.withCmd (s.priv.lbsCleanupAndInsertCmd n)).setPhase c (.returned ret)).OwnedAs cur pc := by
  have nodup : (s.priv.lbsCleanupAndInsertCmd n).cmdfreeq.Nodup := by
    simpa [List.nodup_append] using
      ⟨owned.free_nodup, fun m member same => notFree (same ▸ member)⟩
  exact Ownership.touch c .free owned (NodeUpdate.holding .cleanup cur)
    (fun d other => setPhase_client_of_ne other) (fun d => owned.vacant_of_owner mine d)
    nodup owned.pending_nodup id unheld (fun _ => rfl)
    (fun member => absurd member notPending) (by simp [Phase.preparing]) (by simp [Client.Fits])

theorem clientStep (owned : s.OwnedAs cur pc) (patient : s.Patient pc c)
    (stepped : s.clientStep c = some t) : t.OwnedAs cur pc := by
  have fits := owned.fits c
  unfold Client.Fits at fits
  cases phase : (s.client c).phase <;>
    simp only [Sys.clientStep, phase, reduceCtorEq] at stepped fits
  case start =>
    split at stepped <;> cases stepped
    all_goals exact owned.go rfl (by simp [Phase.preparing]) (by simp [Client.Fits])
  case alloc =>
    split at stepped <;> cases stepped
    · exact owned.go rfl (by simp [Phase.preparing]) (by simp [Client.Fits])
    · rename_i n cs got
      obtain ⟨rest, free, rfl⟩ := CommandState.lbsGetCmdCtrlNode_eq_some got
      have nodup : s.priv.cmdfreeq.Nodup := owned.free_nodup
      have member : n ∈ s.priv.cmdfreeq := by simp [free]
      obtain ⟨notPending, unheld⟩ := owned.free_elsewhere member
      rw [free, List.nodup_cons] at nodup
      exact Ownership.touch c (.client c) owned (NodeUpdate.holding (.take free _) cur)
        (fun d other => setPhase_client_of_ne other)
        (fun d _ => owned.vacant_of_free member d) nodup.2 owned.pending_nodup id unheld
        (fun member => absurd member nodup.1) (fun member => absurd member notPending)
        (by simp [Phase.preparing, eq_comm]) (by simp [Client.Fits])
  case fill n =>
    cases stepped
    refine owned.edit (by rw [phase]; rfl) CommandState.initNode_nodes fits rfl ?_
    refine ⟨by simpa using fits, fun isCmd => ?_⟩
    obtain ⟨cb, callback⟩ := Request.callback_of_isCmd isCmd
    simp [CmdCtrlNode.isAsync, callback]
  case stamp n =>
    split at stepped <;> cases stepped
    · exact owned.go rfl (by simp [Phase.preparing, phase]) (by simpa [Client.Fits] using fits.1)
    · exact owned.go rfl (by simp [Phase.preparing]) (by simp [Client.Fits])
    · refine owned.edit (by rw [phase]; rfl) CommandState.stampNode_nodes fits.1 rfl ?_
      simp only [Client.Fits, NodeState.holding_cmdArray, CommandState.modifyNode_self]
      exact ⟨fits.1, trivial, fits.2⟩
  case abort n =>
    cases stepped
    obtain ⟨notFree, notPending, unheld⟩ := owned.prepared_elsewhere (n := n) (by rw [phase]; rfl)
    exact owned.free notFree notPending unheld fits _
  case queue n =>
    split at stepped <;> cases stepped
    · exact owned.go rfl (by simp [Phase.preparing, phase])
        (by simpa [Client.Fits] using ⟨fits.1, fits.2.2⟩)
    · refine owned.edit (by rw [phase]; rfl) CommandState.clearResult_nodes fits.1 rfl ?_
      simp only [Client.Fits, NodeState.holding_cmdArray, CommandState.modifyNode_self]
      exact fits
  case insert n tail =>
    cases stepped
    obtain ⟨notFree, notPending, unheld⟩ := owned.prepared_elsewhere (n := n) (by rw [phase]; rfl)
    obtain ⟨mine, unwoken, sync⟩ := fits
    refine Ownership.touch c .pending owned (NodeUpdate.holding (.insert tail) cur)
      (fun d other => setPhase_client_of_ne other) (fun d => owned.vacant_of_owner mine d)
      owned.free_nodup (CommandState.insertPending_nodup notPending owned.pending_nodup)
      (fun _ => by simp) unheld (fun member => absurd member notFree) (fun _ => rfl) ?_ ?_
    · simp only [setPhase_client_self]
      split
      · simp [Phase.preparing]
      · split <;> simp [Phase.preparing]
    · simp only [setPhase_client_self]
      split
      · intro isCmd
        exact ⟨mine, sync isCmd, notFree, fun woken => absurd (unwoken.symm.trans woken) (by simp)⟩
      · rename_i waits
        split
        · trivial
        · intro isCmd
          exact absurd (Request.waits_of_isCmd isCmd) waits
  case unqueued n =>
    obtain ⟨notFree, notPending, unheld⟩ := owned.prepared_elsewhere (n := n) (by rw [phase]; rfl)
    have detached : Detached (s.priv.toNodeState.holding cur) pc n :=
      ⟨notPending, unheld.2, fun current => absurd current unheld.1⟩
    have finish : (s.setPhase c (.finish n)).OwnedAs cur pc :=
      owned.go rfl (by simp [Phase.preparing])
        fun isCmd => ⟨fits.1, fits.2 isCmd, notFree, detached⟩
    split at stepped
    · split at stepped <;> cases stepped
      exact finish
    · cases stepped
      split
      · exact owned.go rfl (by simp [Phase.preparing]) (by simp [Client.Fits])
      · exact finish
  case wait n =>
    split at stepped <;> cases stepped
    refine owned.go rfl (by simp [Phase.preparing]) fun isCmd => ?_
    obtain ⟨mine, sync, notFree, detached⟩ := fits isCmd
    exact ⟨mine, sync, notFree, detached ((patient isCmd).1 n phase)⟩
  case finish n =>
    split at stepped <;> cases stepped
    · rename_i isCmd
      obtain ⟨mine, sync, notFree, detached⟩ := fits isCmd
      refine owned.free notFree detached.pending ⟨fun current => ?_, detached.transit⟩ mine _
      exact (patient isCmd).2 n phase (detached.current current)
    · exact owned.go (by simp) (by simp [Phase.preparing]) (by simp [Client.Fits])

/-- Another party changes nothing that matters here. -/
theorem bystander (owned : s.OwnedAs cur pc) (nodes : t.priv.toNodeState = s.priv.toNodeState)
    (client : t.client = s.client) : t.OwnedAs cur pc := by
  change Ownership (t.priv.toNodeState.holding cur) pc t.client
  rw [nodes, client]
  exact owned

/-- Waking all pending commands is harmless when nobody frees their nodes on waking up. -/
theorem flush (owned : s.OwnedAs cur pc)
    (async : ∀ n ∈ s.priv.cmdpendingq, (s.priv.cmdArray n).isAsync = true)
    (nodes : t.priv.toNodeState = s.priv.flushPending.toNodeState)
    (client : t.client = s.client) : t.OwnedAs cur pc := by
  change Ownership (t.priv.toNodeState.holding cur) pc t.client
  rw [nodes, client]
  refine
    { free_nodup := owned.free_nodup
      pending_nodup := owned.pending_nodup
      exclusive := owned.exclusive.shrink fun p r after => by cases p <;> exact after
      looking := owned.looking
      givingUp := owned.givingUp
      fits := fun c => ?_ }
  refine (owned.fits c).updateAll (· ∈ s.priv.cmdpendingq)
    (fun m missing => CommandState.flushPending_of_not_mem missing) (fun m _ => id)
    (fun m _ was => ⟨was.pending, was.transit, was.current⟩) fun n node member => ?_
  rcases Phase.node_cases node with prepared | awaiting
  · exact absurd member (owned.prepared_elsewhere prepared).2.1
  · have before := (Client.Fits.awaiting_iff awaiting).mp (owned.fits c)
    refine (Client.Fits.awaiting_iff awaiting).mpr fun isCmd => ?_
    have sync : (s.priv.cmdArray n).isAsync = false := (before isCmd).2.1
    exact absurd (async n member) (by simp [sync])

end OwnedAs

namespace Settled

variable {s t : Sys} {c : CallId} {n : NodeId}

/-- The main thread goes on between control points without a node, and may begin a call. -/
theorem quiet (settled : s.Settled) (nodes : t.priv.toNodeState = s.priv.toNodeState)
    (clients : SameClients s t) (plain : t.main.Plain) : t.Settled := by
  refine ⟨?_, plain.givingUp⟩
  change Ownership t.priv.toNodeState _ _
  rw [nodes]
  rcases clients with same | ⟨c, req, _, _, _, began⟩
  · rw [same]
    exact Ownership.plain settled.owned settled.kept plain
  · rw [began]
    exact (Ownership.plain settled.owned settled.kept plain).withClient (c := c)
      (by simp +contextual) (by simp [Phase.preparing]) (by simp [Client.Fits])

/-- The main thread completes the node it holds. -/
theorem complete {cs : CommandState} (result : Int) (settled : s.Settled)
    (same : cs.toNodeState = s.priv.toNodeState)
    (held : s.priv.curCmd = some n ∨ s.main.transit = some n)
    (completed : t.priv.toNodeState = (cs.lbsCompleteCommand n result).toNodeState)
    (client : t.client = s.client) (plain : t.main.Plain) : t.Settled := by
  refine ⟨?_, plain.givingUp⟩
  change Ownership t.priv.toNodeState t.main t.client
  rw [completed, client]
  have owned : Ownership cs.toNodeState s.main s.client := by rw [same]; exact settled.owned
  refine owned.complete ?_ plain
  rw [same]
  exact held

theorem process (settled : s.Settled) {idx : Fin 2} (processed : s.processResponse idx c = some t) :
    t.Settled := by
  rw [processResponse] at processed
  dsimp only at processed
  split at processed
  · cases processed
    exact settled.quiet rfl (.inl rfl) ⟨rfl, rfl, rfl⟩
  · rename_i next ret done
    cases processed
    obtain ⟨n, accepted, cmd⟩ := judge_eq_done done
    exact settled.complete _ (acceptResponse_nodes _ _) (.inl accepted.current)
      (congrArg CommandState.toNodeState cmd) (by simp) ⟨rfl, rfl, rfl⟩
  · rename_i next wakeup
    obtain ⟨n, accepted, _, cmd⟩ := judge_eq_wakeup wakeup
    obtain ⟨idle, rfl⟩ := beginCall_eq_some processed
    have nodes := (congrArg CommandState.toNodeState cmd).trans (acceptResponse_nodes _ _)
    refine settled.quiet nodes (.inr ⟨c, psWakeupRequest, ?_⟩) ⟨rfl, rfl, rfl⟩
    exact ⟨by simpa using idle, rfl, rfl, by simp [withCall]⟩
  · rename_i next dispatch
    cases processed
    obtain ⟨n, accepted, _, rfl⟩ := judge_eq_dispatch dispatch
    exact settled.quiet rfl (.inl (by simp)) ⟨rfl, rfl, rfl⟩

theorem dispatch (settled : s.Settled) {idx : Fin 2} {result : UInt16}
    (dispatched : s.dispatchStep idx result c = some t) : t.Settled := by
  have nodes := congrArg (fun core => core.1.toNodeState)
    (dispatchResponse_core s.memory s.priv (s.priv.respBuf idx))
  rw [dispatchStep] at dispatched
  dsimp only at dispatched
  split at dispatched
  · obtain ⟨idle, rfl⟩ := beginCall_eq_some dispatched
    refine settled.quiet nodes (.inr ⟨c, psWakeupRequest, ?_⟩) ⟨rfl, rfl, rfl⟩
    exact ⟨by simpa using idle, rfl, rfl, by simp [withCall]⟩
  · cases dispatched
    exact settled.quiet nodes (.inl (by simp)) ⟨rfl, rfl, rfl⟩

theorem timeout (settled : s.Settled) (pc : s.main = .timeout) (unspent : ∀ n, ¬ s.Spent n) :
    s.timeoutStep.Settled := by
  rw [timeoutStep]
  split
  · rename_i n timedOut current
    dsimp only
    split
    · rename_i spent
      exact absurd ⟨pc, timedOut, spent, current⟩ (unspent n)
    · refine ⟨?_, rfl⟩
      have notPending := (settled.owned.held_elsewhere (.inl current)).2.1
      exact Ownership.relocate .current .transit settled.owned current (by simp) rfl rfl
        settled.owned.pending_nodup (fun _ _ => .rfl) (fun m _ => by simp)
        (fun m same => (Option.some.inj same).symm) settled.kept rfl rfl
        (fun member => absurd member notPending) (by simp) (fun _ => rfl)
  · exact settled.quiet rfl (.inl rfl) ⟨rfl, rfl, rfl⟩

theorem requeue (settled : s.Settled) (pc : s.main = .requeue n) :
    ({ s.withCmd (s.priv.insertPending n false) with main := .timeoutClear } : Sys).Settled := by
  have owned := settled.owned
  have moving : s.main.transit = some n := by rw [pc]; rfl
  obtain ⟨_, notPending, _⟩ := owned.held_elsewhere (.inr moving)
  have elsewhere : s.priv.curCmd ≠ some n := fun current => by
    cases owned.exclusive.eq (p := .current) (q := .transit) current moving
  have nodup : (s.priv.insertPending n false).cmdpendingq.Nodup :=
    CommandState.insertPending_nodup notPending owned.pending_nodup
  refine ⟨?_, rfl⟩
  exact Ownership.relocate .transit .pending owned moving (by simp) rfl rfl nodup
    (fun m other => by simp [NodeState.holding, other]) (fun m _ => id) nofun settled.kept rfl rfl
    (fun _ => rfl) (fun current => absurd current elsewhere) nofun

theorem head {success : Bool} (settled : s.Settled) (pc : s.main = .head n)
    (moved : s.mainStep success c = some t) : t.Settled := by
  have owned := settled.owned
  have member : n ∈ s.priv.cmdpendingq := owned.looking n (by rw [pc]; rfl)
  have elsewhere : s.priv.curCmd ≠ some n := fun current => by
    cases owned.exclusive.eq (p := .current) (q := .pending) current member
  have gone : n ∉ s.priv.cmdpendingq.erase n := owned.pending_nodup.not_mem_erase
  have unlink : ∀ pc' : MainPc, pc'.transit = some n → pc'.givingUp = none → pc'.looking = none →
      Settled { s.withCmd (s.priv.unlinkPending n) with main := pc' } := by
    intro pc' transit kept looking
    refine ⟨?_, kept⟩
    exact Ownership.relocate .pending .transit owned member (by simp) rfl rfl
      (owned.pending_nodup.erase n)
      (fun m other => by simp [NodeState.holding, List.mem_erase_of_ne other]) (fun m _ => id)
      (by simp [transit, eq_comm]) settled.kept kept looking (fun member => absurd member gone)
      (fun current => absurd current elsewhere) (fun _ => rfl)
  simp only [Sys.mainStep, pc] at moved
  rw [headStep] at moved
  split at moved
  · cases moved
    exact settled.quiet rfl (.inl rfl) ⟨rfl, rfl, rfl⟩
  · cases moved
    exact settled.quiet rfl (.inl rfl) ⟨rfl, rfl, rfl⟩
  · obtain ⟨idle, rfl⟩ := beginCall_eq_some moved
    exact settled.quiet rfl (.inr ⟨c, psWakeupRequest, idle, rfl, rfl, rfl⟩) ⟨rfl, rfl, rfl⟩
  · cases moved
    exact unlink _ rfl rfl rfl
  · cases moved
    exact unlink _ rfl rfl rfl

theorem submit (settled : s.Settled) (pc : s.main = .submit n) (e : Event) :
    ({ s.withCmd (s.priv.setCurCmd n) with main := .send n }.log e).Settled := by
  have owned := settled.owned
  have moving : s.main.transit = some n := by rw [pc]; rfl
  obtain ⟨_, notPending, _⟩ := owned.held_elsewhere (.inr moving)
  refine ⟨?_, rfl⟩
  exact Ownership.relocate .transit .current owned moving (by simp) rfl rfl
    owned.pending_nodup (fun _ _ => .rfl)
    (fun m other current => absurd (Option.some.inj current).symm other) nofun settled.kept rfl
    rfl (fun member => absurd member notPending) (fun _ => rfl) nofun

/-- The main thread keeps the invariant unless it gives up a command. -/
theorem mainStep {success : Bool} (settled : s.Settled) (unspent : ∀ n, ¬ s.Spent n)
    (moved : s.mainStep success c = some t) : t.Settled := by
  by_cases quiet : s.main.quiet = true
  · have step := mainStep_quiet quiet moved
    exact settled.quiet step.priv.nodes step.clients step.plain
  cases pc : s.main
  case head n => exact settled.head pc moved
  all_goals simp only [Sys.mainStep, pc] at moved
  case response =>
    split at moved <;> cases moved <;> exact settled.quiet rfl (.inl rfl) ⟨rfl, rfl, rfl⟩
  case clear idx =>
    cases moved
    exact settled.quiet rfl (.inl rfl) ⟨rfl, rfl, rfl⟩
  case process idx => exact settled.process moved
  case dispatch idx result => exact settled.dispatch moved
  case complete idx result =>
    cases moved
    cases current : s.priv.curCmd with
    | none =>
        exact settled.quiet (by simp [completeCurCmd, current]) (.inl (by simp)) ⟨rfl, rfl, rfl⟩
    | some n =>
        exact settled.complete result.toNat rfl (.inl current)
          (by simp [completeCurCmd, current]) (by simp) ⟨rfl, rfl, rfl⟩
  case timeout =>
    cases moved
    exact settled.timeout pc unspent
  case giveUpFree n => exact absurd settled.kept (by simp [pc, MainPc.givingUp])
  case giveUpDrop n => exact absurd settled.kept (by simp [pc, MainPc.givingUp])
  case requeue n =>
    cases moved
    exact settled.requeue pc
  case execute =>
    split at moved
    · split at moved <;> cases moved
      · exact settled.quiet rfl (.inl rfl) ⟨rfl, rfl, rfl⟩
      · rename_i n rest pending
        refine ⟨?_, rfl⟩
        exact Ownership.advance settled.owned settled.kept rfl rfl fun m same =>
          (Option.some.inj same) ▸ pending ▸ List.mem_cons_self
    · cases moved
      exact settled.quiet rfl (.inl rfl) ⟨rfl, rfl, rfl⟩
  case ignore n wake =>
    cases moved
    exact settled.complete 0 rfl (.inr (by rw [pc]; rfl)) rfl rfl ⟨rfl, rfl, rfl⟩
  case submit n =>
    cases moved
    exact settled.submit pc _
  case send n =>
    cases moved
    exact settled.quiet (by simp) (.inl rfl) ⟨rfl, rfl, rfl⟩
  all_goals exact absurd (congrArg MainPc.quiet pc) quiet

end Settled

/-- The ownership invariant of a driver state. The main thread gives up only a node that its
caller frees. -/
structure Owned (s : Sys) : Prop where
  owned : s.OwnedAs s.priv.curCmd s.main
  spared : ∀ n, s.main.givingUp = some n → (s.priv.cmdArray n).isAsync = false

/-- The steps under which no node gets a second owner.
* A caller of `__lbs_cmd` does not stop waiting for a command that was not completed, and does not
  free its node in the middle of an unlocked completion.
* The main thread gives up only commands whose nodes are freed by their callers.
* `lbs_stop_card` wakes no caller of `__lbs_cmd`. -/
def NodesSafe (s : Sys) : Action → Prop
  | .client c => s.Patient s.main c
  | .main _ _ => ∀ n, s.Spent n → (s.priv.cmdArray n).isAsync = false
  | .stopCard => ∀ n ∈ s.priv.cmdpendingq, (s.priv.cmdArray n).isAsync = true
  | _ => True

namespace Owned

variable {s t : Sys} {c : CallId} {action : Action}

theorem of_settled (settled : s.Settled) : s.Owned :=
  ⟨settled.owned, fun n givingUp => by simp [settled.kept] at givingUp⟩

/-- At the start all nodes are free and nobody has one. -/
theorem init : Sys.init.Owned where
  owned :=
    { free_nodup := List.nodup_finRange _
      pending_nodup := List.nodup_nil
      exclusive := fun p q n inP inQ => by
        cases p <;> cases q <;> simp_all [holds, Sys.init, initAdapter, Client.unused,
          MainPc.transit, Phase.preparing, NodeState.holding]
      looking := nofun
      givingUp := nofun
      fits := fun c => by simp [Client.Fits, Sys.init, Client.unused] }
  spared := nofun

theorem client (owned : s.Owned) (patient : s.Patient s.main c)
    (stepped : s.clientStep c = some t) : t.Owned := by
  have frame := clientStep_frame stepped
  refine ⟨?_, fun n givingUp => ?_⟩
  · rw [frame.curCmd, frame.main]
    exact owned.owned.clientStep patient stepped
  · rw [frame.main] at givingUp
    have current := owned.owned.givingUp n givingUp
    obtain ⟨notFree, _, notPrepared⟩ := owned.owned.held_elsewhere (.inl current)
    have untouched : ¬ s.Touches c n := by
      rintro (prepared | free | ⟨isCmd, finish⟩)
      · exact notPrepared c prepared
      · exact notFree free
      · exact (patient isCmd).2 n finish givingUp
    rw [frame.array n untouched]
    exact owned.spared n givingUp

theorem main {success : Bool} (owned : s.Owned)
    (spares : ∀ n, s.Spent n → (s.priv.cmdArray n).isAsync = false)
    (moved : s.mainStep success c = some t) : t.Owned := by
  cases givingUp : s.main.givingUp with
  | none =>
      by_cases spent : ∃ n, s.Spent n
      · obtain ⟨n, spent⟩ := spent
        have sync := spares n spent
        obtain ⟨pc, timedOut, retries, current⟩ := spent
        simp only [Sys.mainStep, pc, timeoutStep, timedOut, current, if_pos retries] at moved
        cases moved
        refine ⟨?_, fun m same => ?_⟩
        · exact Ownership.giveUp owned.owned current
        · obtain rfl : n = m := Option.some.inj same
          simpa using sync
      · exact of_settled (Settled.mainStep ⟨owned.owned, givingUp⟩ (not_exists.mp spent) moved)
  | some n =>
      have sync := owned.spared n givingUp
      cases pc : s.main <;> simp only [pc, MainPc.givingUp, reduceCtorEq, Option.some.injEq]
        at givingUp
      case giveUpFree m =>
        subst givingUp
        simp only [Sys.mainStep, pc, CommandState.releaseAsync_of_sync sync] at moved
        cases moved
        refine ⟨?_, fun k same => ?_⟩
        · exact Ownership.relabel owned.owned (by rw [pc]; rfl) (by rw [pc]; rfl) (by rw [pc]; rfl)
        · obtain rfl : m = k := Option.some.inj same
          exact sync
      case giveUpDrop m =>
        simp only [Sys.mainStep, pc] at moved
        cases moved
        have dropped : Ownership ((s.priv.toNodeState.holding s.priv.curCmd).holding none)
          .timeoutClear s.client := owned.owned.drop ⟨rfl, rfl, rfl⟩
        exact ⟨dropped, fun m same => by cases same⟩

theorem bystander (owned : s.Owned) (nodes : t.priv.toNodeState = s.priv.toNodeState)
    (main : t.main = s.main) (client : t.client = s.client) : t.Owned := by
  have array : t.priv.cmdArray = s.priv.cmdArray := congrArg NodeState.cmdArray nodes
  have current : t.priv.curCmd = s.priv.curCmd := congrArg NodeState.curCmd nodes
  refine ⟨?_, ?_⟩
  · rw [current, main]
    exact owned.owned.bystander nodes client
  · rw [main, array]
    exact owned.spared

/-- A safe step keeps the ownership invariant. -/
theorem step (owned : s.Owned) (safe : s.NodesSafe action) (stepped : s.step action = some t) :
    t.Owned := by
  unfold Sys.step at stepped
  split at stepped
  · cases stepped
  cases action with
  | call c req =>
      dsimp only at stepped
      split at stepped <;> cases stepped
      refine ⟨?_, owned.spared⟩
      exact Ownership.withClient (c := c) owned.owned (by simp +contextual)
        (by simp [Phase.preparing]) (by simp [Client.Fits])
  | client c => exact owned.client safe stepped
  | signal c =>
      cases stepped
      refine ⟨?_, owned.spared⟩
      apply Ownership.withClient (c := c) owned.owned (by simp +contextual) (by simp)
      simpa [Client.Fits] using owned.owned.fits c
  | main success c => exact owned.main safe stepped
  | deliver data =>
      cases stepped
      rw [deliverStep]
      split
      · exact owned
      · dsimp only
        split <;> exact owned.bystander rfl rfl rfl
  | stopCard =>
      dsimp only at stepped
      split at stepped <;> cases stepped
      refine ⟨owned.owned.flush safe rfl rfl, fun n givingUp => ?_⟩
      exact CommandState.isAsync_flushPending.trans (owned.spared n givingUp)
  | timerExpire | commandTimerFn =>
      dsimp only at stepped
      split at stepped <;> cases stepped
      exact owned.bystander rfl rfl rfl
  | queueEvent _ | hostToCardDone | remove | kthreadStop | setFwReady | configure _
    | transmit _ _ =>
      cases stepped
      exact owned.bystander rfl rfl rfl

/-- In every safe run the invariant holds. -/
theorem of_reachable (reached : driver.ReachableUnder NodesSafe s) : s.Owned :=
  reached.invariant Owned (fun _ start => start ▸ init)
    fun _ _ _ _ owned safe stepped => owned.step safe stepped

end Owned

end Sys

/-- In a safe run, in which no other party works on a queue in the middle of an unlocked list
operation of the main thread, every node is in at most one of `cmdfreeq`, `cmdpendingq`, `cur_cmd`,
the hands of the main thread and the hands of one call, and once at most in a queue. -/
theorem nodes_exclusive {s : Linking}
    (reached : linking.ReachableUnder (Linking.Apart Sys.NodesSafe) s) :
    s.sys.priv.cmdfreeq.Nodup ∧ s.sys.priv.cmdpendingq.Nodup ∧
      Exclusive (holds s.sys.priv.toNodeState s.sys.main s.sys.client) :=
  have owned := (Sys.Owned.of_reachable (Linking.driver_reachable reached).2).owned
  ⟨owned.free_nodup, owned.pending_nodup, owned.exclusive⟩

instance (s : Sys) (pc : MainPc) (c : CallId) : Decidable (s.Patient pc c) := by
  unfold Sys.Patient
  infer_instance

instance (s : Sys) (n : NodeId) : Decidable (s.Spent n) := by
  unfold Sys.Spent
  infer_instance

instance (s : Sys) : (action : Action) → Decidable (s.NodesSafe action)
  | .client c => inferInstanceAs (Decidable (s.Patient s.main c))
  | .main _ _ =>
      inferInstanceAs (Decidable (∀ n, s.Spent n → (s.priv.cmdArray n).isAsync = false))
  | .stopCard =>
      inferInstanceAs
        (Decidable (∀ n ∈ s.priv.cmdpendingq, (s.priv.cmdArray n).isAsync = true))
  | .call _ _ | .signal _ | .deliver _ | .queueEvent _ | .hostToCardDone | .timerExpire
  | .commandTimerFn | .remove | .kthreadStop | .setFwReady | .configure _ | .transmit _ _ =>
      .isTrue trivial

/-- A call of `__lbs_cmd` up to its wait. -/
def hwSpecQueued : List Action :=
  .call 0 hwSpecRequest :: List.replicate 6 (.client 0)

/-- A call queues its command and the main thread sends it. -/
def hwSpecSent : List Action :=
  .setFwReady :: hwSpecQueued ++ List.replicate 14 (.main true 1000)

/-- A call queues its command, the main thread takes it out of `cmdpendingq`, and in the middle of
that a second call takes a node from `cmdfreeq`. -/
def hwSpecTaken : List LinkingAction :=
  (hwSpecSent.take 19 ++ [Action.call 1 hwSpecRequest, .client 1, .client 1]).map .act ++
    [.linked]

/-- The node of each of the two calls is in one place. -/
theorem nodes_exclusive_taken : ∃ s,
    linking.runUnder (Linking.Apart Sys.NodesSafe) Linking.init hwSpecTaken = some s ∧
    s.sys.priv.cmdfreeq.Nodup ∧ s.sys.priv.cmdpendingq.Nodup ∧
      Exclusive (holds s.sys.priv.toNodeState s.sys.main s.sys.client) := by
  have runs : (linking.runUnder (Linking.Apart Sys.NodesSafe) Linking.init
      hwSpecTaken).isSome = true := by
    decide +kernel
  obtain ⟨s, executed⟩ := Option.isSome_iff_exists.mp runs
  exact ⟨s, executed, nodes_exclusive (.run (.initial rfl) executed)⟩

/-- A signal during the wait makes the caller free a node that is still queued. -/
theorem signalled_node_in_two_queues : ∃ s,
    driver.run Sys.init (hwSpecQueued ++ [.signal 0, .client 0, .client 0]) = some s ∧
      driver.Reachable s ∧ (0 ∈ s.priv.cmdfreeq ∧ 0 ∈ s.priv.cmdpendingq) ∧
      ¬ Exclusive (holds s.priv.toNodeState s.main s.client) := by
  obtain ⟨s, executed, both⟩ := Machine.exists_of_map
    (fun s : Sys => 0 ∈ s.priv.cmdfreeq ∧ 0 ∈ s.priv.cmdpendingq)
    (show (driver.run Sys.init (hwSpecQueued ++ [.signal 0, .client 0, .client 0])).map _ =
      some true by decide +kernel)
  refine ⟨s, executed, Machine.reachable_of_run rfl executed, both, fun exclusive => ?_⟩
  cases exclusive .free .pending 0 both.1 both.2

end Libertas
