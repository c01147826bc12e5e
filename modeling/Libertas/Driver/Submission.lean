import Libertas.Cmd.Builders
import Libertas.Driver.Buffers

/-!
# The pool of command nodes

A node that a call takes from `cmdfreeq` is queued or given back when the call
has submitted its command or failed, unless the switch over `cmd_no` or
`lbs_queue_cmd` drops it. As long as no call drops its node, every node of the
pool is free, pending, with the main thread, or with a call that goes on to
queue or free it.
-/

namespace Libertas

/-- The node of a call that has neither submitted its command nor failed. -/
def Phase.building : Phase → Option NodeId
  | .fill n | .stamp n | .abort n | .queue n | .insert n _ => some n
  | _ => none

/-- The node whose callback a call has set. -/
def Phase.filled : Phase → Option NodeId
  | .stamp n | .queue n | .insert n _ => some n
  | _ => none

/-- The node of a call that is about to queue or free it. -/
def Phase.passing : Phase → Option NodeId
  | .abort n | .insert n _ => some n
  | _ => none

theorem Phase.preparing_of_passing {phase : Phase} {n : NodeId} (passing : phase.passing = some n) :
    phase.preparing = some n := by
  cases phase <;> first | exact passing | cases passing

theorem Phase.preparing_of_filled {phase : Phase} {n : NodeId} (filled : phase.filled = some n) :
    phase.preparing = some n := by
  cases phase <;> first | exact filled | cases filled

theorem Phase.preparing_of_building {phase : Phase} {n : NodeId}
    (building : phase.building = some n) : phase.preparing = some n := by
  cases phase <;> first | exact building | cases building

/-- Behind the test of `cur_cmd` and not yet behind the decision about the head of
`cmdpendingq`. -/
def MainPc.choosing : MainPc → Bool
  | .head _ | .ignore _ _ | .submit _ => true
  | _ => false

theorem ConfirmSite.pc_choosing (site : ConfirmSite) : site.pc.choosing = false := by
  cases site <;> rfl

theorem Resume.pc_choosing (next : Resume) : next.pc.choosing = false := by
  cases next <;> rfl

namespace Sys

/-- The node is free, pending, with the main thread, or with a call that is going to queue or free
it. -/
def Accounted (s : Sys) (n : NodeId) : Prop :=
  n ∈ s.priv.cmdfreeq ∨ n ∈ s.priv.cmdpendingq ∨ s.main.transit = some n ∨ s.curView = some n ∨
    ∃ c, (s.client c).phase.preparing = some n ∨ (s.client c).awaits n

/-- A call that dropped its node, or is about to. -/
def Dropping (s : Sys) : Prop :=
  ∃ c, (s.client c).phase.begun = true ∧ (s.client c).req.isCmd = false ∧ (s.client c).req.Drops

/-- A caller of `__lbs_cmd` is there to free the node. -/
def Awaited (s : Sys) (n : NodeId) : Prop :=
  ∃ c, (s.client c).awaits n

/-- A command that the main thread has in hand, or is giving up and has not freed. -/
def Outstanding (s : Sys) (n : NodeId) : Prop :=
  s.InHand n ∨ s.main = .giveUpFree n

/-- What the pool rests on. -/
structure Pool (s : Sys) : Prop where
  held : s.Held
  sized : ∀ c n, (s.client c).phase = .queue n → ∃ command body,
    (s.client c).req.assemble = .ready command (s.priv.cmdArray n).cmdbuf.size body
  dropped : ∀ c n, (s.client c).phase = .unqueued n → (s.client c).req.Drops
  kept : ∀ c n, (s.client c).phase.passing = some n → ¬ (s.client c).req.Drops
  unowned : ∀ c n, (s.client c).phase.filled = some n → (s.client c).req.isCmd = false →
    (s.priv.cmdArray n).isAsync = true
  idle : s.main.choosing = true → s.priv.curCmd = none
  awaited : ∀ n, s.Outstanding n → (s.priv.cmdArray n).isAsync = false → s.Awaited n
  accounted : s.Dropping ∨ ∀ n, s.Accounted n

section Accounted

variable {s t : Sys} {c : CallId} {n : NodeId}

/-- A step of the main thread moves only the nodes it has in hand. -/
theorem Accounted.main (accounted : s.Accounted n) (clients : SameClients s t)
    (free : n ∈ s.priv.cmdfreeq → n ∈ t.priv.cmdfreeq)
    (pending : n ∈ s.priv.cmdpendingq → t.Accounted n)
    (transit : s.main.transit = some n → t.Accounted n)
    (current : s.curView = some n → t.Accounted n) : t.Accounted n := by
  rcases accounted with inFree | inPending | inTransit | isCurrent | ⟨c, mine⟩
  · exact .inl (free inFree)
  · exact pending inPending
  · exact transit inTransit
  · exact current isCurrent
  · have started : (s.client c).phase ≠ .idle := by
      intro idle
      rcases mine with preparing | ⟨_, awaiting⟩
      · rw [idle] at preparing
        cases preparing
      · rw [idle] at awaiting
        cases awaiting
    refine .inr (.inr (.inr (.inr ⟨c, ?_⟩)))
    rw [clients.of_started started]
    exact mine

/-- A step of a call moves only the node in its hands. -/
theorem Accounted.call (accounted : s.Accounted n) (main : t.main = s.main)
    (current : t.priv.curCmd = s.priv.curCmd) (others : ∀ d, d ≠ c → t.client d = s.client d)
    (free : n ∈ s.priv.cmdfreeq → t.Accounted n)
    (pending : n ∈ s.priv.cmdpendingq → n ∈ t.priv.cmdpendingq)
    (own : (s.client c).phase.preparing = some n ∨ (s.client c).awaits n → t.Accounted n) :
    t.Accounted n := by
  have view : t.curView = s.curView := by
    unfold curView
    rw [main, current]
  rcases accounted with inFree | inPending | inTransit | isCurrent | ⟨d, holding⟩
  · exact free inFree
  · exact .inr (.inl (pending inPending))
  · exact .inr (.inr (.inl (main ▸ inTransit)))
  · exact .inr (.inr (.inr (.inl (view.trans isCurrent))))
  · by_cases mine : d = c
    · exact own (mine ▸ holding)
    · refine .inr (.inr (.inr (.inr ⟨d, ?_⟩)))
      rw [others d mine]
      exact holding

theorem Awaited.main (awaited : s.Awaited n) (clients : SameClients s t) : t.Awaited n := by
  obtain ⟨c, isCmd, awaiting⟩ := awaited
  have started : (s.client c).phase ≠ .idle := by
    intro idle
    rw [idle] at awaiting
    cases awaiting
  refine ⟨c, ?_⟩
  rw [clients.of_started started]
  exact ⟨isCmd, awaiting⟩

theorem Awaited.accounted (awaited : s.Awaited n) : s.Accounted n :=
  .inr (.inr (.inr (.inr (awaited.imp fun _ => .inr))))

/-- A node that is let go is freed, or its caller is there. -/
theorem accounted_released (cs : CommandState)
    (awaited : (cs.cmdArray n).isAsync = false → t.Awaited n)
    (free : t.priv.cmdfreeq = (cs.releaseAsync n).cmdfreeq) : t.Accounted n := by
  cases async : (cs.cmdArray n).isAsync with
  | false => exact (awaited async).accounted
  | true =>
      refine .inl ?_
      rw [free, CommandState.releaseAsync_of_async async]
      simp

/-- The main thread leaves the nodes alone. -/
theorem Accounted.still (accounted : s.Accounted n) (clients : SameClients s t)
    (nodes : t.priv.toNodeState = s.priv.toNodeState) (kept : s.main.givingUp = none)
    (transit : s.main.transit = none) (plain : t.main.givingUp = none) : t.Accounted n := by
  refine accounted.main clients (fun free => ?_) (fun pending => ?_) (fun moving => ?_)
    fun current => ?_
  · exact congrArg NodeState.cmdfreeq nodes ▸ free
  · exact .inr (.inl (congrArg NodeState.cmdpendingq nodes ▸ pending))
  · rw [transit] at moving
    cases moving
  · rw [curView_of_ne (not_giveUpDrop kept)] at current
    refine .inr (.inr (.inr (.inl ?_)))
    rw [curView_of_ne (not_giveUpDrop plain), congrArg NodeState.curCmd nodes]
    exact current

/-- The main thread completes a command that it has in hand, and no other is in hand. -/
theorem Accounted.complete (cs : CommandState) (m : NodeId) (result : Int)
    (accounted : s.Accounted n) (clients : SameClients s t) (nothing : NothingTaken s t)
    (same : cs.toNodeState = s.priv.toNodeState)
    (completed : t.priv.toNodeState = (cs.lbsCompleteCommand m result).toNodeState)
    (only : s.main.transit = some n ∨ s.curView = some n → n = m)
    (awaited : (s.priv.cmdArray m).isAsync = false → s.Awaited m) : t.Accounted n := by
  have pending : t.priv.cmdpendingq = s.priv.cmdpendingq := by
    rw [completed, CommandState.lbsCompleteCommand_cmdpendingq, same]
  have done : s.main.transit = some n ∨ s.curView = some n → t.Accounted n := by
    intro inHand
    obtain rfl := only inHand
    refine accounted_released (cs.recordResult n result) (fun sync => ?_) ?_
    · rw [CommandState.isAsync_recordResult, congrArg NodeState.cmdArray same] at sync
      exact (awaited sync).main clients
    · rw [completed]
      rfl
  exact accounted.main clients (nothing.free n) (fun member => .inr (.inl (pending ▸ member)))
    (fun transit => done (.inl transit)) fun current => done (.inr current)

/-- What a step of the main thread takes up: it looks at the head of the queue when no command is
in flight, and gives up a command when its retries are spent. -/
structure TakesUp (s t : Sys) : Prop where
  choosing : t.main.choosing = true →
    (s.main.choosing = true ∨ s.priv.curCmd = none) ∧ t.priv.curCmd = s.priv.curCmd
  givingUp : ∀ n, t.main = .giveUpFree n →
    s.Spent n ∧ t.priv.cmdArray = (s.priv.recordResult n (-eTimedOut)).cmdArray

/-- The main thread neither looks at the queue nor gives up a command. -/
theorem TakesUp.nothing (choosing : t.main.choosing = false)
    (kept : ∀ n, t.main ≠ .giveUpFree n) : TakesUp s t where
  choosing chosen := by simp [choosing] at chosen
  givingUp n givingUp := absurd givingUp (kept n)

theorem TakesUp.plain (plain : t.main.Plain) : TakesUp s t where
  choosing choosing := by
    obtain ⟨transit, _, looking⟩ := plain
    cases pc : t.main <;>
      simp [pc, MainPc.transit, MainPc.looking, MainPc.choosing] at transit looking choosing
  givingUp n givingUp := by
    have kept := plain.givingUp
    rw [givingUp] at kept
    cases kept

theorem TakesUp.mainStep {success : Bool} (moved : s.mainStep success c = some t) :
    TakesUp s t := by
  by_cases quiet : s.main.quiet = true
  · exact .plain (mainStep_quiet quiet moved).plain
  cases pc : s.main
  all_goals simp only [Sys.mainStep, pc] at moved
  case response =>
    split at moved <;> cases moved <;> exact .plain ⟨rfl, rfl, rfl⟩
  case process idx =>
    rcases processResponse_cases moved with rfl | ⟨m, accepts⟩
    · exact .plain ⟨rfl, rfl, rfl⟩
    rcases accepts.outcome with ⟨_, main, _⟩ | ⟨_, _, task, _⟩
    · exact .plain (by rw [main]; exact ⟨rfl, rfl, rfl⟩)
    · exact .plain (MainPc.plain_of_answer (congrArg Prod.fst task))
  case dispatch idx result =>
    exact .plain (MainPc.plain_of_answer (congrArg Prod.fst (dispatchStep_frame moved).task))
  case timeout =>
    cases moved
    rw [timeoutStep]
    split
    · rename_i m timedOut current
      dsimp only
      split
      · rename_i many
        refine ⟨(by cases ·), fun n givingUp => ?_⟩
        obtain rfl : m = n := MainPc.giveUpFree.inj givingUp
        exact ⟨⟨pc, timedOut, many, current⟩, rfl⟩
      · exact .nothing rfl (by simp)
    · exact .nothing rfl (by simp)
  case execute =>
    split at moved
    · rename_i ready
      split at moved <;> cases moved
      · exact .nothing rfl (by simp)
      · exact ⟨fun _ => ⟨.inr ready.2, rfl⟩, by simp⟩
    · cases moved
      exact .nothing rfl (by simp)
  case head m =>
    have choosing : s.main.choosing = true := by rw [pc]; rfl
    rw [headStep] at moved
    split at moved
    case h_3 =>
      obtain ⟨_, rfl⟩ := beginCall_eq_some moved
      exact .nothing rfl fun n giving => by cases giving
    all_goals
      cases moved
      exact ⟨fun _ => ⟨.inl choosing, rfl⟩, by simp⟩
  case complete | clear | giveUpFree | giveUpDrop | requeue | ignore | submit | send =>
    cases moved
    exact .nothing rfl (by simp)
  all_goals exact absurd (congrArg MainPc.quiet pc) quiet

namespace Pool

/-- The main thread loses no node. -/
theorem main_accounted {success : Bool} (pool : s.Pool) (moved : s.mainStep success c = some t)
    (accounted : s.Accounted n) : t.Accounted n := by
  have clients := SameClients.mainStep moved
  have nothing := NothingTaken.mainStep moved
  by_cases quiet : s.main.quiet = true
  · have step := mainStep_quiet quiet moved
    have transit : s.main.transit = none := by
      cases pc : s.main <;> first | rfl | exact absurd quiet (by rw [pc]; nofun)
    exact accounted.still clients step.priv.nodes (MainPc.givingUp_of_quiet quiet) transit
      step.plain.givingUp
  have elsewhere : s.main.givingUp = none → ∀ m, s.curView = some m → s.priv.curCmd = some m := by
    intro kept m current
    rwa [curView_of_ne (not_giveUpDrop kept)] at current
  cases pc : s.main
  all_goals
    simp only [Sys.mainStep, pc] at moved
    have givingUp := congrArg MainPc.givingUp pc
    have transit := congrArg MainPc.transit pc
  case response =>
    split at moved <;> cases moved <;> exact accounted.still clients rfl givingUp transit rfl
  case process idx =>
    rcases processResponse_cases moved with rfl | ⟨m, accepts⟩
    · exact accounted.still clients rfl givingUp transit rfl
    have current := accepts.accepted.current
    rcases accepts.outcome with ⟨cmd, _, _⟩ | ⟨cmd, _, task, _, _⟩
    · refine accounted.complete _ _ _ clients nothing (acceptResponse_nodes _ _)
        (congrArg CommandState.toNodeState cmd) (fun inHand => ?_) (pool.awaited m ?_)
      · rcases inHand with moving | isCurrent
        · rw [transit] at moving
          cases moving
        · have same := (elsewhere givingUp n isCurrent).symm.trans current
          exact Option.some.inj same
      · exact .inl (.inr (.inr ⟨givingUp, current⟩))
    · exact accounted.still clients
        ((congrArg CommandState.toNodeState cmd).trans (acceptResponse_nodes _ _)) givingUp transit
        (MainPc.plain_of_answer (congrArg Prod.fst task)).givingUp
  case dispatch idx result =>
    have frame := dispatchStep_frame moved
    exact accounted.still clients (congrArg CommandState.toNodeState frame.cmd) givingUp transit
      (MainPc.plain_of_answer (congrArg Prod.fst frame.task)).givingUp
  case complete idx result =>
    cases moved
    cases current : s.priv.curCmd with
    | none =>
        exact accounted.still clients (by simp [completeCurCmd, current]) givingUp transit rfl
    | some m =>
        refine accounted.complete s.priv.toCommandState m result.toNat clients nothing
          rfl (by simp [completeCurCmd, current])
          (fun inHand => ?_) (pool.awaited m ?_)
        · rcases inHand with moving | isCurrent
          · rw [transit] at moving
            cases moving
          · have same := (elsewhere givingUp n isCurrent).symm.trans current
            exact Option.some.inj same
        · exact .inl (.inr (.inr ⟨givingUp, current⟩))
  case clear idx =>
    cases moved
    exact accounted.still clients rfl givingUp transit rfl
  case timeout =>
    have none := moved
    cases none
    rw [timeoutStep]
    split
    · rename_i m timedOut current
      dsimp only
      split
      · refine accounted.main (.inl rfl) id (fun pending => .inr (.inl pending))
          (fun moving => ?_) fun isCurrent => ?_
        · rw [transit] at moving
          cases moving
        · exact .inr (.inr (.inr (.inl (elsewhere givingUp n isCurrent))))
      · refine accounted.main (.inl rfl) id (fun pending => .inr (.inl pending))
          (fun moving => ?_) fun isCurrent => ?_
        · rw [transit] at moving
          cases moving
        · have same := current.symm.trans (elsewhere givingUp n isCurrent)
          exact .inr (.inr (.inl same))
    · exact accounted.still (.inl rfl) rfl givingUp transit rfl
  case giveUpFree m =>
    cases moved
    refine accounted.main clients (nothing.free n) (fun pending => .inr (.inl ?_))
      (fun moving => ?_) fun isCurrent => ?_
    · exact CommandState.releaseAsync_cmdpendingq.symm ▸ pending
    · rw [transit] at moving
      cases moving
    · have current : s.curView = some m := by
        apply pool.held.givingUp m
        simp [mainView, pc, MainPc.givingUp]
      obtain rfl := Option.some.inj (isCurrent.symm.trans current)
      refine accounted_released s.priv.toCommandState (fun sync => ?_) rfl
      exact (pool.awaited n (.inr pc) sync).main clients
  case giveUpDrop m =>
    cases moved
    refine accounted.main clients id (fun pending => .inr (.inl pending)) (fun moving => ?_)
      fun isCurrent => ?_
    · rw [transit] at moving
      cases moving
    · simp [curView, pc] at isCurrent
  case requeue m =>
    cases moved
    refine accounted.main clients id (fun pending => .inr (.inl ?_)) (fun moving => .inr (.inl ?_))
      fun isCurrent => .inr (.inr (.inr (.inl (elsewhere givingUp n isCurrent))))
    · exact CommandState.mem_insertPending.mpr (.inr pending)
    · obtain rfl := Option.some.inj (transit.symm.trans moving)
      exact CommandState.mem_insertPending.mpr (.inl rfl)
  case execute =>
    split at moved
    · split at moved <;> cases moved <;> exact accounted.still clients rfl givingUp transit rfl
    · cases moved
      exact accounted.still clients rfl givingUp transit rfl
  case head m =>
    rw [headStep] at moved
    have unlinked : ∀ pc' : MainPc, pc'.transit = some m → pc'.givingUp = none →
        Accounted { s.withCmd (s.priv.unlinkPending m) with main := pc' } n := by
      intro pc' holding kept
      refine accounted.main (.inl rfl) id (fun pending => ?_) (fun moving => ?_) fun isCurrent => ?_
      · by_cases same : n = m
        · exact .inr (.inr (.inl (same ▸ holding)))
        · exact .inr (.inl ((List.mem_erase_of_ne same).mpr pending))
      · rw [transit] at moving
        cases moving
      · refine .inr (.inr (.inr (.inl ?_)))
        rw [curView_of_ne (not_giveUpDrop kept)]
        exact elsewhere givingUp n isCurrent
    split at moved
    · cases moved
      exact accounted.still clients rfl givingUp transit rfl
    · cases moved
      exact accounted.still clients rfl givingUp transit rfl
    · obtain ⟨_, rfl⟩ := beginCall_eq_some moved
      exact accounted.still clients rfl givingUp transit rfl
    · cases moved
      exact unlinked _ rfl rfl
    · cases moved
      exact unlinked _ rfl rfl
  case ignore m wake =>
    cases moved
    refine accounted.complete s.priv.toCommandState m 0 clients nothing
      rfl rfl (fun inHand => ?_) (pool.awaited m (.inl (.inr (.inl transit))))
    rcases inHand with moving | isCurrent
    · exact (Option.some.inj (transit.symm.trans moving)).symm
    · have idle := pool.idle (by rw [pc]; rfl)
      have current := elsewhere givingUp n isCurrent
      rw [idle] at current
      cases current
  case submit m =>
    cases moved
    refine accounted.main clients id (fun pending => .inr (.inl pending)) (fun moving => ?_)
      fun isCurrent => ?_
    · obtain rfl := Option.some.inj (transit.symm.trans moving)
      exact .inr (.inr (.inr (.inl rfl)))
    · have idle := pool.idle (by rw [pc]; rfl)
      have current := elsewhere givingUp n isCurrent
      rw [idle] at current
      cases current
  case send m =>
    cases moved
    exact accounted.still clients (by simp) givingUp transit rfl
  all_goals exact absurd (congrArg MainPc.quiet pc) quiet

/-- The main thread loses no caller of a command it has in hand. -/
theorem main_awaited {success : Bool} (pool : s.Pool) (moved : s.mainStep success c = some t)
    (outstanding : t.Outstanding n) (sync : (t.priv.cmdArray n).isAsync = false) : t.Awaited n := by
  have moves := Moves.main pool.held moved
  rcases outstanding with inHand | givingUp
  · obtain ⟨before, array⟩ := moves.hand n inHand
    rw [array] at sync
    exact (pool.awaited n (.inl before) sync).main moves.clients
  · obtain ⟨⟨pc, _, _, current⟩, recorded⟩ := (TakesUp.mainStep moved).givingUp n givingUp
    have inHand : s.InHand n := .inr (.inr ⟨by rw [pc]; rfl, current⟩)
    rw [recorded, CommandState.isAsync_recordResult] at sync
    exact (pool.awaited n (.inl inHand) sync).main moves.clients

theorem main {success : Bool} (pool : s.Pool) (moved : s.mainStep success c = some t) : t.Pool := by
  have moves := Moves.main pool.held moved
  have takesUp := TakesUp.mainStep moved
  have same : ∀ {d n}, (t.client d).phase.preparing = some n →
      t.client d = s.client d ∧ t.priv.cmdArray n = s.priv.cmdArray n := by
    intro d n preparing
    have client := moves.clients.of_begun (Phase.begun_of_preparing preparing)
    exact ⟨client, moves.prepared pool.held (client ▸ preparing)⟩
  refine
    { held := pool.held.main moved
      sized := fun d n queue => ?_
      dropped := fun d n unqueued => ?_
      kept := fun d n passing => ?_
      unowned := fun d n filled isCmd => ?_
      idle := fun choosing => ?_
      awaited := fun n => pool.main_awaited moved
      accounted := pool.accounted.imp (fun dropping => ?_) fun all n =>
        pool.main_accounted moved (all n) }
  · obtain ⟨client, array⟩ := same (d := d) (n := n) (by rw [queue]; rfl)
    rw [client] at queue ⊢
    rw [array]
    exact pool.sized d n queue
  · obtain ⟨client, _⟩ := same (d := d) (n := n) (by rw [unqueued]; rfl)
    rw [client] at unqueued ⊢
    exact pool.dropped d n unqueued
  · obtain ⟨client, _⟩ := same (Phase.preparing_of_passing passing)
    rw [client] at passing ⊢
    exact pool.kept d n passing
  · obtain ⟨client, array⟩ := same (Phase.preparing_of_filled filled)
    rw [client] at filled isCmd
    rw [array]
    exact pool.unowned d n filled isCmd
  · obtain ⟨before, current⟩ := takesUp.choosing choosing
    rw [current]
    exact before.elim pool.idle id
  · obtain ⟨d, begun, isCmd, drops⟩ := dropping
    have client := (moves.clients.onward d).1 begun
    exact ⟨d, by rw [client]; exact ⟨begun, isCmd, drops⟩⟩

/-- What a call has established about its own node. -/
structure Stage (s : Sys) (c : CallId) : Prop where
  sized : ∀ n, (s.client c).phase = .queue n → ∃ command body,
    (s.client c).req.assemble = .ready command (s.priv.cmdArray n).cmdbuf.size body
  dropped : ∀ n, (s.client c).phase = .unqueued n → (s.client c).req.Drops
  kept : ∀ n, (s.client c).phase.passing = some n → ¬ (s.client c).req.Drops
  unowned : ∀ n, (s.client c).phase.filled = some n → (s.client c).req.isCmd = false →
    (s.priv.cmdArray n).isAsync = true

/-- At most phases there is nothing to establish. -/
theorem Stage.nothing (early : (s.client c).phase.filled = none)
    (passing : (s.client c).phase.passing = none)
    (queued : ∀ n, (s.client c).phase ≠ .unqueued n) : Stage s c where
  sized n queue := by
    rw [queue] at early
    cases early
  dropped n unqueued := absurd unqueued (queued n)
  kept n there := by
    rw [passing] at there
    cases there
  unowned n filled := by
    rw [early] at filled
    cases filled

theorem callback_of_not_isCmd (req : Request) (isCmd : req.isCmd = false) :
    req.callback = none ∨ req.callback = some .lbsCmdAsyncCallback := by
  cases kind : req.kind <;> simp_all [Request.isCmd, Request.callback]

theorem client_stage (pool : s.Pool) (stepped : s.clientStep c = some t) : Stage t c := by
  cases phase : (s.client c).phase <;> simp only [Sys.clientStep, phase, reduceCtorEq] at stepped
  case start | wait =>
    split at stepped <;> cases stepped <;>
      exact .nothing (by simp [Phase.filled]) (by simp [Phase.passing]) (by simp)
  case alloc =>
    split at stepped <;> cases stepped <;>
      exact .nothing (by simp [Phase.filled]) (by simp [Phase.passing]) (by simp)
  case fill m =>
    cases stepped
    refine ⟨fun n queue => by simp at queue, fun n unqueued => by simp at unqueued,
      fun n passing => by simp [Phase.passing] at passing, fun n filled isCmd => ?_⟩
    simp only [setPhase_client_self, Phase.filled, Option.some.injEq] at filled isCmd
    subst filled
    have callback := callback_of_not_isCmd (s.client c).req isCmd
    simpa [CommandState.initNode, CmdCtrlNode.isAsync] using callback
  case stamp m =>
    split at stepped <;> cases stepped
    · rename_i failed
      refine ⟨fun n queue => by simp at queue, fun n unqueued => by simp at unqueued,
        fun n _ => ?_, fun n filled => by simp [Phase.filled] at filled⟩
      simp [Request.Drops, failed]
    · exact .nothing (by simp [Phase.filled]) (by simp [Phase.passing]) (by simp)
    · rename_i command size body assembled
      refine ⟨fun n queue => ?_, fun n unqueued => by simp at unqueued,
        fun n passing => by simp [Phase.passing] at passing, fun n filled isCmd => ?_⟩
      · simp only [log_client, setPhase_client_self, Phase.queue.injEq] at queue
        subst queue
        exact ⟨command, body, by simp [CommandState.stampNode, assembled]⟩
      · simp only [log_client, setPhase_client_self, Phase.filled, Option.some.injEq]
          at filled isCmd
        subst filled
        have before := pool.unowned c m (by rw [phase]; rfl) isCmd
        simpa [CommandState.stampNode, CmdCtrlNode.isAsync] using before
  case abort m =>
    cases stepped
    exact .nothing (by simp [Phase.filled]) (by simp [Phase.passing]) (by simp)
  case queue m =>
    obtain ⟨command, body, assembled⟩ := pool.sized c m phase
    split at stepped <;> cases stepped
    · rename_i zero
      refine ⟨fun n queue => by simp at queue, fun n unqueued => ?_,
        fun n passing => by simp [Phase.passing] at passing,
        fun n filled => by simp [Phase.filled] at filled⟩
      rw [zero] at assembled
      simp only [setPhase_client_self]
      exact .inr ⟨command, body, assembled⟩
    · rename_i nonzero
      refine ⟨fun n queue => by simp at queue, fun n unqueued => by simp at unqueued,
        fun n passing => ?_, fun n filled isCmd => ?_⟩
      · simp [Request.Drops, assembled, nonzero]
      simp only [setPhase_client_self, Phase.filled, Option.some.injEq] at filled isCmd
      subst filled
      have before := pool.unowned c m (by rw [phase]; rfl) isCmd
      simpa [CommandState.clearResult, CmdCtrlNode.isAsync] using before
  case insert m tail =>
    cases stepped
    by_cases waits : (s.client c).req.waits = true
    · exact .nothing (by simp [waits, Phase.filled]) (by simp [waits, Phase.passing])
        (by simp [waits])
    · by_cases async : (s.client c).req.kind = .cmdAsync <;>
        exact .nothing (by simp [waits, async, Phase.filled])
          (by simp [waits, async, Phase.passing]) (by simp [waits, async])
  case unqueued m =>
    split at stepped
    · split at stepped <;> cases stepped
      exact .nothing (by simp [Phase.filled]) (by simp [Phase.passing]) (by simp)
    · cases stepped
      by_cases async : (s.client c).req.kind = .cmdAsync <;>
        exact .nothing (by simp [async, Phase.filled]) (by simp [async, Phase.passing])
          (by simp [async])
  case finish m =>
    split at stepped <;> cases stepped <;>
      exact .nothing (by simp [Phase.filled]) (by simp [Phase.passing]) (by simp)

/-- A call that does not drop its node passes it on. -/
theorem client_accounted (pool : s.Pool)
    (keeps : (s.client c).phase.begun = true → (s.client c).req.isCmd = false →
      ¬ (s.client c).req.Drops)
    (stepped : s.clientStep c = some t) (accounted : s.Accounted n) : t.Accounted n := by
  have frame := clientStep_frame stepped
  obtain ⟨next, _, client⟩ := frame.client
  have others : ∀ d, d ≠ c → t.client d = s.client d := by
    intro d other
    rw [client, setPhase_client_of_ne other]
  have step : (n ∈ s.priv.cmdfreeq → t.Accounted n) →
      (n ∈ s.priv.cmdpendingq → n ∈ t.priv.cmdpendingq) →
      ((s.client c).phase.node = some n → (s.client c).phase.preparing = some n ∨
        (s.client c).req.isCmd = true → t.Accounted n) → t.Accounted n := by
    intro free pending own
    refine accounted.call frame.main frame.curCmd others free pending fun holding => ?_
    rcases holding with preparing | ⟨isCmd, awaiting⟩
    · exact own (Phase.node_of_preparing preparing) (.inl preparing)
    · refine own ?_ (.inr isCmd)
      cases phase : (s.client c).phase <;> simp_all [Phase.awaiting, Phase.node]
  have holding : (t.client c).phase.preparing = some n → t.Accounted n :=
    fun preparing => .inr (.inr (.inr (.inr ⟨c, .inl preparing⟩)))
  cases phase : (s.client c).phase <;> rw [phase] at step keeps <;>
    simp only [Sys.clientStep, phase, reduceCtorEq] at stepped
  case start =>
    split at stepped <;> cases stepped <;> exact step .inl id (by cases ·)
  case alloc =>
    split at stepped <;> cases stepped
    · exact step .inl id (by cases ·)
    · rename_i m cs got
      obtain ⟨rest, free, rfl⟩ := CommandState.lbsGetCmdCtrlNode_eq_some got
      refine step (fun inFree => ?_) id (by cases ·)
      rw [free] at inFree
      rcases List.mem_cons.mp inFree with rfl | inRest
      · exact holding (by simp [Phase.preparing])
      · exact .inl inRest
  case fill m =>
    cases stepped
    refine step .inl id fun node _ => holding ?_
    simpa [Phase.preparing, Phase.node] using node
  case stamp m =>
    split at stepped <;> cases stepped
    · refine step .inl id fun node _ => holding ?_
      simpa [Phase.preparing, Phase.node] using node
    · rename_i assembled
      refine step .inl id fun _ _ => ?_
      have isCmd : (s.client c).req.isCmd = false := by
        cases kind : (s.client c).req.kind <;>
          simp [Request.assemble, Request.copied, kind, Request.isCmd] at assembled ⊢
      exact absurd (.inl assembled) (keeps rfl isCmd)
    · refine step .inl id fun node _ => holding ?_
      simpa [Phase.preparing, Phase.node] using node
  case abort m =>
    cases stepped
    refine step (fun inFree => .inl (List.mem_append_left _ inFree)) id fun node _ => .inl ?_
    obtain rfl : m = n := by simpa [Phase.node] using node
    exact List.mem_append_right _ (List.mem_singleton_self m)
  case queue m =>
    split at stepped <;> cases stepped <;>
      refine step .inl id fun node _ => holding ?_ <;>
      simpa [Phase.preparing, Phase.node] using node
  case insert m tail =>
    cases stepped
    refine step .inl (fun inPending => ?_) fun node _ => .inr (.inl ?_)
    · exact CommandState.mem_insertPending.mpr (.inr inPending)
    · obtain rfl : m = n := by simpa [Phase.node] using node
      exact CommandState.mem_insertPending.mpr (.inl rfl)
  case unqueued m =>
    have drops := pool.dropped c m phase
    cases isCmd : (s.client c).req.isCmd with
    | false => exact absurd drops (keeps rfl isCmd)
    | true =>
        rw [if_pos (Request.waits_of_isCmd isCmd)] at stepped
        split at stepped <;> cases stepped
        refine step .inl id fun node _ => .inr (.inr (.inr (.inr ⟨c, .inr ?_⟩)))
        obtain rfl : m = n := by simpa [Phase.node] using node
        exact ⟨by simpa using isCmd, by simp [Phase.awaiting]⟩
  case wait m =>
    split at stepped <;> cases stepped
    refine step .inl id fun node held => .inr (.inr (.inr (.inr ⟨c, .inr ?_⟩)))
    obtain rfl : m = n := by simpa [Phase.node] using node
    have isCmd : (s.client c).req.isCmd = true := by simpa [phase, Phase.preparing] using held
    exact ⟨by simpa using isCmd, by simp [Phase.awaiting]⟩
  case finish m =>
    split at stepped <;> cases stepped
    · refine step (fun inFree => .inl (List.mem_append_left _ inFree)) id fun node _ => .inl ?_
      obtain rfl : m = n := by simpa [Phase.node] using node
      exact List.mem_append_right _ (List.mem_singleton_self m)
    · rename_i isCmd
      have nodes := s.priv.takeRetcode_nodes
      refine step (fun inFree => .inl ?_) (fun inPending => ?_) fun _ held => ?_
      · exact congrArg NodeState.cmdfreeq nodes ▸ inFree
      · exact congrArg NodeState.cmdpendingq nodes ▸ inPending
      · rcases held with preparing | other
        · cases preparing
        · exact absurd other isCmd

/-- A command that the main thread has in hand is not in the hands of a call that takes a step. -/
theorem outstanding_untouched (pool : s.Pool) (patient : s.Patient s.mainView c)
    (outstanding : s.Outstanding n) : ¬ s.Touches c n := by
  rcases outstanding with inHand | givingUp
  · exact pool.held.untouched inHand c
  · have view : s.mainView.givingUp = some n := by simp [mainView, givingUp, MainPc.givingUp]
    have current := pool.held.givingUp n view
    obtain ⟨notFree, _, notPrepared⟩ := pool.held.held_elsewhere (.inl current)
    rintro (preparing | free | ⟨isCmd, finish⟩)
    · exact notPrepared c preparing
    · exact notFree free
    · exact (patient isCmd).2 n finish view

/-- A caller that is there to free a node stays, as long as the main thread has the node. -/
theorem client_awaits (stepped : s.clientStep c = some t) (untouched : ¬ s.Touches c n)
    (awaited : s.Awaited n) : t.Awaited n := by
  obtain ⟨next, _, client⟩ := (clientStep_frame stepped).client
  obtain ⟨d, isCmd, awaiting⟩ := awaited
  by_cases mine : d = c
  · subst mine
    cases phase : (s.client d).phase <;> rw [phase] at awaiting <;>
      simp only [Phase.awaiting, Option.some.injEq, reduceCtorEq] at awaiting
    · subst awaiting
      simp only [Sys.clientStep, phase] at stepped
      split at stepped <;> cases stepped
      exact ⟨d, by simpa using isCmd, by simp [Phase.awaiting]⟩
    · subst awaiting
      exact absurd (.inr (.inr ⟨isCmd, phase⟩)) untouched
  · refine ⟨d, ?_⟩
    rw [client, setPhase_client_of_ne mine]
    exact ⟨isCmd, awaiting⟩

theorem client_awaited (pool : s.Pool) (patient : s.Patient s.mainView c)
    (stepped : s.clientStep c = some t) (outstanding : t.Outstanding n)
    (sync : (t.priv.cmdArray n).isAsync = false) : t.Awaited n := by
  have frame := clientStep_frame stepped
  have before : s.Outstanding n → t.Awaited n := by
    intro outstanding
    have untouched := pool.outstanding_untouched patient outstanding
    rw [frame.array n untouched] at sync
    exact client_awaits stepped untouched (pool.awaited n outstanding sync)
  rcases outstanding with (pending | transit | ⟨kept, current⟩) | givingUp
  · rcases frame.pending n pending with inPending | ⟨tail, phase⟩
    · exact before (.inl (.inl inPending))
    · have isCmd : (s.client c).req.isCmd = true := by
        cases isCmd : (s.client c).req.isCmd with
        | true => rfl
        | false =>
            have async := pool.unowned c n (by rw [phase]; rfl) isCmd
            simp only [Sys.clientStep, phase] at stepped
            cases stepped
            exact absurd async (by simpa using sync)
      simp only [Sys.clientStep, phase, Request.waits_of_isCmd isCmd, if_true] at stepped
      cases stepped
      exact ⟨c, by simpa using isCmd, by simp [Phase.awaiting]⟩
  · exact before (.inl (.inr (.inl (frame.main ▸ transit))))
  · exact before (.inl (.inr (.inr ⟨frame.main ▸ kept, frame.curCmd ▸ current⟩)))
  · exact before (.inr (frame.main ▸ givingUp))

theorem client (pool : s.Pool) (patient : s.Patient s.mainView c)
    (stepped : s.clientStep c = some t) : t.Pool := by
  have frame := clientStep_frame stepped
  have stage := pool.client_stage stepped
  obtain ⟨next, _, client⟩ := frame.client
  have others : ∀ d, d ≠ c → t.client d = s.client d := by
    intro d other
    rw [client, setPhase_client_of_ne other]
  have array : ∀ d n, d ≠ c → (s.client d).phase.preparing = some n →
      t.priv.cmdArray n = s.priv.cmdArray n := fun d n other preparing =>
    frame.array n (pool.held.prepared_untouched preparing other.symm)
  refine
    { held := pool.held.client patient stepped
      sized := fun d n queue => ?_
      dropped := fun d n unqueued => ?_
      kept := fun d n passing => ?_
      unowned := fun d n filled isCmd => ?_
      idle := fun choosing => ?_
      awaited := fun n => pool.client_awaited patient stepped
      accounted := ?_ }
  · by_cases mine : d = c
    · exact mine ▸ stage.sized n (mine ▸ queue)
    · rw [others d mine] at queue ⊢
      rw [array d n mine (by rw [queue]; rfl)]
      exact pool.sized d n queue
  · by_cases mine : d = c
    · exact mine ▸ stage.dropped n (mine ▸ unqueued)
    · rw [others d mine] at unqueued ⊢
      exact pool.dropped d n unqueued
  · by_cases mine : d = c
    · exact mine ▸ stage.kept n (mine ▸ passing)
    · rw [others d mine] at passing ⊢
      exact pool.kept d n passing
  · by_cases mine : d = c
    · exact stage.unowned n (mine ▸ filled) (mine ▸ isCmd)
    · rw [others d mine] at filled isCmd
      rw [array d n mine (Phase.preparing_of_filled filled)]
      exact pool.unowned d n filled isCmd
  · rw [frame.curCmd]
    exact pool.idle (frame.main ▸ choosing)
  · have kept : s.Dropping → t.Dropping := by
      rintro ⟨d, begun, isCmd, drops⟩
      refine ⟨d, (clientStep_onward stepped d).1 begun, ?_⟩
      rw [Lent.clientStep_req stepped d]
      exact ⟨isCmd, drops⟩
    rcases pool.accounted with dropping | all
    · exact .inl (kept dropping)
    by_cases keeps : (s.client c).phase.begun = true → (s.client c).req.isCmd = false →
        ¬ (s.client c).req.Drops
    · exact .inr fun n => pool.client_accounted keeps stepped (all n)
    · refine .inl (kept ?_)
      simp only [Classical.not_imp, Classical.not_not] at keeps
      obtain ⟨begun, isCmd, drops⟩ := keeps
      exact ⟨c, begun, isCmd, drops⟩

/-- Another party leaves the queues alone and moves no call on. -/
theorem bystander {action : Action} (pool : s.Pool) (held : t.Held) (aside : Aside action s t)
    (array : ∀ n, n ∉ s.priv.cmdpendingq → t.priv.cmdArray n = s.priv.cmdArray n)
    (async : ∀ n, (t.priv.cmdArray n).isAsync = (s.priv.cmdArray n).isAsync) : t.Pool := by
  have view : t.curView = s.curView := by
    unfold curView
    rw [aside.main, aside.current]
  have same : ∀ d, (t.client d).phase ≠ .start → (t.client d).phase = (s.client d).phase ∧
      (t.client d).req = (s.client d).req := by
    intro d started
    rcases aside.clients d with ⟨_, start⟩ | unchanged
    · exact absurd start started
    · exact unchanged
  have back : ∀ d, (s.client d).phase ≠ .idle → (t.client d).phase = (s.client d).phase ∧
      (t.client d).req = (s.client d).req := by
    intro d begun
    rcases aside.clients d with ⟨idle, _⟩ | unchanged
    · exact absurd idle begun
    · exact unchanged
  have awaits : ∀ d n, (s.client d).awaits n → (t.client d).awaits n := by
    rintro d n ⟨isCmd, awaiting⟩
    obtain ⟨phase, req⟩ := back d fun idle => by simp [idle, Phase.awaiting] at awaiting
    rw [Client.awaits]
    rw [phase, req]
    exact ⟨isCmd, awaiting⟩
  have elsewhere : ∀ d n, (s.client d).phase.preparing = some n →
      t.priv.cmdArray n = s.priv.cmdArray n := fun d n preparing =>
    array n (pool.held.prepared_elsewhere preparing).2.1
  refine
    { held := held
      sized := fun d n queue => ?_
      dropped := fun d n unqueued => ?_
      kept := fun d n passing => ?_
      unowned := fun d n filled isCmd => ?_
      idle := fun choosing => ?_
      awaited := fun n outstanding sync => ?_
      accounted := pool.accounted.imp (fun dropping => ?_) fun all n => ?_ }
  · obtain ⟨phase, req⟩ := same d (by rw [queue]; simp)
    rw [phase] at queue
    rw [req, elsewhere d n (by rw [queue]; rfl)]
    exact pool.sized d n queue
  · obtain ⟨phase, req⟩ := same d (by rw [unqueued]; simp)
    rw [req]
    exact pool.dropped d n (phase ▸ unqueued)
  · obtain ⟨phase, req⟩ := same d fun start => by simp [start, Phase.passing] at passing
    rw [req]
    exact pool.kept d n (phase ▸ passing)
  · obtain ⟨phase, req⟩ := same d fun start => by simp [start, Phase.filled] at filled
    rw [async n]
    exact pool.unowned d n (phase ▸ filled) (req ▸ isCmd)
  · rw [aside.current]
    exact pool.idle (aside.main ▸ choosing)
  · rw [async n] at sync
    rw [Outstanding, InHand] at outstanding
    rw [aside.pending, aside.current, aside.main] at outstanding
    obtain ⟨d, awaiting⟩ := pool.awaited n outstanding sync
    exact ⟨d, awaits d n awaiting⟩
  · obtain ⟨d, begun, isCmd, drops⟩ := dropping
    obtain ⟨phase, req⟩ := back d fun idle => by simp [idle, Phase.begun] at begun
    exact ⟨d, by rw [phase, req]; exact ⟨begun, isCmd, drops⟩⟩
  · rcases all n with free | pending | transit | current | ⟨d, holding⟩
    · exact .inl (aside.nothing.free n free)
    · exact .inr (.inl (aside.pending ▸ pending))
    · exact .inr (.inr (.inl (aside.main ▸ transit)))
    · exact .inr (.inr (.inr (.inl (view.trans current))))
    · refine .inr (.inr (.inr (.inr ⟨d, holding.imp (fun preparing => ?_) (awaits d n)⟩)))
      obtain ⟨phase, _⟩ := back d fun idle => by simp [idle, Phase.preparing] at preparing
      rw [phase]
      exact preparing

/-- Every step under which no node gets a second owner keeps the pool. -/
theorem step {action : Action} (pool : s.Pool) (safe : s.HeldSafe action)
    (stepped : s.step action = some t) : t.Pool := by
  have held := pool.held.step safe stepped
  by_cases client : ∃ c, action = .client c
  · obtain ⟨c, rfl⟩ := client
    rw [Sys.step] at stepped
    split at stepped
    · cases stepped
    · exact pool.client safe stepped
  by_cases main : ∃ success c, action = .main success c
  · obtain ⟨success, c, rfl⟩ := main
    rw [Sys.step] at stepped
    split at stepped
    · cases stepped
    · exact pool.main stepped
  have aside := step_aside stepped
    ⟨not_exists.mp client, fun success c same => main ⟨success, c, same⟩⟩
  by_cases stopped : action = .stopCard
  · subst stopped
    rw [Sys.step] at stepped
    split at stepped
    · cases stepped
    dsimp only at stepped
    split at stepped <;> cases stepped
    exact pool.bystander held aside (fun n missing => CommandState.flushPending_of_not_mem missing)
      fun n => CommandState.isAsync_flushPending
  · have array := aside.array stopped
    exact pool.bystander held aside (fun n _ => by rw [array]) fun n => by rw [array]

theorem init : Sys.init.Pool where
  held := .init
  sized := nofun
  dropped := nofun
  kept := nofun
  unowned := nofun
  idle := nofun
  awaited n outstanding := by
    rcases outstanding with (pending | transit | ⟨_, current⟩) | givingUp
    · cases pending
    · cases transit
    · cases current
    · cases givingUp
  accounted := .inr fun n => .inl (List.mem_finRange n)

/-- A call that has submitted its command or failed has dropped its node, or the node is pending or
free. -/
theorem submitted (pool : s.Pool) (building : (s.client c).phase.building = some n)
    (stepped : s.step (.client c) = some t) (ended : (t.client c).phase.building = none) :
    (n ∈ t.priv.cmdpendingq ∨ n ∈ t.priv.cmdfreeq) ↔ ¬ (s.client c).req.Drops := by
  obtain ⟨notFree, notPending, _⟩ :=
    pool.held.prepared_elsewhere (Phase.preparing_of_building building)
  have nowhere : ¬ (n ∈ s.priv.cmdpendingq ∨ n ∈ s.priv.cmdfreeq) :=
    fun there => there.elim notPending notFree
  unfold Sys.step at stepped
  split at stepped
  · cases stepped
  dsimp only at stepped
  cases phase : (s.client c).phase <;> rw [phase] at building <;>
    simp only [Phase.building, Option.some.injEq, reduceCtorEq] at building <;>
    simp only [Sys.clientStep, phase] at stepped
  case fill m =>
    cases stepped
    simp [Phase.building] at ended
  case stamp m =>
    split at stepped <;> cases stepped
    · simp [Phase.building] at ended
    · rename_i assembled
      exact iff_of_false nowhere fun kept => kept (.inl assembled)
    · simp [Phase.building] at ended
  case abort m =>
    subst building
    cases stepped
    refine iff_of_true (.inr ?_) (pool.kept c m (by rw [phase]; rfl))
    exact List.mem_append_right _ (List.mem_singleton_self m)
  case queue m =>
    split at stepped <;> cases stepped
    · rename_i zero
      obtain ⟨command, body, assembled⟩ := pool.sized c m phase
      rw [zero] at assembled
      exact iff_of_false nowhere fun kept => kept (.inr ⟨command, body, assembled⟩)
    · simp [Phase.building] at ended
  case insert m tail =>
    subst building
    cases stepped
    refine iff_of_true (.inl ?_) (pool.kept c m (by rw [phase]; rfl))
    exact CommandState.mem_insertPending.mpr (.inl rfl)

theorem of_reachable (reached : driver.ReachableUnder HeldSafe s) : s.Pool :=
  reached.invariant Pool (fun _ start => start ▸ .init)
    fun _ _ _ _ pool safe stepped => pool.step safe stepped

end Pool

end Accounted

end Sys

/-- Follow a call of `lbs_prepare_and_send_command` through any run of the driver in which no node
gets a second owner and nobody works on a queue in the middle of an unlocked list operation of the
main thread: at the step with which it has submitted its command or failed, the node it took is
pending or free again, except for `CMD_802_11_SET_AFC`, `CMD_802_11_GET_AFC`, and
`CMD_802_11_LED_GPIO_CTRL` with the one length that makes its size wrap to zero. Where no call of
these kinds was made, no node of the pool is lost. -/
theorem submission_keeps_node_iff {s : Linking}
    (reached : linking.ReachableUnder (Linking.Apart Sys.HeldSafe) s) :
    (∀ c n wait t, (s.sys.client c).req.kind = .prepareAndSend wait →
      (s.sys.client c).req.Built → (s.sys.client c).phase.building = some n →
      ¬ s.Meets (.client c) → linking.step s (.act (.client c)) = some t →
      (t.sys.client c).phase.building = none →
      ((n ∈ t.sys.priv.cmdpendingq ∨ n ∈ t.sys.priv.cmdfreeq) ↔
        ¬ (s.sys.client c).req.Leaks)) ∧
    ((∀ c, (s.sys.client c).phase.begun = true →
        (∀ wait, (s.sys.client c).req.kind = .prepareAndSend wait →
          (s.sys.client c).req.Built ∧ ¬ (s.sys.client c).req.Leaks) ∧
        ((s.sys.client c).req.kind = .cmdAsync → ¬ (s.sys.client c).req.Drops)) →
      ∀ n, s.sys.Accounted n) := by
  obtain ⟨whole, before⟩ := Linking.driver_reachable reached
  have pool := Sys.Pool.of_reachable before
  refine ⟨fun c n wait t kind built building apart acted ended => ?_, fun calls => ?_⟩
  · rw [← Request.drops_iff_leaks kind built]
    exact pool.submitted building (Linking.act_step whole apart acted).2 ended
  · rcases pool.accounted with ⟨c, begun, isCmd, drops⟩ | all
    · obtain ⟨prepared, async⟩ := calls c begun
      cases kind : (s.sys.client c).req.kind with
      | prepareAndSend wait =>
          obtain ⟨built, kept⟩ := prepared wait kind
          exact absurd ((Request.drops_iff_leaks kind built).mp drops) kept
      | cmd callback => simp [Request.isCmd, kind] at isCmd
      | cmdAsync => exact absurd drops (async kind)
    · exact all

/-- The call that has written its command queues it. -/
theorem submission_keeps_node_iff_tsf : (∃ s t,
    linking.ReachableUnder (Linking.Apart Sys.HeldSafe) s ∧
      (s.sys.client 0).phase.building = some 0 ∧
      linking.step s (.act (.client 0)) = some t ∧ (t.sys.client 0).phase.building = none ∧
      (0 ∈ t.sys.priv.cmdpendingq ∨ 0 ∈ t.sys.priv.cmdfreeq)) ∧
    ∀ n, Sys.init.Accounted n := by
  refine ⟨?_, (submission_keeps_node_iff (.initial rfl)).2 fun c begun => nomatch begun⟩
  obtain ⟨s, executed, req, building, apart, moves⟩ := Machine.exists_of_map
    (fun s : Linking => (s.sys.client 0).req = getTsfRequest ∧
      (s.sys.client 0).phase.building = some 0 ∧ ¬ s.Meets (.client 0) ∧
      ((linking.step s (.act (.client 0))).map fun t =>
        decide ((t.sys.client 0).phase.building = none)) = some true)
    (show (linking.runUnder (Linking.Apart Sys.HeldSafe) Linking.init
      ((getTsfQueued.take 7).map .act)).map _ = some true by decide +kernel)
  obtain ⟨t, stepped, ended⟩ := Machine.exists_of_map
    (fun t : Linking => (t.sys.client 0).phase.building = none) moves
  have reached : linking.ReachableUnder (Linking.Apart Sys.HeldSafe) s :=
    .run (.initial rfl) executed
  refine ⟨s, t, reached, building, stepped, ended, ?_⟩
  refine ((submission_keeps_node_iff reached).1 0 0 true t ?_ ?_ building apart stepped
    ended).mpr ?_
  · rw [req]
    rfl
  · rw [req]
    exact ⟨⟨true, none, true, 0, none, 0⟩, by decide⟩
  · rw [req]
    decide

/-- A call of `lbs_prepare_and_send_command` with `CMD_802_11_SET_AFC`. -/
def setAfcRequest : Request :=
  { kind := .prepareAndSend false, cmdNo := cmd80211SetAfc, cmdAction := 0, content := none
    buffer := some (List.replicate 6 0) }

/-- A call of the command function, alone, up to the end of the switch. -/
def setAfcCall (c : CallId) : List Action :=
  [.call c setAfcRequest] ++ List.replicate 4 (.client c)

/-- Ten such calls report success, and no node is left. -/
theorem afc_calls_drain_pool : ∃ s,
    driver.run Sys.init ((List.range 10).flatMap setAfcCall) = some s ∧ driver.Reachable s ∧
    (∀ c ∈ List.range 10, (s.client c).phase = .returned 0) ∧
    s.priv.cmdfreeq = [] ∧ s.priv.cmdpendingq = [] ∧ s.priv.curCmd = none := by
  obtain ⟨s, executed, drained⟩ := Machine.exists_of_map
    (fun s : Sys => (∀ c ∈ List.range 10, (s.client c).phase = .returned 0) ∧
      s.priv.cmdfreeq = [] ∧ s.priv.cmdpendingq = [] ∧ s.priv.curCmd = none)
    (show (driver.run Sys.init ((List.range 10).flatMap setAfcCall)).map _ = some true by
      decide +kernel)
  exact ⟨s, executed, Machine.reachable_of_run rfl executed, drained⟩

end Libertas
