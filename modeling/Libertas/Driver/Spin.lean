import Libertas.Driver.Iteration
import Libertas.Driver.Progress

/-!
# Iterations that change nothing

The decision to sleep at the top of `lbs_thread` and the tests in its body do not
agree. A staged packet keeps the thread awake in PRE_SLEEP, but the body sends it
only outside power save; a pending command keeps it awake, but a command that waits
for EXIT_PS stays where it is when there is no free node. In these states the
thread runs through its loop without changing anything.

`Footprint` collects what an iteration can use up or change. Alone, an iteration
that starts awake leaves another footprint behind unless its start `Spins`.
-/

namespace Libertas

/-- What an iteration can use up or change. -/
structure Footprint where
  cmdfreeq : List NodeId
  cmdpendingq : List NodeId
  curCmd : Option NodeId
  cmdTimedOut : Bool
  psstate : PsState
  respLen : Fin 2 → Nat
  eventFifo : List UInt32
  dnldSent : DnldState
  txPendingLen : Int

def Priv.footprint (priv : Priv) : Footprint where
  cmdfreeq := priv.cmdfreeq
  cmdpendingq := priv.cmdpendingq
  curCmd := priv.curCmd
  cmdTimedOut := priv.cmdTimedOut
  psstate := priv.psstate
  respLen := priv.respLen
  eventFifo := priv.eventFifo
  dnldSent := priv.dnldSent
  txPendingLen := priv.txPendingLen

/-- There is only a command to send, and it waits for an EXIT_PS command that cannot be queued. -/
structure Starving (priv : Priv) : Prop where
  awake : priv.psstate = .awake
  idle : priv.curCmd = none
  unstaged : priv.txPendingLen ≤ 0
  blocked : ∃ n rest, priv.cmdpendingq = n :: rest ∧ ¬ HeadMoves priv n

/-- A sleep request was received that is not confirmed now. -/
structure Unconfirmed (confirmed : Bool) (priv : Priv) : Prop where
  asked : priv.psstate = .preSleep
  refused : priv.curCmd ≠ none ∨ priv.connectStatus = .connected ∧ confirmed = false

/-- An iteration changes nothing. -/
structure Spins (confirmed : Bool) (priv : Priv) : Prop where
  quiet : Sys.Consumed priv.respIdx priv
  futile : Unconfirmed confirmed priv ∨ Starving priv

namespace Sys

/-- At the start of an iteration, nothing but the queue and staged packets is to be dealt with. -/
structure Clear (s : Sys) : Prop where
  running : s.bug = false
  stop : s.shouldStop = false
  present : s.priv.surpriseremoved = false
  loaded : s.priv.fwReady = true
  idle : s.priv.dnldSent = .resReceived
  quiet : Consumed s.priv.respIdx s.priv

section Ahead

variable {s t u : Sys} {confirmed : Bool}

/-- The next step of the main thread itself. -/
theorem Finishes.mainStep (finishes : Finishes confirmed s t) (away : s.main ≠ .top)
    (free : ∀ c next, s.main ≠ .calling c next) :
    ∃ success c u, (∀ site, s.main = .confirmSend site → success = confirmed) ∧
      s.mainStep success c = some u ∧ Finishes confirmed u t := by
  obtain ⟨action, u, mine, stepped, rest⟩ := finishes.next away
  have stepped : s.step action = some u := stepped
  unfold Sys.step at stepped
  split at stepped
  · cases stepped
  cases mine with
  | main success c outcome => exact ⟨success, c, u, outcome, stepped, rest⟩
  | call c next calling => exact absurd calling (free c next)

/-- The main thread has no choice. -/
theorem Finishes.follow (finishes : Finishes confirmed s t) (away : s.main ≠ .top)
    (free : ∀ c next, s.main ≠ .calling c next)
    (only : ∀ success c, (∀ site, s.main = .confirmSend site → success = confirmed) →
      s.mainStep success c = some u) : Finishes confirmed u t := by
  obtain ⟨success, c, v, outcome, moved, rest⟩ := finishes.mainStep away free
  cases (only success c outcome).symm.trans moved
  exact rest

/-- Up to the test for a delayed sleep confirmation, nothing happens. -/
theorem Clear.presleep (clear : s.Clear)
    (finishes : Finishes confirmed { s with main := .awake } t) :
    Finishes confirmed { s with main := .presleep } t := by
  have same : ({ s.priv with cmdTimedOut := false } : Priv) = s.priv := by
    rw [← clear.quiet.timer]
  have response : Finishes confirmed { s with main := .response } t := by
    refine finishes.follow (by simp) (by simp) fun _ _ _ => ?_
    simp [Sys.mainStep, clear.stop, clear.present]
  have timeout : Finishes confirmed { s with main := .timeout } t := by
    refine response.follow (by simp) (by simp) fun _ _ _ => ?_
    simp [Sys.mainStep, clear.quiet.response]
  have cleared : Finishes confirmed { s with main := .timeoutClear } t := by
    refine timeout.follow (by simp) (by simp) fun _ _ _ => ?_
    simp [Sys.mainStep, timeoutStep, clear.quiet.timer]
  have events : Finishes confirmed { s with main := .events } t := by
    refine cleared.follow (by simp) (by simp) fun _ _ _ => ?_
    simp [Sys.mainStep, same]
  have ready : Finishes confirmed { s with main := .ready } t := by
    refine events.follow (by simp) (by simp) fun _ _ _ => ?_
    simp [Sys.mainStep, clear.quiet.events]
  refine ready.follow (by simp) (by simp) fun _ _ _ => ?_
  simp [Sys.mainStep, clear.loaded]

/-- A call that the main thread waits for goes on. -/
theorem Finishes.calls {c : CallId} {next : Resume} (finishes : Finishes confirmed s t)
    (pc : s.main = .calling c next) (stepped : s.clientStep c = some u) :
    Finishes confirmed u t := by
  refine finishes.forced (by simp [AtTop, pc]) fun action v mine moved => ?_
  have moved : s.step action = some v := moved
  unfold Sys.step at moved
  split at moved
  · cases moved
  cases mine with
  | main success d _ =>
      simp only [Sys.mainStep, pc] at moved
      split at moved
      · rename_i returned
        simp [clientStep, returned] at stepped
      · cases moved
  | call d onward calling =>
      cases pc.symm.trans calling
      exact Option.some.inj (moved.symm.trans stepped)

/-- It returned. -/
theorem Finishes.resumes {c : CallId} {next : Resume} {ret : Int}
    (finishes : Finishes confirmed s t) (pc : s.main = .calling c next)
    (returned : (s.client c).phase = .returned ret) :
    Finishes confirmed { s with main := next.pc } t := by
  refine finishes.forced (by simp [AtTop, pc]) fun action v mine moved => ?_
  have moved : s.step action = some v := moved
  unfold Sys.step at moved
  split at moved
  · cases moved
  cases mine with
  | main success d _ =>
      simp only [Sys.mainStep, pc, returned] at moved
      cases moved
      rfl
  | call d onward calling =>
      cases pc.symm.trans calling
      simp [clientStep, returned] at moved

/-- What a call of the main thread behind the test for power save has done when it returned. -/
structure Queues (s u : Sys) : Prop where
  main : u.main = .tx
  priv : u.priv = { s.priv with toCommandState := u.priv.toCommandState }
  curCmd : u.priv.curCmd = s.priv.curCmd
  exhausted : s.priv.cmdfreeq = [] → u.priv = s.priv
  takes : u.priv.cmdfreeq = s.priv.cmdfreeq.tail

/-- The main thread calls `lbs_ps_wakeup` or `lbs_ps_sleep`. -/
theorem Finishes.queues {c : CallId} {req : Request} {action : UInt16}
    (finishes : Finishes confirmed (s.withCall c req .tx) t)
    (present : s.priv.surpriseremoved = false) (kind : req.kind = .prepareAndSend false)
    (ready : req.prepare = .ready cmd80211PsMode 18 (lbsCmd80211PsMode action)) :
    ∃ u, Queues s u ∧ Finishes confirmed u t := by
  have waits : req.waits = false := by rw [Request.waits, kind]
  have isCmd : req.isCmd = false := by rw [Request.isCmd, kind]
  have assemble : req.assemble = .ready cmd80211PsMode 18 (lbsCmd80211PsMode action) := by
    rw [Request.assemble, kind, ready]
  let s1 := (s.withCall c req .tx).setPhase c .alloc
  have alloc : Finishes confirmed s1 t := by
    apply finishes.calls rfl
    simp [s1, clientStep, withCall, present]
  cases free : s.priv.cmdfreeq with
  | nil =>
      let s2 := s1.setPhase c (.returned req.exhaustedRet)
      have returned : Finishes confirmed s2 t := by
        apply alloc.calls rfl
        simp [s1, s2, clientStep, withCall, CommandState.lbsGetCmdCtrlNode, free]
      have phase : (s2.client c).phase = .returned req.exhaustedRet := by simp [s2]
      refine ⟨_, ?_, returned.resumes rfl phase⟩
      exact ⟨rfl, rfl, rfl, fun _ => rfl, by simp [s1, s2, withCall, free]⟩
  | cons n rest =>
      let taken := { s.priv.toCommandState with cmdfreeq := rest }.modifyNode n
        fun node => { node with owner := c }
      let s2 := (s1.withCmd taken).setPhase c (.fill n)
      have fill : Finishes confirmed s2 t := by
        apply alloc.calls rfl
        simp [s1, s2, taken, clientStep, withCall, CommandState.lbsGetCmdCtrlNode, free]
      let s3 := (s2.withCmd (s2.priv.initNode n req.callback (req.pointer c))).setPhase c (.stamp n)
      have stamp : Finishes confirmed s3 t := by
        apply fill.calls rfl
        simp [s1, s2, s3, clientStep, withCall]
      let s4 := ((s3.withCmd (s3.priv.stampNode n cmd80211PsMode 18
        (lbsCmd80211PsMode action))).setPhase c (.queue n)).log (.issued c s3.priv.seqnum)
      have queue : Finishes confirmed s4 t := by
        apply stamp.calls rfl
        simp [s1, s2, s3, s4, clientStep, withCall, assemble]
      let s5 := (s4.withCmd (s4.priv.clearResult n)).setPhase c
        (.insert n (s4.priv.addtail n s4.priv.psstate))
      have insert : Finishes confirmed s5 t := by
        apply queue.calls rfl
        simp [s1, s2, s3, s4, s5, clientStep, withCall, CommandState.stampNode]
      let s6 := (s5.withCmd (s5.priv.insertPending n
        (s4.priv.addtail n s4.priv.psstate))).setPhase c (.finish n)
      have finish : Finishes confirmed s6 t := by
        apply insert.calls rfl
        simp [s1, s2, s3, s4, s5, s6, clientStep, withCall, waits, kind]
      let s7 := ((s6.withCmd s6.priv.takeRetcode.1).setPhase c
        (.returned s6.priv.takeRetcode.2)).log (.fetched c)
      have returned : Finishes confirmed s7 t := by
        apply finish.calls rfl
        simp [s1, s2, s3, s4, s5, s6, s7, clientStep, withCall, isCmd]
      have phase : (s7.client c).phase = .returned s6.priv.takeRetcode.2 := by simp [s7]
      have nodes : s7.priv.toNodeState = s6.priv.toNodeState := s6.priv.takeRetcode_nodes
      refine ⟨_, ?_, returned.resumes rfl phase⟩
      have curCmd : s7.priv.curCmd = s6.priv.curCmd := congrArg NodeState.curCmd nodes
      have cmdfreeq : s7.priv.cmdfreeq = s6.priv.cmdfreeq := congrArg NodeState.cmdfreeq nodes
      refine ⟨rfl, rfl, curCmd, fun none => ?_, ?_⟩
      · rw [none] at free
        cases free
      · rw [free]
        exact cmdfreeq

/-- What the last step of an iteration does. -/
structure Sends (u t : Sys) : Prop where
  cmd : t.priv.toCommandState = u.priv.toCommandState
  psstate : t.priv.psstate = u.priv.psstate
  sent : u.priv.dnldSent = .resReceived → u.priv.txPendingLen > 0 → t.priv.txPendingLen = 0
  unstaged : u.priv.txPendingLen ≤ 0 → t.priv = u.priv

theorem Finishes.sends (finishes : Finishes confirmed u t) (pc : u.main = .tx) : Sends u t := by
  obtain ⟨success, c, v, _, moved, rest⟩ :=
    finishes.mainStep (by rw [pc]; exact nofun) (by rw [pc]; exact nofun)
  simp only [Sys.mainStep, pc] at moved
  cases moved
  have top : (u.txStep success).AtTop := by
    rw [AtTop, txStep]
    split <;> rfl
  rw [rest.eq_of_home top]
  rw [txStep]
  split
  · rename_i ready
    exact ⟨rfl, rfl, fun _ _ => rfl, fun unstaged => by omega⟩
  · rename_i unready
    exact ⟨rfl, rfl, fun idle staged => absurd ⟨idle, staged⟩ unready, fun _ => rfl⟩

/-- There is something to send. -/
def Busy (priv : Priv) : Prop :=
  priv.txPendingLen > 0 ∨ (priv.curCmd = none ∧ priv.cmdpendingq ≠ [])

/-- How an iteration ends that got past the test for power save. -/
structure Executes (s t : Sys) : Prop where
  psstate : t.priv.psstate = s.priv.psstate
  change : (Starving s.priv ∧ t.priv = s.priv) ∨
    (¬ Starving s.priv ∧ t.priv.footprint ≠ s.priv.footprint)

/-- A packet is sent. -/
theorem Sends.executes (sends : Sends u t) (idle : u.priv.dnldSent = .resReceived)
    (psstate : u.priv.psstate = s.priv.psstate)
    (same : u.priv.txPendingLen = s.priv.txPendingLen) (staged : s.priv.txPendingLen > 0) :
    Executes s t := by
  refine ⟨sends.psstate.trans psstate, .inr ⟨fun starving => ?_, fun footprint => ?_⟩⟩
  · have := starving.unstaged
    omega
  · have := sends.sent idle (same ▸ staged)
    have : t.priv.txPendingLen = s.priv.txPendingLen := congrArg Footprint.txPendingLen footprint
    omega

/-- The head of the queue waits for an EXIT_PS command, which the main thread tries to queue. -/
theorem Finishes.wakes {n : NodeId} {rest : List NodeId} {c : CallId}
    (finishes : Finishes confirmed (s.withCall c psWakeupRequest .tx) t)
    (present : s.priv.surpriseremoved = false) (idle : s.priv.dnldSent = .resReceived)
    (current : s.priv.curCmd = none) (pending : s.priv.cmdpendingq = n :: rest)
    (action : headAction s.priv.psstate (s.priv.cmdArray n).cmdbuf = .wakeup) :
    Executes s t := by
  obtain ⟨u, queues, finishes⟩ := finishes.queues present rfl rfl
  have sends := finishes.sends queues.main
  have psstate : u.priv.psstate = s.priv.psstate := by rw [queues.priv]
  have staged : u.priv.txPendingLen = s.priv.txPendingLen := by rw [queues.priv]
  have idle' : u.priv.dnldSent = .resReceived := by rw [queues.priv]; exact idle
  by_cases more : s.priv.txPendingLen > 0
  · exact sends.executes idle' psstate staged more
  have unstaged : s.priv.txPendingLen ≤ 0 := by omega
  have kept : t.priv = u.priv := sends.unstaged (staged ▸ unstaged)
  refine ⟨sends.psstate.trans psstate, ?_⟩
  obtain ⟨awake, forbidden, other⟩ := waiting_of_wakeup action
  by_cases exhausted : s.priv.cmdfreeq = []
  · have stuck : ¬ HeadMoves s.priv n := by simp [HeadMoves, forbidden, other, exhausted]
    exact .inl ⟨⟨awake, current, unstaged, n, rest, pending, stuck⟩,
      kept.trans (queues.exhausted exhausted)⟩
  · refine .inr ⟨fun starving => ?_, fun footprint => ?_⟩
    · obtain ⟨m, others, same, stuck⟩ := starving.blocked
      cases pending.symm.trans same
      exact stuck (.inr (.inr ⟨present, exhausted⟩))
    · have same : u.priv.cmdfreeq = s.priv.cmdfreeq := by
        rw [← kept]
        exact congrArg Footprint.cmdfreeq footprint
      obtain ⟨m, others, free⟩ := List.exists_cons_of_ne_nil exhausted
      have shorter := queues.takes
      rw [same, free] at shorter
      simp at shorter

/-- A command left the head of the queue. -/
theorem Executes.of_moved {n : NodeId} {rest : List NodeId}
    (psstate : t.priv.psstate = s.priv.psstate) (pending : s.priv.cmdpendingq = n :: rest)
    (moves : headAction s.priv.psstate (s.priv.cmdArray n).cmdbuf ≠ .wakeup)
    (after : t.priv.cmdpendingq = rest) : Executes s t := by
  refine ⟨psstate, .inr ⟨fun starving => ?_, fun footprint => ?_⟩⟩
  · obtain ⟨m, others, same, stuck⟩ := starving.blocked
    cases pending.symm.trans same
    exact moves (headAction_of_stuck starving.awake stuck)
  · have same : t.priv.cmdpendingq = s.priv.cmdpendingq := congrArg Footprint.cmdpendingq footprint
    rw [after, pending] at same
    simp at same

/-- The main thread looks at the head of the queue. -/
theorem Finishes.head {n : NodeId} {rest : List NodeId}
    (finishes : Finishes confirmed { s with main := .head n } t)
    (present : s.priv.surpriseremoved = false) (idle : s.priv.dnldSent = .resReceived)
    (current : s.priv.curCmd = none) (awake : s.priv.psstate.asleep = false)
    (pending : s.priv.cmdpendingq = n :: rest) : Executes s t := by
  have unlinked : (s.priv.unlinkPending n).cmdpendingq = rest := by simp [pending]
  obtain ⟨success, c, u, _, moved, finishes⟩ := finishes.mainStep (by simp) (by simp)
  have moved : Sys.headStep { s with main := .head n } n c = some u := moved
  rw [headStep] at moved
  cases action : headAction s.priv.psstate (s.priv.cmdArray n).cmdbuf <;>
    simp only [action] at moved
  case refuse => exact absurd action (headAction_of_awake awake).1
  case markWakeup => exact absurd action (headAction_of_awake awake).2
  case wakeup =>
    obtain ⟨_, rfl⟩ := beginCall_eq_some moved
    exact Finishes.wakes finishes present idle current pending action
  case ignore wake =>
    cases moved
    have tx : Finishes confirmed _ t := finishes.follow (by simp) (by simp) fun _ _ _ => rfl
    have sends := tx.sends rfl
    refine .of_moved sends.psstate pending (by rw [action]; simp) ?_
    rw [sends.cmd]
    exact CommandState.lbsCompleteCommand_cmdpendingq.trans unlinked
  case submit =>
    cases moved
    have send : Finishes confirmed _ t := finishes.follow (by simp) (by simp) fun _ _ _ => rfl
    obtain ⟨success', c', v, _, moved', finishes'⟩ := send.mainStep (by simp) (by simp)
    cases moved'
    have sends := finishes'.sends rfl
    refine .of_moved (sends.psstate.trans ?_) pending (by rw [action]; simp) ?_
    · cases success' <;> rfl
    · rw [sends.cmd]
      cases success' <;> exact unlinked

/-- The main thread gets past the test for power save. -/
theorem Finishes.executes (finishes : Finishes confirmed { s with main := .execute } t)
    (present : s.priv.surpriseremoved = false) (idle : s.priv.dnldSent = .resReceived)
    (awake : s.priv.psstate.asleep = false) (busy : Busy s.priv) : Executes s t := by
  by_cases current : s.priv.curCmd = none
  · cases pending : s.priv.cmdpendingq with
    | cons n rest =>
        have head : Finishes confirmed { s with main := .head n } t := by
          refine finishes.follow (by simp) (by simp) fun _ _ _ => ?_
          simp [Sys.mainStep, idle, current, pending]
        exact head.head present idle current awake pending
    | nil =>
        have staged : s.priv.txPendingLen > 0 := by
          refine busy.resolve_right fun queued => ?_
          exact queued.2 pending
        have goSleep : Finishes confirmed { s with main := .goSleep } t := by
          refine finishes.follow (by simp) (by simp) fun _ _ _ => ?_
          simp [Sys.mainStep, idle, current, pending]
        obtain ⟨success, c, u, _, moved, finishes⟩ := goSleep.mainStep (by simp) (by simp)
        simp only [Sys.mainStep] at moved
        split at moved
        · obtain ⟨_, rfl⟩ := beginCall_eq_some moved
          obtain ⟨u, queues, finishes⟩ := Finishes.queues (s := s) finishes present rfl rfl
          have sends := finishes.sends queues.main
          refine sends.executes ?_ ?_ ?_ staged
          · rw [queues.priv]; exact idle
          · rw [queues.priv]
          · rw [queues.priv]
        · cases moved
          exact (finishes.sends rfl).executes idle rfl rfl staged
  · have staged : s.priv.txPendingLen > 0 := busy.resolve_right fun queued => current queued.1
    have tx : Finishes confirmed { s with main := .tx } t := by
      refine finishes.follow (by simp) (by simp) fun _ _ _ => ?_
      simp [Sys.mainStep, current]
    exact (tx.sends rfl).executes idle rfl rfl staged

/-- The main thread gets back to the top of its loop because of power save. -/
theorem Finishes.blocked (finishes : Finishes confirmed s t) (pc : s.main = .blocked)
    (asleep : s.priv.psstate.asleep = true) : t.priv = s.priv := by
  have top : Finishes confirmed { s with main := .top } t := by
    refine finishes.follow (by rw [pc]; exact nofun) (by rw [pc]; exact nofun) fun _ _ _ => ?_
    simp [Sys.mainStep, pc, asleep]
  rw [top.eq_of_home rfl]

theorem Finishes.unblocked (finishes : Finishes confirmed s t) (pc : s.main = .blocked)
    (awake : s.priv.psstate.asleep = false) : Finishes confirmed { s with main := .execute } t := by
  refine finishes.follow (by rw [pc]; exact nofun) (by rw [pc]; exact nofun) fun _ _ _ => ?_
  simp [Sys.mainStep, pc, awake]

/-- With a link and no command in flight, the main thread confirms a sleep request. -/
theorem Finishes.confirms (finishes : Finishes confirmed { s with main := .presleep } t)
    (clear : s.Clear) (asked : s.priv.psstate = .preSleep) (current : s.priv.curCmd = none)
    (linked : s.priv.connectStatus = .connected) :
    if confirmed then t.priv.psstate = .sleep else t.priv = s.priv := by
  have confirm : Finishes confirmed { s with main := .confirm .presleep } t := by
    refine finishes.follow (by simp) (by simp) fun _ _ _ => ?_
    simp [Sys.mainStep, asked, clear.idle, current, linked]
  have send : Finishes confirmed { s with main := .confirmSend .presleep } t := by
    refine confirm.follow (by simp) (by simp) fun _ _ _ => ?_
    simp [Sys.mainStep, clear.idle, current, clear.quiet.events, clear.quiet.response]
  obtain ⟨success, c, u, outcome, moved, finishes⟩ := send.mainStep (by simp) (by simp)
  obtain rfl := outcome .presleep rfl
  cases moved
  cases success with
  | true =>
      obtain ⟨success, c, v, _, moved, finishes⟩ := finishes.mainStep (by simp) (by simp)
      cases moved
      have idle : s.priv.eventFifo = [] ∧ s.priv.respLen s.priv.respIdx = 0 :=
        ⟨clear.quiet.events, clear.quiet.response⟩
      have sleeps : (if s.priv.eventFifo = [] ∧ s.priv.respLen s.priv.respIdx = 0 then PsState.sleep
          else s.priv.psstate) = .sleep := if_pos idle
      have kept := finishes.blocked rfl (congrArg PsState.asleep sleeps)
      exact (congrArg (fun priv : Priv => priv.psstate) kept).trans sleeps
  | false =>
      have asleep : s.priv.psstate.asleep = true := by rw [asked]; rfl
      exact finishes.blocked rfl asleep

/-- An iteration changes nothing or leaves another footprint, and which of the two is known
beforehand. -/
def Decided (confirmed : Bool) (s t : Sys) : Prop :=
  (Spins confirmed s.priv ∧ t.priv = s.priv) ∨
    (¬ Spins confirmed s.priv ∧ t.priv.footprint ≠ s.priv.footprint)

theorem Decided.of_psstate (unasked : ¬ Unconfirmed confirmed s.priv)
    (saving : s.priv.psstate ≠ .awake) (other : t.priv.psstate ≠ s.priv.psstate) :
    Decided confirmed s t := by
  refine .inr ⟨fun spins => ?_, fun footprint => ?_⟩
  · rcases spins.futile with unconfirmed | starving
    · exact unasked unconfirmed
    · exact saving starving.awake
  · exact other (congrArg Footprint.psstate footprint)

/-- From the test for a delayed sleep confirmation on. -/
theorem Finishes.decided (finishes : Finishes confirmed { s with main := .presleep } t)
    (clear : s.Clear) (busy : Busy s.priv) (wakeful : s.priv.psstate ≠ .sleep) :
    Decided confirmed s t := by
  by_cases asked : s.priv.psstate = .preSleep
  · have saving : s.priv.psstate ≠ .awake := by rw [asked]; simp
    by_cases current : s.priv.curCmd = none
    · by_cases linked : s.priv.connectStatus = .connected
      · have confirms := finishes.confirms clear asked current linked
        cases confirmed with
        | true =>
            refine .of_psstate (fun unconfirmed => ?_) saving ?_
            · simpa [current] using unconfirmed.refused
            · have slept : t.priv.psstate = .sleep := confirms
              rw [slept, asked]
              simp
        | false => exact .inl ⟨⟨clear.quiet, .inl ⟨asked, .inr ⟨linked, rfl⟩⟩⟩, confirms⟩
      · let roused : Sys := { s with priv := { s.priv with psstate := .awake } }
        have blocked : Finishes confirmed { roused with main := .blocked } t := by
          refine finishes.follow (by simp) (by simp) fun _ _ _ => ?_
          simp [roused, Sys.mainStep, asked, clear.idle, current, linked]
        have executes := (blocked.unblocked rfl rfl).executes clear.present clear.idle rfl busy
        refine .of_psstate (fun unconfirmed => ?_) saving ?_
        · simpa [current, linked] using unconfirmed.refused
        · rw [executes.psstate, asked]
          simp
    · have blocked : Finishes confirmed { s with main := .blocked } t := by
        refine finishes.follow (by simp) (by simp) fun _ _ _ => ?_
        simp [Sys.mainStep, current]
      have asleep : s.priv.psstate.asleep = true := by rw [asked]; rfl
      exact .inl ⟨⟨clear.quiet, .inl ⟨asked, .inl current⟩⟩, blocked.blocked rfl asleep⟩
  · have awake : s.priv.psstate.asleep = false := by
      cases psstate : s.priv.psstate with
      | fullPower | awake => rfl
      | preSleep => exact absurd psstate asked
      | sleep => exact absurd psstate wakeful
    have blocked : Finishes confirmed { s with main := .blocked } t := by
      refine finishes.follow (by simp) (by simp) fun _ _ _ => ?_
      simp [Sys.mainStep, asked]
    have executes := (blocked.unblocked rfl awake).executes clear.present clear.idle awake busy
    rcases executes.change with ⟨starving, same⟩ | ⟨sated, other⟩
    · exact .inl ⟨⟨clear.quiet, .inr starving⟩, same⟩
    · refine .inr ⟨fun spins => ?_, other⟩
      rcases spins.futile with unconfirmed | starving
      · exact asked unconfirmed.asked
      · exact sated starving

theorem Decides.present (decides : s.Decides) :
    s.priv.surpriseremoved = false ∧ s.priv.psstate ≠ .sleep := by
  have wakeful := decides.wakeful
  rw [shouldSleep] at wakeful
  rw [if_neg (Bool.eq_false_iff.mp decides.stop)] at wakeful
  have present : ¬s.priv.surpriseremoved = true := by
    intro removed
    rw [if_pos removed] at wakeful
    cases wakeful
  rw [if_neg present] at wakeful
  refine ⟨Bool.eq_false_iff.mpr present, ?_⟩
  intro asleep
  rw [if_pos asleep] at wakeful
  cases wakeful

/-- Without a timeout, a response or an event, a packet or a command keeps the main thread
awake. -/
theorem Decides.clear (decides : s.Decides) (quiet : Consumed s.priv.respIdx s.priv) :
    s.Clear ∧ Busy s.priv := by
  obtain ⟨present, roused⟩ := decides.present
  have wakeful := decides.wakeful
  simp only [shouldSleep, decides.stop, present, roused, quiet.timer, quiet.response, quiet.events,
    Bool.false_eq_true, ↓reduceIte, ne_eq, not_true_eq_false] at wakeful
  split at wakeful
  · cases wakeful
  rename_i loaded
  split at wakeful
  · cases wakeful
  rename_i idle
  refine ⟨⟨decides.running, decides.stop, present, by simpa using loaded, by simpa using idle,
    quiet⟩, ?_⟩
  split at wakeful
  · rename_i staged
    exact .inl staged
  split at wakeful
  · cases wakeful
  rename_i current
  split at wakeful
  · rename_i pending
    exact .inr ⟨by simpa using current, pending⟩
  · cases wakeful

/-- An iteration that does not sleep starts its body. -/
theorem Decides.iterates (decides : s.Decides) :
    Iterates confirmed s t ↔ Finishes confirmed { s with main := .awake } t := by
  have moved : ∀ success c, s.step (.main success c) = some { s with main := .awake } := by
    intro success c
    simp [step, decides.running, Sys.mainStep, decides.top, decides.wakeful]
  constructor
  · rintro ⟨action, u, mine, stepped, finishes⟩
    cases mine with
    | main success c _ =>
        cases (moved success c).symm.trans stepped
        exact finishes
    | call c next calling =>
        rw [decides.top] at calling
        cases calling
  · intro finishes
    refine ⟨.main confirmed 0, _, .main _ _ fun _ _ => rfl, moved confirmed 0, finishes⟩

/-- An iteration that does not sleep changes nothing exactly when its start says so. -/
theorem Iterates.decided (iterates : Iterates confirmed s t) (decides : s.Decides) :
    Decided confirmed s t := by
  have finishes := decides.iterates.mp iterates
  obtain ⟨present, roused⟩ := decides.present
  by_cases quiet : Consumed s.priv.respIdx s.priv
  · obtain ⟨clear, busy⟩ := decides.clear quiet
    exact (clear.presleep finishes).decided clear busy roused
  · have response : Finishes confirmed { s with main := .response } t := by
      refine finishes.follow nofun nofun fun _ _ _ => ?_
      simp [Sys.mainStep, decides.stop, present]
    have consumed : Consumed s.priv.respIdx t.priv := response.consumed rfl
    refine .inr ⟨fun spins => quiet spins.quiet, fun footprint => quiet ?_⟩
    have len : t.priv.respLen = s.priv.respLen := congrArg Footprint.respLen footprint
    have timer : t.priv.cmdTimedOut = s.priv.cmdTimedOut := congrArg Footprint.cmdTimedOut footprint
    have fifo : t.priv.eventFifo = s.priv.eventFifo := congrArg Footprint.eventFifo footprint
    exact ⟨len ▸ consumed.response, timer ▸ consumed.timer, fifo ▸ consumed.events⟩

/-- Every iteration that does not sleep comes to its end. -/
theorem Decides.exists_iteration (decides : s.Decides) (reached : driver.Reachable s)
    (confirmed : Bool) : ∃ t, Iterates confirmed s t := by
  have left : s.NamesLeft := .of_reachable reached
  have going : Going { s with main := .awake } :=
    ⟨decides.running, decides.stop, nofun, nofun, left⟩
  obtain ⟨t, finishes⟩ := exists_finish confirmed going
  exact ⟨t, decides.iterates.mpr finishes⟩

end Ahead

end Sys

/-- Every iteration of the main thread that does not sleep ends. It ends with another queue, power
state, download state or command in flight, or with a timeout, response, event or packet used up,
exactly when its start does not spin. -/
theorem iteration_progresses_iff (confirmed : Bool) (s : Sys) (reached : driver.Reachable s)
    (decides : s.Decides) :
    (∃ t, Sys.Iterates confirmed s t) ∧
      ((∀ t, Sys.Iterates confirmed s t → t.priv.footprint ≠ s.priv.footprint) ↔
        ¬ Spins confirmed s.priv) := by
  obtain ⟨t, iterates⟩ := decides.exists_iteration reached confirmed
  refine ⟨⟨t, iterates⟩, fun progress spins => ?_, fun sated u iterates' => ?_⟩
  · rcases iterates.decided decides with ⟨_, same⟩ | ⟨sated, _⟩
    · exact progress t iterates (by rw [same])
    · exact sated spins
  · rcases iterates'.decided decides with ⟨spins, _⟩ | ⟨_, other⟩
    · exact absurd spins sated
    · exact other

theorem iteration_progresses_packet : ∃ s, driver.Reachable s ∧ s.priv.txPendingLen = 100 ∧
    (∃ t, Sys.Iterates true s t) ∧
      ((∀ t, Sys.Iterates true s t → t.priv.footprint ≠ s.priv.footprint) ↔
        ¬ Spins true s.priv) := by
  obtain ⟨s, executed, staged, top, running, stop, wakeful⟩ := Machine.exists_of_map
    (fun s : Sys => s.priv.txPendingLen = 100 ∧ s.main = .top ∧ s.bug = false ∧
      s.shouldStop = false ∧ s.shouldSleep = false)
    (show (driver.run Sys.init [.setFwReady, .transmit 100 false]).map _ = some true by
      decide +kernel)
  have reached : driver.Reachable s := Machine.reachable_of_run rfl executed
  exact ⟨s, reached, staged, iteration_progresses_iff true s reached ⟨top, running, stop, wakeful⟩⟩

/-- The reply to ENTER_PS comes without a link, so the main thread queues EXIT_PS and sends it. The
card asks to sleep before it answers, and a packet is staged. -/
def sleepRequestRun : List Action :=
  enterPsInFlight ++ [.hostToCardDone, .deliver enterPsReply] ++
    List.replicate 4 (.main true 200) ++ List.replicate 7 (.client 200) ++
    List.replicate 14 (.main true 201) ++
    [.hostToCardDone, .queueEvent macregIntCodePsSleep, .transmit 100 false] ++
    List.replicate 12 (.main true 201)

/-- The packet keeps the main thread awake, and power save keeps it from sending it. -/
theorem main_thread_spins : ∃ s t, driver.Reachable s ∧ s.Decides ∧ s.priv.psstate = .preSleep ∧
    s.priv.curCmd = some 1 ∧ s.priv.txPendingLen = 100 ∧ Sys.Iterates true s t ∧
    t.priv = s.priv := by
  obtain ⟨s, executed, ⟨top, running, stop, wakeful⟩, asked, current, staged, empty, timer,
      events⟩ := Machine.exists_of_map
      (fun s : Sys => (s.main = .top ∧ s.bug = false ∧ s.shouldStop = false ∧
        s.shouldSleep = false) ∧ s.priv.psstate = .preSleep ∧ s.priv.curCmd = some 1 ∧
        s.priv.txPendingLen = 100 ∧ s.priv.respLen s.priv.respIdx = 0 ∧
        s.priv.cmdTimedOut = false ∧ s.priv.eventFifo = [])
      (show (driver.run Sys.init sleepRequestRun).map _ = some true by decide +kernel)
  have reached : driver.Reachable s := Machine.reachable_of_run rfl executed
  have decides : s.Decides := ⟨top, running, stop, wakeful⟩
  have refused : s.priv.curCmd ≠ none := by rw [current]; exact nofun
  have spins : Spins true s.priv := ⟨⟨empty, timer, events⟩, .inl ⟨asked, .inl refused⟩⟩
  obtain ⟨t, iterates⟩ := decides.exists_iteration reached true
  refine ⟨s, t, reached, decides, asked, current, staged, iterates, ?_⟩
  rcases iterates.decided decides with ⟨_, same⟩ | ⟨sated, _⟩
  · exact same
  · exact absurd spins sated

end Libertas
