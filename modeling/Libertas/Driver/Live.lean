import Libertas.Driver.Ownership

/-!
# Calls whose commands are under way

A command is in hand while it is pending, between two queues, or in flight and
not being given up. The call that owns its node is then still waiting for it,
if it waits at all. This holds under a weaker condition than exclusive ownership:
in the last step of the unlocked completion `cur_cmd` is only cleared, so that a
node which is freed and taken again by then does no harm.
-/

namespace Libertas

namespace Sys

/-- `cur_cmd`, as long as the main thread may still use it. -/
def curView (s : Sys) : Option NodeId :=
  match s.main with
  | .giveUpDrop _ => none
  | _ => s.priv.curCmd

/-- The control point of the main thread, when the last step of giving up counts as done. -/
def mainView (s : Sys) : MainPc :=
  match s.main with
  | .giveUpDrop _ => .timeoutClear
  | pc => pc

/-- The ownership invariant, when the last step of giving up counts as done. -/
def Held (s : Sys) : Prop :=
  s.OwnedAs s.curView s.mainView

/-- The steps under which results reach their calls. A caller of `__lbs_cmd` does not stop waiting
for a command that was not completed, and does not free its node after the main thread has woken
it and before the main thread has looked at the callback of the node. `lbs_stop_card` does not
run. -/
def ResultsSafe (s : Sys) : Action → Prop
  | .client c =>
      s.Patient s.mainView c ∧
        ((s.client c).req.isCmd = true → ∀ n, (s.client c).phase = .unqueued n →
          (s.priv.cmdArray n).cmdwaitqwoken = true)
  | .stopCard => False
  | _ => True

section Views

variable {s t : Sys} {c : CallId} {n : NodeId}

theorem mainView_of_ne (elsewhere : ∀ n, s.main ≠ .giveUpDrop n) : s.mainView = s.main := by
  rw [mainView]
  split
  · rename_i n pc
    exact absurd pc (elsewhere n)
  · rfl

theorem curView_of_ne (elsewhere : ∀ n, s.main ≠ .giveUpDrop n) : s.curView = s.priv.curCmd := by
  rw [curView]
  split
  · rename_i n pc
    exact absurd pc (elsewhere n)
  · rfl

theorem mainView_transit : s.mainView.transit = s.main.transit := by
  rw [mainView]
  split
  · rename_i n pc
    rw [pc]
    rfl
  · rfl

theorem not_giveUpDrop (kept : s.main.givingUp = none) : ∀ n, s.main ≠ .giveUpDrop n := by
  intro n pc
  rw [pc] at kept
  cases kept

theorem Held.of_settled (settled : s.Settled) : s.Held := by
  have elsewhere := not_giveUpDrop settled.kept
  rw [Held]
  rw [mainView_of_ne elsewhere, curView_of_ne elsewhere]
  exact settled.owned

theorem Held.settled (held : s.Held) (kept : s.main.givingUp = none) : s.Settled := by
  have elsewhere := not_giveUpDrop kept
  rw [Held] at held
  rw [mainView_of_ne elsewhere, curView_of_ne elsewhere] at held
  exact ⟨held, kept⟩

/-- Another party changes nothing that matters here. -/
theorem Held.bystander (held : s.Held) (nodes : t.priv.toNodeState = s.priv.toNodeState)
    (main : t.main = s.main) (client : t.client = s.client) : t.Held := by
  have current : t.priv.curCmd = s.priv.curCmd := congrArg NodeState.curCmd nodes
  have views : t.curView = s.curView ∧ t.mainView = s.mainView := by
    rw [curView, mainView]
    rw [main, current]
    exact ⟨rfl, rfl⟩
  rw [Held]
  rw [views.1, views.2]
  exact OwnedAs.bystander held nodes client

theorem Held.client (held : s.Held) (patient : s.Patient s.mainView c)
    (stepped : s.clientStep c = some t) : t.Held := by
  have frame := clientStep_frame stepped
  have views : t.curView = s.curView ∧ t.mainView = s.mainView := by
    rw [curView, mainView]
    rw [frame.main, frame.curCmd]
    exact ⟨rfl, rfl⟩
  rw [Held]
  rw [views.1, views.2]
  exact OwnedAs.clientStep held patient stepped

/-- Giving up a command, the main thread releases or keeps its node. -/
theorem Held.giveUpFree {success : Bool} (held : s.Held) (pc : s.main = .giveUpFree n)
    (moved : s.mainStep success c = some t) : t.Held := by
  have elsewhere : ∀ m, s.main ≠ .giveUpDrop m := by simp [pc]
  have owned := held
  rw [Held] at owned
  rw [mainView_of_ne elsewhere, curView_of_ne elsewhere] at owned
  have current : s.priv.curCmd = some n := owned.givingUp n (by rw [pc]; rfl)
  simp only [Sys.mainStep, pc] at moved
  cases moved
  show Ownership ((s.priv.releaseAsync n).toNodeState.holding none) .timeoutClear s.client
  cases async : (s.priv.cmdArray n).isAsync with
  | false =>
      rw [CommandState.releaseAsync_of_sync async]
      exact Ownership.drop owned ⟨rfl, rfl, rfl⟩
  | true =>
      rw [CommandState.releaseAsync_of_async async]
      exact Ownership.release owned (.inl current) async
        (fun m other => CommandState.lbsCleanupAndInsertCmd_of_ne other) rfl rfl rfl
        ⟨rfl, rfl, rfl⟩

theorem Held.main {success : Bool} (held : s.Held) (moved : s.mainStep success c = some t) :
    t.Held := by
  cases givingUp : s.main.givingUp with
  | none =>
      have settled := held.settled givingUp
      by_cases spent : ∃ n, s.Spent n
      · obtain ⟨n, pc, timedOut, retries, current⟩ := spent
        simp only [Sys.mainStep, pc, timeoutStep, timedOut, current, if_pos retries] at moved
        cases moved
        exact Ownership.giveUp settled.owned current
      · exact .of_settled (settled.mainStep (not_exists.mp spent) moved)
  | some n =>
      cases pc : s.main <;> simp only [pc, MainPc.givingUp, reduceCtorEq] at givingUp
      case giveUpFree m => exact held.giveUpFree pc moved
      case giveUpDrop m =>
        rw [Held, curView, mainView] at held
        rw [pc] at held
        simp only [Sys.mainStep, pc] at moved
        cases moved
        exact held

/-- The steps under which no node gets a second owner that could do harm. -/
def HeldSafe (s : Sys) : Action → Prop
  | .client c => s.Patient s.mainView c
  | .stopCard => ∀ n ∈ s.priv.cmdpendingq, (s.priv.cmdArray n).isAsync = true
  | _ => True

theorem Held.step {action : Action} (held : s.Held) (safe : s.HeldSafe action)
    (stepped : s.step action = some t) : t.Held := by
  unfold Sys.step at stepped
  split at stepped
  · cases stepped
  cases action with
  | call c req =>
      dsimp only at stepped
      split at stepped <;> cases stepped
      exact Ownership.withClient (c := c) held (by simp +contextual) (by simp [Phase.preparing])
        (by simp [Client.Fits])
  | client c => exact held.client safe stepped
  | signal c =>
      cases stepped
      apply Ownership.withClient (c := c) held (by simp +contextual) (by simp)
      dsimp only
      rw [if_pos rfl]
      exact held.fits c
  | main success c => exact held.main stepped
  | deliver data =>
      cases stepped
      rw [deliverStep]
      split
      · exact held
      · dsimp only
        split <;> exact held.bystander rfl rfl rfl
  | stopCard =>
      dsimp only at stepped
      split at stepped <;> cases stepped
      exact OwnedAs.flush held safe rfl rfl
  | timerExpire | commandTimerFn =>
      dsimp only at stepped
      split at stepped <;> cases stepped
      exact held.bystander rfl rfl rfl
  | queueEvent _ | hostToCardDone | remove | kthreadStop | setFwReady | configure _
    | transmit _ _ =>
      cases stepped
      exact held.bystander rfl rfl rfl

/-- The steps under which the call that owns a command under way still waits for it, if it frees
the node. -/
def LiveSafe (s : Sys) : Action → Prop
  | .client c => s.Patient s.mainView c
  | .stopCard => False
  | _ => True

theorem ResultsSafe.live {action : Action} (safe : s.ResultsSafe action) : s.LiveSafe action := by
  cases action with
  | client c => exact safe.1
  | stopCard => exact safe.elim
  | _ => trivial

theorem LiveSafe.held {action : Action} (safe : s.LiveSafe action) : s.HeldSafe action := by
  cases action with
  | client c => exact safe
  | stopCard => exact safe.elim
  | _ => trivial

theorem Held.init : Sys.init.Held :=
  .of_settled ⟨Owned.init.owned, rfl⟩

end Views

/-- The command of the node is under way. -/
def InHand (s : Sys) (n : NodeId) : Prop :=
  n ∈ s.priv.cmdpendingq ∨ s.main.transit = some n ∨
    (s.main.givingUp = none ∧ s.priv.curCmd = some n)

/-- The call that owns the node has begun, and waits for the node if it frees it. -/
def Waited (s : Sys) (n : NodeId) : Prop :=
  (s.client (s.owner n)).phase ≠ .idle ∧
    ((s.client (s.owner n)).req.isCmd = true →
      (s.client (s.owner n)).phase = .wait n ∧ (s.priv.cmdArray n).cmdwaitqwoken = false)

/-- The argument of a node is the buffer of the call that owns it, and a free node has none. -/
def Tagged (nodes : NodeState) : Prop :=
  ∀ n p, (nodes.cmdArray n).callbackArg = some p →
    p = (nodes.cmdArray n).owner ∧ n ∉ nodes.cmdfreeq

theorem Tagged.update {nodes nodes' : NodeState} {n : NodeId} (tagged : Tagged nodes)
    (update : NodeUpdate n nodes nodes')
    (here : ∀ p, (nodes'.cmdArray n).callbackArg = some p →
      p = (nodes'.cmdArray n).owner ∧ n ∉ nodes'.cmdfreeq) : Tagged nodes' := by
  intro m p arg
  by_cases same : m = n
  · subst same
    exact here p arg
  · rw [update.others m same] at arg ⊢
    rw [update.free m same]
    exact tagged m p arg

/-- Every command under way is waited for, and the buffer behind a node is that of its owner. -/
structure Live (s : Sys) : Prop where
  held : s.Held
  waited : ∀ n, s.InHand n → s.Waited n
  tagged : Tagged s.priv.toNodeState

section InHand

variable {s t : Sys} {c : CallId} {n : NodeId}

/-- A command under way is not in a call's hands, nor in those of a caller that frees its node. -/
theorem Held.untouched (held : s.Held) (inHand : s.InHand n) (c : CallId) : ¬ s.Touches c n := by
  have apart : n ∉ s.priv.cmdfreeq ∧ (s.client c).phase.preparing ≠ some n ∧
      ((s.client c).req.isCmd = true → (s.client c).phase ≠ .finish n) := by
    have finished : (s.client c).req.isCmd = true → (s.client c).phase = .finish n →
        Detached (s.priv.toNodeState.holding s.curView) s.mainView n := by
      intro isCmd finish
      have fits := held.fits c
      simp only [Client.Fits, finish] at fits
      exact (fits isCmd).2.2.2
    rcases inHand with pending | transit | ⟨kept, current⟩
    · refine ⟨fun free => ?_, fun prepared => ?_, fun isCmd finish => ?_⟩
      · exact (held.free_elsewhere free).1 pending
      · exact (held.prepared_elsewhere prepared).2.1 pending
      · exact (finished isCmd finish).pending pending
    · have moving : s.mainView.transit = some n := mainView_transit.trans transit
      obtain ⟨notFree, _, notPrepared⟩ := held.held_elsewhere (.inr moving)
      refine ⟨notFree, notPrepared c, fun isCmd finish => ?_⟩
      exact (finished isCmd finish).transit moving
    · have owned := (held.settled kept).owned
      obtain ⟨notFree, _, notPrepared⟩ := owned.held_elsewhere (.inl current)
      refine ⟨notFree, notPrepared c, fun isCmd finish => ?_⟩
      have detached := finished isCmd finish
      have elsewhere := not_giveUpDrop kept
      rw [mainView_of_ne elsewhere, curView_of_ne elsewhere] at detached
      have givingUp := detached.current current
      rw [kept] at givingUp
      cases givingUp
  rintro (prepared | free | ⟨isCmd, finish⟩)
  · exact apart.2.1 prepared
  · exact apart.1 free
  · exact apart.2.2 isCmd finish

/-- The main thread lets a node go. Its owner is remembered, and its argument is kept only if the
node is not freed. -/
structure LetGo (n : NodeId) (nodes nodes' : NodeState) : Prop where
  others : ∀ m, m ≠ n → nodes'.cmdArray m = nodes.cmdArray m
  owner : (nodes'.cmdArray n).owner = (nodes.cmdArray n).owner
  arg : ∀ p, (nodes'.cmdArray n).callbackArg = some p →
    (nodes.cmdArray n).callbackArg = some p ∧ (n ∈ nodes'.cmdfreeq → n ∈ nodes.cmdfreeq)
  free : ∀ m, m ≠ n → m ∈ nodes'.cmdfreeq → m ∈ nodes.cmdfreeq

theorem LetGo.record (cs : CommandState) (n : NodeId) (result : Int) :
    LetGo n cs.toNodeState (cs.recordResult n result).toNodeState where
  others _ other := CommandState.recordResult_of_ne other
  owner := by simp [CommandState.recordResult_self]
  arg p arg := ⟨by simpa [CommandState.recordResult_self] using arg, id⟩
  free _ _ := id

theorem LetGo.release (cs : CommandState) (n : NodeId) :
    LetGo n cs.toNodeState (cs.releaseAsync n).toNodeState := by
  cases async : (cs.cmdArray n).isAsync with
  | false =>
      rw [CommandState.releaseAsync_of_sync async]
      exact ⟨fun _ _ => rfl, rfl, fun _ arg => ⟨arg, id⟩, fun _ _ => id⟩
  | true =>
      rw [CommandState.releaseAsync_of_async async]
      refine ⟨fun _ other => CommandState.lbsCleanupAndInsertCmd_of_ne other, ?_, ?_, ?_⟩
      · simp [CommandState.lbsCleanupAndInsertCmd]
      · simp [CommandState.lbsCleanupAndInsertCmd]
      · intro m other member
        simpa [other] using member

theorem LetGo.tagged {nodes nodes' : NodeState} (gone : LetGo n nodes nodes')
    (tagged : Tagged nodes) : Tagged nodes' := by
  intro m p arg
  by_cases same : m = n
  · subst same
    obtain ⟨before, kept⟩ := gone.arg p arg
    obtain ⟨mine, notFree⟩ := tagged m p before
    exact ⟨mine.trans gone.owner.symm, fun member => notFree (kept member)⟩
  · rw [gone.others m same] at arg ⊢
    obtain ⟨mine, notFree⟩ := tagged m p arg
    exact ⟨mine, fun member => notFree (gone.free m same member)⟩

theorem LetGo.trans {nodes nodes' nodes'' : NodeState} (first : LetGo n nodes nodes')
    (second : LetGo n nodes' nodes'') : LetGo n nodes nodes'' where
  others m other := (second.others m other).trans (first.others m other)
  owner := second.owner.trans first.owner
  arg p arg := by
    obtain ⟨before, kept⟩ := second.arg p arg
    obtain ⟨start, kept'⟩ := first.arg p before
    exact ⟨start, fun member => kept' (kept member)⟩
  free m other member := first.free m other (second.free m other member)

theorem LetGo.complete (cs : CommandState) (n : NodeId) (result : Int) :
    LetGo n cs.toNodeState (cs.lbsCompleteCommand n result).toNodeState := by
  have done := (LetGo.record cs n result).trans (.release _ n)
  exact ⟨done.others, done.owner, done.arg, done.free⟩

/-- What a step of the main thread does to the commands under way: it takes up no command, leaves
the nodes of the others alone, and lets at most one node go. -/
structure Moves (s t : Sys) : Prop where
  clients : SameClients s t
  hand : ∀ n, t.InHand n → s.InHand n ∧ t.priv.cmdArray n = s.priv.cmdArray n
  array : ∀ n, t.priv.cmdArray n = s.priv.cmdArray n ∨ s.main.transit = some n ∨ s.curView = some n
  gone : ∃ n, LetGo n s.priv.toNodeState t.priv.toNodeState

namespace Moves

/-- The main thread passes commands on without touching a node. -/
theorem glide (array : t.priv.cmdArray = s.priv.cmdArray)
    (free : t.priv.cmdfreeq = s.priv.cmdfreeq) (clients : SameClients s t)
    (hand : ∀ n, t.InHand n → s.InHand n) : Moves s t where
  clients := clients
  hand n inHand := ⟨hand n inHand, by rw [array]⟩
  array n := .inl (by rw [array])
  gone :=
    ⟨0, fun _ _ => by rw [array], by rw [array],
      fun _ arg => ⟨array ▸ arg, fun member => free ▸ member⟩, fun _ _ member => free ▸ member⟩

/-- The main thread is done with a command. -/
theorem retire (clients : SameClients s t)
    (holding : s.main.transit = some n ∨ s.curView = some n)
    (gone : LetGo n s.priv.toNodeState t.priv.toNodeState)
    (hand : ∀ m, t.InHand m → s.InHand m ∧ m ≠ n) : Moves s t where
  clients := clients
  hand m inHand := ⟨(hand m inHand).1, gone.others m (hand m inHand).2⟩
  array m := by
    by_cases same : m = n
    · exact .inr (same ▸ holding)
    · exact .inl (gone.others m same)
  gone := ⟨n, gone⟩

/-- The main thread leaves the nodes and the queues alone. -/
theorem still (nodes : t.priv.toNodeState = s.priv.toNodeState)
    (clients : SameClients s t) (kept : s.main.givingUp = none)
    (transit : t.main.transit = none) : Moves s t := by
  have pending : t.priv.cmdpendingq = s.priv.cmdpendingq := congrArg NodeState.cmdpendingq nodes
  have current : t.priv.curCmd = s.priv.curCmd := congrArg NodeState.curCmd nodes
  refine glide (congrArg NodeState.cmdArray nodes) (congrArg NodeState.cmdfreeq nodes)
    clients fun n inHand => ?_
  rcases inHand with inPending | inTransit | ⟨_, isCurrent⟩
  · exact .inl (pending ▸ inPending)
  · rw [transit] at inTransit
    cases inTransit
  · exact .inr (.inr ⟨kept, current ▸ isCurrent⟩)

/-- The main thread is done with a command, and has no other in hand. -/
theorem finish (clients : SameClients s t)
    (holding : s.main.transit = some n ∨ s.curView = some n)
    (gone : LetGo n s.priv.toNodeState t.priv.toNodeState)
    (pending : t.priv.cmdpendingq = s.priv.cmdpendingq) (notPending : n ∉ s.priv.cmdpendingq)
    (idle : t.main.transit = none ∧ (t.main.givingUp = none → t.priv.curCmd = none)) :
    Moves s t := by
  refine retire clients holding gone fun m inHand => ?_
  rcases inHand with inPending | inTransit | ⟨kept, isCurrent⟩
  · rw [pending] at inPending
    refine ⟨.inl inPending, fun same => notPending (same ▸ inPending)⟩
  · rw [idle.1] at inTransit
    cases inTransit
  · rw [idle.2 kept] at isCurrent
    cases isCurrent

theorem complete {cs : CommandState} (result : Int) (held : s.Held)
    (same : cs.toNodeState = s.priv.toNodeState)
    (holding : (s.main.givingUp = none ∧ s.priv.curCmd = some n) ∨ s.main.transit = some n)
    (completed : t.priv.toNodeState = (cs.lbsCompleteCommand n result).toNodeState)
    (clients : SameClients s t) (transit : t.main.transit = none) : Moves s t := by
  have gone := LetGo.complete cs n result
  rw [same, ← completed] at gone
  have pending : t.priv.cmdpendingq = s.priv.cmdpendingq := by
    rw [completed, CommandState.lbsCompleteCommand_cmdpendingq, same]
  have current : t.priv.curCmd = none := by
    rw [completed, CommandState.lbsCompleteCommand_curCmd]
  have holds : s.main.transit = some n ∨ s.curView = some n := by
    rcases holding with ⟨kept, current⟩ | transit
    · exact .inr ((curView_of_ne (not_giveUpDrop kept)).trans current)
    · exact .inl transit
  have notPending : n ∉ s.priv.cmdpendingq := by
    rcases holds with transit | current
    · exact (held.held_elsewhere (.inr (mainView_transit.trans transit))).2.1
    · exact (held.held_elsewhere (.inl current)).2.1
  exact finish clients holds gone pending notPending ⟨transit, fun _ => current⟩

theorem process {idx : Fin 2} (held : s.Held) (pc : s.main = .process idx)
    (processed : s.processResponse idx c = some t) : Moves s t := by
  have kept : s.main.givingUp = none := by rw [pc]; rfl
  rcases processResponse_cases processed with rfl | ⟨n, accepts⟩
  · exact still rfl (.inl rfl) kept rfl
  rcases accepts.outcome with ⟨cmd, main, _⟩ | ⟨cmd, _, task, _, _⟩
  · exact complete _ held (acceptResponse_nodes _ _) (.inl ⟨kept, accepts.accepted.current⟩)
      (congrArg CommandState.toNodeState cmd) accepts.clients (by rw [main]; rfl)
  · exact still ((congrArg CommandState.toNodeState cmd).trans (acceptResponse_nodes _ _))
      accepts.clients kept (MainPc.plain_of_answer (congrArg Prod.fst task)).transit

theorem dispatch {idx : Fin 2} {result : UInt16} (pc : s.main = .dispatch idx result)
    (dispatched : s.dispatchStep idx result c = some t) : Moves s t := by
  have kept : s.main.givingUp = none := by rw [pc]; rfl
  have frame := dispatchStep_frame dispatched
  exact still (congrArg CommandState.toNodeState frame.cmd) frame.clients kept
    (MainPc.plain_of_answer (congrArg Prod.fst frame.task)).transit

theorem head {success : Bool} (held : s.Held) (pc : s.main = .head n)
    (moved : s.mainStep success c = some t) : Moves s t := by
  have kept : s.main.givingUp = none := by rw [pc]; rfl
  have member : n ∈ s.priv.cmdpendingq :=
    (held.settled kept).owned.looking n (by rw [pc]; rfl)
  simp only [Sys.mainStep, pc] at moved
  rw [headStep] at moved
  have unlinked : ∀ pc' : MainPc, pc'.transit = some n →
      ∀ m, InHand { s.withCmd (s.priv.unlinkPending n) with main := pc' } m → s.InHand m := by
    intro pc' transit m inHand
    rcases inHand with inPending | inTransit | ⟨_, current⟩
    · exact .inl (List.mem_of_mem_erase inPending)
    · exact .inl (Option.some.inj (transit.symm.trans inTransit) ▸ member)
    · exact .inr (.inr ⟨kept, current⟩)
  split at moved
  · cases moved
    exact still rfl (.inl rfl) kept rfl
  · cases moved
    exact still rfl (.inl rfl) kept rfl
  · obtain ⟨idle, rfl⟩ := beginCall_eq_some moved
    exact still rfl (.inr ⟨c, psWakeupRequest, idle, rfl, rfl, rfl⟩) kept rfl
  · cases moved
    exact glide rfl rfl (.inl rfl) (unlinked _ rfl)
  · cases moved
    exact glide rfl rfl (.inl rfl) (unlinked _ rfl)

theorem timeout {success : Bool} (held : s.Held) (pc : s.main = .timeout)
    (moved : s.mainStep success c = some t) : Moves s t := by
  have kept : s.main.givingUp = none := by rw [pc]; rfl
  simp only [Sys.mainStep, pc] at moved
  cases moved
  unfold timeoutStep
  split
  · rename_i n timedOut current
    dsimp only
    have holds : s.curView = some n := (curView_of_ne (not_giveUpDrop kept)).trans current
    have notPending := (held.held_elsewhere (.inl holds)).2.1
    split
    · exact finish (.inl rfl) (.inr holds) (.record _ n _) rfl notPending ⟨rfl, (by cases ·)⟩
    · refine glide rfl rfl (.inl rfl) fun m inHand => ?_
      rcases inHand with inPending | inTransit | ⟨_, isCurrent⟩
      · exact .inl inPending
      · obtain rfl : n = m := Option.some.inj inTransit
        exact .inr (.inr ⟨kept, current⟩)
      · cases isCurrent
  · exact still rfl (.inl rfl) kept rfl

theorem main {success : Bool} (held : s.Held) (moved : s.mainStep success c = some t) :
    Moves s t := by
  by_cases quiet : s.main.quiet = true
  · have step := mainStep_quiet quiet moved
    exact still step.priv.nodes step.clients (MainPc.givingUp_of_quiet quiet)
      step.plain.transit
  cases pc : s.main
  case head n => exact head held pc moved
  case timeout => exact timeout held pc moved
  all_goals
    simp only [Sys.mainStep, pc] at moved
    have givingUp := congrArg MainPc.givingUp pc
    have transit := congrArg MainPc.transit pc
  case process idx => exact process held pc moved
  case dispatch idx result => exact dispatch pc moved
  case response =>
    split at moved <;> cases moved <;> exact still rfl (.inl rfl) givingUp rfl
  case clear idx =>
    cases moved
    exact still rfl (.inl rfl) givingUp rfl
  case complete idx result =>
    cases moved
    cases current : s.priv.curCmd with
    | none =>
        exact still (by simp [completeCurCmd, current]) (.inl (by simp)) givingUp rfl
    | some n =>
        exact complete result.toNat held rfl (.inl ⟨givingUp, current⟩)
          (by simp [completeCurCmd, current]) (.inl (by simp)) rfl
  case giveUpFree n =>
    have current : s.curView = some n := by
      apply held.givingUp n
      simp [mainView, pc, MainPc.givingUp]
    have notPending := (held.held_elsewhere (.inl current)).2.1
    cases moved
    refine finish (.inl rfl) (.inr current) (.release s.priv.toCommandState n) ?_ notPending
      ⟨rfl, (by cases ·)⟩
    exact CommandState.releaseAsync_cmdpendingq
  case giveUpDrop n =>
    cases moved
    refine glide rfl rfl (.inl rfl) fun m inHand => ?_
    rcases inHand with inPending | inTransit | ⟨_, isCurrent⟩
    · exact .inl inPending
    · cases inTransit
    · cases isCurrent
  case requeue n =>
    cases moved
    refine glide rfl rfl (.inl rfl) fun m inHand => ?_
    rcases inHand with inPending | inTransit | ⟨_, isCurrent⟩
    · rcases CommandState.mem_insertPending.mp inPending with rfl | before
      · exact .inr (.inl transit)
      · exact .inl before
    · cases inTransit
    · exact .inr (.inr ⟨givingUp, isCurrent⟩)
  case execute =>
    split at moved
    · split at moved <;> cases moved <;> exact still rfl (.inl rfl) givingUp rfl
    · cases moved
      exact still rfl (.inl rfl) givingUp rfl
  case ignore n wake =>
    cases moved
    exact complete 0 held rfl (.inr transit) rfl (.inl rfl) rfl
  case submit n =>
    cases moved
    refine glide rfl rfl (.inl rfl) fun m inHand => ?_
    rcases inHand with inPending | inTransit | ⟨_, isCurrent⟩
    · exact .inl inPending
    · cases inTransit
    · obtain rfl : n = m := Option.some.inj isCurrent
      exact .inr (.inl transit)
  case send n =>
    cases moved
    exact still (by simp) (.inl rfl) givingUp rfl
  all_goals exact absurd (congrArg MainPc.quiet pc) quiet

end Moves

namespace Live

/-- The main thread keeps the invariant. -/
theorem main {success : Bool} (live : s.Live) (moved : s.mainStep success c = some t) :
    t.Live := by
  obtain ⟨clients, hand, _, m, gone⟩ := Moves.main live.held moved
  refine ⟨live.held.main moved, fun n inHand => ?_, gone.tagged live.tagged⟩
  obtain ⟨before, array⟩ := hand n inHand
  obtain ⟨begun, waits⟩ := live.waited n before
  have owner : t.owner n = s.owner n := by rw [Sys.owner, array, Sys.owner]
  rw [Waited, owner, clients.of_started begun, array]
  exact ⟨begun, waits⟩

theorem client_tagged (live : s.Live) (stepped : s.clientStep c = some t) :
    Tagged t.priv.toNodeState := by
  have fits := live.held.fits c
  unfold Client.Fits at fits
  have tagged := live.tagged
  cases phase : (s.client c).phase <;>
    simp only [Sys.clientStep, phase, reduceCtorEq] at stepped fits
  case start => split at stepped <;> cases stepped <;> exact tagged
  case alloc =>
    split at stepped <;> cases stepped
    · exact tagged
    · rename_i n cs got
      obtain ⟨rest, free, rfl⟩ := CommandState.lbsGetCmdCtrlNode_eq_some got
      refine tagged.update (.take free _) fun p arg => ?_
      have before : (s.priv.cmdArray n).callbackArg = some p := by simpa using arg
      exact absurd (free ▸ List.mem_cons_self) (tagged n p before).2
  case fill n =>
    cases stepped
    have prepared : (s.client c).phase.preparing = some n := by rw [phase]; rfl
    change Tagged (s.priv.initNode n _ _).toNodeState
    rw [CommandState.initNode_nodes]
    refine tagged.update (.modify _) fun p arg => ?_
    rw [CommandState.modifyNode_self] at arg ⊢
    obtain ⟨bytes, _, rfl⟩ := Option.map_eq_some_iff.mp arg
    exact ⟨fits.symm, (live.held.prepared_elsewhere prepared).1⟩
  case stamp n =>
    split at stepped <;> cases stepped
    · exact tagged
    · exact tagged
    · refine tagged.update (.modify _) fun p arg => ?_
      simpa [CommandState.stampNode] using tagged n p (by simpa [CommandState.stampNode] using arg)
  case abort n =>
    cases stepped
    exact tagged.update .cleanup fun p arg => by simp [CommandState.lbsCleanupAndInsertCmd] at arg
  case queue n =>
    split at stepped <;> cases stepped
    · exact tagged
    · refine tagged.update (.modify _) fun p arg => ?_
      simpa [CommandState.clearResult] using
        tagged n p (by simpa [CommandState.clearResult] using arg)
  case insert n tail =>
    cases stepped
    exact tagged
  case unqueued n =>
    split at stepped
    · split at stepped <;> cases stepped
      exact tagged
    · cases stepped
      exact tagged
  case wait n =>
    split at stepped <;> cases stepped
    exact tagged
  case finish n =>
    split at stepped <;> cases stepped
    · exact tagged.update .cleanup fun p arg => by simp [CommandState.lbsCleanupAndInsertCmd] at arg
    · have same := s.priv.takeRetcode_nodes
      change Tagged s.priv.takeRetcode.1.toNodeState
      rw [same]
      exact tagged

/-- A call that frees its node waits until the command is done. -/
theorem client_waited (live : s.Live) (patient : s.Patient s.mainView c)
    (stepped : s.clientStep c = some t) (n : NodeId) (inHand : s.InHand n) : t.Waited n := by
  have frame := clientStep_frame stepped
  have array := frame.array n (live.held.untouched inHand c)
  obtain ⟨phase, started, client⟩ := frame.client
  obtain ⟨begun, waits⟩ := live.waited n inHand
  have owners : t.owner n = s.owner n := by rw [Sys.owner, array, Sys.owner]
  by_cases mine : s.owner n = c
  · subst mine
    have reached : t.client (s.owner n) = { s.client (s.owner n) with phase := phase } := by
      rw [client, setPhase_client_self]
    refine ⟨by rw [owners, reached]; exact started, fun isCmd => ?_⟩
    rw [owners, reached] at isCmd
    obtain ⟨waiting, unwoken⟩ := waits isCmd
    have woken := (patient isCmd).1 n waiting
    rw [unwoken] at woken
    cases woken
  · have other : t.client (s.owner n) = s.client (s.owner n) := by
      rw [client, setPhase_client_of_ne mine]
    rw [Waited, owners, other, array]
    exact ⟨begun, waits⟩

/-- A call that queues its node waits for it, if it frees the node. -/
theorem client_inserts {tail : Bool} (live : s.Live) (phase : (s.client c).phase = .insert n tail)
    (stepped : s.clientStep c = some t) : t.Waited n := by
  have fits := live.held.fits c
  simp only [Client.Fits, phase] at fits
  obtain ⟨mine, unwoken, _⟩ := fits
  simp only [Sys.clientStep, phase] at stepped
  cases stepped
  have owner : s.owner n = c := mine
  rw [Waited]
  simp only [Sys.owner, setPhase_priv, withCmd_cmd, CommandState.insertPending_cmdArray]
  rw [show (s.priv.cmdArray n).owner = c from mine, setPhase_client_self]
  refine ⟨?_, fun isCmd => ⟨?_, unwoken⟩⟩
  · dsimp only
    split
    · simp
    · split <;> simp
  · exact if_pos (Request.waits_of_isCmd isCmd)

theorem client (live : s.Live) (patient : s.Patient s.mainView c)
    (stepped : s.clientStep c = some t) : t.Live := by
  have frame := clientStep_frame stepped
  refine ⟨live.held.client patient stepped, fun n inHand => ?_, live.client_tagged stepped⟩
  rcases inHand with pending | transit | ⟨kept, current⟩
  · rcases frame.pending n pending with before | ⟨tail, phase⟩
    · exact live.client_waited patient stepped n (.inl before)
    · exact live.client_inserts phase stepped
  · rw [frame.main] at transit
    exact live.client_waited patient stepped n (.inr (.inl transit))
  · rw [frame.main] at kept
    rw [frame.curCmd] at current
    exact live.client_waited patient stepped n (.inr (.inr ⟨kept, current⟩))

theorem init : Sys.init.Live where
  held := .init
  waited n inHand := by
    rcases inHand with pending | transit | ⟨_, current⟩
    · cases pending
    · cases transit
    · cases current
  tagged n p := nofun

/-- Another party may only start calls and send signals. -/
theorem bystander (live : s.Live) (held : t.Held)
    (nodes : t.priv.toNodeState = s.priv.toNodeState) (main : t.main = s.main)
    (clients : ∀ d, (s.client d).phase ≠ .idle →
      (t.client d).phase = (s.client d).phase ∧ (t.client d).req = (s.client d).req) :
    t.Live := by
  have array : t.priv.cmdArray = s.priv.cmdArray := congrArg NodeState.cmdArray nodes
  have owners : t.owner = s.owner := by
    funext n
    rw [Sys.owner, array, Sys.owner]
  refine ⟨held, fun n inHand => ?_, nodes ▸ live.tagged⟩
  rw [InHand] at inHand
  rw [congrArg NodeState.cmdpendingq nodes, congrArg NodeState.curCmd nodes, main] at inHand
  obtain ⟨begun, waits⟩ := live.waited n inHand
  obtain ⟨phase, req⟩ := clients _ begun
  rw [Waited, owners, phase, req, array]
  exact ⟨begun, waits⟩

/-- A safe step keeps the invariant. -/
theorem step {action : Action} (live : s.Live) (safe : s.LiveSafe action)
    (stepped : s.step action = some t) : t.Live := by
  have same : ∀ {u : Sys}, u.client = s.client → ∀ d, (s.client d).phase ≠ .idle →
      (u.client d).phase = (s.client d).phase ∧ (u.client d).req = (s.client d).req :=
    fun client d _ => by rw [client]; exact ⟨rfl, rfl⟩
  have held : t.Held := live.held.step safe.held stepped
  unfold Sys.step at stepped
  split at stepped
  · cases stepped
  cases action with
  | call c req =>
      dsimp only at stepped
      split at stepped <;> cases stepped
      rename_i idle
      refine live.bystander held rfl rfl fun d begun => ?_
      have other : d ≠ c := fun same => begun (same ▸ idle)
      simp [other]
  | client c => exact live.client safe stepped
  | signal c =>
      cases stepped
      refine live.bystander held rfl rfl fun d _ => ?_
      dsimp only
      split
      · rename_i mine
        exact ⟨by rw [mine], by rw [mine]⟩
      · exact ⟨rfl, rfl⟩
  | main success c => exact live.main stepped
  | deliver data =>
      cases stepped
      rw [deliverStep] at held ⊢
      split
      · exact live
      · dsimp only
        split <;> exact live.bystander (live.held.bystander rfl rfl rfl) rfl rfl (same rfl)
  | stopCard => exact safe.elim
  | timerExpire | commandTimerFn =>
      dsimp only at stepped
      split at stepped <;> cases stepped
      exact live.bystander held rfl rfl (same rfl)
  | queueEvent _ | hostToCardDone | remove | kthreadStop | setFwReady | configure _
    | transmit _ _ =>
      cases stepped
      exact live.bystander held rfl rfl (same rfl)

end Live

end InHand

end Sys

end Libertas
