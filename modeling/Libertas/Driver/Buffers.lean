import Libertas.CmdResp.Acceptance
import Libertas.Driver.Results
import Libertas.Driver.Retry

/-!
# When callers' buffers are written

A node carries the pointer that its call passed until it is freed, and a handler
or `lbs_cmd_copyback` writes through it. The buffer is the caller's only as long
as the call has not returned. A caller of `__lbs_cmd` takes its node along when it
returns. A caller of `lbs_prepare_and_send_command` does not: when a signal ends
its wait, or when it does not wait at all, its pointer stays behind.
-/

namespace Libertas

/-- A response is copied to the buffer of the call that owns the node. -/
def CmdCtrlNode.Copies (node : CmdCtrlNode) (resp : List UInt8) : Prop :=
  node.callback = some (.sync .lbsCmdCopyback) ∨
    (node.callback = none ∧ respCommand resp ∈ copiedCommands.map cmdRet)

/-- The usual reply to the command is copied by a handler. -/
def CmdCtrlNode.Lends (node : CmdCtrlNode) : Prop :=
  node.callback = none ∧ node.callbackArg ≠ none ∧
    cmdRet node.cmdbuf.command ∈ copiedCommands.map cmdRet

/-- The node of a command that was written and not yet queued. -/
def Phase.stamped : Phase → Option NodeId
  | .queue n | .insert n _ => some n
  | _ => none

/-- A write goes to the buffer of the command in flight. -/
theorem dispatchResponse_copies {memory : Pointer → List UInt8} {priv : Priv}
    {resp bytes : List UInt8} {p : Pointer}
    (wrote : (dispatchResponse memory priv resp).write = some (p, bytes)) :
    ∃ n, priv.curCmd = some n ∧ (priv.cmdArray n).callbackArg = some p ∧
      (priv.cmdArray n).Copies resp := by
  obtain ⟨n, current, arg⟩ := dispatchResponse_write wrote
  refine ⟨n, current, arg, ?_⟩
  rw [dispatchResponse] at wrote
  cases callback : (priv.cmdArray n).callback with
  | none =>
      simp only [current, Option.bind_some, callback, Option.map_none] at wrote
      exact .inr ⟨callback, handleCmdResponse_copies wrote⟩
  | some cb =>
      simp only [current, Option.bind_some, callback, Option.map_some] at wrote
      cases cb with
      | lbsCmdAsyncCallback => cases wrote
      | sync cb =>
          cases cb with
          | lbsCmdCopyback => exact .inl callback
          | lbsRet80211Scan | lbsSuspendCallback => cases wrote

/-- A reply that is copied is the usual reply to its command. -/
theorem copied_of_reply {command code : UInt16} (reply : IsReplyCode command code)
    (copied : code ∈ copiedCommands.map cmdRet) :
    cmdRet command ∈ copiedCommands.map cmdRet := by
  rcases reply with rfl | ⟨_, rfl⟩
  · exact copied
  · exact absurd copied (by decide)

namespace Sys

/-- The main thread is about to write the response to the buffer of a call. -/
def Writes (s : Sys) (action : Action) (p : Pointer) (resp : List UInt8) : Prop :=
  ∃ success c idx result bytes, action = .main success c ∧ s.main = .dispatch idx result ∧
    resp = s.priv.respBuf idx ∧
    (dispatchResponse s.memory s.priv resp).write = some (p, bytes)

/-- The response answers the command that a call issued. -/
def AnswersCall (s : Sys) (c : CallId) (resp : List UInt8) : Prop :=
  ∃ command size body, (s.client c).req.assemble = .ready command size body ∧
    .issued c (respSeqnum resp) ∈ s.trace ∧ IsReplyCode command (respCommand resp)

/-- No call returns while its command is under way and lends its buffer, and a response that is
copied has a reply code of the command in flight. -/
def BufferSafe (s : Sys) (action : Action) : Prop :=
  s.LiveSafe action ∧
    match action with
    | .client c =>
        ∀ m, (s.client c).phase = .finish m → ∀ n, s.InHand n → s.owner n = c →
          ¬ (s.priv.cmdArray n).Lends
    | .main _ _ =>
        ∀ idx n, s.main.unhandled = some idx → s.priv.curCmd = some n →
          (s.priv.cmdArray n).Copies (s.priv.respBuf idx) →
          IsReplyCode (s.priv.cmdArray n).cmdbuf.command (respCommand (s.priv.respBuf idx))
    | _ => True

/-- The node holds the command that its owner issued. -/
structure Issued (s : Sys) (n : NodeId) : Prop where
  callback : (s.priv.cmdArray n).callback = (s.client (s.owner n)).req.callback
  assembled : (s.client (s.owner n)).req.assemble =
    .ready (s.priv.cmdArray n).cmdbuf.command (s.priv.cmdArray n).cmdbuf.size
      (s.priv.cmdArray n).cmdbuf.body
  issued : .issued (s.owner n) (s.priv.cmdArray n).cmdbuf.seqnum ∈ s.trace

/-- A call that lends its buffer to a command under way has not returned. -/
structure Lent (s : Sys) : Prop where
  live : s.Live
  installed : ∀ c n, (s.client c).phase = .stamp n →
    (s.priv.cmdArray n).callback = (s.client c).req.callback
  stamped : ∀ c n, (s.client c).phase.stamped = some n → s.Issued n
  issued : ∀ n, s.InHand n → s.Issued n
  waiting : ∀ n, s.InHand n → (s.priv.cmdArray n).Lends →
    (s.client (s.owner n)).phase.awaiting ≠ none

section Lent

variable {s t : Sys} {c d : CallId} {n : NodeId}

theorem Issued.keep (issued : s.Issued n) (array : t.priv.cmdArray n = s.priv.cmdArray n)
    (req : (t.client (s.owner n)).req = (s.client (s.owner n)).req)
    (told : ∀ e ∈ s.trace, e ∈ t.trace) : t.Issued n := by
  have owner : t.owner n = s.owner n := by rw [Sys.owner, array, Sys.owner]
  refine ⟨?_, ?_, ?_⟩
  · rw [owner, req, array]
    exact issued.callback
  · rw [owner, req, array]
    exact issued.assembled
  · rw [owner, array]
    exact told _ issued.issued

/-- Nothing is taken back from the trace. -/
theorem step_told {action : Action} (stepped : s.step action = some t) :
    ∀ e ∈ s.trace, e ∈ t.trace := by
  obtain ⟨events, appended, _⟩ := step_tells stepped
  intro e member
  rw [appended]
  exact List.mem_append_left _ member

theorem Phase.preparing_of_stamped {phase : Phase} (stamped : phase.stamped = some n) :
    phase.preparing = some n := by
  cases phase <;> first | exact stamped | cases stamped

/-- A node that a call prepares is not touched by another call. -/
theorem Held.prepared_untouched (held : s.Held) (prepared : (s.client d).phase.preparing = some n)
    (other : c ≠ d) : ¬ s.Touches c n := by
  rintro (preparing | free | ⟨isCmd, finish⟩)
  · exact other ((held.prepared_mine preparing).symm.trans (held.prepared_mine prepared))
  · exact (held.prepared_elsewhere prepared).1 free
  · have mine := (held.mine isCmd (by rw [finish]; rfl)).1
    exact other (mine.symm.trans (held.prepared_mine prepared))

/-- The main thread leaves the nodes alone that calls prepare. -/
theorem Moves.prepared (moves : Moves s t) (held : s.Held)
    (prepared : (s.client d).phase.preparing = some n) :
    t.priv.cmdArray n = s.priv.cmdArray n := by
  obtain ⟨_, _, notCurrent, notTransit⟩ := held.prepared_elsewhere prepared
  rcases moves.array n with same | transit | current
  · exact same
  · exact absurd (mainView_transit.trans transit) notTransit
  · exact absurd current notCurrent

theorem SameClients.of_begun (clients : SameClients s t) (begun : (t.client d).phase.begun = true) :
    t.client d = s.client d := by
  rcases clients with same | ⟨e, req, _, _, _, began⟩
  · rw [same]
  · by_cases mine : d = e
    · simp [began, mine, Phase.begun] at begun
    · simp [began, mine]

theorem Phase.begun_of_preparing {phase : Phase} (preparing : phase.preparing = some n) :
    phase.begun = true := by
  cases phase <;> first | rfl | cases preparing

namespace Lent

theorem main {success : Bool} (lent : s.Lent) (moved : s.mainStep success c = some t)
    (told : ∀ e ∈ s.trace, e ∈ t.trace) : t.Lent := by
  have moves := Moves.main lent.live.held moved
  have owner : ∀ n, s.InHand n → t.client (s.owner n) = s.client (s.owner n) :=
    fun n inHand => moves.clients.of_started (lent.live.waited n inHand).1
  refine ⟨lent.live.main moved, fun d n phase => ?_, fun d n stamped => ?_, fun n inHand => ?_,
    fun n inHand lends => ?_⟩
  · have same := moves.clients.of_begun (d := d) (by rw [phase]; rfl)
    rw [same] at phase ⊢
    rw [moves.prepared lent.live.held (d := d) (by rw [phase]; rfl)]
    exact lent.installed d n phase
  · have preparing := Phase.preparing_of_stamped stamped
    have same := moves.clients.of_begun (Phase.begun_of_preparing preparing)
    rw [same] at stamped preparing
    have mine := lent.live.held.prepared_mine preparing
    refine (lent.stamped d n stamped).keep (moves.prepared lent.live.held preparing) ?_ told
    rw [mine, same]
  · obtain ⟨before, array⟩ := moves.hand n inHand
    exact (lent.issued n before).keep array (by rw [owner n before]) told
  · obtain ⟨before, array⟩ := moves.hand n inHand
    have same : t.owner n = s.owner n := by rw [Sys.owner, array, Sys.owner]
    rw [same, owner n before]
    exact lent.waiting n before (array ▸ lends)

/-- A call that steps keeps its request. -/
theorem clientStep_req (stepped : s.clientStep c = some t) (d : CallId) :
    (t.client d).req = (s.client d).req := by
  obtain ⟨phase, _, client⟩ := (clientStep_frame stepped).client
  by_cases mine : d = c
  · rw [client, mine, setPhase_client_self]
  · rw [client, setPhase_client_of_ne mine]

/-- The command of a call that steps is written before it is queued. -/
theorem client_stamped (lent : s.Lent) (stepped : s.clientStep c = some t)
    (told : ∀ e ∈ s.trace, e ∈ t.trace) (stamped : (t.client c).phase.stamped = some n) :
    t.Issued n := by
  cases phase : (s.client c).phase <;> simp only [Sys.clientStep, phase, reduceCtorEq] at stepped
  case stamp m =>
    have mine := lent.live.held.prepared_mine (c := c) (n := m) (by rw [phase]; rfl)
    split at stepped <;> cases stepped
    · simp [Phase.stamped] at stamped
    · simp [Phase.stamped] at stamped
    · rename_i command size body assembled
      simp only [log_client, setPhase_client_self, Phase.stamped, Option.some.injEq] at stamped
      subst stamped
      have owner : (s.priv.cmdArray m).owner = c := mine
      have installed := lent.installed c m phase
      refine ⟨?_, ?_, ?_⟩
      · simp [Sys.owner, CommandState.stampNode, owner, installed]
      · simp [Sys.owner, CommandState.stampNode, owner, assembled]
      · simp [Sys.owner, CommandState.stampNode, owner]
  case queue m =>
    have before := lent.stamped c m (by rw [phase]; rfl)
    have mine : (s.priv.cmdArray m).owner = c :=
      lent.live.held.prepared_mine (c := c) (n := m) (by rw [phase]; rfl)
    split at stepped <;> cases stepped
    · simp [Phase.stamped] at stamped
    · simp only [setPhase_client_self, Phase.stamped, Option.some.injEq] at stamped
      subst stamped
      have callback := before.callback
      have assembled := before.assembled
      have issued := before.issued
      simp only [Sys.owner, mine] at callback assembled issued
      refine ⟨?_, ?_, ?_⟩
      · simp [Sys.owner, CommandState.clearResult, mine, callback]
      · simp [Sys.owner, CommandState.clearResult, mine, assembled]
      · simpa [Sys.owner, CommandState.clearResult, mine] using issued
  case alloc =>
    split at stepped <;> cases stepped <;> simp [Phase.stamped] at stamped
  case fill m =>
    cases stepped
    simp [Phase.stamped] at stamped
  case abort m =>
    cases stepped
    simp [Phase.stamped] at stamped
  case insert m tail =>
    cases stepped
    by_cases waits : (s.client c).req.waits = true
    · simp [waits, Phase.stamped] at stamped
    · by_cases async : (s.client c).req.kind = .cmdAsync <;>
        simp [waits, async, Phase.stamped] at stamped
  case unqueued m =>
    split at stepped
    · split at stepped <;> cases stepped
      simp [Phase.stamped] at stamped
    · cases stepped
      by_cases async : (s.client c).req.kind = .cmdAsync <;> simp [async, Phase.stamped] at stamped
  case start | wait | finish =>
    split at stepped <;> cases stepped <;> simp [Phase.stamped] at stamped

/-- A call installs its callback before it writes its command. -/
theorem client_installed (stepped : s.clientStep c = some t)
    (stamping : (t.client c).phase = .stamp n) :
    (t.priv.cmdArray n).callback = (t.client c).req.callback := by
  cases phase : (s.client c).phase <;> simp only [Sys.clientStep, phase, reduceCtorEq] at stepped
  case fill m =>
    cases stepped
    simp only [setPhase_client_self, Phase.stamp.injEq] at stamping
    subst stamping
    simp [CommandState.initNode]
  case alloc =>
    split at stepped <;> cases stepped <;> simp at stamping
  case abort m =>
    cases stepped
    simp at stamping
  case insert m tail =>
    cases stepped
    by_cases waits : (s.client c).req.waits = true
    · simp [waits] at stamping
    · by_cases async : (s.client c).req.kind = .cmdAsync <;> simp [waits, async] at stamping
  case unqueued m =>
    split at stepped
    · split at stepped <;> cases stepped
      simp at stamping
    · cases stepped
      by_cases async : (s.client c).req.kind = .cmdAsync <;> simp [async] at stamping
  case start | stamp | queue | wait | finish =>
    split at stepped <;> cases stepped <;> simp at stamping

/-- A call whose buffer is lent goes on waiting, if it may not return yet. -/
theorem client_waiting (lent : s.Lent)
    (staying : ∀ m, (s.client c).phase = .finish m → ∀ n, s.InHand n → s.owner n = c →
      ¬ (s.priv.cmdArray n).Lends)
    (stepped : s.clientStep c = some t) (inHand : s.InHand n) (mine : s.owner n = c)
    (lends : (s.priv.cmdArray n).Lends) : (t.client c).phase.awaiting ≠ none := by
  have waiting := lent.waiting n inHand lends
  rw [mine] at waiting
  cases phase : (s.client c).phase <;>
    simp only [phase, Phase.awaiting, ne_eq, not_true_eq_false, reduceCtorEq] at waiting
  case wait m =>
    simp only [Sys.clientStep, phase] at stepped
    split at stepped <;> cases stepped
    simp [Phase.awaiting]
  case finish m => exact absurd lends (staying m phase n inHand mine)

theorem client (lent : s.Lent) (safe : s.BufferSafe (.client c))
    (stepped : s.clientStep c = some t) (told : ∀ e ∈ s.trace, e ∈ t.trace) : t.Lent := by
  have frame := clientStep_frame stepped
  have req := clientStep_req stepped
  obtain ⟨next, _, client⟩ := frame.client
  have apart : ∀ d, d ≠ c → t.client d = s.client d := fun d other => by
    rw [client, setPhase_client_of_ne other]
  have untouched : ∀ d n, d ≠ c → (s.client d).phase.preparing = some n →
      t.priv.cmdArray n = s.priv.cmdArray n := fun d n other preparing =>
    frame.array n (lent.live.held.prepared_untouched preparing (Ne.symm other))
  have array : ∀ n, s.InHand n → t.priv.cmdArray n = s.priv.cmdArray n :=
    fun n inHand => frame.array n (lent.live.held.untouched inHand c)
  have before : ∀ n, t.InHand n → s.InHand n ∨ ∃ tail, (s.client c).phase = .insert n tail := by
    intro n inHand
    rcases inHand with pending | transit | ⟨kept, current⟩
    · exact (frame.pending n pending).imp_left .inl
    · exact .inl (.inr (.inl (frame.main ▸ transit)))
    · exact .inl (.inr (.inr ⟨frame.main ▸ kept, frame.curCmd ▸ current⟩))
  have inserted : ∀ n tail, (s.client c).phase = .insert n tail → t.Issued n := by
    intro n tail phase
    have issued := lent.stamped c n (by rw [phase]; rfl)
    exact issued.keep (by rw [(clientStep_inserts phase stepped).1]) (req _) told
  refine ⟨lent.live.client safe.1 stepped, fun d n stamping => ?_, fun d n stamped => ?_,
    fun n inHand => ?_, fun n inHand lends => ?_⟩
  · by_cases mine : d = c
    · subst mine
      exact client_installed stepped stamping
    · rw [apart d mine] at stamping ⊢
      rw [untouched d n mine (by rw [stamping]; rfl)]
      exact lent.installed d n stamping
  · by_cases mine : d = c
    · subst mine
      exact lent.client_stamped stepped told stamped
    · rw [apart d mine] at stamped
      exact (lent.stamped d n stamped).keep
        (untouched d n mine (Phase.preparing_of_stamped stamped)) (req _) told
  · rcases before n inHand with was | ⟨tail, phase⟩
    · exact (lent.issued n was).keep (array n was) (req _) told
    · exact inserted n tail phase
  · rcases before n inHand with was | ⟨tail, phase⟩
    · have owner : t.owner n = s.owner n := by rw [Sys.owner, array n was, Sys.owner]
      rw [array n was] at lends
      rw [owner]
      by_cases mine : s.owner n = c
      · rw [mine]
        exact lent.client_waiting safe.2 stepped was mine lends
      · rw [apart _ mine]
        exact lent.waiting n was lends
    · obtain ⟨array, now⟩ := clientStep_inserts phase stepped
      have mine : s.owner n = c := lent.live.held.prepared_mine (by rw [phase]; rfl)
      have owner : t.owner n = c := by rw [Sys.owner, array]; exact mine
      have callback := (lent.stamped c n (by rw [phase]; rfl)).callback
      rw [array] at lends
      rw [mine, lends.1] at callback
      have notAsync : (s.client c).req.kind ≠ .cmdAsync := by
        intro async
        simp [Request.callback, async] at callback
      rw [owner, now, if_neg notAsync]
      split <;> simp [Phase.awaiting]

theorem step {action : Action} (lent : s.Lent) (safe : s.BufferSafe action)
    (stepped : s.step action = some t) : t.Lent := by
  have told := step_told stepped
  by_cases client : ∃ c, action = .client c
  · obtain ⟨c, rfl⟩ := client
    rw [Sys.step] at stepped
    split at stepped
    · cases stepped
    · exact lent.client safe stepped told
  by_cases main : ∃ success c, action = .main success c
  · obtain ⟨success, c, rfl⟩ := main
    rw [Sys.step] at stepped
    split at stepped
    · cases stepped
    · exact lent.main stepped told
  have aside := step_aside stepped
    ⟨not_exists.mp client, fun success c same => main ⟨success, c, same⟩⟩
  have array := aside.array fun stop => by
    rw [stop] at safe
    exact safe.1
  have owner : t.owner = s.owner := aside.nothing.owner
  have clients : ∀ d, (t.client d).phase.begun = true →
      (t.client d).phase = (s.client d).phase ∧ (t.client d).req = (s.client d).req := by
    intro d begun
    rcases aside.clients d with ⟨_, start⟩ | same
    · rw [start] at begun
      cases begun
    · exact same
  have owned : ∀ n, s.InHand n →
      (t.client (s.owner n)).phase = (s.client (s.owner n)).phase ∧
        (t.client (s.owner n)).req = (s.client (s.owner n)).req := by
    intro n inHand
    rcases aside.clients (s.owner n) with ⟨idle, _⟩ | same
    · exact absurd idle (lent.live.waited n inHand).1
    · exact same
  have before : ∀ n, t.InHand n → s.InHand n := by
    intro n inHand
    rw [InHand] at inHand
    rwa [aside.pending, aside.current, aside.main] at inHand
  refine ⟨lent.live.step safe.1 stepped, fun d n stamping => ?_, fun d n stamped => ?_,
    fun n inHand => ?_, fun n inHand lends => ?_⟩
  · obtain ⟨phase, req⟩ := clients d (by rw [stamping]; rfl)
    rw [array, req]
    exact lent.installed d n (phase ▸ stamping)
  · have preparing := Phase.preparing_of_stamped stamped
    obtain ⟨phase, req⟩ := clients d (Phase.begun_of_preparing preparing)
    rw [phase] at stamped preparing
    refine (lent.stamped d n stamped).keep (by rw [array]) ?_ told
    rw [lent.live.held.prepared_mine preparing, req]
  · exact (lent.issued n (before n inHand)).keep (by rw [array]) (owned n (before n inHand)).2 told
  · rw [owner, (owned n (before n inHand)).1]
    rw [array] at lends
    exact lent.waiting n (before n inHand) lends

theorem init : Sys.init.Lent where
  live := .init
  installed _ _ := nofun
  stamped _ _ := nofun
  issued n inHand := by
    rcases inHand with pending | transit | ⟨_, current⟩
    · cases pending
    · cases transit
    · cases current
  waiting n inHand := by
    rcases inHand with pending | transit | ⟨_, current⟩
    · cases pending
    · cases transit
    · cases current

theorem of_reachable (reached : driver.ReachableUnder BufferSafe s) : s.Lent :=
  reached.invariant Lent (fun _ start => start ▸ .init)
    fun _ _ _ _ lent safe stepped => lent.step safe stepped

end Lent

/-- The response that the main thread is about to dispatch has the sequence number of the command
in flight. -/
def Filed (s : Sys) : Prop :=
  ∀ idx n, s.main.unhandled = some idx → s.priv.curCmd = some n →
    respSeqnum (s.priv.respBuf idx) = (s.priv.cmdArray n).cmdbuf.seqnum

theorem MainPc.dispatch_of_unhandled {pc : MainPc} {idx : Fin 2}
    (unhandled : pc.unhandled = some idx) : ∃ result, pc = .dispatch idx result := by
  cases pc
  case dispatch jdx result => exact ⟨result, by rw [Option.some.inj unhandled]⟩
  all_goals cases unhandled

/-- The main thread gets to a dispatch by accepting a response. -/
theorem mainStep_unhandled {success : Bool} {idx : Fin 2} (moved : s.mainStep success c = some t)
    (unhandled : t.main.unhandled = some idx) :
    ∃ n, Accepted s.priv (s.priv.respBuf idx) n ∧
      t.priv.toNodeState = s.priv.toNodeState ∧
      t.priv.toResponseSlots = s.priv.toResponseSlots := by
  by_cases quiet : s.main.quiet = true
  · have before := congrArg (fun task => task.2.2.2) (mainStep_quiet quiet moved).task
    obtain ⟨result, pc⟩ := MainPc.dispatch_of_unhandled (before.symm.trans unhandled)
    rw [pc] at quiet
    cases quiet
  cases pc : s.main
  all_goals simp only [Sys.mainStep, pc] at moved
  case process jdx =>
    rcases processResponse_cases moved with rfl | ⟨n, accepts⟩
    · cases unhandled
    rcases accepts.outcome with ⟨_, main, _⟩ | ⟨cmd, slots, _, from_slot, _⟩
    · rw [main] at unhandled
      cases unhandled
    · rw [unhandled] at from_slot
      rcases from_slot with none | same
      · cases none
      · obtain rfl : idx = jdx := Option.some.inj same
        exact ⟨n, accepts.accepted,
          (congrArg CommandState.toNodeState cmd).trans (acceptResponse_nodes _ _), slots⟩
  case dispatch jdx result =>
    have task := congrArg (fun task => task.2.2.2) (dispatchStep_frame moved).task
    cases task.symm.trans unhandled
  case timeout =>
    cases moved
    rw [timeoutStep] at unhandled
    split at unhandled
    · dsimp only at unhandled
      split at unhandled <;> cases unhandled
    · cases unhandled
  case head n =>
    rw [headStep] at moved
    split at moved
    case h_3 =>
      obtain ⟨_, rfl⟩ := beginCall_eq_some moved
      cases unhandled
    all_goals
      cases moved
      cases unhandled
  case response =>
    split at moved <;> cases moved <;> cases unhandled
  case execute =>
    split at moved
    · split at moved <;> cases moved <;> cases unhandled
    · cases moved
      cases unhandled
  case complete | clear | giveUpFree | giveUpDrop | requeue | ignore | submit | send =>
    cases moved
    cases unhandled
  all_goals exact absurd (congrArg MainPc.quiet pc) quiet

namespace Filed

theorem main {success : Bool} (moved : s.mainStep success c = some t) : t.Filed := by
  intro idx n unhandled current
  obtain ⟨m, accepted, nodes, slots⟩ := mainStep_unhandled moved unhandled
  rw [congrArg NodeState.curCmd nodes] at current
  obtain rfl : m = n := Option.some.inj (accepted.current.symm.trans current)
  rw [congrArg ResponseSlots.respBuf slots, congrArg NodeState.cmdArray nodes]
  exact ((rejects_eq_false_iff _ _).mp accepted.accepted).1.1

/-- Another party leaves the command in flight and its response alone. -/
theorem keep (filed : s.Filed) (main : t.main = s.main)
    (current : t.priv.curCmd = s.priv.curCmd)
    (array : ∀ n, s.InHand n → t.priv.cmdArray n = s.priv.cmdArray n)
    (buf : ∀ idx, s.main.unhandled = some idx → t.priv.respBuf idx = s.priv.respBuf idx) :
    t.Filed := by
  intro idx n unhandled isCurrent
  rw [main] at unhandled
  rw [current] at isCurrent
  obtain ⟨result, pc⟩ := MainPc.dispatch_of_unhandled unhandled
  rw [buf idx unhandled, array n (.inr (.inr ⟨by rw [pc]; rfl, isCurrent⟩))]
  exact filed idx n unhandled isCurrent

theorem step {action : Action} (filed : s.Filed) (live : s.Live) (occupied : s.Occupied)
    (safe : s.LiveSafe action) (stepped : s.step action = some t) : t.Filed := by
  by_cases elsewhere : (∀ c, action ≠ .client c) ∧ ∀ success c, action ≠ .main success c
  · have aside := step_aside stepped elsewhere
    have array := aside.array fun stop => by
      rw [stop] at safe
      exact safe
    refine filed.keep aside.main aside.current (fun n _ => by rw [array]) fun idx unhandled => ?_
    obtain ⟨result, pc⟩ := MainPc.dispatch_of_unhandled unhandled
    have full := occupied idx (by rw [pc]; rfl)
    unfold Sys.step at stepped
    split at stepped
    · cases stepped
    cases action with
    | client c => exact absurd rfl (elsewhere.1 c)
    | main success c => exact absurd rfl (elsewhere.2 success c)
    | deliver data =>
        cases stepped
        rw [deliverStep]
        split
        · rfl
        · dsimp only
          split
          · rfl
          · rename_i empty
            have other : idx ≠ otherSlot s.priv.respIdx := by
              rintro rfl
              exact full (not_not.mp empty)
            exact Function.update_of_ne other _ _
    | call _ _ | timerExpire | commandTimerFn | stopCard =>
        dsimp only at stepped
        split at stepped <;> cases stepped
        rfl
    | signal _ | queueEvent _ | hostToCardDone | remove | kthreadStop | setFwReady | configure _
      | transmit _ _ =>
        cases stepped
        rfl
  unfold Sys.step at stepped
  split at stepped
  · cases stepped
  cases action with
  | client c =>
      have frame := clientStep_frame stepped
      exact filed.keep frame.main frame.curCmd
        (fun n inHand => frame.array n (live.held.untouched inHand c)) fun idx _ => by
          rw [frame.priv]
  | main success c => exact .main stepped
  | _ => exact absurd ⟨by simp, by simp⟩ elsewhere

theorem of_reachable (reached : driver.ReachableUnder BufferSafe s) : s.Filed :=
  reached.invariant Filed (fun _ start => start ▸ nofun)
    fun _ _ _ before filed safe stepped =>
      filed.step (Lent.of_reachable before).live (.of_reachable before) safe.1 stepped

end Filed

/-- The main thread writes to a buffer only when it dispatches a response. -/
theorem mainStep_memory {success : Bool} (moved : s.mainStep success c = some t) :
    t.memory = s.memory ∨ ∃ idx result, s.main = .dispatch idx result ∧
      t.memory =
        applyWrite s.memory (dispatchResponse s.memory s.priv (s.priv.respBuf idx)).write := by
  by_cases quiet : s.main.quiet = true
  · exact .inl (mainStep_quiet quiet moved).memory
  cases pc : s.main
  all_goals simp only [Sys.mainStep, pc] at moved
  case dispatch idx result => exact .inr ⟨idx, result, rfl, (dispatchStep_frame moved).memory⟩
  case process idx =>
    rcases processResponse_cases moved with rfl | ⟨n, accepts⟩
    · exact .inl rfl
    · exact .inl accepts.memory
  case complete idx result =>
    cases moved
    exact .inl (by simp)
  case timeout =>
    cases moved
    rw [timeoutStep]
    split
    · dsimp only
      split <;> exact .inl rfl
    · exact .inl rfl
  case head n =>
    rw [headStep] at moved
    split at moved
    case h_3 =>
      obtain ⟨_, rfl⟩ := beginCall_eq_some moved
      exact .inl rfl
    all_goals
      cases moved
      exact .inl rfl
  case response =>
    split at moved <;> cases moved <;> exact .inl rfl
  case execute =>
    split at moved
    · split at moved <;> cases moved <;> exact .inl rfl
    · cases moved
      exact .inl rfl
  case clear | giveUpFree | giveUpDrop | requeue | ignore | submit | send =>
    cases moved
    exact .inl rfl
  all_goals exact absurd (congrArg MainPc.quiet pc) quiet

/-- A buffer changes when its call starts, and when the main thread writes to it. -/
theorem step_memory {action : Action} {p : Pointer} (stepped : s.step action = some t)
    (changed : t.memory p ≠ s.memory p) :
    (∃ req, action = .call p req) ∨ ∃ resp, s.Writes action p resp := by
  unfold Sys.step at stepped
  split at stepped
  · cases stepped
  cases action with
  | call c req =>
      dsimp only at stepped
      split at stepped <;> cases stepped
      refine .inl ⟨req, ?_⟩
      by_contra other
      apply changed
      have elsewhere : p ≠ c := fun same => other (by rw [same])
      cases req with
      | mk kind cmdNo cmdAction content buffer =>
          cases buffer with
          | none => rfl
          | some bytes => exact Function.update_of_ne elsewhere _ _
  | client c => exact absurd (by rw [(clientStep_frame stepped).memory]) changed
  | main success c =>
      rcases mainStep_memory stepped with same | ⟨idx, result, pc, written⟩
      · exact absurd (by rw [same]) changed
      refine .inr ⟨s.priv.respBuf idx, ?_⟩
      by_contra silent
      apply changed
      rw [written]
      refine applyWrite_of_ne fun q bytes wrote same => silent ?_
      exact ⟨success, c, idx, result, bytes, rfl, pc, rfl, by rw [same]; exact wrote⟩
  | deliver data =>
      cases stepped
      refine absurd ?_ changed
      rw [deliverStep]
      split
      · rfl
      · dsimp only
        split <;> rfl
  | timerExpire | commandTimerFn | stopCard =>
      dsimp only at stepped
      split at stepped <;> cases stepped
      exact absurd rfl changed
  | signal _ | queueEvent _ | hostToCardDone | remove | kthreadStop | setFwReady | configure _
    | transmit _ _ =>
      cases stepped
      exact absurd rfl changed

/-- What is written goes to a call that waits for the command in flight. -/
theorem Lent.writes {action : Action} {p : Pointer} {resp : List UInt8} (lent : s.Lent)
    (filed : s.Filed) (safe : s.BufferSafe action) (writes : s.Writes action p resp) :
    (∀ ret, (s.client p).phase ≠ .returned ret) ∧ s.AnswersCall p resp := by
  obtain ⟨success, c, idx, result, bytes, rfl, pc, rfl, wrote⟩ := writes
  obtain ⟨n, current, arg, copies⟩ := dispatchResponse_copies wrote
  have inHand : s.InHand n := .inr (.inr ⟨by rw [pc]; rfl, current⟩)
  have mine : s.owner n = p := ((lent.live.tagged n p arg).1).symm
  have reply := safe.2 idx n (by rw [pc]; rfl) current copies
  obtain ⟨callback, assembled, issued⟩ := lent.issued n inHand
  rw [mine] at callback assembled issued
  have seqnum := filed idx n (by rw [pc]; rfl) current
  refine ⟨fun ret returned => ?_, _, _, _, assembled, by rw [seqnum]; exact issued, reply⟩
  rcases copies with copyback | ⟨handler, copied⟩
  · rw [copyback] at callback
    have isCmd : (s.client p).req.isCmd = true := by
      cases kind : (s.client p).req.kind <;>
        simp [Request.callback, Request.isCmd, kind] at callback ⊢
    have waits := ((lent.live.waited n inHand).2 (by rw [mine]; exact isCmd)).1
    rw [mine, returned] at waits
    cases waits
  · have lends : (s.priv.cmdArray n).Lends :=
      ⟨handler, by simp [arg], copied_of_reply reply copied⟩
    have waiting := lent.waiting n inHand lends
    rw [mine, returned] at waiting
    exact waiting rfl

end Lent

end Sys

/-- If no call returns while its buffer is lent, and copied responses have the reply code of the
command in flight, a buffer is only written to while its call has not returned, and only for a
response to the command of that call. Apart from the start of a call, nothing else changes a
buffer. -/
theorem buffers_written_during_calls {s t : Sys} {action : Action}
    (reached : driver.ReachableUnder Sys.BufferSafe s) (safe : s.BufferSafe action)
    (stepped : driver.step s action = some t) (p : Pointer) :
    (∀ resp, s.Writes action p resp →
      (∀ ret, (s.client p).phase ≠ .returned ret) ∧ s.AnswersCall p resp) ∧
    (t.memory p ≠ s.memory p →
      (∃ req, action = .call p req) ∨ ∃ resp, s.Writes action p resp) :=
  ⟨fun _ => (Sys.Lent.of_reachable reached).writes (.of_reachable reached) safe,
    Sys.step_memory stepped⟩

instance (node : CmdCtrlNode) (resp : List UInt8) : Decidable (node.Copies resp) := by
  unfold CmdCtrlNode.Copies
  infer_instance

instance (node : CmdCtrlNode) : Decidable node.Lends := by
  unfold CmdCtrlNode.Lends
  infer_instance

instance (command code : UInt16) : Decidable (IsReplyCode command code) := by
  unfold IsReplyCode
  infer_instance

instance (s : Sys) (n : NodeId) : Decidable (s.InHand n) := by
  unfold Sys.InHand
  infer_instance

instance (s : Sys) : (action : Action) → Decidable (s.LiveSafe action)
  | .client c => inferInstanceAs (Decidable (s.Patient s.mainView c))
  | .stopCard => .isFalse id
  | .call _ _ | .main _ _ | .signal _ | .deliver _ | .queueEvent _ | .hostToCardDone
  | .timerExpire | .commandTimerFn | .remove | .kthreadStop | .setFwReady | .configure _
  | .transmit _ _ => .isTrue trivial

instance (s : Sys) (action : Action) : Decidable (s.BufferSafe action) := by
  unfold Sys.BufferSafe
  cases action <;> infer_instance

/-- A call for the timestamp of the card. -/
def getTsfRequest : Request :=
  { kind := .prepareAndSend true, cmdNo := cmdGetTsf, cmdAction := 0
    content := some (16, List.replicate 8 0), buffer := some (List.replicate 8 0) }

/-- The reply to the first command, with a timestamp of eight ones. -/
def getTsfReply : List UInt8 :=
  [0x80, 0x80, 16, 0, 1, 0, 0, 0] ++ List.replicate 8 1

/-- The call queues its command. -/
def getTsfQueued : List Action :=
  [.setFwReady, .call 0 getTsfRequest] ++ List.replicate 6 (.client 0)

/-- The command is sent and answered, and the main thread is about to dispatch the reply. -/
def getTsfAnswered : List Action :=
  List.replicate 14 (.main true 1000) ++ [.hostToCardDone, .deliver getTsfReply] ++
    List.replicate 4 (.main true 1000)

/-- The reply is written to the buffer of the call that waits for it. -/
theorem buffers_written_during_calls_tsf : ∃ s t,
    (driver.runUnder Sys.BufferSafe Sys.init (getTsfQueued ++ getTsfAnswered) = some s ∧
      driver.step s (.main true 1000) = some t ∧ t.memory 0 ≠ s.memory 0) ∧
    (∀ resp, s.Writes (.main true 1000) 0 resp →
      (∀ ret, (s.client 0).phase ≠ .returned ret) ∧ s.AnswersCall 0 resp) ∧
    (t.memory 0 ≠ s.memory 0 →
      (∃ req, Action.main true 1000 = .call 0 req) ∨
        ∃ resp, s.Writes (.main true 1000) 0 resp) := by
  obtain ⟨s, executed, safe, moves⟩ := Machine.exists_of_map
    (fun s : Sys => s.BufferSafe (.main true 1000) ∧
      ((driver.step s (.main true 1000)).map fun t => decide (t.memory 0 ≠ s.memory 0)) =
        some true)
    (show (driver.runUnder Sys.BufferSafe Sys.init (getTsfQueued ++ getTsfAnswered)).map _ =
      some true by decide +kernel)
  obtain ⟨t, stepped, changed⟩ := Machine.exists_of_map (fun t : Sys => t.memory 0 ≠ s.memory 0)
    moves
  exact ⟨s, t, ⟨executed, stepped, changed⟩,
    buffers_written_during_calls (.run (.initial rfl) executed) safe stepped 0⟩

/-- A signal ends the wait, and the call returns. The reply is still written to its buffer. -/
theorem buffer_written_after_return : ∃ s t,
    driver.run Sys.init (getTsfQueued ++ [.signal 0, .client 0, .client 0] ++ getTsfAnswered) =
      some s ∧
    driver.Reachable s ∧ driver.step s (.main true 1000) = some t ∧
    (s.client 0).phase = .returned 0 ∧ t.memory 0 ≠ s.memory 0 := by
  obtain ⟨s, executed, returned, moves⟩ := Machine.exists_of_map
    (fun s : Sys => (s.client 0).phase = .returned 0 ∧
      ((driver.step s (.main true 1000)).map fun t => decide (t.memory 0 ≠ s.memory 0)) =
        some true)
    (show (driver.run Sys.init (getTsfQueued ++ [.signal 0, .client 0, .client 0] ++
      getTsfAnswered)).map _ = some true by decide +kernel)
  obtain ⟨t, stepped, changed⟩ := Machine.exists_of_map (fun t : Sys => t.memory 0 ≠ s.memory 0)
    moves
  exact ⟨s, t, executed, Machine.reachable_of_run rfl executed, stepped, returned, changed⟩

end Libertas
