import Libertas.Transition.Turn
import Libertas.Driver.Mailbox
import Libertas.Driver.Retry

/-!
# Iterations of the main thread

An iteration leads from the top of the loop in `lbs_thread` back to the top. Nobody
else steps in here: the difference between the two ends is what the iteration did.

Every iteration ends, as long as the thread is not told to stop. `iterationRank` counts
the events that are still in the fifo and the control points up to the next event.
-/

namespace Libertas

/-- Before `cmd_timed_out` is cleared. -/
def MainPc.recovering : MainPc → Bool
  | .response | .process _ | .dispatch _ _ | .complete _ _ | .clear _
  | .calling _ (.complete _ _) | .timeout | .giveUpFree _ | .giveUpDrop _ | .requeue _
  | .timeoutClear => true
  | _ => false

/-- Before the end of the event loop. -/
def MainPc.draining : MainPc → Bool
  | .events | .event _ | .confirm .event | .confirmSend .event | .confirmSet .event
  | .calling _ .events => true
  | pc => pc.recovering

theorem MainPc.draining_of_recovering {pc : MainPc} (recovering : pc.recovering = true) :
    pc.draining = true := by
  cases pc with
  | confirm site | confirmSend site | confirmSet site => cases recovering
  | calling c next => cases next <;> first | rfl | cases recovering
  | _ => first | rfl | exact recovering

/-- A response is worked on before `cmd_timed_out` is cleared. -/
theorem MainPc.recovering_of_slot {pc : MainPc} {idx : Fin 2} (slot : pc.slot = some idx) :
    pc.recovering = true := by
  cases pc with
  | calling c next => cases next <;> first | rfl | cases slot
  | _ => first | rfl | cases slot

/-- The number of steps that a call which does not wait has left. -/
def Phase.rank : Phase → Nat
  | .start => 9
  | .alloc => 8
  | .fill _ => 7
  | .stamp _ => 6
  | .abort _ | .queue _ => 5
  | .insert _ _ | .unqueued _ => 4
  | .wait _ | .finish _ => 3
  | .idle | .returned _ => 0

/-- The call goes on by itself until it returns. -/
structure Client.Onward (cl : Client) : Prop where
  waits : cl.req.waits = false
  started : cl.phase ≠ .idle
  awake : ∀ n, cl.phase ≠ .wait n

theorem Client.Onward.fresh {req : Request} (waits : req.waits = false) :
    Client.Onward { req := req, phase := .start, signalled := false } where
  waits := waits
  started := nofun
  awake := nofun

/-- The main thread neither waits for a call nor is at its end. -/
def MainPc.walks : MainPc → Bool
  | .stopped | .calling _ _ => false
  | _ => true

namespace Sys

/-- The actions of the main thread, and of a call it waits for. `confirmed` is the outcome of
`hw_host_to_card` for a sleep confirmation. -/
inductive Alone (confirmed : Bool) (s : Sys) : Action → Prop
  | main (success : Bool) (c : CallId) :
      (∀ site, s.main = .confirmSend site → success = confirmed) →
      Alone confirmed s (.main success c)
  | call (c : CallId) (next : Resume) : s.main = .calling c next → Alone confirmed s (.client c)

/-- The main thread is at the top of its loop. -/
def AtTop (s : Sys) : Prop :=
  s.main = .top

/-- The main thread comes from `s` to the top of its loop in `t`. -/
abbrev Finishes (confirmed : Bool) : Sys → Sys → Prop :=
  driver.Turn (Alone confirmed) AtTop

/-- An iteration leads from `s` to `t`. -/
def Iterates (confirmed : Bool) (s t : Sys) : Prop :=
  ∃ action s', s.Alone confirmed action ∧ driver.step s action = some s' ∧
    Finishes confirmed s' t

/-- The main thread is at the top of its loop and decides not to sleep. It is not told to stop. -/
structure Decides (s : Sys) : Prop where
  top : s.main = .top
  running : s.bug = false
  stop : s.shouldStop = false
  wakeful : s.shouldSleep = false

/-- Only finitely many calls have started. -/
def NamesLeft (s : Sys) : Prop :=
  ∃ bound, ∀ c, bound ≤ c → (s.client c).phase = .idle

/-- The states from which the main thread gets to the top of its loop. -/
structure Going (s : Sys) : Prop where
  running : s.bug = false
  stop : s.shouldStop = false
  alive : s.main ≠ .stopped
  call : ∀ c next, s.main = .calling c next → (s.client c).Onward
  fresh : s.NamesLeft

/-- An upper bound of the steps to the top of the loop. -/
def iterationRank (s : Sys) : Nat :=
  let events := 40 + 40 * s.priv.eventFifo.length
  match s.main with
  | .top | .stopped => 0
  | .tx => 1
  | .send _ | .ignore _ _ => 2
  | .submit _ => 3
  | .calling c .tx => 2 + (s.client c).phase.rank
  | .head _ | .goSleep => 12
  | .execute => 13
  | .blocked => 14
  | .confirmSet .presleep => 15
  | .confirmSend .presleep => 16
  | .confirm .presleep => 17
  | .presleep => 18
  | .ready => 19
  | .events => events
  | .calling c .events => events + 1 + (s.client c).phase.rank
  | .confirmSet .event => events + 1
  | .confirmSend .event => events + 2
  | .confirm .event => events + 3
  | .event _ => events + 11
  | .timeoutClear => events + 1
  | .requeue _ | .giveUpDrop _ => events + 2
  | .giveUpFree _ => events + 3
  | .timeout => events + 4
  | .clear _ => events + 5
  | .complete _ _ => events + 6
  | .calling c (.complete _ _) => events + 7 + (s.client c).phase.rank
  | .dispatch _ _ => events + 17
  | .process _ => events + 18
  | .response => events + 19
  | .awake => events + 20
  | .sleeping => events + 21

section Progress

variable {s t : Sys} {c : CallId} {confirmed : Bool}

@[simp] theorem log_shouldStop (s : Sys) (e : Event) : (s.log e).shouldStop = s.shouldStop := rfl

@[simp] theorem withCmd_shouldStop (s : Sys) (cs : CommandState) :
    (s.withCmd cs).shouldStop = s.shouldStop := rfl

@[simp] theorem logAccepted_shouldStop (s : Sys) (resp : List UInt8) :
    (s.logAccepted resp).shouldStop = s.shouldStop := by
  rw [logAccepted]
  split <;> rfl

@[simp] theorem logCompleted_shouldStop (s : Sys) (result : Int) :
    (s.logCompleted result).shouldStop = s.shouldStop := by
  rw [logCompleted]
  split <;> rfl

@[simp] theorem logCallback_shouldStop (s : Sys) (resp : List UInt8) :
    (s.logCallback resp).shouldStop = s.shouldStop := by
  rw [logCallback]
  split <;> rfl

/-- One more call starts. -/
theorem NamesLeft.grow (left : s.NamesLeft)
    (others : ∀ d, d ≠ c → (t.client d).phase = (s.client d).phase) : t.NamesLeft := by
  obtain ⟨bound, fresh⟩ := left
  refine ⟨max bound (c + 1), fun d above => ?_⟩
  have other : d ≠ c := Nat.ne_of_gt (Nat.lt_of_lt_of_le (Nat.le_max_right bound (c + 1)) above)
  rw [others d other]
  exact fresh d (Nat.le_trans (Nat.le_max_left bound (c + 1)) above)

/-- The main thread moves to a control point that is neither the end nor a call. -/
theorem Going.move (going : s.Going) (bug : t.bug = s.bug) (stop : t.shouldStop = s.shouldStop)
    (client : t.client = s.client) (walks : t.main.walks = true) : t.Going where
  running := bug.trans going.running
  stop := stop.trans going.stop
  alive stopped := by
    rw [stopped] at walks
    cases walks
  call c next calling := by
    rw [calling] at walks
    cases walks
  fresh := going.fresh.grow (c := 0) fun d _ => by rw [client]

/-- The main thread begins a call. -/
theorem Going.withCall {req : Request} {next : Resume} (going : s.Going)
    (waits : req.waits = false) : (s.withCall c req next).Going := by
  refine ⟨going.running, going.stop, nofun, fun d onward calling => ?_, ?_⟩
  · cases calling
    simp only [Sys.withCall, ↓reduceIte]
    exact .fresh waits
  · refine going.fresh.grow (c := c) fun d other => ?_
    simp only [Sys.withCall, other, ↓reduceIte]

/-- The main thread can take a step that brings it nearer to the top of its loop. -/
def Nears (confirmed : Bool) (s : Sys) : Prop :=
  ∃ c t, s.mainStep confirmed c = some t ∧ t.Going ∧ t.iterationRank < s.iterationRank

/-- The step does not depend on a name, and no call begins. -/
theorem Nears.move (here : s.mainStep confirmed 0 = some t) (going : t.Going)
    (lower : t.iterationRank < s.iterationRank) : Nears confirmed s :=
  ⟨0, t, here, going, lower⟩

/-- A call of the main thread can begin: there is always a name for it. -/
theorem Nears.call {req : Request} {next : Resume} (here : ∀ c,
      s.mainStep confirmed c = t.beginCall c req next) (going : t.Going)
    (waits : req.waits = false)
    (lower : ∀ c, (t.withCall c req next).iterationRank < s.iterationRank) :
    Nears confirmed s := by
  obtain ⟨bound, fresh⟩ := going.fresh
  have begun : t.beginCall bound req next = some (t.withCall bound req next) :=
    if_pos (fresh bound (Nat.le_refl bound))
  exact ⟨bound, _, (here bound).trans begun, going.withCall waits, lower bound⟩

theorem processResponse_nears {idx : Fin 2} (going : s.Going) (pc : s.main = .process idx) :
    Nears confirmed s := by
  have mailbox : ∀ next, (judge s.priv (s.priv.respBuf idx)).next = some next →
      next.eventFifo = s.priv.eventFifo := fun next judged =>
    congrArg Mailbox.eventFifo (judge_frame judged).mailbox
  have here : ∀ c, s.mainStep confirmed c = s.processResponse idx c := by simp [mainStep, pc]
  unfold processResponse at here
  dsimp only at here
  cases verdict : judge s.priv (s.priv.respBuf idx) with
  | drop =>
      simp only [verdict] at here
      exact .move (here 0) (going.move rfl rfl rfl rfl) (by simp [iterationRank, pc])
  | done next _ =>
      have fifo := mailbox next (by rw [verdict]; rfl)
      simp only [verdict] at here
      exact .move (here 0) (going.move (by simp) (by simp) (by simp) rfl)
        (by simp [iterationRank, pc, fifo])
  | wakeup next =>
      have fifo := mailbox next (by rw [verdict]; rfl)
      simp only [verdict] at here
      refine .call here (going.move ?_ ?_ ?_ ?_) rfl fun c => ?_
      · simp
      · simp
      · simp
      · simp [pc, MainPc.walks]
      · simp [withCall, iterationRank, pc, fifo, Phase.rank]
  | dispatch next =>
      have fifo := mailbox next (by rw [verdict]; rfl)
      simp only [verdict] at here
      exact .move (here 0) (going.move (by simp) (by simp) (by simp) rfl)
        (by simp [iterationRank, pc, fifo])

theorem dispatchStep_nears {idx : Fin 2} {result : UInt16} (going : s.Going)
    (pc : s.main = .dispatch idx result) : Nears confirmed s := by
  have core := dispatchResponse_core s.memory s.priv (s.priv.respBuf idx)
  have fifo := congrArg (fun core => core.2.2.eventFifo) core
  have here : ∀ c, s.mainStep confirmed c = s.dispatchStep idx result c := by simp [mainStep, pc]
  unfold dispatchStep at here
  dsimp only [Priv.core] at here fifo
  cases wakeup : (dispatchResponse s.memory s.priv (s.priv.respBuf idx)).wakeup with
  | true =>
      simp only [wakeup, ↓reduceIte] at here
      refine .call here (going.move ?_ ?_ ?_ ?_) rfl fun c => ?_
      · simp
      · simp
      · simp
      · simp [pc, MainPc.walks]
      · simp [withCall, iterationRank, pc, fifo, Phase.rank]
  | false =>
      simp only [wakeup, Bool.false_eq_true, ↓reduceIte] at here
      exact .move (here 0) (going.move (by simp) (by simp) (by simp) rfl)
        (by simp [iterationRank, pc, fifo])

theorem processEvent_nears {e : UInt32} (going : s.Going) (pc : s.main = .event e) :
    Nears confirmed s := by
  have here : ∀ c, s.mainStep confirmed c = s.processEvent e confirmed c := by simp [mainStep, pc]
  unfold processEvent at here
  split at here
  · have fifo := congrArg (fun core => core.2.2.eventFifo) (lbsMacEventDisconnected_core s.priv 0)
    dsimp only [Priv.core] at here fifo
    split at here
    · refine .call here (going.move rfl rfl rfl ?_) rfl fun c => ?_
      · simp [pc, MainPc.walks]
      · simp [withCall, iterationRank, pc, fifo, Phase.rank]
    · exact .move (here 0) (going.move rfl rfl rfl rfl) (by simp [iterationRank, pc, fifo])
  split at here
  · split at here
    · exact .move (here 0) (going.move rfl rfl rfl rfl) (by simp [iterationRank, pc])
    · exact .move (here 0) (going.move rfl rfl rfl rfl) (by simp [iterationRank, pc])
  split at here
  · refine .move (here 0) (going.move rfl rfl rfl rfl) ?_
    cases confirmed <;> simp [iterationRank, pc, handCommand]
  split at here
  · split at here
    · exact .move (here 0) (going.move rfl rfl rfl rfl) (by simp [iterationRank, pc])
    · dsimp only at here
      split at here
      · refine .call here (going.move rfl rfl rfl ?_) rfl fun c => ?_
        · simp [pc, MainPc.walks]
        · simp [withCall, iterationRank, pc, Phase.rank]
      · exact .move (here 0) (going.move rfl rfl rfl rfl) (by simp [iterationRank, pc])
  split at here
  · dsimp only at here
    refine .move (here 0) (going.move rfl rfl rfl rfl) ?_
    cases opened : s.priv.settings.meshOpen <;> simp [iterationRank, pc]
  · exact .move (here 0) (going.move rfl rfl rfl rfl) (by simp [iterationRank, pc])

theorem headStep_nears {n : NodeId} (going : s.Going) (pc : s.main = .head n) :
    Nears confirmed s := by
  have here : ∀ c, s.mainStep confirmed c = s.headStep n c := by simp [mainStep, pc]
  unfold headStep at here
  cases action : headAction s.priv.psstate (s.priv.cmdArray n).cmdbuf with
  | wakeup =>
      simp only [action] at here
      exact .call here going rfl fun c => by simp [withCall, iterationRank, pc, Phase.rank]
  | refuse | markWakeup | ignore wake | submit =>
      simp only [action] at here
      exact .move (here 0) (going.move rfl rfl rfl rfl) (by simp [iterationRank, pc])

/-- A call that does not wait gets nearer to its return. -/
structure Shortens (c : CallId) (s t : Sys) : Prop where
  stop : t.shouldStop = s.shouldStop
  awake : ∀ n, (t.client c).phase ≠ .wait n
  lower : (t.client c).phase.rank < (s.client c).phase.rank

theorem clientStep_shortens (onward : (s.client c).Onward) (stepped : s.clientStep c = some t) :
    Shortens c s t := by
  obtain ⟨waits, started, awake⟩ := onward
  cases phase : (s.client c).phase <;>
    simp only [clientStep, phase, reduceCtorEq, waits, Bool.false_eq_true, ↓reduceIte] at stepped
  case start | alloc | stamp n | queue n | finish n =>
    split at stepped <;> cases stepped
    all_goals exact ⟨rfl, by simp, by simp [phase, Phase.rank]⟩
  case fill n | abort n =>
    cases stepped
    exact ⟨rfl, by simp, by simp [phase, Phase.rank]⟩
  case insert n tail | unqueued n =>
    cases stepped
    refine ⟨rfl, ?_, ?_⟩
    · by_cases async : (s.client c).req.kind = .cmdAsync <;> simp [async]
    · by_cases async : (s.client c).req.kind = .cmdAsync <;> simp [phase, async, Phase.rank]
  case wait n => exact absurd phase (awake n)

theorem exists_clientStep (onward : (s.client c).Onward)
    (active : ∀ ret, (s.client c).phase ≠ .returned ret) : ∃ t, s.clientStep c = some t := by
  obtain ⟨waits, started, awake⟩ := onward
  cases phase : (s.client c).phase with
  | idle => exact absurd phase started
  | returned ret => exact absurd phase (active ret)
  | wait n => exact absurd phase (awake n)
  | start | alloc | stamp n | queue n | finish n =>
      simp only [clientStep, phase]
      split <;> exact ⟨_, rfl⟩
  | fill n | abort n | insert n tail | unqueued n =>
      simp only [clientStep, phase, waits, Bool.false_eq_true, ↓reduceIte]
      exact ⟨_, rfl⟩

/-- The main thread waits for a call, which takes a step. -/
theorem Going.client {next : Resume} (going : s.Going) (pc : s.main = .calling c next)
    (stepped : s.clientStep c = some t) : t.Going ∧ t.iterationRank < s.iterationRank := by
  have onward := going.call c next pc
  have shortens := clientStep_shortens onward stepped
  have frame := clientStep_frame stepped
  have main := frame.main.trans pc
  have lower := shortens.lower
  obtain ⟨phase, started, client⟩ := frame.client
  have self : t.client c = { s.client c with phase := phase } := by rw [client]; simp
  constructor
  · refine ⟨frame.bug.trans going.running, shortens.stop.trans going.stop, ?_, ?_, ?_⟩
    · rw [main]
      exact nofun
    · intro d onwards calling
      cases main.symm.trans calling
      refine ⟨?_, ?_, shortens.awake⟩
      · rw [self]
        exact onward.waits
      · rw [self]
        exact started
    · refine going.fresh.grow (c := c) fun d other => ?_
      rw [client, setPhase_client_of_ne other]
  · have fifo : t.priv.eventFifo = s.priv.eventFifo := by rw [frame.priv]
    cases next <;> simp only [iterationRank, main, pc, fifo] <;> omega

/-- Away from the top of its loop, the main thread gets nearer to it, unless it waits for a
call. -/
theorem mainStep_nears (going : s.Going) (away : s.main ≠ .top)
    (free : ∀ c next, s.main ≠ .calling c next) : Nears confirmed s := by
  cases pc : s.main
  case top => exact absurd pc away
  case stopped => exact absurd pc going.alive
  case calling c next => exact absurd pc (free c next)
  case process idx => exact processResponse_nears going pc
  case dispatch idx result => exact dispatchStep_nears going pc
  case event e => exact processEvent_nears going pc
  case head n => exact headStep_nears going pc
  case goSleep =>
    cases must : mustSleep s.priv with
    | true =>
        have here : ∀ c, s.mainStep confirmed c = s.beginCall c psSleepRequest .tx := by
          simp [mainStep, pc, must]
        exact .call here going rfl fun c => by simp [withCall, iterationRank, pc, Phase.rank]
    | false =>
        have here : s.mainStep confirmed 0 = some { s with main := .tx } := by
          simp [mainStep, pc, must]
        exact .move here (going.move rfl rfl rfl rfl) (by simp [iterationRank, pc])
  all_goals simp only [Nears, mainStep, pc]
  case sleeping | timeoutClear | giveUpFree | giveUpDrop | requeue | clear | ignore | submit =>
    exact ⟨0, _, rfl, going.move (by simp) (by simp) (by simp) rfl, by
      simp [iterationRank, pc]⟩
  case complete idx result =>
    refine ⟨0, _, rfl, going.move (by simp) (by simp) (by simp) rfl, ?_⟩
    rw [completeCurCmd_eq]
    simp [iterationRank, pc]
  case awake =>
    rw [if_neg (by simp [going.stop])]
    split
    · exact ⟨0, _, rfl, going.move rfl rfl rfl rfl, by simp [iterationRank, pc]⟩
    · exact ⟨0, _, rfl, going.move rfl rfl rfl rfl, by simp [iterationRank, pc]⟩
  case response =>
    split
    · exact ⟨0, _, rfl, going.move rfl rfl rfl rfl, by simp [iterationRank, pc]⟩
    · exact ⟨0, _, rfl, going.move rfl rfl rfl rfl, by simp [iterationRank, pc]⟩
  case timeout =>
    rw [timeoutStep]
    split
    · dsimp only
      split
      · exact ⟨0, _, rfl, going.move rfl rfl rfl rfl, by simp [iterationRank, pc]⟩
      · exact ⟨0, _, rfl, going.move rfl rfl rfl rfl, by simp [iterationRank, pc]⟩
    · exact ⟨0, _, rfl, going.move rfl rfl rfl rfl, by simp [iterationRank, pc]⟩
  case events =>
    split
    · exact ⟨0, _, rfl, going.move rfl rfl rfl rfl, by simp [iterationRank, pc]; omega⟩
    · rename_i e rest fifo
      refine ⟨0, _, rfl, going.move rfl rfl rfl rfl, ?_⟩
      simp only [iterationRank, pc, fifo, List.length_cons]
      omega
  case confirm site =>
    split
    · refine ⟨0, _, rfl, going.move rfl rfl rfl rfl, ?_⟩
      cases site <;> simp [iterationRank, pc]
    · cases site
      · exact ⟨0, _, rfl, going.move rfl rfl rfl rfl, by
          simp [iterationRank, pc, ConfirmSite.pc]⟩
      · exact ⟨0, _, rfl, going.move rfl rfl rfl rfl, by
          simp [iterationRank, pc, ConfirmSite.pc]⟩
  case confirmSend site =>
    refine ⟨0, _, rfl, going.move rfl rfl rfl ?_, ?_⟩
    · cases site <;> cases confirmed <;> rfl
    · cases site <;> cases confirmed <;>
        simp [iterationRank, pc, ConfirmSite.pc, handCommand]
  case confirmSet site =>
    refine ⟨0, _, rfl, going.move rfl rfl rfl ?_, ?_⟩
    · cases site <;> rfl
    · cases site <;> simp [iterationRank, pc, ConfirmSite.pc]
  case ready =>
    cases loaded : s.priv.fwReady with
    | true => exact ⟨0, _, rfl, going.move rfl rfl rfl rfl, by simp [iterationRank, pc]⟩
    | false => exact ⟨0, _, rfl, going.move rfl rfl rfl rfl, by simp [iterationRank, pc]⟩
  case presleep =>
    split
    · split
      · exact ⟨0, _, rfl, going.move rfl rfl rfl rfl, by simp [iterationRank, pc]⟩
      · exact ⟨0, _, rfl, going.move rfl rfl rfl rfl, by simp [iterationRank, pc]⟩
    · exact ⟨0, _, rfl, going.move rfl rfl rfl rfl, by simp [iterationRank, pc]⟩
  case blocked =>
    cases asleep : s.priv.psstate.asleep with
    | true => exact ⟨0, _, rfl, going.move rfl rfl rfl rfl, by simp [iterationRank, pc]⟩
    | false => exact ⟨0, _, rfl, going.move rfl rfl rfl rfl, by simp [iterationRank, pc]⟩
  case execute =>
    split
    · split
      · exact ⟨0, _, rfl, going.move rfl rfl rfl rfl, by simp [iterationRank, pc]⟩
      · exact ⟨0, _, rfl, going.move rfl rfl rfl rfl, by simp [iterationRank, pc]⟩
    · exact ⟨0, _, rfl, going.move rfl rfl rfl rfl, by simp [iterationRank, pc]⟩
  case send n =>
    exact ⟨0, _, rfl, going.move rfl rfl rfl rfl, by simp [iterationRank, pc]⟩
  case tx =>
    rw [txStep]
    split
    · exact ⟨0, _, rfl, going.move rfl rfl rfl rfl, by simp [iterationRank, pc]⟩
    · exact ⟨0, _, rfl, going.move rfl rfl rfl rfl, by simp [iterationRank, pc]⟩

theorem alone_main (running : s.bug = false) (moved : s.mainStep confirmed c = some t) :
    s.Alone confirmed (.main confirmed c) ∧ driver.step s (.main confirmed c) = some t := by
  refine ⟨.main _ _ fun _ _ => rfl, ?_⟩
  show s.step (.main confirmed c) = some t
  rw [step, if_neg (by simp [running])]
  exact moved

theorem alone_client {next : Resume} (running : s.bug = false) (pc : s.main = .calling c next)
    (stepped : s.clientStep c = some t) :
    s.Alone confirmed (.client c) ∧ driver.step s (.client c) = some t := by
  refine ⟨.call c next pc, ?_⟩
  show s.step (.client c) = some t
  rw [step, if_neg (by simp [running])]
  exact stepped

/-- The call that the main thread waits for returned. -/
theorem returned_nears {next : Resume} {ret : Int} (going : s.Going)
    (pc : s.main = .calling c next) (returned : (s.client c).phase = .returned ret) :
    Nears confirmed s := by
  have here : s.mainStep confirmed 0 = some { s with main := next.pc } := by
    simp [mainStep, pc, returned]
  refine .move here (going.move rfl rfl rfl ?_) ?_
  · cases next <;> rfl
  · cases next <;> simp only [iterationRank, pc, Resume.pc] <;> omega

/-- Alone, the main thread gets nearer to the top of its loop. -/
theorem exists_alone (confirmed : Bool) (s : Sys) (going : s.Going) (away : ¬ s.AtTop) :
    ∃ action t, s.Alone confirmed action ∧ driver.step s action = some t ∧ t.Going ∧
      t.iterationRank < s.iterationRank := by
  have of_main : Nears confirmed s → ∃ action t, s.Alone confirmed action ∧
      driver.step s action = some t ∧ t.Going ∧ t.iterationRank < s.iterationRank := by
    rintro ⟨c, t, moved, after⟩
    obtain ⟨mine, stepped⟩ := alone_main going.running moved
    exact ⟨_, t, mine, stepped, after⟩
  by_cases waiting : ∃ c next, s.main = .calling c next
  · obtain ⟨c, next, pc⟩ := waiting
    by_cases returned : ∃ ret, (s.client c).phase = .returned ret
    · obtain ⟨ret, returned⟩ := returned
      exact of_main (returned_nears going pc returned)
    · obtain ⟨t, stepped⟩ := exists_clientStep (going.call c next pc) (not_exists.mp returned)
      obtain ⟨mine, stepped'⟩ := alone_client going.running pc stepped
      exact ⟨_, t, mine, stepped', going.client pc stepped⟩
  · exact of_main (mainStep_nears going away fun c next pc => waiting ⟨c, next, pc⟩)

theorem NamesLeft.step {action : Action} (left : s.NamesLeft)
    (stepped : s.step action = some t) : t.NamesLeft := by
  unfold Sys.step at stepped
  split at stepped
  · cases stepped
  cases action with
  | client c =>
      obtain ⟨phase, _, client⟩ := (clientStep_frame stepped).client
      refine left.grow (c := c) fun d other => ?_
      rw [client, setPhase_client_of_ne other]
  | main success c =>
      rcases SameClients.mainStep stepped with same | ⟨e, req, _, _, _, began⟩
      · exact left.grow (c := 0) fun d _ => by rw [same]
      · refine left.grow (c := e) fun d other => ?_
        rw [began]
        simp only [other, ↓reduceIte]
  | call c req =>
      dsimp only at stepped
      split at stepped <;> cases stepped
      refine left.grow (c := c) fun d other => ?_
      simp only [other, ↓reduceIte]
  | signal c =>
      cases stepped
      refine left.grow (c := c) fun d other => ?_
      simp only [other, ↓reduceIte]
  | deliver data =>
      cases stepped
      refine left.grow (c := 0) fun d _ => ?_
      unfold deliverStep
      split
      · rfl
      · dsimp only
        split <;> rfl
  | stopCard | timerExpire | commandTimerFn =>
      dsimp only at stepped
      split at stepped <;> cases stepped
      exact left
  | queueEvent _ | hostToCardDone | remove | kthreadStop | setFwReady | configure _
    | transmit _ _ =>
      cases stepped
      exact left

theorem NamesLeft.of_reachable (reached : driver.Reachable s) : s.NamesLeft := by
  refine reached.invariant NamesLeft ?_ fun s action t _ left _ stepped => left.step stepped
  rintro s rfl
  exact ⟨0, fun _ _ => rfl⟩

/-- The main thread comes to the top of its loop. -/
theorem exists_finish (confirmed : Bool) (going : s.Going) : ∃ t, Finishes confirmed s t :=
  Machine.Turn.exists_of_variant Going iterationRank (exists_alone confirmed) s going

end Progress

section Consumption

variable {s t : Sys} {c : CallId} {success : Bool} {idx : Fin 2}

/-- A timeout and the pending events are dealt with, or are still to be dealt with in this
iteration. -/
structure Settling (s : Sys) : Prop where
  recovered : s.main.recovering = true ∨ s.priv.cmdTimedOut = false
  drained : s.main.draining = true ∨ s.priv.eventFifo = []

theorem Settling.early (recovering : t.main.recovering = true) : t.Settling where
  recovered := .inl recovering
  drained := .inl (MainPc.draining_of_recovering recovering)

/-- Within the event loop. -/
theorem Settling.within (settling : s.Settling) (recovered : s.main.recovering = false)
    (timer : t.priv.cmdTimedOut = s.priv.cmdTimedOut) (draining : t.main.draining = true) :
    t.Settling where
  recovered := .inr (timer.trans (settling.recovered.resolve_left (by simp [recovered])))
  drained := .inl draining

/-- Behind the event loop. -/
theorem Settling.behind (settling : s.Settling) (drained : s.main.draining = false)
    (timer : t.priv.cmdTimedOut = s.priv.cmdTimedOut)
    (fifo : t.priv.eventFifo = s.priv.eventFifo) : t.Settling where
  recovered := by
    refine .inr (timer.trans (settling.recovered.resolve_left fun recovering => ?_))
    rw [MainPc.draining_of_recovering recovering] at drained
    cases drained
  drained := .inr (fifo.trans (settling.drained.resolve_left (by simp [drained])))

theorem Settling.event {e : UInt32} (settling : s.Settling) (pc : s.main = .event e)
    (processed : s.processEvent e success c = some t) : t.Settling := by
  have recovered : s.main.recovering = false := by rw [pc]; rfl
  rw [processEvent] at processed
  split at processed
  · have timer := congrArg (fun core => core.1.cmdTimedOut) (lbsMacEventDisconnected_core s.priv 0)
    dsimp only at processed
    split at processed
    · obtain ⟨_, rfl⟩ := beginCall_eq_some processed
      exact settling.within recovered timer rfl
    · cases processed
      exact settling.within recovered timer rfl
  split at processed
  · split at processed <;> cases processed
    · exact settling.within recovered rfl rfl
    · exact settling.within recovered rfl rfl
  split at processed
  · cases processed
    exact settling.within recovered (by cases success <;> rfl) rfl
  split at processed
  · split at processed
    · cases processed
      exact settling.within recovered rfl rfl
    · dsimp only at processed
      split at processed
      · obtain ⟨_, rfl⟩ := beginCall_eq_some processed
        exact settling.within recovered rfl rfl
      · cases processed
        exact settling.within recovered rfl rfl
  split at processed <;> cases processed
  · refine settling.within recovered ?_ rfl
    cases opened : s.priv.settings.meshOpen <;> simp [opened]
  · exact settling.within recovered rfl rfl

theorem Settling.mainStep (settling : s.Settling) (away : s.main ≠ .top)
    (moved : s.mainStep success c = some t) : t.Settling := by
  cases pc : s.main
  case top => exact absurd pc away
  case event e => exact settling.event pc (by simpa only [Sys.mainStep, pc] using moved)
  all_goals
    simp only [Sys.mainStep, pc] at moved
    have recovered := congrArg MainPc.recovering pc
    have drained := congrArg MainPc.draining pc
  case stopped => cases moved
  case sleeping =>
    cases moved
    exact settling.behind drained rfl rfl
  case awake =>
    split at moved
    · cases moved
      exact settling.behind drained rfl rfl
    · split at moved <;> cases moved
      · exact settling.behind drained rfl rfl
      · exact .early rfl
  case process idx => exact .early (MainPc.recovering_of_slot (process_passes moved).slot)
  case dispatch idx result =>
    have slot := (dispatch_sameMail pc moved).slot
    rw [pc] at slot
    exact .early (MainPc.recovering_of_slot slot)
  case timeout =>
    cases moved
    rw [timeoutStep]
    split
    · dsimp only
      split
      · exact .early rfl
      · exact .early rfl
    · exact .early rfl
  case response =>
    split at moved <;> cases moved
    · exact .early rfl
    · exact .early rfl
  case complete | clear | giveUpFree | giveUpDrop | requeue =>
    cases moved
    exact .early rfl
  case timeoutClear =>
    cases moved
    exact ⟨.inr rfl, .inl rfl⟩
  case events =>
    split at moved <;> cases moved
    · rename_i fifo
      refine ⟨.inr (settling.recovered.resolve_left ?_), .inr fifo⟩
      rw [recovered]
      exact Bool.false_ne_true
    · exact settling.within recovered rfl rfl
  case confirm site =>
    split at moved <;> cases moved
    · cases site
      · exact settling.within recovered rfl rfl
      · exact settling.behind drained rfl rfl
    · cases site
      · exact settling.within recovered rfl rfl
      · exact settling.behind drained rfl rfl
  case confirmSend site =>
    cases moved
    have timer : (handCommand s.priv success).cmdTimedOut = s.priv.cmdTimedOut := by
      cases success <;> rfl
    have fifo : (handCommand s.priv success).eventFifo = s.priv.eventFifo := by
      cases success <;> rfl
    cases site
    · exact settling.within recovered timer (by cases success <;> rfl)
    · exact settling.behind drained timer fifo
  case confirmSet site =>
    cases moved
    cases site
    · exact settling.within recovered rfl rfl
    · exact settling.behind drained rfl rfl
  case ready | blocked | submit =>
    cases moved
    exact settling.behind drained rfl rfl
  case ignore n wake =>
    cases moved
    exact settling.behind drained CommandState.lbsCompleteCommand_cmdTimedOut rfl
  case send n =>
    cases moved
    cases success
    · exact settling.behind drained rfl rfl
    · exact settling.behind drained rfl rfl
  case presleep =>
    split at moved
    · split at moved <;> cases moved
      · exact settling.behind drained rfl rfl
      · exact settling.behind drained rfl rfl
    · cases moved
      exact settling.behind drained rfl rfl
  case execute =>
    split at moved
    · split at moved <;> cases moved
      · exact settling.behind drained rfl rfl
      · exact settling.behind drained rfl rfl
    · cases moved
      exact settling.behind drained rfl rfl
  case head n =>
    rw [headStep] at moved
    split at moved
    case h_3 =>
      obtain ⟨_, rfl⟩ := beginCall_eq_some moved
      exact settling.behind drained rfl rfl
    all_goals
      cases moved
      exact settling.behind drained rfl rfl
  case goSleep =>
    split at moved
    · obtain ⟨_, rfl⟩ := beginCall_eq_some moved
      exact settling.behind drained rfl rfl
    · cases moved
      exact settling.behind drained rfl rfl
  case tx =>
    cases moved
    rw [txStep]
    split
    · exact settling.behind drained rfl rfl
    · exact settling.behind drained rfl rfl
  case calling d next =>
    split at moved <;> cases moved
    cases next
    · exact .early rfl
    · exact settling.within recovered rfl rfl
    · exact settling.behind drained rfl rfl

theorem Settling.client (settling : s.Settling) (stepped : s.clientStep c = some t) :
    t.Settling := by
  have frame := clientStep_frame stepped
  have fifo : t.priv.eventFifo = s.priv.eventFifo := by rw [frame.priv]
  constructor
  · rw [frame.main, (clientStep_retries stepped).2]
    exact settling.recovered
  · rw [frame.main, fifo]
    exact settling.drained

/-- The response in a slot is gone, or is worked on in this iteration. -/
inductive Answering (idx : Fin 2) (s : Sys) : Prop
  | found : s.main = .response → s.priv.respIdx = idx → Answering idx s
  | working : s.main.slot = some idx → Answering idx s
  | consumed : s.priv.respLen idx = 0 → Answering idx s

theorem Answering.same (answering : Answering idx s) (away : s.main ≠ .response)
    (same : SameMail s t) : Answering idx t := by
  cases answering with
  | found pc _ => exact absurd pc away
  | working slot => exact .working (same.slot.trans slot)
  | consumed empty =>
      have len : t.priv.respLen = s.priv.respLen := congrArg ResponseSlots.respLen same.slots
      exact .consumed (by rw [len]; exact empty)

theorem Answering.mainStep (answering : Answering idx s)
    (moved : s.mainStep success c = some t) : Answering idx t := by
  by_cases elsewhere : s.main ≠ .response ∧ (∀ idx, s.main ≠ .process idx) ∧
      ∀ idx, s.main ≠ .clear idx
  · exact answering.same elsewhere.1 (mainStep_sameMail elsewhere moved)
  cases pc : s.main
  case response =>
    have empty_or : s.priv.respIdx = idx ∨ s.priv.respLen idx = 0 := by
      cases answering with
      | found _ last => exact .inl last
      | working slot => rw [pc] at slot; cases slot
      | consumed empty => exact .inr empty
    simp only [Sys.mainStep, pc] at moved
    split at moved <;> cases moved
    · rcases empty_or with rfl | empty
      · exact .working rfl
      · exact .consumed empty
    · rename_i empty
      rcases empty_or with rfl | empty'
      · exact .consumed (by simpa using empty)
      · exact .consumed empty'
  case process jdx =>
    simp only [Sys.mainStep, pc] at moved
    have passes := process_passes moved
    have len : t.priv.respLen = s.priv.respLen := congrArg ResponseSlots.respLen passes.slots
    cases answering with
    | found here _ => rw [pc] at here; cases here
    | working slot =>
        rw [pc] at slot
        exact .working (passes.slot.trans slot)
    | consumed empty => exact .consumed (by rw [len]; exact empty)
  case clear jdx =>
    simp only [Sys.mainStep, pc] at moved
    cases moved
    refine .consumed ?_
    cases answering with
    | found here _ => rw [pc] at here; cases here
    | working slot =>
        rw [pc] at slot
        cases slot
        simp
    | consumed empty =>
        by_cases same : idx = jdx
        · simp [same]
        · simpa [Function.update_of_ne same] using empty
  all_goals exact absurd ⟨by simp [pc], by simp [pc], by simp [pc]⟩ elsewhere

/-- Nothing that was there at the beginning is left at the end of the iteration. -/
structure Consumed (idx : Fin 2) (priv : Priv) : Prop where
  response : priv.respLen idx = 0
  timer : priv.cmdTimedOut = false
  events : priv.eventFifo = []

theorem Finishes.consumed {confirmed : Bool} (finishes : Finishes confirmed s t)
    (pc : s.main = .response) : Consumed s.priv.respIdx t.priv := by
  have keep : ∀ u action v, u.Settling ∧ Answering s.priv.respIdx u → ¬ u.AtTop →
      u.Alone confirmed action → driver.step u action = some v →
      v.Settling ∧ Answering s.priv.respIdx v := by
    rintro u action v ⟨settling, answering⟩ away mine stepped
    have stepped : u.step action = some v := stepped
    unfold Sys.step at stepped
    split at stepped
    · cases stepped
    cases mine with
    | main success c _ => exact ⟨settling.mainStep away stepped, answering.mainStep stepped⟩
    | call c next calling =>
        refine ⟨settling.client stepped, answering.same ?_ (clientStep_frame stepped).sameMail⟩
        rw [calling]
        exact nofun
  obtain ⟨⟨recovered, drained⟩, answering⟩ := finishes.invariant _ keep
    ⟨.early (by rw [pc]; rfl), .found pc rfl⟩
  have top : t.main = .top := finishes.arrives
  rw [top] at recovered drained
  refine ⟨?_, recovered.resolve_left nofun, drained.resolve_left nofun⟩
  cases answering with
  | found here _ => rw [top] at here; cases here
  | working slot => rw [top] at slot; cases slot
  | consumed empty => exact empty

end Consumption

end Sys

end Libertas
