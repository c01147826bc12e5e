import Libertas.Driver.Ownership
import Libertas.Transition.Trace

/-!
# The events of the card

The interrupt side puts events to `event_fifo`, unless 16 of them wait already, and the
main thread takes them out one by one and processes each. Whatever runs in between, the
events that were put in are processed in their order, each of them once.

A second result is about the firmware. `fw_ready` is cleared in the main thread when the
card is suspended, and set by `lbs_resume`. The main thread looks at it once in a round,
in front of everything that sends commands and packets.
-/

namespace Libertas

/-- The event that is being processed. -/
def MainPc.inHand : MainPc → List UInt32
  | .event e => [e]
  | _ => []

/-- Behind the test of `fw_ready`. -/
def MainPc.operating : MainPc → Bool
  | .presleep | .confirm .presleep | .confirmSend .presleep | .confirmSet .presleep | .blocked
  | .execute | .head _ | .ignore _ _ | .submit _ | .send _ | .goSleep | .calling _ .tx | .tx => true
  | _ => false

/-- Commands and packets are handed over behind the test. -/
theorem MainPc.operating_of_hands {pc : MainPc} {what : Handover} (hands : pc.hands = some what)
    (kind : what = .data ∨ ∃ n, what = .command n) : pc.operating = true := by
  cases pc with
  | send n => rfl
  | tx => rfl
  | confirmSend site =>
      cases hands
      rcases kind with kind | ⟨n, kind⟩ <;> cases kind
  | event e =>
      have confirms : (if e = macregIntCodeHostAwake then some Handover.wakeConfirm else none) =
          some what := hands
      split at confirms
      · cases confirms
        rcases kind with kind | ⟨n, kind⟩ <;> cases kind
      · cases confirms
  | _ => cases hands

/-- A control point at which no event is in hand, and which is not behind the test. -/
structure MainPc.Aside (pc : MainPc) : Prop where
  inHand : pc.inHand = []
  operating : pc.operating = false

theorem MainPc.aside_of_answer {pc : MainPc} {result : UInt16}
    (answer : pc.answer = some result) : pc.Aside := by
  cases pc with
  | dispatch idx result | complete idx result => exact ⟨rfl, rfl⟩
  | calling c next =>
      cases next with
      | complete idx result => exact ⟨rfl, rfl⟩
      | events | tx => cases answer
  | _ => cases answer

namespace Sys

variable {s t : Sys} {c : CallId} {success : Bool}

/-- The events that were put in and not yet processed. -/
def waitingEvents (s : Sys) : List UInt32 :=
  s.main.inHand ++ s.priv.eventFifo

/-- The event that `lbs_queue_event` puts to `event_fifo`. -/
def queuedEvents (s : Sys) : Action → List UInt32
  | .queueEvent e => if s.priv.eventFifo.length < 16 then [e] else []
  | _ => []

/-- The event that `lbs_process_event` processes. -/
def processedEvents (s : Sys) : Action → List UInt32
  | .main _ _ => s.main.inHand
  | _ => []

/-- The main thread looked at `fw_ready` before it got here. -/
def Checked (s : Sys) : Prop :=
  s.main.operating = true → s.priv.fwReady = true

/-- A step of the main thread, as far as events and `fw_ready` are concerned. -/
structure Relays (s t : Sys) : Prop where
  events : s.waitingEvents = s.main.inHand ++ t.waitingEvents
  checked : s.Checked → t.Checked

namespace Relays

/-- To a control point without an event, in front of the test. -/
theorem aside (fifo : t.priv.eventFifo = s.priv.eventFifo) (aside : t.main.Aside) : Relays s t where
  events := by rw [waitingEvents, waitingEvents, aside.inHand, fifo, List.nil_append]
  checked _ operating := by
    rw [aside.operating] at operating
    cases operating

/-- To a control point without an event, behind the test. -/
theorem on (fifo : t.priv.eventFifo = s.priv.eventFifo) (empty : t.main.inHand = [])
    (ready : t.priv.fwReady = s.priv.fwReady) (operating : s.main.operating = true) :
    Relays s t where
  events := by rw [waitingEvents, waitingEvents, empty, fifo, List.nil_append]
  checked checked _ := ready ▸ checked operating

end Relays

theorem processEvent_relays {e : UInt32} (processed : s.processEvent e success c = some t) :
    Relays s t := by
  rw [processEvent] at processed
  split at processed
  · dsimp only at processed
    have fifo := congrArg (fun core => core.2.2.eventFifo) (lbsMacEventDisconnected_core s.priv 0)
    split at processed
    · obtain ⟨_, rfl⟩ := beginCall_eq_some processed
      exact .aside fifo ⟨rfl, rfl⟩
    · cases processed
      exact .aside fifo ⟨rfl, rfl⟩
  split at processed
  · split at processed <;> cases processed <;> exact .aside rfl ⟨rfl, rfl⟩
  split at processed
  · cases processed
    refine .aside ?_ ⟨rfl, rfl⟩
    cases success <;> rfl
  split at processed
  · split at processed
    · cases processed
      exact .aside rfl ⟨rfl, rfl⟩
    · dsimp only at processed
      split at processed
      · obtain ⟨_, rfl⟩ := beginCall_eq_some processed
        exact .aside rfl ⟨rfl, rfl⟩
      · cases processed
        exact .aside rfl ⟨rfl, rfl⟩
  split at processed
  · cases processed
    refine .aside ?_ ⟨rfl, rfl⟩
    dsimp only
    split <;> rfl
  · cases processed
    exact .aside rfl ⟨rfl, rfl⟩

theorem processResponse_relays {idx : Fin 2} (processed : s.processResponse idx c = some t) :
    Relays s t := by
  have judged : ∀ next, (judge s.priv (s.priv.respBuf idx)).next = some next →
      next.eventFifo = s.priv.eventFifo := fun next judged =>
    congrArg Mailbox.eventFifo (judge_frame judged).mailbox
  rw [processResponse] at processed
  dsimp only at processed
  split at processed
  · cases processed
    exact .aside rfl ⟨rfl, rfl⟩
  · rename_i priv ret done
    cases processed
    exact .aside (judged priv (by rw [done]; rfl)) ⟨rfl, rfl⟩
  · rename_i priv wakeup
    obtain ⟨_, rfl⟩ := beginCall_eq_some processed
    exact .aside (judged priv (by rw [wakeup]; rfl)) ⟨rfl, rfl⟩
  · rename_i priv dispatch
    cases processed
    exact .aside (judged priv (by rw [dispatch]; rfl)) ⟨rfl, rfl⟩

theorem mainStep_relays (moved : s.mainStep success c = some t) : Relays s t := by
  cases pc : s.main
  all_goals
    simp only [Sys.mainStep, pc] at moved
    have operating := congrArg MainPc.operating pc
  case process idx => exact processResponse_relays moved
  case dispatch idx result =>
    have core := dispatchResponse_core s.memory s.priv (s.priv.respBuf idx)
    have fifo := congrArg (fun core => core.2.2.eventFifo) core
    have answer := congrArg Prod.fst (dispatchStep_frame moved).task
    refine .aside ?_ (MainPc.aside_of_answer answer)
    rw [dispatchStep] at moved
    dsimp only at moved
    split at moved
    · obtain ⟨_, rfl⟩ := beginCall_eq_some moved
      exact fifo
    · cases moved
      exact fifo
  case event e => exact processEvent_relays moved
  case timeout =>
    cases moved
    rw [timeoutStep]
    split
    · dsimp only
      split <;> exact .aside rfl ⟨rfl, rfl⟩
    · exact .aside rfl ⟨rfl, rfl⟩
  case giveUpFree n =>
    cases moved
    exact .aside rfl ⟨rfl, rfl⟩
  case events =>
    split at moved <;> cases moved
    · exact .aside rfl ⟨rfl, rfl⟩
    · rename_i e rest fifo
      refine ⟨?_, fun _ operating => by cases operating⟩
      rw [waitingEvents, pc, fifo]
      rfl
  case ready =>
    cases moved
    cases ready : s.priv.fwReady with
    | true =>
        refine ⟨?_, fun _ _ => ready⟩
        rw [waitingEvents, waitingEvents]
        rfl
    | false => exact .aside rfl ⟨rfl, rfl⟩
  case confirm site =>
    split at moved <;> cases moved
    · cases site with
      | event => exact .aside rfl ⟨rfl, rfl⟩
      | presleep => exact .on rfl rfl rfl operating
    · cases site with
      | event => exact .aside rfl ⟨rfl, rfl⟩
      | presleep => exact .on rfl rfl rfl operating
  case confirmSend site =>
    cases moved
    have fifo : (handCommand s.priv success).eventFifo = s.priv.eventFifo := by
      cases success <;> rfl
    have ready : (handCommand s.priv success).fwReady = s.priv.fwReady := by
      cases success <;> rfl
    cases site with
    | event =>
        refine .aside fifo ?_
        cases success <;> exact ⟨rfl, rfl⟩
    | presleep =>
        refine .on fifo ?_ ready operating
        cases success <;> rfl
  case confirmSet site =>
    cases moved
    cases site with
    | event => exact .aside rfl ⟨rfl, rfl⟩
    | presleep => exact .on rfl rfl rfl operating
  case presleep =>
    split at moved
    · split at moved <;> cases moved <;> exact .on rfl rfl rfl operating
    · cases moved
      exact .on rfl rfl rfl operating
  case blocked =>
    cases moved
    refine .on rfl ?_ rfl operating
    dsimp only
    split <;> rfl
  case execute =>
    split at moved
    · split at moved <;> cases moved <;> exact .on rfl rfl rfl operating
    · cases moved
      exact .on rfl rfl rfl operating
  case head n =>
    rw [headStep] at moved
    split at moved
    · cases moved
      exact .on rfl rfl rfl operating
    · cases moved
      exact .on rfl rfl rfl operating
    · obtain ⟨_, rfl⟩ := beginCall_eq_some moved
      exact .on rfl rfl rfl operating
    · cases moved
      exact .on rfl rfl rfl operating
    · cases moved
      exact .on rfl rfl rfl operating
  case send n =>
    cases moved
    refine .on ?_ rfl ?_ operating <;> cases success <;> rfl
  case goSleep =>
    split at moved
    · obtain ⟨_, rfl⟩ := beginCall_eq_some moved
      exact .on rfl rfl rfl operating
    · cases moved
      exact .on rfl rfl rfl operating
  case calling d next =>
    split at moved <;> cases moved
    cases next with
    | complete idx result | events => exact .aside rfl ⟨rfl, rfl⟩
    | tx => exact .on rfl rfl rfl operating
  case tx =>
    cases moved
    rw [txStep]
    split <;> exact .aside rfl ⟨rfl, rfl⟩
  case top =>
    cases moved
    refine .aside rfl ?_
    dsimp only
    split <;> exact ⟨rfl, rfl⟩
  case awake =>
    split at moved
    · cases moved
      exact .aside rfl ⟨rfl, rfl⟩
    · split at moved <;> cases moved <;> exact .aside rfl ⟨rfl, rfl⟩
  case response =>
    split at moved <;> cases moved <;> exact .aside rfl ⟨rfl, rfl⟩
  case complete idx result =>
    cases moved
    refine .aside ?_ ⟨rfl, rfl⟩
    rw [completeCurCmd]
    split <;> rfl
  case sleeping | clear | giveUpDrop | requeue | timeoutClear =>
    cases moved
    exact .aside rfl ⟨rfl, rfl⟩
  case ignore | submit =>
    cases moved
    exact .on rfl rfl rfl operating
  case stopped => cases moved

/-- A step of another party does not go back on what the main thread saw. -/
theorem bystander_relays (main : t.main = s.main) (fifo : t.priv.eventFifo = s.priv.eventFifo)
    (ready : t.priv.fwReady = s.priv.fwReady) :
    s.waitingEvents = t.waitingEvents ∧ (s.Checked → t.Checked) := by
  refine ⟨by rw [waitingEvents, waitingEvents, main, fifo], fun checked operating => ?_⟩
  rw [ready]
  exact checked (main ▸ operating)

theorem step_relays {action : Action} (stepped : s.step action = some t) :
    s.waitingEvents ++ s.queuedEvents action = s.processedEvents action ++ t.waitingEvents ∧
      (s.Checked → t.Checked) := by
  unfold Sys.step at stepped
  split at stepped
  · cases stepped
  have other : s.waitingEvents = t.waitingEvents ∧ (s.Checked → t.Checked) →
      s.waitingEvents ++ [] = [] ++ t.waitingEvents ∧ (s.Checked → t.Checked) := fun relays =>
    ⟨by rw [List.append_nil, List.nil_append, relays.1], relays.2⟩
  cases action with
  | client c =>
      have frame := clientStep_frame stepped
      exact other (bystander_relays frame.main (by rw [frame.priv]) (by rw [frame.priv]))
  | main success c =>
      have relays := mainStep_relays stepped
      exact ⟨(List.append_nil _).trans relays.events, relays.checked⟩
  | queueEvent e =>
      cases stepped
      refine ⟨?_, fun checked operating => checked operating⟩
      rw [waitingEvents, waitingEvents, List.append_assoc]
      dsimp only [queuedEvents, processedEvents]
      split
      · rfl
      · rw [List.append_nil, List.nil_append]
  | deliver data =>
      cases stepped
      refine other ?_
      rw [deliverStep]
      split
      · exact bystander_relays rfl rfl rfl
      · dsimp only
        split <;> exact bystander_relays rfl rfl rfl
  | call _ _ | stopCard | timerExpire | commandTimerFn =>
      dsimp only at stepped
      split at stepped <;> cases stepped
      exact other (bystander_relays rfl rfl rfl)
  | setFwReady =>
      cases stepped
      exact ⟨(List.append_nil _).trans (List.nil_append _).symm, fun _ _ => rfl⟩
  | hostToCardDone | signal _ | remove | kthreadStop | configure _ | transmit _ _ =>
      cases stepped
      exact other (bystander_relays rfl rfl rfl)

end Sys

/-- The events that were put to `event_fifo` are processed in order, each of them once; what is
not yet processed still waits. -/
theorem events_in_order {s : Sys} {actions : List Action}
    (executed : driver.run Sys.init actions = some s) :
    driver.trace Sys.queuedEvents Sys.init actions =
      driver.trace Sys.processedEvents Sys.init actions ++ s.waitingEvents :=
  Machine.trace_conserves Sys.queuedEvents Sys.processedEvents Sys.waitingEvents
    (fun _ _ _ stepped => (Sys.step_relays stepped).1) executed

/-- Three events come, and the main thread goes through its loop. -/
def threeEvents : List Action :=
  [.setFwReady, .queueEvent macregIntCodeHostAwake, .queueEvent macregIntCodeDeauthenticated,
    .queueEvent macregIntCodeDisassociated] ++ List.replicate 9 (.main true 1000)

/-- Two of them are processed by then, and the last one waits. -/
theorem events_in_order_three : ∃ s, driver.run Sys.init threeEvents = some s ∧
    driver.trace Sys.queuedEvents Sys.init threeEvents =
      driver.trace Sys.processedEvents Sys.init threeEvents ++ s.waitingEvents := by
  obtain ⟨s, executed⟩ := Option.isSome_iff_exists.mp
    (show (driver.run Sys.init threeEvents).isSome = true by decide +kernel)
  exact ⟨s, executed, events_in_order executed⟩

/-- Commands and packets are handed to the card only while its firmware is ready. -/
theorem handed_when_ready {s t : Sys} {action : Action} {what : Handover} {psstate : PsState}
    {dnldSent : DnldState} (reached : driver.Reachable s) (stepped : s.step action = some t)
    (handed : t.trace = s.trace ++ [.handed what psstate dnldSent])
    (kind : what = .data ∨ ∃ n, what = .command n) : s.priv.fwReady = true := by
  have checked : s.Checked := reached.invariant Sys.Checked
    (fun _ start => start ▸ fun operating => by cases operating)
    fun _ _ _ _ checked _ stepped => (Sys.step_relays stepped).2 checked
  obtain ⟨events, appended, told⟩ := Sys.step_tells stepped
  obtain rfl := List.append_cancel_left (appended.symm.trans handed)
  cases action with
  | main success c =>
      cases told with
      | hands _ hands _ =>
        exact checked (MainPc.operating_of_hands hands kind)
  | client c => rcases told with none | one | one <;> cases (by assumption)
  | deliver data => rcases told with none | one <;> cases (by assumption)
  | _ => cases told

/-- The main thread sends the command that waits. -/
theorem handed_when_ready_sent : ∃ s t,
    driver.run Sys.init (.setFwReady :: hwSpecQueued ++ List.replicate 12 (.main true 1000)) =
      some s ∧
    s.step (.main true 1000) = some t ∧
    t.trace = s.trace ++ [.handed (.command 0) .fullPower .resReceived] ∧
    s.priv.fwReady = true := by
  obtain ⟨s, executed, moves, handed⟩ := Machine.exists_of_map
    (fun s : Sys => (s.step (.main true 1000)).isSome = true ∧
      ∀ t ∈ s.step (.main true 1000),
        t.trace = s.trace ++ [.handed (.command 0) .fullPower .resReceived])
    (show (driver.run Sys.init (.setFwReady :: hwSpecQueued ++
      List.replicate 12 (.main true 1000))).map _ = some true by decide +kernel)
  obtain ⟨t, stepped⟩ := Option.isSome_iff_exists.mp moves
  have told := handed t stepped
  exact ⟨s, t, executed, stepped, told,
    handed_when_ready (Machine.reachable_of_run rfl executed) stepped told (.inr ⟨0, rfl⟩)⟩

end Libertas
