import Libertas.Transition.Fifo
import Libertas.Driver.Views

/-!
# The response mailbox

The interrupt side stores a response in the slot that was not filled last, and
the main thread reads the slot that was. The two slots form a channel for
responses as long as a response is delivered only when the other slot is empty
and the main thread has at least begun with the last response. This is
`DeliverySafe`, and it is needed: the interrupt side does not wait for either.
-/

namespace Libertas

/-- A nonempty response that the card delivered. -/
def Event.sent : Event → Option (List UInt8)
  | .delivered data => if data = [] then none else some data
  | _ => none

/-- A response that was passed to `lbs_process_command_response`. -/
def Event.received : Event → Option (List UInt8)
  | .passed data => some data
  | _ => none

theorem Event.no_mail {e : Event} (neutral : e.neutral = true) :
    e.sent = none ∧ e.received = none := by
  cases e <;> first | exact ⟨rfl, rfl⟩ | cases neutral

@[simp] theorem MainPc.unread_process (idx : Fin 2) :
    (MainPc.process idx).unread = some idx := rfl

@[simp] theorem MainPc.slot_process (idx : Fin 2) : (MainPc.process idx).slot = some idx := rfl

@[simp] theorem MainPc.unread_timeout : MainPc.timeout.unread = none := rfl

@[simp] theorem MainPc.slot_timeout : MainPc.timeout.slot = none := rfl

theorem MainPc.slot_of_unread {pc : MainPc} {idx : Fin 2} (unread : pc.unread = some idx) :
    pc.slot = some idx := by
  cases pc <;> first | exact unread | cases unread

theorem eq_otherSlot {idx jdx : Fin 2} (other : jdx ≠ idx) : jdx = Sys.otherSlot idx := by
  decide +revert

namespace Sys

/-- The nonempty responses delivered so far. -/
def delivered (s : Sys) : List (List UInt8) :=
  s.trace.filterMap Event.sent

/-- The responses passed on so far. -/
def passed (s : Sys) : List (List UInt8) :=
  s.trace.filterMap Event.received

/-- The response that the main thread found and has not passed on. -/
def found (s : Sys) : List (List UInt8) :=
  s.main.unread.toList.map s.stored

/-- The response that the main thread has yet to find. -/
def unfound (s : Sys) : List (List UInt8) :=
  if s.priv.respLen s.priv.respIdx ≠ 0 ∧ s.main.slot ≠ some s.priv.respIdx then
    [s.stored s.priv.respIdx]
  else []

/-- The mailbox as a channel. -/
def mailbox (s : Sys) : Channel (List UInt8) where
  sent := s.delivered
  received := s.passed
  contents := s.found ++ s.unfound

/-- The main thread is working on every response that is not the last one. -/
structure Tidy (s : Sys) : Prop where
  bug : s.bug = false
  full : ∀ idx, s.main.slot = some idx → s.priv.respLen idx ≠ 0
  earlier : ∀ idx, s.priv.respLen idx ≠ 0 → idx ≠ s.priv.respIdx → s.main.slot = some idx

/-- The steps under which the mailbox loses nothing. A response is delivered only when the other
slot is empty, and the last response was processed or is being processed. -/
def DeliverySafe (s : Sys) : Action → Prop
  | .deliver data => data.length ≤ lbsCmdBufferSize →
      s.priv.respLen (otherSlot s.priv.respIdx) = 0 ∧
        (s.priv.respLen s.priv.respIdx = 0 ∨ s.main.slot = some s.priv.respIdx)
  | _ => True

/-- A step that has nothing to do with responses. -/
structure SameMail (s t : Sys) : Prop where
  slots : t.priv.toResponseSlots = s.priv.toResponseSlots
  slot : t.main.slot = s.main.slot
  unread : t.main.unread = s.main.unread
  bug : t.bug = s.bug
  delivered : t.delivered = s.delivered
  passed : t.passed = s.passed

section Log

variable (s : Sys) (c : CallId) (phase : Phase) (cs : CommandState) (e : Event)
  (resp : List UInt8) (result : Int)

@[simp] theorem delivered_log : (s.log e).delivered = s.delivered ++ e.sent.toList := by
  cases sent : e.sent <;> simp [delivered, sent]

@[simp] theorem passed_log : (s.log e).passed = s.passed ++ e.received.toList := by
  cases received : e.received <;> simp [passed, received]

@[simp] theorem delivered_logAccepted : (s.logAccepted resp).delivered = s.delivered := by
  rw [logAccepted]
  split <;> simp [Event.sent]

@[simp] theorem passed_logAccepted : (s.logAccepted resp).passed = s.passed := by
  rw [logAccepted]
  split <;> simp [Event.received]

@[simp] theorem delivered_logCompleted : (s.logCompleted result).delivered = s.delivered := by
  rw [logCompleted]
  split <;> simp [Event.sent]

@[simp] theorem passed_logCompleted : (s.logCompleted result).passed = s.passed := by
  rw [logCompleted]
  split <;> simp [Event.received]

@[simp] theorem delivered_logCallback : (s.logCallback resp).delivered = s.delivered := by
  rw [logCallback]
  split <;> simp [Event.sent]

@[simp] theorem passed_logCallback : (s.logCallback resp).passed = s.passed := by
  rw [logCallback]
  split <;> simp [Event.received]

end Log

section Rules

variable {s t : Sys}

theorem SameMail.mailbox (same : SameMail s t) : t.mailbox = s.mailbox := by
  obtain ⟨slots, slot, unread, _, delivered, passed⟩ := same
  have idx : t.priv.respIdx = s.priv.respIdx := congrArg ResponseSlots.respIdx slots
  have buf : t.priv.respBuf = s.priv.respBuf := congrArg ResponseSlots.respBuf slots
  have len : t.priv.respLen = s.priv.respLen := congrArg ResponseSlots.respLen slots
  have stored : t.stored = s.stored := by
    funext i
    rw [Sys.stored, buf, len, Sys.stored]
  simp [Sys.mailbox, found, unfound, delivered, passed, stored, unread, slot, idx, len]

theorem SameMail.tidy (same : SameMail s t) (tidy : s.Tidy) : t.Tidy := by
  obtain ⟨slots, slot, _, bug, _, _⟩ := same
  have idx : t.priv.respIdx = s.priv.respIdx := congrArg ResponseSlots.respIdx slots
  have len : t.priv.respLen = s.priv.respLen := congrArg ResponseSlots.respLen slots
  constructor
  · rw [bug]; exact tidy.bug
  · rw [slot, len]; exact tidy.full
  · rw [slot, len, idx]; exact tidy.earlier

theorem SameMail.keeps (same : SameMail s t) (tidy : s.Tidy) :
    t.Tidy ∧ s.mailbox.Moves t.mailbox :=
  ⟨same.tidy tidy, same.mailbox ▸ .stay _⟩

theorem QuietStep.sameMail (quiet : QuietStep s t) : SameMail s t := by
  obtain ⟨events, appended, neutral⟩ := quiet.trace
  have task := quiet.task
  simp only [MainPc.task, Prod.mk.injEq] at task
  refine
    { slots := quiet.priv.slots
      slot := task.2.1
      unread := task.2.2.1
      bug := quiet.bug
      delivered := ?_
      passed := ?_ }
  · have none : events.filterMap Event.sent = [] :=
      List.filterMap_eq_nil_iff.mpr fun e member => (Event.no_mail (neutral e member)).1
    rw [delivered, appended, List.filterMap_append, none, List.append_nil, delivered]
  · have none : events.filterMap Event.received = [] :=
      List.filterMap_eq_nil_iff.mpr fun e member => (Event.no_mail (neutral e member)).2
    rw [passed, appended, List.filterMap_append, none, List.append_nil, passed]

theorem CallStep.sameMail {c : CallId} (step : CallStep c s t) : SameMail s t := by
  refine
    { slots := by rw [step.priv]
      slot := by rw [step.main]
      unread := by rw [step.main]
      bug := step.bug
      delivered := ?_
      passed := ?_ }
  · rcases step.trace with trace | trace | trace <;> simp [delivered, trace, Event.sent]
  · rcases step.trace with trace | trace | trace <;> simp [passed, trace, Event.received]

theorem dispatch_sameMail {idx : Fin 2} {result : UInt16} {c : CallId}
    (pc : s.main = .dispatch idx result) (dispatched : s.dispatchStep idx result c = some t) :
    SameMail s t := by
  have slots := (Undisturbed.of_core
    (dispatchResponse_core s.memory s.priv (s.priv.respBuf idx))).slots
  have delivered := s.delivered_logCallback (s.priv.respBuf idx)
  have passed := s.passed_logCallback (s.priv.respBuf idx)
  rw [dispatchStep] at dispatched
  dsimp only at dispatched
  split at dispatched
  · obtain ⟨_, rfl⟩ := beginCall_eq_some dispatched
    exact ⟨slots, by rw [pc]; rfl, by rw [pc]; rfl, by simp [withCall], delivered, passed⟩
  · cases dispatched
    exact ⟨slots, by rw [pc]; rfl, by rw [pc]; rfl, by simp, delivered, passed⟩

/-- Apart from three control points, the main thread leaves the mailbox alone. -/
theorem mainStep_sameMail {success : Bool} {c : CallId}
    (elsewhere : s.main ≠ .response ∧ (∀ idx, s.main ≠ .process idx) ∧ ∀ idx, s.main ≠ .clear idx)
    (moved : s.mainStep success c = some t) : SameMail s t := by
  by_cases quiet : s.main.quiet = true
  · exact (mainStep_quiet quiet moved).sameMail
  obtain ⟨notResponse, notProcess, notClear⟩ := elsewhere
  cases pc : s.main
  all_goals
    simp only [Sys.mainStep, pc] at moved
    have slot := congrArg MainPc.slot pc
    have unread := congrArg MainPc.unread pc
  case response => exact absurd pc notResponse
  case process idx => exact absurd pc (notProcess idx)
  case clear idx => exact absurd pc (notClear idx)
  case dispatch idx result => exact dispatch_sameMail pc moved
  case complete idx result =>
    cases moved
    refine ⟨?_, slot.symm, unread.symm, by simp, ?_, ?_⟩
    · rw [completeCurCmd_eq]
    · exact s.delivered_logCompleted result.toNat
    · exact s.passed_logCompleted result.toNat
  case timeout =>
    cases moved
    rw [timeoutStep]
    split
    · dsimp only
      split
      · exact ⟨rfl, slot.symm, unread.symm, rfl, by simp [delivered, Event.sent],
          by simp [passed, Event.received]⟩
      · exact ⟨rfl, slot.symm, unread.symm, rfl, rfl, rfl⟩
    · exact ⟨rfl, slot.symm, unread.symm, rfl, rfl, rfl⟩
  case giveUpFree n =>
    cases moved
    exact ⟨rfl, slot.symm, unread.symm, rfl, rfl, rfl⟩
  case giveUpDrop n =>
    cases moved
    exact ⟨rfl, slot.symm, unread.symm, rfl, rfl, rfl⟩
  case requeue n =>
    cases moved
    exact ⟨rfl, slot.symm, unread.symm, rfl, rfl, rfl⟩
  case execute =>
    split at moved
    · split at moved <;> cases moved
      · exact ⟨rfl, slot.symm, unread.symm, rfl, rfl, rfl⟩
      · exact ⟨rfl, slot.symm, unread.symm, rfl, rfl, rfl⟩
    · cases moved
      exact ⟨rfl, slot.symm, unread.symm, rfl, rfl, rfl⟩
  case head n =>
    rw [headStep] at moved
    split at moved
    · cases moved
      exact ⟨rfl, slot.symm, unread.symm, rfl, rfl, rfl⟩
    · cases moved
      exact ⟨rfl, slot.symm, unread.symm, rfl, rfl, rfl⟩
    · obtain ⟨_, rfl⟩ := beginCall_eq_some moved
      exact ⟨rfl, slot.symm, unread.symm, rfl, rfl, rfl⟩
    · cases moved
      exact ⟨rfl, slot.symm, unread.symm, rfl, rfl, rfl⟩
    · cases moved
      exact ⟨rfl, slot.symm, unread.symm, rfl, rfl, rfl⟩
  case ignore n wake =>
    cases moved
    refine ⟨rfl, slot.symm, unread.symm, rfl, ?_, ?_⟩
    · rw [delivered_log]; simp [Event.sent, delivered]
    · rw [passed_log]; simp [Event.received, passed]
  case submit n =>
    cases moved
    refine ⟨rfl, slot.symm, unread.symm, rfl, ?_, ?_⟩
    · rw [delivered_log]; simp [Event.sent, delivered]
    · rw [passed_log]; simp [Event.received, passed]
  case send n =>
    cases moved
    refine ⟨?_, slot.symm, unread.symm, rfl, ?_, ?_⟩
    · cases success <;> rfl
    · rw [delivered_log]; simp [Event.sent, delivered]
    · rw [passed_log]; simp [Event.received, passed]
  all_goals exact absurd (congrArg MainPc.quiet pc) quiet

theorem response_keeps {success : Bool} {c : CallId} (tidy : s.Tidy) (pc : s.main = .response)
    (moved : s.mainStep success c = some t) : t.Tidy ∧ s.mailbox.Moves t.mailbox := by
  have idle : s.main.slot = none := by rw [pc]; rfl
  have unread : s.main.unread = none := by rw [pc]; rfl
  simp only [Sys.mainStep, pc] at moved
  split at moved <;> cases moved
  · rename_i full
    constructor
    · refine ⟨tidy.bug, fun idx working => ?_, fun idx used other => ?_⟩
      · obtain rfl : s.priv.respIdx = idx := Option.some.inj working
        exact full
      · rw [tidy.earlier idx used other] at idle
        cases idle
    · have same : s.mailbox =
          { s with main := MainPc.process s.priv.respIdx }.mailbox := by
        simp [mailbox, found, unfound, unread, idle, full, delivered, passed, stored]
      exact same ▸ .stay _
  · have same : SameMail s { s with main := .timeout } := by
      refine ⟨rfl, ?_, ?_, rfl, rfl, rfl⟩
      · rw [idle]; rfl
      · rw [unread]; rfl
    exact same.keeps tidy

theorem clear_keeps {success : Bool} {c : CallId} {idx : Fin 2} (tidy : s.Tidy)
    (pc : s.main = .clear idx) (moved : s.mainStep success c = some t) :
    t.Tidy ∧ s.mailbox.Moves t.mailbox := by
  have working : s.main.slot = some idx := by rw [pc]; rfl
  have unread : s.main.unread = none := by rw [pc]; rfl
  simp only [Sys.mainStep, pc, Option.some.injEq] at moved
  subst moved
  constructor
  · refine ⟨tidy.bug, by simp, fun jdx used other => ?_⟩
    by_cases same : jdx = idx
    · simp [same] at used
    · have used : s.priv.respLen jdx ≠ 0 := by simpa [same] using used
      have := tidy.earlier jdx used other
      rw [working] at this
      exact absurd (Option.some.inj this).symm same
  · have same : s.mailbox = Sys.mailbox
        { s with
          priv := { s.priv with respLen := Function.update s.priv.respLen idx 0 }
          main := .timeout } := by
      by_cases last : s.priv.respIdx = idx
      · simp [mailbox, found, unfound, unread, working, last, delivered, passed]
      · simp [mailbox, found, unfound, unread, working, last, Ne.symm last, delivered, passed,
          stored]
    exact same ▸ .stay _

/-- The locked start of `lbs_process_command_response` receives the response it was given. -/
structure Passes (idx : Fin 2) (s t : Sys) : Prop where
  slots : t.priv.toResponseSlots = s.priv.toResponseSlots
  slot : t.main.slot = some idx
  unread : t.main.unread = none
  bug : t.bug = s.bug
  delivered : t.delivered = s.delivered
  passed : t.passed = s.passed ++ [s.stored idx]

theorem process_passes {c : CallId} {idx : Fin 2}
    (processed : s.processResponse idx c = some t) : Passes idx s t := by
  have slots : ∀ next, (judge s.priv (s.priv.respBuf idx)).next = some next →
      next.toResponseSlots = s.priv.toResponseSlots := fun next judged =>
    congrArg Mailbox.toResponseSlots (judge_frame judged).mailbox
  rw [processResponse] at processed
  dsimp only at processed
  split at processed
  · cases processed
    refine ⟨rfl, rfl, rfl, rfl, ?_, ?_⟩
    · exact (delivered_log s _).trans (by simp [Event.sent])
    · exact passed_log s _
  · rename_i next _ done
    cases processed
    refine ⟨slots next (by rw [done]; rfl), rfl, rfl, by simp, ?_, ?_⟩
    · exact (delivered_logCompleted _ _).trans
        ((delivered_logAccepted _ _).trans (by simp [Event.sent]))
    · exact (passed_logCompleted _ _).trans
        ((passed_logAccepted _ _).trans (passed_log s _))
  · rename_i next wakeup
    obtain ⟨_, rfl⟩ := beginCall_eq_some processed
    refine ⟨slots next (by rw [wakeup]; rfl), rfl, rfl, by simp [withCall], ?_, ?_⟩
    · exact (delivered_logAccepted _ _).trans (by simp [Event.sent])
    · exact (passed_logAccepted _ _).trans (passed_log s _)
  · rename_i next dispatch
    cases processed
    refine ⟨slots next (by rw [dispatch]; rfl), rfl, rfl, by simp, ?_, ?_⟩
    · exact (delivered_logAccepted _ _).trans (by simp [Event.sent])
    · exact (passed_logAccepted _ _).trans (passed_log s _)

/-- What is left behind is what the main thread has yet to find. -/
theorem Passes.contents {idx : Fin 2} (passes : Passes idx s t) (pc : s.main = .process idx) :
    s.mailbox.contents = s.stored idx :: t.mailbox.contents := by
  obtain ⟨slots, slot, unread, _, _, _⟩ := passes
  have last : t.priv.respIdx = s.priv.respIdx := congrArg ResponseSlots.respIdx slots
  have buf : t.priv.respBuf = s.priv.respBuf := congrArg ResponseSlots.respBuf slots
  have len : t.priv.respLen = s.priv.respLen := congrArg ResponseSlots.respLen slots
  simp [mailbox, found, unfound, pc, slot, unread, last, buf, len, stored]

theorem process_keeps {c : CallId} {idx : Fin 2} (tidy : s.Tidy)
    (pc : s.main = .process idx) (processed : s.processResponse idx c = some t) :
    t.Tidy ∧ s.mailbox.Moves t.mailbox := by
  have passes := process_passes processed
  have contents := passes.contents pc
  obtain ⟨slots, slot, unread, bug, delivered, passed⟩ := passes
  have last : t.priv.respIdx = s.priv.respIdx := congrArg ResponseSlots.respIdx slots
  have len : t.priv.respLen = s.priv.respLen := congrArg ResponseSlots.respLen slots
  have working : s.main.slot = some idx := by rw [pc]; rfl
  constructor
  · constructor
    · rw [bug]; exact tidy.bug
    · rw [slot, len, ← working]; exact tidy.full
    · rw [slot, len, last, ← working]; exact tidy.earlier
  · have moves := Channel.Moves.receive contents
    have same : t.mailbox = { s.mailbox with
        received := s.mailbox.received ++ [s.stored idx], contents := t.mailbox.contents } := by
      simp only [mailbox, delivered, passed]
    rw [same]
    exact moves

/-- A response that is stored in the other slot joins the channel at the end. -/
structure Stores (data : List UInt8) (s t : Sys) : Prop where
  main : t.main = s.main
  idx : t.priv.respIdx = otherSlot s.priv.respIdx
  buf : t.priv.respBuf = Function.update s.priv.respBuf (otherSlot s.priv.respIdx)
    (ByteOrder.overwrite data (s.priv.respBuf (otherSlot s.priv.respIdx)))
  len : t.priv.respLen =
    Function.update s.priv.respLen (otherSlot s.priv.respIdx) data.length
  bug : t.bug = s.bug
  delivered : t.delivered = s.delivered ++ if data = [] then [] else [data]
  passed : t.passed = s.passed

theorem Stores.keeps (data : List UInt8) (stores : Stores data s t) (tidy : s.Tidy)
    (empty : s.priv.respLen (otherSlot s.priv.respIdx) = 0)
    (last : s.priv.respLen s.priv.respIdx = 0 ∨ s.main.slot = some s.priv.respIdx) :
    t.Tidy ∧ s.mailbox.Moves t.mailbox := by
  obtain ⟨main, idx, buf, len, bug, delivered, passed⟩ := stores
  have kept : ∀ jdx, s.main.slot = some jdx → jdx ≠ otherSlot s.priv.respIdx := by
    rintro jdx working rfl
    exact tidy.full _ working empty
  constructor
  · refine ⟨bug ▸ tidy.bug, fun jdx working => ?_, fun jdx used other => ?_⟩
    · rw [main] at working
      simpa [len, kept jdx working] using tidy.full jdx working
    · rw [idx] at other
      have used : s.priv.respLen jdx ≠ 0 := by simpa [len, other] using used
      have same : jdx = s.priv.respIdx := by
        by_contra differs
        exact other (eq_otherSlot differs)
      subst same
      exact main ▸ last.resolve_left used
  · have found : t.found = s.found := by
      unfold Sys.found
      rw [main]
      cases unread : s.main.unread with
      | none => rfl
      | some jdx =>
          have other := kept jdx (MainPc.slot_of_unread unread)
          simp [stored, buf, len, other]
    have before : s.unfound = [] := by
      rcases last with unused | working
      · simp [unfound, unused]
      · simp [unfound, working]
    have after : t.unfound = if data = [] then [] else [data] := by
      have idle : s.main.slot ≠ some (otherSlot s.priv.respIdx) := fun working =>
        kept _ working rfl
      simp [unfound, stored, idx, len, buf, main, idle, ByteOrder.overwrite]
    have same : t.mailbox =
        { sent := s.delivered ++ if data = [] then [] else [data]
          received := s.passed
          contents := s.mailbox.contents ++ if data = [] then [] else [data] } := by
      simp [mailbox, delivered, passed, found, before, after]
    rw [same]
    split
    · rw [List.append_nil, List.append_nil]
      exact .stay s.mailbox
    · exact .send s.mailbox data

theorem deliver_keeps {data : List UInt8} (tidy : s.Tidy) (safe : s.DeliverySafe (.deliver data)) :
    (s.deliverStep data).Tidy ∧ s.mailbox.Moves (s.deliverStep data).mailbox := by
  rw [deliverStep]
  split
  · exact ⟨tidy, .stay _⟩
  rename_i fits
  obtain ⟨empty, last⟩ := safe (Nat.le_of_not_gt fits)
  dsimp only
  rw [if_neg (by simp [empty])]
  refine Stores.keeps data ⟨rfl, rfl, rfl, rfl, rfl, ?_, ?_⟩ tidy empty last
  · apply (delivered_log _ _).trans
    by_cases none : data = [] <;> simp [Event.sent, none, delivered]
  · exact (passed_log _ _).trans (by simp [Event.received, passed])

theorem mainStep_keeps {success : Bool} {c : CallId} (tidy : s.Tidy)
    (moved : s.mainStep success c = some t) : t.Tidy ∧ s.mailbox.Moves t.mailbox := by
  by_cases elsewhere :
      s.main ≠ .response ∧ (∀ idx, s.main ≠ .process idx) ∧ ∀ idx, s.main ≠ .clear idx
  · exact (mainStep_sameMail elsewhere moved).keeps tidy
  cases pc : s.main
  case response => exact response_keeps tidy pc moved
  case clear idx => exact clear_keeps tidy pc moved
  case process idx =>
    apply process_keeps tidy pc (c := c)
    simpa only [Sys.mainStep, pc] using moved
  all_goals exact absurd (by simp [pc]) elsewhere

/-- A safe step of the driver is a move of the mailbox as a channel. -/
theorem step_mailbox {action : Action} (tidy : s.Tidy) (safe : s.DeliverySafe action)
    (stepped : s.step action = some t) : t.Tidy ∧ s.mailbox.Moves t.mailbox := by
  unfold Sys.step at stepped
  split at stepped
  · cases stepped
  cases action with
  | call c req =>
      dsimp only at stepped
      split at stepped <;> cases stepped
      exact SameMail.keeps ⟨rfl, rfl, rfl, rfl, rfl, rfl⟩ tidy
  | client c => exact (clientStep_frame stepped).sameMail.keeps tidy
  | main success c => exact mainStep_keeps tidy stepped
  | deliver data =>
      cases stepped
      exact deliver_keeps tidy safe
  | stopCard | timerExpire | commandTimerFn =>
      dsimp only at stepped
      split at stepped <;> cases stepped
      exact SameMail.keeps ⟨rfl, rfl, rfl, rfl, rfl, rfl⟩ tidy
  | signal _ | queueEvent _ | hostToCardDone | remove | kthreadStop | setFwReady | configure _
    | transmit _ _ =>
      cases stepped
      exact SameMail.keeps ⟨rfl, rfl, rfl, rfl, rfl, rfl⟩ tidy

end Rules

/-- In a run with safe deliveries the mailbox is a faithful channel. -/
theorem mailbox_faithful {s : Sys} (reached : driver.ReachableUnder DeliverySafe s) :
    s.Tidy ∧ s.mailbox.Faithful := by
  refine reached.faithful (fun s initial => ?_) fun s action t tidy safe stepped =>
    step_mailbox tidy safe stepped
  obtain rfl : s = Sys.init := initial
  exact ⟨⟨rfl, fun _ working => (nomatch working), fun _ used => absurd rfl used⟩, rfl⟩

end Sys

/-- In a run with safe deliveries no `BUG_ON` is reached and the responses are passed on once and
in order: those passed on are the first of those delivered, and the main thread finds the next one
when it looks for one and passes on the one it found. -/
theorem responses_in_order {s : Sys} (reached : driver.ReachableUnder Sys.DeliverySafe s) :
    s.bug = false ∧ s.delivered = s.passed ++ s.mailbox.contents ∧
      ∀ success c t, s.mainStep success c = some t →
        (s.main = .response → s.mailbox.contents ≠ [] → ∃ idx, t.main = .process idx) ∧
        (∀ idx, s.main = .process idx → ∃ resp, s.mailbox.contents = resp :: t.mailbox.contents ∧
          t.passed = s.passed ++ [resp]) := by
  obtain ⟨tidy, faithful⟩ := Sys.mailbox_faithful reached
  refine ⟨tidy.bug, faithful, fun success c t moved => ⟨fun pc waiting => ?_, fun idx pc => ?_⟩⟩
  · have full : s.priv.respLen s.priv.respIdx ≠ 0 := by
      intro empty
      apply waiting
      simp [Sys.mailbox, Sys.found, Sys.unfound, pc, MainPc.unread, empty]
    simp only [Sys.mainStep, pc, if_pos full] at moved
    cases moved
    exact ⟨_, rfl⟩
  · simp only [Sys.mainStep, pc] at moved
    have passes := Sys.process_passes moved
    exact ⟨_, passes.contents pc, passes.passed⟩

instance (s : Sys) : (action : Action) → Decidable (s.DeliverySafe action)
  | .deliver data =>
      inferInstanceAs (Decidable (data.length ≤ lbsCmdBufferSize →
        s.priv.respLen (Sys.otherSlot s.priv.respIdx) = 0 ∧
          (s.priv.respLen s.priv.respIdx = 0 ∨ s.main.slot = some s.priv.respIdx)))
  | .call _ _ | .client _ | .signal _ | .main _ _ | .queueEvent _ | .hostToCardDone
  | .timerExpire | .commandTimerFn | .stopCard | .remove | .kthreadStop | .setFwReady
  | .configure _ | .transmit _ _ => .isTrue trivial

/-- Two replies, the second delivered while the main thread is about to process the first. -/
def repliesInTurn (first second : List UInt8) : List Action :=
  .deliver first :: List.replicate 4 (.main true 0) ++ [.deliver second]

theorem responses_in_order_in_turn : ∃ s,
    driver.runUnder Sys.DeliverySafe Sys.init (repliesInTurn [1] [2]) = some s ∧
      s.bug = false ∧ s.delivered = s.passed ++ s.mailbox.contents ∧
      ∀ success c t, s.mainStep success c = some t →
        (s.main = .response → s.mailbox.contents ≠ [] → ∃ idx, t.main = .process idx) ∧
        (∀ idx, s.main = .process idx → ∃ resp, s.mailbox.contents = resp :: t.mailbox.contents ∧
          t.passed = s.passed ++ [resp]) := by
  have runs : (driver.runUnder Sys.DeliverySafe Sys.init
      (repliesInTurn [1] [2])).isSome = true := by
    decide +kernel
  obtain ⟨s, executed⟩ := Option.isSome_iff_exists.mp runs
  exact ⟨s, executed, responses_in_order (.run (.initial rfl) executed)⟩

/-- Two replies without a pause are passed on in the wrong order, a third one reaches the
`BUG_ON`. -/
theorem quick_replies_overtake :
    (∃ s, driver.run Sys.init
        (.deliver [1] :: .deliver [2] :: List.replicate 5 (.main true 0)) = some s ∧
      s.delivered = [[1], [2]] ∧ s.passed = [[2]]) ∧
    ∃ s, driver.run Sys.init [.deliver [1], .deliver [2], .deliver [3]] = some s ∧
      s.bug = true := by
  constructor
  · exact Machine.exists_of_map (fun s : Sys => s.delivered = [[1], [2]] ∧ s.passed = [[2]])
      (by decide +kernel)
  · exact Machine.exists_of_map (fun s : Sys => s.bug = true) (by decide +kernel)

end Libertas
