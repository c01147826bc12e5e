import Libertas.Driver.Views
import Libertas.Driver.Progress

/-!
# The power-save automaton

`psstate` is written at five control points of the main thread and by the
interrupt side, which only turns SLEEP into AWAKE. The invariant `Powered` ties
the control point of the main thread to `psstate`: it confirms a sleep request
only in PRE_SLEEP, and it looks at the command queue and at staged packets only
when the card neither sleeps nor is about to.
-/

namespace Libertas

/-- At the places of `lbs_ps_confirm_sleep`. -/
def MainPc.confirming : MainPc → Bool
  | .confirm _ | .confirmSend _ | .confirmSet _ => true
  | _ => false

/-- At the places of `lbs_ps_confirm_sleep` behind its test. -/
def MainPc.confirmed : MainPc → Bool
  | .confirmSend _ | .confirmSet _ => true
  | _ => false

theorem MainPc.confirming_of_confirmed {pc : MainPc} (confirmed : pc.confirmed = true) :
    pc.confirming = true := by
  cases pc <;> first | rfl | cases confirmed

/-- Behind the test for power save in `lbs_thread`. -/
def MainPc.sending : MainPc → Bool
  | .execute | .head _ | .ignore _ _ | .submit _ | .send _ | .goSleep | .calling _ .tx | .tx => true
  | _ => false

theorem ConfirmSite.pc_calm (site : ConfirmSite) :
    site.pc.confirming = false ∧ site.pc.sending = false := by
  cases site <;> exact ⟨rfl, rfl⟩

/-- Nothing but a confirmation is handed to a card that sleeps or is about to. -/
def Event.considerate : Event → Bool
  | .handed what psstate _ => !psstate.asleep || what = .sleepConfirm || what = .wakeConfirm
  | _ => true

namespace Sys

/-- Every handover so far was considerate. -/
def Considerate (s : Sys) : Prop :=
  ∀ e ∈ s.trace, e.considerate = true

/-- The invariant of the power-save automaton. -/
structure Powered (s : Sys) : Prop where
  confirming : s.main.confirming = true → s.priv.psstate = .preSleep
  confirmed : s.main.confirmed = true → s.priv.curCmd = none
  sending : s.main.sending = true → s.priv.psstate.asleep = false
  considerate : s.Considerate

/-- The action processes a successful power-save response of this kind. -/
def AnswersPsMode (s : Sys) (subcommand : UInt16) (action : Action) : Prop :=
  ∃ success c idx n, action = .main success c ∧ s.main = .process idx ∧
    Accepted s.priv (s.priv.respBuf idx) n ∧
    respCommand (s.priv.respBuf idx) = cmdRet cmd80211PsMode ∧
    respResult (s.priv.respBuf idx) = 0 ∧ respPsAction (s.priv.respBuf idx) = subcommand

/-- What a step may do to `psstate`. -/
structure PowerStep (s : Sys) (action : Action) (t : Sys) : Prop where
  leaves : s.priv.psstate = .fullPower → t.priv.psstate ≠ .fullPower →
    s.AnswersPsMode cmdSubcmdEnterPs action
  enters : s.priv.psstate ≠ .fullPower → t.priv.psstate = .fullPower →
    s.AnswersPsMode cmdSubcmdExitPs action
  sleeps : s.priv.psstate ≠ .sleep → t.priv.psstate = .sleep →
    s.priv.psstate = .preSleep ∧ t.priv.curCmd = none ∧ t.priv.eventFifo = [] ∧
      t.priv.respLen t.priv.respIdx = 0

section Log

variable {s : Sys} {e : Event} {resp : List UInt8} {result : Int}

theorem Considerate.log (before : s.Considerate) (considerate : e.considerate = true) :
    (s.log e).Considerate := by
  intro e' member
  rcases List.mem_append.mp member with old | new
  · exact before e' old
  · rw [List.mem_singleton.mp new]
    exact considerate

theorem Considerate.logAccepted (before : s.Considerate) : (s.logAccepted resp).Considerate := by
  rw [Sys.logAccepted]
  split
  · exact before
  · exact before.log rfl

theorem Considerate.logCompleted (before : s.Considerate) :
    (s.logCompleted result).Considerate := by
  rw [Sys.logCompleted]
  split
  · exact before
  · exact before.log rfl

theorem Considerate.logCallback (resp : List UInt8) (before : s.Considerate) :
    (s.logCallback resp).Considerate := by
  rw [Sys.logCallback]
  split
  · exact before
  · exact before.log rfl

end Log

section Rules

variable {s t : Sys} {action : Action}

/-- Nothing happens to `psstate`. -/
theorem PowerStep.same (same : t.priv.psstate = s.priv.psstate) : PowerStep s action t where
  leaves full left := absurd full (same ▸ left)
  enters less full := absurd (same.symm.trans full) less
  sleeps awake slept := absurd (same.symm.trans slept) awake

/-- The interrupt side wakes the card. -/
theorem PowerStep.wake (woken : t.priv.psstate = wakePsstate s.priv.psstate) :
    PowerStep s action t := by
  rw [wakePsstate] at woken
  split at woken
  · rename_i slept
    exact
      { leaves := fun full => by simp [slept] at full
        enters := fun _ full => by simp [woken] at full
        sleeps := fun awake => absurd slept awake }
  · exact .same woken

/-- The main thread moves between control points that do not matter here. -/
theorem Powered.move (powered : s.Powered) (same : t.priv.psstate = s.priv.psstate)
    (calm : t.main.confirming = false) (sending : t.main.sending = false ∨ s.main.sending = true)
    (considerate : t.Considerate) : t.Powered ∧ PowerStep s action t := by
  refine ⟨⟨fun confirming => ?_, fun confirmed => ?_, fun sends => ?_, considerate⟩, .same same⟩
  · simp [calm] at confirming
  · have confirming := MainPc.confirming_of_confirmed confirmed
    simp [calm] at confirming
  · rw [same]
    rcases sending with quiet | before
    · simp [quiet] at sends
    · exact powered.sending before

/-- Another party moves, and the main thread stays where it is. -/
theorem Powered.bystander (powered : s.Powered)
    (woken : t.priv.psstate = s.priv.psstate ∨ t.priv.psstate = wakePsstate s.priv.psstate)
    (main : t.main = s.main) (curCmd : t.priv.curCmd = s.priv.curCmd)
    (considerate : t.Considerate) : t.Powered ∧ PowerStep s action t := by
  refine ⟨⟨fun confirming => ?_, fun confirmed => ?_, fun sends => ?_, considerate⟩, ?_⟩
  · rw [main] at confirming
    have asked := powered.confirming confirming
    rcases woken with same | woken
    · exact same.trans asked
    · rw [woken, asked]; rfl
  · rw [main] at confirmed
    rw [curCmd]
    exact powered.confirmed confirmed
  · rw [main] at sends
    have awake := powered.sending sends
    rcases woken with same | woken
    · rw [same]; exact awake
    · rw [woken]
      cases psstate : s.priv.psstate <;> simp_all [wakePsstate, PsState.asleep]
  · exact woken.elim .same .wake

/-- A command of the main thread begins behind which it goes on at a place that matters as much as
the present one. -/
theorem Powered.call {c : CallId} {req : Request} {next : Resume} {p : Sys} (powered : s.Powered)
    (began : p.beginCall c req next = some t) (same : p.priv.psstate = s.priv.psstate)
    (sending : (MainPc.calling c next).sending = false ∨ s.main.sending = true)
    (considerate : p.Considerate) : t.Powered ∧ PowerStep s action t := by
  obtain ⟨_, rfl⟩ := beginCall_eq_some began
  exact powered.move same rfl sending considerate

theorem psModeResponse_psstate (priv : Priv) (resp : List UInt8) :
    (psModeResponse priv resp).psstate =
      if respResult resp = 0 ∧ respPsAction resp = cmdSubcmdEnterPs then .awake
      else if respResult resp = 0 ∧ respPsAction resp = cmdSubcmdExitPs then .fullPower
      else priv.psstate := by
  rw [psModeResponse]
  by_cases failed : respResult resp = 0
  · simp only [failed, ne_eq, not_true_eq_false, ↓reduceIte, true_and]
    split
    · rfl
    · split <;> rfl
  · simp only [failed, ne_eq, not_false_eq_true, ↓reduceIte, false_and]
    split <;> rfl

/-- The locked start of `lbs_process_command_response` changes `psstate` only for a successful
power-save response. -/
theorem PowerStep.process {success : Bool} {c : CallId} {idx : Fin 2} {n : NodeId} {next : Priv}
    (pc : s.main = .process idx) (accepted : Accepted s.priv (s.priv.respBuf idx) n)
    (judged : Judged s.priv next (s.priv.respBuf idx)) (after : t.priv = next) :
    PowerStep s (.main success c) t := by
  have psstate := judged.psstate
  rw [← after] at psstate
  by_cases mode : respCommand (s.priv.respBuf idx) = cmdRet cmd80211PsMode
  · rw [if_pos mode, psModeResponse_psstate] at psstate
    split at psstate
    · rename_i enter
      exact
        { leaves := fun _ _ => ⟨success, c, idx, n, rfl, pc, accepted, mode, enter.1, enter.2⟩
          enters := fun _ full => by simp [psstate] at full
          sleeps := fun _ slept => by simp [psstate] at slept }
    split at psstate
    · rename_i exit
      exact
        { leaves := fun _ left => absurd psstate left
          enters := fun _ _ => ⟨success, c, idx, n, rfl, pc, accepted, mode, exit.1, exit.2⟩
          sleeps := fun _ slept => by simp [psstate] at slept }
    · exact .same psstate
  · rw [if_neg mode] at psstate
    exact .same psstate

/-- A control point without any duty towards `psstate`. -/
theorem Powered.rest (calm : t.main.confirming = false) (quiet : t.main.sending = false)
    (considerate : t.Considerate) : t.Powered where
  confirming confirming := by simp [calm] at confirming
  confirmed confirmed := by
    have confirming := MainPc.confirming_of_confirmed confirmed
    simp [calm] at confirming
  sending sends := by simp [quiet] at sends
  considerate := considerate

theorem Powered.process {success : Bool} {c : CallId} {idx : Fin 2} (powered : s.Powered)
    (pc : s.main = .process idx) (processed : s.processResponse idx c = some t) :
    t.Powered ∧ PowerStep s (.main success c) t := by
  have passed : (s.log (.passed ((s.priv.respBuf idx).take (s.priv.respLen idx)))).Considerate :=
    powered.considerate.log rfl
  rw [processResponse] at processed
  dsimp only at processed
  split at processed
  · cases processed
    exact ⟨.rest rfl rfl passed, .same rfl⟩
  · rename_i next _ done
    cases processed
    obtain ⟨n, accepted, _⟩ := judge_eq_done done
    exact ⟨.rest rfl rfl passed.logAccepted.logCompleted,
      .process pc accepted (judge_frame (by rw [done]; rfl)) rfl⟩
  · rename_i next wakeup
    obtain ⟨n, accepted, _⟩ := judge_eq_wakeup wakeup
    obtain ⟨_, rfl⟩ := beginCall_eq_some processed
    exact ⟨.rest rfl rfl passed.logAccepted,
      .process pc accepted (judge_frame (by rw [wakeup]; rfl)) rfl⟩
  · rename_i next dispatch
    cases processed
    obtain ⟨n, accepted, _⟩ := judge_eq_dispatch dispatch
    exact ⟨.rest rfl rfl passed.logAccepted,
      .process pc accepted (judge_frame (by rw [dispatch]; rfl)) rfl⟩

theorem Powered.dispatch {c : CallId} {idx : Fin 2} {result : UInt16} (powered : s.Powered)
    (dispatched : s.dispatchStep idx result c = some t) : t.Powered ∧ PowerStep s action t := by
  have core := dispatchResponse_core s.memory s.priv (s.priv.respBuf idx)
  have same := congrArg (fun core => core.2.1.psstate) core
  have considerate := powered.considerate.logCallback (s.priv.respBuf idx)
  rw [dispatchStep] at dispatched
  dsimp only at dispatched
  split at dispatched
  · exact powered.call dispatched same (.inl rfl) considerate
  · cases dispatched
    exact powered.move same rfl (.inl rfl) considerate

/-- Below full power, `psstate` is set to something other than SLEEP. -/
theorem PowerStep.below {psstate : PsState} (below : s.priv.psstate ≠ .fullPower)
    (after : t.priv.psstate = psstate) (reduced : psstate ≠ .fullPower)
    (roused : psstate ≠ .sleep) :
    PowerStep s action t where
  leaves full := absurd full below
  enters _ full := absurd (after.symm.trans full) reduced
  sleeps _ slept := absurd (after.symm.trans slept) roused

theorem Powered.event {e : UInt32} {success : Bool} {c : CallId} (powered : s.Powered)
    (processed : s.processEvent e success c = some t) :
    t.Powered ∧ PowerStep s action t := by
  have before := powered.considerate
  rw [processEvent] at processed
  split at processed
  · have same := congrArg (fun core => core.2.1.psstate) (lbsMacEventDisconnected_core s.priv 0)
    dsimp only at processed
    split at processed
    · exact powered.call processed same (.inl rfl) before
    · cases processed
      exact powered.move same rfl (.inl rfl) before
  split at processed
  · split at processed
    · cases processed
      exact powered.move rfl rfl (.inl rfl) before
    · rename_i below
      cases processed
      exact ⟨⟨fun _ => rfl, (by cases ·), (by cases ·), before⟩,
        .below below (rfl : _ = PsState.preSleep) (by decide) (by decide)⟩
  split at processed
  · cases processed
    have same : (handCommand { s.priv with seqnum := s.priv.seqnum + 1 } success).psstate =
        s.priv.psstate := by cases success <;> rfl
    exact powered.move same rfl (.inl rfl) (before.log (by simp [Event.considerate]))
  split at processed
  · split at processed
    · cases processed
      exact powered.move rfl rfl (.inl rfl) before
    · rename_i below
      dsimp only at processed
      split at processed
      · obtain ⟨_, rfl⟩ := beginCall_eq_some processed
        exact ⟨.rest rfl rfl before,
          .below below (rfl : _ = PsState.awake) (by decide) (by decide)⟩
      · cases processed
        exact ⟨.rest rfl rfl before,
          .below below (rfl : _ = PsState.awake) (by decide) (by decide)⟩
  split at processed
  · cases processed
    dsimp only
    split
    · exact powered.move rfl rfl (.inl rfl) before
    · exact powered.move rfl rfl (.inl rfl) before
  · cases processed
    exact powered.move rfl rfl (.inl rfl) before

/-- At a control point behind the test for power save, the present state may be handed data. -/
theorem Event.considerate_of_awake {what : Handover} {psstate : PsState} {dnldSent : DnldState}
    (awake : psstate.asleep = false) : (Event.handed what psstate dnldSent).considerate = true := by
  simp [Event.considerate, awake]

theorem Powered.mainStep {success : Bool} {c : CallId} (powered : s.Powered)
    (moved : s.mainStep success c = some t) : t.Powered ∧ PowerStep s (.main success c) t := by
  have before := powered.considerate
  cases pc : s.main
  all_goals
    simp only [Sys.mainStep, pc] at moved
    have sends := congrArg MainPc.sending pc
  case process idx => exact powered.process pc moved
  case dispatch idx result => exact powered.dispatch moved
  case event e => exact powered.event moved
  case stopped => cases moved
  case top =>
    cases moved
    refine powered.move rfl ?_ ?_ before
    · dsimp only; split <;> rfl
    · dsimp only; split <;> exact .inl rfl
  case sleeping | clear | timeoutClear | giveUpFree | giveUpDrop | requeue =>
    cases moved
    exact powered.move rfl rfl (.inl rfl) before
  case awake =>
    split at moved
    · cases moved
      exact powered.move rfl rfl (.inl rfl) before
    · split at moved <;> cases moved <;> exact powered.move rfl rfl (.inl rfl) before
  case response | events =>
    split at moved <;> cases moved <;> exact powered.move rfl rfl (.inl rfl) before
  case complete idx result =>
    cases moved
    have same : (completeCurCmd s.priv result.toNat).psstate = s.priv.psstate := by
      rw [completeCurCmd_eq]
    exact powered.move same rfl (.inl rfl) before.logCompleted
  case timeout =>
    cases moved
    unfold timeoutStep
    split
    · dsimp only
      split
      · refine powered.move rfl rfl (.inl rfl) fun e member => ?_
        rcases List.mem_append.mp member with old | new
        · exact before e old
        · rcases List.mem_pair.mp new with rfl | rfl <;> rfl
      · exact powered.move rfl rfl (.inl rfl) before
    · exact powered.move rfl rfl (.inl rfl) before
  case confirm site =>
    have asked := powered.confirming (congrArg MainPc.confirming pc)
    split at moved <;> cases moved
    · rename_i allowed
      exact ⟨⟨fun _ => asked, fun _ => allowed.2.1, (by cases ·), before⟩, .same rfl⟩
    · exact powered.move rfl site.pc_calm.1 (.inl site.pc_calm.2) before
  case confirmSend site =>
    have asked := powered.confirming (congrArg MainPc.confirming pc)
    have idle := powered.confirmed (congrArg MainPc.confirmed pc)
    cases moved
    have considerate : (Event.handed .sleepConfirm s.priv.psstate s.priv.dnldSent).considerate =
        true := by simp [Event.considerate]
    cases success with
    | true =>
        exact ⟨⟨fun _ => asked, fun _ => idle, (by cases ·), before.log considerate⟩, .same rfl⟩
    | false =>
        exact powered.move rfl site.pc_calm.1 (.inl site.pc_calm.2)
          (before.log considerate)
  case confirmSet site =>
    have asked := powered.confirming (congrArg MainPc.confirming pc)
    have idle := powered.confirmed (congrArg MainPc.confirmed pc)
    cases moved
    refine ⟨.rest site.pc_calm.1 site.pc_calm.2 before, ?_⟩
    by_cases quiet : s.priv.eventFifo = [] ∧ s.priv.respLen s.priv.respIdx = 0
    · exact
        { leaves := fun full => by simp [asked] at full
          enters := fun _ full => by simp [quiet] at full
          sleeps := fun _ _ => ⟨asked, idle, quiet.1, quiet.2⟩ }
    · exact .same (if_neg quiet)
  case ready =>
    cases moved
    refine powered.move rfl ?_ ?_ before
    · dsimp only; split <;> rfl
    · dsimp only; split <;> exact .inl rfl
  case presleep =>
    split at moved
    · rename_i asked
      split at moved <;> cases moved
      · exact ⟨⟨fun _ => asked.1, (by cases ·), (by cases ·), before⟩, .same rfl⟩
      · exact ⟨.rest rfl rfl before,
          .below (by simp [asked.1]) (rfl : _ = PsState.awake) (by decide) (by decide)⟩
    · cases moved
      exact powered.move rfl rfl (.inl rfl) before
  case blocked =>
    cases moved
    cases asleep : s.priv.psstate.asleep with
    | true => exact powered.move rfl rfl (.inl rfl) before
    | false => exact ⟨⟨(by cases ·), (by cases ·), fun _ => asleep, before⟩, .same rfl⟩
  case execute =>
    split at moved
    · split at moved <;> cases moved <;> exact powered.move rfl rfl (.inr sends) before
    · cases moved
      exact powered.move rfl rfl (.inr sends) before
  case head n =>
    rw [headStep] at moved
    split at moved
    · cases moved
      exact powered.move rfl rfl (.inr sends) before
    · cases moved
      exact powered.move rfl rfl (.inr sends) before
    · exact powered.call moved rfl (.inr sends) before
    · cases moved
      exact powered.move rfl rfl (.inr sends) before
    · cases moved
      exact powered.move rfl rfl (.inr sends) before
  case ignore n wake =>
    cases moved
    exact powered.move rfl rfl (.inr sends) (before.log rfl)
  case submit n =>
    cases moved
    exact powered.move rfl rfl (.inr sends) (before.log rfl)
  case send n =>
    cases moved
    have same : (sendCurCmd s.priv success).psstate = s.priv.psstate := by
      cases success <;> rfl
    have awake := powered.sending sends
    exact powered.move same rfl (.inr sends) (before.log (Event.considerate_of_awake awake))
  case goSleep =>
    split at moved
    · exact powered.call moved rfl (.inr sends) before
    · cases moved
      exact powered.move rfl rfl (.inr sends) before
  case calling d next =>
    split at moved <;> cases moved
    cases next with
    | complete idx result => exact powered.move rfl rfl (.inl rfl) before
    | events => exact powered.move rfl rfl (.inl rfl) before
    | tx => exact powered.move rfl rfl (.inr sends) before
  case tx =>
    cases moved
    have awake := powered.sending sends
    rw [txStep]
    split
    · exact powered.move rfl rfl (.inl rfl) (before.log (Event.considerate_of_awake awake))
    · exact powered.move rfl rfl (.inl rfl) before

theorem Powered.init : Sys.init.Powered :=
  .rest rfl rfl nofun

/-- Every step keeps the invariant and does to `psstate` only what a step may do. -/
theorem Powered.step (powered : s.Powered) (stepped : s.step action = some t) :
    t.Powered ∧ PowerStep s action t := by
  have before := powered.considerate
  unfold Sys.step at stepped
  split at stepped
  · cases stepped
  cases action with
  | call c req =>
      dsimp only at stepped
      split at stepped <;> cases stepped
      exact powered.bystander (.inl rfl) rfl rfl before
  | client c =>
      have frame := clientStep_frame stepped
      refine powered.bystander (.inl ?_) frame.main frame.curCmd fun e member => ?_
      · rw [frame.priv]
      · rcases frame.trace with trace | trace | trace <;> rw [trace] at member
        · exact before e member
        · exact before.log rfl e member
        · exact before.log rfl e member
  | main success c => exact powered.mainStep stepped
  | deliver data =>
      cases stepped
      rw [deliverStep]
      split
      · exact powered.bystander (.inl rfl) rfl rfl before
      · dsimp only
        split
        · exact powered.bystander (.inl rfl) rfl rfl before
        · exact powered.bystander (.inr rfl) rfl rfl (before.log rfl)
  | queueEvent e =>
      cases stepped
      exact powered.bystander (.inr rfl) rfl rfl before
  | stopCard | timerExpire | commandTimerFn =>
      dsimp only at stepped
      split at stepped <;> cases stepped
      exact powered.bystander (.inl rfl) rfl rfl before
  | signal _ | hostToCardDone | remove | kthreadStop | setFwReady | configure _
    | transmit _ _ =>
      cases stepped
      exact powered.bystander (.inl rfl) rfl rfl before

theorem Powered.of_reachable (reached : driver.Reachable s) : s.Powered :=
  reached.invariant Powered (fun _ start => start ▸ Powered.init)
    fun _ _ _ _ powered _ stepped => (powered.step stepped).1

end Rules

end Sys

/-- In every run, `psstate` leaves FULL_POWER only with a successful ENTER_PS response and gets
back to it only with a successful EXIT_PS response. It becomes SLEEP only from PRE_SLEEP, with no
command in flight, no event and no response waiting. In SLEEP and PRE_SLEEP only sleep and wake
confirmations are handed to the card. -/
theorem power_save_automaton {s t : Sys} {action : Action} (reached : driver.Reachable s)
    (stepped : driver.step s action = some t) :
    (s.priv.psstate = .fullPower → t.priv.psstate ≠ .fullPower →
      s.AnswersPsMode cmdSubcmdEnterPs action) ∧
    (s.priv.psstate ≠ .fullPower → t.priv.psstate = .fullPower →
      s.AnswersPsMode cmdSubcmdExitPs action) ∧
    (s.priv.psstate ≠ .sleep → t.priv.psstate = .sleep →
      s.priv.psstate = .preSleep ∧ t.priv.curCmd = none ∧ t.priv.eventFifo = [] ∧
        t.priv.respLen t.priv.respIdx = 0) ∧
    ∀ what psstate dnldSent, .handed what psstate dnldSent ∈ t.trace → psstate.asleep = true →
      what = .sleepConfirm ∨ what = .wakeConfirm := by
  obtain ⟨powered, step⟩ := (Sys.Powered.of_reachable reached).step stepped
  refine ⟨step.leaves, step.enters, step.sleeps, fun what psstate dnldSent member asleep => ?_⟩
  simpa [Event.considerate, asleep] using powered.considerate _ member

/-- The step that processes a successful ENTER_PS response. -/
theorem power_save_automaton_enter : ∃ s t,
    (driver.run Sys.init (enterPsInFlight ++ [.hostToCardDone, .deliver enterPsReply] ++
      List.replicate 3 (.main true 200)) = some s ∧ driver.step s (.main true 200) = some t) ∧
    (s.priv.psstate = .fullPower → t.priv.psstate ≠ .fullPower →
      s.AnswersPsMode cmdSubcmdEnterPs (.main true 200)) ∧
    (s.priv.psstate ≠ .fullPower → t.priv.psstate = .fullPower →
      s.AnswersPsMode cmdSubcmdExitPs (.main true 200)) ∧
    (s.priv.psstate ≠ .sleep → t.priv.psstate = .sleep →
      s.priv.psstate = .preSleep ∧ t.priv.curCmd = none ∧ t.priv.eventFifo = [] ∧
        t.priv.respLen t.priv.respIdx = 0) ∧
    ∀ what psstate dnldSent, .handed what psstate dnldSent ∈ t.trace → psstate.asleep = true →
      what = .sleepConfirm ∨ what = .wakeConfirm := by
  have runs : ((driver.run Sys.init (enterPsInFlight ++
      [.hostToCardDone, .deliver enterPsReply] ++ List.replicate 3 (.main true 200))).bind
        fun s => driver.step s (.main true 200)).isSome = true := by
    decide +kernel
  obtain ⟨t, ended⟩ := Option.isSome_iff_exists.mp runs
  obtain ⟨s, executed, stepped⟩ := Option.bind_eq_some_iff.mp ended
  exact ⟨s, t, ⟨executed, stepped⟩,
    power_save_automaton (Machine.reachable_of_run rfl executed) stepped⟩

end Libertas
