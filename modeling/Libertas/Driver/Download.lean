import Libertas.Driver.Ownership

/-!
# When something is handed to the card

Commands, packets and sleep confirmations are handed to `hw_host_to_card` behind
a test of `dnld_sent`. For packets the test and the call are one step. Between
the other tests and their calls only the main thread could start a download, so
`dnld_sent` cannot be set in between. A wake confirmation is sent without a test.
-/

namespace Libertas

/-- Behind a test of `dnld_sent` and not yet behind the download. -/
def MainPc.launching : MainPc → Bool
  | .confirmSend _ | .head _ | .submit _ | .send _ => true
  | _ => false

theorem ConfirmSite.pc_launching (site : ConfirmSite) : site.pc.launching = false := by
  cases site <;> rfl

theorem Resume.pc_launching (next : Resume) : next.pc.launching = false := by
  cases next <;> rfl

/-- Nothing else was under way to the card. -/
def Event.disciplined : Event → Bool
  | .handed _ _ dnldSent => dnldSent = .resReceived
  | _ => true

namespace Sys

/-- Behind its test, `dnld_sent` is as it was found. -/
def Ready (s : Sys) : Prop :=
  s.main.launching = true → s.priv.dnldSent = .resReceived

/-- The steps under which downloads do not overlap: the event HOST_AWAKE is processed when nothing
is under way. -/
def WakeConfirmSafe (s : Sys) : Action → Prop
  | .main _ _ => s.main = .event macregIntCodeHostAwake → s.priv.dnldSent = .resReceived
  | _ => True

section Rules

variable {s t : Sys} {c : CallId} {success : Bool}

theorem processEvent_launching {e : UInt32} (processed : s.processEvent e success c = some t) :
    t.main.launching = false := by
  rw [processEvent] at processed
  split at processed
  · dsimp only at processed
    split at processed
    · obtain ⟨_, rfl⟩ := beginCall_eq_some processed
      rfl
    · cases processed
      rfl
  split at processed
  · split at processed <;> cases processed <;> rfl
  split at processed
  · cases processed
    rfl
  split at processed
  · split at processed
    · cases processed
      rfl
    · dsimp only at processed
      split at processed
      · obtain ⟨_, rfl⟩ := beginCall_eq_some processed
        rfl
      · cases processed
        rfl
  split at processed <;> cases processed <;> rfl

theorem processResponse_launching {idx : Fin 2} (processed : s.processResponse idx c = some t) :
    t.main.launching = false := by
  rcases processResponse_cases processed with rfl | ⟨n, accepts⟩
  · rfl
  · rcases accepts.outcome with ⟨_, main, _⟩ | ⟨_, _, task, _, _⟩
    · rw [main]
      rfl
    · simp only [MainPc.task, Prod.mk.injEq] at task
      cases pc : t.main <;> rw [pc] at task <;> first | rfl | cases task.1

/-- The main thread gets behind a test only if nothing is under way. -/
theorem Ready.mainStep (ready : s.Ready) (moved : s.mainStep success c = some t) : t.Ready := by
  have away : t.main.launching = false → t.Ready := fun elsewhere launching => by
    rw [elsewhere] at launching
    cases launching
  cases pc : s.main
  all_goals
    simp only [Sys.mainStep, pc] at moved
    have tested := congrArg MainPc.launching pc
  case process idx => exact away (processResponse_launching moved)
  case dispatch idx result =>
    have task := (dispatchStep_frame moved).task
    simp only [MainPc.task, Prod.mk.injEq] at task
    apply away
    cases pc : t.main <;> rw [pc] at task <;> first | rfl | cases task.1
  case event e => exact away (processEvent_launching moved)
  case timeout =>
    cases moved
    apply away
    rw [timeoutStep]
    split
    · dsimp only
      split <;> rfl
    · rfl
  case confirm site =>
    split at moved <;> cases moved
    · rename_i allowed
      exact fun _ => allowed.1
    · exact away site.pc_launching
  case confirmSend site =>
    cases moved
    apply away
    cases success with
    | true => rfl
    | false => exact site.pc_launching
  case confirmSet site =>
    cases moved
    exact away site.pc_launching
  case execute =>
    split at moved
    · rename_i idle
      split at moved <;> cases moved
      · exact away rfl
      · exact fun _ => idle.1
    · cases moved
      exact away rfl
  case head n =>
    have idle := ready tested
    rw [headStep] at moved
    split at moved
    · cases moved
      exact away rfl
    · cases moved
      exact away rfl
    · obtain ⟨_, rfl⟩ := beginCall_eq_some moved
      exact away rfl
    · cases moved
      exact away rfl
    · cases moved
      exact fun _ => idle
  case submit n =>
    cases moved
    exact fun _ => ready tested
  case goSleep =>
    split at moved
    · obtain ⟨_, rfl⟩ := beginCall_eq_some moved
      exact away rfl
    · cases moved
      exact away rfl
  case calling d next =>
    split at moved <;> cases moved
    exact away next.pc_launching
  case tx =>
    cases moved
    apply away
    rw [txStep]
    split <;> rfl
  case stopped => cases moved
  case top | ready | blocked =>
    cases moved
    apply away
    dsimp only
    split <;> rfl
  case sleeping | complete | clear | giveUpFree | giveUpDrop | requeue | timeoutClear | ignore
      | send =>
    cases moved
    exact away rfl
  case response | events =>
    split at moved <;> cases moved <;> exact away rfl
  case awake | presleep =>
    split at moved
    · first
      | (cases moved; exact away rfl)
      | (split at moved <;> cases moved <;> exact away rfl)
    · first
      | (cases moved; exact away rfl)
      | (split at moved <;> cases moved <;> exact away rfl)

/-- The other parties only ever end a download. -/
theorem Ready.bystander (ready : s.Ready) (main : t.main = s.main)
    (ended : t.priv.dnldSent = s.priv.dnldSent ∨ t.priv.dnldSent = .resReceived) : t.Ready := by
  intro launching
  rcases ended with same | done
  · rw [same]
    exact ready (main ▸ launching)
  · exact done

theorem Ready.step {action : Action} (ready : s.Ready) (stepped : s.step action = some t) :
    t.Ready := by
  unfold Sys.step at stepped
  split at stepped
  · cases stepped
  cases action with
  | client c =>
      have frame := clientStep_frame stepped
      exact ready.bystander frame.main (.inl (by rw [frame.priv]))
  | main success c => exact ready.mainStep stepped
  | deliver data =>
      cases stepped
      rw [deliverStep]
      split
      · exact ready
      · dsimp only
        split <;> exact ready.bystander rfl (.inl rfl)
  | call _ _ | stopCard | timerExpire | commandTimerFn =>
      dsimp only at stepped
      split at stepped <;> cases stepped
      exact ready.bystander rfl (.inl rfl)
  | hostToCardDone =>
      cases stepped
      exact ready.bystander rfl (.inr rfl)
  | signal _ | queueEvent _ | remove | kthreadStop | setFwReady | configure _
    | transmit _ _ =>
      cases stepped
      exact ready.bystander rfl (.inl rfl)

theorem Ready.of_reachable {allowed : Sys → Action → Prop}
    (reached : driver.ReachableUnder allowed s) : s.Ready :=
  reached.invariant Ready (fun _ start => start ▸ nofun)
    fun _ _ _ _ ready _ stepped => ready.step stepped

/-- What the main thread hands over was not preceded by an unfinished download. -/
theorem Tells.disciplined {events : List Event} (tells : s.Tells events) (ready : s.Ready)
    (safe : s.main = .event macregIntCodeHostAwake → s.priv.dnldSent = .resReceived) :
    ∀ e ∈ events, e.disciplined = true := by
  cases tells with
  | hands what hands sent =>
      intro e member
      obtain rfl := List.mem_singleton.mp member
      suffices idle : s.priv.dnldSent = .resReceived by simp [Event.disciplined, idle]
      cases pc : s.main <;> rw [pc] at hands
      case confirmSend site => exact ready (by rw [pc]; rfl)
      case send n => exact ready (by rw [pc]; rfl)
      case tx => exact sent (Option.some.inj hands).symm
      case event e =>
        by_cases awake : e = macregIntCodeHostAwake
        · exact safe (awake ▸ pc)
        · cases (if_neg awake).symm.trans hands
      all_goals cases hands
  | _ => simp [Event.disciplined]

/-- No step breaks the discipline. -/
theorem step_disciplined {action : Action} (ready : s.Ready) (safe : s.WakeConfirmSafe action)
    (before : ∀ e ∈ s.trace, e.disciplined = true) (stepped : s.step action = some t) :
    ∀ e ∈ t.trace, e.disciplined = true := by
  obtain ⟨events, appended, told⟩ := step_tells stepped
  have fresh : ∀ e ∈ events, e.disciplined = true := by
    cases action with
    | main success c => exact told.disciplined ready safe
    | client c =>
        rcases told with rfl | rfl | rfl <;> simp [Event.disciplined]
    | deliver data => rcases told with rfl | rfl <;> simp [Event.disciplined]
    | _ =>
        obtain rfl : events = [] := told
        exact nofun
  intro e member
  rw [appended] at member
  exact (List.mem_append.mp member).elim (before e) (fresh e)

end Rules

end Sys

/-- If HOST_AWAKE is only processed when nothing is under way to the card, `hw_host_to_card` is only
called then. -/
theorem handed_when_idle {s : Sys} (reached : driver.ReachableUnder Sys.WakeConfirmSafe s) :
    ∀ what psstate dnldSent, .handed what psstate dnldSent ∈ s.trace → dnldSent = .resReceived := by
  have disciplined : ∀ e ∈ s.trace, e.disciplined = true :=
    reached.invariant (fun s => ∀ e ∈ s.trace, e.disciplined = true)
      (fun _ start => start ▸ nofun) fun _ _ _ before told safe stepped =>
        Sys.step_disciplined (.of_reachable before) safe told stepped
  intro what psstate dnldSent member
  simpa [Event.disciplined] using disciplined _ member

instance (s : Sys) : (action : Action) → Decidable (s.WakeConfirmSafe action)
  | .main _ _ =>
      inferInstanceAs (Decidable (s.main = .event macregIntCodeHostAwake →
        s.priv.dnldSent = .resReceived))
  | .call _ _ | .client _ | .signal _ | .deliver _ | .queueEvent _ | .hostToCardDone
  | .timerExpire | .commandTimerFn | .stopCard | .remove | .kthreadStop | .setFwReady
  | .configure _ | .transmit _ _ => .isTrue trivial

/-- HOST_AWAKE comes while a command is under way. -/
def hostAwake : List Action :=
  .queueEvent macregIntCodeHostAwake :: List.replicate 8 (.main true 1000)

/-- The command was done when HOST_AWAKE came. -/
theorem handed_when_idle_awake : ∃ s,
    driver.runUnder Sys.WakeConfirmSafe Sys.init (hwSpecSent ++ .hostToCardDone :: hostAwake) =
      some s ∧
    .handed .wakeConfirm .fullPower .resReceived ∈ s.trace ∧
    ∀ what psstate dnldSent, .handed what psstate dnldSent ∈ s.trace →
      dnldSent = .resReceived := by
  obtain ⟨s, executed, sent⟩ := Machine.exists_of_map
    (fun s : Sys => .handed .wakeConfirm .fullPower .resReceived ∈ s.trace)
    (show (driver.runUnder Sys.WakeConfirmSafe Sys.init
      (hwSpecSent ++ .hostToCardDone :: hostAwake)).map _ = some true by decide +kernel)
  exact ⟨s, executed, sent, handed_when_idle (.run (.initial rfl) executed)⟩

/-- The wake confirmation is handed over while the command is under way. -/
theorem wake_confirm_overlaps : ∃ s, driver.run Sys.init (hwSpecSent ++ hostAwake) = some s ∧
    driver.Reachable s ∧ .handed .wakeConfirm .fullPower .cmdSent ∈ s.trace := by
  obtain ⟨s, executed, sent⟩ := Machine.exists_of_map
    (fun s : Sys => .handed .wakeConfirm .fullPower .cmdSent ∈ s.trace)
    (show (driver.run Sys.init (hwSpecSent ++ hostAwake)).map _ = some true by decide +kernel)
  exact ⟨s, executed, Machine.reachable_of_run rfl executed, sent⟩

end Libertas
