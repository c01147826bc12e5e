import Libertas.Driver.Ownership

/-!
# The watch over the command in flight

A command that gets no answer is noticed by its timer alone. `lbs_submit_command` arms
it, `command_timer_fn` sets `cmd_timed_out` when it expires, and the main thread looks
at that flag once in each round. Between two looks the command in flight is under
watch: the timer is armed, its function is about to run, or the flag is set.

The main thread clears the flag without the lock behind its test. A timer function that
runs between the two is lost, and nobody watches the command any more.
-/

namespace Libertas

/-- The main thread itself minds the command in flight: it is about to arm the timer, works on the
response, or gives the command up. A thread that has stopped counts as well: it has deleted the
timer, and commands are left as they are. -/
def MainPc.minding : MainPc → Bool
  | .send _ | .dispatch _ _ | .complete _ _ | .calling _ (.complete _ _) | .giveUpFree _
  | .giveUpDrop _ | .stopped => true
  | _ => false

theorem MainPc.minding_of_answer {pc : MainPc} {result : UInt16}
    (answer : pc.answer = some result) : pc.minding = true := by
  cases pc with
  | dispatch idx result | complete idx result => rfl
  | calling c next =>
      cases next with
      | complete idx result => rfl
      | events | tx => cases answer
  | _ => cases answer

/-- Behind the test of `cmd_timed_out`. -/
def MainPc.clearing : MainPc → Bool
  | .requeue _ | .timeoutClear => true
  | _ => false

namespace Sys

/-- What the watch depends on. -/
def watch (s : Sys) : Option NodeId × Bool × Bool × Bool :=
  (s.priv.curCmd, s.priv.commandTimer, s.priv.cmdTimedOut, s.timerRunning)

/-- The command in flight is under watch. Behind the test of the flag only the timer counts, and a
command that goes back to the queue is in flight no more. -/
structure Watched (s : Sys) : Prop where
  watched : s.priv.curCmd ≠ none → s.main.minding = false →
    s.priv.commandTimer = true ∨ s.timerRunning = true ∨
      (s.priv.cmdTimedOut = true ∧ s.main ≠ .timeoutClear)
  requeued : ∀ n, s.main = .requeue n → s.priv.curCmd = none

/-- The steps under which no timeout is lost: the card is not stopped, and the timer function does
not run between the test of `cmd_timed_out` and its clearing. -/
def WatchSafe (s : Sys) : Action → Prop
  | .stopCard => False
  | .commandTimerFn => s.main ≠ .timeoutClear
  | _ => True

section Rules

variable {s t : Sys} {c : CallId} {success : Bool}

/-- No command is in flight. -/
theorem Watched.of_idle (idle : t.priv.curCmd = none) : t.Watched where
  watched current := absurd idle current
  requeued _ _ := idle

theorem Watched.of_minding (minding : t.main.minding = true) : t.Watched where
  watched _ away := absurd (minding.symm.trans away) (by simp)
  requeued n pc := by
    rw [pc] at minding
    cases minding

/-- A step between control points that mind nothing. -/
theorem Watched.move (watched : s.Watched) (away : s.main.minding = false)
    (same : t.watch = s.watch) (untested : t.main.clearing = false) : t.Watched := by
  simp only [watch, Prod.mk.injEq] at same
  obtain ⟨current, armed, set, running⟩ := same
  refine ⟨fun flight _ => ?_, fun n pc => ?_⟩
  · rw [armed, set, running]
    refine (watched.watched (current ▸ flight) away).imp_right (Or.imp_right fun set => ?_)
    refine ⟨set.1, fun pc => ?_⟩
    rw [pc] at untested
    cases untested
  · rw [pc] at untested
    cases untested

theorem processEvent_watched {e : UInt32} (watched : s.Watched) (pc : s.main = .event e)
    (processed : s.processEvent e success c = some t) : t.Watched := by
  have apart : ∀ {next : Sys}, next.watch = s.watch → next.main.clearing = false →
      next.Watched := watched.move (by rw [pc]; rfl)
  rw [processEvent] at processed
  split at processed
  · dsimp only at processed
    have cmd := congrArg Prod.fst (lbsMacEventDisconnected_core s.priv 0)
    have same : Sys.watch { s with priv := (lbsMacEventDisconnected s.priv 0).priv } = s.watch :=
      congrArg (fun cs : CommandState => (cs.curCmd, cs.commandTimer, cs.cmdTimedOut,
        s.timerRunning)) cmd
    split at processed
    · obtain ⟨_, rfl⟩ := beginCall_eq_some processed
      exact apart same rfl
    · cases processed
      exact apart same rfl
  split at processed
  · split at processed <;> cases processed <;> exact apart rfl rfl
  split at processed
  · cases processed
    refine apart ?_ rfl
    cases success <;> rfl
  split at processed
  · split at processed
    · cases processed
      exact apart rfl rfl
    · dsimp only at processed
      split at processed
      · obtain ⟨_, rfl⟩ := beginCall_eq_some processed
        exact apart rfl rfl
      · cases processed
        exact apart rfl rfl
  split at processed
  · cases processed
    refine apart ?_ rfl
    dsimp only
    split <;> rfl
  · cases processed
    exact apart rfl rfl

/-- A response is dropped, or the command is completed, or the main thread works on it. -/
theorem processResponse_watched {idx : Fin 2} (watched : s.Watched) (pc : s.main = .process idx)
    (processed : s.processResponse idx c = some t) : t.Watched := by
  rcases processResponse_cases processed with rfl | ⟨n, accepts⟩
  · exact watched.move (by rw [pc]; rfl) rfl rfl
  · rcases accepts.outcome with ⟨cmd, _, _⟩ | ⟨_, _, task, _, _⟩
    · apply Watched.of_idle
      exact congrArg (fun cs : CommandState => cs.curCmd) cmd
    · exact .of_minding (MainPc.minding_of_answer (congrArg Prod.fst task))

/-- The test of `cmd_timed_out`. -/
theorem timeoutStep_watched (watched : s.Watched) (pc : s.main = .timeout) :
    s.timeoutStep.Watched := by
  rw [timeoutStep]
  split
  · dsimp only
    split
    · exact .of_minding rfl
    · exact .of_idle rfl
  · rename_i unspent
    refine ⟨fun current _ => ?_, fun _ moved => by cases moved⟩
    rcases watched.watched current (by rw [pc]; rfl) with armed | running | ⟨set, _⟩
    · exact .inl armed
    · exact .inr (.inl running)
    · obtain ⟨n, some⟩ := Option.ne_none_iff_exists'.mp current
      exact absurd some (unspent n set)

theorem headStep_watched {n : NodeId} (watched : s.Watched) (pc : s.main = .head n)
    (moved : s.headStep n c = some t) : t.Watched := by
  have apart : ∀ {next : Sys}, next.watch = s.watch → next.main.clearing = false →
      next.Watched := watched.move (by rw [pc]; rfl)
  rw [headStep] at moved
  split at moved
  · cases moved
    exact apart rfl rfl
  · cases moved
    exact apart rfl rfl
  · obtain ⟨_, rfl⟩ := beginCall_eq_some moved
    exact apart rfl rfl
  · cases moved
    exact apart rfl rfl
  · cases moved
    exact apart rfl rfl

theorem Watched.mainStep (watched : s.Watched) (moved : s.mainStep success c = some t) :
    t.Watched := by
  cases pc : s.main
  all_goals
    simp only [Sys.mainStep, pc] at moved
    have minding := congrArg MainPc.minding pc
  case process idx => exact processResponse_watched watched pc moved
  case dispatch idx result =>
    have task := congrArg Prod.fst (dispatchStep_frame moved).task
    exact .of_minding (MainPc.minding_of_answer task)
  case complete idx result =>
    cases moved
    apply Watched.of_idle
    rw [completeCurCmd]
    split
    · assumption
    · rfl
  case event e => exact processEvent_watched watched pc moved
  case timeout =>
    cases moved
    exact timeoutStep_watched watched pc
  case timeoutClear =>
    cases moved
    refine ⟨fun current _ => ?_, fun _ moved => by cases moved⟩
    rcases watched.watched current minding with armed | running | ⟨_, elsewhere⟩
    · exact .inl armed
    · exact .inr (.inl running)
    · exact absurd pc elsewhere
  case head n => exact headStep_watched watched pc moved
  case giveUpFree n =>
    cases moved
    exact .of_minding rfl
  case giveUpDrop n =>
    cases moved
    exact .of_idle rfl
  case submit n =>
    cases moved
    exact .of_minding rfl
  case send n =>
    cases moved
    exact ⟨fun _ _ => .inl rfl, fun _ moved => by cases moved⟩
  case stopped => cases moved
  case ignore n wake =>
    cases moved
    exact .of_idle rfl
  case awake =>
    split at moved
    · cases moved
      exact .of_minding rfl
    · split at moved <;> cases moved <;> exact watched.move minding rfl rfl
  case calling d next =>
    split at moved <;> cases moved
    cases next with
    | complete idx result => exact .of_minding rfl
    | events | tx => exact watched.move minding rfl rfl
  case confirmSend site =>
    cases moved
    refine watched.move minding ?_ ?_
    · cases success <;> rfl
    · cases success <;> cases site <;> rfl
  case confirm site =>
    split at moved <;> cases moved
    · exact watched.move minding rfl rfl
    · exact watched.move minding rfl (by cases site <;> rfl)
  case confirmSet site =>
    cases moved
    exact watched.move minding rfl (by cases site <;> rfl)
  case presleep =>
    split at moved
    · split at moved <;> cases moved <;> exact watched.move minding rfl rfl
    · cases moved
      exact watched.move minding rfl rfl
  case execute =>
    split at moved
    · split at moved <;> cases moved <;> exact watched.move minding rfl rfl
    · cases moved
      exact watched.move minding rfl rfl
  case goSleep =>
    split at moved
    · obtain ⟨_, rfl⟩ := beginCall_eq_some moved
      exact watched.move minding rfl rfl
    · cases moved
      exact watched.move minding rfl rfl
  case tx =>
    cases moved
    rw [txStep]
    split <;> exact watched.move minding rfl rfl
  case response | events =>
    split at moved <;> cases moved <;> exact watched.move minding rfl rfl
  case top | ready | blocked =>
    cases moved
    refine watched.move minding rfl ?_
    dsimp only
    split <;> rfl
  case sleeping | clear =>
    cases moved
    exact watched.move minding rfl rfl
  case requeue n =>
    cases moved
    exact .of_idle (watched.requeued n pc)

/-- A call leaves the timer alone. -/
theorem clientStep_watch (stepped : s.clientStep c = some t) : t.watch = s.watch := by
  cases phase : (s.client c).phase <;> simp only [clientStep, phase, reduceCtorEq] at stepped
  case alloc =>
    split at stepped <;> cases stepped
    · rfl
    · rename_i n cs got
      obtain ⟨rest, free, rfl⟩ := CommandState.lbsGetCmdCtrlNode_eq_some got
      rfl
  case unqueued n =>
    split at stepped
    · split at stepped <;> cases stepped
      rfl
    · cases stepped
      rfl
  case finish n =>
    split at stepped <;> cases stepped
    · rfl
    · have same : ∀ cs : CommandState, cs.takeRetcode.1.curCmd = cs.curCmd ∧
          cs.takeRetcode.1.commandTimer = cs.commandTimer ∧
          cs.takeRetcode.1.cmdTimedOut = cs.cmdTimedOut := by
        intro cs
        rw [CommandState.takeRetcode]
        split <;> exact ⟨rfl, rfl, rfl⟩
      obtain ⟨current, armed, set⟩ := same s.priv.toCommandState
      exact Prod.ext current (Prod.ext armed (Prod.ext set rfl))
  case fill | abort | insert =>
    cases stepped
    rfl
  case start | stamp | queue | wait =>
    split at stepped <;> cases stepped <;> rfl

/-- A step of another party. -/
theorem Watched.bystander (watched : s.Watched) (main : t.main = s.main)
    (same : t.watch = s.watch) : t.Watched := by
  simp only [watch, Prod.mk.injEq] at same
  obtain ⟨current, armed, set, running⟩ := same
  refine ⟨fun flight away => ?_, fun n pc => ?_⟩
  · rw [armed, set, running, main]
    exact watched.watched (current ▸ flight) (main ▸ away)
  · rw [current]
    exact watched.requeued n (main ▸ pc)

theorem Watched.step {action : Action} (watched : s.Watched) (safe : s.WatchSafe action)
    (stepped : s.step action = some t) : t.Watched := by
  unfold Sys.step at stepped
  split at stepped
  · cases stepped
  cases action with
  | client c =>
      exact watched.bystander (clientStep_frame stepped).main (clientStep_watch stepped)
  | main success c => exact watched.mainStep stepped
  | deliver data =>
      cases stepped
      rw [deliverStep]
      split
      · exact watched
      · dsimp only
        split <;> exact watched.bystander rfl rfl
  | call c req =>
      dsimp only at stepped
      split at stepped <;> cases stepped
      exact watched.bystander rfl rfl
  | timerExpire =>
      dsimp only at stepped
      split at stepped <;> cases stepped
      exact ⟨fun _ _ => .inr (.inl rfl), watched.requeued⟩
  | commandTimerFn =>
      dsimp only at stepped
      split at stepped <;> cases stepped
      refine ⟨fun current _ => .inr (.inr ⟨?_, safe⟩), watched.requeued⟩
      obtain ⟨n, flight⟩ := Option.ne_none_iff_exists'.mp current
      have flight' : s.priv.curCmd = some n := flight
      simp [flight']
  | stopCard => exact safe.elim
  | hostToCardDone | signal _ | queueEvent _ | remove | kthreadStop | setFwReady | configure _
    | transmit _ _ =>
      cases stepped
      exact watched.bystander rfl rfl

end Rules

end Sys

/-- In every run in which no timeout is lost, a command in flight that the main thread is not
minding is under watch. -/
theorem command_is_watched {s : Sys} (reached : driver.ReachableUnder Sys.WatchSafe s)
    (current : s.priv.curCmd ≠ none) (away : s.main.minding = false) :
    s.priv.commandTimer = true ∨ s.timerRunning = true ∨ s.priv.cmdTimedOut = true := by
  have watched : s.Watched := reached.invariant Sys.Watched (fun _ start => start ▸ .of_idle rfl)
    fun _ _ _ _ watched safe stepped => watched.step safe stepped
  exact (watched.watched current away).imp_right (Or.imp_right And.left)

instance decidableWatchSafe (s : Sys) : (action : Action) → Decidable (s.WatchSafe action)
  | .stopCard => .isFalse id
  | .commandTimerFn => inferInstanceAs (Decidable (s.main ≠ .timeoutClear))
  | .call _ _ | .client _ | .signal _ | .main _ _ | .deliver _ | .queueEvent _ | .hostToCardDone
  | .timerExpire | .remove | .kthreadStop | .setFwReady | .configure _ | .transmit _ _ =>
      .isTrue trivial

/-- A command is sent, and the main thread goes to sleep. -/
theorem command_is_watched_sent : ∃ s,
    driver.runUnder Sys.WatchSafe Sys.init (hwSpecSent ++ List.replicate 2 (.main true 1000)) =
      some s ∧ s.priv.curCmd ≠ none ∧ s.main.minding = false ∧
    (s.priv.commandTimer = true ∨ s.timerRunning = true ∨ s.priv.cmdTimedOut = true) := by
  obtain ⟨s, executed, current, away⟩ := Machine.exists_of_map
    (fun s : Sys => s.priv.curCmd ≠ none ∧ s.main.minding = false)
    (show (driver.runUnder Sys.WatchSafe Sys.init
      (hwSpecSent ++ List.replicate 2 (.main true 1000))).map _ = some true by decide +kernel)
  exact ⟨s, executed, current, away,
    command_is_watched (.run (.initial rfl) executed) current away⟩

/-- The timer function runs between the test of `cmd_timed_out` and its clearing. -/
def lostTimeout : List Action :=
  hwSpecSent ++ List.replicate 5 (.main true 1000) ++
    [.timerExpire, .commandTimerFn, .main true 1000]

/-- The timeout is lost: the command stays in flight, and nothing watches it. -/
theorem timeout_is_lost : ∃ s, driver.run Sys.init lostTimeout = some s ∧ s.priv.curCmd ≠ none ∧
    s.main.minding = false ∧
    ¬ (s.priv.commandTimer = true ∨ s.timerRunning = true ∨ s.priv.cmdTimedOut = true) := by
  exact Machine.exists_of_map (fun s : Sys => s.priv.curCmd ≠ none ∧ s.main.minding = false ∧
      ¬ (s.priv.commandTimer = true ∨ s.timerRunning = true ∨ s.priv.cmdTimedOut = true))
    (show (driver.run Sys.init lostTimeout).map _ = some true by decide +kernel)

end Libertas
