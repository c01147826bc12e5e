import Libertas.Driver.Completion

/-!
# The status that waiting calls return

A call of `lbs_prepare_and_send_command` learns from `cur_cmd_retcode` how its
command ended. The field is shared: it is cleared when a command is submitted,
written when one is answered or given up, and read and cleared at the end of every
such call, whether it waits or not. The node of a completed command goes back to
`cmdfreeq` before its caller has looked at it again, so its wait condition can be
cleared for another command.

`StatusSafe` leaves out the steps that disturb a call between the completion of its
command and its return. `Tracks` says what is known of a waiting call at each of its
control points.
-/

namespace Libertas

namespace Sys

/-- A call of `lbs_prepare_and_send_command` with `CMD_OPTION_WAITFORRSP` and without a signal. -/
def Waiter (s : Sys) (c : CallId) : Prop :=
  (s.client c).req.kind = .prepareAndSend true ∧ (s.client c).signalled = false

/-- The command of the call is completed, and the call has not read its status. -/
def Unread (s : Sys) (c : CallId) : Prop :=
  s.Waiter c ∧ (s.client c).phase.awaiting ≠ none ∧ c ∈ s.completions

/-- The call does not clear the wait condition of a call that has not returned, and submits its
command if it waits for it. -/
def SparesWaits (s : Sys) (c : CallId) : Prop :=
  ∀ n, (s.client c).phase = .stamp n →
    ((s.client c).req.assemble = .unsubmitted → ¬ s.Waiter c) ∧
    ∀ d, s.Unread d → (s.client d).phase.awaiting ≠ some n

/-- The call clears no status that another call has not read, and if it does not wait no result of
another command. -/
def SparesStatus (s : Sys) (c : CallId) : Prop :=
  ∀ n, (s.client c).phase = .finish n → (s.client c).req.isCmd = false →
    s.priv.curCmdRetcode ≠ 0 →
      (∀ d, s.Unread d → d = c) ∧
      ((s.client c).req.kind = .prepareAndSend false → s.recorded.map Prod.fst = some c)

/-- Nothing is written over the status of a call that has not read it, unless both are zero or
both are not. An ignored command leaves its caller a status of zero. -/
def KeepsUnread (s : Sys) : Prop :=
  (∀ v, s.stores = some v → ∀ d, s.Unread d → (v = 0 ↔ s.priv.curCmdRetcode = 0)) ∧
    ∀ n wake, s.main = .ignore n wake → s.Waiter (s.owner n) → s.priv.curCmdRetcode = 0

/-- The steps under which waiting calls get the status of their own commands. -/
def StatusSafe (s : Sys) : Action → Prop
  | .client c => s.Patient s.mainView c ∧ s.SparesWaits c ∧ s.SparesStatus c
  | .main _ _ => s.KeepsUnread
  | .stopCard =>
      ∀ n ∈ s.priv.cmdpendingq, (s.priv.cmdArray n).isAsync = true ∧ ¬ s.Waiter (s.owner n)
  | _ => True

section Decide

variable (s : Sys)

instance (c : CallId) : Decidable (s.Waiter c) :=
  inferInstanceAs (Decidable (_ ∧ _))

instance (c : CallId) : Decidable (s.Unread c) :=
  inferInstanceAs (Decidable (_ ∧ _))

/-- Only calls whose commands were completed have an unread status. -/
theorem forall_unread_iff {Good : CallId → Prop} :
    (∀ d ∈ s.completions, s.Unread d → Good d) ↔ ∀ d, s.Unread d → Good d :=
  ⟨fun all d unread => all d unread.2.2 unread, fun all d _ => all d⟩

instance {Good : CallId → Prop} [DecidablePred Good] : Decidable (∀ d, s.Unread d → Good d) :=
  decidable_of_iff _ s.forall_unread_iff

instance (c : CallId) : Decidable (s.SparesWaits c) := by
  unfold SparesWaits
  infer_instance

instance (c : CallId) : Decidable (s.SparesStatus c) := by
  unfold SparesStatus
  infer_instance

instance : Decidable s.KeepsUnread :=
  inferInstanceAs (Decidable
    ((∀ v ∈ s.stores, ∀ d, s.Unread d → (v = 0 ↔ s.priv.curCmdRetcode = 0)) ∧
      ∀ n wake, s.main = .ignore n wake → s.Waiter (s.owner n) → s.priv.curCmdRetcode = 0))

instance : (action : Action) → Decidable (s.StatusSafe action)
  | .client c =>
      inferInstanceAs (Decidable (s.Patient s.mainView c ∧ s.SparesWaits c ∧ s.SparesStatus c))
  | .main _ _ => inferInstanceAs (Decidable s.KeepsUnread)
  | .stopCard =>
      inferInstanceAs (Decidable (∀ n ∈ s.priv.cmdpendingq,
        (s.priv.cmdArray n).isAsync = true ∧ ¬ s.Waiter (s.owner n)))
  | .call _ _ | .signal _ | .deliver _ | .queueEvent _ | .hostToCardDone | .timerExpire
  | .commandTimerFn | .remove | .kthreadStop | .setFwReady | .configure _ | .transmit _ _ =>
      .isTrue trivial

end Decide

/-- The command of the call is completed, and the call will learn how. -/
def Resolved (s : Sys) (c : CallId) : Prop :=
  ∃ q r, s.account c = [.issued c q, .completed c r] ∧ (s.priv.curCmdRetcode = 0 ↔ r = 0)

/-- The command of the call is under way. -/
structure Underway (s : Sys) (c : CallId) (n : NodeId) : Prop where
  inHand : s.InHand n
  owner : s.owner n = c
  unwoken : (s.priv.cmdArray n).cmdwaitqwoken = false
  account : ∃ q, s.account c = [.issued c q]

/-- What is known of a waiting call. -/
def Tracks (s : Sys) (c : CallId) : Prop :=
  match (s.client c).phase with
  | .idle | .start | .alloc | .fill _ | .stamp _ | .abort _ => s.account c = []
  | .queue _ | .insert _ _ => ∃ q, s.account c = [.issued c q]
  | .unqueued n =>
      (∃ q, s.account c = [.issued c q]) ∧ (s.priv.cmdArray n).cmdwaitqwoken = false
  | .wait n =>
      s.Underway c n ∨ (s.Resolved c ∧ (s.priv.cmdArray n).cmdwaitqwoken = true)
  | .finish n => s.Resolved c ∧ (s.priv.cmdArray n).cmdwaitqwoken = true
  | .returned ret =>
      (ret = -1 ∧ s.account c = []) ∨
        ∃ q r, s.account c = [.issued c q, .completed c r] ∧ (ret ≠ 0 ↔ r ≠ 0)

/-- The invariant behind the status of waiting calls. -/
structure Informed (s : Sys) : Prop where
  held : s.Held
  labelled : s.Labelled
  idle : s.main.choosing = true → s.priv.curCmd = none
  recorded : s.priv.curCmdRetcode ≠ 0 → ∃ c, s.recorded = some (c, s.priv.curCmdRetcode)
  untold : ∀ c, (s.client c).phase = .idle → s.account c = []
  handed : ∀ n, s.InHand n → s.Waiter (s.owner n) →
    (s.client (s.owner n)).phase = .wait n ∧ (s.priv.cmdArray n).cmdwaitqwoken = false
  tracks : ∀ c, s.Waiter c → s.Tracks c

section Waiters

variable {s t : Sys} {c : CallId} {n : NodeId}

/-- The status that a call has not read is kept. -/
theorem Resolved.keep (resolved : s.Resolved c) (account : t.account c = s.account c)
    (status : t.priv.curCmdRetcode = 0 ↔ s.priv.curCmdRetcode = 0) : t.Resolved c := by
  obtain ⟨q, r, told, zero⟩ := resolved
  exact ⟨q, r, account.trans told, status.trans zero⟩

/-- A completed command is in the list of completions. -/
theorem mem_completions {r : Int} (told : .completed c r ∈ s.trace) : c ∈ s.completions :=
  List.mem_filterMap.mpr ⟨_, told, rfl⟩

theorem mem_trace_of_account {e : Event} (told : e ∈ s.account c) : e ∈ s.trace :=
  (List.mem_filter.mp told).1

theorem Resolved.unread (resolved : s.Resolved c) (waiter : s.Waiter c)
    (awaiting : (s.client c).phase.awaiting = some n) : s.Unread c := by
  obtain ⟨q, r, told, _⟩ := resolved
  have completed : .completed c r ∈ s.account c := by
    rw [told]
    exact List.mem_cons_of_mem _ List.mem_cons_self
  exact ⟨waiter, by rw [awaiting]; nofun, mem_completions (mem_trace_of_account completed)⟩

/-- A step that does nothing to a waiting call. -/
theorem Tracks.keep (tracks : s.Tracks c) (phase : (t.client c).phase = (s.client c).phase)
    (account : t.account c = s.account c)
    (unqueued : ∀ n, (s.client c).phase = .unqueued n →
      (s.priv.cmdArray n).cmdwaitqwoken = false → (t.priv.cmdArray n).cmdwaitqwoken = false)
    (underway : ∀ n, (s.client c).phase = .wait n → s.Underway c n → t.Underway c n)
    (woken : ∀ n, (s.client c).phase.awaiting = some n → s.Resolved c →
      (s.priv.cmdArray n).cmdwaitqwoken = true → (t.priv.cmdArray n).cmdwaitqwoken = true)
    (status : ∀ n, (s.client c).phase.awaiting = some n → s.Resolved c →
      (t.priv.curCmdRetcode = 0 ↔ s.priv.curCmdRetcode = 0)) : t.Tracks c := by
  rw [Tracks] at tracks ⊢
  rw [phase, account]
  cases now : (s.client c).phase <;> simp only [now] at tracks unqueued underway woken status ⊢
  case unqueued n => exact ⟨tracks.1, unqueued n rfl tracks.2⟩
  case wait n =>
    rcases tracks with under | ⟨resolved, done⟩
    · exact .inl (underway n rfl under)
    · exact .inr ⟨resolved.keep account (status n rfl resolved), woken n rfl resolved done⟩
  case finish n =>
    obtain ⟨resolved, done⟩ := tracks
    exact ⟨resolved.keep account (status n rfl resolved), woken n rfl resolved done⟩
  all_goals exact tracks

/-- The owner of a command in hand has begun. -/
theorem Informed.begun (informed : s.Informed) (inHand : s.InHand n) :
    (s.client (s.owner n)).phase.begun = true :=
  informed.labelled.begun n fun free =>
    informed.held.untouched inHand (s.owner n) (.inr (.inl free))

/-- The main thread starts no waiting call. -/
theorem SameClients.waiter (clients : SameClients s t) (waiter : t.Waiter c) :
    t.client c = s.client c ∧ s.Waiter c := by
  rcases clients with same | ⟨d, req, _, _, waits, began⟩
  · rw [Waiter] at waiter ⊢
    rw [same] at waiter ⊢
    exact ⟨rfl, waiter⟩
  · by_cases mine : c = d
    · subst mine
      have kind := waiter.1
      simp only [began, if_true] at kind
      simp [Request.waits, kind] at waits
    · have same : t.client c = s.client c := by
        rw [began]
        exact if_neg mine
      rw [Waiter] at waiter ⊢
      rw [same] at waiter
      exact ⟨same, waiter⟩

/-- A call that waits for a command in hand has not resolved it. -/
theorem Informed.underway (informed : s.Informed) (waiter : s.Waiter (s.owner n))
    (inHand : s.InHand n) : s.Underway (s.owner n) n := by
  obtain ⟨phase, unwoken⟩ := informed.handed n inHand waiter
  have tracks := informed.tracks _ waiter
  simp only [Tracks, phase] at tracks
  rcases tracks with under | ⟨_, woken⟩
  · exact under
  · rw [unwoken] at woken
    cases woken

/-- Whether the unread status is zero stays as it is. -/
theorem KeepsUnread.status {success : Bool} {d : CallId} (keeps : s.KeepsUnread)
    (idle : s.main.choosing = true → s.priv.curCmd = none)
    (moved : s.mainStep success c = some t) (unread : s.Unread d) :
    t.priv.curCmdRetcode = 0 ↔ s.priv.curCmdRetcode = 0 := by
  rcases mainStep_retcode idle moved with ⟨_, same, _⟩ | ⟨v, stores, same, _⟩
  · rw [same]
  · rw [same]
    exact keeps.1 v stores d unread

/-- The main thread completes the command of another call, or none. -/
theorem Informed.main_other (informed : s.Informed) (nothing : NothingTaken s t)
    (waiter : s.Waiter c) (client : t.client c = s.client c) (account : t.account c = s.account c)
    (done : NodeId → Prop) (waits : SameWaits s t done)
    (woken : ∀ n, done n → s.InHand n ∧ s.owner n ≠ c ∧ (t.priv.cmdArray n).cmdwaitqwoken = true)
    (hand : ∀ n, ¬ done n → s.InHand n → t.InHand n)
    (status : s.Unread c → (t.priv.curCmdRetcode = 0 ↔ s.priv.curCmdRetcode = 0)) :
    t.Tracks c := by
  refine (informed.tracks c waiter).keep (by rw [client]) account (fun n phase unwoken => ?_)
    (fun n _ under => ?_) (fun n _ _ flag => ?_)
    fun n awaiting resolved => status (resolved.unread waiter awaiting)
  · rw [waits n fun isDone => ?_]
    · exact unwoken
    · exact informed.held.untouched (woken n isDone).1 c (.inl (by rw [phase]; rfl))
  · have spared : ¬ done n := fun isDone => (woken n isDone).2.1 under.owner
    refine ⟨hand n spared under.inHand, ?_, ?_, by rw [account]; exact under.account⟩
    · rw [nothing.owner]
      exact under.owner
    · rw [waits n spared]
      exact under.unwoken
  · by_cases isDone : done n
    · exact (woken n isDone).2.2
    · rw [waits n isDone]
      exact flag

/-- The main thread completes the command of a waiting call. -/
theorem Informed.main_own {r : Int} (informed : s.Informed) (keeps : s.KeepsUnread)
    (completes : Completes n r s t) (waiter : s.Waiter (s.owner n))
    (client : t.client (s.owner n) = s.client (s.owner n)) : t.Tracks (s.owner n) := by
  obtain ⟨phase, _⟩ := informed.handed n completes.inHand waiter
  obtain ⟨q, issued⟩ := (informed.underway waiter completes.inHand).account
  have account : t.account (s.owner n) = [.issued (s.owner n) q, .completed (s.owner n) r] := by
    rw [completes.account, issued, if_pos rfl]
    rfl
  have status : t.priv.curCmdRetcode = 0 ↔ r = 0 := by
    rcases completes.status with same | ⟨wake, pc, rfl, same⟩
    · rw [same]
    · rw [same]
      exact iff_of_true (keeps.2 n wake pc waiter) rfl
  rw [Tracks]
  rw [client, phase]
  exact .inr ⟨⟨q, r, account, status⟩, completes.woken⟩

/-- The main thread keeps the invariant, unless it writes over a status that was not read. -/
theorem Informed.main {success : Bool} (informed : s.Informed) (keeps : s.KeepsUnread)
    (moved : s.mainStep success c = some t) : t.Informed := by
  have clients := SameClients.mainStep moved
  have nothing := NothingTaken.mainStep moved
  have moves := Moves.main informed.held moved
  have completes := mainStep_completes informed.idle moved
  refine
    { held := informed.held.main moved
      labelled := informed.labelled.kept nothing fun d begun => by
        rw [(clients.onward d).1 begun]
        exact begun
      idle := fun choosing => ?_
      recorded := fun nonzero => ?_
      untold := fun d idle => ?_
      handed := fun n inHand waiter => ?_
      tracks := fun d waiter => ?_ }
  · obtain ⟨before, current⟩ := (TakesUp.mainStep moved).choosing choosing
    rw [current]
    exact before.elim informed.idle id
  · rcases mainStep_retcode informed.idle moved with ⟨_, same, record⟩ | ⟨v, _, same, record⟩
    · rw [same] at nonzero ⊢
      rw [record]
      exact informed.recorded nonzero
    · rw [same] at nonzero ⊢
      exact record nonzero
  · have before := clients.idle idle
    rcases completes with none | ⟨n, r, some⟩
    · rw [none.account]
      exact informed.untold d before
    · have other : s.owner n ≠ d := fun same => by
        have begun := informed.begun some.inHand
        rw [same, before] at begun
        cases begun
      rw [some.account, if_neg other, List.append_nil]
      exact informed.untold d before
  · obtain ⟨before, array⟩ := moves.hand n inHand
    rw [nothing.owner] at waiter ⊢
    obtain ⟨client, waits⟩ := clients.waiter waiter
    rw [client, array]
    exact informed.handed n before waits
  · obtain ⟨client, waits⟩ := clients.waiter waiter
    have status : s.Unread d → (t.priv.curCmdRetcode = 0 ↔ s.priv.curCmdRetcode = 0) :=
      keeps.status informed.idle moved
    rcases completes with none | ⟨n, r, some⟩
    · exact informed.main_other nothing waits client (by rw [none.account]) (fun _ => False)
        none.waits nofun (fun n _ => none.hand n) status
    by_cases mine : s.owner n = d
    · subst mine
      exact informed.main_own keeps some waits client
    · refine informed.main_other nothing waits client ?_ (· = n) some.waits ?_
        (fun m other => some.hand m other) status
      · rw [some.account, if_neg mine, List.append_nil]
      · rintro m rfl
        exact ⟨some.inHand, mine, some.woken⟩

/-- What a step of a call does to the fields that other calls rely on. -/
structure CallShares (c : CallId) (s t : Sys) : Prop where
  pending : ∀ n, n ∈ s.priv.cmdpendingq → n ∈ t.priv.cmdpendingq
  waits : SameWaits s t fun n => (s.client c).phase = .stamp n
  status : (t.priv.curCmdRetcode = s.priv.curCmdRetcode ∧ t.recorded = s.recorded) ∨
    ∃ n, (s.client c).phase = .finish n ∧ (s.client c).req.isCmd = false ∧
      t.priv.curCmdRetcode = 0

theorem CallShares.pass {phase : Phase} : CallShares c s (s.setPhase c phase) :=
  ⟨fun _ => id, fun _ _ => rfl, .inl ⟨rfl, rfl⟩⟩

/-- A step that edits a single node, its wait condition apart. -/
theorem CallShares.edit {cs : CommandState} {phase : Phase}
    (pending : cs.cmdpendingq = s.priv.cmdpendingq)
    (retcode : cs.curCmdRetcode = s.priv.curCmdRetcode)
    (waits : ∀ m, (cs.cmdArray m).cmdwaitqwoken = (s.priv.cmdArray m).cmdwaitqwoken) :
    CallShares c s ((s.withCmd cs).setPhase c phase) :=
  ⟨fun _ member => pending ▸ member, fun m _ => waits m, .inl ⟨retcode, rfl⟩⟩

theorem clientStep_shares (stepped : s.clientStep c = some t) : CallShares c s t := by
  cases phase : (s.client c).phase <;> simp only [Sys.clientStep, phase, reduceCtorEq] at stepped
  case alloc =>
    split at stepped <;> cases stepped
    · exact .pass
    · rename_i n cs got
      obtain ⟨rest, free, rfl⟩ := CommandState.lbsGetCmdCtrlNode_eq_some got
      exact .edit rfl rfl (modifyNode_cmdwaitqwoken fun _ => rfl)
  case fill n =>
    cases stepped
    exact .edit rfl rfl initNode_cmdwaitqwoken
  case abort n =>
    cases stepped
    exact .edit rfl rfl lbsCleanupAndInsertCmd_cmdwaitqwoken
  case stamp n =>
    split at stepped <;> cases stepped
    · exact .pass
    · exact .pass
    · refine ⟨fun _ => id, fun m other => ?_,
        .inl ⟨rfl, recorded_keep rfl (by simp [Event.record])⟩⟩
      have elsewhere : m ≠ n := fun same => other (same ▸ phase)
      simp [CommandState.stampNode, CommandState.modifyNode_of_ne elsewhere]
  case queue n =>
    split at stepped <;> cases stepped
    · exact .pass
    · exact .edit rfl rfl (modifyNode_cmdwaitqwoken fun _ => rfl)
  case insert n tail =>
    cases stepped
    exact ⟨fun m member => CommandState.mem_insertPending.mpr (.inr member), fun _ _ => rfl,
      .inl ⟨rfl, rfl⟩⟩
  case unqueued n =>
    split at stepped
    · split at stepped <;> cases stepped
      exact .pass
    · cases stepped
      exact .pass
  case finish n =>
    split at stepped <;> cases stepped
    · exact .edit rfl rfl lbsCleanupAndInsertCmd_cmdwaitqwoken
    · rename_i isCmd
      have nodes := s.priv.takeRetcode_nodes
      refine ⟨fun m member => ?_, fun m _ => ?_, .inr ⟨n, phase, by simpa using isCmd, ?_⟩⟩
      · exact congrArg NodeState.cmdpendingq nodes ▸ member
      · exact congrArg CmdCtrlNode.cmdwaitqwoken (congrFun (congrArg NodeState.cmdArray nodes) m)
      · show s.priv.takeRetcode.1.curCmdRetcode = 0
        rw [CommandState.takeRetcode]
        split
        · assumption
        · rfl
  case start | wait =>
    split at stepped <;> cases stepped <;> exact .pass

@[simp] theorem setPhase_account {phase : Phase} : (s.setPhase c phase).account = s.account := rfl

@[simp] theorem withCmd_account {cs : CommandState} : (s.withCmd cs).account = s.account := rfl

/-- A step of a call tells nothing about the commands of the others. -/
theorem account_of_call {d : CallId} (frame : CallStep c s t) (other : d ≠ c) :
    t.account d = s.account d := by
  rcases frame.trace with same | fetched | issued
  · rw [account, same, account]
  · simp [account_append fetched, Event.settles]
  · simp [account_append issued, Event.settles, Ne.symm other]

/-- A command in hand stays there when a call takes a step. -/
theorem InHand.call (inHand : s.InHand n) (stepped : s.clientStep c = some t) : t.InHand n := by
  have frame := clientStep_frame stepped
  rcases inHand with pending | transit | ⟨kept, current⟩
  · exact .inl ((clientStep_shares stepped).pending n pending)
  · exact .inr (.inl (frame.main ▸ transit))
  · exact .inr (.inr ⟨frame.main ▸ kept, frame.curCmd ▸ current⟩)

/-- Another call takes a step. -/
theorem Informed.client_other {d : CallId} (informed : s.Informed) (waits : s.SparesWaits c)
    (status : s.SparesStatus c) (stepped : s.clientStep c = some t) (other : d ≠ c)
    (waiter : s.Waiter d) (client : t.client d = s.client d) : t.Tracks d := by
  have frame := clientStep_frame stepped
  have shares := clientStep_shares stepped
  have account := account_of_call frame other
  refine (informed.tracks d waiter).keep (by rw [client]) account (fun n phase unwoken => ?_)
    (fun n _ under => ?_) (fun n awaiting resolved woken => ?_) fun n awaiting resolved => ?_
  · rw [frame.array n (informed.held.prepared_untouched (by rw [phase]; rfl) (Ne.symm other))]
    exact unwoken
  · have array := frame.array n (informed.held.untouched under.inHand c)
    refine ⟨under.inHand.call stepped, ?_, ?_, account ▸ under.account⟩
    · rw [Sys.owner, array]
      exact under.owner
    · rw [array]
      exact under.unwoken
  · rw [shares.waits n fun stamp => ?_]
    · exact woken
    · exact (waits n stamp).2 d (resolved.unread waiter awaiting) awaiting
  · rcases shares.status with ⟨same, _⟩ | ⟨m, finish, isCmd, cleared⟩
    · rw [same]
    · have zero : s.priv.curCmdRetcode = 0 := by
        by_contra nonzero
        exact other ((status m finish isCmd nonzero).1 d (resolved.unread waiter awaiting))
      rw [cleared, zero]

/-- A waiting call takes a step. -/
theorem Informed.client_own (informed : s.Informed) (waiter : s.Waiter c) (waits : s.SparesWaits c)
    (stepped : s.clientStep c = some t) : t.Tracks c := by
  have fits := informed.held.fits c
  have tracks := informed.tracks c waiter
  have isCmd : (s.client c).req.isCmd = false := by simp [Request.isCmd, waiter.1]
  have waiting : (s.client c).req.waits = true := by simp [Request.waits, waiter.1]
  have unsignalled := waiter.2
  rw [Client.Fits] at fits
  rw [Tracks] at tracks
  cases phase : (s.client c).phase <;> simp only [phase] at tracks fits <;>
    simp only [Sys.clientStep, phase, reduceCtorEq] at stepped
  case start =>
    split at stepped <;> cases stepped
    · simp only [Tracks, setPhase_client_self]
      exact .inl ⟨by simp [Request.removedRet, waiter.1], tracks⟩
    · simpa only [Tracks, setPhase_client_self, setPhase_account, withCmd_account] using tracks
  case alloc =>
    split at stepped <;> cases stepped
    · simp only [Tracks, setPhase_client_self]
      exact .inl ⟨by simp [Request.exhaustedRet, waiter.1], tracks⟩
    · simpa only [Tracks, setPhase_client_self, setPhase_account, withCmd_account] using tracks
  case fill n =>
    cases stepped
    simpa only [Tracks, setPhase_client_self, setPhase_account, withCmd_account] using tracks
  case stamp n =>
    split at stepped <;> cases stepped
    · simpa only [Tracks, setPhase_client_self, setPhase_account, withCmd_account] using tracks
    · rename_i unsubmitted
      exact absurd waiter ((waits n phase).1 unsubmitted)
    · simp only [Tracks, log_client, setPhase_client_self]
      refine ⟨s.priv.seqnum, ?_⟩
      rw [account_append (s := s) rfl, tracks]
      simp [Event.settles]
  case abort n =>
    cases stepped
    simp only [Tracks, setPhase_client_self]
    exact .inl ⟨trivial, tracks⟩
  case queue n =>
    split at stepped <;> cases stepped
    · simp only [Tracks, setPhase_client_self]
      exact ⟨tracks, fits.2.1⟩
    · simpa only [Tracks, setPhase_client_self, setPhase_account, withCmd_account] using tracks
  case insert n tail =>
    cases stepped
    simp only [Tracks, setPhase_client_self, withCmd_client, waiting, if_true]
    refine .inl ⟨.inl ?_, fits.1, fits.2.1, tracks⟩
    exact CommandState.mem_insertPending.mpr (.inl rfl)
  case unqueued n =>
    simp [waiting, tracks.2, unsignalled] at stepped
  case wait n =>
    rcases tracks with under | ⟨resolved, woken⟩
    · simp [under.unwoken, unsignalled] at stepped
    · simp only [woken, Bool.true_or, if_true] at stepped
      cases stepped
      simp only [Tracks, setPhase_client_self]
      exact ⟨resolved, woken⟩
  case finish n =>
    obtain ⟨⟨q, r, told, zero⟩, _⟩ := tracks
    simp only [isCmd, Bool.false_eq_true, if_false] at stepped
    cases stepped
    simp only [Tracks, log_client, setPhase_client_self]
    refine .inr ⟨q, r, ?_, ?_⟩
    · rw [account_append (s := s) rfl, told]
      simp [Event.settles]
    · rw [not_iff_not]
      rw [CommandState.takeRetcode]
      split
      · rename_i clear
        exact iff_of_true rfl (zero.mp clear)
      · rename_i set
        exact iff_of_false (by simp) fun none => set (zero.mpr none)

theorem CallStep.waiter {d : CallId} (frame : CallStep c s t) (waiter : t.Waiter d) :
    s.Waiter d := by
  obtain ⟨phase, _, client⟩ := frame.client
  by_cases mine : d = c
  · subst mine
    simpa [Waiter, client] using waiter
  · simpa [Waiter, client, setPhase_client_of_ne mine] using waiter

/-- The owner of a command that was in hand before a step of a call. -/
theorem Informed.client_handed (informed : s.Informed) (stepped : s.clientStep c = some t)
    (inHand : s.InHand n) (waiter : t.Waiter (t.owner n)) :
    (t.client (t.owner n)).phase = .wait n ∧ (t.priv.cmdArray n).cmdwaitqwoken = false := by
  have frame := clientStep_frame stepped
  have array := frame.array n (informed.held.untouched inHand c)
  have owner : t.owner n = s.owner n := by rw [Sys.owner, array, Sys.owner]
  rw [owner] at waiter ⊢
  have before := frame.waiter waiter
  obtain ⟨phase, unwoken⟩ := informed.handed n inHand before
  have other : s.owner n ≠ c := by
    rintro rfl
    simp [Sys.clientStep, phase, unwoken, before.2] at stepped
  obtain ⟨_, _, client⟩ := frame.client
  rw [client, setPhase_client_of_ne other, array]
  exact ⟨phase, unwoken⟩

/-- A call that queues its command waits for it. -/
theorem Informed.client_inserts {tail : Bool} (informed : s.Informed)
    (phase : (s.client c).phase = .insert n tail) (stepped : s.clientStep c = some t)
    (waiter : t.Waiter (t.owner n)) :
    (t.client (t.owner n)).phase = .wait n ∧ (t.priv.cmdArray n).cmdwaitqwoken = false := by
  have fits := informed.held.fits c
  simp only [Client.Fits, phase] at fits
  have before := (clientStep_frame stepped).waiter waiter
  obtain ⟨array, next⟩ := clientStep_inserts phase stepped
  have mine : t.owner n = c := by
    rw [Sys.owner, array]
    exact fits.1
  rw [mine] at before ⊢
  rw [next, array, if_pos (by simp [Request.waits, before.1])]
  exact ⟨rfl, fits.2.1⟩

/-- A step of a call keeps the invariant, if it spares the calls that have not returned. -/
theorem Informed.client (informed : s.Informed) (patient : s.Patient s.mainView c)
    (waits : s.SparesWaits c) (status : s.SparesStatus c) (stepped : s.clientStep c = some t) :
    t.Informed := by
  have frame := clientStep_frame stepped
  obtain ⟨phase, started, clients⟩ := frame.client
  have others : ∀ d, d ≠ c → t.client d = s.client d := fun d other => by
    rw [clients, setPhase_client_of_ne other]
  refine
    { held := informed.held.client patient stepped
      labelled := informed.labelled.client stepped
      idle := fun choosing => ?_
      recorded := fun nonzero => ?_
      untold := fun d idle => ?_
      handed := fun n inHand waiter => ?_
      tracks := fun d waiter => ?_ }
  · rw [frame.curCmd]
    exact informed.idle (frame.main ▸ choosing)
  · rcases (clientStep_shares stepped).status with ⟨same, record⟩ | ⟨_, _, _, cleared⟩
    · rw [same] at nonzero ⊢
      rw [record]
      exact informed.recorded nonzero
    · exact absurd cleared nonzero
  · have other : d ≠ c := by
      rintro rfl
      rw [clients, setPhase_client_self] at idle
      exact started idle
    rw [account_of_call frame other]
    exact informed.untold d (others d other ▸ idle)
  · rcases inHand with pending | transit | ⟨kept, current⟩
    · rcases frame.pending n pending with before | ⟨tail, phase⟩
      · exact informed.client_handed stepped (.inl before) waiter
      · exact informed.client_inserts phase stepped waiter
    · exact informed.client_handed stepped (.inr (.inl (frame.main ▸ transit))) waiter
    · exact informed.client_handed stepped
        (.inr (.inr ⟨frame.main ▸ kept, frame.curCmd ▸ current⟩)) waiter
  · have before := frame.waiter waiter
    by_cases mine : d = c
    · subst mine
      exact informed.client_own before waits stepped
    · exact informed.client_other waits status stepped mine before (others d mine)

/-- What a step of another party does to the calls and to what they read. -/
structure LeavesStatus (s t : Sys) : Prop where
  retcode : t.priv.curCmdRetcode = s.priv.curCmdRetcode
  waits : ∀ n, (t.priv.cmdArray n).cmdwaitqwoken = (s.priv.cmdArray n).cmdwaitqwoken ∨
    (n ∈ s.priv.cmdpendingq ∧ (t.priv.cmdArray n).cmdwaitqwoken = true ∧
      ¬ s.Waiter (s.owner n))
  waiter : ∀ d, t.Waiter d → (s.client d).phase = .idle ∨ s.Waiter d

theorem LeavesStatus.still (nodes : t.priv.toNodeState = s.priv.toNodeState)
    (retcode : t.priv.curCmdRetcode = s.priv.curCmdRetcode) (client : t.client = s.client) :
    LeavesStatus s t where
  retcode := retcode
  waits n := .inl (by rw [congrArg NodeState.cmdArray nodes])
  waiter d waiter := .inr (by simpa [Waiter, client] using waiter)

/-- Only `lbs_stop_card` wakes a waiter. -/
theorem step_leavesStatus {action : Action} (safe : s.StatusSafe action)
    (stepped : s.step action = some t)
    (elsewhere : (∀ c, action ≠ .client c) ∧ ∀ success c, action ≠ .main success c) :
    LeavesStatus s t := by
  unfold Sys.step at stepped
  split at stepped
  · cases stepped
  cases action with
  | client c => exact absurd rfl (elsewhere.1 c)
  | main success c => exact absurd rfl (elsewhere.2 success c)
  | call c req =>
      dsimp only at stepped
      split at stepped <;> cases stepped
      rename_i idle
      refine ⟨rfl, fun _ => .inl rfl, fun d waiter => ?_⟩
      by_cases mine : d = c
      · exact .inl (mine ▸ idle)
      · exact .inr (by simpa [Waiter, mine] using waiter)
  | signal c =>
      cases stepped
      refine ⟨rfl, fun _ => .inl rfl, fun d waiter => .inr ?_⟩
      by_cases mine : d = c
      · simp [Waiter, mine] at waiter
      · simpa [Waiter, mine] using waiter
  | stopCard =>
      dsimp only at stepped
      split at stepped <;> cases stepped
      refine ⟨rfl, fun n => ?_, fun d waiter => .inr waiter⟩
      by_cases pending : n ∈ s.priv.cmdpendingq
      · exact .inr ⟨pending, by simp [CommandState.flushPending, pending], (safe n pending).2⟩
      · exact .inl (congrArg CmdCtrlNode.cmdwaitqwoken
          (CommandState.flushPending_of_not_mem pending))
  | deliver data =>
      cases stepped
      rw [deliverStep]
      split
      · exact .still rfl rfl rfl
      · dsimp only
        split <;> exact .still rfl rfl rfl
  | timerExpire | commandTimerFn =>
      dsimp only at stepped
      split at stepped <;> cases stepped
      exact .still rfl rfl rfl
  | queueEvent _ | hostToCardDone | remove | kthreadStop | setFwReady | configure _
    | transmit _ _ =>
      cases stepped
      exact .still rfl rfl rfl

/-- Only calls and the main thread tell of commands. -/
theorem step_silent {action : Action} (stepped : s.step action = some t)
    (elsewhere : (∀ c, action ≠ .client c) ∧ ∀ success c, action ≠ .main success c) :
    t.account = s.account ∧ t.recorded = s.recorded := by
  obtain ⟨events, appended, told⟩ := step_tells stepped
  have delivered : ∀ e ∈ events, ∃ data, e = .delivered data := by
    cases action with
    | client c => exact absurd rfl (elsewhere.1 c)
    | main success c => exact absurd rfl (elsewhere.2 success c)
    | deliver data =>
        rcases told with rfl | rfl
        · exact nofun
        · exact fun e member => ⟨data, List.mem_singleton.mp member⟩
    | _ =>
        obtain rfl := told
        exact nofun
  refine ⟨?_, recorded_keep appended fun e member last => ?_⟩
  · funext d
    rw [account_append appended, List.filter_eq_nil_iff.mpr, List.append_nil]
    intro e member
    obtain ⟨data, rfl⟩ := delivered e member
    simp [Event.settles]
  · obtain ⟨data, rfl⟩ := delivered e member
    rfl

/-- A step of another party keeps the invariant, if it wakes no waiting call. -/
theorem Informed.bystander {action : Action} (informed : s.Informed) (held : t.Held)
    (aside : Aside action s t) (leaves : LeavesStatus s t) (account : t.account = s.account)
    (recorded : t.recorded = s.recorded) : t.Informed := by
  have hand : ∀ n, t.InHand n ↔ s.InHand n := fun n => by
    unfold InHand
    rw [aside.pending, aside.current, aside.main]
  have unwoken : ∀ n, (s.InHand n → s.Waiter (s.owner n)) →
      (s.priv.cmdArray n).cmdwaitqwoken = false → (t.priv.cmdArray n).cmdwaitqwoken = false := by
    intro n waited flag
    rcases leaves.waits n with same | ⟨pending, _, unwaited⟩
    · rw [same]
      exact flag
    · exact absurd (waited (.inl pending)) unwaited
  refine
    { held := held
      labelled := informed.labelled.kept aside.nothing fun d begun => (aside.onward d).1 ▸ begun
      idle := fun choosing => ?_
      recorded := fun nonzero => ?_
      untold := fun d idle => ?_
      handed := fun n inHand waiter => ?_
      tracks := fun d waiter => ?_ }
  · rw [aside.current]
    exact informed.idle (aside.main ▸ choosing)
  · rw [leaves.retcode] at nonzero ⊢
    rw [recorded]
    exact informed.recorded nonzero
  · rw [account]
    rcases aside.clients d with ⟨before, _⟩ | ⟨same, _⟩
    · exact informed.untold d before
    · exact informed.untold d (same ▸ idle)
  · rw [hand] at inHand
    rw [aside.nothing.owner] at waiter ⊢
    have begun := informed.begun inHand
    have started : (s.client (s.owner n)).phase ≠ .idle := fun idle => by
      rw [idle] at begun
      cases begun
    have before := (leaves.waiter _ waiter).resolve_left started
    obtain ⟨phase, flag⟩ := informed.handed n inHand before
    rcases aside.clients (s.owner n) with ⟨idle, _⟩ | ⟨same, _⟩
    · exact absurd idle started
    · exact ⟨same.trans phase, unwoken n (fun _ => before) flag⟩
  · rcases aside.clients d with ⟨idle, start⟩ | ⟨same, _⟩
    · simp only [Tracks, start, account]
      exact informed.untold d idle
    · rcases leaves.waiter d waiter with idle | before
      · simp only [Tracks, same.trans idle, account]
        exact informed.untold d idle
      refine (informed.tracks d before).keep same (by rw [account]) (fun n phase flag => ?_)
        (fun n _ under => ?_) (fun n _ _ woken => ?_) fun _ _ _ => by rw [leaves.retcode]
      · refine unwoken n (fun inHand => ?_) flag
        exact absurd (.inl (by rw [phase]; rfl)) (informed.held.untouched inHand d)
      · refine ⟨(hand n).mpr under.inHand, ?_, ?_, by rw [account]; exact under.account⟩
        · rw [aside.nothing.owner]
          exact under.owner
        · exact unwoken n (fun _ => under.owner ▸ before) under.unwoken
      · rcases leaves.waits n with same | ⟨_, flag, _⟩
        · rw [same]
          exact woken
        · exact flag

theorem StatusSafe.held {action : Action} (safe : s.StatusSafe action) : s.HeldSafe action := by
  cases action with
  | client c => exact safe.1
  | stopCard => exact fun n pending => (safe n pending).1
  | _ => trivial

/-- Every step that disturbs no call keeps the invariant. -/
theorem Informed.step {action : Action} (informed : s.Informed) (safe : s.StatusSafe action)
    (stepped : s.step action = some t) : t.Informed := by
  have held := informed.held.step safe.held stepped
  by_cases client : ∃ c, action = .client c
  · obtain ⟨c, rfl⟩ := client
    rw [Sys.step] at stepped
    split at stepped
    · cases stepped
    · exact informed.client safe.1 safe.2.1 safe.2.2 stepped
  by_cases main : ∃ success c, action = .main success c
  · obtain ⟨success, c, rfl⟩ := main
    rw [Sys.step] at stepped
    split at stepped
    · cases stepped
    · exact informed.main safe stepped
  have elsewhere : (∀ c, action ≠ .client c) ∧ ∀ success c, action ≠ .main success c :=
    ⟨not_exists.mp client, fun success c same => main ⟨success, c, same⟩⟩
  obtain ⟨account, recorded⟩ := step_silent stepped elsewhere
  exact informed.bystander held (step_aside stepped elsewhere)
    (step_leavesStatus safe stepped elsewhere) account recorded

theorem Informed.init : Sys.init.Informed where
  held := .init
  labelled := .init
  idle := nofun
  recorded nonzero := absurd rfl nonzero
  untold _ _ := rfl
  handed n inHand := by
    rcases inHand with pending | transit | ⟨_, current⟩
    · cases pending
    · cases transit
    · cases current
  tracks _ waiter := by
    have kind := waiter.1
    simp [Sys.init, Client.unused, psWakeupRequest] at kind

theorem Informed.of_reachable (reached : driver.ReachableUnder StatusSafe s) : s.Informed :=
  reached.invariant Informed (fun _ start => start ▸ .init)
    fun _ _ _ _ informed safe stepped => informed.step safe stepped

/-- From the completion of its command to its return the wait condition of a call holds. -/
theorem Informed.completed_woken {r : Int} (informed : s.Informed) (waiter : s.Waiter c)
    (completed : .completed c r ∈ s.trace) : (∃ ret, (s.client c).phase = .returned ret) ∨
      ∃ n, (s.client c).phase.awaiting = some n ∧ (s.priv.cmdArray n).cmdwaitqwoken = true := by
  have told : .completed c r ∈ s.account c :=
    List.mem_filter.mpr ⟨completed, by simp [Event.settles]⟩
  have tracks := informed.tracks c waiter
  rw [Tracks] at tracks
  cases phase : (s.client c).phase <;> simp only [phase] at tracks
  case queue | insert =>
    obtain ⟨q, issued⟩ := tracks
    simp [issued] at told
  case unqueued n =>
    obtain ⟨⟨q, issued⟩, _⟩ := tracks
    simp [issued] at told
  case wait n =>
    rcases tracks with under | ⟨_, woken⟩
    · obtain ⟨q, issued⟩ := under.account
      simp [issued] at told
    · exact .inr ⟨n, rfl, woken⟩
  case finish n => exact .inr ⟨n, rfl, tracks.2⟩
  case returned ret => exact .inl ⟨ret, rfl⟩
  all_goals simp [tracks] at told

/-- A call that does not wait reads nothing, or the result of its own command. -/
theorem Informed.own_result (informed : s.Informed)
    (kind : (s.client c).req.kind = .prepareAndSend false) (status : s.SparesStatus c)
    (stepped : driver.step s (.client c) = some t) :
    (t.priv.curCmdRetcode = s.priv.curCmdRetcode ∧
      ∀ n, (s.client c).phase = .finish n → (t.client c).phase = .returned 0) ∨
    s.recorded = some (c, s.priv.curCmdRetcode) := by
  have isCmd : (s.client c).req.isCmd = false := by simp [Request.isCmd, kind]
  have moved : s.clientStep c = some t := by
    simp only [driver, Sys.step] at stepped
    split at stepped
    · cases stepped
    · exact stepped
  by_cases finish : ∃ n, (s.client c).phase = .finish n
  · obtain ⟨n, phase⟩ := finish
    by_cases zero : s.priv.curCmdRetcode = 0
    · simp only [Sys.clientStep, phase, isCmd, Bool.false_eq_true, if_false] at moved
      cases moved
      refine .inl ⟨?_, fun _ _ => ?_⟩ <;> simp [CommandState.takeRetcode, zero]
    · obtain ⟨d, record⟩ := informed.recorded zero
      have own := (status n phase isCmd zero).2 kind
      rw [record] at own ⊢
      obtain rfl : d = c := Option.some.inj own
      exact .inr rfl
  · refine .inl ⟨?_, fun n phase => absurd ⟨n, phase⟩ finish⟩
    rcases (clientStep_shares moved).status with ⟨same, _⟩ | ⟨n, phase, _⟩
    · exact same
    · exact absurd ⟨n, phase⟩ finish

end Waiters

end Sys

/-- In a run whose steps disturb no call that has not read its status, a waiting call that returned
was refused, or its command was completed and it returned nonzero if and only if the result was.
From the completion of its command to its return its wait condition holds. A step of a call that
does not wait leaves `cur_cmd_retcode` alone and reports nothing, or the result in it belongs to the
command of this call. -/
theorem status_own {s : Sys} (reached : driver.ReachableUnder Sys.StatusSafe s) (c : CallId) :
    (s.Waiter c →
      (∀ ret, (s.client c).phase = .returned ret → (ret = -1 ∧ s.account c = []) ∨
        ∃ q r, s.account c = [.issued c q, .completed c r] ∧ (ret ≠ 0 ↔ r ≠ 0)) ∧
      ∀ r, .completed c r ∈ s.trace → (∃ ret, (s.client c).phase = .returned ret) ∨
        ∃ n, (s.client c).phase.awaiting = some n ∧
          (s.priv.cmdArray n).cmdwaitqwoken = true) ∧
    ((s.client c).req.kind = .prepareAndSend false → s.StatusSafe (.client c) →
      ∀ t, driver.step s (.client c) = some t →
        (t.priv.curCmdRetcode = s.priv.curCmdRetcode ∧
          ∀ n, (s.client c).phase = .finish n → (t.client c).phase = .returned 0) ∨
        s.recorded = some (c, s.priv.curCmdRetcode)) := by
  have informed := Sys.Informed.of_reachable reached
  refine ⟨fun waiter => ⟨fun ret returned => ?_, fun r completed => ?_⟩,
    fun kind safe t stepped => ?_⟩
  · have tracks := informed.tracks c waiter
    simpa only [Sys.Tracks, returned] using tracks
  · exact informed.completed_woken waiter completed
  · exact informed.own_result kind safe.2.2 stepped

/-- A call of `lbs_prepare_and_send_command` with `CMD_802_11_RSSI`. -/
def getRssiRequest (waitForRsp : Bool) : Request :=
  { kind := .prepareAndSend waitForRsp, cmdNo := cmd80211Rssi, cmdAction := 0
    content := some (16, List.replicate 8 0), buffer := none }

/-- A call of the command function, up to its wait or its end. -/
def getRssiQueued (c : CallId) (waitForRsp : Bool) : List Action :=
  .call c (getRssiRequest waitForRsp) :: List.replicate 6 (.client c)

/-- The main thread submits the command at the head of the queue, and the card refuses it. -/
def getRssiRefused : List Action :=
  List.replicate 14 (.main true 1000) ++
    [.hostToCardDone, .deliver [0x1f, 0x80, 16, 0, 1, 0, 1, 0]] ++
    List.replicate 4 (.main true 1000)

/-- The command of a waiting call is refused, and the call returns. The command of a second call,
which does not wait, is queued meanwhile. -/
def ownStatusRun : List Action :=
  .setFwReady :: getRssiQueued 0 true ++ getRssiQueued 1 false ++ getRssiRefused ++
    List.replicate 2 (.client 0)

/-- The waiting call reports that its command failed, and the other one, behind it, nothing. -/
theorem status_own_beside : ∃ s t,
    driver.runUnder Sys.StatusSafe Sys.init ownStatusRun = some s ∧
    ((s.client 0).phase = .returned (-1) ∧ s.Waiter 0) ∧
    (∃ q r, s.account 0 = [.issued 0 q, .completed 0 r] ∧ r ≠ 0) ∧
    driver.step s (.client 1) = some t ∧ (t.client 1).phase = .returned 0 := by
  obtain ⟨s, executed, ⟨returned, waiter⟩, begun, beside, safe, moves, silent⟩ :=
    Machine.exists_of_map
      (fun s : Sys => ((s.client 0).phase = .returned (-1) ∧ s.Waiter 0) ∧ s.account 0 ≠ [] ∧
        ((s.client 1).req.kind = .prepareAndSend false ∧ (s.client 1).phase = .finish 1) ∧
        s.StatusSafe (.client 1) ∧ (driver.step s (.client 1)).isSome = true ∧
        s.recorded ≠ some (1, s.priv.curCmdRetcode))
      (show (driver.runUnder Sys.StatusSafe Sys.init ownStatusRun).map _ = some true by
        decide +kernel)
  obtain ⟨t, stepped⟩ := Option.isSome_iff_exists.mp moves
  have reached : driver.ReachableUnder Sys.StatusSafe s := .run (.initial rfl) executed
  refine ⟨s, t, executed, ⟨returned, waiter⟩, ?_, stepped, ?_⟩
  · obtain ⟨_, nothing⟩ | ⟨q, r, told, failed⟩ :=
      ((status_own reached 0).1 waiter).1 (-1) returned
    · exact absurd nothing begun
    · exact ⟨q, r, told, failed.mp (by decide)⟩
  · obtain ⟨_, reports⟩ | recorded := (status_own reached 1).2 beside.1 safe t stepped
    · exact reports 1 beside.2
    · exact absurd recorded silent

/-- A call that does not wait reads the status of another one before that has read it. -/
def stolenStatusRun : List Action :=
  .setFwReady :: getRssiQueued 0 true ++ getRssiQueued 1 false ++ getRssiRefused ++ [.client 1] ++
    List.replicate 2 (.client 0)

/-- The waiting call returns 0 although its command failed, and the other call returns -1 although
its command was not even submitted. -/
theorem status_stolen : ∃ s, driver.run Sys.init stolenStatusRun = some s ∧ driver.Reachable s ∧
    s.Waiter 0 ∧ (s.client 0).phase = .returned 0 ∧ .completed 0 1 ∈ s.trace ∧
    (s.client 1).req.kind = .prepareAndSend false ∧ (s.client 1).phase = .returned (-1) ∧
    .submitted 1 ∉ s.trace := by
  obtain ⟨s, executed, stolen⟩ := Machine.exists_of_map
    (fun s : Sys => s.Waiter 0 ∧ (s.client 0).phase = .returned 0 ∧ .completed 0 1 ∈ s.trace ∧
      (s.client 1).req.kind = .prepareAndSend false ∧ (s.client 1).phase = .returned (-1) ∧
      .submitted 1 ∉ s.trace)
    (show (driver.run Sys.init stolenStatusRun).map _ = some true by decide +kernel)
  exact ⟨s, executed, Machine.reachable_of_run rfl executed, stolen⟩

end Libertas
