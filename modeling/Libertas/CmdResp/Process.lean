import Libertas.CmdResp.Handlers

/-!
# Processing a command response

`lbs_process_command_response` first decides under `driver_lock` what the
response means for the command in flight. That part is `judge`; it is atomic in
every interleaving. What follows a verdict depends on it: nothing, a completion,
a call of `lbs_ps_wakeup` with the lock dropped and then a completion, or the
unlocked dispatch to a callback or handler and then a completion.

`lbsProcessCommandResponse` runs the parts one after the other.
-/

namespace Libertas

open ByteOrder

/-- The outcome of the locked first part. -/
inductive Verdict
  /-- The response is dropped. -/
  | drop
  /-- The command was completed; the return value is given. -/
  | done (priv : Priv) (ret : Int)
  /-- The lock is dropped for `lbs_ps_wakeup` before the completion. -/
  | wakeup (priv : Priv)
  /-- The lock is dropped for the callback or handler before the completion. -/
  | dispatch (priv : Priv)

/-- The response is not for the command in flight, or defers it. The second test lets every
response with the association reply code pass, and every response to an association. -/
def rejects (cur : CmdBuf) (resp : List UInt8) : Bool :=
  respSeqnum resp ≠ cur.seqnum ||
  (respCommand resp ≠ cmdRet cur.command && respCommand resp ≠ cmdRet80211Associate &&
    cur.command ≠ cmd80211Associate) ||
  respResult resp = 0x0004

/-- An accepted response stops the timer, resets the retry count and becomes the return code. -/
def acceptResponse (priv : Priv) (resp : List UInt8) : Priv :=
  { priv with
    commandTimer := false
    cmdTimedOut := false
    nrRetries := 0
    curCmdRetcode := (respResult resp).toNat }

/-- What a power-save response does before the command is completed. -/
def psModeResponse (priv : Priv) (resp : List UInt8) : Priv :=
  if respResult resp ≠ 0 then
    if priv.settings.mode = iwModeAdhoc ∧ respPsAction resp = cmdSubcmdEnterPs then
      { priv with settings := { priv.settings with psmode := lbs80211PowermodeCam } }
    else priv
  else if respPsAction resp = cmdSubcmdEnterPs then
    { priv with needtowakeup := false, psstate := .awake }
  else if respPsAction resp = cmdSubcmdExitPs then
    { priv with needtowakeup := false, psstate := .fullPower }
  else priv

/-- The firmware went to power save although the link is gone. -/
def mustWakeup (priv : Priv) (resp : List UInt8) : Bool :=
  respResult resp = 0 && respPsAction resp = cmdSubcmdEnterPs && priv.connectStatus ≠ .connected

/-- Complete the command in flight, if there is one. -/
def completeCurCmd (priv : Priv) (result : Int) : Priv :=
  match priv.curCmd with
  | none => priv
  | some n => { priv with toCommandState := priv.lbsCompleteCommand n result }

/-- The locked first part of `lbs_process_command_response`. -/
def judge (priv : Priv) (resp : List UInt8) : Verdict :=
  match priv.curCmd with
  | none => .drop
  | some n =>
      if rejects (priv.cmdArray n).cmdbuf resp then .drop
      else
        let priv := acceptResponse priv resp
        let result : Int := (respResult resp).toNat
        if respCommand resp = cmdRet cmd80211PsMode then
          let priv := psModeResponse priv resp
          if mustWakeup priv resp then .wakeup priv
          else .done (completeCurCmd priv result) 0
        else if respResult resp ≠ 0 ∨ respCommand resp &&& 0x8000 = 0 then
          .done (completeCurCmd priv result) (-1)
        else .dispatch priv

@[simp] theorem acceptResponse_nodes (priv : Priv) (resp : List UInt8) :
    (acceptResponse priv resp).toNodeState = priv.toNodeState := rfl

@[simp] theorem psModeResponse_cmd (priv : Priv) (resp : List UInt8) :
    (psModeResponse priv resp).toCommandState = priv.toCommandState := by
  rw [psModeResponse]
  repeat' split
  all_goals rfl

@[simp] theorem psModeResponse_mailbox (priv : Priv) (resp : List UInt8) :
    (psModeResponse priv resp).toMailbox = priv.toMailbox := by
  rw [psModeResponse]
  repeat' split
  all_goals rfl

@[simp] theorem psModeResponse_link (priv : Priv) (resp : List UInt8) :
    (psModeResponse priv resp).toLinkState = priv.toLinkState := by
  rw [psModeResponse]
  repeat' split
  all_goals rfl

@[simp] theorem psModeResponse_tx (priv : Priv) (resp : List UInt8) :
    (psModeResponse priv resp).toTxState = priv.toTxState := by
  rw [psModeResponse]
  repeat' split
  all_goals rfl

/-- The bookkeeping of an accepted response does not interfere. -/
theorem psModeResponse_accept (priv : Priv) (resp : List UInt8) :
    psModeResponse (acceptResponse priv resp) resp =
      acceptResponse (psModeResponse priv resp) resp := by
  unfold psModeResponse acceptResponse
  dsimp only
  repeat' split
  all_goals rfl

/-- The private structure that a verdict leaves behind. -/
def Verdict.next : Verdict → Option Priv
  | .drop => none
  | .done priv _ | .wakeup priv | .dispatch priv => some priv

/-- What the locked part does outside the command path. -/
structure Judged (priv next : Priv) (resp : List UInt8) : Prop where
  mailbox : next.toMailbox = priv.toMailbox
  link : next.toLinkState = priv.toLinkState
  tx : next.toTxState = priv.toTxState
  psstate : next.psstate =
    if respCommand resp = cmdRet cmd80211PsMode then (psModeResponse priv resp).psstate
    else priv.psstate

/-- An accepted response is for a command in flight. -/
structure Accepted (priv : Priv) (resp : List UInt8) (n : NodeId) : Prop where
  current : priv.curCmd = some n
  accepted : rejects (priv.cmdArray n).cmdbuf resp = false

theorem completeCurCmd_of_current {priv : Priv} {n : NodeId} (result : Int)
    (current : priv.curCmd = some n) :
    completeCurCmd priv result =
      { priv with toCommandState := priv.lbsCompleteCommand n result } := by
  simp [completeCurCmd, current]

/-- A completion stays inside the command path. -/
theorem completeCurCmd_eq (priv : Priv) (result : Int) :
    completeCurCmd priv result =
      { priv with toCommandState := (completeCurCmd priv result).toCommandState } := by
  rw [completeCurCmd]
  split <;> rfl

section Judge

variable {priv next : Priv} {resp : List UInt8}

theorem Judged.accept (priv : Priv) (resp : List UInt8)
    (other : respCommand resp ≠ cmdRet cmd80211PsMode) :
    Judged priv (acceptResponse priv resp) resp :=
  { mailbox := rfl, link := rfl, tx := rfl, psstate := by rw [if_neg other]; rfl }

theorem Judged.psMode (priv : Priv) (resp : List UInt8)
    (mode : respCommand resp = cmdRet cmd80211PsMode) :
    Judged priv (psModeResponse (acceptResponse priv resp) resp) resp := by
  constructor
  · rw [psModeResponse_mailbox]; rfl
  · rw [psModeResponse_link]; rfl
  · rw [psModeResponse_tx]; rfl
  · rw [if_pos mode, psModeResponse_accept]; rfl

theorem Judged.complete (judged : Judged priv next resp) (result : Int) :
    Judged priv (completeCurCmd next result) resp := by
  rw [completeCurCmd_eq]
  exact ⟨judged.mailbox, judged.link, judged.tx, judged.psstate⟩

theorem judge_frame (judged : (judge priv resp).next = some next) : Judged priv next resp := by
  rw [judge] at judged
  split at judged
  · cases judged
  split at judged
  · cases judged
  dsimp only at judged
  split at judged
  · rename_i mode
    split at judged <;> cases judged
    · exact .psMode priv resp mode
    · exact (Judged.psMode priv resp mode).complete _
  · rename_i other
    split at judged <;> cases judged
    · exact (Judged.accept priv resp other).complete _
    · exact .accept priv resp other

/-- What `judge` did when it completed the command under the lock. -/
theorem judge_eq_done {ret : Int} (done : judge priv resp = .done next ret) :
    ∃ n, Accepted priv resp n ∧
      next.toCommandState =
        (acceptResponse priv resp).lbsCompleteCommand n (respResult resp).toNat := by
  rw [judge] at done
  split at done
  · cases done
  rename_i n current
  split at done
  · cases done
  rename_i accepted
  refine ⟨n, ⟨current, by simpa using accepted⟩, ?_⟩
  have moded : (psModeResponse (acceptResponse priv resp) resp).curCmd = some n := by
    simpa using current
  dsimp only at done
  split at done
  · split at done <;> cases done
    rw [completeCurCmd_of_current _ moded]
    simp
  · split at done <;> cases done
    rw [completeCurCmd_of_current _ (by simpa using current)]

/-- What `judge` did before the lock is dropped for `lbs_ps_wakeup`. -/
theorem judge_eq_wakeup (wakeup : judge priv resp = .wakeup next) :
    ∃ n, Accepted priv resp n ∧ respResult resp = 0 ∧
      next.toCommandState = (acceptResponse priv resp).toCommandState := by
  rw [judge] at wakeup
  split at wakeup
  · cases wakeup
  rename_i n current
  split at wakeup
  · cases wakeup
  rename_i accepted
  refine ⟨n, ⟨current, by simpa using accepted⟩, ?_⟩
  dsimp only at wakeup
  split at wakeup
  · split at wakeup <;> cases wakeup
    rename_i must
    simp only [mustWakeup, Bool.and_eq_true, decide_eq_true_eq] at must
    exact ⟨must.1.1, by simp⟩
  · split at wakeup <;> cases wakeup

/-- What `judge` did before the lock is dropped for the callback or handler. -/
theorem judge_eq_dispatch (dispatch : judge priv resp = .dispatch next) :
    ∃ n, Accepted priv resp n ∧ respResult resp = 0 ∧ next = acceptResponse priv resp := by
  rw [judge] at dispatch
  split at dispatch
  · cases dispatch
  rename_i n current
  split at dispatch
  · cases dispatch
  rename_i accepted
  refine ⟨n, ⟨current, by simpa using accepted⟩, ?_⟩
  dsimp only at dispatch
  split at dispatch
  · split at dispatch <;> cases dispatch
  · split at dispatch <;> cases dispatch
    rename_i successful
    exact ⟨by simpa using (not_or.mp successful).1, rfl⟩

end Judge

/-- The unlocked callback or handler of an accepted response. -/
def dispatchResponse (memory : Pointer → List UInt8) (priv : Priv) (resp : List UInt8) :
    Handled :=
  match priv.curCmd.bind fun n => (priv.cmdArray n).callback.map fun cb => (n, cb) with
  | some (n, callback) => runCallback memory priv callback (priv.cmdArray n).callbackArg resp
  | none => handleCmdResponse priv resp

/-- Callbacks and handlers leave the command path, the power state and the mailbox alone. -/
theorem dispatchResponse_core (memory : Pointer → List UInt8) (priv : Priv)
    (resp : List UInt8) : (dispatchResponse memory priv resp).priv.core = priv.core := by
  rw [dispatchResponse]
  split
  · rename_i n callback _
    cases callback with
    | lbsCmdAsyncCallback => rfl
    | sync callback => cases callback <;> rfl
  · exact handleCmdResponse_core priv resp

/-- A callback or handler writes only through the pointer that the command in flight carries. -/
theorem dispatchResponse_write {memory : Pointer → List UInt8} {priv : Priv}
    {resp bytes : List UInt8} {p : Pointer}
    (wrote : (dispatchResponse memory priv resp).write = some (p, bytes)) :
    ∃ n, priv.curCmd = some n ∧ (priv.cmdArray n).callbackArg = some p := by
  rw [dispatchResponse] at wrote
  split at wrote
  · rename_i n callback found
    obtain ⟨m, current, called⟩ := Option.bind_eq_some_iff.mp found
    obtain ⟨cb, _, same⟩ := Option.map_eq_some_iff.mp called
    cases same
    refine ⟨n, current, ?_⟩
    cases callback with
    | lbsCmdAsyncCallback => cases wrote
    | sync cb =>
        cases cb with
        | lbsCmdCopyback =>
            obtain ⟨q, arg, same⟩ := Option.map_eq_some_iff.mp wrote
            cases same
            exact arg
        | lbsRet80211Scan | lbsSuspendCallback => cases wrote
  · exact handleCmdResponse_write wrote

/-- Copy what a handler wrote to a caller's buffer. -/
def applyWrite (memory : Pointer → List UInt8) (write : Option (Pointer × List UInt8)) :
    Pointer → List UInt8 :=
  match write with
  | none => memory
  | some (p, bytes) => Function.update memory p (overwrite bytes (memory p))

/-- A buffer that is not written to keeps its content. -/
theorem applyWrite_of_ne {memory : Pointer → List UInt8} {write : Option (Pointer × List UInt8)}
    {q : Pointer} (elsewhere : ∀ p bytes, write = some (p, bytes) → q ≠ p) :
    applyWrite memory write q = memory q := by
  unfold applyWrite
  split
  · rfl
  · exact Function.update_of_ne (elsewhere _ _ rfl) _ _

/-- The result of `lbs_process_command_response`. -/
structure Processed where
  priv : Priv
  memory : Pointer → List UInt8
  ret : Int

/-- `lbs_process_command_response`, run without interruption. The call is the one that
`lbs_ps_wakeup` makes, if it is reached. -/
def lbsProcessCommandResponse (memory : Pointer → List UInt8) (priv : Priv) (call : CallId)
    (resp : List UInt8) : Processed :=
  match judge priv resp with
  | .drop => { priv := priv, memory := memory, ret := -1 }
  | .done priv ret => { priv := priv, memory := memory, ret := ret }
  | .wakeup priv =>
      { priv := completeCurCmd (lbsPsWakeup priv call) (respResult resp).toNat
        memory := memory, ret := 0 }
  | .dispatch priv =>
      let handled := dispatchResponse memory priv resp
      let woken := if handled.wakeup then lbsPsWakeup handled.priv call else handled.priv
      { priv := completeCurCmd woken (respResult resp).toNat
        memory := applyWrite memory handled.write, ret := handled.ret }

end Libertas
