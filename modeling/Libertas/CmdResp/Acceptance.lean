import Libertas.CmdResp.Process

/-!
# Which responses are accepted

A response answers a command when it carries the command's sequence number, does
not defer it, and has one of the reply codes of that command. The test in
`lbs_process_command_response` joins three inequalities, so it also lets through
the association reply code for any command, and any code for an association.
`Misfiled` names exactly these responses. Every other response is treated as its
reply code asks.
-/

namespace Libertas

/-- The reply codes of a command. -/
def IsReplyCode (command code : UInt16) : Prop :=
  code = cmdRet command ∨ (command = cmd80211Associate ∧ code = cmdRet80211Associate)

/-- The response has the sequence number of the command and does not defer it. -/
def InSequence (cur : CmdBuf) (resp : List UInt8) : Prop :=
  respSeqnum resp = cur.seqnum ∧ respResult resp ≠ 0x0004

/-- The response answers the command in flight. -/
def Answers (priv : Priv) (resp : List UInt8) : Prop :=
  ∃ n, priv.curCmd = some n ∧ InSequence (priv.cmdArray n).cmdbuf resp ∧
    IsReplyCode (priv.cmdArray n).cmdbuf.command (respCommand resp)

/-- An in-sequence response that passes the reply code test although its code belongs to another
command: the association reply code for a command that is no association, or, for an
association, a code that is neither of its two. -/
def Misfiled (priv : Priv) (resp : List UInt8) : Prop :=
  ∃ n, priv.curCmd = some n ∧ InSequence (priv.cmdArray n).cmdbuf resp ∧
    if (priv.cmdArray n).cmdbuf.command = cmd80211Associate then
      respCommand resp ≠ cmdRet80211Associate ∧ respCommand resp ≠ cmdRet cmd80211Associate
    else
      respCommand resp = cmdRet80211Associate ∧
        respCommand resp ≠ cmdRet (priv.cmdArray n).cmdbuf.command

section Verdicts

variable {priv : Priv} {resp : List UInt8}

theorem judge_of_idle (idle : priv.curCmd = none) : judge priv resp = .drop := by
  simp [judge, idle]

theorem judge_of_rejects {n : NodeId} (current : priv.curCmd = some n)
    (rejected : rejects (priv.cmdArray n).cmdbuf resp = true) : judge priv resp = .drop := by
  simp [judge, current, rejected]

theorem judge_ne_drop {n : NodeId} (current : priv.curCmd = some n)
    (accepted : rejects (priv.cmdArray n).cmdbuf resp = false) : judge priv resp ≠ .drop := by
  simp only [judge, current, accepted, Bool.false_eq_true, ↓reduceIte]
  split
  · split <;> simp
  · split <;> simp

/-- A completion leaves no command in flight. -/
@[simp] theorem completeCurCmd_curCmd (priv : Priv) (result : Int) :
    (completeCurCmd priv result).curCmd = none := by
  rw [completeCurCmd]
  split
  · assumption
  · rfl

/-- A dropped response changes nothing. -/
theorem process_of_drop {memory : Pointer → List UInt8} {call : CallId}
    (drop : judge priv resp = .drop) :
    lbsProcessCommandResponse memory priv call resp =
      { priv := priv, memory := memory, ret := -1 } := by
  simp [lbsProcessCommandResponse, drop]

/-- A response that is completed under the lock leaves no command in flight. -/
theorem judge_done_curCmd {next : Priv} {ret : Int} (done : judge priv resp = .done next ret) :
    next.curCmd = none := by
  rw [judge] at done
  split at done
  · cases done
  · split at done
    · cases done
    · dsimp only at done
      split at done
      · split at done
        · cases done
        · cases done
          simp
      · split at done
        · cases done
          simp
        · cases done

/-- A response that is not dropped leaves no command in flight. -/
theorem process_of_accept (memory : Pointer → List UInt8) (call : CallId)
    (accept : judge priv resp ≠ .drop) :
    (lbsProcessCommandResponse memory priv call resp).priv.curCmd = none := by
  rw [lbsProcessCommandResponse]
  cases verdict : judge priv resp with
  | drop => exact absurd verdict accept
  | done next ret => exact judge_done_curCmd verdict
  | wakeup next => exact completeCurCmd_curCmd _ _
  | dispatch next => exact completeCurCmd_curCmd _ _

end Verdicts

/-- The test of the source, read as a statement about reply codes. -/
theorem rejects_eq_false_iff (cur : CmdBuf) (resp : List UInt8) :
    rejects cur resp = false ↔
      InSequence cur resp ∧
        (respCommand resp = cmdRet cur.command ∨ respCommand resp = cmdRet80211Associate ∨
          cur.command = cmd80211Associate) := by
  simp only [rejects, InSequence, Bool.or_eq_false_iff, decide_eq_false_iff_not,
    Bool.and_eq_false_iff, ne_eq, not_not]
  tauto

/-- A response is accepted exactly when it answers the command in flight or is misfiled. -/
theorem judge_ne_drop_iff (priv : Priv) (resp : List UInt8) :
    judge priv resp ≠ .drop ↔ Answers priv resp ∨ Misfiled priv resp := by
  cases current : priv.curCmd with
  | none => simp [Answers, Misfiled, judge_of_idle, current]
  | some n =>
      have accepted : judge priv resp ≠ .drop ↔ rejects (priv.cmdArray n).cmdbuf resp = false := by
        constructor
        · intro kept
          by_contra rejected
          exact kept (judge_of_rejects current (by simpa using rejected))
        · exact judge_ne_drop current
      rw [accepted, rejects_eq_false_iff]
      simp only [Answers, Misfiled, current, Option.some.injEq, exists_eq_left', IsReplyCode]
      by_cases association : (priv.cmdArray n).cmdbuf.command = cmd80211Associate
      · simp only [association, ↓reduceIte]
        tauto
      · simp only [association, ↓reduceIte]
        tauto

/-- The state stays as it was for every response that does not answer the command in flight,
precisely when the response is not misfiled. -/
theorem unanswered_unchanged_iff (memory : Pointer → List UInt8) (priv : Priv) (call : CallId)
    (resp : List UInt8) :
    (¬ Answers priv resp →
      (lbsProcessCommandResponse memory priv call resp).priv = priv ∧
        (lbsProcessCommandResponse memory priv call resp).memory = memory) ↔
      ¬ Misfiled priv resp := by
  have exclusive : Misfiled priv resp → ¬ Answers priv resp := by
    rintro ⟨n, current, _, misfiled⟩ ⟨m, current', _, code⟩
    obtain rfl : n = m := by simpa [current] using current'
    split at misfiled
    · rcases code with code | ⟨_, code⟩ <;> simp_all
    · rcases code with code | ⟨association, _⟩
      · exact misfiled.2 code
      · contradiction
  constructor
  · intro unchanged misfiled
    have accept := (judge_ne_drop_iff priv resp).mpr (.inr misfiled)
    have idle := process_of_accept memory call accept
    rw [(unchanged (exclusive misfiled)).1] at idle
    obtain ⟨n, current, _⟩ := misfiled
    simp [current] at idle
  · intro filed unanswered
    have drop : judge priv resp = .drop := by
      by_contra kept
      exact ((judge_ne_drop_iff priv resp).mp kept).elim unanswered filed
    simp [process_of_drop drop]

/-- The driver after a request for the signal strength was queued and submitted. -/
def rssiInFlight : Priv :=
  let queued := (lbsPrepareAndSendCommand initAdapter 0
    { kind := .prepareAndSend false, cmdNo := cmd80211Rssi, cmdAction := 0
      content := some (16, []), buffer := none }).1
  { queued with toCommandState := (queued.unlinkPending 0).setCurCmd 0 }

/-- A successful association reply with the sequence number of that request. -/
def strayAssociateReply : List UInt8 :=
  [0x12, 0x80, 14, 0, 1, 0, 0, 0, 0, 0, 0, 0, 0, 0]

/-- An association reply completes the request for the signal strength. -/
theorem stray_reply_completes_rssi :
    ¬ Answers rssiInFlight strayAssociateReply ∧
      rssiInFlight.curCmd = some 0 ∧
      (lbsProcessCommandResponse (fun _ => []) rssiInFlight 1 strayAssociateReply).priv.curCmd =
        none := by
  refine ⟨?_, by decide, by decide⟩
  rintro ⟨n, current, _, code⟩
  obtain rfl : n = 0 := Option.some.inj (current.symm.trans (by rfl))
  rcases code with code | ⟨association, _⟩
  · revert code
    decide
  · revert association
    decide

end Libertas
