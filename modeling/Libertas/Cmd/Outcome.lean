import Libertas.CmdResp.Process
import Libertas.Driver.Results

/-!
# Outcomes of commands with a response

`lbs_cmd_with_response` puts a command of the caller into a node, sleeps until it
completes and copies the response over the command. `CmdOutcome` lists the ways in
which such a call can end; its result and the caller's buffer follow from them.

The commands here are neither associations nor about the power-save mode, so that a
response that is accepted for one of them is a reply. `judge_of_reply` says what the
main thread does with it, and `exchange_outcome` relates an outcome to the exchange
that the call goes through in the driver.
-/

namespace Libertas

open ByteOrder

/-- A response that is accepted for one of these commands. -/
structure Reply where
  bytes : List UInt8
  /-- One that defers the command is dropped. -/
  accepted : respResult bytes ≠ 0x0004
  /-- It has the code of a reply. -/
  coded : respCommand bytes &&& 0x8000 ≠ 0 ∧ respCommand bytes ≠ cmdRet cmd80211PsMode
deriving DecidableEq, Repr

/-- How a call of `lbs_cmd_with_response` ends. -/
inductive CmdOutcome
  /-- The card is gone. -/
  | removed
  /-- There is no free node. -/
  | exhausted
  /-- The retries are spent. -/
  | timedOut
  /-- A signal ends the wait. -/
  | interrupted
  | answered (reply : Reply)
deriving DecidableEq, Repr

namespace CmdOutcome

/-- What the call returns. -/
def ret : CmdOutcome → Int
  | removed => -eNoEnt
  | exhausted => -eNoBufs
  | timedOut => -eTimedOut
  | interrupted => 0
  | answered reply => (respResult reply.bytes).toNat

/-- The caller's buffer, given what it held at the start. The callback runs on a reply without
error. -/
def buffer (stored : List UInt8) : CmdOutcome → List UInt8
  | answered reply =>
      if respResult reply.bytes = 0 then overwrite (lbsCmdCopyback stored reply.bytes) stored
      else stored
  | removed | exhausted | timedOut | interrupted => stored

/-- The card took the command. -/
def Succeeded : CmdOutcome → Prop
  | answered reply => respResult reply.bytes = 0
  | removed | exhausted | timedOut | interrupted => False

instance : DecidablePred Succeeded := by
  intro outcome
  cases outcome <;> unfold Succeeded <;> infer_instance

/-- The response, as far as its size field says, and zeros behind it. -/
def response : CmdOutcome → List UInt8
  | answered reply => slice reply.bytes 0 (respSize reply.bytes).toNat
  | removed | exhausted | timedOut | interrupted => []

variable {outcome : CmdOutcome} {stored : List UInt8}

theorem Succeeded.ret_eq_zero (succeeded : outcome.Succeeded) : outcome.ret = 0 := by
  cases outcome with
  | removed | exhausted | timedOut | interrupted => cases succeeded
  | answered reply =>
      have fine : respResult reply.bytes = 0 := succeeded
      rw [ret, fine]
      rfl

/-- Only a wait that is interrupted makes a command look like one that succeeded. -/
theorem ret_eq_zero : outcome.ret = 0 ↔ outcome.Succeeded ∨ outcome = .interrupted := by
  cases outcome with
  | removed | exhausted | timedOut => simp [ret, Succeeded, eNoEnt, eNoBufs, eTimedOut]
  | interrupted => simp [ret]
  | answered reply => simp [ret, Succeeded, ← UInt16.toNat_inj]

theorem buffer_of_not_succeeded (failed : ¬ outcome.Succeeded) :
    outcome.buffer stored = stored := by
  cases outcome with
  | removed | exhausted | timedOut | interrupted => rfl
  | answered reply => exact if_neg failed

/-- A response that is copied: up to its end or that of the caller's structure its bytes, and
behind it what was stored. -/
theorem byteAt_buffer (succeeded : outcome.Succeeded) (i : Nat) :
    byteAt (outcome.buffer stored) i =
      if i < min (respSize stored).toNat outcome.response.length then byteAt outcome.response i
      else byteAt stored i := by
  cases outcome with
  | removed | exhausted | timedOut | interrupted => cases succeeded
  | answered reply =>
      have fine : respResult reply.bytes = 0 := succeeded
      rw [buffer, if_pos fine, response, slice_length, ← UInt16.toNat_min]
      by_cases within : i < (min (respSize stored) (respSize reply.bytes)).toNat
      · have copied := agreeBelow_overwrite (lbsCmdCopyback stored reply.bytes) stored i
          (by rw [lbsCmdCopyback, slice_length]; exact within)
        rw [UInt16.toNat_min] at within
        rw [UInt16.toNat_min, if_pos within, copied, lbsCmdCopyback, UInt16.toNat_min,
          byteAt_slice _ within, byteAt_slice _ (by omega)]
      · rw [if_neg within]
        apply byteAt_overwrite_of_le
        rw [lbsCmdCopyback, slice_length]
        exact Nat.le_of_not_lt within

/-- Where the structure held a zero it shows the byte of the response. -/
theorem byteAt_buffer_of_zero (succeeded : outcome.Succeeded) {i : Nat}
    (inside : i < (respSize stored).toNat) (zero : byteAt stored i = 0) :
    byteAt (outcome.buffer stored) i = byteAt outcome.response i := by
  rw [byteAt_buffer succeeded]
  by_cases within : i < outcome.response.length
  · rw [if_pos (by omega)]
  · rw [if_neg (by omega), zero, byteAt, List.getD_eq_default _ _ (Nat.le_of_not_lt within)]

end CmdOutcome

/-- The call that `lbs_cmd_with_response` makes for a structure of the caller. -/
def withResponseRequest (cmdNo : UInt16) (cmd : List UInt8) : Request :=
  { kind := .cmd .lbsCmdCopyback, cmdNo := cmdNo, cmdAction := 0
    content := some (respSize cmd, (cmd.take (respSize cmd).toNat).drop sDsGen)
    buffer := some cmd }

/-- `lbs_cmd_with_response`: what it returns, and the structure of the caller. -/
def lbsCmdWithResponse (cmdNo : UInt16) (cmd : List UInt8) (outcome : CmdOutcome) :
    Int × List UInt8 :=
  (outcome.ret, outcome.buffer ((withResponseRequest cmdNo cmd).storedBuffer cmd))

/-- What is sent of a structure. -/
theorem byteAt_take_drop (cmd : List UInt8) {size i : Nat} (inside : sDsGen + i < size) :
    byteAt ((cmd.take size).drop sDsGen) i = byteAt cmd (sDsGen + i) := by
  rw [byteAt_drop]
  simp [byteAt, List.getD_eq_getElem?_getD, inside]

section Link

variable {priv : Priv} {resp : List UInt8} {n : NodeId}

theorem cmdRet_coded (cmd : UInt16) : cmdRet cmd &&& 0x8000 ≠ 0 := by
  intro none
  have bit := congrArg (·.toBitVec.getLsbD 15) none
  simp [cmdRet] at bit

/-- The main thread accepts a reply for one of these commands, and runs the callback when it
reports no error. -/
theorem judge_of_reply (accepted : Accepted priv resp n)
    (association : (priv.cmdArray n).cmdbuf.command ≠ cmd80211Associate)
    (psMode : cmdRet (priv.cmdArray n).cmdbuf.command ≠ cmdRet cmd80211PsMode) :
    ∃ reply : Reply, reply.bytes = resp ∧
      judge priv resp =
        if respResult resp = 0 then .dispatch (acceptResponse priv resp)
        else .done (completeCurCmd (acceptResponse priv resp) (respResult resp).toNat) (-1) := by
  have fits := accepted.accepted
  simp only [rejects, Bool.or_eq_false_iff, Bool.and_eq_false_iff, decide_eq_false_iff_not,
    not_not] at fits
  obtain ⟨⟨-, code⟩, undeferred⟩ := fits
  have coded : respCommand resp &&& 0x8000 ≠ 0 ∧ respCommand resp ≠ cmdRet cmd80211PsMode := by
    rcases code with (same | association') | command
    · rw [same]
      refine ⟨?_, psMode⟩
      exact cmdRet_coded _
    · rw [association']
      decide
    · exact absurd command association
  refine ⟨⟨resp, undeferred, coded⟩, rfl, ?_⟩
  rw [judge, accepted.current]
  simp only [accepted.accepted, Bool.false_eq_true, if_false, if_neg coded.2, coded.1, or_false,
    ite_not]

/-- The end of an exchange is an outcome, when the callback ran if it had to. -/
theorem exchange_outcome {cmdNo : UInt16} {cmd : List UInt8} {x : Exchange} {ret : Int}
    (result : x.result = some ret)
    (ran : ∀ resp, x.response = some resp → ∃ reply : Reply, reply.bytes = resp ∧
      (respResult resp = 0 ↔ ∃ seqnum, x = .handled seqnum resp)) :
    ∃ outcome, lbsCmdWithResponse cmdNo cmd outcome =
      (ret, x.buffer (withResponseRequest cmdNo cmd)
        ((withResponseRequest cmdNo cmd).storedBuffer cmd)) := by
  cases x with
  | fresh | issued _ => cases result
  | timedOut seqnum =>
      cases result
      exact ⟨.timedOut, rfl⟩
  | accepted seqnum resp =>
      cases result
      obtain ⟨reply, rfl, runs⟩ := ran resp rfl
      refine ⟨.answered reply, ?_⟩
      rw [lbsCmdWithResponse, CmdOutcome.buffer, if_neg]
      · rfl
      · intro fine
        obtain ⟨_, same⟩ := runs.mp fine
        cases same
  | handled seqnum resp =>
      cases result
      obtain ⟨reply, rfl, runs⟩ := ran resp rfl
      refine ⟨.answered reply, ?_⟩
      rw [lbsCmdWithResponse, CmdOutcome.buffer, if_pos (runs.mpr ⟨seqnum, rfl⟩)]
      rfl

end Link

end Libertas
