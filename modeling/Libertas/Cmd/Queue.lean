import Libertas.Dev

/-!
# Command nodes and their queues

The functions of `cmd.c` that move command nodes between `cmdfreeq`, the caller,
`cmdpendingq` and `cur_cmd`. Each works on `CommandState` alone. A function that
the source runs without holding `driver_lock` throughout is split at the points
where another context can run; the unsplit function is their composition.
-/

namespace Libertas

namespace CommandState

variable (cs : CommandState) (n : NodeId)

/-- Replace one node of `cmd_array`. -/
def modifyNode (f : CmdCtrlNode → CmdCtrlNode) : CommandState :=
  { cs with cmdArray := fun m => if m = n then f (cs.cmdArray n) else cs.cmdArray m }

/-- `lbs_get_cmd_ctrl_node`: the first free node, taken for the given call. -/
def lbsGetCmdCtrlNode (call : CallId) : Option (NodeId × CommandState) :=
  match cs.cmdfreeq with
  | [] => none
  | n :: rest =>
      some (n, { cs with cmdfreeq := rest }.modifyNode n fun node => { node with owner := call })

/-- `__lbs_cleanup_and_insert_cmd`: clear the node and append it to `cmdfreeq`. -/
def lbsCleanupAndInsertCmd : CommandState :=
  { cs.modifyNode n fun node =>
      { node with callback := none, callbackArg := none, cmdbuf := .zero } with
    cmdfreeq := cs.cmdfreeq ++ [n] }

/-- A call fills in its callback and argument and advances the sequence counter. -/
def initNode (callback : Option Callback) (callbackArg : Option Pointer) : CommandState :=
  { cs.modifyNode n fun node =>
      { node with callback := callback, callbackArg := callbackArg } with
    seqnum := cs.seqnum + 1 }

/-- A call writes its command into the buffer, with the current value of the sequence counter,
and clears the wait condition. -/
def stampNode (command size : UInt16) (body : List UInt8) : CommandState :=
  cs.modifyNode n fun node =>
    { node with
      cmdbuf := { command := command, size := size, seqnum := cs.seqnum, result := 0, body := body }
      cmdwaitqwoken := false }

/-- The first half of `lbs_queue_cmd`: an EXIT_PS command goes to the head of the queue unless
the card is at full power. -/
def addtail (psstate : PsState) : Bool :=
  let cmdbuf := (cs.cmdArray n).cmdbuf
  !(cmdbuf.command = cmd80211PsMode && cmdbuf.psAction = cmdSubcmdExitPs &&
    psstate ≠ .fullPower)

/-- The second half of `lbs_queue_cmd`, under the lock. -/
def insertPending (tail : Bool) : CommandState :=
  { cs with
    cmdpendingq := if tail then cs.cmdpendingq ++ [n] else n :: cs.cmdpendingq }

/-- `cmdnode->result = 0` in `lbs_queue_cmd`. -/
def clearResult : CommandState :=
  cs.modifyNode n fun node => { node with result := 0 }

/-- `lbs_queue_cmd`. A command whose size is zero is dropped without a trace. -/
def lbsQueueCmd (psstate : PsState) : CommandState :=
  if (cs.cmdArray n).cmdbuf.size = 0 then cs
  else (cs.clearResult n).insertPending n ((cs.clearResult n).addtail n psstate)

/-- The locked part of `lbs_submit_command`. -/
def setCurCmd : CommandState :=
  { cs with curCmd := some n, curCmdRetcode := 0 }

/-- The first statements of `lbs_complete_command`: record the result and wake the waiter. -/
def recordResult (result : Int) : CommandState :=
  { cs.modifyNode n fun node => { node with result := result, cmdwaitqwoken := true } with
    curCmdRetcode := if cs.curCmd = some n then result else cs.curCmdRetcode }

/-- The middle of `lbs_complete_command`: a node nobody waits for goes back to `cmdfreeq`. -/
def releaseAsync : CommandState :=
  if (cs.cmdArray n).isAsync then cs.lbsCleanupAndInsertCmd n else cs

/-- The last statement of `lbs_complete_command`. -/
def clearCurCmd : CommandState :=
  { cs with curCmd := none }

/-- `lbs_complete_command` as its locked callers run it. -/
def lbsCompleteCommand (result : Int) : CommandState :=
  ((cs.recordResult n result).releaseAsync n).clearCurCmd

/-- Unlink a node from `cmdpendingq`. -/
def unlinkPending : CommandState :=
  { cs with cmdpendingq := cs.cmdpendingq.erase n }

/-- The end of `lbs_prepare_and_send_command`: a nonzero return code is consumed and turned
into `-1`. -/
def takeRetcode : CommandState × Int :=
  if cs.curCmdRetcode = 0 then (cs, 0) else ({ cs with curCmdRetcode := 0 }, -1)

/-- The flush of `lbs_stop_card`: every pending node is marked and woken, none is unlinked. -/
def flushPending : CommandState :=
  { cs with
    cmdArray := fun m =>
      if m ∈ cs.cmdpendingq then
        { cs.cmdArray m with result := -eNoEnt, cmdwaitqwoken := true }
      else cs.cmdArray m }

section Nodes

variable {cs n} {m : NodeId} {f : CmdCtrlNode → CmdCtrlNode} {callback : Option Callback}
  {arg : Option Pointer} {command size : UInt16} {body : List UInt8} {result : Int} {tail : Bool}

@[simp] theorem modifyNode_self : (cs.modifyNode n f).cmdArray n = f (cs.cmdArray n) := by
  simp [modifyNode]

theorem modifyNode_of_ne (other : m ≠ n) : (cs.modifyNode n f).cmdArray m = cs.cmdArray m := by
  simp [modifyNode, other]

@[simp] theorem modifyNode_cmdfreeq : (cs.modifyNode n f).cmdfreeq = cs.cmdfreeq := rfl
@[simp] theorem modifyNode_cmdpendingq : (cs.modifyNode n f).cmdpendingq = cs.cmdpendingq := rfl
@[simp] theorem modifyNode_curCmd : (cs.modifyNode n f).curCmd = cs.curCmd := rfl

@[simp] theorem initNode_cmdfreeq : (cs.initNode n callback arg).cmdfreeq = cs.cmdfreeq := rfl
@[simp] theorem initNode_cmdpendingq :
    (cs.initNode n callback arg).cmdpendingq = cs.cmdpendingq := rfl
@[simp] theorem initNode_curCmd : (cs.initNode n callback arg).curCmd = cs.curCmd := rfl

@[simp] theorem stampNode_cmdfreeq :
    (cs.stampNode n command size body).cmdfreeq = cs.cmdfreeq := rfl
@[simp] theorem stampNode_cmdpendingq :
    (cs.stampNode n command size body).cmdpendingq = cs.cmdpendingq := rfl
@[simp] theorem stampNode_curCmd : (cs.stampNode n command size body).curCmd = cs.curCmd := rfl

@[simp] theorem clearResult_cmdfreeq : (cs.clearResult n).cmdfreeq = cs.cmdfreeq := rfl
@[simp] theorem clearResult_cmdpendingq : (cs.clearResult n).cmdpendingq = cs.cmdpendingq := rfl
@[simp] theorem clearResult_curCmd : (cs.clearResult n).curCmd = cs.curCmd := rfl

@[simp] theorem recordResult_cmdfreeq : (cs.recordResult n result).cmdfreeq = cs.cmdfreeq := rfl
@[simp] theorem recordResult_cmdpendingq :
    (cs.recordResult n result).cmdpendingq = cs.cmdpendingq := rfl
@[simp] theorem recordResult_curCmd : (cs.recordResult n result).curCmd = cs.curCmd := rfl

@[simp] theorem insertPending_cmdArray : (cs.insertPending n tail).cmdArray = cs.cmdArray := rfl
@[simp] theorem insertPending_cmdfreeq : (cs.insertPending n tail).cmdfreeq = cs.cmdfreeq := rfl
@[simp] theorem insertPending_curCmd : (cs.insertPending n tail).curCmd = cs.curCmd := rfl

@[simp] theorem setCurCmd_cmdArray : (cs.setCurCmd n).cmdArray = cs.cmdArray := rfl
@[simp] theorem setCurCmd_cmdfreeq : (cs.setCurCmd n).cmdfreeq = cs.cmdfreeq := rfl
@[simp] theorem setCurCmd_cmdpendingq : (cs.setCurCmd n).cmdpendingq = cs.cmdpendingq := rfl
@[simp] theorem setCurCmd_curCmd : (cs.setCurCmd n).curCmd = some n := rfl

@[simp] theorem clearCurCmd_cmdArray : cs.clearCurCmd.cmdArray = cs.cmdArray := rfl
@[simp] theorem clearCurCmd_cmdfreeq : cs.clearCurCmd.cmdfreeq = cs.cmdfreeq := rfl
@[simp] theorem clearCurCmd_cmdpendingq : cs.clearCurCmd.cmdpendingq = cs.cmdpendingq := rfl
@[simp] theorem clearCurCmd_curCmd : cs.clearCurCmd.curCmd = none := rfl

@[simp] theorem unlinkPending_cmdArray : (cs.unlinkPending n).cmdArray = cs.cmdArray := rfl
@[simp] theorem unlinkPending_cmdfreeq : (cs.unlinkPending n).cmdfreeq = cs.cmdfreeq := rfl
@[simp] theorem unlinkPending_curCmd : (cs.unlinkPending n).curCmd = cs.curCmd := rfl
@[simp] theorem unlinkPending_cmdpendingq :
    (cs.unlinkPending n).cmdpendingq = cs.cmdpendingq.erase n := rfl

@[simp] theorem flushPending_cmdfreeq : cs.flushPending.cmdfreeq = cs.cmdfreeq := rfl
@[simp] theorem flushPending_cmdpendingq : cs.flushPending.cmdpendingq = cs.cmdpendingq := rfl
@[simp] theorem flushPending_curCmd : cs.flushPending.curCmd = cs.curCmd := rfl

theorem flushPending_of_not_mem (missing : m ∉ cs.cmdpendingq) :
    cs.flushPending.cmdArray m = cs.cmdArray m := by
  simp [flushPending, missing]

@[simp] theorem isAsync_flushPending :
    (cs.flushPending.cmdArray m).isAsync = (cs.cmdArray m).isAsync := by
  by_cases member : m ∈ cs.cmdpendingq <;> simp [flushPending, member, CmdCtrlNode.isAsync]

/-- On the nodes, the steps of a call with its own node are edits of that node. -/
theorem initNode_nodes : (cs.initNode n callback arg).toNodeState =
    (cs.modifyNode n fun node =>
      { node with callback := callback, callbackArg := arg }).toNodeState := rfl

theorem stampNode_nodes : (cs.stampNode n command size body).toNodeState =
    (cs.modifyNode n fun node =>
      { node with
        cmdbuf :=
          { command := command, size := size, seqnum := cs.seqnum, result := 0, body := body }
        cmdwaitqwoken := false }).toNodeState := rfl

theorem clearResult_nodes : (cs.clearResult n).toNodeState =
    (cs.modifyNode n fun node => { node with result := 0 }).toNodeState := rfl

@[simp] theorem takeRetcode_nodes : cs.takeRetcode.1.toNodeState = cs.toNodeState := by
  rw [takeRetcode]
  split <;> rfl

@[simp] theorem mem_insertPending : m ∈ (cs.insertPending n tail).cmdpendingq ↔
    m = n ∨ m ∈ cs.cmdpendingq := by
  cases tail <;> simp [insertPending, or_comm]

theorem insertPending_nodup (fresh : n ∉ cs.cmdpendingq) (nodup : cs.cmdpendingq.Nodup) :
    (cs.insertPending n tail).cmdpendingq.Nodup := by
  cases tail
  · simpa [insertPending] using ⟨fresh, nodup⟩
  · simpa [insertPending, List.nodup_append] using
      ⟨nodup, fun a member same => fresh (same ▸ member)⟩

theorem lbsGetCmdCtrlNode_eq_some {call : CallId} {cs' : CommandState}
    (got : cs.lbsGetCmdCtrlNode call = some (n, cs')) :
    ∃ rest, cs.cmdfreeq = n :: rest ∧
      cs' = { cs with cmdfreeq := rest }.modifyNode n fun node => { node with owner := call } := by
  rw [lbsGetCmdCtrlNode] at got
  split at got
  · cases got
  · rename_i rest free
    cases got
    exact ⟨rest, free, rfl⟩

@[simp] theorem lbsCleanupAndInsertCmd_cmdfreeq :
    (cs.lbsCleanupAndInsertCmd n).cmdfreeq = cs.cmdfreeq ++ [n] := rfl

@[simp] theorem lbsCleanupAndInsertCmd_cmdpendingq :
    (cs.lbsCleanupAndInsertCmd n).cmdpendingq = cs.cmdpendingq := rfl

@[simp] theorem lbsCleanupAndInsertCmd_curCmd :
    (cs.lbsCleanupAndInsertCmd n).curCmd = cs.curCmd := rfl

theorem lbsCleanupAndInsertCmd_of_ne (other : m ≠ n) :
    (cs.lbsCleanupAndInsertCmd n).cmdArray m = cs.cmdArray m := by
  simp [lbsCleanupAndInsertCmd, modifyNode_of_ne other]

theorem recordResult_of_ne (other : m ≠ n) :
    (cs.recordResult n result).cmdArray m = cs.cmdArray m := by
  simp [recordResult, modifyNode_of_ne other]

theorem recordResult_self :
    (cs.recordResult n result).cmdArray n =
      { cs.cmdArray n with result := result, cmdwaitqwoken := true } := by
  simp [recordResult]

section Release

@[simp] theorem releaseAsync_cmdpendingq :
    (cs.releaseAsync n).cmdpendingq = cs.cmdpendingq := by
  rw [releaseAsync]
  split <;> rfl

@[simp] theorem releaseAsync_curCmd : (cs.releaseAsync n).curCmd = cs.curCmd := by
  rw [releaseAsync]
  split <;> rfl

@[simp] theorem releaseAsync_curCmdRetcode :
    (cs.releaseAsync n).curCmdRetcode = cs.curCmdRetcode := by
  rw [releaseAsync]
  split <;> rfl

theorem releaseAsync_of_ne (other : m ≠ n) :
    (cs.releaseAsync n).cmdArray m = cs.cmdArray m := by
  rw [releaseAsync]
  split
  · exact lbsCleanupAndInsertCmd_of_ne other
  · rfl

theorem mem_releaseAsync (free : m ∈ cs.cmdfreeq) : m ∈ (cs.releaseAsync n).cmdfreeq := by
  rw [releaseAsync]
  split
  · exact List.mem_append_left _ free
  · exact free

/-- A node with a waiter that frees it is left alone. -/
theorem releaseAsync_of_sync (sync : (cs.cmdArray n).isAsync = false) : cs.releaseAsync n = cs := by
  simp [releaseAsync, sync]

/-- Any other node is cleared and appended to `cmdfreeq`. -/
theorem releaseAsync_of_async (async : (cs.cmdArray n).isAsync = true) :
    cs.releaseAsync n = cs.lbsCleanupAndInsertCmd n := by
  simp [releaseAsync, async]

@[simp] theorem lbsCompleteCommand_cmdpendingq :
    (cs.lbsCompleteCommand n result).cmdpendingq = cs.cmdpendingq := by
  simp [lbsCompleteCommand]

@[simp] theorem lbsCompleteCommand_curCmd :
    (cs.lbsCompleteCommand n result).curCmd = none := rfl

@[simp] theorem lbsCompleteCommand_cmdTimedOut :
    (cs.lbsCompleteCommand n result).cmdTimedOut = cs.cmdTimedOut := by
  rw [lbsCompleteCommand, releaseAsync]
  split <;> rfl

@[simp] theorem lbsCompleteCommand_cmdwaitqwoken :
    ((cs.lbsCompleteCommand n result).cmdArray n).cmdwaitqwoken = true := by
  rw [lbsCompleteCommand, releaseAsync]
  split <;> simp [clearCurCmd, lbsCleanupAndInsertCmd, recordResult_self]

theorem lbsCompleteCommand_of_ne (other : m ≠ n) :
    (cs.lbsCompleteCommand n result).cmdArray m = cs.cmdArray m :=
  (releaseAsync_of_ne other).trans (recordResult_of_ne other)

@[simp] theorem isAsync_recordResult :
    ((cs.recordResult n result).cmdArray n).isAsync = (cs.cmdArray n).isAsync := by
  simp [recordResult_self, CmdCtrlNode.isAsync]

/-- Completing a node with a waiter that frees it only records the result. -/
theorem lbsCompleteCommand_of_sync (sync : (cs.cmdArray n).isAsync = false) :
    cs.lbsCompleteCommand n result = (cs.recordResult n result).clearCurCmd := by
  rw [lbsCompleteCommand, releaseAsync_of_sync (by simp [sync])]

/-- Completing any other node also frees it. -/
theorem lbsCompleteCommand_of_async (async : (cs.cmdArray n).isAsync = true) :
    cs.lbsCompleteCommand n result =
      ((cs.recordResult n result).lbsCleanupAndInsertCmd n).clearCurCmd := by
  rw [lbsCompleteCommand, releaseAsync_of_async (by simp [async])]

end Release

end Nodes

end CommandState

end Libertas
