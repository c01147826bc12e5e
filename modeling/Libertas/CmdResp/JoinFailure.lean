import Libertas.CmdResp.Delivered

/-!
# Failed associations

A response to ASSOCIATE, AD_HOC_START or AD_HOC_JOIN reports a failure in the result
of the command or in the status of the association. Both handlers disconnect, but
`lbs_process_command_response` completes a command with a nonzero result without
calling them.
-/

namespace Libertas

open ByteOrder

/-- The commands that make a connection. -/
def joinCommands : List UInt16 :=
  [cmd80211Associate, cmd80211AdHocStart, cmd80211AdHocJoin]

/-- The codes of the responses with the status of an association. -/
def associateReplies : List UInt16 :=
  [cmdRet80211Associate, cmdRet cmd80211Associate, cmdRet cmd80211Reassociate]

/-- `statuscode` of `struct ieeetypes_assocrsp`. -/
def assocStatus (resp : List UInt8) : UInt16 :=
  le16At resp 10

/-- The response reports a failure. -/
def ReportsFailure (resp : List UInt8) : Prop :=
  respResult resp ≠ 0 ∨ respCommand resp ∈ associateReplies ∧ assocStatus resp ≠ 0

/-- A response is accepted that reports the failure of the command in flight, which was to make a
connection. -/
structure FailedJoin (priv : Priv) (resp : List UInt8) (n : NodeId) : Prop extends
    Accepted priv resp n where
  joins : (priv.cmdArray n).cmdbuf.command ∈ joinCommands
  fails : ReportsFailure resp

/-- The failure is left to the handler of association replies, and the handler finds a request in
progress. -/
structure HandlesFailure (priv : Priv) (resp : List UInt8) (n : NodeId) : Prop where
  result : respResult resp = 0
  callback : (priv.cmdArray n).callback = none
  inProgress : priv.settings.inProgressAssocReq ≠ none

instance (priv : Priv) (resp : List UInt8) (n : NodeId) :
    Decidable (HandlesFailure priv resp n) :=
  decidable_of_iff (respResult resp = 0 ∧ (priv.cmdArray n).callback = none ∧
      priv.settings.inProgressAssocReq ≠ none)
    ⟨fun ⟨result, callback, inProgress⟩ => ⟨result, callback, inProgress⟩,
      fun ⟨result, callback, inProgress⟩ => ⟨result, callback, inProgress⟩⟩

section Status

variable {priv : Priv} {resp : List UInt8} {n : NodeId}

/-- A disconnect leaves the driver disconnected. -/
theorem lbsMacEventDisconnected_status (priv : Priv) (ret : Int) :
    (lbsMacEventDisconnected priv ret).priv.connectStatus = .disconnected := by
  rw [lbsMacEventDisconnected]
  split
  · rename_i apart
    cases status : priv.connectStatus with
    | connected => exact absurd status apart
    | disconnected => exact status
  · rfl

/-- The handler disconnects for a bad status if there is a request in progress. -/
theorem lbsRet80211Associate_status (bad : assocStatus resp ≠ 0) :
    (lbsRet80211Associate priv resp).priv.connectStatus =
      if priv.settings.inProgressAssocReq = none then priv.connectStatus else .disconnected := by
  rw [lbsRet80211Associate]
  cases priv.settings.inProgressAssocReq with
  | none => rfl
  | some bss =>
      simp only [if_pos (show le16At resp 10 ≠ 0 from bad)]
      exact lbsMacEventDisconnected_status priv (-1)

/-- Association replies go to their handler. -/
theorem handleCmdResponse_associate (code : respCommand resp ∈ associateReplies) :
    handleCmdResponse priv resp = lbsRet80211Associate priv resp := by
  have other : respCommand resp ∉
      [cmdRet cmdMacRegAccess, cmdRet cmdBbpRegAccess, cmdRet cmdRfRegAccess] := by
    intro register
    simp only [associateReplies, List.mem_cons, List.not_mem_nil, or_false] at code register
    rcases code with code | code | code <;> rw [code] at register <;> revert register <;> decide
  simp only [handleCmdResponse, if_neg other]
  exact if_pos code

/-- Callbacks do not touch the connection. -/
theorem runCallback_status (memory : Pointer → List UInt8) (callback : Callback)
    (callbackArg : Option Pointer) :
    (runCallback memory priv callback callbackArg resp).priv.connectStatus =
      priv.connectStatus := by
  cases callback with
  | lbsCmdAsyncCallback => rfl
  | sync callback => cases callback <;> rfl

/-- What is done behind a callback or handler does not touch the connection. -/
theorem process_dispatch_status (memory : Pointer → List UInt8) (call : CallId) {next : Priv}
    (dispatch : judge priv resp = .dispatch next) :
    (lbsProcessCommandResponse memory priv call resp).priv.connectStatus =
      (dispatchResponse memory next resp).priv.connectStatus := by
  simp only [lbsProcessCommandResponse, dispatch]
  rw [completeCurCmd_eq]
  split
  · obtain ⟨cs, woken⟩ := lbsPsWakeup_frame (dispatchResponse memory next resp).priv call
    rw [woken]
  · rfl

/-- A response with a nonzero result is completed under the lock. -/
theorem judge_of_error (accepted : Accepted priv resp n) (error : respResult resp ≠ 0) :
    ∃ next ret, judge priv resp = .done next ret := by
  obtain ⟨current, accepted⟩ := accepted
  have calm : mustWakeup (psModeResponse (acceptResponse priv resp) resp) resp = false := by
    simp [mustWakeup, error]
  simp only [judge, current, accepted, calm, error, Bool.false_eq_true, if_false, ne_eq,
    not_false_eq_true, true_or, if_true]
  split <;> exact ⟨_, _, rfl⟩

/-- A successful association reply is left to the callback or handler. -/
theorem judge_of_associate (accepted : Accepted priv resp n) (success : respResult resp = 0)
    (code : respCommand resp ∈ associateReplies) :
    judge priv resp = .dispatch (acceptResponse priv resp) := by
  obtain ⟨current, accepted⟩ := accepted
  have other : respCommand resp ≠ cmdRet cmd80211PsMode := by
    intro mode
    rw [mode] at code
    revert code
    decide
  have reply : respCommand resp &&& 0x8000 ≠ 0 := by
    simp only [associateReplies, List.mem_cons, List.not_mem_nil, or_false] at code
    rcases code with code | code | code <;> rw [code] <;> decide
  simp [judge, current, accepted, other, reply, success]

/-- The connection after a failure. -/
theorem FailedJoin.status (failed : FailedJoin priv resp n) (memory : Pointer → List UInt8)
    (call : CallId) :
    (lbsProcessCommandResponse memory priv call resp).priv.connectStatus =
      if HandlesFailure priv resp n then .disconnected else priv.connectStatus := by
  by_cases success : respResult resp = 0
  · obtain ⟨code, bad⟩ : respCommand resp ∈ associateReplies ∧ assocStatus resp ≠ 0 :=
      failed.fails.resolve_left fun error => error success
    have dispatch := judge_of_associate failed.toAccepted success code
    rw [process_dispatch_status memory call dispatch]
    have current : (acceptResponse priv resp).curCmd = some n := failed.current
    have node : (acceptResponse priv resp).cmdArray n = priv.cmdArray n := rfl
    cases called : (priv.cmdArray n).callback with
    | some callback =>
        have unhandled : ¬HandlesFailure priv resp n := by
          intro handles
          rw [handles.callback] at called
          cases called
        simp only [dispatchResponse, current, Option.bind_some, node, called, Option.map_some,
          if_neg unhandled]
        exact runCallback_status memory callback _
    | none =>
        simp only [dispatchResponse, current, Option.bind_some, node, called, Option.map_none]
        rw [handleCmdResponse_associate code, lbsRet80211Associate_status bad]
        show (if priv.settings.inProgressAssocReq = none then _ else _) = _
        by_cases idle : priv.settings.inProgressAssocReq = none
        · have unhandled : ¬HandlesFailure priv resp n := fun handles => handles.inProgress idle
          rw [if_pos idle, if_neg unhandled]
          rfl
        · rw [if_neg idle, if_pos ⟨success, called, idle⟩]
  · obtain ⟨next, ret, done⟩ := judge_of_error failed.toAccepted success
    have judged : Judged priv next resp := judge_frame (by rw [done]; rfl)
    have unhandled : ¬HandlesFailure priv resp n := fun handles => success handles.result
    simp only [lbsProcessCommandResponse, done, if_neg unhandled]
    exact congrArg LinkState.connectStatus judged.link

end Status

/-- A failed association leaves the driver disconnected exactly if it was so before, or the failure
is the status in a reply whose handler finds a request in progress. -/
theorem failed_join_disconnects_iff {priv : Priv} {resp : List UInt8} {n : NodeId}
    (failed : FailedJoin priv resp n) (memory : Pointer → List UInt8) (call : CallId) :
    (lbsProcessCommandResponse memory priv call resp).priv.connectStatus ≠ .connected ↔
      priv.connectStatus ≠ .connected ∨ HandlesFailure priv resp n := by
  rw [failed.status memory call]
  split
  · rename_i handles
    simp [handles]
  · rename_i unhandled
    simp [unhandled]

/-- A connected driver that associates once more. -/
def reassociating : Priv :=
  let connected : Priv :=
    { initAdapter with
      connectStatus := .connected
      settings := { initAdapter.settings with
        inProgressAssocReq := some { bssid := [2, 0, 0, 0, 0, 1], ssid := [65], ssidLen := 1 } } }
  let queued := (lbsPrepareAndSendCommand connected 0
    { kind := .prepareAndSend true, cmdNo := cmd80211Associate, cmdAction := 0
      content := some (16, []), buffer := none }).1
  { queued with toCommandState := (queued.unlinkPending 0).setCurCmd 0 }

/-- An association reply with the result of the command and the status. -/
def associateReply (result status : UInt16) : List UInt8 :=
  [0x12, 0x80, 14, 0, 1, 0] ++ le16Bytes result ++ [0, 0] ++ le16Bytes status ++ [0, 0]

/-- A refused association disconnects. -/
theorem failed_join_disconnects_refused : FailedJoin reassociating (associateReply 0 3) 0 ∧
    (lbsProcessCommandResponse (fun _ => []) reassociating 1
      (associateReply 0 3)).priv.connectStatus ≠ .connected := by
  have failed : FailedJoin reassociating (associateReply 0 3) 0 :=
    ⟨⟨by decide, by decide⟩, by decide, .inr ⟨by decide, by decide⟩⟩
  exact ⟨failed, (failed_join_disconnects_iff failed _ 1).mpr
    (.inr ⟨by decide, by decide, by decide⟩)⟩

/-- A command that fails leaves the driver connected. -/
theorem failed_join_stays_connected : FailedJoin reassociating (associateReply 1 0) 0 ∧
    (lbsProcessCommandResponse (fun _ => []) reassociating 1
      (associateReply 1 0)).priv.connectStatus = .connected :=
  ⟨⟨⟨by decide, by decide⟩, by decide, .inl (by decide)⟩, by decide⟩

end Libertas
