import Libertas.CmdResp.Acceptance
import Libertas.Scan.Table

/-!
# What a response is made of

`if_sdio_handle_cmd` copies the delivered bytes over the front of a response
slot, and `lbs_process_command_response` reads the slot at the offsets of the
firmware structures. It is told the number of delivered bytes and only prints it.
Behind a slot it reads on, into the other slot and whatever memory comes then.

`acceptedExtent` is how far the code reads, path by path. A response that covers
it is processed the same way whatever earlier responses left behind in
`resp_buf`. A shorter one is not.
-/

namespace Libertas

open ByteOrder

/-- `lbs_process_bss` behind its size field: the interpretation of a record together with the
number of bytes it looks at. -/
structure BssParser (w : Nat) where
  interpret : Interpret w
  reads : List UInt8 → Nat → Nat
  local_reads : ∀ {mem mem' : List UInt8} {size : Nat}, AgreeBelow (reads mem size) mem mem' →
    interpret mem size = interpret mem' size ∧ reads mem size = reads mem' size

/-- The parser and the readings of the clock of one run. -/
structure ScanEnv (w : Nat) where
  hz : Jiffies w
  clock : ScanClock w
  parser : BssParser w

/-- What responses are processed on: the private structure, the buffers of callers and the scan
table. -/
structure DriverState (w : Nat) where
  priv : Priv
  memory : Pointer → List UInt8
  table : ScanTable w

/-- What processing a response comes to. -/
structure Outcome (w : Nat) where
  accepted : Bool
  state : DriverState w
  ret : Int

/-- The response to a scan command. -/
def scanRspAt (resp : List UInt8) : ScanRsp :=
  { bssdescriptsize := le16At resp 8, nrSets := byteAt resp 10
    bssdescAndTlvbuffer := resp.drop 11 }

/-- The callback of the command in flight. -/
def curCallback (priv : Priv) : Option Callback :=
  priv.curCmd.bind fun n => (priv.cmdArray n).callback

/-- A response that is passed on to a callback or handler. -/
def Verdict.isDispatch : Verdict → Bool
  | .dispatch _ => true
  | .drop | .done _ _ | .wakeup _ => false

/-- A response that is not dropped. -/
def Verdict.isAccept : Verdict → Bool
  | .drop => false
  | .dispatch _ | .done _ _ | .wakeup _ => true

/-- The response goes to `lbs_ret_80211_scan`. -/
def reachesScan (priv : Priv) (resp : List UInt8) : Bool :=
  (judge priv resp).isDispatch && curCallback priv = some (.sync .lbsRet80211Scan)

/-- `lbs_process_command_response` on the whole driver state. -/
def processSlot {w : Nat} (env : ScanEnv w) (s : DriverState w) (call : CallId)
    (resp : List UInt8) : Outcome w :=
  let processed := lbsProcessCommandResponse s.memory s.priv call resp
  let scanned := s.table.lbsRet80211Scan env.hz env.parser.interpret env.clock (scanRspAt resp)
  { accepted := (judge s.priv resp).isAccept
    state :=
      { priv := processed.priv, memory := processed.memory
        table := if reachesScan s.priv resp then scanned.1 else s.table }
    ret := if reachesScan s.priv resp then scanned.2 else processed.ret }

/-- `LBS_UPLD_SIZE`, the size of a response slot. -/
def lbsUpldSize : Nat := 2312

/-- The bytes of `resp_buf` from the start of a slot on. -/
def respBufFrom (idx : Fin 2) : Nat :=
  (2 - idx) * lbsUpldSize

/-- The memory from the start of a slot on: the delivered bytes, the rest of `resp_buf`, and what
is beyond it. -/
def slotMemory (delivered stale beyond : List UInt8) : List UInt8 :=
  overwrite delivered (stale ++ beyond)

/-- Nothing that earlier responses left in `resp_buf` makes a difference. -/
def Determined {w : Nat} (env : ScanEnv w) (s : DriverState w) (call : CallId) (idx : Fin 2)
    (beyond delivered : List UInt8) : Prop :=
  ∀ stale stale' : List UInt8, stale.length = respBufFrom idx →
    stale'.length = respBufFrom idx →
    processSlot env s call (slotMemory delivered stale beyond) =
      processSlot env s call (slotMemory delivered stale' beyond)

/-- How far `lbs_ret_reg_access` reads. -/
def regAccessExtent (resp : List UInt8) : Nat :=
  if respCommand resp = cmdRet cmdMacRegAccess then 16 else 13

/-- How far the association handlers read. -/
def assocExtent (priv : Priv) (extent : Nat) : Nat :=
  if priv.settings.inProgressAssocReq.isSome then extent else sDsGen

/-- A reply is only copied when the command in flight carries a buffer. -/
def copyExtent (priv : Priv) (extent : Nat) : Nat :=
  if (priv.curCmd.bind fun n => (priv.cmdArray n).callbackArg).isSome then extent else sDsGen

/-- How far `lbs_ret_802_11_snmp_mib` reads. -/
def snmpMibExtent (resp : List UInt8) : Nat :=
  if le16At resp 8 = cmdActGet ∧ le16At resp 10 ∈ [fragthreshI, rtsthreshI, shortRetrylimI] then 16
  else 12

/-- How far `lbs_ret_802_11_bcn_ctrl` reads. -/
def bcnCtrlExtent (resp : List UInt8) : Nat :=
  if le16At resp 8 = cmdActGet then 14 else 10

/-- How far `handle_cmd_response` reads. -/
def handlerExtent (priv : Priv) (resp : List UInt8) : Nat :=
  let respcmd := respCommand resp
  if respcmd ∈ [cmdRet cmdMacRegAccess, cmdRet cmdBbpRegAccess, cmdRet cmdRfRegAccess] then
    regAccessExtent resp
  else if respcmd ∈
      [cmdRet80211Associate, cmdRet cmd80211Associate, cmdRet cmd80211Reassociate] then
    assocExtent priv 12
  else if respcmd ∈ [cmdRet cmd80211Disassociate, cmdRet cmd80211Deauthenticate] then sDsGen
  else if respcmd ∈ [cmdRet cmd80211AdHocStart, cmdRet cmd80211AdHocJoin] then
    assocExtent priv (if respCommand resp = cmdRet cmd80211AdHocStart then 17 else sDsGen)
  else if respcmd = cmdRet cmd80211SnmpMib then snmpMibExtent resp
  else if respcmd = cmdRet cmd80211RfTxPower then 12
  else if respcmd ∈ [cmdRet cmd80211SetAfc, cmdRet cmd80211GetAfc] then copyExtent priv 14
  else if respcmd = cmdRet cmd80211Rssi then 16
  else if respcmd = cmdRet cmd80211AdHocStop then sDsGen
  else if respcmd = cmdRet cmd80211dDomainInfo then 14
  else if respcmd = cmdRet cmd80211TpcCfg then copyExtent priv 15
  else if respcmd = cmdRet cmd80211LedGpioCtrl then copyExtent priv 268
  else if respcmd = cmdRet cmdGetTsf then copyExtent priv 16
  else if respcmd = cmdRet cmdBtAccess then copyExtent priv 26
  else if respcmd = cmdRet cmdFwtAccess then copyExtent priv 62
  else if respcmd = cmdRet cmd80211BeaconCtrl then bcnCtrlExtent resp
  else sDsGen

/-- How far the loop of `lbs_ret_80211_scan` reads, from its current record on. -/
def recordsExtent {w : Nat} (parser : BssParser w) : Nat → List UInt8 → Nat → Nat
  | 0, _, _ => 0
  | sets + 1, bssinfo, bytesleft =>
      if bytesleft = 0 then 0
      else
        let beaconsize := beaconSize bssinfo bytesleft
        let pos := bssinfo.drop (sizeFieldLen bytesleft)
        let left := bytesleft - sizeFieldLen bytesleft
        if beaconsize = 0 ∨ beaconsize > left then sizeFieldLen bytesleft
        else
          sizeFieldLen bytesleft + max (parser.reads pos beaconsize)
            (beaconsize + recordsExtent parser sets (pos.drop beaconsize) (left - beaconsize))

/-- How far `lbs_ret_80211_scan` reads. -/
def scanExtent {w : Nat} (parser : BssParser w) (resp : List UInt8) : Nat :=
  if (byteAt resp 10).toNat > maxNetworkCount then 11
  else
    11 + recordsExtent parser (byteAt resp 10).toNat (resp.drop 11) (le16At resp 8).toNat

/-- How far `lbs_cmd_copyback` reads. -/
def copybackExtent (memory : Pointer → List UInt8) (callbackArg : Option Pointer)
    (resp : List UInt8) : Nat :=
  match callbackArg with
  | none => sDsGen
  | some p => max sDsGen (min (respSize (memory p)) (respSize resp)).toNat

/-- How far a callback reads. -/
def callbackExtent {w : Nat} (parser : BssParser w) (memory : Pointer → List UInt8)
    (callback : Callback) (callbackArg : Option Pointer) (resp : List UInt8) : Nat :=
  match callback with
  | .lbsCmdAsyncCallback | .sync .lbsSuspendCallback => sDsGen
  | .sync .lbsCmdCopyback => copybackExtent memory callbackArg resp
  | .sync .lbsRet80211Scan => scanExtent parser resp

/-- How far the code reads in an accepted response to the command in node `n`. -/
def acceptedExtent {w : Nat} (env : ScanEnv w) (s : DriverState w) (n : NodeId)
    (resp : List UInt8) : Nat :=
  if respCommand resp = cmdRet cmd80211PsMode then 10
  else if respResult resp ≠ 0 ∨ respCommand resp &&& 0x8000 = 0 then sDsGen
  else
    match (s.priv.cmdArray n).callback with
    | some callback =>
        callbackExtent env.parser s.memory callback (s.priv.cmdArray n).callbackArg resp
    | none => handlerExtent s.priv resp

/-- The delivered bytes can be the beginning of a response that is accepted. -/
def Fits (cur : CmdBuf) (delivered : List UInt8) : Prop :=
  ∃ rest, rejects cur (delivered ++ rest) = false

/-- Everything that the code reads was delivered. -/
def Covered {w : Nat} (env : ScanEnv w) (s : DriverState w) (delivered : List UInt8) : Prop :=
  ∀ n, s.priv.curCmd = some n → Fits (s.priv.cmdArray n).cmdbuf delivered →
    max sDsGen (acceptedExtent env s n delivered) ≤ delivered.length

section Congruence

variable {w : Nat} {a b : List UInt8} {priv : Priv}

/-- The header fields of two responses are the same. -/
structure SameHeader (a b : List UInt8) : Prop where
  command : respCommand a = respCommand b
  size : respSize a = respSize b
  seqnum : respSeqnum a = respSeqnum b
  result : respResult a = respResult b

theorem sameHeader (agree : AgreeBelow sDsGen a b) : SameHeader a b :=
  { command := agree.le16At_eq (by decide), size := agree.le16At_eq (by decide)
    seqnum := agree.le16At_eq (by decide), result := agree.le16At_eq (by decide) }

theorem SameHeader.rejects (same : SameHeader a b) (cur : CmdBuf) :
    rejects cur a = rejects cur b := by
  rw [Libertas.rejects, Libertas.rejects, same.command, same.seqnum, same.result]

theorem SameHeader.acceptResponse (same : SameHeader a b) (priv : Priv) :
    acceptResponse priv a = acceptResponse priv b := by
  rw [Libertas.acceptResponse, Libertas.acceptResponse, same.result]

/-- The locked part reads the header, and the action of a power-save response. -/
theorem SameHeader.judge (same : SameHeader a b) (priv : Priv)
    (action : respCommand a = cmdRet cmd80211PsMode → respPsAction a = respPsAction b) :
    judge priv a = judge priv b := by
  unfold Libertas.judge
  cases priv.curCmd with
  | none => rfl
  | some n =>
      dsimp only
      rw [same.rejects, same.acceptResponse, same.command, same.result]
      by_cases psMode : respCommand b = cmdRet cmd80211PsMode
      · have sameAction := action (same.command.trans psMode)
        simp only [if_pos psMode, psModeResponse, mustWakeup, same.result, sameAction]
      · simp only [if_neg psMode]

theorem lbsRetRegAccess_congr (same : SameHeader a b)
    (agree : AgreeBelow (regAccessExtent a) a b) :
    lbsRetRegAccess priv a = lbsRetRegAccess priv b := by
  have wide : 13 ≤ regAccessExtent a := by
    rw [regAccessExtent]
    split <;> decide
  unfold lbsRetRegAccess
  rw [agree.le16At_eq (i := 10) (by omega), agree 12 (by omega), ← same.command]
  rw [regAccessExtent] at agree
  split
  · rename_i mac
    rw [if_pos mac] at agree
    rw [agree.le32At_eq (i := 12) (by omega)]
  · rfl

theorem lbsRet80211Associate_congr (agree : AgreeBelow (assocExtent priv 12) a b) :
    lbsRet80211Associate priv a = lbsRet80211Associate priv b := by
  unfold lbsRet80211Associate
  split
  · rfl
  · rename_i bss progress
    rw [assocExtent, progress, Option.isSome_some, if_pos rfl] at agree
    rw [agree.le16At_eq (i := 10) (by decide)]

theorem lbsRet80211AdHocStart_congr (same : SameHeader a b)
    (agree : AgreeBelow (assocExtent priv
      (if respCommand a = cmdRet cmd80211AdHocStart then 17 else sDsGen)) a b) :
    lbsRet80211AdHocStart priv a = lbsRet80211AdHocStart priv b := by
  unfold lbsRet80211AdHocStart
  split
  · rfl
  · rename_i bss progress
    rw [assocExtent, progress, Option.isSome_some, if_pos rfl] at agree
    rw [← same.result, ← same.command]
    by_cases start : respCommand a = cmdRet cmd80211AdHocStart
    · rw [if_pos start] at agree
      rw [agree.slice_eq 11 ethAlen (by decide)]
    · simp only [if_neg start]

theorem lbsRet80211SnmpMib_congr (agree : AgreeBelow (snmpMibExtent a) a b) :
    lbsRet80211SnmpMib priv a = lbsRet80211SnmpMib priv b := by
  have wide : 12 ≤ snmpMibExtent a := by
    rw [snmpMibExtent]
    split <;> decide
  unfold lbsRet80211SnmpMib
  rw [← agree.le16At_eq (i := 8) (by omega), ← agree.le16At_eq (i := 10) (by omega)]
  rw [snmpMibExtent] at agree
  split at agree
  · rw [agree.le16At_eq (i := 14) (by omega)]
  · rename_i quiet
    dsimp only
    by_cases get : le16At a 8 = cmdActGet
    · have unknown : le16At a 10 ∉ [fragthreshI, rtsthreshI, shortRetrylimI] :=
        fun known => quiet ⟨get, known⟩
      simp only [List.mem_cons, List.not_mem_nil, or_false, not_or] at unknown
      rw [if_neg unknown.1, if_neg unknown.2.1, if_neg unknown.2.2, if_neg unknown.1,
        if_neg unknown.2.1, if_neg unknown.2.2]
    · rw [if_pos get, if_pos get]

theorem lbsRet80211RfTxPower_congr (agree : AgreeBelow 12 a b) :
    lbsRet80211RfTxPower priv a = lbsRet80211RfTxPower priv b := by
  rw [lbsRet80211RfTxPower, lbsRet80211RfTxPower, agree.le16At_eq (i := 10) (by decide)]

theorem lbsRet80211Rssi_congr (agree : AgreeBelow 16 a b) :
    lbsRet80211Rssi priv a = lbsRet80211Rssi priv b := by
  unfold lbsRet80211Rssi
  rw [agree.le16At_eq (i := 8) (by decide), agree.le16At_eq (i := 10) (by decide),
    agree.le16At_eq (i := 12) (by decide), agree.le16At_eq (i := 14) (by decide)]

theorem lbsRet80211BcnCtrl_congr (agree : AgreeBelow (bcnCtrlExtent a) a b) :
    lbsRet80211BcnCtrl priv a = lbsRet80211BcnCtrl priv b := by
  have wide : 10 ≤ bcnCtrlExtent a := by
    rw [bcnCtrlExtent]
    split <;> decide
  unfold lbsRet80211BcnCtrl
  rw [← agree.le16At_eq (i := 8) (by omega)]
  rw [bcnCtrlExtent] at agree
  by_cases get : le16At a 8 = cmdActGet
  · rw [if_pos get] at agree
    rw [agree.le16At_eq (i := 10) (by decide), agree.le16At_eq (i := 12) (by decide)]
  · rw [if_neg get, if_neg get]

theorem lbsRet80211dDomainInfo_congr (agree : AgreeBelow 14 a b) :
    lbsRet80211dDomainInfo a = lbsRet80211dDomainInfo b := by
  unfold lbsRet80211dDomainInfo
  rw [agree.le16At_eq (i := 8) (by decide), agree.le16At_eq (i := 12) (by decide)]

theorem copyReply_congr (offset length : Nat) {extent : Nat} (fits : offset + length ≤ extent)
    (agree : AgreeBelow (copyExtent priv extent) a b) :
    copyReply priv (slice a offset length) = copyReply priv (slice b offset length) := by
  rw [copyExtent] at agree
  split at agree
  · rw [agree.slice_eq _ _ fits]
  · rename_i absent
    unfold copyReply
    cases current : priv.curCmd with
    | none => rfl
    | some n =>
        have noBuffer : (priv.cmdArray n).callbackArg = none := by simpa [current] using absent
        simp only [Option.bind_some, noBuffer, Option.map_none]

/-- The same branch is taken for both responses, and both read as far as that branch does. -/
theorem congr_ite {α : Type} {c : Prop} [Decidable c] {extent extent' : Nat} {x x' y y' : α}
    (yes : AgreeBelow extent a b → x = x') (no : AgreeBelow extent' a b → y = y') :
    AgreeBelow (if c then extent else extent') a b →
      (if c then x else y) = if c then x' else y' := by
  split
  · exact yes
  · exact no

/-- A handler depends on the bytes it reads. -/
theorem handleCmdResponse_congr (same : SameHeader a b)
    (agree : AgreeBelow (handlerExtent priv a) a b) :
    handleCmdResponse priv a = handleCmdResponse priv b := by
  revert agree
  unfold handlerExtent handleCmdResponse
  rw [← same.command]
  dsimp only
  apply congr_ite (lbsRetRegAccess_congr same)
  apply congr_ite lbsRet80211Associate_congr
  apply congr_ite (fun _ => rfl)
  apply congr_ite (lbsRet80211AdHocStart_congr same)
  apply congr_ite lbsRet80211SnmpMib_congr
  apply congr_ite lbsRet80211RfTxPower_congr
  apply congr_ite (copyReply_congr 8 6 (by decide))
  apply congr_ite lbsRet80211Rssi_congr
  apply congr_ite (fun _ => rfl)
  apply congr_ite (fun agree => by rw [lbsRet80211dDomainInfo_congr agree])
  apply congr_ite (copyReply_congr 8 7 (by decide))
  apply congr_ite (copyReply_congr 8 260 (by decide))
  apply congr_ite (copyReply_congr 8 8 (by decide))
  apply congr_ite (copyReply_congr 14 12 (by decide))
  apply congr_ite (copyReply_congr 8 54 (by decide))
  exact congr_ite lbsRet80211BcnCtrl_congr (fun _ => rfl)

theorem lbsCmdCopyback_congr (same : SameHeader a b) {destination : List UInt8}
    (agree : AgreeBelow (min (respSize destination) (respSize a)).toNat a b) :
    lbsCmdCopyback destination a = lbsCmdCopyback destination b := by
  rw [lbsCmdCopyback, lbsCmdCopyback, ← same.size]
  exact agree.slice_eq _ _ (by omega)

/-- A callback depends on the bytes it reads. -/
theorem runCallback_congr (parser : BssParser w) (memory : Pointer → List UInt8)
    (callback : Callback) {callbackArg : Option Pointer} (same : SameHeader a b)
    (agree : AgreeBelow (callbackExtent parser memory callback callbackArg a) a b) :
    runCallback memory priv callback callbackArg a =
      runCallback memory priv callback callbackArg b := by
  cases callback with
  | lbsCmdAsyncCallback => rfl
  | sync callback =>
      cases callback with
      | lbsRet80211Scan | lbsSuspendCallback => rfl
      | lbsCmdCopyback =>
          cases callbackArg with
          | none => rfl
          | some p =>
              have copied : lbsCmdCopyback (memory p) a = lbsCmdCopyback (memory p) b :=
                lbsCmdCopyback_congr same (agree.mono (Nat.le_max_right _ _))
              simp only [runCallback, Option.map_some, copied]

theorem storeLoop_done (interpret : Interpret w) (parsing : Nat → Jiffies w) (sets idx : Nat)
    (bssinfo : List UInt8) (table : ScanTable w) :
    ScanTable.storeLoop interpret parsing sets idx bssinfo 0 table = table := by
  cases sets <;> rfl

/-- The scan table depends on the bytes of the records. -/
theorem storeLoop_congr (parser : BssParser w) (parsing : Nat → Jiffies w) (sets : Nat) :
    ∀ {idx bytesleft : Nat} {a b : List UInt8} {table : ScanTable w},
      AgreeBelow (recordsExtent parser sets a bytesleft) a b →
      ScanTable.storeLoop parser.interpret parsing sets idx a bytesleft table =
        ScanTable.storeLoop parser.interpret parsing sets idx b bytesleft table := by
  induction sets with
  | zero => intros; rfl
  | succ sets ih =>
      intro idx bytesleft a b table agree
      rw [recordsExtent] at agree
      unfold ScanTable.storeLoop
      split
      · rfl
      rename_i more
      rw [if_neg more] at agree
      dsimp only at agree
      -- Both buffers carry the same size field.
      have sameSize : beaconSize a bytesleft = beaconSize b bytesleft := by
        unfold beaconSize
        split
        · rename_i two
          have field : sizeFieldLen bytesleft = 2 := if_pos two
          rw [field] at agree
          rw [agree.le16At_eq (by split <;> omega)]
        · rfl
      unfold lbsProcessBss
      rw [← sameSize]
      dsimp only
      split at agree
      · rename_i bad
        simp only [if_pos bad, storeLoop_done]
      · rename_i good
        simp only [if_neg good]
        have record := agree.drop (sizeFieldLen bytesleft) (Nat.le_refl _)
        rw [(parser.local_reads (record.mono (Nat.le_max_left _ _))).1]
        exact ih ((record.mono (Nat.le_max_right _ _)).drop _ (Nat.le_refl _))

/-- `lbs_ret_80211_scan` depends on the bytes it reads. -/
theorem lbsRet80211Scan_congr (env : ScanEnv w) (table : ScanTable w)
    (agree : AgreeBelow (scanExtent env.parser a) a b) :
    table.lbsRet80211Scan env.hz env.parser.interpret env.clock (scanRspAt a) =
      table.lbsRet80211Scan env.hz env.parser.interpret env.clock (scanRspAt b) := by
  have wide : 11 ≤ scanExtent env.parser a := by
    rw [scanExtent]
    split <;> omega
  unfold ScanTable.lbsRet80211Scan scanRspAt
  dsimp only
  rw [← agree.le16At_eq (i := 8) (by omega), ← agree 10 (by omega)]
  rw [scanExtent] at agree
  split
  · rfl
  · rename_i few
    rw [if_neg few] at agree
    rw [storeLoop_congr env.parser env.clock.parsing _ (agree.drop _ (Nat.le_refl _))]

/-- What is known of a response that is passed on. -/
theorem judge_dispatch_branch {resp : List UInt8} {next : Priv}
    (dispatch : judge priv resp = .dispatch next) :
    next = acceptResponse priv resp ∧ respCommand resp ≠ cmdRet cmd80211PsMode ∧
      ¬ (respResult resp ≠ 0 ∨ respCommand resp &&& 0x8000 = 0) := by
  refine ⟨(judge_eq_dispatch dispatch).choose_spec.2.2, ?_⟩
  rw [judge] at dispatch
  split at dispatch
  · cases dispatch
  split at dispatch
  · cases dispatch
  dsimp only at dispatch
  split at dispatch
  · split at dispatch <;> cases dispatch
  · rename_i notPs
    split at dispatch
    · cases dispatch
    · rename_i successful
      exact ⟨notPs, successful⟩

variable {env : ScanEnv w} {s : DriverState w} {n : NodeId}

/-- A successful response that is not a power-save reply is passed on. -/
theorem judge_of_success {resp : List UInt8} (current : priv.curCmd = some n)
    (accepted : rejects (priv.cmdArray n).cmdbuf resp = false)
    (notPs : respCommand resp ≠ cmdRet cmd80211PsMode)
    (success : ¬ (respResult resp ≠ 0 ∨ respCommand resp &&& 0x8000 = 0)) :
    judge priv resp = .dispatch (acceptResponse priv resp) := by
  simp only [judge, current, accepted, Bool.false_eq_true, if_false, if_neg notPs, if_neg success]

/-- The part of the slot that the callback or handler reads. -/
theorem acceptedExtent_of_dispatch {resp : List UInt8} {next : Priv}
    (dispatch : judge s.priv resp = .dispatch next) :
    acceptedExtent env s n resp =
      match (s.priv.cmdArray n).callback with
      | some callback =>
          callbackExtent env.parser s.memory callback (s.priv.cmdArray n).callbackArg resp
      | none => handlerExtent s.priv resp := by
  obtain ⟨_, notPs, successful⟩ := judge_dispatch_branch dispatch
  rw [acceptedExtent, if_neg notPs, if_neg successful]

theorem dispatchResponse_of_current (memory : Pointer → List UInt8) (resp : List UInt8)
    (current : priv.curCmd = some n) :
    dispatchResponse memory priv resp =
      match (priv.cmdArray n).callback with
      | some callback => runCallback memory priv callback (priv.cmdArray n).callbackArg resp
      | none => handleCmdResponse priv resp := by
  rw [dispatchResponse]
  rw [current, Option.bind_some]
  cases (priv.cmdArray n).callback <;> rfl

/-- What the locked part decides depends on the bytes that the code reads. -/
theorem judge_congr (agree : AgreeBelow (max sDsGen (acceptedExtent env s n a)) a b) :
    judge s.priv a = judge s.priv b := by
  have same := sameHeader (agree.mono (Nat.le_max_left _ _))
  refine same.judge s.priv fun psMode => ?_
  have extent : acceptedExtent env s n a = 10 := if_pos psMode
  rw [extent] at agree
  exact agree.le16At_eq (by decide)

theorem dispatchResponse_congr (current : s.priv.curCmd = some n)
    (agree : AgreeBelow (max sDsGen (acceptedExtent env s n a)) a b) {next : Priv}
    (dispatch : judge s.priv a = .dispatch next) :
    dispatchResponse s.memory next a = dispatchResponse s.memory next b := by
  have same := sameHeader (agree.mono (Nat.le_max_left _ _))
  have extent := agree.mono (Nat.le_max_right _ _)
  rw [acceptedExtent_of_dispatch dispatch] at extent
  obtain ⟨rfl, _, _⟩ := judge_dispatch_branch dispatch
  have current' : (acceptResponse s.priv a).curCmd = some n := current
  rw [dispatchResponse_of_current _ _ current', dispatchResponse_of_current _ _ current']
  have nodes : (acceptResponse s.priv a).cmdArray n = s.priv.cmdArray n := rfl
  rw [nodes]
  cases found : (s.priv.cmdArray n).callback with
  | none =>
      rw [found] at extent
      exact handleCmdResponse_congr same extent
  | some callback =>
      rw [found] at extent
      exact runCallback_congr env.parser s.memory callback same extent

theorem processCommandResponse_congr (call : CallId) (current : s.priv.curCmd = some n)
    (agree : AgreeBelow (max sDsGen (acceptedExtent env s n a)) a b) :
    lbsProcessCommandResponse s.memory s.priv call a =
      lbsProcessCommandResponse s.memory s.priv call b := by
  have same := sameHeader (agree.mono (Nat.le_max_left _ _))
  unfold lbsProcessCommandResponse
  rw [← judge_congr agree, same.result]
  cases verdict : judge s.priv a with
  | drop => rfl
  | done next ret => rfl
  | wakeup next => rfl
  | dispatch next =>
      dsimp only
      rw [dispatchResponse_congr current agree verdict]

theorem curCallback_of_current (current : priv.curCmd = some n) :
    curCallback priv = (priv.cmdArray n).callback := by
  rw [curCallback, current, Option.bind_some]

/-- Two slots that agree on what the code reads are processed alike. -/
theorem processSlot_congr (call : CallId) (current : s.priv.curCmd = some n)
    (agree : AgreeBelow (max sDsGen (acceptedExtent env s n a)) a b) :
    processSlot env s call a = processSlot env s call b := by
  unfold processSlot reachesScan
  rw [← judge_congr agree, ← processCommandResponse_congr call current agree,
    curCallback_of_current current]
  by_cases scan : (judge s.priv a).isDispatch = true ∧
      (s.priv.cmdArray n).callback = some (.sync .lbsRet80211Scan)
  · obtain ⟨dispatch, callback⟩ := scan
    cases verdict : judge s.priv a with
    | drop | done _ _ | wakeup _ => rw [verdict] at dispatch; cases dispatch
    | dispatch next =>
        have extent := agree.mono (Nat.le_max_right _ _)
        rw [acceptedExtent_of_dispatch verdict, callback] at extent
        rw [lbsRet80211Scan_congr env s.table extent]
  · simp [scan]

end Congruence

/-- With no command in flight, or after a rejection, nothing happens. -/
theorem processSlot_of_drop {w : Nat} {env : ScanEnv w} {s : DriverState w} {call : CallId}
    {resp : List UInt8} (drop : judge s.priv resp = .drop) :
    processSlot env s call resp = { accepted := false, state := s, ret := -1 } := by
  simp [processSlot, reachesScan, process_of_drop drop, drop, Verdict.isDispatch,
    Verdict.isAccept]

/-- A response that covers what the code reads is processed by its delivered bytes alone. -/
theorem determined_of_covered {w : Nat} (env : ScanEnv w) (s : DriverState w) (call : CallId)
    (idx : Fin 2) (beyond : List UInt8) {delivered : List UInt8}
    (covered : Covered env s delivered) : Determined env s call idx beyond delivered := by
  intro stale stale' _ _
  cases current : s.priv.curCmd with
  | none =>
      rw [processSlot_of_drop (judge_of_idle current), processSlot_of_drop (judge_of_idle current)]
  | some n =>
      by_cases fits : Fits (s.priv.cmdArray n).cmdbuf delivered
      · have front := fun stale =>
          ((agreeBelow_overwrite delivered (stale ++ beyond)).symm).mono (covered n current fits)
        rw [slotMemory, slotMemory, ← processSlot_congr call current (front stale),
          ← processSlot_congr call current (front stale')]
      · have rejected : ∀ stale,
            rejects (s.priv.cmdArray n).cmdbuf (slotMemory delivered stale beyond) = true := by
          intro stale
          by_contra accepted
          exact fits ⟨(stale ++ beyond).drop delivered.length,
            by simpa [slotMemory, overwrite] using accepted⟩
        rw [processSlot_of_drop (judge_of_rejects current (rejected _)),
          processSlot_of_drop (judge_of_rejects current (rejected _))]

/-- The replies of which `handle_cmd_response` may read bytes that do not change its result. -/
def selectiveReplies : List UInt16 :=
  [cmdRet80211Associate, cmdRet cmd80211Associate, cmdRet cmd80211Reassociate,
    cmdRet cmd80211SnmpMib, cmdRet cmd80211dDomainInfo, cmdRet cmd80211BeaconCtrl]

/-- Behind the header, the response is interpreted depending on what it says. -/
def Selective (priv : Priv) (delivered : List UInt8) : Prop :=
  sDsGen ≤ delivered.length ∧
    (respCommand delivered = cmdRet cmd80211PsMode ∨
      curCallback priv = some (.sync .lbsRet80211Scan) ∨
      respCommand delivered ∈ selectiveReplies)

section Converse

variable {w : Nat} {a b : List UInt8} {priv : Priv} {memory : Pointer → List UInt8}

/-- Behind the first bytes, one that was read is the same in both slots. -/
def SharesRead (lo extent : Nat) (a b : List UInt8) : Prop :=
  extent ≤ lo ∨ ∃ i, lo ≤ i ∧ i < lbsUpldSize ∧ byteAt a i = byteAt b i

theorem sharesRead_last {lo last : Nat} (inside : last < lbsUpldSize)
    (same : byteAt a last = byteAt b last) : SharesRead lo (last + 1) a b := by
  by_cases delivered : last + 1 ≤ lo
  · exact .inl delivered
  · exact .inr ⟨last, by omega, inside, same⟩

/-- What a handler leaves behind in the state that its fixed fields go to. -/
def Handled.shows (handled : Handled) (memory : Pointer → List UInt8) :
    Registers × Signal × BssIdentity × (Pointer → List UInt8) :=
  (handled.priv.registers, handled.priv.signal, handled.priv.curbssparams,
    applyWrite memory handled.write)

theorem lbsRetRegAccess_shows {lo : Nat} (same : SameHeader a b)
    (shown : (lbsRetRegAccess priv a).shows memory = (lbsRetRegAccess priv b).shows memory) :
    SharesRead lo (regAccessExtent a) a b := by
  have value := congrArg (·.1.value) shown
  simp only [Handled.shows, lbsRetRegAccess, Handled.of_priv, ← same.command] at value
  rw [regAccessExtent]
  split
  · rename_i mac
    rw [if_pos mac, if_pos mac] at value
    exact sharesRead_last (by decide) (le16At_inj (le32At_inj value).2).2
  · rename_i narrow
    rw [if_neg narrow, if_neg narrow] at value
    refine sharesRead_last (by decide) (UInt8.toNat_inj.mp ?_)
    simpa using congrArg UInt32.toNat value

theorem lbsRet80211AdHocStart_shows {lo : Nat} (header : sDsGen ≤ lo) (same : SameHeader a b)
    (success : respResult a = 0)
    (shown : (lbsRet80211AdHocStart priv a).shows memory =
      (lbsRet80211AdHocStart priv b).shows memory) :
    SharesRead lo (assocExtent priv
      (if respCommand a = cmdRet cmd80211AdHocStart then 17 else sDsGen)) a b := by
  rw [assocExtent]
  cases progress : priv.settings.inProgressAssocReq with
  | none => exact .inl header
  | some bss =>
      by_cases start : respCommand a = cmdRet cmd80211AdHocStart
      · have bssid := congrArg (·.2.2.1.bssid) shown
        simp [Handled.shows, lbsRet80211AdHocStart, progress, ← same.result, ← same.command,
          success, start, adoptBss] at bssid
        simp only [Option.isSome_some, if_true, start]
        exact sharesRead_last (by decide) (slice_inj bssid (i := 5) (by decide))
      · simp only [Option.isSome_some, if_true, if_neg start]
        exact .inl header

theorem lbsRet80211RfTxPower_shows {lo : Nat}
    (shown : (lbsRet80211RfTxPower priv a).shows memory =
      (lbsRet80211RfTxPower priv b).shows memory) : SharesRead lo 12 a b := by
  have level : le16At a 10 = le16At b 10 := congrArg (·.1.txpowerlevel) shown
  exact sharesRead_last (by decide) (le16At_inj level).2

theorem lbsRet80211Rssi_shows {lo : Nat}
    (shown : (lbsRet80211Rssi priv a).shows memory = (lbsRet80211Rssi priv b).shows memory) :
    SharesRead lo 16 a b := by
  have average : le16At a 14 = le16At b 14 := congrArg (·.2.1.nfBeacon.avg) shown
  exact sharesRead_last (by decide) (le16At_inj average).2

theorem copyReply_shows {lo : Nat} (header : sDsGen ≤ lo) (offset last : Nat)
    (inside : offset + last < lbsUpldSize)
    (shown : (copyReply priv (slice a offset (last + 1))).shows memory =
      (copyReply priv (slice b offset (last + 1))).shows memory) :
    SharesRead lo (copyExtent priv (offset + last + 1)) a b := by
  rw [copyExtent]
  split
  · rename_i carried
    obtain ⟨p, buffer⟩ := Option.isSome_iff_exists.mp carried
    obtain ⟨n, current, arg⟩ := Option.bind_eq_some_iff.mp buffer
    have written := congrFun (congrArg (·.2.2.2) shown) p
    simp only [Handled.shows, copyReply, current, Option.bind_some, arg, Option.map_some,
      applyWrite, Function.update_self] at written
    have slices := (List.append_inj written (by simp)).1
    exact sharesRead_last inside (slice_inj slices (by omega))
  · exact .inl header

/-- The same branch is taken for both responses, and both show what that branch reads. -/
theorem shows_ite {c : Prop} [Decidable c] {lo extent extent' : Nat} {x x' y y' : Handled}
    (yes : c → x.shows memory = x'.shows memory → SharesRead lo extent a b)
    (no : y.shows memory = y'.shows memory → SharesRead lo extent' a b) :
    (if c then x else y).shows memory = (if c then x' else y').shows memory →
      SharesRead lo (if c then extent else extent') a b := by
  split
  · rename_i holds
    exact yes holds
  · exact no

/-- Outside the selective replies, a handler shows the last byte it reads. How far it reads can be
told from any response with the same header. -/
theorem handleCmdResponse_shows (priv : Priv) {r : List UInt8} {lo : Nat} (header : sDsGen ≤ lo)
    (same : SameHeader a b) (same' : SameHeader r a) (success : respResult a = 0)
    (plain : respCommand r ∉ selectiveReplies)
    (shown : (handleCmdResponse priv a).shows memory =
      (handleCmdResponse priv b).shows memory) :
    SharesRead lo (handlerExtent priv r) a b := by
  have regAccess : regAccessExtent r = regAccessExtent a := by
    rw [regAccessExtent, regAccessExtent, same'.command]
  simp only [selectiveReplies, List.mem_cons, List.not_mem_nil, or_false, not_or,
    same'.command] at plain
  obtain ⟨associate, associate', reassociate, snmp, domain, beacon⟩ := plain
  revert shown
  unfold handlerExtent handleCmdResponse
  rw [← same.command, same'.command, regAccess]
  dsimp only
  apply shows_ite (fun _ => lbsRetRegAccess_shows same)
  apply shows_ite (fun code => by simp_all)
  apply shows_ite (fun _ _ => .inl header)
  apply shows_ite (fun _ => lbsRet80211AdHocStart_shows header same success)
  apply shows_ite (fun code => absurd code snmp)
  apply shows_ite (fun _ => lbsRet80211RfTxPower_shows)
  apply shows_ite (fun _ => copyReply_shows header 8 5 (by decide))
  apply shows_ite (fun _ => lbsRet80211Rssi_shows)
  apply shows_ite (fun _ _ => .inl header)
  apply shows_ite (fun code => absurd code domain)
  apply shows_ite (fun _ => copyReply_shows header 8 6 (by decide))
  apply shows_ite (fun _ => copyReply_shows header 8 259 (by decide))
  apply shows_ite (fun _ => copyReply_shows header 8 7 (by decide))
  apply shows_ite (fun _ => copyReply_shows header 14 11 (by decide))
  apply shows_ite (fun _ => copyReply_shows header 8 53 (by decide))
  exact shows_ite (fun code => absurd code beacon) (fun _ => .inl header)

/-- A callback other than the one for scans shows the first byte it reads behind the delivered
ones. -/
theorem runCallback_shows {r : List UInt8} (parser : BssParser w) (callback : Callback)
    {callbackArg : Option Pointer} {lo : Nat} (header : sDsGen ≤ lo) (room : lo < lbsUpldSize)
    (same : SameHeader a b) (same' : SameHeader r a) (plain : callback ≠ .sync .lbsRet80211Scan)
    (shown : (runCallback memory priv callback callbackArg a).shows memory =
      (runCallback memory priv callback callbackArg b).shows memory) :
    SharesRead lo (callbackExtent parser memory callback callbackArg r) a b := by
  cases callback with
  | lbsCmdAsyncCallback => exact .inl header
  | sync callback =>
      cases callback with
      | lbsRet80211Scan => exact absurd rfl plain
      | lbsSuspendCallback => exact .inl header
      | lbsCmdCopyback =>
          cases callbackArg with
          | none => exact .inl header
          | some p =>
              by_cases done : copybackExtent memory (some p) r ≤ lo
              · exact .inl done
              refine .inr ⟨lo, Nat.le_refl _, room, ?_⟩
              simp only [copybackExtent, same'.size] at done
              have written := congrFun (congrArg (·.2.2.2) shown) p
              simp only [Handled.shows, runCallback, Option.map_some, applyWrite,
                Function.update_self, lbsCmdCopyback, ← same.size] at written
              have slices := (List.append_inj written (by simp)).1
              have copied := slice_inj slices (i := lo) (by omega)
              rwa [Nat.zero_add] at copied

/-- Waking the firmware only uses the command path. -/
theorem lbsPsWakeup_frame (priv : Priv) (call : CallId) :
    ∃ cs, lbsPsWakeup priv call = { priv with toCommandState := cs } := by
  rw [lbsPsWakeup, lbsPrepareAndSendCommand]
  repeat' split
  all_goals exact ⟨_, rfl⟩

/-- What a callback or handler leaves behind stays until the end. -/
theorem processSlot_shows (env : ScanEnv w) {s : DriverState w} (call : CallId)
    {resp : List UInt8} {next : Priv} (dispatch : judge s.priv resp = .dispatch next) :
    (dispatchResponse s.memory next resp).shows s.memory =
      ((processSlot env s call resp).state.priv.registers,
        (processSlot env s call resp).state.priv.signal,
        (processSlot env s call resp).state.priv.curbssparams,
        (processSlot env s call resp).state.memory) := by
  simp only [processSlot, lbsProcessCommandResponse, dispatch]
  rw [completeCurCmd_eq]
  split
  · obtain ⟨cs, woken⟩ := lbsPsWakeup_frame (dispatchResponse s.memory next resp).priv call
    rw [woken]
    rfl
  · rfl

theorem completeCurCmd_retcode {n : NodeId} (current : priv.curCmd = some n) (result : Int) :
    (completeCurCmd priv result).curCmdRetcode = result := by
  rw [completeCurCmd_of_current result current]
  simp [CommandState.lbsCompleteCommand, CommandState.clearCurCmd, CommandState.recordResult,
    current]

/-- An accepted response that reports an error leaves the error in `cur_cmd_retcode`. -/
theorem processSlot_error {env : ScanEnv w} {s : DriverState w} {call : CallId} {n : NodeId}
    {resp : List UInt8} (current : s.priv.curCmd = some n)
    (accepted : rejects (s.priv.cmdArray n).cmdbuf resp = false) (error : respResult resp ≠ 0) :
    (processSlot env s call resp).state.priv.curCmdRetcode = (respResult resp).toNat := by
  have kept : (acceptResponse s.priv resp).curCmd = some n := current
  have moded : (psModeResponse (acceptResponse s.priv resp) resp).curCmd = some n := by
    simpa using current
  have calm : mustWakeup (psModeResponse (acceptResponse s.priv resp) resp) resp = false := by
    simp [mustWakeup, error]
  simp only [processSlot, lbsProcessCommandResponse, judge, current, accepted, calm,
    Bool.false_eq_true, if_false, error, ne_eq, not_false_eq_true, true_or, if_true]
  split
  · rename_i verdict
    split at verdict <;> cases verdict
  · rename_i verdict
    split at verdict <;> cases verdict
    · exact completeCurCmd_retcode moded _
    · exact completeCurCmd_retcode kept _
  · rename_i verdict
    split at verdict <;> cases verdict
  · rename_i verdict
    split at verdict <;> cases verdict

theorem lbsUpldSize_le (idx : Fin 2) : lbsUpldSize ≤ respBufFrom idx := by
  rw [respBufFrom]
  exact Nat.le_mul_of_pos_left _ (by omega)

/-- A slot that held a header like the one of `c`, except for the high byte of the result. -/
def errorSlot (idx : Fin 2) (c : List UInt8) (code : UInt8) : List UInt8 :=
  slice c 0 7 ++ code :: List.replicate (respBufFrom idx - sDsGen) 0

theorem errorSlot_length (idx : Fin 2) (c : List UInt8) (code : UInt8) :
    (errorSlot idx c code).length = respBufFrom idx := by
  have enough : 2312 ≤ respBufFrom idx := lbsUpldSize_le idx
  rw [errorSlot, List.length_append, slice_length, List.length_cons, List.length_replicate,
    show sDsGen = 8 from rfl]
  omega

/-- After a short delivery the slot shows the delivered bytes and the code of the earlier
response. -/
theorem byteAt_slotMemory_errorSlot {delivered : List UInt8} (idx : Fin 2)
    (rest beyond : List UInt8) (code : UInt8) (short : delivered.length < sDsGen) :
    AgreeBelow 7 (slotMemory delivered (errorSlot idx (delivered ++ rest) code) beyond)
        (delivered ++ rest) ∧
      byteAt (slotMemory delivered (errorSlot idx (delivered ++ rest) code) beyond) 7 = code := by
  have short : delivered.length < 8 := short
  rw [slotMemory]
  constructor
  · intro i below
    by_cases front : i < delivered.length
    · rw [agreeBelow_overwrite _ _ i front]
      simp [byteAt, List.getD_eq_getElem?_getD, List.getElem?_append_left front]
    · have inside : i < (slice (delivered ++ rest) 0 7).length := by simpa using below
      rw [byteAt_overwrite_of_le (by omega), errorSlot, List.append_assoc, byteAt,
        List.getD_eq_getElem?_getD, List.getElem?_append_left inside,
        ← List.getD_eq_getElem?_getD, ← byteAt, byteAt_slice _ below, Nat.zero_add]
  · rw [byteAt_overwrite_of_le (by omega)]
    have position : (slice (delivered ++ rest) 0 7).length = 7 := slice_length _ _ _
    simp [errorSlot, byteAt, List.getD_eq_getElem?_getD, position]

/-- A delivery that ends inside the header of an acceptable response does not determine the
outcome. -/
theorem not_determined_of_short {env : ScanEnv w} {s : DriverState w} {call : CallId}
    {n : NodeId} {idx : Fin 2} {beyond delivered : List UInt8} (current : s.priv.curCmd = some n)
    (fits : Fits (s.priv.cmdArray n).cmdbuf delivered) (short : delivered.length < sDsGen) :
    ¬ Determined env s call idx beyond delivered := by
  obtain ⟨rest, accepted⟩ := fits
  intro determined
  have code : ∀ code : UInt8, 0 < code.toNat →
      (processSlot env s call (slotMemory delivered (errorSlot idx (delivered ++ rest) code)
        beyond)).state.priv.curCmdRetcode =
        2 ^ 8 * code.toNat + (byteAt (delivered ++ rest) 6).toNat := by
    intro code positive
    obtain ⟨agree, high⟩ := byteAt_slotMemory_errorSlot idx rest beyond code short
    have value : (respResult (slotMemory delivered
        (errorSlot idx (delivered ++ rest) code) beyond)).toNat =
        2 ^ 8 * code.toNat + (byteAt (delivered ++ rest) 6).toNat := by
      rw [respResult, le16At_toNat, high, agree 6 (by decide)]
    obtain ⟨⟨seqnum, _⟩, reply⟩ := (rejects_eq_false_iff _ _).mp accepted
    rw [processSlot_error current, value]
    · rfl
    · apply (rejects_eq_false_iff _ _).mpr
      refine ⟨⟨?_, ?_⟩, ?_⟩
      · rw [← seqnum]
        exact agree.le16At_eq (by decide)
      · intro defer
        have four := congrArg UInt16.toNat defer
        rw [value] at four
        have deferred : (0x0004 : UInt16).toNat = 4 := rfl
        omega
      · have command := agree.le16At_eq (i := 0) (by decide)
        rw [respCommand, command]
        exact reply
    · intro zero
      have none := congrArg UInt16.toNat zero
      rw [value] at none
      have success : (0 : UInt16).toNat = 0 := rfl
      omega
  have one := code 1 (by decide)
  have two := code 2 (by decide)
  rw [determined _ _ (errorSlot_length _ _ 1) (errorSlot_length _ _ 2), two] at one
  have values : (1 : UInt8).toNat = 1 ∧ (2 : UInt8).toNat = 2 := ⟨rfl, rfl⟩
  omega

/-- The slot shows an earlier byte wherever nothing was delivered. -/
theorem byteAt_slotMemory_replicate {beyond delivered : List UInt8} {room : Nat} {old : UInt8}
    {i : Nat} (behind : delivered.length ≤ i) (inside : i < room) :
    byteAt (slotMemory delivered (List.replicate room old) beyond) i = old := by
  rw [slotMemory, byteAt_overwrite_of_le behind]
  simp [byteAt, List.getD_eq_getElem?_getD, List.getElem?_append, inside]

/-- A response whose reads all show covers them. -/
theorem covered_of_determined {env : ScanEnv w} {s : DriverState w} {call : CallId}
    {idx : Fin 2} {beyond delivered : List UInt8} (taken : delivered.length ≤ lbsCmdBufferSize)
    (plain : ¬ Selective s.priv delivered)
    (determined : Determined env s call idx beyond delivered) : Covered env s delivered := by
  intro n current fits
  by_cases short : delivered.length < sDsGen
  · exact absurd determined (not_determined_of_short current fits short)
  have header : sDsGen ≤ delivered.length := by omega
  simp only [Selective, header, true_and, not_or] at plain
  obtain ⟨notPs, notScan, plain⟩ := plain
  by_contra uncovered
  have missing : delivered.length < acceptedExtent env s n delivered := by omega
  have room : delivered.length < lbsUpldSize := Nat.lt_of_le_of_lt taken (by decide)
  -- The two slots differ wherever nothing was delivered.
  let a := slotMemory delivered (List.replicate (respBufFrom idx) 0) beyond
  let b := slotMemory delivered (List.replicate (respBufFrom idx) 1) beyond
  have agreeA : AgreeBelow delivered.length a delivered := agreeBelow_overwrite _ _
  have agreeB : AgreeBelow delivered.length b delivered := agreeBelow_overwrite _ _
  have differ : ∀ i, delivered.length ≤ i → i < lbsUpldSize → byteAt a i ≠ byteAt b i := by
    intro i behind inside
    have inside := Nat.lt_of_lt_of_le inside (lbsUpldSize_le idx)
    rw [byteAt_slotMemory_replicate behind inside, byteAt_slotMemory_replicate behind inside]
    decide
  have sameA : SameHeader delivered a := sameHeader (agreeA.symm.mono header)
  have sameB : SameHeader delivered b := sameHeader (agreeB.symm.mono header)
  have same : SameHeader a b := sameHeader ((agreeA.trans agreeB.symm).mono header)
  obtain ⟨rest, accepted⟩ := fits
  have whole : SameHeader (delivered ++ rest) a := by
    have front : AgreeBelow delivered.length (delivered ++ rest) delivered := by
      intro i below
      simp [byteAt, List.getD_eq_getElem?_getD, List.getElem?_append_left below]
    exact sameHeader ((front.trans agreeA.symm).mono header)
  rw [whole.rejects] at accepted
  -- Any response that is not passed on is covered by its header.
  rw [acceptedExtent, if_neg notPs] at missing
  split at missing
  · omega
  rename_i success
  have dispatchA : judge s.priv a = .dispatch (acceptResponse s.priv a) :=
    judge_of_success current accepted (sameA.command ▸ notPs)
      (sameA.command ▸ sameA.result ▸ success)
  have dispatchB : judge s.priv b = .dispatch (acceptResponse s.priv a) := by
    rw [same.acceptResponse]
    exact judge_of_success current (same.rejects _ ▸ accepted) (sameB.command ▸ notPs)
      (sameB.command ▸ sameB.result ▸ success)
  have shown : (dispatchResponse s.memory (acceptResponse s.priv a) a).shows s.memory =
      (dispatchResponse s.memory (acceptResponse s.priv a) b).shows s.memory := by
    rw [processSlot_shows env call dispatchA, processSlot_shows env call dispatchB,
      determined _ _ List.length_replicate List.length_replicate]
  have kept : (acceptResponse s.priv a).curCmd = some n := current
  rw [dispatchResponse_of_current _ _ kept, dispatchResponse_of_current _ _ kept,
    acceptResponse_nodes] at shown
  have shared : SharesRead delivered.length (acceptedExtent env s n delivered) a b := by
    rw [acceptedExtent, if_neg notPs, if_neg success]
    cases found : (s.priv.cmdArray n).callback with
    | none =>
        rw [found] at shown
        exact handleCmdResponse_shows (acceptResponse s.priv a) header same sameA
          (by rw [← sameA.result]; exact not_not.mp (not_or.mp success).1) plain shown
    | some callback =>
        rw [found] at shown
        refine runCallback_shows env.parser callback header room same sameA ?_ shown
        rintro rfl
        rw [curCallback_of_current current] at notScan
        exact notScan found
  rw [acceptedExtent, if_neg notPs, if_neg success] at shared
  rcases shared with delivered | ⟨i, behind, inside, read⟩
  · omega
  · exact differ i behind inside read

end Converse

/-- A response is processed by its delivered bytes alone when they cover what the code reads. For a
response that is not interpreted selectively, it is so only then. -/
theorem delivered_bytes_decide {w : Nat} (env : ScanEnv w) (s : DriverState w) (call : CallId)
    (idx : Fin 2) (beyond delivered : List UInt8) :
    (Covered env s delivered → Determined env s call idx beyond delivered) ∧
      (delivered.length ≤ lbsCmdBufferSize → ¬ Selective s.priv delivered →
        Determined env s call idx beyond delivered → Covered env s delivered) :=
  ⟨determined_of_covered env s call idx beyond, covered_of_determined⟩

/-- The driver while it waits for the signal strength. No record is ever parsed. -/
def rssiState : DriverState 32 :=
  { priv := rssiInFlight, memory := fun _ => [], table := .init }

def rssiEnv : ScanEnv 32 :=
  { hz := 250, clock := ⟨fun _ => 0, fun _ => 0⟩
    parser := ⟨fun _ _ => none, fun _ _ => 0, fun _ => ⟨rfl, rfl⟩⟩ }

/-- A reply to the request for the signal strength that is cut off behind its header. -/
def bareRssiReply : List UInt8 :=
  [0x1f, 0x80, 16, 0, 1, 0, 0, 0]

/-- The signal strength is then taken from an earlier response. -/
theorem bare_reply_not_determined :
    1 ≤ bareRssiReply.length ∧ bareRssiReply.length ≤ lbsCmdBufferSize ∧
      ¬ Determined rssiEnv rssiState 1 0 [] bareRssiReply := by
  refine ⟨by decide, by decide, fun determined => ?_⟩
  have same := determined (List.replicate (respBufFrom 0) 0) (List.replicate (respBufFrom 0) 1)
    List.length_replicate List.length_replicate
  have snr := congrArg (fun outcome => outcome.state.priv.signal.snrBeacon.noavg) same
  revert snr
  decide +kernel

end Libertas
