import Libertas.Cmd.Prepare

/-!
# Handlers of command responses

`handle_cmd_response` and the functions it calls, the callbacks that command
nodes carry, and the disconnect handler that several of them share. A response
is the content of its `resp_buf` slot, read at the offsets of the firmware
structures.

A handler cannot send a command itself in this model. `Handled.wakeup` reports
that it called `lbs_ps_wakeup` as its last action, and the caller makes the call.
-/

namespace Libertas

open ByteOrder

/-- The fields of the `struct cmd_header` in front of a response. -/
def respCommand (resp : List UInt8) : UInt16 := le16At resp 0
def respSize (resp : List UInt8) : UInt16 := le16At resp 2
def respSeqnum (resp : List UInt8) : UInt16 := le16At resp 4
def respResult (resp : List UInt8) : UInt16 := le16At resp 6

/-- The `action` of a power-save response. -/
def respPsAction (resp : List UInt8) : UInt16 := le16At resp 8

/-- What a handler did. -/
structure Handled where
  priv : Priv
  ret : Int
  /-- Bytes copied to the front of a caller's buffer. -/
  write : Option (Pointer × List UInt8)
  /-- The handler called `lbs_ps_wakeup`. -/
  wakeup : Bool

/-- A handler that only updates the private structure. -/
def Handled.of (priv : Priv) (ret : Int) : Handled :=
  { priv := priv, ret := ret, write := none, wakeup := false }

/-- `lbs_mac_event_disconnected`, up to its call of `lbs_ps_wakeup`. -/
def lbsMacEventDisconnected (priv : Priv) (ret : Int) : Handled :=
  if priv.connectStatus ≠ .connected then Handled.of priv ret
  else
    { priv :=
        { priv with
          devQueue := false
          carrier := false
          currenttxskb := false
          txPendingLen := 0
          signal := .zero
          connectStatus := .disconnected
          curbssparams :=
            { bssid := List.replicate ethAlen 0
              ssid := overwrite (List.replicate iwEssidMaxSize 0) priv.curbssparams.ssid
              ssidLen := 0 } }
      ret := ret
      write := none
      wakeup := priv.psstate ≠ .fullPower }

/-- `lbs_ret_reg_access`. -/
def lbsRetRegAccess (priv : Priv) (resp : List UInt8) : Handled :=
  let value :=
    if respCommand resp = cmdRet cmdMacRegAccess then le32At resp 12
    else (byteAt resp 12).toUInt32
  Handled.of
    { priv with
      registers :=
        { priv.registers with offset := (le16At resp 10).toUInt32, value := value } } 0

/-- `lbs_ret_802_11_snmp_mib`. -/
def lbsRet80211SnmpMib (priv : Priv) (resp : List UInt8) : Handled :=
  let oid := le16At resp 10
  let value := le16At resp 14
  let registers :=
    if le16At resp 8 ≠ cmdActGet then priv.registers
    else if oid = fragthreshI then { priv.registers with fragthsd := value.toUInt32 }
    else if oid = rtsthreshI then { priv.registers with rtsthsd := value.toUInt32 }
    else if oid = shortRetrylimI then { priv.registers with txretrycount := value.toUInt8 }
    else priv.registers
  Handled.of { priv with registers := registers } 0

/-- `lbs_ret_802_11_rf_tx_power`. -/
def lbsRet80211RfTxPower (priv : Priv) (resp : List UInt8) : Handled :=
  Handled.of
    { priv with registers := { priv.registers with txpowerlevel := le16At resp 10 } } 0

/-- `lbs_ret_802_11_rssi`. `CAL_RSSI` is stored in a byte and `AVG_SCALE` is 100. -/
def lbsRet80211Rssi (priv : Priv) (resp : List UInt8) : Handled :=
  let snr := le16At resp 8
  let nf := le16At resp 10
  let avgSnr := le16At resp 12
  let avgNf := le16At resp 14
  Handled.of
    { priv with
      signal :=
        { priv.signal with
          snrBeacon := ⟨snr, avgSnr⟩
          nfBeacon := ⟨nf, avgNf⟩
          rssiBeacon := ⟨(snr - nf).toUInt8, (avgSnr / 100 - avgNf / 100).toUInt8⟩ } } 0

/-- `lbs_ret_802_11_bcn_ctrl`. -/
def lbsRet80211BcnCtrl (priv : Priv) (resp : List UInt8) : Handled :=
  if le16At resp 8 = cmdActGet then
    Handled.of
      { priv with
        registers :=
          { priv.registers with
            beaconEnable := (le16At resp 10).toUInt8, beaconPeriod := le16At resp 12 } } 0
  else Handled.of priv 0

/-- The queue of `dev` is woken unless a packet is staged. -/
def wakeDevQueue (priv : Priv) : Bool :=
  if priv.txPendingLen = 0 then true else priv.devQueue

/-- Copy the SSID and the BSSID of a descriptor to `curbssparams`. -/
def adoptBss (priv : Priv) (bss : BssIdentity) : BssIdentity :=
  { bssid := bss.bssid
    ssid := overwrite (slice bss.ssid 0 iwEssidMaxSize) priv.curbssparams.ssid
    ssidLen := bss.ssidLen }

/-- `lbs_ret_80211_associate`. -/
def lbsRet80211Associate (priv : Priv) (resp : List UInt8) : Handled :=
  match priv.settings.inProgressAssocReq with
  | none => Handled.of priv (-1)
  | some bss =>
      if le16At resp 10 ≠ 0 then lbsMacEventDisconnected priv (-1)
      else
        Handled.of
          { priv with
            connectStatus := .connected
            curbssparams := adoptBss priv bss
            signal :=
              { priv.signal with
                snrRxpd := { priv.signal.snrRxpd with avg := 0 }
                nfRxpd := { priv.signal.nfRxpd with avg := 0 }
                rawSNR := Signal.zero.rawSNR
                rawNF := Signal.zero.rawNF
                nextSNRNF := 0
                numSNRNF := 0 }
            carrier := true
            devQueue := wakeDevQueue priv } 0

/-- `lbs_ret_80211_ad_hoc_start`, also called for a join. -/
def lbsRet80211AdHocStart (priv : Priv) (resp : List UInt8) : Handled :=
  match priv.settings.inProgressAssocReq with
  | none => Handled.of priv (-1)
  | some bss =>
      if respResult resp ≠ 0 then lbsMacEventDisconnected priv (-1)
      else
        let bss :=
          if respCommand resp = cmdRet cmd80211AdHocStart then
            { bss with bssid := slice resp 11 ethAlen }
          else bss
        Handled.of
          { priv with
            connectStatus := .connected
            curbssparams := adoptBss priv bss
            carrier := true
            devQueue := wakeDevQueue priv
            settings := { priv.settings with inProgressAssocReq := some bss } } 0

/-- `lbs_ret_802_11d_domain_info` only checks the reply: at most
`MRVDRV_MAX_SUBBAND_802_11D` sub-bands of three bytes behind the country code, and a known
action. The sub-band count is computed unsigned and kept in a byte. -/
def lbsRet80211dDomainInfo (resp : List UInt8) : Int :=
  let nrSubband := (2 ^ 32 + (le16At resp 12).toNat - 3) % 2 ^ 32 / 3 % 256
  if nrSubband > 83 then -1
  else if le16At resp 8 = cmdActSet ∨ le16At resp 8 = cmdActGet then 0
  else -1

/-- A reply that is copied to the buffer of the call in flight. -/
def copyReply (priv : Priv) (bytes : List UInt8) : Handled :=
  { Handled.of priv 0 with
    write := priv.curCmd.bind fun n => (priv.cmdArray n).callbackArg.map fun p => (p, bytes) }

/-- `handle_cmd_response`. -/
def handleCmdResponse (priv : Priv) (resp : List UInt8) : Handled :=
  let respcmd := respCommand resp
  if respcmd ∈ [cmdRet cmdMacRegAccess, cmdRet cmdBbpRegAccess, cmdRet cmdRfRegAccess] then
    lbsRetRegAccess priv resp
  else if respcmd ∈
      [cmdRet80211Associate, cmdRet cmd80211Associate, cmdRet cmd80211Reassociate] then
    lbsRet80211Associate priv resp
  else if respcmd ∈ [cmdRet cmd80211Disassociate, cmdRet cmd80211Deauthenticate] then
    lbsMacEventDisconnected priv 0
  else if respcmd ∈ [cmdRet cmd80211AdHocStart, cmdRet cmd80211AdHocJoin] then
    lbsRet80211AdHocStart priv resp
  else if respcmd = cmdRet cmd80211SnmpMib then lbsRet80211SnmpMib priv resp
  else if respcmd = cmdRet cmd80211RfTxPower then lbsRet80211RfTxPower priv resp
  else if respcmd ∈ [cmdRet cmd80211SetAfc, cmdRet cmd80211GetAfc] then
    copyReply priv (slice resp 8 6)
  else if respcmd = cmdRet cmd80211Rssi then lbsRet80211Rssi priv resp
  else if respcmd = cmdRet cmd80211AdHocStop then lbsMacEventDisconnected priv 0
  else if respcmd = cmdRet cmd80211dDomainInfo then
    Handled.of priv (lbsRet80211dDomainInfo resp)
  else if respcmd = cmdRet cmd80211TpcCfg then copyReply priv (slice resp 8 7)
  else if respcmd = cmdRet cmd80211LedGpioCtrl then copyReply priv (slice resp 8 260)
  else if respcmd = cmdRet cmdGetTsf then copyReply priv (slice resp 8 8)
  else if respcmd = cmdRet cmdBtAccess then copyReply priv (slice resp 14 (2 * ethAlen))
  else if respcmd = cmdRet cmdFwtAccess then copyReply priv (slice resp 8 54)
  else if respcmd = cmdRet cmd80211BeaconCtrl then lbsRet80211BcnCtrl priv resp
  -- Some replies need no handling, and an unknown one is only logged.
  else Handled.of priv 0

@[simp] theorem Handled.of_priv (priv : Priv) (ret : Int) : (Handled.of priv ret).priv = priv := rfl

theorem lbsMacEventDisconnected_core (priv : Priv) (ret : Int) :
    (lbsMacEventDisconnected priv ret).priv.core = priv.core := by
  rw [lbsMacEventDisconnected]
  split <;> rfl

theorem lbsRet80211Associate_core (priv : Priv) (resp : List UInt8) :
    (lbsRet80211Associate priv resp).priv.core = priv.core := by
  rw [lbsRet80211Associate]
  split
  · rfl
  · split
    · exact lbsMacEventDisconnected_core _ _
    · rfl

theorem lbsRet80211AdHocStart_core (priv : Priv) (resp : List UInt8) :
    (lbsRet80211AdHocStart priv resp).priv.core = priv.core := by
  rw [lbsRet80211AdHocStart]
  split
  · rfl
  · split
    · exact lbsMacEventDisconnected_core _ _
    · rfl

theorem lbsMacEventDisconnected_write (priv : Priv) (ret : Int) :
    (lbsMacEventDisconnected priv ret).write = none := by
  rw [lbsMacEventDisconnected]
  split <;> rfl

theorem lbsRet80211Associate_write (priv : Priv) (resp : List UInt8) :
    (lbsRet80211Associate priv resp).write = none := by
  rw [lbsRet80211Associate]
  split
  · rfl
  · split
    · exact lbsMacEventDisconnected_write _ _
    · rfl

theorem lbsRet80211AdHocStart_write (priv : Priv) (resp : List UInt8) :
    (lbsRet80211AdHocStart priv resp).write = none := by
  rw [lbsRet80211AdHocStart]
  split
  · rfl
  · split
    · exact lbsMacEventDisconnected_write _ _
    · rfl

theorem lbsRet80211BcnCtrl_write (priv : Priv) (resp : List UInt8) :
    (lbsRet80211BcnCtrl priv resp).write = none := by
  rw [lbsRet80211BcnCtrl]
  split <;> rfl

theorem lbsRetRegAccess_core (priv : Priv) (resp : List UInt8) :
    (lbsRetRegAccess priv resp).priv.core = priv.core := rfl

theorem lbsRet80211SnmpMib_core (priv : Priv) (resp : List UInt8) :
    (lbsRet80211SnmpMib priv resp).priv.core = priv.core := rfl

theorem lbsRet80211RfTxPower_core (priv : Priv) (resp : List UInt8) :
    (lbsRet80211RfTxPower priv resp).priv.core = priv.core := rfl

theorem lbsRet80211Rssi_core (priv : Priv) (resp : List UInt8) :
    (lbsRet80211Rssi priv resp).priv.core = priv.core := rfl

theorem copyReply_core (priv : Priv) (bytes : List UInt8) :
    (copyReply priv bytes).priv.core = priv.core := rfl

/-- No handler touches the command path, the power state or the mailbox. -/
theorem handleCmdResponse_core (priv : Priv) (resp : List UInt8) :
    (handleCmdResponse priv resp).priv.core = priv.core := by
  have choose : ∀ {c : Prop} [Decidable c] {yes no : Handled},
      yes.priv.core = priv.core → no.priv.core = priv.core →
      (if c then yes else no).priv.core = priv.core := by
    intro c _ yes no left right
    split
    · exact left
    · exact right
  unfold handleCmdResponse
  dsimp only
  repeat' refine choose ?_ ?_
  all_goals first
    | rw [lbsRetRegAccess_core]
    | rw [lbsRet80211Associate_core]
    | rw [lbsRet80211AdHocStart_core]
    | rw [lbsRet80211SnmpMib_core]
    | rw [lbsRet80211RfTxPower_core]
    | rw [lbsRet80211Rssi_core]
    | rw [copyReply_core]
    | rfl

/-- The only pointer that a handler writes through is the one the command in flight carries. -/
theorem handleCmdResponse_write {priv : Priv} {resp bytes : List UInt8} {p : Pointer}
    (wrote : (handleCmdResponse priv resp).write = some (p, bytes)) :
    ∃ n, priv.curCmd = some n ∧ (priv.cmdArray n).callbackArg = some p := by
  have choose : ∀ {c : Prop} [Decidable c] {yes no : Handled},
      (yes.write = some (p, bytes) → ∃ n, priv.curCmd = some n ∧
        (priv.cmdArray n).callbackArg = some p) →
      (no.write = some (p, bytes) → ∃ n, priv.curCmd = some n ∧
        (priv.cmdArray n).callbackArg = some p) →
      (if c then yes else no).write = some (p, bytes) → ∃ n, priv.curCmd = some n ∧
        (priv.cmdArray n).callbackArg = some p := by
    intro c _ yes no left right
    split
    · exact left
    · exact right
  have copied : ∀ content, (copyReply priv content).write = some (p, bytes) →
      ∃ n, priv.curCmd = some n ∧ (priv.cmdArray n).callbackArg = some p := by
    intro content wrote
    obtain ⟨n, current, wrote⟩ := Option.bind_eq_some_iff.mp wrote
    obtain ⟨q, arg, same⟩ := Option.map_eq_some_iff.mp wrote
    cases same
    exact ⟨n, current, arg⟩
  revert wrote
  unfold handleCmdResponse
  dsimp only
  repeat' refine choose ?_ ?_
  all_goals first
    | exact copied _
    | rw [lbsRet80211Associate_write]
    | rw [lbsMacEventDisconnected_write]
    | rw [lbsRet80211AdHocStart_write]
    | rw [lbsRet80211BcnCtrl_write]
    | skip
  all_goals nofun

/-- The commands whose replies are copied to the caller's buffer. -/
def copiedCommands : List UInt16 :=
  [cmd80211SetAfc, cmd80211GetAfc, cmd80211TpcCfg, cmd80211LedGpioCtrl, cmdGetTsf, cmdBtAccess,
    cmdFwtAccess]

/-- A handler writes only for the reply to one of these commands. -/
theorem handleCmdResponse_copies {priv : Priv} {resp bytes : List UInt8} {p : Pointer}
    (wrote : (handleCmdResponse priv resp).write = some (p, bytes)) :
    respCommand resp ∈ copiedCommands.map cmdRet := by
  have choose : ∀ {c : Prop} [Decidable c] {yes no : Handled},
      (c → yes.write = some (p, bytes) → respCommand resp ∈ copiedCommands.map cmdRet) →
      (no.write = some (p, bytes) → respCommand resp ∈ copiedCommands.map cmdRet) →
      (if c then yes else no).write = some (p, bytes) →
        respCommand resp ∈ copiedCommands.map cmdRet := by
    intro c _ yes no left right
    split
    · rename_i holds
      exact left holds
    · exact right
  revert wrote
  unfold handleCmdResponse
  dsimp only
  repeat' refine choose (fun code => ?_) ?_
  all_goals first
    | (intro _; rw [code]; decide)
    | (intro _; simp only [List.mem_cons, List.not_mem_nil, or_false] at code
       rcases code with code | code <;> rw [code] <;> decide)
    | rw [lbsRet80211Associate_write]
    | rw [lbsMacEventDisconnected_write]
    | rw [lbsRet80211AdHocStart_write]
    | rw [lbsRet80211BcnCtrl_write]
    | skip
  all_goals nofun

/-- `lbs_cmd_copyback`: the response replaces the front of the caller's structure, as far as
both the structure's and the response's size field allow. -/
def lbsCmdCopyback (destination resp : List UInt8) : List UInt8 :=
  slice resp 0 (min (respSize destination) (respSize resp)).toNat

/-- The callbacks of command nodes. `lbs_ret_80211_scan` works on the network table, which is
not part of `Priv`. -/
def runCallback (memory : Pointer → List UInt8) (priv : Priv) (callback : Callback)
    (callbackArg : Option Pointer) (resp : List UInt8) : Handled :=
  match callback with
  | .lbsCmdAsyncCallback => Handled.of priv 0
  | .sync .lbsCmdCopyback =>
      { Handled.of priv 0 with
        write := callbackArg.map fun p => (p, lbsCmdCopyback (memory p) resp) }
  | .sync .lbsRet80211Scan => Handled.of priv 0
  | .sync .lbsSuspendCallback => Handled.of { priv with fwReady := false } 0

end Libertas
