import Libertas.Assoc.BestNetwork
import Libertas.Assoc.ChannelHelper
import Libertas.Cmd.SnmpMib
import Libertas.CmdResp.Acceptance
import Libertas.MacControl
import Libertas.Scan.Worker
import Libertas.Transition.Procedure

/-!
# A pass of the association worker

`lbs_association_worker` takes a request, leaves the network the driver is in if the
request needs that, sends the configuration, and then looks for a network to join.
The functions are written as procedures over the private structure and the request.

While the worker sleeps in a call or waits for a lock, others act: the main thread
handles responses and events, the ioctls and the scan worker run. What they do comes
with `Answer`, one for each call. It may set the fields that they write to any values;
the connection changes as the handlers of the main thread change it.

The journal holds the calls, with the commands that they pass. The commands that a builder
sends come in front of the one that it builds.
-/

namespace Libertas

open ByteOrder Procedure

/-- `WLAN_CAPABILITY_SHORT_PREAMBLE` and `ENETUNREACH`. -/
def wlanCapabilityShortPreamble : UInt16 := 0x0020
def eNetUnreach : Int := 101

/-- `sizeof` of the commands. -/
def sizeofAuthenticate : Nat := 17
def sizeofDeauthenticate : Nat := 8
def sizeofRssi : Nat := 8

/-- `REASON_CODE_STA_LEAVING` and `DEFAULT_BCN_AVG_FACTOR`. -/
def reasonCodeStaLeaving : UInt16 := 3
def defaultBcnAvgFactor : UInt16 := 8

/-- What a pass does. -/
inductive PassEntry (w : Nat)
  /-- `lbs_scan_networks` runs for all channels. -/
  | scan (caller : FullScan)
  /-- The scan table is searched, with the security settings in force. -/
  | lookup (table : ScanTable w) (secinfo : Security)
  /-- A command function is called. -/
  | call (req : Request)
  /-- A builder calls `lbs_prepare_and_send_command`. -/
  | nested (cmdNo : UInt16)
  /-- `lbs_prepare_and_send_command` is called for a BSS; `none` when the builder fails. -/
  | associate (bss : BssDescriptor w) (cmd : Option AssociateCmd)
  | adHocJoin (bss : BssDescriptor w) (cmd : Option AdHocJoinCmd)
  | adHocStart (ssid : List UInt8) (ssidLen : UInt8) (cmd : Option AdHocStartCmd)
  /-- `wireless_send_event` reports the network the driver stays in. -/
  | rejoined (bssid : List UInt8)

/-- What the main thread does to the connection while a call sleeps. -/
inductive LinkEvent
  /-- `lbs_mac_event_disconnected` -/
  | lost
  /-- A response that reports success, with a BSSID, comes while a command is in flight. -/
  | replied (curcmd respcmd : UInt16) (bssid : List UInt8)
deriving DecidableEq, Repr

/-- The responses that `handle_cmd_response` takes to `lbs_ret_80211_associate` and
`lbs_ret_80211_ad_hoc_start`. -/
def joinReplies : List UInt16 :=
  [cmdRet80211Associate, cmdRet cmd80211Associate, cmdRet cmd80211Reassociate,
    cmdRet cmd80211AdHocStart, cmdRet cmd80211AdHocJoin]

namespace PassEntry

variable {w : Nat}

/-- The command for a network that is sent. -/
def joining : PassEntry w → Option UInt16
  | associate _ (some _) => some cmd80211Associate
  | adHocJoin _ (some _) => some cmd80211AdHocJoin
  | adHocStart _ _ (some _) => some cmd80211AdHocStart
  | _ => none

/-- A command may be in flight while the worker sleeps. Others send no commands for networks. -/
def MayBeInFlight (entry : PassEntry w) (curcmd : UInt16) : Prop :=
  cmdRet curcmd ∈ joinReplies → entry.joining = some curcmd

instance decidableMayBeInFlight (entry : PassEntry w) (curcmd : UInt16) :
    Decidable (entry.MayBeInFlight curcmd) := by
  unfold MayBeInFlight
  infer_instance

end PassEntry

/-- The fields that others write, as they are when the worker goes on. -/
structure Others (w : Nat) where
  surpriseremoved : Bool
  assocWork : DelayedWork
  pendingAssocReq : Option AssocRequest
  tables : ChannelTables
  channel : UInt8
  radio : RadioPriv
  rates : RateSettings
  psstate : PsState
  psmode : UInt16
  macControl : UInt16
  mesh : MeshSettings
  table : ScanTable w

/-- What a call gets, and what happens while it sleeps. -/
structure Answer (w : Nat) where
  /-- The return value of `lbs_prepare_and_send_command`, when the command is built. -/
  ret : Int
  /-- The outcome of `lbs_cmd_with_response`. -/
  outcome : CmdOutcome
  /-- The results of the commands that a builder sends. -/
  nested : NestedResults
  /-- The stack, the command buffer and the memory behind the fields of the request. -/
  stack : List UInt8
  params : List UInt8
  behindIe : List UInt8
  behindSsid : List UInt8
  link : List LinkEvent
  others : Others w

/-- The private structure, the request with its BSS, and the answers to come. -/
structure PassState (w : Nat) where
  cmd : CmdPriv
  /-- `curbssparams.rates`. -/
  rates : List UInt8
  connectStatus : ConnectStatus
  beaconPeriod : UInt16
  capability : UInt16
  psstate : PsState
  psmode : UInt16
  adhoccreate : Bool
  macControl : UInt16
  mesh : MeshSettings
  table : ScanTable w
  req : AssocRequest
  /-- `assoc_req->bss`. -/
  bss : BssDescriptor w
  answers : Nat → Answer w

/-- Procedures of the association worker. -/
abbrev Pass (w : Nat) (α : Type) := Procedure (PassState w) (PassEntry w) α

namespace PassState

variable {w : Nat} (s : PassState w)

/-- The fields of the private structure by their names. -/
def mode : UInt8 := s.cmd.assoc.mode
def secinfo : Security := s.cmd.assoc.secinfo
def curbssparams : CurrentBssParams := s.cmd.assoc.curbssparams

def setAssoc (assoc : AssocPriv) : PassState w :=
  { s with cmd := { s.cmd with assoc := assoc } }

def setCurbssparams (curbssparams : CurrentBssParams) : PassState w :=
  s.setAssoc { s.cmd.assoc with curbssparams := curbssparams }

/-- `priv->preamble`. -/
def setPreamble (short : Bool) : PassState w :=
  { s with cmd := { s.cmd with radio := { s.cmd.radio with
      preamble := if short then cmdTypeShortPreamble else cmdTypeLongPreamble } } }

/-- The part of the private structure that the builders use. -/
def toBuild : BuildPriv :=
  { curbssparams := s.curbssparams, rates := s.rates, mode := s.mode
    beaconPeriod := s.beaconPeriod, psmode := s.psmode, rateSettings := s.cmd.rates
    enable11d := s.cmd.assoc.tables.enable11d
    regionChannel := s.cmd.assoc.tables.regionChannel }

/-- What a builder writes. -/
def built (priv : BuildPriv) : PassState w :=
  { s with
    cmd := { s.cmd with assoc := { s.cmd.assoc with
      curbssparams := priv.curbssparams, mode := priv.mode } }
    rates := priv.rates
    beaconPeriod := priv.beaconPeriod }

/-- `lbs_mac_event_disconnected`, as far as the connection is concerned. -/
def disconnected : PassState w :=
  match s.connectStatus with
  | .disconnected => s
  | .connected =>
      { s with connectStatus := .disconnected }.setCurbssparams
        { s.curbssparams with
          bssid := List.replicate ethAlen 0
          ssid := overwrite (List.replicate iwEssidMaxSize 0) s.curbssparams.ssid
          ssidLen := 0 }

/-- The handlers of a successful response: the network of the request is now the current one. -/
def connected (bssid : List UInt8) : PassState w :=
  { s with connectStatus := .connected, bss := { s.bss with bssid := bssid } }.setCurbssparams
    { s.curbssparams with
      bssid := bssid
      ssid := overwrite (slice s.bss.ssid 0 iwEssidMaxSize) s.curbssparams.ssid
      ssidLen := s.bss.ssidLen }

/-- `handle_cmd_response`. Only a response to AD_HOC_START brings a BSSID of its own. -/
def handle (respcmd : UInt16) (bssid : List UInt8) : PassState w :=
  if respcmd ∈ joinReplies then
    s.connected (if respcmd = cmdRet cmd80211AdHocStart then bssid else s.bss.bssid)
  else s

/-- What the main thread does while the worker sleeps in a call. `lbs_process_command_response`
lets the responses to the command in flight through, and with them an association response for any
command and any response for an association. -/
def act (entry : PassEntry w) (s : PassState w) : LinkEvent → PassState w
  | .lost => s.disconnected
  | .replied curcmd respcmd bssid =>
      if entry.MayBeInFlight curcmd ∧
          (respcmd = cmdRet curcmd ∨ respcmd = cmdRet80211Associate ∨
            curcmd = cmd80211Associate) then
        s.handle respcmd bssid
      else s

/-- The others have acted. -/
def meanwhile (others : Others w) : PassState w :=
  { s with
    cmd := { s.cmd with
      radio := others.radio
      rates := others.rates
      assoc := { s.cmd.assoc with
        surpriseremoved := others.surpriseremoved
        assocWork := others.assocWork
        pendingAssocReq := others.pendingAssocReq
        tables := others.tables
        curbssparams := { s.curbssparams with channel := others.channel } } }
    psstate := others.psstate
    psmode := others.psmode
    macControl := others.macControl
    mesh := others.mesh
    table := others.table }

/-- The next answer. -/
def answer : Answer w := s.answers 0

/-- The worker goes on after a call. -/
def resume (entry : PassEntry w) : PassState w :=
  (s.answer.link.foldl (act entry) { s with answers := fun n => s.answers (n + 1) }).meanwhile
    s.answer.others

end PassState

namespace Pass

variable {w : Nat}

/-- A call, and what it gets. -/
def call (entry : PassEntry w) : Pass w (Answer w) :=
  fun s => { out := s.answer, state := s.resume entry, journal := [entry] }

/-- `lbs_prepare_and_send_command` with `CMD_OPTION_WAITFORRSP`. -/
def prepareAndSend (entry : PassEntry w) (built : Bool) : Pass w Int := do
  let answer ← call entry
  pure (if built then answer.ret else -1)

/-- A function over `lbs_cmd_with_response`. The command is made before the sleep, and the
response is stored behind it. -/
def wrapper {α : Type} (run : CmdPriv → Answer w → CmdEnd α) : Pass w (Int × α) :=
  fun s =>
    let start := run s.cmd s.answer
    match start.sent with
    | none => { out := (start.ret, start.out), state := s, journal := [] }
    | some req =>
        let slept := call (.call req) s
        let finish := run slept.state.cmd s.answer
        { out := (finish.ret, finish.out)
          state := { slept.state with cmd := finish.priv }
          journal := slept.journal }

/-- `lbs_set_mac_control`. -/
def setMacControl : Pass w PUnit := do
  let s ← get
  let _ ← call (.call (macControlRequest s.macControl))
  pure ⟨⟩

/-- `lbs_set_radio_control`. -/
def setRadioControl : Pass w PUnit := do
  let _ ← wrapper fun priv answer => priv.lbsSetRadioControl answer.stack answer.outcome
  pure ⟨⟩

/-- The lookup functions take the lock and see the table behind it. -/
def lookup {α : Type} (find : ScanTable w → Security → α) : Pass w α := do
  let s ← get
  let _ ← call (.lookup s.answer.others.table s.secinfo)
  let s ← get
  pure (find s.table s.secinfo)

end Pass

/-- The request of `lbs_send_deauthentication`. -/
def deauthenticateRequest (bssid : List UInt8) : Request :=
  { kind := .prepareAndSend true, cmdNo := cmd80211Deauthenticate, cmdAction := 0
    content := some (UInt16.ofNat (sizeofDeauthenticate + sDsGen),
      slice bssid 0 ethAlen ++ le16Bytes reasonCodeStaLeaving)
    buffer := none }

/-- The request of `lbs_stop_adhoc_network`. -/
def adHocStopRequest : Request :=
  { kind := .prepareAndSend true, cmdNo := cmd80211AdHocStop, cmdAction := 0
    content := some (UInt16.ofNat sDsGen, []), buffer := none }

/-- The request for `lbs_cmd_802_11_rssi`. -/
def rssiRequest : Request :=
  { kind := .prepareAndSend true, cmdNo := cmd80211Rssi, cmdAction := 0
    content := some (UInt16.ofNat (sizeofRssi + sDsGen),
      le16Bytes defaultBcnAvgFactor ++ List.replicate 6 0)
    buffer := none }

/-- `authtype` of `lbs_cmd_80211_authenticate`; `none` for an invalid mode. -/
def authtype (authMode : UInt8) : Option UInt8 :=
  if authMode = iwAuthAlgOpenSystem then some 0x00
  else if authMode = iwAuthAlgSharedKey then some 0x01
  else if authMode = iwAuthAlgLeap then some 0x80
  else none

/-- The request that `lbs_associate` makes for `lbs_cmd_80211_authenticate`. -/
def authenticateRequest (authMode : UInt8) (bssid : List UInt8) : Request :=
  { kind := .prepareAndSend true, cmdNo := cmd80211Authenticate, cmdAction := 0
    content := (authtype authMode).map fun authtype =>
      (UInt16.ofNat (sizeofAuthenticate + sDsGen),
        slice bssid 0 ethAlen ++ [authtype] ++ List.replicate 10 0)
    buffer := some bssid }

/-- The mode that `assoc_helper_mode` sends. -/
def modeRequest (mode : UInt8) : Request :=
  snmpMibRequest 0 (lbsCmd80211SnmpMib 0 0 oid80211InfrastructureMode mode.toUInt32)

/-- `lbs_ps_wakeup` with `CMD_OPTION_WAITFORRSP`. -/
def psWakeupWaitRequest : Request :=
  { psWakeupRequest with kind := .prepareAndSend true }

namespace ScanTable

variable {w : Nat} (table : ScanTable w) (secinfo : Security)

/-- The loop of `lbs_find_bssid_in_list`. -/
def findBssidLoop (bssid : List UInt8) (mode : UInt8) :
    List NetworkId → Option NetworkId → Option NetworkId
  | [], foundBss => foundBss
  | n :: rest, foundBss =>
      let iterBss := table.networks n
      if iterBss.bssid ≠ bssid then findBssidLoop bssid mode rest foundBss
      else if mode = iwModeInfra ∨ mode = iwModeAdhoc then
        if !isNetworkCompatible secinfo iterBss mode then findBssidLoop bssid mode rest foundBss
        else findBssidLoop bssid mode rest (some n)
      else findBssidLoop bssid mode rest (some n)

/-- `lbs_find_bssid_in_list`. -/
def lbsFindBssidInList (bssid : List UInt8) (mode : UInt8) : Option NetworkId :=
  table.findBssidLoop secinfo bssid mode table.networkList none

end ScanTable

namespace Pass

variable {w : Nat}

/-- `lbs_send_specific_ssid_scan`. -/
def lbsSendSpecificSsidScan : Pass w PUnit := do
  let s ← get
  if s.req.ssidLen = 0 then pure ⟨⟩
  else do
    let _ ← call (.scan (.specific (slice s.req.ssid 0 s.req.ssidLen.toNat)))
    pure ⟨⟩

/-- `lbs_find_best_network_ssid`, up to the copies. -/
def lbsFindBestNetworkSsid : Pass w (Option (BssDescriptor w)) := do
  let _ ← call (.scan .best)
  let s ← get
  if s.cmd.assoc.surpriseremoved then pure none
  else do
    let found ← lookup fun table secinfo =>
      (table.lbsFindBestSsidInList secinfo s.req.mode).map table.networks
    pure (found.filter fun bss => bss.ssidLen > 0)

/-- The worker looks for any network if the request asks for one. -/
def findAny : Pass w Int := do
  let s ← get
  if s.req.findAnySsid then do
    let found ← lbsFindBestNetworkSsid
    match found with
    | none => pure (-eNetUnreach)
    | some bss => do
        let ssid := overwrite (slice bss.ssid 0 iwEssidMaxSize)
        modify fun s => { s with req := s.req.foundBest (ssid s.req.ssid) bss.ssidLen bss.mode }
        pure 0
  else pure 0

end Pass

namespace PassState

variable {w : Nat} (s : PassState w)

/-- `should_deauth_infrastructure`. -/
def shouldDeauthInfrastructure : Bool :=
  if s.connectStatus ≠ .connected then false
  else if s.req.flags.ssid then true
  else if s.req.flags.secinfo && s.secinfo.authMode ≠ s.req.secinfo.authMode then true
  else if s.req.flags.bssid then true
  else if s.req.flags.channel then true
  else s.req.flags.mode && s.req.mode ≠ iwModeInfra

/-- `should_stop_adhoc`. -/
def shouldStopAdhoc : Bool :=
  if s.connectStatus ≠ .connected then false
  else if !sameSsid s.curbssparams.ssid s.curbssparams.ssidLen s.req.ssid s.req.ssidLen then true
  else if s.req.flags.mode && s.req.mode ≠ iwModeAdhoc then true
  else s.req.flags.channel && s.req.channel ≠ s.curbssparams.channel

end PassState

namespace Pass

variable {w : Nat}

/-- `lbs_send_deauthentication`. -/
def lbsSendDeauthentication : Pass w Int := do
  let s ← get
  prepareAndSend (.call (deauthenticateRequest s.curbssparams.bssid)) true

/-- `lbs_stop_adhoc_network`. -/
def lbsStopAdhocNetwork : Pass w Int :=
  prepareAndSend (.call adHocStopRequest) true

/-- The worker leaves the network that the driver is in. It goes on when that fails. -/
def leave : Pass w PUnit := do
  let s ← get
  if s.mode = iwModeInfra then
    if s.shouldDeauthInfrastructure then do
      let _ ← lbsSendDeauthentication
      pure ⟨⟩
    else pure ⟨⟩
  else if s.mode = iwModeAdhoc then
    if s.shouldStopAdhoc then do
      let _ ← lbsStopAdhocNetwork
      pure ⟨⟩
    else pure ⟨⟩
  else pure ⟨⟩

/-- `lbs_ps_wakeup` with `CMD_OPTION_WAITFORRSP`, unless the card is awake. -/
def wakeCard : Pass w PUnit := do
  let s ← get
  if s.psstate ≠ .fullPower then do
    let _ ← prepareAndSend (.call psWakeupWaitRequest) true
    pure ⟨⟩
  else pure ⟨⟩

/-- Power saving ends when the infrastructure mode is entered. -/
def endPowerSaving : Pass w PUnit := do
  let s ← get
  if s.req.mode = iwModeInfra then do
    wakeCard
    modify fun s => { s with psmode := lbs80211PowermodeCam }
  else pure ⟨⟩

/-- `assoc_helper_mode`. -/
def assocHelperMode : Pass w Int := do
  let s ← get
  if s.req.mode = s.mode then pure 0
  else do
    endPowerSaving
    modify fun s => s.setAssoc { s.cmd.assoc with mode := s.req.mode }
    prepareAndSend (.call (modeRequest s.req.mode)) true

/-- `lbs_update_channel`. -/
def updateChannel : Pass w Int := do
  let answer ← call (.call getChannelRequest)
  let t ← get
  modify fun t => { t with cmd := (t.cmd.lbsUpdateChannel answer.outcome).2 }
  pure (t.cmd.lbsUpdateChannel answer.outcome).1

/-- `lbs_mesh_config`, for an action that sets up nothing. -/
def meshConfig (action : UInt16) (chan : UInt8) : Pass w PUnit := do
  let s ← get
  match s.mesh.config action chan s.answer.outcome with
  | [] => pure ⟨⟩
  | req :: _ => do
      let _ ← call (.call req)
      pure ⟨⟩

/-- The channel has changed if it is the one of the request now. -/
def noteChannel : Pass w PUnit := do
  let s ← get
  if s.req.channel = s.curbssparams.channel then
    modify fun s => { s with req := s.req.channelChanged }
  else pure ⟨⟩

/-- `assoc_helper_channel`. -/
def assocHelperChannel : Pass w Int := do
  let ret ← updateChannel
  if ret ≠ 0 then pure ret
  else do
    let s ← get
    if s.req.channel = s.curbssparams.channel then pure 0
    else do
      meshConfig cmdActMeshConfigStop s.req.channel
      let _ ← wrapper fun priv answer => priv.lbsSetChannel answer.outcome s.req.channel
      let ret ← updateChannel
      if ret ≠ 0 then pure ret
      else do
        noteChannel
        let s ← get
        meshConfig cmdActMeshConfigStart s.curbssparams.channel
        pure 0

/-- `assoc_helper_wep_keys`. -/
def assocHelperWepKeys : Pass w Int := do
  let s ← get
  let (ret, _) ← wrapper fun priv answer =>
    priv.lbsCmd80211SetWep answer.outcome (if s.req.hasWepKey then cmdActAdd else cmdActRemove)
      s.req
  if ret ≠ 0 then pure ret
  else do
    modify fun s => { s with macControl :=
      if s.req.secinfo.wepEnabled then s.macControl ||| actMacWepEnable
      else s.macControl &&& ~~~actMacWepEnable }
    setMacControl
    modify fun s => s.setAssoc { s.cmd.assoc with
      wepKeys := s.req.wepKeys, wepTxKeyidx := s.req.wepTxKeyidx }
    pure 0

/-- `assoc_helper_secinfo`. -/
def assocHelperSecinfo : Pass w Int := do
  modify fun s => s.setAssoc { s.cmd.assoc with secinfo := s.req.secinfo }
  setMacControl
  let (ret, rsn) ← wrapper fun priv answer =>
    priv.lbsCmd80211EnableRsn answer.stack answer.outcome cmdActGet 0
  if ret ≠ 0 then pure ret
  else do
    let s ← get
    let doWpa : UInt16 := if s.req.secinfo.wpaEnabled || s.req.secinfo.wpa2Enabled then 1 else 0
    if doWpa = rsn then pure 0
    else do
      let (ret, _) ← wrapper fun priv answer =>
        priv.lbsCmd80211EnableRsn answer.stack answer.outcome cmdActSet doWpa
      pure ret

/-- `assoc_helper_wpa_ie`. -/
def assocHelperWpaIe : Pass w Int := do
  modify fun s => s.setAssoc (s.cmd.assoc.assocHelperWpaIe s.req)
  pure 0

/-- A request with one of the flags of the WPA keys cleared. -/
def withoutMcast (req : AssocRequest) : AssocRequest :=
  { req with flags := { req.flags with wpaMcastKey := false } }
def withoutUcast (req : AssocRequest) : AssocRequest :=
  { req with flags := { req.flags with wpaUcastKey := false } }

/-- `lbs_cmd_802_11_key_material` for one key of the request. -/
def keyMaterial (choose : AssocRequest → AssocRequest) : Pass w Int := do
  let s ← get
  let (ret, _) ← wrapper fun priv answer =>
    priv.lbsCmd80211KeyMaterial answer.stack answer.outcome cmdActSet (choose s.req)
  pure ret

/-- A helper of the worker is called if the request has one of its flags. -/
def wanted (flag : AssocFlags → Bool) (helper : Pass w Int) : Pass w Int := do
  let s ← get
  if flag s.req.flags then helper else pure 0

/-- `assoc_helper_wpa_keys`. The flags are restored behind each command. -/
def assocHelperWpaKeys : Pass w Int :=
  stages
    [wanted (·.wpaUcastKey) (keyMaterial withoutMcast),
      wanted (·.wpaMcastKey) (keyMaterial withoutUcast)]

/-- The configuration, in the order in which it is sent. -/
def configuration : Pass w Int :=
  stages
    [wanted (·.mode) assocHelperMode,
      wanted (·.channel) assocHelperChannel,
      wanted (fun flags => flags.wepKeys || flags.wepTxKeyidx) assocHelperWepKeys,
      wanted (·.secinfo) assocHelperSecinfo,
      wanted (·.wpaIe) assocHelperWpaIe,
      wanted (fun flags => flags.wpaMcastKey || flags.wpaUcastKey) assocHelperWpaKeys]

/-- The commands that a builder sends. -/
def sendNested : List UInt16 → Pass w PUnit
  | [] => pure ⟨⟩
  | cmdNo :: rest => do
      let _ ← call (.nested cmdNo)
      sendNested rest

/-- What the builder of ASSOCIATE is given. -/
def associateInput (s : PassState w) : AssociateInput w :=
  { assocReq := s.req, bss := s.bss, behindIe := s.answer.behindIe
    behindSsid := s.answer.behindSsid, countryinfo := 0 }

/-- `lbs_prepare_and_send_command` builds ASSOCIATE and sends it. -/
def sendAssociate : Pass w Int := do
  let s ← get
  let built := s.toBuild.lbsCmd80211Associate s.answer.nested (associateInput s) s.answer.params
  modify fun s => s.built built.priv
  sendNested (s.toBuild.associateSent s.bss)
  prepareAndSend (.associate s.bss built.cmd) built.cmd.isSome

/-- The same for AD_HOC_JOIN. -/
def sendAdHocJoin : Pass w Int := do
  let s ← get
  let built := s.toBuild.lbsCmd80211AdHocJoin s.answer.nested s.bss s.req.secinfo.wepEnabled
  modify fun s => s.built built.priv
  sendNested (s.toBuild.adHocJoinSent s.answer.nested s.bss)
  prepareAndSend (.adHocJoin s.bss built.cmd) built.cmd.isSome

/-- The same for AD_HOC_START. -/
def sendAdHocStart : Pass w Int := do
  let s ← get
  let built := s.toBuild.lbsCmd80211AdHocStart s.answer.nested s.req
  modify fun s => s.built built.priv
  sendNested s.toBuild.adHocStartSent
  prepareAndSend (.adHocStart s.bss.ssid s.bss.ssidLen built.cmd) built.cmd.isSome

/-- Both the card and a BSS support the short preamble. -/
def shortPreamble (capability bssCapability : UInt16) : Bool :=
  capability &&& wlanCapabilityShortPreamble ≠ 0 &&
    bssCapability &&& wlanCapabilityShortPreamble ≠ 0

/-- `lbs_associate`. -/
def lbsAssociate : Pass w Int := do
  let s ← get
  let req := authenticateRequest s.secinfo.authMode s.bss.bssid
  let ret ← prepareAndSend (.call req) req.content.isSome
  if ret ≠ 0 then pure ret
  else do
    modify fun s => s.setPreamble (shortPreamble s.capability s.bss.capability)
    setRadioControl
    sendAssociate

/-- The driver is in the ad-hoc network of the request already. -/
def joined (s : PassState w) : Bool :=
  s.curbssparams.ssidLen ≠ 0 &&
    sameSsid s.curbssparams.ssid s.curbssparams.ssidLen s.bss.ssid s.bss.ssidLen &&
    s.mode = iwModeAdhoc && s.connectStatus = .connected

/-- `lbs_join_adhoc_network`. -/
def lbsJoinAdhocNetwork : Pass w Int := do
  let s ← get
  if joined s then do
    let _ ← call (.rejoined s.curbssparams.bssid)
    pure 0
  else do
    modify fun s => s.setPreamble (shortPreamble s.capability s.bss.capability)
    setRadioControl
    modify fun s => { s with adhoccreate := false }
    sendAdHocJoin

/-- `lbs_start_adhoc_network`. -/
def lbsStartAdhocNetwork : Pass w Int := do
  modify fun s => { s with adhoccreate := true }.setPreamble
    (s.capability &&& wlanCapabilityShortPreamble ≠ 0)
  setRadioControl
  sendAdHocStart

/-- The BSS that was found is copied to the request. -/
def choose (bss : BssDescriptor w) : Pass w PUnit :=
  modify fun s => { s with bss := bss }

/-- The query of `assoc_helper_essid`. -/
def essidQuery (req : AssocRequest) (mode : UInt8) : ScanTable.SsidQuery :=
  { ssid := req.ssid, ssidLen := req.ssidLen, bssid := none, mode := mode
    channel := if req.flags.channel then req.channel.toNat else -1 }

/-- The search of `assoc_helper_essid`. -/
def findEssid (mode : UInt8) : Pass w (Option (BssDescriptor w)) := do
  lbsSendSpecificSsidScan
  let s ← get
  lookup fun table secinfo =>
    (table.lbsFindSsidInList secinfo (essidQuery s.req mode)).map table.networks

/-- `assoc_helper_essid`. -/
def assocHelperEssid : Pass w Int := do
  let s ← get
  if s.req.mode = iwModeInfra then do
    let found ← findEssid iwModeInfra
    match found with
    | some bss => do
        choose bss
        lbsAssociate
    | none => pure 0
  else if s.req.mode = iwModeAdhoc then do
    let found ← findEssid iwModeAdhoc
    match found with
    | some bss => do
        choose bss
        let _ ← lbsJoinAdhocNetwork
        pure 0
    | none => do
        modify fun s => { s with bss := { s.bss with
          ssid := overwrite (slice s.req.ssid 0 iwEssidMaxSize) s.bss.ssid
          ssidLen := s.req.ssidLen } }
        let _ ← lbsStartAdhocNetwork
        pure 0
  else pure 0

/-- `assoc_helper_bssid`. -/
def assocHelperBssid : Pass w Int := do
  let s ← get
  let found ← lookup fun table secinfo =>
    (table.lbsFindBssidInList secinfo s.req.bssid s.req.mode).map table.networks
  match found with
  | none => pure 0
  | some bss => do
      choose bss
      if s.req.mode = iwModeInfra then lbsAssociate
      else if s.req.mode = iwModeAdhoc then do
        let _ ← lbsJoinAdhocNetwork
        pure 0
      else pure 0

/-- `assoc_helper_associate`. -/
def assocHelperAssociate : Pass w Int := do
  let s ← get
  if s.req.lockedBssid then assocHelperBssid
  else if s.req.flags.ssid then assocHelperEssid
  else pure 0

/-- The attempt to associate, and the RSSI of the network if it succeeded. -/
def attempt : Pass w Int := do
  let s ← get
  if s.req.flags.bssid || s.req.flags.ssid then do
    let ret ← assocHelperAssociate
    let s ← get
    if ret = 0 ∧ s.connectStatus = .connected then do
      let _ ← prepareAndSend (.call rssiRequest) true
      pure 0
    else pure (-1)
  else pure 0

/-- `lbs_association_worker` with a request: the code that it ends with. -/
def lbsAssociationWorker : Pass w Int := do
  let ret ← findAny
  if ret ≠ 0 then pure ret
  else do
    leave
    let ret ← configuration
    if ret ≠ 0 then pure ret
    else attempt

end Pass

end Libertas
