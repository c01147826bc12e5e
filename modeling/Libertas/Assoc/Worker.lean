import Libertas.Assoc.Getters
import Libertas.Transition.Basic

/-!
# The association worker

`lbs_association_worker` takes the pending request and applies it step by step,
releasing `priv->lock` in between. The ioctls run between its steps. The answers
of the firmware and the result of a scan come with the action.

`card` and `attempts` are not in the source: the keys that the firmware holds,
and what the association attempts used, newest first.
-/

namespace Libertas

/-- `bssid_any` and `bssid_off`. -/
def bssidAny : List UInt8 := List.replicate ethAlen 0xff
def bssidOff : List UInt8 := List.replicate ethAlen 0

/-- Where the worker stands. In all places but the first two its request is
`in_progress_assoc_req`. -/
inductive AssocPc
  | idle
  | taking
  | finding
  | mode
  | channel
  | wepKeys
  /-- The keys are sent, and not yet copied to the private structure. -/
  | wepSent
  | secinfo
  /-- The security information is copied, and the answers about RSN are awaited. -/
  | rsn
  | wpaIe
  | wpaKeys
  | associating
  | ending
deriving DecidableEq, Repr

/-- The keys of the firmware, as far as they were set. -/
structure CardKeys where
  wep : Option (WepKeys × UInt16)
  wpaMcastKey : Option EncKey
  wpaUnicastKey : Option EncKey
deriving DecidableEq, Repr

/-- An association attempt: its request, and the keys of the firmware. -/
structure Attempt where
  req : AssocRequest
  card : CardKeys
deriving DecidableEq, Repr

/-- The answers that a step of the worker gets. -/
structure AssocAnswers where
  /-- The commands of the step succeed. -/
  ok : Bool
  /-- The SSID and the mode of the best network. -/
  best : Option (List UInt8 × UInt8 × UInt8)
  /-- The channel, when it is asked for, set, and asked for again. -/
  channel : Option UInt16 × Option UInt16 × Option UInt16
deriving DecidableEq, Repr

/-- The private structure, the worker and the firmware. -/
structure AssocSys where
  priv : AssocPriv
  worker : AssocPc
  card : CardKeys
  attempts : List Attempt
deriving DecidableEq, Repr

namespace AssocRequest

/-- A BSSID is asked for: neither any nor off. -/
def lockedBssid (req : AssocRequest) : Bool :=
  req.flags.bssid && req.bssid ≠ bssidAny && req.bssid ≠ bssidOff

/-- `find_any_ssid`. -/
def findAnySsid (req : AssocRequest) : Bool :=
  req.flags.ssid && req.ssidLen = 0 && !req.lockedBssid

/-- The best network is taken over into the request. -/
def foundBest (req : AssocRequest) (ssid : List UInt8) (ssidLen mode : UInt8) : AssocRequest :=
  let req := { req with ssid := ssid, ssidLen := ssidLen }
  if req.mode = iwModeAuto then
    { req with mode := mode, flags := { req.flags with mode := true } }
  else req

/-- Some WEP key has a length. -/
def hasWepKey (req : AssocRequest) : Bool :=
  req.wepKeys.any (·.len ≠ 0)

/-- The channel has changed: WEP keys are sent again, and the network is joined again. -/
def channelChanged (req : AssocRequest) : AssocRequest :=
  { req with flags := { req.flags with
      wepKeys := req.flags.wepKeys || req.secinfo.wepEnabled && req.hasWepKey
      ssid := true } }

/-- `lbs_cmd_802_11_set_wep` refuses keys of other lengths. -/
def validWepKeys (req : AssocRequest) : Bool :=
  req.wepKeys.all fun key => key.len = 0 || key.len = keyLenWep40 || key.len = keyLenWep104

end AssocRequest

namespace AssocPriv

/-- `lbs_update_channel`; `none` is a failed command. -/
def lbsUpdateChannel (priv : AssocPriv) (answer : Option UInt16) : Option AssocPriv :=
  answer.map fun channel =>
    if channel = 0 then priv
    else { priv with curbssparams := { priv.curbssparams with channel := channel.toUInt8 } }

/-- `lbs_set_channel`. Its result is not looked at. -/
def lbsSetChannel (priv : AssocPriv) (answer : Option UInt16) : AssocPriv :=
  match answer with
  | none => priv
  | some channel =>
      { priv with curbssparams := { priv.curbssparams with channel := channel.toUInt8 } }

/-- `assoc_helper_channel`: the code it returns, the request and the private structure. -/
def assocHelperChannel (priv : AssocPriv) (req : AssocRequest)
    (answers : Option UInt16 × Option UInt16 × Option UInt16) : Bool × AssocRequest × AssocPriv :=
  match priv.lbsUpdateChannel answers.1 with
  | none => (false, req, priv)
  | some priv =>
      if req.channel = priv.curbssparams.channel then (true, req, priv)
      else
        let priv := priv.lbsSetChannel answers.2.1
        match priv.lbsUpdateChannel answers.2.2 with
        | none => (false, req, priv)
        | some priv =>
            if req.channel ≠ priv.curbssparams.channel then (true, req, priv)
            else
              (true, req.channelChanged,
                priv.visit (if req.secinfo.wepEnabled then allKeys else []))

/-- `assoc_helper_wpa_ie`. -/
def assocHelperWpaIe (priv : AssocPriv) (req : AssocRequest) : AssocPriv :=
  if req.secinfo.wpaEnabled || req.secinfo.wpa2Enabled then
    { priv with
      wpaIe := req.wpaIe.take req.wpaIeLen.toNat ++ priv.wpaIe.drop req.wpaIeLen.toNat
      wpaIeLen := req.wpaIeLen }
  else { priv with wpaIe := List.replicate maxWpaIeLen 0, wpaIeLen := 0 }

end AssocPriv

namespace AssocSys

/-- The worker takes the pending request. -/
def take (s : AssocSys) : AssocSys :=
  { s with
    priv := { s.priv with
      pendingAssocReq := none
      inProgressAssocReq := s.priv.pendingAssocReq }
    worker := if s.priv.pendingAssocReq.isSome then .finding else .idle }

/-- The worker goes on, with the request as it is now. -/
def next (s : AssocSys) (req : AssocRequest) (pc : AssocPc) : AssocSys :=
  { s with priv := { s.priv with inProgressAssocReq := some req }, worker := pc }

@[simp] theorem next_worker (s : AssocSys) (req : AssocRequest) (pc : AssocPc) :
    (s.next req pc).worker = pc := rfl

/-- The keys of the firmware, when those with a flag are sent. -/
def sendWpaKeys (card : CardKeys) (req : AssocRequest) : CardKeys :=
  { card with
    wpaMcastKey := if req.flags.wpaMcastKey then some req.wpaMcastKey else card.wpaMcastKey
    wpaUnicastKey := if req.flags.wpaUcastKey then some req.wpaUnicastKey else card.wpaUnicastKey }

/-- One step of `lbs_association_worker` with its request. -/
def workerStep (s : AssocSys) (req : AssocRequest) (answers : AssocAnswers) : AssocSys :=
  match s.worker with
  | .idle => s
  | .taking => s
  | .finding =>
      if req.findAnySsid then
        match answers.best with
        | none => s.next req .ending
        | some (ssid, ssidLen, mode) => s.next (req.foundBest ssid ssidLen mode) .mode
      else s.next req .mode
  | .mode =>
      if req.flags.mode && req.mode ≠ s.priv.mode then
        { s with priv := { s.priv with mode := req.mode } }.next req
          (if answers.ok then .channel else .ending)
      else s.next req .channel
  | .channel =>
      if req.flags.channel then
        let (ok, changed, priv) := s.priv.assocHelperChannel req answers.channel
        { s with priv := priv }.next changed (if ok then .wepKeys else .ending)
      else s.next req .wepKeys
  | .wepKeys =>
      if req.flags.wepKeys || req.flags.wepTxKeyidx then
        let s := { s with priv := s.priv.visit allKeys }
        if req.hasWepKey && !req.validWepKeys || !answers.ok then s.next req .ending
        else
          { s with card := { s.card with wep := some (req.wepKeys, req.wepTxKeyidx) } }.next req
            .wepSent
      else s.next req .secinfo
  | .wepSent =>
      { s with priv := { s.priv with
          wepKeys := req.wepKeys
          wepTxKeyidx := req.wepTxKeyidx }.visit allKeys }.next req .secinfo
  | .secinfo =>
      if req.flags.secinfo then
        { s with priv := { s.priv with secinfo := req.secinfo } }.next req .rsn
      else s.next req .wpaIe
  | .rsn => s.next req (if answers.ok then .wpaIe else .ending)
  | .wpaIe =>
      if req.flags.wpaIe then
        { s with priv := s.priv.assocHelperWpaIe req }.next req .wpaKeys
      else s.next req .wpaKeys
  | .wpaKeys =>
      if req.flags.wpaMcastKey || req.flags.wpaUcastKey then
        if answers.ok then { s with card := sendWpaKeys s.card req }.next req .associating
        else s.next req .ending
      else s.next req .associating
  | .associating =>
      if req.flags.bssid || req.flags.ssid then
        { s with attempts := { req := req, card := s.card } :: s.attempts }.next req .ending
      else s.next req .ending
  | .ending =>
      { s with priv := { s.priv with inProgressAssocReq := none }, worker := .idle }

end AssocSys

/-- What can happen. -/
inductive AssocAction
  | call (alloc : Bool) (call : SetterCall)
  | getEncode (beyond : Nat → EncKey) (length flags : UInt16)
  | getEncodeext (beyond : Nat → EncKey) (length flags : UInt16) (extFlags : UInt32)
      (alg : UInt16)
  | remove
  /-- The link changes, or an association succeeds. -/
  | link (curbssparams : CurrentBssParams) (mode : UInt8)
  /-- The region or the 11d data change. -/
  | regulate (tables : ChannelTables)
  /-- The timer of `assoc_work` expires. -/
  | timer
  /-- `assoc_work` starts. -/
  | work
  /-- The next step of the worker. -/
  | worker (answers : AssocAnswers)

namespace AssocSys

/-- One step of the system. -/
def step (s : AssocSys) : AssocAction → Option AssocSys
  | .call alloc call => some { s with priv := (s.priv.call alloc call).2 }
  | .getEncode beyond length flags =>
      some { s with priv := (s.priv.lbsGetEncode beyond length flags).2 }
  | .getEncodeext beyond length flags extFlags alg =>
      some { s with priv := (s.priv.lbsGetEncodeext beyond length flags extFlags alg).2 }
  | .remove => some { s with priv := { s.priv with surpriseremoved := true } }
  | .link curbssparams mode =>
      some { s with priv := { s.priv with curbssparams := curbssparams, mode := mode } }
  | .regulate tables => some { s with priv := { s.priv with tables := tables } }
  | .timer =>
      match s.priv.assocWork with
      | .timer => some { s with priv := { s.priv with assocWork := .queued } }
      | _ => none
  | .work =>
      match s.worker, s.priv.assocWork with
      | .idle, .queued =>
          some { s with priv := { s.priv with assocWork := .idle }, worker := .taking }
      | _, _ => none
  | .worker answers =>
      match s.worker, s.priv.inProgressAssocReq with
      | .idle, _ => none
      | .taking, _ => some s.take
      | _, some req => some (s.workerStep req answers)
      | _, none => none

/-- Nothing is pending, and the firmware holds no keys. -/
def init (priv : AssocPriv) : AssocSys :=
  { priv := priv, worker := .idle
    card := { wep := none, wpaMcastKey := none, wpaUnicastKey := none }, attempts := [] }

end AssocSys

/-- The association side of the driver. -/
def associator : Machine AssocSys AssocAction where
  initial s := ∃ tables, s = .init (.fresh tables)
  step := AssocSys.step

end Libertas
