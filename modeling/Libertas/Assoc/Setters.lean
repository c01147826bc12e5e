import Libertas.Assoc.Request

/-!
# The setter ioctls

Every setter changes the pending request under `priv->lock` and then postpones
the association work, or cancels it when something is wrong. A setter is modelled
as a function that returns the code and the new private structure.
-/

namespace Libertas

def iwEncodeIndex : UInt16 := 0x00ff
def iwEncodeDisabled : UInt16 := 0x8000
def iwEncodeRestricted : UInt16 := 0x4000
def iwEncodeOpen : UInt16 := 0x2000
def iwEncodeNokey : UInt16 := 0x0800

def iwEncodeAlgNone : UInt16 := 0
def iwEncodeAlgWep : UInt16 := 1
def iwEncodeAlgTkip : UInt16 := 2
def iwEncodeAlgCcmp : UInt16 := 3

def iwEncodeExtGroupKey : UInt32 := 4
def iwEncodeExtSetTxKey : UInt32 := 8

def iwAuthIndex : UInt16 := 0x0fff
def iwAuthWpaVersionDisabled : UInt32 := 1
def iwAuthWpaVersionWpa : UInt32 := 2
def iwAuthWpaVersionWpa2 : UInt32 := 4

def eInval : Int := 22
def eNoMem : Int := 12
def e2Big : Int := 7
def eOpNotSupp : Int := 95

/-- `struct iw_point` of a setter, and the bytes behind its pointer. -/
structure IwPoint where
  length : UInt16
  flags : UInt16
  /-- `none` is the NULL pointer. -/
  extra : Option (List UInt8)
deriving DecidableEq, Repr

/-- The first `n` bytes of the data. -/
def IwPoint.bytes (dwrq : IwPoint) (n : Nat) : List UInt8 :=
  (dwrq.extra.getD []).take n

/-- `struct iw_encode_ext`. -/
structure IwEncodeExt where
  extFlags : UInt32
  alg : UInt16
  keyLen : UInt16
  key : List UInt8
deriving DecidableEq, Repr

/-- What a setter did to the request: the code it returns, the request, and the elements of
`wep_keys` it visited. -/
structure Setting where
  ret : Int
  req : AssocRequest
  accesses : List Nat

namespace AssocRequest

/-- `validate_key_index`: the index, and whether it is the default one. -/
def validateKeyIndex (defIndex rawIndex : UInt16) : Option (UInt16 × Bool) :=
  if 0 < rawIndex then
    if 4 < rawIndex then none else some (rawIndex - 1, false)
  else some (defIndex, true)

/-- The key that `lbs_set_wep_key` leaves in the place of `old`, with a standard length. -/
def wepKey (old : EncKey) (keyMaterial : List UInt8) (keyLength : UInt16) : EncKey :=
  if 0 < keyLength then
    { len := if keyLenWep40 < keyLength then keyLenWep104 else keyLenWep40
      flags := 0, type := keyTypeIdWep
      key := EncKey.padded (keyMaterial.take keyLength.toNat) }
  else old

/-- A key is stored, and may become the transmit key if it is one. -/
def storeWepKey (req : AssocRequest) (index : UInt16) (bound : index.toNat < 4) (pkey : EncKey)
    (setTxKey : Bool) : Setting :=
  let req := { req with wepKeys := req.wepKeys.set index.toNat pkey }
  if setTxKey && pkey.len = 0 then { ret := -eInval, req := req, accesses := [index.toNat] }
  else
    { ret := 0
      req := { req with
        wepTxKeyidx := if setTxKey then index else req.wepTxKeyidx
        secinfo := { req.secinfo with wepEnabled := true } }
      accesses := [index.toNat] }

/-- `lbs_set_wep_key`. The check of the index is what makes the access to the array one. -/
def lbsSetWepKey (req : AssocRequest) (keyMaterial : List UInt8) (keyLength index : UInt16)
    (setTxKey : Bool) : Setting :=
  if bound : index.toNat < 4 then
    if keyLenWep104 < keyLength then { ret := -eInval, req := req, accesses := [] }
    else
      req.storeWepKey index bound (wepKey req.wepKeys[index.toNat] keyMaterial keyLength) setTxKey
  else { ret := -eInval, req := req, accesses := [] }

/-- The authentication that the flags of a key ask for. -/
def restrict (req : AssocRequest) (flags : UInt16) : AssocRequest :=
  if flags &&& iwEncodeRestricted ≠ 0 then
    { req with secinfo := { req.secinfo with authMode := iwAuthAlgSharedKey } }
  else if flags &&& iwEncodeOpen ≠ 0 then
    { req with secinfo := { req.secinfo with authMode := iwAuthAlgOpenSystem } }
  else req

/-- A WEP key of `lbs_set_encode` or `lbs_set_encodeext`; `force` is the set-TX-key flag. -/
def setWepKey (req : AssocRequest) (dwrq : IwPoint) (key : List UInt8) (keyLength : UInt16)
    (force : Bool) : Setting :=
  match validateKeyIndex req.wepTxKeyidx (dwrq.flags &&& iwEncodeIndex) with
  | none => { ret := -eInval, req := req, accesses := [] }
  | some (index, isDefault) =>
      let setTxKey := !req.secinfo.wepEnabled || dwrq.length = 0 && !isDefault || force
      let set := req.lbsSetWepKey key keyLength index setTxKey
      if set.ret ≠ 0 then set
      else
        let req := set.req.restrict dwrq.flags
        { set with
          req := { req with
            flags := { req.flags with
              secinfo := true
              wepKeys := req.flags.wepKeys || dwrq.length ≠ 0
              wepTxKeyidx := req.flags.wepTxKeyidx || setTxKey } } }

/-- WEP and WPA are switched off. -/
def disable (req : AssocRequest) : Setting :=
  { ret := 0, req := req.disableWep.disableWpa, accesses := allKeys }

/-- `lbs_set_encode` on the request. -/
def setEncode (req : AssocRequest) (dwrq : IwPoint) : Setting :=
  if dwrq.flags &&& iwEncodeDisabled ≠ 0 then req.disable
  else req.setWepKey dwrq (dwrq.bytes dwrq.length.toNat) dwrq.length false

/-- The key that the data of `lbs_set_encodeext` describe. -/
def wpaKeyOf (ext : IwEncodeExt) : EncKey :=
  { len := ext.keyLen
    flags := (if ext.keyLen ≠ 0 then keyInfoWpaEnabled else 0) |||
      (if ext.extFlags &&& iwEncodeExtGroupKey ≠ 0 then keyInfoWpaMcast else keyInfoWpaUnicast)
    type := if ext.alg = iwEncodeAlgTkip then keyTypeIdTkip else keyTypeIdAes
    key := EncKey.padded (ext.key.take ext.keyLen.toNat) }

/-- A WPA key is stored as the group key or the unicast key. -/
def storeWpaKey (req : AssocRequest) (group : Bool) (pkey : EncKey) : AssocRequest :=
  if group then
    { req with wpaMcastKey := pkey, flags := { req.flags with wpaMcastKey := true } }
  else { req with wpaUnicastKey := pkey, flags := { req.flags with wpaUcastKey := true } }

/-- WPA is enabled, if it is not yet. -/
def enableWpa (req : AssocRequest) : AssocRequest :=
  if req.secinfo.wpaEnabled || req.secinfo.wpa2Enabled then req
  else
    { req with
      secinfo := { req.secinfo with wpaEnabled := true, wpa2Enabled := true }
      flags := { req.flags with secinfo := true } }

/-- A WPA key of `lbs_set_encodeext`. -/
def setWpaKey (req : AssocRequest) (ext : IwEncodeExt) : AssocRequest :=
  (req.storeWpaKey (ext.extFlags &&& iwEncodeExtGroupKey ≠ 0) (wpaKeyOf ext)).enableWpa

/-- `lbs_set_encodeext` on the request. -/
def setEncodeext (req : AssocRequest) (dwrq : IwPoint) (ext : IwEncodeExt) : Setting :=
  if ext.alg = iwEncodeAlgNone ∨ dwrq.flags &&& iwEncodeDisabled ≠ 0 then req.disable
  else if ext.alg = iwEncodeAlgWep then
    req.setWepKey dwrq (ext.key.take ext.keyLen.toNat) ext.keyLen
      (ext.extFlags &&& iwEncodeExtSetTxKey ≠ 0)
  else if ext.alg = iwEncodeAlgTkip ∨ ext.alg = iwEncodeAlgCcmp then
    if (ext.alg = iwEncodeAlgTkip ∧ ext.keyLen ≠ keyLenWpaTkip) ∨
        (ext.alg = iwEncodeAlgCcmp ∧ ext.keyLen ≠ keyLenWpaAes) then
      { ret := -eInval, req := req, accesses := [] }
    else { ret := 0, req := (req.setWpaKey ext).disableWep, accesses := allKeys }
  else { ret := 0, req := req, accesses := [] }

/-- `lbs_set_genie` on the request. -/
def setGenie (req : AssocRequest) (dwrq : IwPoint) : Setting :=
  if maxWpaIeLen < dwrq.length.toNat ∨ (dwrq.length ≠ 0 ∧ dwrq.extra = none) then
    { ret := -eInval, req := req, accesses := [] }
  else
    let ie := dwrq.bytes dwrq.length.toNat
    { ret := 0
      req := { req with
        wpaIe := if dwrq.length ≠ 0 then ie ++ req.wpaIe.drop ie.length
          else List.replicate maxWpaIeLen 0
        wpaIeLen := dwrq.length.toUInt8
        flags := { req.flags with wpaIe := true } }
      accesses := [] }

/-- Some version of WPA comes with open authentication and without WEP. -/
def withoutWep (secinfo : Security) : Security :=
  { secinfo with wepEnabled := false, authMode := iwAuthAlgOpenSystem }

/-- WPA is one of the versions. -/
def useWpa (req : AssocRequest) : AssocRequest :=
  { req with secinfo := withoutWep { req.secinfo with wpaEnabled := true } }

/-- WPA2 is one of the versions. -/
def useWpa2 (req : AssocRequest) : AssocRequest :=
  { req with secinfo := withoutWep { req.secinfo with wpa2Enabled := true } }

/-- A change that is made for some values only. -/
def applyIf (req : AssocRequest) (wanted : Bool) (change : AssocRequest → AssocRequest) :
    AssocRequest :=
  if wanted then change req else req

/-- `IW_AUTH_WPA_VERSION`. -/
def setWpaVersion (req : AssocRequest) (value : UInt32) : AssocRequest :=
  ((req.applyIf (value &&& iwAuthWpaVersionDisabled ≠ 0) disableWpa).applyIf
    (value &&& iwAuthWpaVersionWpa ≠ 0) useWpa).applyIf
    (value &&& iwAuthWpaVersionWpa2 ≠ 0) useWpa2

/-- `IW_AUTH_80211_AUTH_ALG`; there is nothing to set for an unknown algorithm. -/
def setAuthAlg (req : AssocRequest) (value : UInt32) : Option AssocRequest :=
  if value &&& iwAuthAlgSharedKey.toUInt32 ≠ 0 then
    some { req with secinfo := { req.secinfo with authMode := iwAuthAlgSharedKey } }
  else if value &&& iwAuthAlgOpenSystem.toUInt32 ≠ 0 then
    some { req with secinfo := { req.secinfo with authMode := iwAuthAlgOpenSystem } }
  else if value &&& iwAuthAlgLeap.toUInt32 ≠ 0 then
    some { req with secinfo := { req.secinfo with authMode := iwAuthAlgLeap } }
  else none

/-- `IW_AUTH_WPA_ENABLED`. -/
def setWpaEnabled (req : AssocRequest) (value : UInt32) : AssocRequest :=
  if value ≠ 0 then
    if req.secinfo.wpaEnabled || req.secinfo.wpa2Enabled then req
    else
      { req with
        secinfo := withoutWep { req.secinfo with wpaEnabled := true, wpa2Enabled := true } }
  else req.disableWpa

/-- `lbs_set_auth` on the request, by the index of the parameter: the numbers are those of
`IW_AUTH_*`. Most of the known parameters are not used. -/
def setAuth (req : AssocRequest) (flags : UInt16) (value : UInt32) : Setting :=
  let updated (req : AssocRequest) : AssocRequest :=
    { req with flags := { req.flags with secinfo := true } }
  match (flags &&& iwAuthIndex).toNat with
  | 0 => { ret := 0, req := updated (req.setWpaVersion value), accesses := [] }
  | 1 | 2 | 3 | 4 | 5 => { ret := 0, req := req, accesses := [] }
  | 6 =>
      match req.setAuthAlg value with
      | some set => { ret := 0, req := updated set, accesses := [] }
      | none => { ret := -eInval, req := req, accesses := [] }
  | 7 => { ret := 0, req := updated (req.setWpaEnabled value), accesses := [] }
  | _ => { ret := -eOpNotSupp, req := req, accesses := [] }

/-- `lbs_set_freq` on the request, with the mantissa `m` and the exponent `e`. -/
def setFreq (req : AssocRequest) (tables : ChannelTables) (m : Int) (e : Int) : Setting :=
  let failed : Setting := { ret := -eInval, req := req, accesses := [] }
  let byChannel (m : Int) (e : Int) : Setting :=
    if 1000 < m ∨ 0 < e then failed
    else
      match tables.lbsFindCfpByBandAndChannel 0 (UInt16.ofInt m) with
      | none => failed
      | some _ =>
          { ret := 0
            req := { req with
              channel := UInt8.ofInt m
              flags := { req.flags with channel := true } }
            accesses := [] }
  if e = 1 then
    match tables.findCfpByBandAndFreq 0 (UInt32.ofInt (m.tdiv 100000)) with
    | none => failed
    | some cfp => byChannel cfp.channel.toNat 0
  else byChannel m e

end AssocRequest

namespace AssocPriv

/-- A setter gets the request, or creates one, and changes it. It postpones the association
work when all is well, and otherwise cancels it. -/
def withRequest (priv : AssocPriv) (alloc : Bool) (set : AssocRequest → Setting) :
    Int × AssocPriv :=
  match priv.lbsGetAssociationRequest alloc with
  | (none, priv) => (-eNoMem, priv.lbsCancelAssociationWork)
  | (some req, priv) =>
      let result := set req
      let priv := { priv with pendingAssocReq := some result.req }.visit result.accesses
      (result.ret,
        if result.ret = 0 then priv.lbsPostponeAssociationWork else priv.lbsCancelAssociationWork)

/-- `lbs_set_essid`. The length is checked before the request is asked for. -/
def lbsSetEssid (priv : AssocPriv) (alloc : Bool) (dwrq : IwPoint) : Int × AssocPriv :=
  if iwEssidMaxSize < dwrq.length.toNat then (-e2Big, priv.lbsCancelAssociationWork)
  else
    let ssid := if dwrq.flags = 0 then [] else dwrq.bytes dwrq.length.toNat
    priv.withRequest alloc fun req =>
      { ret := 0
        req := { req with
          ssid := ssid ++ List.replicate (iwEssidMaxSize - ssid.length) 0
          ssidLen := if dwrq.flags = 0 then 0 else dwrq.length.toUInt8
          flags := { req.flags with ssid := true } }
        accesses := [] }

/-- `lbs_set_wap`, for an address of any family. -/
def lbsSetWap (priv : AssocPriv) (alloc ether : Bool) (bssid : List UInt8) : Int × AssocPriv :=
  if ether then
    priv.withRequest alloc fun req =>
      { ret := 0
        req := { req with bssid := bssid, flags := { req.flags with bssid := true } }
        accesses := [] }
  else (-eInval, priv)

/-- `lbs_set_freq`. -/
def lbsSetFreq (priv : AssocPriv) (alloc : Bool) (m e : Int) : Int × AssocPriv :=
  priv.withRequest alloc (·.setFreq priv.tables m e)

/-- `lbs_set_mode`. The mode is checked before the request is asked for. -/
def lbsSetMode (priv : AssocPriv) (alloc : Bool) (mode : UInt32) : Int × AssocPriv :=
  if mode = iwModeAdhoc.toUInt32 ∨ mode = iwModeInfra.toUInt32 ∨ mode = iwModeAuto.toUInt32 then
    priv.withRequest alloc fun req =>
      { ret := 0
        req := { req with mode := mode.toUInt8, flags := { req.flags with mode := true } }
        accesses := [] }
  else (-eInval, priv)

/-- `lbs_set_encode`. -/
def lbsSetEncode (priv : AssocPriv) (alloc : Bool) (dwrq : IwPoint) : Int × AssocPriv :=
  priv.withRequest alloc (·.setEncode dwrq)

/-- `lbs_set_encodeext`. -/
def lbsSetEncodeext (priv : AssocPriv) (alloc : Bool) (dwrq : IwPoint) (ext : IwEncodeExt) :
    Int × AssocPriv :=
  priv.withRequest alloc (·.setEncodeext dwrq ext)

/-- `lbs_set_genie`. -/
def lbsSetGenie (priv : AssocPriv) (alloc : Bool) (dwrq : IwPoint) : Int × AssocPriv :=
  priv.withRequest alloc (·.setGenie dwrq)

/-- `lbs_set_auth`. For a parameter that is not supported it neither postpones nor cancels the
association work. -/
def lbsSetAuth (priv : AssocPriv) (alloc : Bool) (flags : UInt16) (value : UInt32) :
    Int × AssocPriv :=
  match priv.lbsGetAssociationRequest alloc with
  | (none, priv) => (-eNoMem, priv.lbsCancelAssociationWork)
  | (some req, priv) =>
      let result := req.setAuth flags value
      let priv := { priv with pendingAssocReq := some result.req }.visit result.accesses
      (result.ret,
        if result.ret = 0 then priv.lbsPostponeAssociationWork
        else if result.ret ≠ -eOpNotSupp then priv.lbsCancelAssociationWork
        else priv)

end AssocPriv

/-- A call of a setter ioctl, with its data. -/
inductive SetterCall
  | essid (dwrq : IwPoint)
  | wap (ether : Bool) (bssid : List UInt8)
  | freq (m e : Int)
  | mode (mode : UInt32)
  | encode (dwrq : IwPoint)
  | encodeext (dwrq : IwPoint) (ext : IwEncodeExt)
  | genie (dwrq : IwPoint)
  | auth (flags : UInt16) (value : UInt32)
deriving DecidableEq, Repr

/-- The call returns, with the outcome of `kzalloc` for a new request. -/
def AssocPriv.call (priv : AssocPriv) (alloc : Bool) : SetterCall → Int × AssocPriv
  | .essid dwrq => priv.lbsSetEssid alloc dwrq
  | .wap ether bssid => priv.lbsSetWap alloc ether bssid
  | .freq m e => priv.lbsSetFreq alloc m e
  | .mode mode => priv.lbsSetMode alloc mode
  | .encode dwrq => priv.lbsSetEncode alloc dwrq
  | .encodeext dwrq ext => priv.lbsSetEncodeext alloc dwrq ext
  | .genie dwrq => priv.lbsSetGenie alloc dwrq
  | .auth flags value => priv.lbsSetAuth alloc flags value

end Libertas
