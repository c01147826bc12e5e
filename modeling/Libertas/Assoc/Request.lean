import Libertas.Dev
import Libertas.Region
import Libertas.Workqueue

/-!
# Association requests

The setter ioctls collect their settings in `pending_assoc_req`. A flag of the
request says that an attribute was set; attributes without a flag are copied
from the current configuration each time a setter asks for the request. The
association worker takes the request half a second after the last setter.

`keyAccesses` is not in the source: it lists the indices at which `wep_keys` of
a request or of the private structure was read or written, newest first.
-/

namespace Libertas

/-- `struct enc_key`. -/
structure EncKey where
  len : UInt16
  flags : UInt16
  type : UInt16
  key : List UInt8
deriving DecidableEq, Repr

/-- A cleared key. -/
def EncKey.zero : EncKey :=
  { len := 0, flags := 0, type := 0, key := List.replicate 32 0 }

/-- The bytes of a key, and zeros behind them. -/
def EncKey.padded (key : List UInt8) : List UInt8 :=
  key ++ List.replicate (32 - key.length) 0

/-- `struct lbs_802_11_security`. -/
structure Security where
  wpaEnabled : Bool
  wpa2Enabled : Bool
  wepEnabled : Bool
  authMode : UInt8
deriving DecidableEq, Repr

/-- The `ASSOC_FLAG_*` bits. -/
structure AssocFlags where
  ssid : Bool
  channel : Bool
  band : Bool
  mode : Bool
  bssid : Bool
  wepKeys : Bool
  wepTxKeyidx : Bool
  wpaMcastKey : Bool
  wpaUcastKey : Bool
  secinfo : Bool
  wpaIe : Bool
deriving DecidableEq, Repr

/-- The four WEP keys. -/
abbrev WepKeys := Vector EncKey 4

/-- `struct assoc_request`, without the BSS that the worker chooses. -/
structure AssocRequest where
  flags : AssocFlags
  ssid : List UInt8
  ssidLen : UInt8
  channel : UInt8
  band : UInt8
  mode : UInt8
  bssid : List UInt8
  wepKeys : WepKeys
  wepTxKeyidx : UInt16
  wpaMcastKey : EncKey
  wpaUnicastKey : EncKey
  secinfo : Security
  wpaIe : List UInt8
  wpaIeLen : UInt8
deriving DecidableEq, Repr

/-- A request as `kzalloc` makes it. -/
def AssocRequest.zero : AssocRequest :=
  { flags :=
      { ssid := false, channel := false, band := false, mode := false, bssid := false
        wepKeys := false, wepTxKeyidx := false, wpaMcastKey := false, wpaUcastKey := false
        secinfo := false, wpaIe := false }
    ssid := List.replicate iwEssidMaxSize 0, ssidLen := 0, channel := 0, band := 0, mode := 0
    bssid := List.replicate ethAlen 0, wepKeys := Vector.replicate 4 .zero, wepTxKeyidx := 0
    wpaMcastKey := .zero, wpaUnicastKey := .zero
    secinfo := { wpaEnabled := false, wpa2Enabled := false, wepEnabled := false, authMode := 0 }
    wpaIe := List.replicate maxWpaIeLen 0, wpaIeLen := 0 }

/-- `struct current_bss_params`, without the rates. -/
structure CurrentBssParams where
  bssid : List UInt8
  ssid : List UInt8
  ssidLen : UInt8
  band : UInt8
  channel : UInt8
deriving DecidableEq, Repr

/-- The part of `struct lbs_private` that association requests use. -/
structure AssocPriv where
  surpriseremoved : Bool
  assocWork : DelayedWork
  pendingAssocReq : Option AssocRequest
  inProgressAssocReq : Option AssocRequest
  curbssparams : CurrentBssParams
  mode : UInt8
  secinfo : Security
  wepKeys : WepKeys
  wepTxKeyidx : UInt16
  wpaMcastKey : EncKey
  wpaUnicastKey : EncKey
  wpaIe : List UInt8
  wpaIeLen : UInt8
  tables : ChannelTables
  keyAccesses : List Nat
deriving DecidableEq, Repr

/-- `KEY_LEN_WEP_40` and `KEY_LEN_WEP_104`. -/
def keyLenWep40 : UInt16 := 5
def keyLenWep104 : UInt16 := 13

/-- `KEY_LEN_WPA_TKIP` and `KEY_LEN_WPA_AES`. -/
def keyLenWpaTkip : UInt16 := 32
def keyLenWpaAes : UInt16 := 16

/-- `enum KEY_TYPE_ID`. -/
def keyTypeIdWep : UInt16 := 0
def keyTypeIdTkip : UInt16 := 1
def keyTypeIdAes : UInt16 := 2

/-- `enum KEY_INFO_WPA`. -/
def keyInfoWpaMcast : UInt16 := 1
def keyInfoWpaUnicast : UInt16 := 2
def keyInfoWpaEnabled : UInt16 := 4

/-- The values of `auth_mode`. -/
def iwAuthAlgOpenSystem : UInt8 := 1
def iwAuthAlgSharedKey : UInt8 := 2
def iwAuthAlgLeap : UInt8 := 4

/-- `IW_MODE_AUTO`. -/
def iwModeAuto : UInt8 := 0

/-- The driver after start-up, before any setting, with the given channel tables. -/
def AssocPriv.fresh (tables : ChannelTables) : AssocPriv :=
  { surpriseremoved := false, assocWork := .idle, pendingAssocReq := none
    inProgressAssocReq := none
    curbssparams :=
      { bssid := List.replicate ethAlen 0, ssid := List.replicate iwEssidMaxSize 0, ssidLen := 0
        band := 0, channel := 6 }
    mode := iwModeInfra
    secinfo :=
      { wpaEnabled := false, wpa2Enabled := false, wepEnabled := false
        authMode := iwAuthAlgOpenSystem }
    wepKeys := Vector.replicate 4 .zero, wepTxKeyidx := 0, wpaMcastKey := .zero
    wpaUnicastKey := .zero, wpaIe := List.replicate maxWpaIeLen 0, wpaIeLen := 0
    tables := tables, keyAccesses := [] }

/-- All four keys, as the loops over them visit the array. -/
def allKeys : List Nat := [3, 2, 1, 0]

namespace AssocRequest

/-- Attributes without a flag follow the current configuration. -/
def refresh (req : AssocRequest) (priv : AssocPriv) : AssocRequest :=
  { req with
    ssid := if req.flags.ssid then req.ssid else priv.curbssparams.ssid
    ssidLen := if req.flags.ssid then req.ssidLen else priv.curbssparams.ssidLen
    channel := if req.flags.channel then req.channel else priv.curbssparams.channel
    band := if req.flags.band then req.band else priv.curbssparams.band
    mode := if req.flags.mode then req.mode else priv.mode
    bssid := if req.flags.bssid then req.bssid else priv.curbssparams.bssid
    wepKeys := if req.flags.wepKeys then req.wepKeys else priv.wepKeys
    wepTxKeyidx := if req.flags.wepTxKeyidx then req.wepTxKeyidx else priv.wepTxKeyidx
    wpaMcastKey := if req.flags.wpaMcastKey then req.wpaMcastKey else priv.wpaMcastKey
    wpaUnicastKey := if req.flags.wpaUcastKey then req.wpaUnicastKey else priv.wpaUnicastKey
    secinfo := if req.flags.secinfo then req.secinfo else priv.secinfo
    wpaIe := if req.flags.wpaIe then req.wpaIe else priv.wpaIe
    wpaIeLen := if req.flags.wpaIe then req.wpaIeLen else priv.wpaIeLen }

/-- `disable_wep`. It visits all keys. -/
def disableWep (req : AssocRequest) : AssocRequest :=
  { req with
    secinfo := { req.secinfo with authMode := iwAuthAlgOpenSystem, wepEnabled := false }
    wepKeys := req.wepKeys.map ({ · with len := 0 })
    flags := { req.flags with secinfo := true, wepKeys := true } }

/-- `disable_wpa`. -/
def disableWpa (req : AssocRequest) : AssocRequest :=
  { req with
    wpaMcastKey := { EncKey.zero with flags := keyInfoWpaMcast }
    wpaUnicastKey := { EncKey.zero with flags := keyInfoWpaUnicast }
    secinfo := { req.secinfo with wpaEnabled := false, wpa2Enabled := false }
    flags := { req.flags with wpaMcastKey := true, wpaUcastKey := true, secinfo := true } }

end AssocRequest

namespace AssocPriv

/-- `lbs_postpone_association_work`. -/
def lbsPostponeAssociationWork (priv : AssocPriv) : AssocPriv :=
  if priv.surpriseremoved then priv
  else { priv with assocWork := priv.assocWork.cancelDelayedWork.queueDelayedWork }

/-- `lbs_cancel_association_work`. -/
def lbsCancelAssociationWork (priv : AssocPriv) : AssocPriv :=
  { priv with assocWork := priv.assocWork.cancelDelayedWork, pendingAssocReq := none }

/-- Some elements of `wep_keys` were visited. -/
def visit (priv : AssocPriv) (accesses : List Nat) : AssocPriv :=
  { priv with keyAccesses := accesses ++ priv.keyAccesses }

/-- `lbs_get_association_request`; `alloc` is the outcome of `kzalloc`. -/
def lbsGetAssociationRequest (priv : AssocPriv) (alloc : Bool) :
    Option AssocRequest × AssocPriv :=
  match priv.pendingAssocReq with
  | some req =>
      let refreshed := req.refresh priv
      (some refreshed, { priv with pendingAssocReq := some refreshed }.visit
        (if req.flags.wepKeys then [] else allKeys))
  | none =>
      if alloc then
        let refreshed := AssocRequest.zero.refresh priv
        (some refreshed, { priv with pendingAssocReq := some refreshed }.visit allKeys)
      else (none, priv)

end AssocPriv

end Libertas
