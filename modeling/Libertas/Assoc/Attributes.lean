import Libertas.Assoc.WepStore

/-!
# What the setters do to the attributes of a request

A setter changes some attributes of the request that it was given and marks them
with a flag; it leaves the others as they were. What it puts into an attribute
about security depends on the call and on the attributes about security that the
request had before, and on nothing else of the request.
-/

namespace Libertas

/-- The attributes about security that the worker copies to the private structure. -/
inductive SecurityAttr
  | wepKeys
  | wepTxKeyidx
  | secinfo
  | wpaIe
deriving DecidableEq, Repr

/-- The values of such an attribute. An information element comes with its length. -/
def SecurityAttr.Value : SecurityAttr → Type
  | .wepKeys => WepKeys
  | .wepTxKeyidx => UInt16
  | .secinfo => Security
  | .wpaIe => List UInt8 × UInt8

/-- The attributes that choose the network. -/
inductive NetworkAttr
  | ssid
  | bssid
  | channel
  | mode
deriving DecidableEq, Repr

/-- The values of such an attribute. An SSID comes with its length. -/
def NetworkAttr.Value : NetworkAttr → Type
  | .ssid => List UInt8 × UInt8
  | .bssid => List UInt8
  | .channel | .mode => UInt8

/-- The WPA keys, which the worker only sends to the firmware. -/
inductive WpaKeyAttr
  | wpaMcastKey
  | wpaUnicastKey
deriving DecidableEq, Repr

namespace AssocRequest

/-- An attribute of the request. -/
def get (req : AssocRequest) : (attr : SecurityAttr) → attr.Value
  | .wepKeys => req.wepKeys
  | .wepTxKeyidx => req.wepTxKeyidx
  | .secinfo => req.secinfo
  | .wpaIe => (req.wpaIe.take req.wpaIeLen.toNat, req.wpaIeLen)

/-- The flag of an attribute. -/
def marked (req : AssocRequest) : SecurityAttr → Bool
  | .wepKeys => req.flags.wepKeys
  | .wepTxKeyidx => req.flags.wepTxKeyidx
  | .secinfo => req.flags.secinfo
  | .wpaIe => req.flags.wpaIe

/-- An attribute of the request that chooses the network. -/
def network (req : AssocRequest) : (attr : NetworkAttr) → attr.Value
  | .ssid => (req.ssid, req.ssidLen)
  | .bssid => req.bssid
  | .channel => req.channel
  | .mode => req.mode

/-- Such an attribute, if it is marked. -/
def asked (req : AssocRequest) : (attr : NetworkAttr) → Option attr.Value
  | .ssid => if req.flags.ssid then some (req.ssid, req.ssidLen) else none
  | .bssid => if req.flags.bssid then some req.bssid else none
  | .channel => if req.flags.channel then some req.channel else none
  | .mode => if req.flags.mode then some req.mode else none

/-- The information element as it is in memory, and its flag. -/
def element (req : AssocRequest) : List UInt8 × UInt8 × Bool :=
  (req.wpaIe, req.wpaIeLen, req.flags.wpaIe)

/-- A WPA key of the request, if it is marked. -/
def wpaKey (req : AssocRequest) : WpaKeyAttr → Option EncKey
  | .wpaMcastKey => if req.flags.wpaMcastKey then some req.wpaMcastKey else none
  | .wpaUnicastKey => if req.flags.wpaUcastKey then some req.wpaUnicastKey else none

/-- The buffer holds the whole information element. -/
def Fits (req : AssocRequest) : Prop :=
  (req.wpaIe.take req.wpaIeLen.toNat).length = req.wpaIeLen.toNat

end AssocRequest

/-- An attribute of the current network. -/
def AssocPriv.network (priv : AssocPriv) : (attr : NetworkAttr) → attr.Value
  | .ssid => (priv.curbssparams.ssid, priv.curbssparams.ssidLen)
  | .bssid => priv.curbssparams.bssid
  | .channel => priv.curbssparams.channel
  | .mode => priv.mode

/-- An attribute of the private structure. -/
def AssocPriv.get (priv : AssocPriv) : (attr : SecurityAttr) → attr.Value
  | .wepKeys => priv.wepKeys
  | .wepTxKeyidx => priv.wepTxKeyidx
  | .secinfo => priv.secinfo
  | .wpaIe => (priv.wpaIe.take priv.wpaIeLen.toNat, priv.wpaIeLen)

/-- The data are as long as the ioctl says. -/
def SetterCall.wellFormed : SetterCall → Prop
  | .encodeext dwrq _ => dwrq.length ≠ 0
  | .genie dwrq => dwrq.length.toNat ≤ (dwrq.extra.getD []).length
  | _ => True

instance : (call : SetterCall) → Decidable call.wellFormed
  | .encodeext dwrq _ => inferInstanceAs (Decidable (dwrq.length ≠ 0))
  | .genie dwrq => inferInstanceAs (Decidable (dwrq.length.toNat ≤ (dwrq.extra.getD []).length))
  | .essid _ | .wap _ _ | .freq _ _ | .mode _ | .encode _ | .auth _ _ => .isTrue trivial

section Settings

variable {req other : AssocRequest} {dwrq : IwPoint}

/-- Two requests have the same WEP keys, transmit key and security information. -/
structure Alike (req other : AssocRequest) : Prop where
  wepKeys : req.wepKeys = other.wepKeys
  wepTxKeyidx : req.wepTxKeyidx = other.wepTxKeyidx
  secinfo : req.secinfo = other.secinfo

/-- Two settings end in the same way and leave the same behind. -/
structure EndAlike (set other : Setting) : Prop where
  ret : set.ret = other.ret
  alike : Alike set.req other.req

theorem storeWepKey_alike (alike : Alike req other) {index : UInt16} {bound : index.toNat < 4}
    (pkey : EncKey) (setTxKey : Bool) :
    EndAlike (req.storeWepKey index bound pkey setTxKey)
      (other.storeWepKey index bound pkey setTxKey) := by
  obtain ⟨keys, index', secinfo⟩ := alike
  unfold AssocRequest.storeWepKey
  dsimp only
  split
  · exact ⟨rfl, by rw [keys], index', secinfo⟩
  · exact ⟨rfl, by rw [keys], by rw [index'], by rw [secinfo]⟩

theorem lbsSetWepKey_alike (alike : Alike req other) (keyMaterial : List UInt8)
    (keyLength index : UInt16) (setTxKey : Bool) :
    EndAlike (req.lbsSetWepKey keyMaterial keyLength index setTxKey)
      (other.lbsSetWepKey keyMaterial keyLength index setTxKey) := by
  unfold AssocRequest.lbsSetWepKey
  split
  · split
    · exact ⟨rfl, alike⟩
    · simp only [alike.wepKeys]
      exact storeWepKey_alike alike _ _
  · exact ⟨rfl, alike⟩

theorem restrict_alike (alike : Alike req other) (flags : UInt16) :
    Alike (req.restrict flags) (other.restrict flags) := by
  obtain ⟨keys, index, secinfo⟩ := alike
  unfold AssocRequest.restrict
  split
  · exact ⟨keys, index, by rw [secinfo]⟩
  · split
    · exact ⟨keys, index, by rw [secinfo]⟩
    · exact ⟨keys, index, secinfo⟩

theorem setWepKey_alike (alike : Alike req other) (key : List UInt8) (keyLength : UInt16)
    (force : Bool) :
    EndAlike (req.setWepKey dwrq key keyLength force)
      (other.setWepKey dwrq key keyLength force) := by
  unfold AssocRequest.setWepKey
  rw [alike.wepTxKeyidx, alike.secinfo]
  split
  · exact ⟨rfl, alike⟩
  · rename_i index isDefault _
    dsimp only
    obtain ⟨ret, set⟩ := lbsSetWepKey_alike alike key keyLength index
      (!other.secinfo.wepEnabled || dwrq.length = 0 && !isDefault || force)
    rw [ret]
    split
    · exact ⟨ret, set⟩
    · obtain ⟨keys, index', secinfo⟩ := restrict_alike set dwrq.flags
      exact ⟨rfl, keys, index', secinfo⟩

theorem disableWep_alike (alike : Alike req other) : Alike req.disableWep other.disableWep := by
  obtain ⟨keys, index, secinfo⟩ := alike
  unfold AssocRequest.disableWep
  exact ⟨by rw [keys], index, by rw [secinfo]⟩

theorem disableWpa_alike (alike : Alike req other) : Alike req.disableWpa other.disableWpa := by
  obtain ⟨keys, index, secinfo⟩ := alike
  unfold AssocRequest.disableWpa
  exact ⟨keys, index, by rw [secinfo]⟩

theorem disable_alike (alike : Alike req other) : EndAlike req.disable other.disable :=
  ⟨rfl, disableWpa_alike (disableWep_alike alike)⟩

theorem setEncode_alike (alike : Alike req other) :
    EndAlike (req.setEncode dwrq) (other.setEncode dwrq) := by
  unfold AssocRequest.setEncode
  split
  · exact disable_alike alike
  · exact setWepKey_alike alike _ _ _

theorem setWpaKey_alike (alike : Alike req other) (ext : IwEncodeExt) :
    Alike (req.setWpaKey ext) (other.setWpaKey ext) := by
  have stored : Alike
      (req.storeWpaKey (ext.extFlags &&& iwEncodeExtGroupKey ≠ 0) (AssocRequest.wpaKeyOf ext))
      (other.storeWpaKey (ext.extFlags &&& iwEncodeExtGroupKey ≠ 0)
        (AssocRequest.wpaKeyOf ext)) := by
    obtain ⟨keys, index, secinfo⟩ := alike
    unfold AssocRequest.storeWpaKey
    split <;> exact ⟨keys, index, secinfo⟩
  obtain ⟨keys, index, secinfo⟩ := stored
  unfold AssocRequest.setWpaKey AssocRequest.enableWpa
  rw [secinfo]
  split
  · exact ⟨keys, index, secinfo⟩
  · exact ⟨keys, index, rfl⟩

theorem setEncodeext_alike (alike : Alike req other) (ext : IwEncodeExt) :
    EndAlike (req.setEncodeext dwrq ext) (other.setEncodeext dwrq ext) := by
  unfold AssocRequest.setEncodeext
  split
  · exact disable_alike alike
  split
  · exact setWepKey_alike alike _ _ _
  split
  · split
    · exact ⟨rfl, alike⟩
    · exact ⟨rfl, disableWep_alike (setWpaKey_alike alike ext)⟩
  · exact ⟨rfl, alike⟩

theorem applyIf_alike {change : AssocRequest → AssocRequest} (alike : Alike req other)
    (wanted : Bool)
    (changed : ∀ {req other}, Alike req other → Alike (change req) (change other)) :
    Alike (req.applyIf wanted change) (other.applyIf wanted change) := by
  unfold AssocRequest.applyIf
  split
  · exact changed alike
  · exact alike

theorem setWpaVersion_alike (alike : Alike req other) (value : UInt32) :
    Alike (req.setWpaVersion value) (other.setWpaVersion value) := by
  rw [AssocRequest.setWpaVersion]
  refine applyIf_alike (applyIf_alike (applyIf_alike alike _ disableWpa_alike) _ ?_) _ ?_
  · rintro req other ⟨keys, index, secinfo⟩
    exact ⟨keys, index, by rw [AssocRequest.useWpa, AssocRequest.useWpa, secinfo]⟩
  · rintro req other ⟨keys, index, secinfo⟩
    exact ⟨keys, index, by rw [AssocRequest.useWpa2, AssocRequest.useWpa2, secinfo]⟩

theorem setWpaEnabled_alike (alike : Alike req other) (value : UInt32) :
    Alike (req.setWpaEnabled value) (other.setWpaEnabled value) := by
  unfold AssocRequest.setWpaEnabled
  rw [alike.secinfo]
  split
  · split
    · exact alike
    · exact ⟨alike.wepKeys, alike.wepTxKeyidx, rfl⟩
  · exact disableWpa_alike alike

theorem setAuth_alike (alike : Alike req other) (flags : UInt16) (value : UInt32) :
    EndAlike (req.setAuth flags value) (other.setAuth flags value) := by
  unfold AssocRequest.setAuth
  dsimp only
  split
  · obtain ⟨keys, index, secinfo⟩ := setWpaVersion_alike alike value
    exact ⟨rfl, keys, index, secinfo⟩
  case h_7 =>
    obtain ⟨keys, index, secinfo⟩ := alike
    unfold AssocRequest.setAuthAlg
    rw [secinfo]
    split_ifs
    all_goals first
      | exact ⟨rfl, keys, index, rfl⟩
      | exact ⟨rfl, keys, index, secinfo⟩
  case h_8 =>
    obtain ⟨keys, index, secinfo⟩ := setWpaEnabled_alike alike value
    exact ⟨rfl, keys, index, secinfo⟩
  all_goals exact ⟨rfl, alike⟩

/-- A setting about keys and security leaves the network and the information element alone. -/
structure Apart (req after : AssocRequest) : Prop where
  network : after.network = req.network
  asked : after.asked = req.asked
  element : after.element = req.element

theorem Apart.refl (req : AssocRequest) : Apart req req :=
  ⟨rfl, rfl, rfl⟩

theorem Apart.trans {middle : AssocRequest} (first : Apart req middle)
    (second : Apart middle other) : Apart req other :=
  ⟨second.network.trans first.network, second.asked.trans first.asked,
    second.element.trans first.element⟩

/-- A setting about WEP leaves the WPA keys alone as well. -/
structure WepOnly (req after : AssocRequest) : Prop extends Apart req after where
  wpaKey : after.wpaKey = req.wpaKey

theorem WepOnly.refl (req : AssocRequest) : WepOnly req req :=
  ⟨.refl req, rfl⟩

theorem WepOnly.trans {middle : AssocRequest} (first : WepOnly req middle)
    (second : WepOnly middle other) : WepOnly req other :=
  ⟨first.toApart.trans second.toApart, second.wpaKey.trans first.wpaKey⟩

theorem disableWep_wepOnly (req : AssocRequest) : WepOnly req req.disableWep :=
  ⟨⟨rfl, rfl, rfl⟩, rfl⟩

theorem disableWpa_apart (req : AssocRequest) : Apart req req.disableWpa :=
  ⟨rfl, rfl, rfl⟩

theorem storeWepKey_wepOnly (req : AssocRequest) (index : UInt16) (bound : index.toNat < 4)
    (pkey : EncKey) (setTxKey : Bool) :
    WepOnly req (req.storeWepKey index bound pkey setTxKey).req := by
  rw [AssocRequest.storeWepKey]
  dsimp only
  split <;> exact ⟨⟨rfl, rfl, rfl⟩, rfl⟩

theorem lbsSetWepKey_wepOnly (req : AssocRequest) (keyMaterial : List UInt8)
    (keyLength index : UInt16) (setTxKey : Bool) :
    WepOnly req (req.lbsSetWepKey keyMaterial keyLength index setTxKey).req := by
  rw [AssocRequest.lbsSetWepKey]
  split
  · split
    · exact .refl req
    · exact storeWepKey_wepOnly req _ _ _ _
  · exact .refl req

theorem restrict_wepOnly (req : AssocRequest) (flags : UInt16) :
    WepOnly req (req.restrict flags) := by
  rw [AssocRequest.restrict]
  split
  · exact ⟨⟨rfl, rfl, rfl⟩, rfl⟩
  · split
    · exact ⟨⟨rfl, rfl, rfl⟩, rfl⟩
    · exact .refl req

theorem setWepKey_wepOnly (req : AssocRequest) (dwrq : IwPoint) (key : List UInt8)
    (keyLength : UInt16) (force : Bool) :
    WepOnly req (req.setWepKey dwrq key keyLength force).req := by
  rw [AssocRequest.setWepKey]
  split
  · exact .refl req
  · rename_i index isDefault _
    dsimp only
    have set := lbsSetWepKey_wepOnly req key keyLength index
      (!req.secinfo.wepEnabled || dwrq.length = 0 && !isDefault || force)
    split
    · exact set
    · obtain ⟨⟨network, asked, element⟩, wpaKey⟩ := set.trans (restrict_wepOnly _ dwrq.flags)
      exact ⟨⟨network, asked, element⟩, wpaKey⟩

theorem setEncode_apart (req : AssocRequest) (dwrq : IwPoint) :
    Apart req (req.setEncode dwrq).req := by
  rw [AssocRequest.setEncode]
  split
  · exact (disableWep_wepOnly req).toApart.trans (disableWpa_apart _)
  · exact (setWepKey_wepOnly req _ _ _ _).toApart

theorem setWpaKey_apart (req : AssocRequest) (ext : IwEncodeExt) :
    Apart req (req.setWpaKey ext) := by
  rw [AssocRequest.setWpaKey, AssocRequest.storeWpaKey, AssocRequest.enableWpa]
  split <;> split <;> exact ⟨rfl, rfl, rfl⟩

theorem setEncodeext_apart (req : AssocRequest) (dwrq : IwPoint) (ext : IwEncodeExt) :
    Apart req (req.setEncodeext dwrq ext).req := by
  rw [AssocRequest.setEncodeext]
  split
  · exact (disableWep_wepOnly req).toApart.trans (disableWpa_apart _)
  split
  · exact (setWepKey_wepOnly req _ _ _ _).toApart
  split
  · split
    · exact .refl req
    · exact (setWpaKey_apart req ext).trans (disableWep_wepOnly _).toApart
  · exact .refl req

theorem setAuth_apart (req : AssocRequest) (flags : UInt16) (value : UInt32) :
    Apart req (req.setAuth flags value).req := by
  have version : Apart req (req.setWpaVersion value) := by
    unfold AssocRequest.setWpaVersion AssocRequest.applyIf
    split_ifs <;> exact ⟨rfl, rfl, rfl⟩
  have enabled : Apart req (req.setWpaEnabled value) := by
    rw [AssocRequest.setWpaEnabled]
    split_ifs <;> exact ⟨rfl, rfl, rfl⟩
  rw [AssocRequest.setAuth]
  dsimp only
  split
  · exact ⟨version.network, version.asked, version.element⟩
  case h_7 =>
    rw [AssocRequest.setAuthAlg]
    split_ifs <;> exact ⟨rfl, rfl, rfl⟩
  case h_8 => exact ⟨enabled.network, enabled.asked, enabled.element⟩
  all_goals exact .refl req

theorem setGenie_ret (req other : AssocRequest) (dwrq : IwPoint) :
    (req.setGenie dwrq).ret = (other.setGenie dwrq).ret := by
  unfold AssocRequest.setGenie
  split <;> rfl

/-- An element that is long enough is the one of the request. -/
theorem setGenie_success (enough : dwrq.length.toNat ≤ (dwrq.extra.getD []).length)
    (success : (req.setGenie dwrq).ret = 0) :
    (req.setGenie dwrq).req.get .wpaIe =
        (dwrq.bytes dwrq.length.toNat, dwrq.length.toUInt8) ∧
      (dwrq.bytes dwrq.length.toNat).length = dwrq.length.toUInt8.toNat := by
  rw [AssocRequest.setGenie] at success ⊢
  split at success
  · cases success
  · rename_i fits
    rw [if_neg fits]
    have short : dwrq.length.toNat ≤ 64 := by
      rw [not_or] at fits
      exact Nat.le_of_not_lt fits.1
    have small : dwrq.length.toUInt8.toNat = dwrq.length.toNat := by
      rw [UInt16.toNat_toUInt8]
      omega
    have length : (dwrq.bytes dwrq.length.toNat).length = dwrq.length.toNat := by
      rw [IwPoint.bytes]
      rw [List.length_take, Nat.min_eq_left enough]
    refine ⟨?_, length.trans small.symm⟩
    dsimp only [AssocRequest.get]
    rw [small]
    split
    · exact Prod.ext (List.take_left' length) rfl
    · rename_i empty
      rw [not_not] at empty
      rw [empty]
      rfl

theorem setGenie_network (req : AssocRequest) (dwrq : IwPoint) :
    (req.setGenie dwrq).req.network = req.network ∧
      (req.setGenie dwrq).req.asked = req.asked := by
  rw [AssocRequest.setGenie]
  split <;> exact ⟨rfl, rfl⟩

theorem setGenie_alike (alike : Alike req other) :
    Alike (req.setGenie dwrq).req (other.setGenie dwrq).req := by
  obtain ⟨keys, index, secinfo⟩ := alike
  unfold AssocRequest.setGenie
  split <;> exact ⟨keys, index, secinfo⟩

/-- What is not marked afterwards was not marked before, and is as it was. -/
def Marks (req after : AssocRequest) : Prop :=
  ∀ attr, after.marked attr = false → req.marked attr = false ∧ after.get attr = req.get attr

theorem Marks.refl (req : AssocRequest) : Marks req req :=
  fun _ unmarked => ⟨unmarked, rfl⟩

theorem Marks.trans {middle : AssocRequest} (first : Marks req middle)
    (second : Marks middle other) : Marks req other := by
  intro attr unmarked
  obtain ⟨before, same⟩ := second attr unmarked
  obtain ⟨start, same'⟩ := first attr before
  exact ⟨start, same.trans same'⟩

theorem Apart.wpaIe (apart : Apart req other) :
    other.get .wpaIe = req.get .wpaIe ∧ other.marked .wpaIe = req.marked .wpaIe := by
  have element := apart.element
  rw [AssocRequest.element] at element
  obtain ⟨bytes, rest⟩ := Prod.mk.inj element
  obtain ⟨length, flag⟩ := Prod.mk.inj rest
  constructor
  · dsimp only [AssocRequest.get]
    rw [bytes, length]
  · exact flag

/-- A setting about keys and security marks what it changes, if it does so for the attributes
other than the information element. -/
theorem Apart.marks (apart : Apart req other)
    (wepKeys : other.flags.wepKeys = false →
      req.flags.wepKeys = false ∧ other.wepKeys = req.wepKeys)
    (wepTxKeyidx : other.flags.wepTxKeyidx = false →
      req.flags.wepTxKeyidx = false ∧ other.wepTxKeyidx = req.wepTxKeyidx)
    (secinfo : other.flags.secinfo = true) : Marks req other := by
  intro attr unmarked
  cases attr with
  | wepKeys => exact wepKeys unmarked
  | wepTxKeyidx => exact wepTxKeyidx unmarked
  | secinfo => exact absurd secinfo (Bool.eq_false_iff.mp unmarked)
  | wpaIe =>
      obtain ⟨same, flag⟩ := apart.wpaIe
      exact ⟨flag ▸ unmarked, same⟩

theorem disableWep_marks (req : AssocRequest) : Marks req req.disableWep :=
  (disableWep_wepOnly req).toApart.marks nofun (fun unmarked => ⟨unmarked, rfl⟩) rfl

theorem disable_marks (req : AssocRequest) : Marks req req.disable.req :=
  (disableWep_marks req).trans
    ((disableWpa_apart _).marks (fun unmarked => ⟨unmarked, rfl⟩)
      (fun unmarked => ⟨unmarked, rfl⟩) rfl)

theorem setWepKey_marks {key : List UInt8} {keyLength : UInt16} {force : Bool}
    (flagged : dwrq.length = 0 → keyLength = 0)
    (success : (req.setWepKey dwrq key keyLength force).ret = 0) :
    Marks req (req.setWepKey dwrq key keyLength force).req := by
  obtain ⟨index, setTxKey, stored⟩ := setWepKey_success success
  refine (setWepKey_wepOnly req dwrq key keyLength force).toApart.marks (stored.unset flagged)
    stored.indexUnset ?_
  rw [stored.flags]

theorem setEncode_marks (success : (req.setEncode dwrq).ret = 0) :
    Marks req (req.setEncode dwrq).req := by
  rw [AssocRequest.setEncode] at success ⊢
  split
  · exact disable_marks req
  · rename_i enabled
    rw [if_neg enabled] at success
    exact setWepKey_marks id success

theorem setWpaKey_marks (req : AssocRequest) (ext : IwEncodeExt) :
    Marks req (req.setWpaKey ext).disableWep := by
  refine ((setWpaKey_apart req ext).trans (disableWep_wepOnly _).toApart).marks nofun ?_ rfl
  rw [AssocRequest.setWpaKey, AssocRequest.storeWpaKey, AssocRequest.enableWpa]
  split <;> split <;> exact fun unmarked => ⟨unmarked, rfl⟩

theorem setEncodeext_marks (ext : IwEncodeExt) (complete : dwrq.length ≠ 0)
    (success : (req.setEncodeext dwrq ext).ret = 0) :
    Marks req (req.setEncodeext dwrq ext).req := by
  rw [AssocRequest.setEncodeext] at success ⊢
  split
  · exact disable_marks req
  rename_i used
  rw [if_neg used] at success
  split
  · rename_i wep
    rw [if_pos wep] at success
    exact setWepKey_marks (fun empty => absurd empty complete) success
  split
  · split
    · exact .refl req
    · exact setWpaKey_marks req ext
  · exact .refl req

theorem setAuth_marks (req : AssocRequest) (flags : UInt16) (value : UInt32) :
    Marks req (req.setAuth flags value).req := by
  rcases setAuth_lowered req flags value with same | ⟨lowered, marked⟩
  · rw [same]
    exact .refl req
  · refine (setAuth_apart req flags value).marks ?_ ?_ marked
    · exact fun unmarked => ⟨lowered.keysSet ▸ unmarked, lowered.keys⟩
    · exact fun unmarked => ⟨lowered.indexSet ▸ unmarked, lowered.index⟩

theorem setGenie_marks (success : (req.setGenie dwrq).ret = 0) :
    Marks req (req.setGenie dwrq).req := by
  intro attr unmarked
  rw [AssocRequest.setGenie] at success unmarked ⊢
  split at success
  · cases success
  · rename_i fits
    rw [if_neg fits] at unmarked ⊢
    cases attr with
    | wpaIe => cases unmarked
    | wepKeys => exact ⟨unmarked, rfl⟩
    | wepTxKeyidx => exact ⟨unmarked, rfl⟩
    | secinfo => exact ⟨unmarked, rfl⟩

/-- `lbs_set_freq` fails for every request, or sets the same channel in every request. -/
theorem setFreq_cases (tables : ChannelTables) (m e : Int) :
    (∀ req : AssocRequest,
        req.setFreq tables m e = { ret := -eInval, req := req, accesses := [] }) ∨
      ∃ channel, ∀ req : AssocRequest, req.setFreq tables m e =
        { ret := 0
          req := { req with channel := channel, flags := { req.flags with channel := true } }
          accesses := [] } := by
  unfold AssocRequest.setFreq
  dsimp only
  repeat' split
  all_goals first
    | exact .inl fun _ => rfl
    | exact .inr ⟨_, fun _ => rfl⟩

end Settings

section Agreement

variable {tables : ChannelTables} {call : SetterCall} {req other : AssocRequest}

/-- Requests that agree about security have the same attributes. -/
theorem get_eq {req other : AssocRequest} (alike : Alike req other)
    (element : req.get .wpaIe = other.get .wpaIe) : req.get = other.get := by
  funext attr
  cases attr with
  | wepKeys => exact alike.wepKeys
  | wepTxKeyidx => exact alike.wepTxKeyidx
  | secinfo => exact alike.secinfo
  | wpaIe => exact element

theorem alike_of_get (same : req.get = other.get) : Alike req other :=
  ⟨congrFun same .wepKeys, congrFun same .wepTxKeyidx, congrFun same .secinfo⟩

/-- What a call puts into the attributes about security is the same for requests that agree
about them. -/
theorem setting_agrees (tables : ChannelTables) (wellFormed : call.wellFormed)
    (same : req.get = other.get) :
    (call.setting tables req).ret = (call.setting tables other).ret ∧
      ((call.setting tables req).ret = 0 →
        (call.setting tables req).req.get = (call.setting tables other).req.get) := by
  have alike := alike_of_get same
  -- The settings about keys and security leave the element of both requests alone.
  have apart : ∀ {set : AssocRequest → Setting}, EndAlike (set req) (set other) →
      (∀ req, Apart req (set req).req) →
      (set req).ret = (set other).ret ∧ ((set req).ret = 0 →
        (set req).req.get = (set other).req.get) := by
    intro set ends apart
    refine ⟨ends.ret, fun _ => get_eq ends.alike ?_⟩
    rw [(apart req).wpaIe.1, (apart other).wpaIe.1, same]
  cases call with
  | essid dwrq => exact ⟨rfl, fun _ => same⟩
  | wap ether bssid => exact ⟨rfl, fun _ => same⟩
  | freq m e =>
      rcases setFreq_cases tables m e with failed | ⟨channel, set⟩
      · simp only [SetterCall.setting, failed]
        exact ⟨trivial, fun _ => same⟩
      · simp only [SetterCall.setting, set]
        exact ⟨trivial, fun _ => same⟩
  | mode value => exact ⟨rfl, fun _ => same⟩
  | encode dwrq => exact apart (setEncode_alike alike) fun req => setEncode_apart req dwrq
  | encodeext dwrq ext =>
      exact apart (setEncodeext_alike alike ext) fun req => setEncodeext_apart req dwrq ext
  | genie dwrq =>
      refine ⟨setGenie_ret req other dwrq, fun success => ?_⟩
      have success' : (other.setGenie dwrq).ret = 0 :=
        (setGenie_ret other req dwrq).trans success
      apply get_eq (setGenie_alike alike)
      exact (setGenie_success wellFormed success).1.trans
        (setGenie_success wellFormed success').1.symm
  | auth flags value =>
      exact apart (setAuth_alike alike flags value) fun req => setAuth_apart req flags value

/-- A successful call marks what it changes. -/
theorem setting_marks (wellFormed : call.wellFormed)
    (success : (call.setting tables req).ret = 0) :
    Marks req (call.setting tables req).req := by
  cases call with
  | essid dwrq => exact .refl req
  | wap ether bssid => exact .refl req
  | freq m e =>
      rcases setFreq_cases tables m e with failed | ⟨channel, set⟩
      · simp only [SetterCall.setting, failed]
        exact .refl req
      · simp only [SetterCall.setting, set]
        exact .refl req
  | mode value => exact .refl req
  | encode dwrq => exact setEncode_marks success
  | encodeext dwrq ext => exact setEncodeext_marks ext wellFormed success
  | genie dwrq => exact setGenie_marks success
  | auth flags value => exact setAuth_marks req flags value

/-- One attribute is asked for. -/
structure Asks (req after : AssocRequest) (attr : NetworkAttr) (value : attr.Value) : Prop where
  network : after.network = Function.update req.network attr value
  asked : after.asked = Function.update req.asked attr (some value)

theorem Asks.agree {after after' : AssocRequest} {attr : NetworkAttr} {value : attr.Value}
    (first : Asks req after attr value) (second : Asks other after' attr value)
    (network : req.network = other.network) (asked : req.asked = other.asked) :
    after.network = after'.network ∧ after.asked = after'.asked := by
  rw [first.network, first.asked, second.network, second.asked, network, asked]
  exact ⟨rfl, rfl⟩

theorem asks_ssid (req : AssocRequest) (ssid : List UInt8) (ssidLen : UInt8) :
    Asks req { req with ssid := ssid, ssidLen := ssidLen, flags := { req.flags with ssid := true } }
      .ssid (ssid, ssidLen) := by
  constructor <;> funext attr <;> cases attr <;> rfl

theorem asks_bssid (req : AssocRequest) (bssid : List UInt8) :
    Asks req { req with bssid := bssid, flags := { req.flags with bssid := true } }
      .bssid bssid := by
  constructor <;> funext attr <;> cases attr <;> rfl

theorem asks_channel (req : AssocRequest) (channel : UInt8) :
    Asks req { req with channel := channel, flags := { req.flags with channel := true } }
      .channel channel := by
  constructor <;> funext attr <;> cases attr <;> rfl

theorem asks_mode (req : AssocRequest) (value : UInt8) :
    Asks req { req with mode := value, flags := { req.flags with mode := true } }
      .mode value := by
  constructor <;> funext attr <;> cases attr <;> rfl

/-- The attributes that choose the network become the same in requests that agree about
them. -/
theorem setting_network (tables : ChannelTables) (call : SetterCall)
    (network : req.network = other.network) (asked : req.asked = other.asked) :
    (call.setting tables req).req.network = (call.setting tables other).req.network ∧
      (call.setting tables req).req.asked = (call.setting tables other).req.asked := by
  have apart : ∀ {set : AssocRequest → Setting}, (∀ req, Apart req (set req).req) →
      (set req).req.network = (set other).req.network ∧
        (set req).req.asked = (set other).req.asked := by
    intro set apart
    rw [(apart req).network, (apart req).asked, (apart other).network, (apart other).asked]
    exact ⟨network, asked⟩
  cases call with
  | essid dwrq => exact (asks_ssid req _ _).agree (asks_ssid other _ _) network asked
  | wap ether bssid => exact (asks_bssid req bssid).agree (asks_bssid other bssid) network asked
  | freq m e =>
      rcases setFreq_cases tables m e with failed | ⟨channel, set⟩
      · simp only [SetterCall.setting, failed]
        exact ⟨network, asked⟩
      · simp only [SetterCall.setting, set]
        exact (asks_channel req channel).agree (asks_channel other channel) network asked
  | mode value => exact (asks_mode req _).agree (asks_mode other _) network asked
  | encode dwrq => exact apart fun req => setEncode_apart req dwrq
  | encodeext dwrq ext => exact apart fun req => setEncodeext_apart req dwrq ext
  | genie dwrq =>
      simp only [SetterCall.setting, (setGenie_network _ dwrq).1, (setGenie_network _ dwrq).2]
      exact ⟨network, asked⟩
  | auth flags value => exact apart fun req => setAuth_apart req flags value

/-- A call sets a WPA key, the same one in every request, or leaves it. -/
def SetsWpaKey (set : AssocRequest → AssocRequest) (attr : WpaKeyAttr) : Prop :=
  ∃ key : Option EncKey, ∀ req, (set req).wpaKey attr = key.or (req.wpaKey attr)

theorem SetsWpaKey.of_eq {set : AssocRequest → AssocRequest} {attr : WpaKeyAttr}
    (same : ∀ req, (set req).wpaKey = req.wpaKey) : SetsWpaKey set attr :=
  ⟨none, fun req => congrFun (same req) attr⟩

theorem SetsWpaKey.comp {set set' : AssocRequest → AssocRequest} {attr : WpaKeyAttr}
    (first : SetsWpaKey set attr) (second : SetsWpaKey set' attr) :
    SetsWpaKey (fun req => set' (set req)) attr := by
  obtain ⟨key, first⟩ := first
  obtain ⟨key', second⟩ := second
  refine ⟨key'.or key, fun req => ?_⟩
  rw [second, first, Option.or_assoc]

theorem disableWpa_wpaKey (attr : WpaKeyAttr) : SetsWpaKey AssocRequest.disableWpa attr := by
  cases attr with
  | wpaMcastKey => exact ⟨some _, fun _ => rfl⟩
  | wpaUnicastKey => exact ⟨some _, fun _ => rfl⟩

theorem disable_wpaKey (attr : WpaKeyAttr) : SetsWpaKey (·.disable.req) attr :=
  SetsWpaKey.comp (.of_eq fun req => (disableWep_wepOnly req).wpaKey) (disableWpa_wpaKey attr)

theorem setWpaKey_wpaKey (ext : IwEncodeExt) (attr : WpaKeyAttr) :
    SetsWpaKey (·.setWpaKey ext) attr := by
  have enable : ∀ req : AssocRequest, req.enableWpa.wpaKey = req.wpaKey := by
    intro req
    rw [AssocRequest.enableWpa]
    split <;> rfl
  refine SetsWpaKey.comp ?_ (.of_eq enable)
  unfold AssocRequest.storeWpaKey
  cases decide (ext.extFlags &&& iwEncodeExtGroupKey ≠ 0) with
  | true =>
      cases attr with
      | wpaMcastKey => exact ⟨some _, fun _ => rfl⟩
      | wpaUnicastKey => exact ⟨none, fun _ => rfl⟩
  | false =>
      cases attr with
      | wpaMcastKey => exact ⟨none, fun _ => rfl⟩
      | wpaUnicastKey => exact ⟨some _, fun _ => rfl⟩

theorem setEncodeext_wpaKey (dwrq : IwPoint) (ext : IwEncodeExt) (attr : WpaKeyAttr) :
    SetsWpaKey (fun req => (req.setEncodeext dwrq ext).req) attr := by
  unfold AssocRequest.setEncodeext
  split
  · exact disable_wpaKey attr
  split
  · exact .of_eq fun req => (setWepKey_wepOnly req _ _ _ _).wpaKey
  split
  · split
    · exact .of_eq fun _ => rfl
    · exact (setWpaKey_wpaKey ext attr).comp (.of_eq fun req => (disableWep_wepOnly req).wpaKey)
  · exact .of_eq fun _ => rfl

theorem applyIf_wpaKey {change : AssocRequest → AssocRequest} {attr : WpaKeyAttr}
    (wanted : Bool) (changed : SetsWpaKey change attr) :
    SetsWpaKey (·.applyIf wanted change) attr := by
  cases wanted with
  | false => exact .of_eq fun _ => rfl
  | true => exact changed

theorem setAuth_wpaKey (flags : UInt16) (value : UInt32) (attr : WpaKeyAttr) :
    SetsWpaKey (fun req => (req.setAuth flags value).req) attr := by
  have useWpa : SetsWpaKey AssocRequest.useWpa attr := .of_eq fun _ => rfl
  have useWpa2 : SetsWpaKey AssocRequest.useWpa2 attr := .of_eq fun _ => rfl
  have version : SetsWpaKey (·.setWpaVersion value) attr :=
    ((applyIf_wpaKey _ (disableWpa_wpaKey attr)).comp (applyIf_wpaKey _ useWpa)).comp
      (applyIf_wpaKey _ useWpa2)
  have enabled : SetsWpaKey (·.setWpaEnabled value) attr := by
    unfold AssocRequest.setWpaEnabled
    split
    · refine .of_eq fun req => ?_
      split <;> rfl
    · exact disableWpa_wpaKey attr
  unfold AssocRequest.setAuth
  dsimp only
  split
  · exact version
  case h_7 =>
    refine .of_eq fun req => ?_
    rw [AssocRequest.setAuthAlg]
    split_ifs <;> rfl
  case h_8 => exact enabled
  all_goals exact .of_eq fun _ => rfl

/-- What a call does to the WPA keys. -/
theorem setting_wpaKey (tables : ChannelTables) (call : SetterCall) (attr : WpaKeyAttr) :
    SetsWpaKey (fun req => (call.setting tables req).req) attr := by
  cases call with
  | essid dwrq => exact .of_eq fun _ => rfl
  | wap ether bssid => exact .of_eq fun _ => rfl
  | freq m e =>
      rcases setFreq_cases tables m e with failed | ⟨channel, set⟩
      · simp only [SetterCall.setting, failed]
        exact .of_eq fun _ => rfl
      · simp only [SetterCall.setting, set]
        exact .of_eq fun _ => rfl
  | mode value => exact .of_eq fun _ => rfl
  | encode dwrq =>
      simp only [SetterCall.setting, AssocRequest.setEncode]
      split
      · exact disable_wpaKey attr
      · exact .of_eq fun req => (setWepKey_wepOnly req _ _ _ _).wpaKey
  | encodeext dwrq ext => exact setEncodeext_wpaKey dwrq ext attr
  | genie dwrq =>
      refine .of_eq fun req => ?_
      simp only [SetterCall.setting, AssocRequest.setGenie]
      split <;> rfl
  | auth flags value => exact setAuth_wpaKey flags value attr

theorem fits_of_get (same : req.get .wpaIe = other.get .wpaIe) (fits : other.Fits) : req.Fits := by
  obtain ⟨bytes, length⟩ := Prod.mk.inj same
  rw [AssocRequest.Fits] at fits ⊢
  rw [bytes, length]
  exact fits

/-- The element of a request keeps fitting into the buffer. -/
theorem setting_fits (wellFormed : call.wellFormed)
    (success : (call.setting tables req).ret = 0) (fits : req.Fits) :
    (call.setting tables req).req.Fits := by
  cases call with
  | essid dwrq => exact fits
  | wap ether bssid => exact fits
  | freq m e =>
      rcases setFreq_cases tables m e with failed | ⟨channel, set⟩
      · simp only [SetterCall.setting, failed]
        exact fits
      · simp only [SetterCall.setting, set]
        exact fits
  | mode value => exact fits
  | encode dwrq => exact fits_of_get (setEncode_apart req dwrq).wpaIe.1 fits
  | encodeext dwrq ext => exact fits_of_get (setEncodeext_apart req dwrq ext).wpaIe.1 fits
  | genie dwrq =>
      obtain ⟨element, length⟩ := setGenie_success wellFormed success
      obtain ⟨bytes, announced⟩ := Prod.mk.inj element
      show ((req.setGenie dwrq).req.wpaIe.take (req.setGenie dwrq).req.wpaIeLen.toNat).length =
        (req.setGenie dwrq).req.wpaIeLen.toNat
      rw [bytes, announced]
      exact length
  | auth flags value => exact fits_of_get (setAuth_apart req flags value).wpaIe.1 fits

end Agreement

section Refresh

variable (req : AssocRequest) (priv : AssocPriv)

theorem refresh_get (attr : SecurityAttr) :
    (req.refresh priv).get attr = if req.marked attr then req.get attr else priv.get attr := by
  rw [AssocRequest.refresh]
  cases attr with
  | wepKeys => rfl
  | wepTxKeyidx => rfl
  | secinfo => rfl
  | wpaIe =>
      have flag : req.marked .wpaIe = req.flags.wpaIe := rfl
      rw [flag]
      dsimp only [AssocRequest.get]
      cases req.flags.wpaIe <;> rfl

theorem refresh_network (attr : NetworkAttr) :
    (req.refresh priv).network attr = (req.asked attr).getD (priv.network attr) := by
  rw [AssocRequest.refresh]
  cases attr <;>
  · dsimp only [AssocRequest.network, AssocRequest.asked]
    split <;> rfl

theorem refresh_asked : (req.refresh priv).asked = req.asked := by
  rw [AssocRequest.refresh]
  funext attr
  cases attr <;>
  · dsimp only [AssocRequest.asked]
    split <;> rfl

theorem refresh_wpaKey : (req.refresh priv).wpaKey = req.wpaKey := by
  rw [AssocRequest.refresh]
  funext attr
  cases attr <;>
  · dsimp only [AssocRequest.wpaKey]
    split <;> rfl

end Refresh

end Libertas
