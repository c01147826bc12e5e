import Libertas.Assoc.Calls
import Libertas.Assoc.KeyIndex

/-!
# The store of the WEP keys

The setters standardise the lengths of WEP keys, and let a key become the
transmit key only when it is set. A request carries keys, transmit key and
security information from the private structure, and a flag for each that was
set. While the worker still applies an earlier request, this is not what the
private structure is going to hold.
-/

namespace Libertas

/-- What a request says about WEP. -/
structure RequestWep where
  keys : WepKeys
  index : UInt16
  secinfo : Security
  keysSet : Bool
  indexSet : Bool
  secinfoSet : Bool

def AssocRequest.wep (req : AssocRequest) : RequestWep :=
  { keys := req.wepKeys, index := req.wepTxKeyidx, secinfo := req.secinfo
    keysSet := req.flags.wepKeys, indexSet := req.flags.wepTxKeyidx
    secinfoSet := req.flags.secinfo }

/-- The lengths that the firmware takes. -/
def StandardLength (len : UInt16) : Prop :=
  len = 0 ∨ len = keyLenWep40 ∨ len = keyLenWep104

/-- All keys have such a length, and the transmit key is one of them. -/
structure StandardKeys (keys : WepKeys) (index : UInt16) : Prop where
  lengths : ∀ key ∈ keys, StandardLength key.len
  index : index.toNat < 4

/-- The key that packets are encrypted with. -/
def txKey (keys : WepKeys) (index : UInt16) : EncKey :=
  if bound : index.toNat < 4 then keys[index.toNat] else .zero

/-- When WEP is enabled there is a key to transmit with. -/
def TxKeyPresent (keys : WepKeys) (index : UInt16) (secinfo : Security) : Prop :=
  secinfo.wepEnabled = true → (txKey keys index).len ≠ 0

/-- What was not set is what the private structure holds. -/
structure Follows (wep : RequestWep) (priv : AssocPriv) : Prop where
  keys : wep.keysSet = false → wep.keys = priv.wepKeys
  index : wep.indexSet = false → wep.index = priv.wepTxKeyidx
  secinfo : wep.secinfoSet = false → wep.secinfo = priv.secinfo

/-- A request that can be applied to the private structure. -/
structure Applicable (priv : AssocPriv) (wep : RequestWep) : Prop where
  present : TxKeyPresent wep.keys wep.index wep.secinfo
  follows : Follows wep priv

section Keys

variable {keys : WepKeys} {index : UInt16}

theorem standardLength_wepKey {old : EncKey} (standard : StandardLength old.len)
    (keyMaterial : List UInt8) (keyLength : UInt16) :
    StandardLength (AssocRequest.wepKey old keyMaterial keyLength).len := by
  rw [AssocRequest.wepKey]
  split
  · show StandardLength (if keyLenWep40 < keyLength then keyLenWep104 else keyLenWep40)
    split
    · exact .inr (.inr rfl)
    · exact .inr (.inl rfl)
  · exact standard

theorem wepKey_len_ne_zero {old : EncKey} (present : old.len ≠ 0) (keyMaterial : List UInt8)
    (keyLength : UInt16) : (AssocRequest.wepKey old keyMaterial keyLength).len ≠ 0 := by
  rw [AssocRequest.wepKey]
  split
  · show (if keyLenWep40 < keyLength then keyLenWep104 else keyLenWep40) ≠ 0
    split <;> decide
  · exact present

theorem standardLength_set {bound : index.toNat < 4} {key : EncKey}
    (standard : ∀ key ∈ keys, StandardLength key.len) (new : StandardLength key.len) :
    ∀ other ∈ keys.set index.toNat key, StandardLength other.len := by
  intro other member
  rcases Vector.mem_or_eq_of_mem_set member with old | rfl
  · exact standard other old
  · exact new

theorem standardLength_clear : ∀ key ∈ keys.map ({ · with len := 0 }), StandardLength key.len := by
  intro key member
  obtain ⟨old, _, rfl⟩ := Vector.mem_map.mp member
  exact .inl rfl

theorem txKey_of_lt (bound : index.toNat < 4) : txKey keys index = keys[index.toNat] :=
  dif_pos bound

theorem txKey_set (bound : index.toNat < 4) (key : EncKey) (other : UInt16) :
    txKey (keys.set index.toNat key) other =
      if other = index then key else txKey keys other := by
  by_cases inside : other.toNat < 4
  · rw [txKey_of_lt inside, txKey_of_lt inside, Vector.getElem_set]
    by_cases same : other = index
    · rw [if_pos same, if_pos (by rw [same])]
    · rw [if_neg same, if_neg (fun equal => same (UInt16.toNat_inj.mp equal.symm))]
  · have different : other ≠ index := by
      rintro rfl
      exact inside bound
    rw [if_neg different, txKey, txKey, dif_neg inside, dif_neg inside]

/-- Keys of standard lengths are all that `lbs_cmd_802_11_set_wep` is given. -/
theorem validWepKeys_of_standard {req : AssocRequest}
    (standard : ∀ key ∈ req.wepKeys, StandardLength key.len) : req.validWepKeys = true := by
  rw [AssocRequest.validWepKeys]
  rw [Vector.all_eq_true]
  intro i bound
  have key := standard _ (Vector.getElem_mem bound)
  simpa [StandardLength, or_assoc] using key

end Keys

section Settings

variable {req : AssocRequest} {priv : AssocPriv} {dwrq : IwPoint}

theorem wep_restrict (req : AssocRequest) (flags : UInt16) :
    (req.restrict flags).wepKeys = req.wepKeys ∧
      (req.restrict flags).wepTxKeyidx = req.wepTxKeyidx ∧
      (req.restrict flags).secinfo.wepEnabled = req.secinfo.wepEnabled ∧
      (req.restrict flags).flags = req.flags := by
  rw [AssocRequest.restrict]
  split
  · exact ⟨rfl, rfl, rfl, rfl⟩
  · split <;> exact ⟨rfl, rfl, rfl, rfl⟩

theorem storeWepKey_lengths {index : UInt16} {bound : index.toNat < 4} {pkey : EncKey}
    (standard : ∀ key ∈ req.wepKeys, StandardLength key.len) (new : StandardLength pkey.len)
    (setTxKey : Bool) :
    ∀ key ∈ (req.storeWepKey index bound pkey setTxKey).req.wepKeys, StandardLength key.len := by
  have stored : ∀ key ∈ req.wepKeys.set index.toNat pkey, StandardLength key.len :=
    standardLength_set standard new
  rw [AssocRequest.storeWepKey]
  dsimp only
  split <;> exact stored

theorem lbsSetWepKey_lengths (standard : ∀ key ∈ req.wepKeys, StandardLength key.len)
    (keyMaterial : List UInt8) (keyLength index : UInt16) (setTxKey : Bool) :
    ∀ key ∈ (req.lbsSetWepKey keyMaterial keyLength index setTxKey).req.wepKeys,
      StandardLength key.len := by
  rw [AssocRequest.lbsSetWepKey]
  split
  · split
    · exact standard
    · exact storeWepKey_lengths standard
        (standardLength_wepKey (standard _ (Vector.getElem_mem _)) _ _) _
  · exact standard

theorem setWepKey_lengths (standard : ∀ key ∈ req.wepKeys, StandardLength key.len)
    (key : List UInt8) (keyLength : UInt16) (force : Bool) :
    ∀ other ∈ (req.setWepKey dwrq key keyLength force).req.wepKeys,
      StandardLength other.len := by
  rw [AssocRequest.setWepKey]
  split
  · exact standard
  · rename_i index isDefault _
    dsimp only
    have set := lbsSetWepKey_lengths standard key keyLength index
      (!req.secinfo.wepEnabled || dwrq.length = 0 && !isDefault || force)
    split
    · exact set
    · dsimp only
      rw [(wep_restrict _ _).1]
      exact set

/-- A key that was stored, and may transmit if it was to. -/
theorem storeWepKey_success {index : UInt16} {bound : index.toNat < 4} {pkey : EncKey}
    {setTxKey : Bool} (success : (req.storeWepKey index bound pkey setTxKey).ret = 0) :
    (setTxKey = true → pkey.len ≠ 0) ∧
      (req.storeWepKey index bound pkey setTxKey).req =
        { req with
          wepKeys := req.wepKeys.set index.toNat pkey
          wepTxKeyidx := if setTxKey then index else req.wepTxKeyidx
          secinfo := { req.secinfo with wepEnabled := true } } := by
  rw [AssocRequest.storeWepKey] at success ⊢
  dsimp only at success ⊢
  split at success
  · cases success
  · rename_i taken
    refine ⟨?_, by rw [if_neg taken]⟩
    rintro rfl
    simpa using taken

/-- There is a key to transmit with after another key was stored. -/
theorem txKey_stored {keys : WepKeys} {old index : UInt16} {pkey : EncKey} {setTxKey : Bool}
    (bound : index.toNat < 4) (chosen : setTxKey = true → pkey.len ≠ 0)
    (kept : setTxKey = false → (txKey keys old).len ≠ 0)
    (longEnough : (txKey keys index).len ≠ 0 → pkey.len ≠ 0) :
    (txKey (keys.set index.toNat pkey) (if setTxKey then index else old)).len ≠ 0 := by
  rw [txKey_set bound]
  cases setTxKey with
  | true => simpa using chosen rfl
  | false =>
      simp only [Bool.false_eq_true, if_false]
      split
      · rename_i same
        exact longEnough (same ▸ kept rfl)
      · exact kept rfl

/-- A key is stored in a request. -/
structure KeyStored (req : AssocRequest) (dwrq : IwPoint) (key : List UInt8)
    (keyLength : UInt16) (after : AssocRequest) (index : UInt16) (setTxKey : Bool) : Prop where
  bound : index.toNat < 4
  /-- Only a request with WEP enabled keeps its transmit key. -/
  kept : setTxKey = false → req.secinfo.wepEnabled = true
  mayTransmit : setTxKey = true →
    (AssocRequest.wepKey req.wepKeys[index.toNat] key keyLength).len ≠ 0
  keys : after.wepKeys =
    req.wepKeys.set index.toNat (AssocRequest.wepKey req.wepKeys[index.toNat] key keyLength)
  index : after.wepTxKeyidx = if setTxKey then index else req.wepTxKeyidx
  flags : after.flags =
    { req.flags with
      secinfo := true
      wepKeys := req.flags.wepKeys || dwrq.length ≠ 0
      wepTxKeyidx := req.flags.wepTxKeyidx || setTxKey }

theorem setWepKey_success {key : List UInt8} {keyLength : UInt16} {force : Bool}
    (success : (req.setWepKey dwrq key keyLength force).ret = 0) :
    ∃ index setTxKey, KeyStored req dwrq key keyLength
      (req.setWepKey dwrq key keyLength force).req index setTxKey := by
  rw [AssocRequest.setWepKey] at success ⊢
  split at success
  · cases success
  rename_i index isDefault _
  dsimp only at success ⊢
  generalize chosen : (!req.secinfo.wepEnabled || dwrq.length = 0 && !isDefault || force) =
    setTxKey at success ⊢
  rw [AssocRequest.lbsSetWepKey] at success ⊢
  split at success
  on_goal 2 => cases success
  rename_i bound
  split at success
  · cases success
  rename_i short
  rw [dif_pos bound, if_neg short]
  split at success
  · rename_i refused
    exact absurd success refused
  rename_i stored
  obtain ⟨mayTransmit, result⟩ := storeWepKey_success (not_not.mp stored)
  rw [if_neg stored, result]
  obtain ⟨keys, index', _, flags⟩ := wep_restrict
    { req with
      wepKeys := req.wepKeys.set index.toNat
        (AssocRequest.wepKey req.wepKeys[index.toNat] key keyLength)
      wepTxKeyidx := if setTxKey then index else req.wepTxKeyidx
      secinfo := { req.secinfo with wepEnabled := true } } dwrq.flags
  refine ⟨index, setTxKey, bound, ?_, mayTransmit, keys, index', ?_⟩
  · rintro rfl
    simp only [Bool.or_eq_false_iff, Bool.not_eq_false'] at chosen
    exact chosen.1.1
  · dsimp only
    rw [flags]

/-- Without key data the keys stay as they are. -/
theorem KeyStored.unset {key : List UInt8} {keyLength index : UInt16} {setTxKey : Bool}
    {after : AssocRequest} (stored : KeyStored req dwrq key keyLength after index setTxKey)
    (flagged : dwrq.length = 0 → keyLength = 0) (unset : after.flags.wepKeys = false) :
    req.flags.wepKeys = false ∧ after.wepKeys = req.wepKeys := by
  rw [stored.flags] at unset
  simp only [Bool.or_eq_false_iff, decide_eq_false_iff_not, not_not] at unset
  obtain ⟨before, empty⟩ := unset
  obtain rfl := flagged empty
  have bound := stored.bound
  have same : AssocRequest.wepKey req.wepKeys[index.toNat] key 0 = req.wepKeys[index.toNat] := rfl
  refine ⟨before, ?_⟩
  rw [stored.keys, same]
  exact Vector.set_getElem_self _

/-- Without a new transmit key its index stays as it is. -/
theorem KeyStored.indexUnset {key : List UInt8} {keyLength index : UInt16} {setTxKey : Bool}
    {after : AssocRequest} (stored : KeyStored req dwrq key keyLength after index setTxKey)
    (unset : after.flags.wepTxKeyidx = false) :
    req.flags.wepTxKeyidx = false ∧ after.wepTxKeyidx = req.wepTxKeyidx := by
  rw [stored.flags] at unset
  simp only [Bool.or_eq_false_iff] at unset
  obtain ⟨before, rfl⟩ := unset
  exact ⟨before, stored.index⟩

/-- A stored key keeps the request applicable, unless key data come without a length. -/
theorem setWepKey_applicable {key : List UInt8} {keyLength : UInt16} {force : Bool}
    (applicable : Applicable priv req.wep) (flagged : dwrq.length = 0 → keyLength = 0)
    (success : (req.setWepKey dwrq key keyLength force).ret = 0) :
    Applicable priv (req.setWepKey dwrq key keyLength force).req.wep := by
  obtain ⟨index, setTxKey, stored⟩ := setWepKey_success success
  constructor
  · intro _
    dsimp only [AssocRequest.wep]
    rw [stored.keys, stored.index]
    refine txKey_stored stored.bound stored.mayTransmit ?_ ?_
    · intro old
      exact applicable.present (stored.kept old)
    · rw [txKey_of_lt stored.bound]
      intro present
      exact wepKey_len_ne_zero present _ _
  · refine ⟨?_, ?_, ?_⟩
    · intro unset
      obtain ⟨before, same⟩ := stored.unset flagged unset
      exact same.trans (applicable.follows.keys before)
    · intro unset
      obtain ⟨before, same⟩ := stored.indexUnset unset
      exact same.trans (applicable.follows.index before)
    · intro unset
      dsimp only [AssocRequest.wep] at unset
      rw [stored.flags] at unset
      cases unset

/-- A setting that keeps a property of what a request says about WEP. -/
def KeepsWep (P : RequestWep → Prop) (set : AssocRequest → Setting) : Prop :=
  ∀ req, P req.wep → (set req).ret = 0 → P (set req).req.wep

/-- The settings of a call about WEP keep the property. -/
structure CallKeeps (P : RequestWep → Prop) (call : SetterCall) : Prop where
  encode : ∀ dwrq, call = .encode dwrq → KeepsWep P (·.setEncode dwrq)
  encodeext : ∀ dwrq ext, call = .encodeext dwrq ext → KeepsWep P (·.setEncodeext dwrq ext)
  auth : ∀ flags value, call = .auth flags value → KeepsWep P (·.setAuth flags value)

/-- Standard keys stay standard. -/
def Standard (wep : RequestWep) : Prop :=
  StandardKeys wep.keys wep.index

theorem setEncode_standard (dwrq : IwPoint) : KeepsWep Standard (·.setEncode dwrq) := by
  intro req standard _
  refine ⟨?_, (setEncode_keySafe standard.index).stored⟩
  dsimp only [AssocRequest.wep]
  rw [AssocRequest.setEncode]
  split
  · exact standardLength_clear
  · exact setWepKey_lengths standard.lengths _ _ _

theorem setEncodeext_standard (dwrq : IwPoint) (ext : IwEncodeExt) :
    KeepsWep Standard (·.setEncodeext dwrq ext) := by
  intro req standard _
  refine ⟨?_, (setEncodeext_keySafe standard.index ext).stored⟩
  dsimp only [AssocRequest.wep]
  rw [AssocRequest.setEncodeext]
  split
  · exact standardLength_clear
  · split
    · exact setWepKey_lengths standard.lengths _ _ _
    · split
      · split
        · exact standard.lengths
        · exact standardLength_clear
      · exact standard.lengths

/-- The keys stay, and WEP is not switched on. -/
structure WepLowered (old new : AssocRequest) : Prop where
  keys : new.wepKeys = old.wepKeys
  index : new.wepTxKeyidx = old.wepTxKeyidx
  keysSet : new.flags.wepKeys = old.flags.wepKeys
  indexSet : new.flags.wepTxKeyidx = old.flags.wepTxKeyidx
  enabled : new.secinfo.wepEnabled = true → old.secinfo.wepEnabled = true

theorem WepLowered.refl (req : AssocRequest) : WepLowered req req :=
  ⟨rfl, rfl, rfl, rfl, id⟩

theorem WepLowered.trans {old middle new : AssocRequest} (first : WepLowered old middle)
    (second : WepLowered middle new) : WepLowered old new :=
  { keys := second.keys.trans first.keys
    index := second.index.trans first.index
    keysSet := second.keysSet.trans first.keysSet
    indexSet := second.indexSet.trans first.indexSet
    enabled := fun on => first.enabled (second.enabled on) }

theorem WepLowered.applyIf {change : AssocRequest → AssocRequest} (req : AssocRequest)
    (wanted : Bool) (lowered : ∀ req, WepLowered req (change req)) :
    WepLowered req (req.applyIf wanted change) := by
  cases wanted with
  | false => exact .refl req
  | true => exact lowered req

theorem setWpaVersion_lowered (req : AssocRequest) (value : UInt32) :
    WepLowered req (req.setWpaVersion value) := by
  have first : ∀ req : AssocRequest, WepLowered req req.disableWpa :=
    fun _ => ⟨rfl, rfl, rfl, rfl, id⟩
  have second : ∀ req : AssocRequest, WepLowered req req.useWpa :=
    fun _ => ⟨rfl, rfl, rfl, rfl, nofun⟩
  have third : ∀ req : AssocRequest, WepLowered req req.useWpa2 :=
    fun _ => ⟨rfl, rfl, rfl, rfl, nofun⟩
  exact ((WepLowered.applyIf req _ first).trans (.applyIf _ _ second)).trans (.applyIf _ _ third)

theorem setAuthAlg_lowered {set : AssocRequest} {value : UInt32}
    (known : req.setAuthAlg value = some set) : WepLowered req set := by
  rw [AssocRequest.setAuthAlg] at known
  split at known
  · cases known
    exact ⟨rfl, rfl, rfl, rfl, id⟩
  · split at known
    · cases known
      exact ⟨rfl, rfl, rfl, rfl, id⟩
    · split at known <;> cases known
      exact ⟨rfl, rfl, rfl, rfl, id⟩

theorem setWpaEnabled_lowered (req : AssocRequest) (value : UInt32) :
    WepLowered req (req.setWpaEnabled value) := by
  rw [AssocRequest.setWpaEnabled]
  split
  · split
    · exact .refl req
    · exact ⟨rfl, rfl, rfl, rfl, (by cases ·)⟩
  · exact ⟨rfl, rfl, rfl, rfl, id⟩

/-- What `lbs_set_auth` leaves behind is the request as it was, or one that sets the security
information. -/
theorem setAuth_lowered (req : AssocRequest) (flags : UInt16) (value : UInt32) :
    (req.setAuth flags value).req = req ∨
      WepLowered req (req.setAuth flags value).req ∧
        (req.setAuth flags value).req.flags.secinfo = true := by
  have flagged : ∀ {set : AssocRequest}, WepLowered req set →
      WepLowered req { set with flags := { set.flags with secinfo := true } } :=
    fun lowered => ⟨lowered.keys, lowered.index, lowered.keysSet, lowered.indexSet,
      lowered.enabled⟩
  rw [AssocRequest.setAuth]
  dsimp only
  split
  case h_1 => exact .inr ⟨flagged (setWpaVersion_lowered req value), rfl⟩
  case h_7 =>
      split
      · rename_i known
        exact .inr ⟨flagged (setAuthAlg_lowered known), rfl⟩
      · exact .inl rfl
  case h_8 => exact .inr ⟨flagged (setWpaEnabled_lowered req value), rfl⟩
  all_goals exact .inl rfl

theorem setAuth_standard (flags : UInt16) (value : UInt32) :
    KeepsWep Standard (·.setAuth flags value) := by
  intro req standard _
  rcases setAuth_lowered req flags value with same | ⟨lowered, _⟩
  · rw [same]
    exact standard
  · show StandardKeys _ _
    dsimp only [AssocRequest.wep]
    rw [lowered.keys, lowered.index]
    exact standard

theorem disableWep_applicable (req : AssocRequest)
    (follows : req.flags.wepTxKeyidx = false → req.wepTxKeyidx = priv.wepTxKeyidx) :
    Applicable priv req.disableWep.wep :=
  { present := nofun
    follows := { keys := nofun, index := follows, secinfo := nofun } }

theorem disable_applicable (applicable : Applicable priv req.wep) :
    Applicable priv req.disable.req.wep :=
  { present := nofun
    follows := { keys := nofun, index := applicable.follows.index, secinfo := nofun } }

theorem setEncode_applicable (priv : AssocPriv) (dwrq : IwPoint) :
    KeepsWep (Applicable priv) (·.setEncode dwrq) := by
  intro req applicable success
  dsimp only at success ⊢
  rw [AssocRequest.setEncode] at success ⊢
  split
  · exact disable_applicable applicable
  · rename_i enabled
    rw [if_neg enabled] at success
    exact setWepKey_applicable applicable id success

theorem setEncodeext_applicable (priv : AssocPriv) {dwrq : IwPoint} (ext : IwEncodeExt)
    (given : dwrq.length ≠ 0) : KeepsWep (Applicable priv) (·.setEncodeext dwrq ext) := by
  intro req applicable success
  dsimp only at success ⊢
  rw [AssocRequest.setEncodeext] at success ⊢
  split
  · exact disable_applicable applicable
  · rename_i enabled
    rw [if_neg enabled] at success
    split
    · rename_i wep
      rw [if_pos wep] at success
      exact setWepKey_applicable applicable (fun empty => absurd empty given) success
    · split
      · split
        · exact applicable
        · apply disableWep_applicable _
          have flags : (req.setWpaKey ext).flags.wepTxKeyidx = req.flags.wepTxKeyidx := by
            have enabled : ∀ req : AssocRequest,
                req.enableWpa.flags.wepTxKeyidx = req.flags.wepTxKeyidx := by
              intro req
              rw [AssocRequest.enableWpa]
              split <;> rfl
            rw [AssocRequest.setWpaKey]
            rw [enabled]
            rw [AssocRequest.storeWpaKey]
            split <;> rfl
          rw [flags, setWpaKey_wepTxKeyidx]
          exact applicable.follows.index
      · exact applicable

theorem setAuth_applicable (priv : AssocPriv) (flags : UInt16) (value : UInt32) :
    KeepsWep (Applicable priv) (·.setAuth flags value) := by
  intro req applicable _
  rcases setAuth_lowered req flags value with same | ⟨lowered, set⟩
  · rw [same]
    exact applicable
  · constructor
    · intro on
      dsimp only [AssocRequest.wep]
      rw [lowered.keys, lowered.index]
      exact applicable.present (lowered.enabled on)
    · refine ⟨?_, ?_, ?_⟩
      · dsimp only [AssocRequest.wep]
        rw [lowered.keys, lowered.keysSet]
        exact applicable.follows.keys
      · dsimp only [AssocRequest.wep]
        rw [lowered.index, lowered.indexSet]
        exact applicable.follows.index
      · dsimp only [AssocRequest.wep]
        rw [set]
        nofun

end Settings

section Calls

variable {priv : AssocPriv} {alloc : Bool} {P : RequestWep → Prop}

/-- What a setter leaves alone in the private structure. -/
structure SameStore (priv after : AssocPriv) : Prop where
  keys : after.wepKeys = priv.wepKeys
  index : after.wepTxKeyidx = priv.wepTxKeyidx
  secinfo : after.secinfo = priv.secinfo
  inProgress : after.inProgressAssocReq = priv.inProgressAssocReq

/-- What a setter does to the store: the requests it may leave behind have a property. -/
structure Stores (P : RequestWep → Prop) (priv after : AssocPriv) : Prop extends
    SameStore priv after where
  pending : ∀ req, after.pendingAssocReq = some req → P req.wep

/-- No setter changes the store of the private structure, and the request it leaves behind has
every property that the settings keep. -/
theorem call_stores (pending : ∀ req, priv.pendingAssocReq = some req → P req.wep)
    (refreshed : P ((priv.pendingAssocReq.getD .zero).refresh priv).wep) {call : SetterCall}
    (keeps : CallKeeps P call) : Stores P priv (priv.call alloc call).2 := by
  have setting : (call.setting priv.tables priv.draft).ret = 0 →
      P (call.setting priv.tables priv.draft).req.wep := by
    cases call with
    | essid dwrq => exact fun _ => refreshed
    | wap ether bssid => exact fun _ => refreshed
    | freq m e =>
        have same : (priv.draft.setFreq priv.tables m e).req.wep = priv.draft.wep := by
          rw [AssocRequest.setFreq]
          dsimp only
          repeat' split
          all_goals rfl
        exact fun _ => same ▸ refreshed
    | mode mode => exact fun _ => refreshed
    | encode dwrq => exact keeps.encode dwrq rfl _ refreshed
    | encodeext dwrq ext => exact keeps.encodeext dwrq ext rfl _ refreshed
    | genie dwrq =>
        have same : (priv.draft.setGenie dwrq).req.wep = priv.draft.wep := by
          rw [AssocRequest.setGenie]
          split <;> rfl
        exact fun _ => same ▸ refreshed
    | auth flags value => exact keeps.auth flags value rfl _ refreshed
  have leaves : Leaves (fun req => P req.wep) priv (priv.call alloc call).2 :=
    call_leaves pending refreshed setting
  exact
    { keys := leaves.field AssocPriv.wepKeys
      index := leaves.field AssocPriv.wepTxKeyidx
      secinfo := leaves.field AssocPriv.secinfo
      inProgress := leaves.field AssocPriv.inProgressAssocReq
      pending := leaves.pending }

end Calls

/-- The worker has not copied the WEP keys of its request yet. -/
def AssocPc.beforeKeys : AssocPc → Bool
  | .finding | .mode | .channel | .wepKeys | .wepSent => true
  | .idle | .taking | .secinfo | .rsn | .wpaIe | .wpaKeys | .associating | .ending => false

/-- The worker has no request, or nothing left of it to copy that is about WEP. -/
def AssocPc.pastSecinfo : AssocPc → Bool
  | .idle | .taking | .rsn | .wpaIe | .wpaKeys | .associating | .ending => true
  | .finding | .mode | .channel | .wepKeys | .wepSent | .secinfo => false

/-- The same settings about WEP, of which more may be sent. -/
structure SameWep (old new : RequestWep) : Prop where
  keys : new.keys = old.keys
  index : new.index = old.index
  secinfo : new.secinfo = old.secinfo
  keysSet : new.keysSet = false → old.keysSet = false
  indexSet : new.indexSet = old.indexSet
  secinfoSet : new.secinfoSet = old.secinfoSet

theorem SameWep.refl (wep : RequestWep) : SameWep wep wep :=
  ⟨rfl, rfl, rfl, id, rfl, rfl⟩

theorem SameWep.applicable {old new : RequestWep} {priv : AssocPriv} (same : SameWep old new)
    (applicable : Applicable priv old) : Applicable priv new := by
  constructor
  · intro on
    rw [same.keys, same.index]
    rw [same.secinfo] at on
    exact applicable.present on
  · refine ⟨fun unset => ?_, fun unset => ?_, fun unset => ?_⟩
    · rw [same.keys]
      exact applicable.follows.keys (same.keysSet unset)
    · rw [same.index]
      exact applicable.follows.index (same.indexSet ▸ unset)
    · rw [same.secinfo]
      exact applicable.follows.secinfo (same.secinfoSet ▸ unset)

/-- The keys, the transmit key, the security information and the pending request are the same. -/
structure KeptStore (priv after : AssocPriv) : Prop where
  keys : after.wepKeys = priv.wepKeys
  index : after.wepTxKeyidx = priv.wepTxKeyidx
  secinfo : after.secinfo = priv.secinfo
  pending : after.pendingAssocReq = priv.pendingAssocReq

/-- What a step of the worker with its request does to the store. -/
inductive WepStep (s : AssocSys) (req : AssocRequest) (t : AssocSys) : Prop
  /-- Nothing is copied yet. -/
  | prepare (req' : AssocRequest) (before : s.worker.beforeKeys = true)
      (kept : KeptStore s.priv t.priv) (same : SameWep req.wep req'.wep)
      (inProgress : t.priv.inProgressAssocReq = some req')
      (next : t.worker.beforeKeys = true ∨ t.worker = .ending)
  /-- There are no keys to copy. -/
  | skip (before : s.worker.beforeKeys = true) (kept : KeptStore s.priv t.priv)
      (keysUnset : req.wep.keysSet = false) (indexUnset : req.wep.indexSet = false)
      (inProgress : t.priv.inProgressAssocReq = some req) (next : t.worker = .secinfo)
  /-- The keys and the transmit key are copied. -/
  | copy (before : s.worker.beforeKeys = true) (keys : t.priv.wepKeys = req.wepKeys)
      (index : t.priv.wepTxKeyidx = req.wepTxKeyidx) (secinfo : t.priv.secinfo = s.priv.secinfo)
      (pending : t.priv.pendingAssocReq = s.priv.pendingAssocReq)
      (inProgress : t.priv.inProgressAssocReq = some req) (next : t.worker = .secinfo)
  /-- The security information is copied, if it was set. -/
  | secure (at_secinfo : s.worker = .secinfo) (keys : t.priv.wepKeys = s.priv.wepKeys)
      (index : t.priv.wepTxKeyidx = s.priv.wepTxKeyidx)
      (secinfo : t.priv.secinfo = if req.flags.secinfo then req.secinfo else s.priv.secinfo)
      (pending : t.priv.pendingAssocReq = s.priv.pendingAssocReq)
      (inProgress : t.priv.inProgressAssocReq = some req) (next : t.worker.pastSecinfo = true)
  /-- Nothing about WEP is left. -/
  | finish (past : s.worker.pastSecinfo = true) (kept : KeptStore s.priv t.priv)
      (inProgress : t.priv.inProgressAssocReq = none ∨ t.priv.inProgressAssocReq = some req)
      (next : t.worker.pastSecinfo = true)

section WorkerSteps

variable {s : AssocSys} {req : AssocRequest}

theorem sameWep_foundBest (req : AssocRequest) (ssid : List UInt8) (ssidLen mode : UInt8) :
    SameWep req.wep (req.foundBest ssid ssidLen mode).wep := by
  rw [AssocRequest.foundBest]
  dsimp only
  split <;> exact .refl _

theorem sameWep_channelChanged (req : AssocRequest) :
    SameWep req.wep req.channelChanged.wep := by
  refine ⟨rfl, rfl, rfl, ?_, rfl, rfl⟩
  intro unset
  exact (Bool.or_eq_false_iff.mp unset).1

theorem KeptStore.refl (priv : AssocPriv) : KeptStore priv priv :=
  ⟨rfl, rfl, rfl, rfl⟩

theorem KeptStore.trans {a b c : AssocPriv} (first : KeptStore a b) (second : KeptStore b c) :
    KeptStore a c :=
  ⟨second.keys.trans first.keys, second.index.trans first.index,
    second.secinfo.trans first.secinfo, second.pending.trans first.pending⟩

theorem keptStore_lbsUpdateChannel {priv after : AssocPriv} {answer : Option UInt16}
    (updated : priv.lbsUpdateChannel answer = some after) : KeptStore priv after := by
  cases answer with
  | none => cases updated
  | some channel =>
      obtain rfl := Option.some.inj updated
      dsimp only
      split <;> exact ⟨rfl, rfl, rfl, rfl⟩

theorem keptStore_lbsSetChannel (priv : AssocPriv) (answer : Option UInt16) :
    KeptStore priv (priv.lbsSetChannel answer) := by
  cases answer <;> exact ⟨rfl, rfl, rfl, rfl⟩

theorem assocHelperChannel_wep (priv : AssocPriv) (req : AssocRequest)
    (answers : Option UInt16 × Option UInt16 × Option UInt16) :
    SameWep req.wep (priv.assocHelperChannel req answers).2.1.wep ∧
      KeptStore priv (priv.assocHelperChannel req answers).2.2 := by
  rw [AssocPriv.assocHelperChannel]
  split
  · exact ⟨.refl _, .refl _⟩
  · rename_i updated
    have first := keptStore_lbsUpdateChannel updated
    split
    · exact ⟨.refl _, first⟩
    · have set := first.trans (keptStore_lbsSetChannel _ answers.2.1)
      dsimp only
      split
      · exact ⟨.refl _, set⟩
      · rename_i updated
        have second := set.trans (keptStore_lbsUpdateChannel updated)
        split
        · exact ⟨.refl _, second⟩
        · exact ⟨sameWep_channelChanged req, second.trans ⟨rfl, rfl, rfl, rfl⟩⟩

/-- The worker copies in the order of its places. -/
theorem workerStep_wep (s : AssocSys) (req : AssocRequest) (answers : AssocAnswers)
    (busy : s.worker ≠ .idle ∧ s.worker ≠ .taking) :
    WepStep s req (s.workerStep req answers) := by
  rw [AssocSys.workerStep]
  cases place : s.worker with
  | idle => exact absurd place busy.1
  | taking => exact absurd place busy.2
  | finding =>
      dsimp only
      split
      · split
        · exact .prepare req (by rw [place]; rfl) ⟨rfl, rfl, rfl, rfl⟩ (.refl _) rfl (.inr rfl)
        · exact .prepare _ (by rw [place]; rfl) ⟨rfl, rfl, rfl, rfl⟩
            (sameWep_foundBest req _ _ _) rfl (.inl rfl)
      · exact .prepare req (by rw [place]; rfl) ⟨rfl, rfl, rfl, rfl⟩ (.refl _) rfl (.inl rfl)
  | mode =>
      dsimp only
      split
      · refine .prepare req (by rw [place]; rfl) ⟨rfl, rfl, rfl, rfl⟩ (.refl _) rfl ?_
        cases answers.ok with
        | true => exact .inl rfl
        | false => exact .inr rfl
      · exact .prepare req (by rw [place]; rfl) ⟨rfl, rfl, rfl, rfl⟩ (.refl _) rfl (.inl rfl)
  | channel =>
      dsimp only
      split
      · obtain ⟨same, kept⟩ := assocHelperChannel_wep s.priv req answers.channel
        refine .prepare _ (by rw [place]; rfl)
          ⟨kept.keys, kept.index, kept.secinfo, kept.pending⟩ same rfl ?_
        cases (s.priv.assocHelperChannel req answers.channel).1 with
        | true => exact .inl rfl
        | false => exact .inr rfl
      · exact .prepare req (by rw [place]; rfl) ⟨rfl, rfl, rfl, rfl⟩ (.refl _) rfl (.inl rfl)
  | wepKeys =>
      dsimp only
      split
      · split
        · exact .prepare req (by rw [place]; rfl) ⟨rfl, rfl, rfl, rfl⟩ (.refl _) rfl (.inr rfl)
        · exact .prepare req (by rw [place]; rfl) ⟨rfl, rfl, rfl, rfl⟩ (.refl _) rfl (.inl rfl)
      · rename_i unset
        simp only [Bool.or_eq_true, not_or, Bool.not_eq_true] at unset
        exact .skip (by rw [place]; rfl) ⟨rfl, rfl, rfl, rfl⟩ unset.1 unset.2 rfl rfl
  | wepSent => exact .copy (by rw [place]; rfl) rfl rfl rfl rfl rfl rfl
  | secinfo =>
      dsimp only
      split
      · rename_i set
        exact .secure place rfl rfl (by rw [if_pos set]; rfl) rfl rfl rfl
      · rename_i unset
        exact .secure place rfl rfl (by rw [if_neg unset]; rfl) rfl rfl rfl
  | rsn =>
      refine .finish (by rw [place]; rfl) ⟨rfl, rfl, rfl, rfl⟩ (.inr rfl) ?_
      show (if answers.ok then AssocPc.wpaIe else .ending).pastSecinfo = true
      split <;> rfl
  | wpaIe =>
      have helped : KeptStore s.priv (s.priv.assocHelperWpaIe req) := by
        rw [AssocPriv.assocHelperWpaIe]
        split <;> exact ⟨rfl, rfl, rfl, rfl⟩
      dsimp only
      split
      · exact .finish (by rw [place]; rfl)
          ⟨helped.keys, helped.index, helped.secinfo, helped.pending⟩ (.inr rfl) rfl
      · exact .finish (by rw [place]; rfl) ⟨rfl, rfl, rfl, rfl⟩ (.inr rfl) rfl
  | wpaKeys =>
      dsimp only
      split
      · split
        · exact .finish (by rw [place]; rfl) ⟨rfl, rfl, rfl, rfl⟩ (.inr rfl) rfl
        · exact .finish (by rw [place]; rfl) ⟨rfl, rfl, rfl, rfl⟩ (.inr rfl) rfl
      · exact .finish (by rw [place]; rfl) ⟨rfl, rfl, rfl, rfl⟩ (.inr rfl) rfl
  | associating =>
      dsimp only
      split
      · exact .finish (by rw [place]; rfl) ⟨rfl, rfl, rfl, rfl⟩ (.inr rfl) rfl
      · exact .finish (by rw [place]; rfl) ⟨rfl, rfl, rfl, rfl⟩ (.inr rfl) rfl
  | ending => exact .finish (by rw [place]; rfl) ⟨rfl, rfl, rfl, rfl⟩ (.inl rfl) rfl

end WorkerSteps

/-- A step of the system, as far as the store is concerned. -/
inductive StoreStep (s : AssocSys) (action : AssocAction) (t : AssocSys) : Prop
  | call (alloc : Bool) (call : SetterCall) (is_call : action = .call alloc call)
      (result : t = { s with priv := (s.priv.call alloc call).2 })
  | take (taking : s.worker = .taking) (result : t = s.take)
  | work (req : AssocRequest) (inProgress : s.priv.inProgressAssocReq = some req)
      (step : WepStep s req t)
  | other (kept : KeptStore s.priv t.priv)
      (inProgress : t.priv.inProgressAssocReq = s.priv.inProgressAssocReq)
      (next : t.worker = s.worker ∨ s.worker = .idle ∧ t.worker = .taking)

theorem storeStep {s t : AssocSys} {action : AssocAction} (stepped : s.step action = some t) :
    StoreStep s action t := by
  cases action with
  | call alloc call =>
      cases stepped
      exact .call alloc call rfl rfl
  | getEncode beyond length flags =>
      cases stepped
      exact .other ⟨rfl, rfl, rfl, rfl⟩ rfl (.inl rfl)
  | getEncodeext beyond length flags extFlags alg =>
      cases stepped
      obtain ⟨accesses, same⟩ := s.priv.lbsGetEncodeext_visits beyond length flags extFlags alg
      refine .other ?_ ?_ (.inl rfl)
      · rw [same]
        exact ⟨rfl, rfl, rfl, rfl⟩
      · rw [same]
        rfl
  | remove =>
      cases stepped
      exact .other ⟨rfl, rfl, rfl, rfl⟩ rfl (.inl rfl)
  | link curbssparams mode =>
      cases stepped
      exact .other ⟨rfl, rfl, rfl, rfl⟩ rfl (.inl rfl)
  | regulate tables =>
      cases stepped
      exact .other ⟨rfl, rfl, rfl, rfl⟩ rfl (.inl rfl)
  | timer =>
      simp only [AssocSys.step] at stepped
      split at stepped <;> cases stepped
      exact .other ⟨rfl, rfl, rfl, rfl⟩ rfl (.inl rfl)
  | work =>
      simp only [AssocSys.step] at stepped
      split at stepped <;> cases stepped
      rename_i idle _
      exact .other ⟨rfl, rfl, rfl, rfl⟩ rfl (.inr ⟨idle, rfl⟩)
  | worker answers =>
      simp only [AssocSys.step] at stepped
      split at stepped
      · cases stepped
      · rename_i taking
        cases stepped
        exact .take taking rfl
      · rename_i req inProgress idle taking
        cases stepped
        exact .work req inProgress (workerStep_wep s req answers ⟨idle, taking⟩)
      · cases stepped

/-- All keys of the store are standard, whoever holds them. -/
structure StandardStore (priv : AssocPriv) : Prop where
  stored : StandardKeys priv.wepKeys priv.wepTxKeyidx
  pending : ∀ req, priv.pendingAssocReq = some req → Standard req.wep
  inProgress : ∀ req, priv.inProgressAssocReq = some req → Standard req.wep

section StandardKeys

variable {priv : AssocPriv} {req : AssocRequest}

theorem standardKeys_replicate : StandardKeys (Vector.replicate 4 EncKey.zero) 0 := by
  refine ⟨?_, by decide⟩
  intro key member
  rw [Vector.mem_replicate] at member
  rw [member.2]
  exact .inl rfl

theorem refresh_standard (stored : StandardKeys priv.wepKeys priv.wepTxKeyidx)
    (standard : Standard req.wep) : Standard (req.refresh priv).wep := by
  constructor
  · show ∀ key ∈ (if req.flags.wepKeys then req.wepKeys else priv.wepKeys), _
    split
    · exact standard.lengths
    · exact stored.lengths
  · show (if req.flags.wepTxKeyidx then req.wepTxKeyidx else priv.wepTxKeyidx).toNat < 4
    split
    · exact standard.index
    · exact stored.index

theorem standardStore_step {s t : AssocSys} {action : AssocAction}
    (standard : StandardStore s.priv) (stepped : s.step action = some t) :
    StandardStore t.priv := by
  cases storeStep stepped with
  | call alloc call _ result =>
      have found : Standard (s.priv.pendingAssocReq.getD .zero).wep := by
        cases pending : s.priv.pendingAssocReq with
        | none => exact standardKeys_replicate
        | some req => exact standard.pending req pending
      have stores : Stores Standard s.priv (s.priv.call alloc call).2 :=
        call_stores standard.pending (refresh_standard standard.stored found)
          ⟨fun dwrq _ => setEncode_standard dwrq,
            fun dwrq ext _ => setEncodeext_standard dwrq ext,
            fun flags value _ => setAuth_standard flags value⟩
      rw [result]
      refine ⟨?_, stores.pending, ?_⟩
      · rw [stores.keys, stores.index]
        exact standard.stored
      · rw [stores.inProgress]
        exact standard.inProgress
  | take _ result =>
      rw [result]
      refine ⟨standard.stored, ?_, standard.pending⟩
      intro req missing
      cases missing
  | work req inProgress step =>
      have new := standard.inProgress req inProgress
      cases step with
      | prepare req' _ kept same inProgress' =>
          refine ⟨?_, kept.pending ▸ standard.pending, ?_⟩
          · rw [kept.keys, kept.index]
            exact standard.stored
          · intro other found
            obtain rfl := Option.some.inj (inProgress'.symm.trans found)
            show StandardKeys _ _
            rw [same.keys, same.index]
            exact new
      | skip _ kept _ _ inProgress' =>
          refine ⟨?_, kept.pending ▸ standard.pending, ?_⟩
          · rw [kept.keys, kept.index]
            exact standard.stored
          · rw [inProgress', ← inProgress]
            exact standard.inProgress
      | copy _ keys index _ pending inProgress' =>
          refine ⟨?_, pending ▸ standard.pending, ?_⟩
          · rw [keys, index]
            exact new
          · rw [inProgress', ← inProgress]
            exact standard.inProgress
      | secure _ keys index _ pending inProgress' =>
          refine ⟨?_, pending ▸ standard.pending, ?_⟩
          · rw [keys, index]
            exact standard.stored
          · rw [inProgress', ← inProgress]
            exact standard.inProgress
      | finish _ kept inProgress' =>
          refine ⟨?_, kept.pending ▸ standard.pending, ?_⟩
          · rw [kept.keys, kept.index]
            exact standard.stored
          · intro other found
            rcases inProgress' with gone | same
            · rw [gone] at found
              cases found
            · obtain rfl := Option.some.inj (same.symm.trans found)
              exact new
  | other kept inProgress _ =>
      refine ⟨?_, kept.pending ▸ standard.pending, inProgress ▸ standard.inProgress⟩
      rw [kept.keys, kept.index]
      exact standard.stored

/-- The store holds standard keys in every reachable state. -/
theorem standardStore {s : AssocSys} (reached : associator.Reachable s) :
    StandardStore s.priv := by
  refine reached.invariant (fun s => StandardStore s.priv) ?_
    fun _ _ _ _ standard _ stepped => standardStore_step standard stepped
  rintro _ ⟨tables, rfl⟩
  refine ⟨standardKeys_replicate, ?_, ?_⟩
  · intro req missing
    cases missing
  · intro req missing
    cases missing

end StandardKeys

/-- The request in progress has nothing about WEP that the store does not hold. -/
def NothingLeft (priv : AssocPriv) (req : AssocRequest) : Prop :=
  req.wepKeys = priv.wepKeys ∧ req.wepTxKeyidx = priv.wepTxKeyidx ∧ req.secinfo = priv.secinfo

instance (priv : AssocPriv) (req : AssocRequest) : Decidable (NothingLeft priv req) := by
  unfold NothingLeft
  infer_instance

/-- The worker is not about to change the store. -/
def Settled (s : AssocSys) : Prop :=
  s.worker.pastSecinfo = true ∨
    ∀ req ∈ s.priv.inProgressAssocReq, NothingLeft s.priv req

instance (s : AssocSys) : Decidable (Settled s) := by
  unfold Settled
  infer_instance

/-- The data of `lbs_set_encodeext` contain its structure. -/
def SetterCall.complete : SetterCall → Prop
  | .encodeext dwrq _ => dwrq.length ≠ 0
  | _ => True

instance (call : SetterCall) : Decidable call.complete := by
  unfold SetterCall.complete
  split <;> infer_instance

/-- Setters are called with complete data, while the store is not about to change. -/
def SettersWait (s : AssocSys) : AssocAction → Prop
  | .call _ call => Settled s ∧ call.complete
  | _ => True

instance (s : AssocSys) (action : AssocAction) : Decidable (SettersWait s action) := by
  unfold SettersWait
  split <;> infer_instance

/-- The link between the enabled flag, the index and the key, at each place of the worker. -/
structure Linked (s : AssocSys) : Prop where
  stored : s.worker ≠ .secinfo →
    TxKeyPresent s.priv.wepKeys s.priv.wepTxKeyidx s.priv.secinfo
  pending : ∀ req, s.priv.pendingAssocReq = some req → Applicable s.priv req.wep
  beforeKeys : s.worker.beforeKeys = true → ∀ req, s.priv.inProgressAssocReq = some req →
    Applicable s.priv req.wep
  secinfo : s.worker = .secinfo → ∀ req, s.priv.inProgressAssocReq = some req →
    TxKeyPresent req.wepKeys req.wepTxKeyidx req.secinfo ∧
      s.priv.wepKeys = req.wepKeys ∧ s.priv.wepTxKeyidx = req.wepTxKeyidx ∧
      (req.flags.secinfo = false → req.secinfo = s.priv.secinfo)
  alone : Settled s ∨ s.priv.pendingAssocReq = none

section Links

variable {s t : AssocSys} {priv after : AssocPriv} {wep : RequestWep} {req : AssocRequest}

/-- Whether a request is applicable depends on the store. -/
theorem Applicable.of_eq (applicable : Applicable priv wep)
    (keys : after.wepKeys = priv.wepKeys) (index : after.wepTxKeyidx = priv.wepTxKeyidx)
    (secinfo : after.secinfo = priv.secinfo) : Applicable after wep :=
  ⟨applicable.present, { keys := keys ▸ applicable.follows.keys
                         index := index ▸ applicable.follows.index
                         secinfo := secinfo ▸ applicable.follows.secinfo }⟩

/-- A refreshed request says what it said, because the rest is what the store holds. -/
theorem Applicable.refresh (applicable : Applicable priv req.wep) :
    Applicable priv (req.refresh priv).wep := by
  have keys : (req.refresh priv).wepKeys = req.wepKeys := by
    show (if req.flags.wepKeys then req.wepKeys else priv.wepKeys) = req.wepKeys
    split
    · rfl
    · rename_i unset
      exact (applicable.follows.keys (Bool.eq_false_iff.mpr unset)).symm
  have index : (req.refresh priv).wepTxKeyidx = req.wepTxKeyidx := by
    show (if req.flags.wepTxKeyidx then req.wepTxKeyidx else priv.wepTxKeyidx) = req.wepTxKeyidx
    split
    · rfl
    · rename_i unset
      exact (applicable.follows.index (Bool.eq_false_iff.mpr unset)).symm
  have secinfo : (req.refresh priv).secinfo = req.secinfo := by
    show (if req.flags.secinfo then req.secinfo else priv.secinfo) = req.secinfo
    split
    · rfl
    · rename_i unset
      exact (applicable.follows.secinfo (Bool.eq_false_iff.mpr unset)).symm
  have same : SameWep req.wep (req.refresh priv).wep := ⟨keys, index, secinfo, id, rfl, rfl⟩
  exact same.applicable applicable

/-- A new request says what the store holds. -/
theorem applicable_fresh (stored : TxKeyPresent priv.wepKeys priv.wepTxKeyidx priv.secinfo) :
    Applicable priv (AssocRequest.zero.refresh priv).wep :=
  ⟨stored, ⟨fun _ => rfl, fun _ => rfl, fun _ => rfl⟩⟩

/-- While the store is not about to change there is a key to transmit with. -/
theorem Linked.present (linked : Linked s) (settled : Settled s)
    (busy : s.worker = .secinfo → ∃ req, s.priv.inProgressAssocReq = some req) :
    TxKeyPresent s.priv.wepKeys s.priv.wepTxKeyidx s.priv.secinfo := by
  by_cases torn : s.worker = .secinfo
  · obtain ⟨req, inProgress⟩ := busy torn
    obtain ⟨present, keys, index, _⟩ := linked.secinfo torn req inProgress
    rcases settled with past | same
    · rw [torn] at past
      cases past
    · obtain ⟨_, _, secinfo⟩ := same req inProgress
      rw [keys, index, ← secinfo]
      exact present
  · exact linked.stored torn

theorem linked_call (linked : Linked s) (settled : Settled s)
    (busy : s.worker = .secinfo → ∃ req, s.priv.inProgressAssocReq = some req) {alloc : Bool}
    {call : SetterCall} (complete : call.complete) :
    Linked { s with priv := (s.priv.call alloc call).2 } := by
  have present := linked.present settled busy
  have refreshed : Applicable s.priv ((s.priv.pendingAssocReq.getD .zero).refresh s.priv).wep := by
    cases pending : s.priv.pendingAssocReq with
    | none => exact applicable_fresh present
    | some req => exact (linked.pending req pending).refresh
  have stores : Stores (Applicable s.priv) s.priv (s.priv.call alloc call).2 := by
    refine call_stores linked.pending refreshed ⟨?_, ?_, ?_⟩
    · intro dwrq _
      exact setEncode_applicable s.priv dwrq
    · rintro dwrq ext rfl
      exact setEncodeext_applicable s.priv ext complete
    · intro flags value _
      exact setAuth_applicable s.priv flags value
  refine ⟨?_, ?_, ?_, ?_, .inl ?_⟩
  · intro place
    show TxKeyPresent (s.priv.call alloc call).2.wepKeys _ _
    rw [stores.keys, stores.index, stores.secinfo]
    exact linked.stored place
  · intro req pending
    exact (stores.pending req pending).of_eq stores.keys stores.index stores.secinfo
  · intro place req inProgress
    exact (linked.beforeKeys place req (stores.inProgress ▸ inProgress)).of_eq stores.keys
      stores.index stores.secinfo
  · intro place req inProgress
    show _ ∧ (s.priv.call alloc call).2.wepKeys = _ ∧ _
    rw [stores.keys, stores.index, stores.secinfo]
    exact linked.secinfo place req (stores.inProgress ▸ inProgress)
  · rcases settled with past | same
    · exact .inl past
    · refine .inr fun req inProgress => ?_
      obtain ⟨keys, index, secinfo⟩ := same req (stores.inProgress ▸ inProgress)
      exact ⟨keys.trans stores.keys.symm, index.trans stores.index.symm,
        secinfo.trans stores.secinfo.symm⟩

theorem beforeKeys_ne {pc : AssocPc} (before : pc.beforeKeys = true) :
    pc ≠ .secinfo ∧ pc.pastSecinfo = false := by
  cases pc <;> simp_all [AssocPc.beforeKeys, AssocPc.pastSecinfo]

theorem pastSecinfo_ne {pc : AssocPc} (past : pc.pastSecinfo = true) :
    pc ≠ .secinfo ∧ pc.beforeKeys = false := by
  cases pc <;> simp_all [AssocPc.beforeKeys, AssocPc.pastSecinfo]

/-- What is settled before the keys are copied stays so. -/
theorem settled_before (before : s.worker.beforeKeys = true)
    (inProgress : s.priv.inProgressAssocReq = some req) (settled : Settled s) :
    NothingLeft s.priv req := by
  rcases settled with past | same
  · rw [(beforeKeys_ne before).2] at past
    cases past
  · exact same req inProgress

/-- A step of the worker with its request. -/
theorem linked_work (linked : Linked s) (inProgress : s.priv.inProgressAssocReq = some req)
    (step : WepStep s req t) : Linked t := by
  cases step with
  | prepare req' before kept same inProgress' next =>
      have applicable := linked.beforeKeys before req inProgress
      have notTorn : t.worker ≠ .secinfo := by
        rcases next with next | next
        · exact (beforeKeys_ne next).1
        · rw [next]
          nofun
      refine ⟨?_, ?_, ?_, fun torn => absurd torn notTorn, ?_⟩
      · intro _
        rw [kept.keys, kept.index, kept.secinfo]
        exact linked.stored (beforeKeys_ne before).1
      · intro other pending
        exact (linked.pending other (kept.pending ▸ pending)).of_eq kept.keys kept.index
          kept.secinfo
      · intro _ other found
        obtain rfl := Option.some.inj (inProgress'.symm.trans found)
        exact (same.applicable applicable).of_eq kept.keys kept.index kept.secinfo
      · rcases linked.alone with settled | alone
        · refine .inl (.inr fun other found => ?_)
          obtain rfl := Option.some.inj (inProgress'.symm.trans found)
          obtain ⟨keys, index, secinfo⟩ := settled_before before inProgress settled
          exact ⟨same.keys.trans (keys.trans kept.keys.symm),
            same.index.trans (index.trans kept.index.symm),
            same.secinfo.trans (secinfo.trans kept.secinfo.symm)⟩
        · exact .inr (kept.pending.trans alone)
  | skip before kept keysUnset indexUnset inProgress' next =>
      have applicable := linked.beforeKeys before req inProgress
      refine ⟨fun place => absurd next place, ?_, ?_, ?_, ?_⟩
      · intro other pending
        exact (linked.pending other (kept.pending ▸ pending)).of_eq kept.keys kept.index
          kept.secinfo
      · intro place
        rw [next] at place
        cases place
      · intro _ other found
        obtain rfl := Option.some.inj (inProgress'.symm.trans found)
        refine ⟨applicable.present, ?_, ?_, ?_⟩
        · rw [kept.keys]
          exact (applicable.follows.keys keysUnset).symm
        · rw [kept.index]
          exact (applicable.follows.index indexUnset).symm
        · intro unset
          rw [kept.secinfo]
          exact applicable.follows.secinfo unset
      · rcases linked.alone with settled | alone
        · refine .inl (.inr fun other found => ?_)
          obtain rfl := Option.some.inj (inProgress'.symm.trans found)
          obtain ⟨keys, index, secinfo⟩ := settled_before before inProgress settled
          exact ⟨keys.trans kept.keys.symm, index.trans kept.index.symm,
            secinfo.trans kept.secinfo.symm⟩
        · exact .inr (kept.pending.trans alone)
  | copy before keys index secinfo pending inProgress' next =>
      have applicable := linked.beforeKeys before req inProgress
      refine ⟨fun place => absurd next place, ?_, ?_, ?_, ?_⟩
      · intro other found
        -- A pending request was only let in because nothing is going to change.
        rcases linked.alone with settled | alone
        · obtain ⟨sameKeys, sameIndex, _⟩ := settled_before before inProgress settled
          exact (linked.pending other (pending ▸ found)).of_eq (keys.trans sameKeys)
            (index.trans sameIndex) secinfo
        · rw [pending, alone] at found
          cases found
      · intro place
        rw [next] at place
        cases place
      · intro _ other found
        obtain rfl := Option.some.inj (inProgress'.symm.trans found)
        refine ⟨applicable.present, keys, index, ?_⟩
        intro unset
        rw [secinfo]
        exact applicable.follows.secinfo unset
      · rcases linked.alone with settled | alone
        · refine .inl (.inr fun other found => ?_)
          obtain rfl := Option.some.inj (inProgress'.symm.trans found)
          obtain ⟨_, _, same⟩ := settled_before before inProgress settled
          exact ⟨keys.symm, index.symm, same.trans secinfo.symm⟩
        · exact .inr (pending.trans alone)
  | secure place keys index secinfo pending inProgress' next =>
      obtain ⟨present, sameKeys, sameIndex, unset⟩ := linked.secinfo place req inProgress
      have same : t.priv.secinfo = req.secinfo := by
        rw [secinfo]
        split
        · rfl
        · rename_i notSet
          exact (unset (Bool.eq_false_iff.mpr notSet)).symm
      refine ⟨?_, ?_, ?_, fun torn => absurd torn (pastSecinfo_ne next).1, .inl (.inl next)⟩
      · intro _
        rw [keys, index, same, sameKeys, sameIndex]
        exact present
      · intro other found
        rcases linked.alone with settled | alone
        · rcases settled with past | left
          · rw [place] at past
            cases past
          · obtain ⟨_, _, old⟩ := left req inProgress
            exact (linked.pending other (pending ▸ found)).of_eq keys index (same.trans old)
        · rw [pending, alone] at found
          cases found
      · intro before
        rw [(pastSecinfo_ne next).2] at before
        cases before
  | finish past kept inProgress' next =>
      refine ⟨?_, ?_, ?_, fun torn => absurd torn (pastSecinfo_ne next).1, .inl (.inl next)⟩
      · intro _
        rw [kept.keys, kept.index, kept.secinfo]
        exact linked.stored (pastSecinfo_ne past).1
      · intro other pending
        exact (linked.pending other (kept.pending ▸ pending)).of_eq kept.keys kept.index
          kept.secinfo
      · intro before
        rw [(pastSecinfo_ne next).2] at before
        cases before

theorem take_worker_ne (s : AssocSys) : s.take.worker ≠ .secinfo := by
  show (if s.priv.pendingAssocReq.isSome then AssocPc.finding else .idle) ≠ _
  split <;> nofun

theorem linked_take (linked : Linked s) (taking : s.worker = .taking) : Linked s.take := by
  have stored := linked.stored (by rw [taking]; nofun)
  have notTorn := take_worker_ne s
  refine ⟨fun _ => stored, ?_, ?_, fun torn => absurd torn notTorn, .inr rfl⟩
  · intro req missing
    cases missing
  · intro _ req found
    exact (linked.pending req found).of_eq rfl rfl rfl

/-- A step of another party, which leaves the store alone. -/
theorem linked_other (linked : Linked s) (kept : KeptStore s.priv t.priv)
    (inProgress : t.priv.inProgressAssocReq = s.priv.inProgressAssocReq)
    (next : t.worker = s.worker ∨ s.worker = .idle ∧ t.worker = .taking) : Linked t := by
  have before : t.worker.beforeKeys = s.worker.beforeKeys := by
    rcases next with next | ⟨idle, next⟩
    · rw [next]
    · rw [next, idle]
      rfl
  have past : t.worker.pastSecinfo = s.worker.pastSecinfo := by
    rcases next with next | ⟨idle, next⟩
    · rw [next]
    · rw [next, idle]
      rfl
  have torn : t.worker = .secinfo ↔ s.worker = .secinfo := by
    rcases next with next | ⟨idle, next⟩
    · rw [next]
    · rw [next, idle]
      simp
  refine ⟨?_, ?_, ?_, ?_, ?_⟩
  · intro place
    rw [kept.keys, kept.index, kept.secinfo]
    exact linked.stored fun old => place (torn.mpr old)
  · intro req pending
    exact (linked.pending req (kept.pending ▸ pending)).of_eq kept.keys kept.index kept.secinfo
  · intro place req found
    exact (linked.beforeKeys (before ▸ place) req (inProgress ▸ found)).of_eq kept.keys
      kept.index kept.secinfo
  · intro place req found
    rw [kept.keys, kept.index, kept.secinfo]
    exact linked.secinfo (torn.mp place) req (inProgress ▸ found)
  · rcases linked.alone with settled | alone
    · refine .inl ?_
      rcases settled with old | same
      · exact .inl (past ▸ old)
      · refine .inr fun req found => ?_
        obtain ⟨keys, index, secinfo⟩ := same req (inProgress ▸ found)
        exact ⟨keys.trans kept.keys.symm, index.trans kept.index.symm,
          secinfo.trans kept.secinfo.symm⟩
    · exact .inr (kept.pending.trans alone)

/-- Between the two copies there is a request. -/
def Torn (s : AssocSys) : Prop :=
  s.worker = .secinfo → ∃ req, s.priv.inProgressAssocReq = some req

theorem torn_step {action : AssocAction} (torn : Torn s) (stepped : s.step action = some t) :
    Torn t := by
  intro place
  cases storeStep stepped with
  | call alloc call _ result =>
      have anything : CallKeeps (fun _ => True) call :=
        ⟨fun _ _ _ _ _ => trivial, fun _ _ _ _ _ _ => trivial, fun _ _ _ _ _ _ => trivial⟩
      have stores : Stores (fun _ => True) s.priv (s.priv.call alloc call).2 :=
        call_stores (fun _ _ => trivial) trivial anything
      rw [result] at place ⊢
      obtain ⟨req, inProgress⟩ := torn place
      exact ⟨req, stores.inProgress.trans inProgress⟩
  | take _ result => exact absurd (result ▸ place) (take_worker_ne s)
  | work req _ step =>
      cases step with
      | prepare req' _ _ _ inProgress => exact ⟨req', inProgress⟩
      | skip _ _ _ _ inProgress => exact ⟨req, inProgress⟩
      | copy _ _ _ _ _ inProgress => exact ⟨req, inProgress⟩
      | secure _ _ _ _ _ inProgress => exact ⟨req, inProgress⟩
      | finish _ _ _ next => exact absurd place (pastSecinfo_ne next).1
  | other _ inProgress next =>
      rcases next with next | ⟨_, next⟩
      · obtain ⟨req, found⟩ := torn (next ▸ place)
        exact ⟨req, inProgress.trans found⟩
      · rw [next] at place
        cases place

/-- Every step keeps the link, if the setters wait. -/
theorem linked_step {action : AssocAction} (linked : Linked s) (torn : Torn s)
    (waits : SettersWait s action) (stepped : s.step action = some t) : Linked t := by
  cases storeStep stepped with
  | call alloc call is_call result =>
      subst is_call
      rw [result]
      exact linked_call linked waits.1 torn waits.2
  | take taking result =>
      rw [result]
      exact linked_take linked taking
  | work req inProgress step => exact linked_work linked inProgress step
  | other kept inProgress next => exact linked_other linked kept inProgress next

theorem linked_init (tables : ChannelTables) : Linked (.init (.fresh tables)) := by
  refine ⟨fun _ => nofun, ?_, ?_, nofun, .inr rfl⟩
  · intro req missing
    cases missing
  · intro _ req missing
    cases missing

theorem linked_reached (reached : associator.ReachableUnder SettersWait s) : Linked s := by
  have both : Linked s ∧ Torn s := by
    refine reached.invariant (fun s => Linked s ∧ Torn s) ?_ ?_
    · rintro _ ⟨tables, rfl⟩
      exact ⟨linked_init tables, nofun⟩
    · intro s action t _ held waits stepped
      exact ⟨linked_step held.1 held.2 waits stepped, torn_step held.2 stepped⟩
  exact both.1

end Links

/-- The keys are standard in every run, and all that `lbs_cmd_802_11_set_wep` gets. When nothing
is pending or applied, WEP is only enabled with a key to transmit with, if the setters did not
run while the worker was about to change the store. -/
theorem wep_key_store {s : AssocSys} (reached : associator.Reachable s) :
    StandardKeys s.priv.wepKeys s.priv.wepTxKeyidx ∧
      (∀ req, s.priv.pendingAssocReq = some req →
        StandardKeys req.wepKeys req.wepTxKeyidx) ∧
      (∀ req, s.priv.inProgressAssocReq = some req → req.validWepKeys = true) ∧
      (associator.ReachableUnder SettersWait s → s.worker = .idle →
        s.priv.pendingAssocReq = none →
        TxKeyPresent s.priv.wepKeys s.priv.wepTxKeyidx s.priv.secinfo) := by
  have standard := standardStore reached
  refine ⟨standard.stored, standard.pending, ?_, ?_⟩
  · intro req inProgress
    exact validWepKeys_of_standard (standard.inProgress req inProgress).lengths
  · intro waited idle _
    exact (linked_reached waited).stored (by rw [idle]; nofun)

/-- A key is set and applied. -/
theorem wep_key_store_second : ∃ s, associator.ReachableUnder SettersWait s ∧
    s.worker = .idle ∧ s.priv.pendingAssocReq = none ∧ s.priv.secinfo.wepEnabled = true ∧
    (txKey s.priv.wepKeys s.priv.wepTxKeyidx).len ≠ 0 := by
  obtain ⟨s, executed, idle, pending, enabled⟩ := Machine.exists_of_map
    (fun s : AssocSys => s.worker = .idle ∧ s.priv.pendingAssocReq = none ∧
      s.priv.secinfo.wepEnabled = true)
    (show (associator.runUnder SettersWait (.init (.fresh twoChannels))
      (.call true secondKeyCall :: applySettings)).map _ = some true by decide +kernel)
  have start : associator.initial (.init (.fresh twoChannels)) := ⟨twoChannels, rfl⟩
  have reached := Machine.ReachableUnder.run (.initial start) executed
  obtain ⟨_, _, _, present⟩ := wep_key_store reached.reachable
  exact ⟨s, reached, idle, pending, enabled, present reached idle pending enabled⟩

/-- Only the setters about security run, and all calls and commands succeed. -/
def SettersSucceed (s : AssocSys) : AssocAction → Prop
  | .call alloc (.encode dwrq) => (s.priv.call alloc (.encode dwrq)).1 = 0
  | .call alloc (.encodeext dwrq ext) => (s.priv.call alloc (.encodeext dwrq ext)).1 = 0
  | .call alloc (.auth flags value) => (s.priv.call alloc (.auth flags value)).1 = 0
  | .timer | .work => True
  | .worker answers => answers.ok = true
  | _ => False

instance (s : AssocSys) (action : AssocAction) : Decidable (SettersSucceed s action) := by
  unfold SettersSucceed
  split <;> infer_instance

/-- Some steps of the worker, whose commands succeed. -/
def applySteps (n : Nat) : List AssocAction :=
  List.replicate n (.worker { ok := true, best := none, channel := (none, none, none) })

/-- WEP is switched off, and while this is applied open authentication is asked for. -/
def disableMeanwhile : List AssocAction :=
  .call true secondKeyCall :: applySettings ++
    [.call true (.encode { length := 0, flags := iwEncodeDisabled, extra := none }),
      .timer, .work] ++ applySteps 1 ++ [.call true (.auth 6 1)] ++ applySteps 11 ++
    [.timer, .work] ++ applySteps 11

/-- The second request carries the enabled flag from before, but not the keys. -/
theorem wep_enabled_without_key : ∃ s, associator.ReachableUnder SettersSucceed s ∧
    s.worker = .idle ∧ s.priv.pendingAssocReq = none ∧ s.priv.secinfo.wepEnabled = true ∧
    (txKey s.priv.wepKeys s.priv.wepTxKeyidx).len = 0 := by
  obtain ⟨s, executed, found⟩ := Machine.exists_of_map
    (fun s : AssocSys => s.worker = .idle ∧ s.priv.pendingAssocReq = none ∧
      s.priv.secinfo.wepEnabled = true ∧ (txKey s.priv.wepKeys s.priv.wepTxKeyidx).len = 0)
    (show (associator.runUnder SettersSucceed (.init (.fresh twoChannels))
      disableMeanwhile).map _ = some true by decide +kernel)
  have start : associator.initial (.init (.fresh twoChannels)) := ⟨twoChannels, rfl⟩
  exact ⟨s, Machine.ReachableUnder.run (.initial start) executed, found⟩

end Libertas
