import Libertas.Assoc.Setters

/-!
# The getter ioctls of the keys

Both read an element of `priv->wep_keys` at an index from the caller or from
`wep_tx_keyidx`. `beyond` is the memory behind the array, as an element at any
larger index reads it.
-/

namespace Libertas

/-- `sizeof(struct iw_encode_ext)`. -/
def iwEncodeExtSize : Int := 40

/-- What `lbs_get_encode` returns in its arguments. -/
structure EncodeAnswer where
  length : UInt16
  flags : UInt16
  extra : List UInt8
deriving DecidableEq, Repr

/-- What `lbs_get_encodeext` returns in its arguments. -/
structure EncodeextAnswer where
  flags : UInt16
  alg : UInt16
  keyLen : UInt16
  key : List UInt8
deriving DecidableEq, Repr

namespace AssocPriv

/-- `priv->wep_keys[index]`. -/
def wepKeyAt (priv : AssocPriv) (beyond : Nat → EncKey) (index : Nat) : EncKey :=
  if bound : index < 4 then priv.wepKeys[index] else beyond index

/-- The index `lbs_get_encode` reads: that of the caller, or the transmit key. -/
def encodeIndex (priv : AssocPriv) (flags : UInt16) : Nat :=
  if flags &&& iwEncodeIndex = 0 then priv.wepTxKeyidx.toNat
  else (flags &&& iwEncodeIndex).toNat - 1

/-- The authentication in the flags of `lbs_get_encode`. -/
def encodeAuth (priv : AssocPriv) : UInt16 :=
  if priv.secinfo.authMode = iwAuthAlgOpenSystem then iwEncodeOpen
  else if priv.secinfo.authMode = iwAuthAlgSharedKey ∨ priv.secinfo.authMode = iwAuthAlgLeap then
    iwEncodeRestricted
  else iwEncodeDisabled ||| iwEncodeOpen

/-- `lbs_get_encode`. -/
def lbsGetEncode (priv : AssocPriv) (beyond : Nat → EncKey) (length flags : UInt16) :
    EncodeAnswer × AssocPriv :=
  let index := priv.encodeIndex flags
  let key := priv.wepKeyAt beyond index
  let auth := priv.encodeAuth
  let answer : EncodeAnswer :=
    if key.len ≠ 0 ∧ priv.secinfo.wepEnabled then
      { length := key.len
        flags := (auth ||| UInt16.ofNat (index + 1)) &&& ~~~iwEncodeDisabled
        extra := key.key.take key.len.toNat ++ List.replicate (16 - key.len.toNat) 0 }
    else if priv.secinfo.wpaEnabled || priv.secinfo.wpa2Enabled then
      { length := length, flags := (auth &&& ~~~iwEncodeDisabled) ||| iwEncodeNokey
        extra := List.replicate 16 0 }
    else { length := length, flags := auth ||| iwEncodeDisabled, extra := List.replicate 16 0 }
  (answer, priv.visit [index])

/-- The index of `lbs_get_encodeext`, which checks that of the caller. -/
def encodeextIndex (priv : AssocPriv) (flags : UInt16) : Option Nat :=
  let index := (flags &&& iwEncodeIndex).toNat
  if index = 0 then some priv.wepTxKeyidx.toNat
  else if 4 < index then none
  else some (index - 1)

/-- The WPA key that `lbs_get_encodeext` reports. -/
def wpaKey (priv : AssocPriv) : Option EncKey :=
  if priv.wpaMcastKey.len ≠ 0 ∧ priv.wpaMcastKey.flags &&& keyInfoWpaEnabled ≠ 0 then
    some priv.wpaMcastKey
  else if priv.wpaUnicastKey.len ≠ 0 ∧ priv.wpaUnicastKey.flags &&& keyInfoWpaEnabled ≠ 0 then
    some priv.wpaUnicastKey
  else none

/-- A key of `lbs_get_encodeext`, if it fits. -/
def reportKey (maxKeyLen : Int) (flags alg keyLen : UInt16) (key : List UInt8) :
    Int × Option EncodeextAnswer :=
  if maxKeyLen < keyLen.toNat then (-e2Big, none)
  else
    (0, some
      { flags := if keyLen ≠ 0 then flags else flags ||| iwEncodeNokey
        alg := alg, keyLen := keyLen, key := key.take keyLen.toNat })

/-- `lbs_get_encodeext`; `alg` and `extFlags` are those of the caller. -/
def lbsGetEncodeext (priv : AssocPriv) (beyond : Nat → EncKey) (length flags : UInt16)
    (extFlags : UInt32) (alg : UInt16) : (Int × Option EncodeextAnswer) × AssocPriv :=
  let maxKeyLen := length.toNat - iwEncodeExtSize
  if maxKeyLen < 0 then ((-eInval, none), priv)
  else
    match priv.encodeextIndex flags with
    | none => ((-eInval, none), priv)
    | some index =>
        let wep := priv.secinfo.wepEnabled
        let wpa := priv.secinfo.wpaEnabled || priv.secinfo.wpa2Enabled
        if extFlags &&& iwEncodeExtGroupKey = 0 ∧ alg ≠ iwEncodeAlgWep ∧
            (index ≠ 0 ∨ priv.mode ≠ iwModeInfra) then ((-eInval, none), priv)
        else
          let answerFlags := UInt16.ofNat (index + 1)
          match wep, wpa with
          | false, false =>
              ((0, some { flags := answerFlags ||| iwEncodeDisabled, alg := iwEncodeAlgNone
                          keyLen := 0, key := [] }), priv)
          | true, false =>
              let key := priv.wepKeyAt beyond index
              (reportKey maxKeyLen answerFlags iwEncodeAlgWep key.len key.key, priv.visit [index])
          | false, true =>
              match priv.wpaKey with
              | some key =>
                  (reportKey maxKeyLen answerFlags
                    (if key.type = keyTypeIdAes then iwEncodeAlgCcmp else iwEncodeAlgTkip)
                    key.len key.key, priv)
              | none => (reportKey maxKeyLen answerFlags iwEncodeAlgTkip 0 [], priv)
          | true, true => ((-eInval, none), priv)

/-- The getter visits a key at most. -/
theorem lbsGetEncodeext_visits (priv : AssocPriv) (beyond : Nat → EncKey)
    (length flags : UInt16) (extFlags : UInt32) (alg : UInt16) :
    ∃ accesses, (priv.lbsGetEncodeext beyond length flags extFlags alg).2 =
      priv.visit accesses := by
  rw [lbsGetEncodeext]
  dsimp only
  repeat' split
  all_goals first | exact ⟨_, rfl⟩ | exact ⟨[], rfl⟩

end AssocPriv

end Libertas
