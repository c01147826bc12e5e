import Libertas.Assoc.Request
import Libertas.CmdResp.Handlers

/-!
# Key material

The SET form of `lbs_cmd_802_11_key_material` writes up to two parameter sets into
the command, the unicast key first; the GET form decodes the parameter sets of the
response into the keys of the private structure.
-/

namespace Libertas

open ByteOrder

/-- `TLV_TYPE_KEY_MATERIAL`. -/
def tlvTypeKeyMaterial : UInt16 := 0x0100

/-- `struct MrvlIEtype_keyParamSet`. -/
structure KeyParamSet where
  type : UInt16
  length : UInt16
  keytypeid : UInt16
  keyinfo : UInt16
  keylen : UInt16
  key : List UInt8
deriving DecidableEq, Repr

/-- The sizes of a parameter set, of the area for two of them, and of the command. -/
def keyParamSetSize : Nat := 42
def keyParamAreaSize : Nat := 84
namespace KeyParamSet

/-- A cleared parameter set. -/
def zero : KeyParamSet :=
  { type := 0, length := 0, keytypeid := 0, keyinfo := 0, keylen := 0
    key := List.replicate 32 0 }

/-- The layout of a parameter set. -/
def bytes (keyparam : KeyParamSet) : List UInt8 :=
  le16Bytes keyparam.type ++ (le16Bytes keyparam.length ++ (le16Bytes keyparam.keytypeid ++
    (le16Bytes keyparam.keyinfo ++ (le16Bytes keyparam.keylen ++ keyparam.key))))

end KeyParamSet

/-- A bit of the flags of a key goes into `keyinfo`. -/
def withKeyInfo (flags bit keyinfo : UInt16) : UInt16 :=
  if flags &&& bit ≠ 0 then keyinfo ||| bit else keyinfo

/-- `set_one_wpa_key`. -/
def setOneWpaKey (keyparam : KeyParamSet) (key : EncKey) : KeyParamSet :=
  { type := tlvTypeKeyMaterial
    length := UInt16.ofNat (keyParamSetSize - 4)
    keytypeid := key.type
    keyinfo :=
      withKeyInfo key.flags keyInfoWpaMcast
        (withKeyInfo key.flags keyInfoWpaUnicast
          (withKeyInfo key.flags keyInfoWpaEnabled keyparam.keyinfo))
    keylen := key.len
    key := overwrite (slice key.key 0 key.len.toNat) keyparam.key }

/-- The parameter sets that the SET form fills, in the order of the command. -/
def keyParamSets (assoc : AssocRequest) : List KeyParamSet :=
  (if assoc.flags.wpaUcastKey then [setOneWpaKey .zero assoc.wpaUnicastKey] else []) ++
    if assoc.flags.wpaMcastKey then [setOneWpaKey .zero assoc.wpaMcastKey] else []

/-- `keyParamSet` of the command: it is cleared before the keys are written. -/
def keyParamArea (assoc : AssocRequest) : List UInt8 :=
  (keyParamSets assoc ++
    List.replicate (2 - (keyParamSets assoc).length) KeyParamSet.zero).flatMap KeyParamSet.bytes

/-- `cmd.hdr.size` of the SET form. -/
def keyMaterialSetSize (assoc : AssocRequest) : UInt16 :=
  UInt16.ofNat (10 + keyParamSetSize * (keyParamSets assoc).length)

/-- What the GET form keeps of a parameter set at a position; `none` if `key_len` is too long. -/
def keyAt (mem : List UInt8) (pos : Nat) : Option EncKey :=
  let keyLen := le16At mem (pos + 8)
  if keyLen.toNat > 32 then none
  else
    some
      { len := keyLen, flags := le16At mem (pos + 6), type := le16At mem (pos + 4)
        key := overwrite (slice mem (pos + 10) keyLen.toNat) (List.replicate 32 0) }

/-- The loop of the GET form over the parameter sets. The memory begins at `keyParamSet`. -/
def keyLoop (mem : List UInt8) : Nat → Nat → AssocPriv → AssocPriv
  | 0, _, priv => priv
  | fuel + 1, bufPtr, priv =>
      if bufPtr < keyParamAreaSize then
        let paramSetLen := le16At mem (bufPtr + 2)
        let keyFlags := le16At mem (bufPtr + 6)
        let fin := bufPtr + 4 + paramSetLen.toNat
        if fin > keyParamAreaSize then priv
        else if keyFlags &&& keyInfoWpaUnicast ≠ 0 then
          match keyAt mem bufPtr with
          | none => { priv with wpaUnicastKey := .zero }
          | some key => keyLoop mem fuel (fin + 1) { priv with wpaUnicastKey := key }
        else if keyFlags &&& keyInfoWpaMcast ≠ 0 then
          match keyAt mem bufPtr with
          | none => { priv with wpaMcastKey := .zero }
          | some key => keyLoop mem fuel (fin + 1) { priv with wpaMcastKey := key }
        else priv
      else priv

section Layout

variable (keyparam : KeyParamSet) (rest : List UInt8)

namespace KeyParamSet

/-- The fields of a parameter set, read where they are. -/
theorem le16At_length : le16At (keyparam.bytes ++ rest) 2 = keyparam.length :=
  le16At_append (le16Bytes keyparam.type) _ keyparam.length

theorem length_bytes : keyparam.bytes.length = 10 + keyparam.key.length := by
  simp only [bytes, le16Bytes, List.length_append, List.length_cons, List.length_nil]
  omega

end KeyParamSet

end Layout

section Decode

variable {priv : AssocPriv} {mem area : List UInt8}

end Decode

end Libertas
