import Libertas.Assoc.Request
import Libertas.Cmd.Builders
import Libertas.Scan.Beacon
import Libertas.Tlv

/-!
# The ASSOCIATE command

`lbs_cmd_80211_associate` writes a fixed part and a sequence of type-length-value
fields into the command, with a pointer that moves on behind each of them. The
last field is the WPA or RSN element that the user supplied.

What is written behind the pointer and again overwritten or left out of the
command, such as the rates that are not common, is not modelled.
-/

namespace Libertas

open ByteOrder

/-- `lbs_bg_rates`. -/
def lbsBgRates : List UInt8 :=
  [0x02, 0x04, 0x0b, 0x16, 0x0c, 0x12, 0x18, 0x24, 0x30, 0x48, 0x60, 0x6c, 0x00, 0x00]

/-- The types of the fields: `TLV_TYPE_SSID`, `TLV_TYPE_RATES`, `TLV_TYPE_PHY_DS` and
`TLV_TYPE_CF`. -/
def tlvTypeSsid : UInt16 := 0x0000
def tlvTypeRates : UInt16 := 0x0001
def tlvTypePhyDs : UInt16 := 0x0003
def tlvTypeCf : UInt16 := 0x0004

/-- `MRVDRV_DEFAULT_LISTEN_INTERVAL`. -/
def mrvdrvDefaultListenInterval : UInt16 := 10

/-- `CAPINFO_MASK` and `WLAN_CAPABILITY_ESS`. -/
def capinfoMask : UInt16 := ~~~0xda00
def wlanCapabilityEss : UInt16 := 1

/-- The fields of the private structure that `get_common_rates` reads. -/
structure RateSettings where
  enablehwauto : UInt16
  curRate : UInt8
deriving DecidableEq, Repr

/-- `get_common_rates`: the rates of the card that occur in `rates`, which ends with the first
zero; `none` when a rate was fixed that is not among them. -/
def getCommonRates (settings : RateSettings) (rates : List UInt8) : Option (List UInt8) :=
  let tmp := (lbsBgRates.takeWhile (· ≠ 0)).flatMap fun cardRate =>
    (rates.takeWhile (· ≠ 0)).filter (· = cardRate)
  if settings.enablehwauto = 0 ∧ settings.curRate ∉ tmp then none
  else some (tmp.take rates.length)

/-- `lbs_set_basic_rate_flags`. -/
def lbsSetBasicRateFlags (rates : List UInt8) : List UInt8 :=
  rates.map fun rate =>
    if rate = 0x02 ∨ rate = 0x04 ∨ rate = 0x0b ∨ rate = 0x16 then rate ||| 0x80 else rate

/-- A buffer with a pointer into it: the bytes in front of the pointer and those behind it. -/
structure Cursor where
  done : List UInt8
  ahead : List UInt8

namespace Cursor

variable (pos : Cursor)

/-- Bytes are written and the pointer moves behind them. -/
def write (bytes : List UInt8) : Cursor :=
  { done := pos.done ++ bytes, ahead := pos.ahead.drop bytes.length }

/-- The pointer moves on. -/
def skip (count : Nat) : Cursor :=
  { done := pos.done ++ slice pos.ahead 0 count, ahead := pos.ahead.drop count }

/-- `struct mrvlietypesheader`. -/
def header (type tmplen : UInt16) : Cursor :=
  pos.write (le16Bytes type ++ le16Bytes tmplen)

end Cursor

/-- What `lbs_cmd_80211_associate` is called with: the request with the BSS it chose, what is in
memory behind `wpa_ie` and behind `ssid`, and the result of `lbs_parse_dnld_countryinfo_11d`. -/
structure AssociateInput (w : Nat) where
  assocReq : AssocRequest
  bss : BssDescriptor w
  behindIe : List UInt8
  behindSsid : List UInt8
  countryinfo : Int

namespace AssociateInput

variable {w : Nat} (input : AssociateInput w)

/-- WPA or WPA2 is enabled. -/
def wpa : Bool :=
  input.assocReq.secinfo.wpaEnabled || input.assocReq.secinfo.wpa2Enabled

/-- The memory from `wpa_ie` on. -/
def wpaIe : List UInt8 :=
  input.assocReq.wpaIe ++ input.behindIe

/-- The memory from `ssid` on. -/
def ssid : List UInt8 :=
  input.bss.ssid ++ input.behindSsid

/-- `bss->phyparamset.dsparamset.currentchan`. -/
def currentchan : UInt8 :=
  byteAt input.bss.phyparamset 2

/-- The capability of the BSS as it is sent. -/
def tmpcap : UInt16 :=
  if input.bss.mode = iwModeInfra then (input.bss.capability &&& capinfoMask) ||| wlanCapabilityEss
  else input.bss.capability &&& capinfoMask

end AssociateInput

/-- What `lbs_cmd_80211_associate` leaves behind when it succeeds: the command, and the rates and
the channel in `curbssparams`. -/
structure AssociateCmd where
  command : UInt16
  size : UInt16
  params : List UInt8
  rates : List UInt8
  channel : UInt8
deriving DecidableEq, Repr

/-- The fixed part. The capability is written at the end. -/
def associateFixed {w : Nat} (input : AssociateInput w) (params : List UInt8) : Cursor :=
  let pos : Cursor := { done := [], ahead := params }
  let pos := pos.write (slice input.bss.bssid 0 ethAlen)
  let pos := pos.skip 2
  let pos := pos.write (le16Bytes mrvdrvDefaultListenInterval)
  pos.skip 3

/-- The fields, with the rates that are common. The CF parameters are left as they are. -/
def associateFields {w : Nat} (input : AssociateInput w) (rates : List UInt8) (pos : Cursor) :
    Cursor :=
  let tmplen := input.bss.ssidLen.toUInt16
  let pos := (pos.header tlvTypeSsid tmplen).write (slice input.ssid 0 tmplen.toNat)
  let pos := (pos.header tlvTypePhyDs 1).write [input.currentchan]
  let pos := (pos.header tlvTypeCf 6).skip 6
  let tmplen := UInt16.ofNat rates.length
  let pos := (pos.header tlvTypeRates tmplen).write (lbsSetBasicRateFlags rates)
  if input.wpa then
    let tmplen := (byteAt input.wpaIe 1).toUInt16
    (pos.header (byteAt input.wpaIe 0).toUInt16 tmplen).write (slice input.wpaIe 2 tmplen.toNat)
  else pos

/-- `lbs_cmd_80211_associate` on the parameters of a command; `none` for an error. -/
def lbsCmd80211Associate {w : Nat} (settings : RateSettings) (input : AssociateInput w)
    (params : List UInt8) : Option AssociateCmd :=
  match getCommonRates settings (slice input.bss.rates 0 maxRates) with
  | none => none
  | some rates =>
      let pos := associateFields input rates (associateFixed input params)
      if input.countryinfo ≠ 0 then none
      else
        some
          { command := cmd80211Associate
            size := UInt16.ofNat pos.done.length + UInt16.ofNat sDsGen
            params := pos.done.take 6 ++ le16Bytes input.tmpcap ++ pos.done.drop 8 ++ pos.ahead
            rates := rates
            channel := input.currentchan }

/-- The size of the fixed part. -/
def associateFixedSize : Nat := 13

/-- The bytes of the command behind its fixed part. -/
def AssociateCmd.tlvArea (cmd : AssociateCmd) : List UInt8 :=
  (cmd.params.drop associateFixedSize).take (cmd.size.toNat - sDsGen - associateFixedSize)

namespace AssociateInput

variable {w : Nat} (input : AssociateInput w)

/-- The field that is written for a WPA or RSN element. -/
def rsnFields : List Tlv.Field :=
  if input.wpa then
    [{ type := (byteAt input.wpaIe 0).toUInt16
       value := slice input.wpaIe 2 (byteAt input.wpaIe 1).toNat }]
  else []

/-- The fields in front of it. -/
def baseFields (cf rates : List UInt8) : List Tlv.Field :=
  [{ type := tlvTypeSsid, value := slice input.ssid 0 input.bss.ssidLen.toNat },
    { type := tlvTypePhyDs, value := [input.currentchan] },
    { type := tlvTypeCf, value := cf },
    { type := tlvTypeRates, value := lbsSetBasicRateFlags rates }]

end AssociateInput

section Layout

variable {w : Nat} {settings : RateSettings} {input : AssociateInput w} {rates : List UInt8}

theorem length_lbsSetBasicRateFlags (rates : List UInt8) :
    (lbsSetBasicRateFlags rates).length = rates.length :=
  List.length_map _

/-- A header and the bytes it announces are a field. -/
theorem header_write (pos : Cursor) {type tmplen : UInt16} {bytes : List UInt8}
    (announced : tmplen = UInt16.ofNat bytes.length) :
    ((pos.header type tmplen).write bytes).done =
      pos.done ++ Tlv.Field.bytes { type := type, value := bytes } := by
  subst announced
  simp [Cursor.header, Cursor.write, Tlv.Field.bytes, List.append_assoc]

theorem header_skip (pos : Cursor) (type : UInt16) {tmplen : UInt16} {count : Nat}
    (announced : tmplen = UInt16.ofNat count) :
    ∃ bytes : List UInt8, bytes.length = count ∧ ((pos.header type tmplen).skip count).done =
      pos.done ++ Tlv.Field.bytes { type := type, value := bytes } := by
  refine ⟨slice (pos.header type tmplen).ahead 0 count, slice_length _ _ _, ?_⟩
  subst announced
  simp [Cursor.header, Cursor.write, Cursor.skip, Tlv.Field.bytes, List.append_assoc]

theorem toUInt16_eq_ofNat (byte : UInt8) : byte.toUInt16 = UInt16.ofNat byte.toNat := by
  apply UInt16.toNat_inj.mp
  have small := byte.toNat_lt
  rw [UInt8.toNat_toUInt16, UInt16.toNat_ofNat']
  omega

/-- What is written behind the fixed part are the fields. -/
theorem associateFields_done (input : AssociateInput w) (rates : List UInt8) (pos : Cursor) :
    ∃ cf : List UInt8, cf.length = 6 ∧ (associateFields input rates pos).done =
      pos.done ++ Tlv.encode (input.baseFields cf rates ++ input.rsnFields) := by
  have ssidLen : input.bss.ssidLen.toUInt16 =
      UInt16.ofNat (slice input.ssid 0 input.bss.ssidLen.toUInt16.toNat).length := by
    rw [slice_length, UInt8.toNat_toUInt16, toUInt16_eq_ofNat]
  have ieLen : (byteAt input.wpaIe 1).toUInt16 =
      UInt16.ofNat (slice input.wpaIe 2 (byteAt input.wpaIe 1).toUInt16.toNat).length := by
    rw [slice_length, UInt8.toNat_toUInt16, toUInt16_eq_ofNat]
  have ratesLen : UInt16.ofNat rates.length =
      UInt16.ofNat (lbsSetBasicRateFlags rates).length := by
    rw [length_lbsSetBasicRateFlags]
  have one : (1 : UInt16) = UInt16.ofNat [input.currentchan].length := rfl
  rw [associateFields]
  dsimp only
  have left : (6 : UInt16) = UInt16.ofNat 6 := rfl
  obtain ⟨cf, six, skipped⟩ := header_skip
    ((((pos.header tlvTypeSsid input.bss.ssidLen.toUInt16).write
      (slice input.ssid 0 input.bss.ssidLen.toUInt16.toNat)).header tlvTypePhyDs 1).write
        [input.currentchan]) tlvTypeCf left
  refine ⟨cf, six, ?_⟩
  rw [UInt8.toNat_toUInt16] at ssidLen ieLen skipped
  rw [AssociateInput.rsnFields, AssociateInput.baseFields]
  rw [UInt8.toNat_toUInt16, UInt8.toNat_toUInt16]
  split
  · rw [header_write _ ieLen, header_write _ ratesLen, skipped, header_write _ one,
      header_write _ ssidLen]
    simp [Tlv.encode, List.append_assoc]
  · rw [header_write _ ratesLen, skipped, header_write _ one, header_write _ ssidLen]
    simp [Tlv.encode, List.append_assoc]

theorem associateFixed_length (input : AssociateInput w) (params : List UInt8) :
    (associateFixed input params).done.length = associateFixedSize := by
  simp [associateFixed, Cursor.write, Cursor.skip, ethAlen, le16Bytes, associateFixedSize]

theorem getCommonRates_length {common : List UInt8}
    (found : getCommonRates settings rates = some common) : common.length ≤ rates.length := by
  unfold getCommonRates at found
  dsimp only at found
  split at found
  · cases found
  · cases found
    exact List.length_take_le _ _

/-- The fields are short. -/
theorem fields_short (input : AssociateInput w) {cf : List UInt8} (six : cf.length = 6)
    (few : rates.length ≤ maxRates) :
    (∀ field ∈ input.baseFields cf rates ++ input.rsnFields, field.Fits) ∧
      (Tlv.encode (input.baseFields cf rates ++ input.rsnFields)).length ≤ 551 := by
  have ssid := input.bss.ssidLen.toNat_lt
  have ie := (byteAt input.wpaIe 1).toNat_lt
  rw [maxRates] at few
  unfold AssociateInput.rsnFields AssociateInput.baseFields Tlv.Field.Fits
  split
  · constructor
    · simp [length_lbsSetBasicRateFlags, six]
      omega
    · simp [Tlv.encode, length_lbsSetBasicRateFlags, six]
      omega
  · constructor
    · simp [length_lbsSetBasicRateFlags, six]
      omega
    · simp [Tlv.encode, length_lbsSetBasicRateFlags, six]
      omega

/-- The command is the header, the fixed part, and the fields. -/
theorem lbsCmd80211Associate_fields {params : List UInt8} {cmd : AssociateCmd}
    (built : lbsCmd80211Associate settings input params = some cmd) :
    ∃ cf rates : List UInt8, cf.length = 6 ∧
      getCommonRates settings (slice input.bss.rates 0 maxRates) = some rates ∧
      cmd.tlvArea = Tlv.encode (input.baseFields cf rates ++ input.rsnFields) ∧
      cmd.size.toNat = sDsGen + associateFixedSize +
        (Tlv.encode (input.baseFields cf rates ++ input.rsnFields)).length := by
  rw [lbsCmd80211Associate] at built
  cases common : getCommonRates settings (slice input.bss.rates 0 maxRates) with
  | none =>
      rw [common] at built
      cases built
  | some rates =>
      rw [common] at built
      dsimp only at built
      split at built
      · cases built
      · cases built
        have few : rates.length ≤ maxRates := by
          have bound := getCommonRates_length common
          rwa [slice_length] at bound
        obtain ⟨cf, six, done⟩ := associateFields_done input rates
          (associateFixed input params)
        obtain ⟨fits, short⟩ := fields_short input six few
        have fixed := associateFixed_length input params
        refine ⟨cf, rates, six, rfl, ?_⟩
        rw [AssociateCmd.tlvArea]
        dsimp only
        rw [done]
        generalize Tlv.encode (input.baseFields cf rates ++ input.rsnFields) = area at *
        generalize (associateFixed input params).done = front at *
        generalize (associateFields input rates (associateFixed input params)).ahead = ahead
        unfold associateFixedSize at *
        have size : (UInt16.ofNat (front ++ area).length + UInt16.ofNat sDsGen).toNat =
            8 + 13 + area.length := by
          rw [List.length_append, fixed, UInt16.toNat_add, UInt16.toNat_ofNat_of_lt'
            (by show _ < 65536; omega)]
          show (13 + area.length + 8) % 65536 = _
          omega
        refine ⟨?_, size⟩
        rw [size]
        -- The capability goes into the fixed part, in front of the fields.
        have split : (front ++ area).take 6 ++ le16Bytes input.tmpcap ++ (front ++ area).drop 8 ++
              ahead =
            (front.take 6 ++ le16Bytes input.tmpcap ++ front.drop 8) ++ (area ++ ahead) := by
          rw [List.take_append_of_le_length (by omega), List.drop_append_of_le_length (by omega)]
          simp only [List.append_assoc]
        have fixedLength :
            (front.take 6 ++ le16Bytes input.tmpcap ++ front.drop 8).length = 13 := by
          simp [le16Bytes, fixed]
        rw [split, List.drop_left' fixedLength, List.take_left']
        rw [sDsGen]
        omega

end Layout

/-- The field for the element that the user supplied: there is one if and only if WPA or WPA2 is
enabled and an element was set, and its value are the bytes of the element, which end in front of
`wpa_ie_len`. -/
structure AssociateInput.CarriesIe {w : Nat} (input : AssociateInput w)
    (fields : List Tlv.Field) : Prop where
  count : fields.length = if input.wpa ∧ input.assocReq.wpaIeLen ≠ 0 then 1 else 0
  type : ∀ field ∈ fields, field.type = (byteAt input.wpaIe 0).toUInt16
  length : ∀ field ∈ fields, field.value.length = (byteAt input.wpaIe 1).toNat
  own : ∀ field ∈ fields, field.value = slice input.wpaIe 2 field.value.length
  inside : ∀ field ∈ fields, 2 + field.value.length ≤ input.assocReq.wpaIeLen.toNat

/-- The command is decoded into the fields that the request asks for, and its size is that of the
header, the fixed part and the fields. -/
def AssociateInput.LaidOut {w : Nat} (settings : RateSettings) (input : AssociateInput w)
    (cmd : AssociateCmd) : Prop :=
  ∃ (cf rates : List UInt8) (fields : List Tlv.Field), cf.length = 6 ∧
    getCommonRates settings (slice input.bss.rates 0 maxRates) = some rates ∧
    Tlv.decode cmd.tlvArea = some (input.baseFields cf rates ++ fields) ∧
    input.CarriesIe fields ∧
    cmd.size.toNat = sDsGen + associateFixedSize +
      (Tlv.encode (input.baseFields cf rates ++ fields)).length

section LaidOut

variable {w : Nat} {settings : RateSettings} {input : AssociateInput w} {params : List UInt8}
  {cmd : AssociateCmd}

/-- The fields that are written are decoded. -/
theorem decode_tlvArea (built : lbsCmd80211Associate settings input params = some cmd) :
    ∃ cf rates : List UInt8, cf.length = 6 ∧
      getCommonRates settings (slice input.bss.rates 0 maxRates) = some rates ∧
      Tlv.decode cmd.tlvArea = some (input.baseFields cf rates ++ input.rsnFields) ∧
      cmd.size.toNat = sDsGen + associateFixedSize +
        (Tlv.encode (input.baseFields cf rates ++ input.rsnFields)).length := by
  obtain ⟨cf, rates, six, common, area, size⟩ := lbsCmd80211Associate_fields built
  have few : rates.length ≤ maxRates := by
    have bound := getCommonRates_length common
    rwa [slice_length] at bound
  refine ⟨cf, rates, six, common, ?_, size⟩
  rw [area]
  exact Tlv.decode_encode (fields_short input six few).1

/-- A layout as it should be has no other field behind the rates than the one that is written. -/
theorem carriesIe_of_laidOut (built : lbsCmd80211Associate settings input params = some cmd)
    (laidOut : input.LaidOut settings cmd) : input.CarriesIe input.rsnFields := by
  obtain ⟨cf, rates, _, _, written, _⟩ := decode_tlvArea built
  obtain ⟨cf', rates', fields, _, _, decoded, carries, _⟩ := laidOut
  rw [written] at decoded
  obtain ⟨_, same⟩ := List.append_inj (Option.some.inj decoded) rfl
  rw [same]
  exact carries

/-- The field that is written belongs to the user's element if and only if the element ends in
front of `wpa_ie_len`. -/
theorem carriesIe_rsnFields_iff : input.CarriesIe input.rsnFields ↔
    input.wpa = false ∨
      2 + (byteAt input.wpaIe 1).toNat ≤ input.assocReq.wpaIeLen.toNat := by
  rw [AssociateInput.rsnFields]
  cases wpa : input.wpa with
  | false =>
      refine iff_of_true ⟨?_, nofun, nofun, nofun, nofun⟩ (.inl rfl)
      simp [wpa]
  | true =>
      rw [if_pos rfl]
      constructor
      · intro carries
        have inside := carries.inside _ List.mem_cons_self
        rw [slice_length] at inside
        exact .inr inside
      · rintro (disabled | inside)
        · cases disabled
        · have set : input.assocReq.wpaIeLen ≠ 0 := by
            intro empty
            rw [empty] at inside
            exact absurd inside (by simp)
          refine ⟨?_, ?_, ?_, ?_, ?_⟩
          · simp [wpa, set]
          all_goals
            intro field member
            rw [List.mem_singleton] at member
            subst member
            simp [inside]

/-- An ASSOCIATE command is laid out as it should be if and only if WPA and WPA2 are disabled, or
the element that the user supplied is as long as its own length byte says. -/
theorem associate_laidOut_iff (built : lbsCmd80211Associate settings input params = some cmd) :
    input.LaidOut settings cmd ↔
      input.wpa = false ∨
        2 + (byteAt input.wpaIe 1).toNat ≤ input.assocReq.wpaIeLen.toNat := by
  rw [← carriesIe_rsnFields_iff]
  constructor
  · exact carriesIe_of_laidOut built
  · intro carries
    obtain ⟨cf, rates, six, common, decoded, size⟩ := decode_tlvArea built
    exact ⟨cf, rates, input.rsnFields, six, common, decoded, carries, size⟩

end LaidOut

/-- A request with an element of four bytes that announces a number of data bytes. -/
def rsnInput (announced : UInt8) : AssociateInput 32 :=
  { assocReq :=
      { AssocRequest.zero with
        secinfo :=
          { wpaEnabled := false, wpa2Enabled := true, wepEnabled := false, authMode := 1 }
        wpaIe := [0x30, announced, 1, 0] ++ List.replicate 60 0, wpaIeLen := 4 }
    bss := .zero, behindIe := [], behindSsid := [], countryinfo := 0 }

/-- An element with two data bytes arrives as it is. -/
theorem associate_laidOut_two :
    ∃ cmd, lbsCmd80211Associate { enablehwauto := 1, curRate := 0 } (rsnInput 2) [] = some cmd ∧
      (rsnInput 2).LaidOut { enablehwauto := 1, curRate := 0 } cmd :=
  ⟨_, rfl, (associate_laidOut_iff rfl).mpr (.inr (by decide))⟩

/-- An element of four bytes that announces 20 data bytes is sent with the bytes behind it. -/
theorem associate_leaks :
    ¬ ∀ (settings : RateSettings) (input : AssociateInput 32) (params : List UInt8)
        (cmd : AssociateCmd), lbsCmd80211Associate settings input params = some cmd →
      input.LaidOut settings cmd := by
  intro claim
  have laidOut := claim { enablehwauto := 1, curRate := 0 } (rsnInput 20) [] _ rfl
  have built : lbsCmd80211Associate { enablehwauto := 1, curRate := 0 } (rsnInput 20) [] = some _ :=
    rfl
  have carries := carriesIe_of_laidOut built laidOut
  rw [carriesIe_rsnFields_iff] at carries
  exact absurd carries (by decide)

end Libertas
