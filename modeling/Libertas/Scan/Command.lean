import Libertas.Assoc.Associate
import Libertas.Scan.Worker
import Libertas.Stores

/-!
# The SCAN command

`lbs_set_scan` copies the SSID of a request into `scan_ssid`, with the length that the
request gives, and `lbs_do_scan` writes it into the command, together with the
channels of a chunk and the rates. The buffer of the command has a fixed size.

A memory holds the private structure from `scan_ssid` on: 33 bytes of `scan_ssid`,
the byte `scan_ssid_len`, and what comes behind it.
-/

namespace Libertas

open ByteOrder

/-- `TLV_TYPE_CHANLIST`. -/
def tlvTypeChanlist : UInt16 := 0x0101

/-- `sizeof(struct cmd_ds_802_11_scan)`. -/
def sizeofScanCmd : Nat := 15

/-- `sizeof(struct chanscanparamset)`. -/
def sizeofChanScanParamSet : Nat := 7

/-- `CHAN_TLV_MAX_SIZE`, for `MRVDRV_MAX_CHANNELS_PER_SCAN` channels. -/
def chanTlvMaxSize : Nat := 4 + 14 * sizeofChanScanParamSet

/-- `SSID_TLV_MAX_SIZE`: a header and the one byte that the structure declares. -/
def ssidTlvMaxSize : Nat := 4 + 1

/-- `MAX_SCAN_CFG_ALLOC`. -/
def maxScanCfgAlloc : Nat := sizeofScanCmd + chanTlvMaxSize + ssidTlvMaxSize

/-- The data of a scan ioctl in memory. -/
structure IwScanReq where
  /-- The length is that of `struct iw_scan_req`. -/
  complete : Bool
  flags : UInt16
  essidLen : UInt8
  /-- The memory from `essid` on. -/
  essid : Nat → UInt8

namespace IwScanReq

variable (req : IwScanReq)

/-- A network is asked for by its SSID. -/
def thisEssid : Bool :=
  req.complete && req.flags &&& iwScanThisEssid ≠ 0

/-- The request with the bytes that its SSID has. -/
def request : ScanRequest :=
  { complete := req.complete, flags := req.flags
    essid := Store.read req.essid 0 req.essidLen.toNat }

/-- `lbs_set_scan`, on the memory from `scan_ssid` on. -/
def lbsSetScan (mem : Nat → UInt8) : Nat → UInt8 :=
  if req.thisEssid then
    Store.run ({ address := 33, value := req.essidLen, merge := false } ::
      Store.copyTo 0 req.request.essid) mem
  else Store.run [{ address := 33, value := 0, merge := false }] mem

end IwScanReq

/-- `scan_ssid_len`. -/
def scanSsidLen (mem : Nat → UInt8) : UInt8 :=
  mem 33

/-- `lbs_scan_add_ssid_tlv`. -/
def lbsScanAddSsidTlv (mem : Nat → UInt8) : List UInt8 :=
  le16Bytes tlvTypeSsid ++ (le16Bytes (scanSsidLen mem).toUInt16 ++
    Store.read mem 0 (scanSsidLen mem).toNat)

/-- The bytes of a `struct chanscanparamset`. -/
def ChanScanParamSet.bytes (chan : ChanScanParamSet) : List UInt8 :=
  [0, chan.channumber, if chan.passivescan then 1 else 0, 0, 0] ++ le16Bytes chan.maxscantime

/-- `lbs_scan_add_chanlist_tlv`. -/
def lbsScanAddChanlistTlv (chanList : List ChanScanParamSet) : List UInt8 :=
  le16Bytes tlvTypeChanlist ++
    (le16Bytes (UInt16.ofNat (sizeofChanScanParamSet * chanList.length)) ++
      chanList.flatMap ChanScanParamSet.bytes)

/-- The loop of `lbs_scan_add_rates_tlv`: what it writes, with the zero that ends the rates, and
the number of the rates. -/
def scanRatesLoop : List UInt8 → List UInt8 × Nat
  | [] => ([], 0)
  | rate :: rest =>
      if rate = 0 then ([0], 0)
      else
        let tlv := if rate = 0x02 ∨ rate = 0x04 ∨ rate = 0x0b ∨ rate = 0x16 then rate ||| 0x80
          else rate
        (tlv :: (scanRatesLoop rest).1, (scanRatesLoop rest).2 + 1)

/-- `lbs_scan_add_rates_tlv`: what it writes, and the size that it returns. -/
def lbsScanAddRatesTlv : List UInt8 × Nat :=
  (le16Bytes tlvTypeRates ++ (le16Bytes (UInt16.ofNat (scanRatesLoop lbsBgRates).2) ++
    (scanRatesLoop lbsBgRates).1), 4 + (scanRatesLoop lbsBgRates).2)

/-- A SCAN command. -/
structure ScanCommand where
  /-- The bytes written from the start of the buffer on. -/
  written : List UInt8
  size : UInt16
deriving DecidableEq, Repr

/-- `lbs_do_scan`, up to the sending of the command. -/
def lbsDoScan (mem : Nat → UInt8) (bsstype : UInt8) (chanList : List ChanScanParamSet) :
    ScanCommand :=
  let tlvs := (if scanSsidLen mem ≠ 0 then lbsScanAddSsidTlv mem else []) ++
    (if chanList ≠ [] then lbsScanAddChanlistTlv chanList else [])
  let size := UInt16.ofNat (sizeofScanCmd + (tlvs.length + lbsScanAddRatesTlv.2))
  { written := [0, 0] ++ le16Bytes size ++ [0, 0, 0, 0, bsstype, 0, 0, 0, 0, 0, 0] ++
      (tlvs ++ lbsScanAddRatesTlv.1)
    size := size }

/-- The channels of a `TLV_TYPE_CHANLIST` field. -/
def readChannels : List UInt8 → Option (List ChanScanParamSet)
  | [] => some []
  | radiotype :: channumber :: mode :: min0 :: min1 :: max0 :: max1 :: rest =>
      if radiotype = 0 ∧ (mode = 0 ∨ mode = 1) ∧ min0 = 0 ∧ min1 = 0 then
        (readChannels rest).map
          ({ channumber := channumber, maxscantime := le16At [max0, max1] 0
             passivescan := mode = 1 } :: ·)
      else none
  | _ => none

/-- What a field of a SCAN command says. -/
inductive ScanItem
  | ssid (ssid : List UInt8)
  | channels (chanList : List ChanScanParamSet)
  | rates (rates : List UInt8)
deriving DecidableEq, Repr

namespace ScanItem

/-- The meaning of a field. -/
def ofField (field : Tlv.Field) : Option ScanItem :=
  if field.type = tlvTypeSsid then some (.ssid field.value)
  else if field.type = tlvTypeChanlist then (readChannels field.value).map .channels
  else if field.type = tlvTypeRates then some (.rates field.value)
  else none

/-- The supported rates, with the flag of the basic ones. -/
def supported : List UInt8 :=
  lbsSetBasicRateFlags (lbsBgRates.takeWhile (· ≠ 0))

/-- What a command for an SSID and some channels is to say. An empty SSID stands for all
networks. -/
def wanted (ssid : List UInt8) (chanList : List ChanScanParamSet) : List ScanItem :=
  (if ssid = [] then [] else [.ssid ssid]) ++
    (if chanList = [] then [] else [.channels chanList]) ++ [.rates supported]

end ScanItem

/-- The fields of a command, decoded in order. -/
def ScanCommand.items (cmd : ScanCommand) : Option (List ScanItem) :=
  (Tlv.decode ((cmd.written.take cmd.size.toNat).drop sizeofScanCmd)).bind
    fun fields => fields.mapM ScanItem.ofField

/-- The command for a chunk after a request stays inside its buffer, and says what was asked
for. -/
structure ScanEncoded (req : IwScanReq) (mem : Nat → UInt8) (bsstype : UInt8)
    (chanList : List ChanScanParamSet) : Prop where
  fits : (lbsDoScan (req.lbsSetScan mem) bsstype chanList).written.length ≤ maxScanCfgAlloc
  ssidLen : (scanSsidLen (req.lbsSetScan mem)).toNat ≤ iwEssidMaxSize
  decoded : (lbsDoScan (req.lbsSetScan mem) bsstype chanList).items =
    some (ScanItem.wanted req.request.ssid chanList)

section Fields

variable {chanList : List ChanScanParamSet}

theorem length_bytes (chan : ChanScanParamSet) : chan.bytes.length = sizeofChanScanParamSet :=
  rfl

theorem length_flatMap_bytes (chanList : List ChanScanParamSet) :
    (chanList.flatMap ChanScanParamSet.bytes).length =
      sizeofChanScanParamSet * chanList.length := by
  induction chanList with
  | nil => rfl
  | cons chan rest ih =>
      rw [List.flatMap_cons, List.length_append, ih, length_bytes, List.length_cons]
      exact (Nat.add_comm _ _).trans (Nat.mul_succ _ _).symm

/-- The channels are read back. -/
theorem readChannels_flatMap (chanList : List ChanScanParamSet) :
    readChannels (chanList.flatMap ChanScanParamSet.bytes) = some chanList := by
  induction chanList with
  | nil => rfl
  | cons chan rest ih =>
      obtain ⟨channumber, maxscantime, passivescan⟩ := chan
      have time : le16At [maxscantime.toUInt8, (maxscantime >>> 8).toUInt8] 0 = maxscantime :=
        le16At_le16Bytes maxscantime []
      have mode : (if passivescan then (1 : UInt8) else 0) = 0 ∨
          (if passivescan then (1 : UInt8) else 0) = 1 := by
        cases passivescan <;> decide
      have passive : decide ((if passivescan then (1 : UInt8) else 0) = 1) = passivescan := by
        cases passivescan <;> rfl
      rw [List.flatMap_cons]
      show readChannels (0 :: channumber :: (if passivescan then 1 else 0) :: 0 :: 0 ::
        maxscantime.toUInt8 :: (maxscantime >>> 8).toUInt8 ::
          rest.flatMap ChanScanParamSet.bytes) = _
      rw [readChannels, if_pos ⟨rfl, mode, rfl, rfl⟩, ih, time, passive]
      rfl

/-- The fields of a command. -/
def scanFields (mem : Nat → UInt8) (chanList : List ChanScanParamSet) : List Tlv.Field :=
  (if scanSsidLen mem ≠ 0 then
    [{ type := tlvTypeSsid, value := Store.read mem 0 (scanSsidLen mem).toNat }] else []) ++
  (if chanList ≠ [] then
    [{ type := tlvTypeChanlist, value := chanList.flatMap ChanScanParamSet.bytes }] else []) ++
  [{ type := tlvTypeRates, value := ScanItem.supported }]

theorem lbsScanAddSsidTlv_eq (mem : Nat → UInt8) :
    lbsScanAddSsidTlv mem = Tlv.Field.bytes
      { type := tlvTypeSsid, value := Store.read mem 0 (scanSsidLen mem).toNat } := by
  rw [lbsScanAddSsidTlv, Tlv.Field.bytes, toUInt16_eq_ofNat, Store.read_length]

theorem lbsScanAddChanlistTlv_eq (chanList : List ChanScanParamSet) :
    lbsScanAddChanlistTlv chanList = Tlv.Field.bytes
      { type := tlvTypeChanlist, value := chanList.flatMap ChanScanParamSet.bytes } := by
  rw [lbsScanAddChanlistTlv, Tlv.Field.bytes, length_flatMap_bytes]

/-- The rates are written with the zero behind them, which does not count. -/
theorem lbsScanAddRatesTlv_eq :
    lbsScanAddRatesTlv.1 =
        Tlv.Field.bytes { type := tlvTypeRates, value := ScanItem.supported } ++ [0] ∧
      lbsScanAddRatesTlv.2 =
        (Tlv.Field.bytes { type := tlvTypeRates, value := ScanItem.supported }).length := by
  decide

/-- A command is its fixed part, the fields and a zero. -/
theorem lbsDoScan_eq (mem : Nat → UInt8) (bsstype : UInt8) (chanList : List ChanScanParamSet) :
    ∃ fixed : List UInt8, fixed.length = sizeofScanCmd ∧
      (lbsDoScan mem bsstype chanList).written =
        fixed ++ (Tlv.encode (scanFields mem chanList) ++ [0]) ∧
      (lbsDoScan mem bsstype chanList).size =
        UInt16.ofNat (sizeofScanCmd + (Tlv.encode (scanFields mem chanList)).length) := by
  have tlvs : Tlv.encode (scanFields mem chanList) =
      ((if scanSsidLen mem ≠ 0 then lbsScanAddSsidTlv mem else []) ++
        (if chanList ≠ [] then lbsScanAddChanlistTlv chanList else [])) ++
          Tlv.Field.bytes { type := tlvTypeRates, value := ScanItem.supported } := by
    rw [lbsScanAddSsidTlv_eq, lbsScanAddChanlistTlv_eq]
    rw [scanFields, Tlv.encode]
    rw [List.flatMap_append, List.flatMap_append]
    congr 1
    congr 1 <;> split <;> simp
  rw [tlvs, List.length_append, List.append_assoc, ← lbsScanAddRatesTlv_eq.1,
    ← lbsScanAddRatesTlv_eq.2]
  exact ⟨_, rfl, rfl, rfl⟩

theorem length_encode_scanFields (mem : Nat → UInt8) (few : chanList.length ≤ 4) :
    (Tlv.encode (scanFields mem chanList)).length ≤ 52 + (scanSsidLen mem).toNat := by
  have rates : ScanItem.supported.length = 12 := rfl
  have size : sizeofChanScanParamSet = 7 := rfl
  rw [scanFields, Tlv.encode]
  rw [List.flatMap_append, List.flatMap_append, List.length_append, List.length_append]
  split <;> split <;>
    simp only [List.flatMap_cons, List.flatMap_nil, List.append_nil, Tlv.Field.length_bytes,
      Store.read_length, length_flatMap_bytes, List.length_nil, rates, size] <;>
    omega

theorem ofField_ssid (ssid : List UInt8) :
    ScanItem.ofField { type := tlvTypeSsid, value := ssid } = some (.ssid ssid) :=
  rfl

theorem ofField_chanlist (chanList : List ChanScanParamSet) :
    ScanItem.ofField
        { type := tlvTypeChanlist, value := chanList.flatMap ChanScanParamSet.bytes } =
      some (.channels chanList) := by
  have other : tlvTypeChanlist ≠ tlvTypeSsid := by decide
  rw [ScanItem.ofField, if_neg other, if_pos rfl, readChannels_flatMap]
  rfl

theorem ofField_rates (rates : List UInt8) :
    ScanItem.ofField { type := tlvTypeRates, value := rates } = some (.rates rates) :=
  rfl

/-- The fields say what the command is to say. -/
theorem mapM_scanFields (mem : Nat → UInt8) (chanList : List ChanScanParamSet) :
    (scanFields mem chanList).mapM ScanItem.ofField =
      some (ScanItem.wanted (Store.read mem 0 (scanSsidLen mem).toNat) chanList) := by
  have empty : Store.read mem 0 (scanSsidLen mem).toNat = [] ↔ scanSsidLen mem = 0 := by
    rw [← List.length_eq_zero_iff, Store.read_length]
    exact UInt8.toNat_inj (b := 0)
  simp only [scanFields, ScanItem.wanted, empty]
  by_cases none_asked : scanSsidLen mem = 0 <;> by_cases no_channel : chanList = [] <;>
    simp [none_asked, no_channel, ofField_ssid, ofField_chanlist, ofField_rates]

/-- The firmware reads the command as it is in the private structure. -/
theorem items_lbsDoScan (mem : Nat → UInt8) (bsstype : UInt8) (few : chanList.length ≤ 4) :
    (lbsDoScan mem bsstype chanList).items =
      some (ScanItem.wanted (Store.read mem 0 (scanSsidLen mem).toNat) chanList) := by
  obtain ⟨fixed, length, written, size⟩ := lbsDoScan_eq mem bsstype chanList
  have bound := length_encode_scanFields mem few
  have byte : (scanSsidLen mem).toNat < 256 := (scanSsidLen mem).toNat_lt
  have whole : (lbsDoScan mem bsstype chanList).size.toNat =
      fixed.length + (Tlv.encode (scanFields mem chanList)).length := by
    rw [size, UInt16.toNat_ofNat', length]
    have fifteen : sizeofScanCmd = 15 := rfl
    exact Nat.mod_eq_of_lt (by omega)
  have fits : ∀ field ∈ scanFields mem chanList, field.Fits := by
    intro field member
    have part : field.bytes.length ≤ (Tlv.encode (scanFields mem chanList)).length :=
      (List.sublist_flatten_of_mem (List.mem_map_of_mem member)).length_le
    rw [Tlv.Field.length_bytes] at part
    show field.value.length < 2 ^ 16
    omega
  have area : ((lbsDoScan mem bsstype chanList).written.take
      (lbsDoScan mem bsstype chanList).size.toNat).drop sizeofScanCmd =
        Tlv.encode (scanFields mem chanList) := by
    rw [whole, written, List.take_length_add_append, List.take_left, ← length, List.drop_left]
  rw [ScanCommand.items, area, Tlv.decode_encode fits]
  exact mapM_scanFields mem chanList

end Fields

section Requests

variable {req : IwScanReq} {chanList : List ChanScanParamSet}

/-- Commands that say the same are for one SSID. -/
theorem ssid_eq_of_wanted_eq {ssid ssid' : List UInt8}
    (same : ScanItem.wanted ssid chanList = ScanItem.wanted ssid' chanList) : ssid = ssid' := by
  unfold ScanItem.wanted at same
  rw [List.append_left_inj, List.append_left_inj] at same
  split at same <;> split at same
  · rename_i empty empty'
    rw [empty, empty']
  · cases same
  · cases same
  · simpa using same

theorem length_request_ssid (asks : req.thisEssid = true) :
    req.request.ssid.length = req.essidLen.toNat := by
  have essid : req.request.ssid = req.request.essid := if_pos asks
  rw [essid]
  exact Store.read_length _ _ _

/-- A request for no network leaves no SSID behind. -/
theorem lbsSetScan_broadcast (mem : Nat → UInt8) (other : req.thisEssid = false) :
    scanSsidLen (req.lbsSetScan mem) = 0 ∧ req.request.ssid = [] := by
  constructor
  · rw [IwScanReq.lbsSetScan, scanSsidLen]
    simp [other, Store.run, Store.apply]
  · exact if_neg (by rw [Bool.not_eq_true]; exact other)

/-- An SSID that ends before `scan_ssid_len` is stored with its length. -/
theorem lbsSetScan_essid (mem : Nat → UInt8) (asks : req.thisEssid = true)
    (short : req.essidLen.toNat ≤ 33) :
    scanSsidLen (req.lbsSetScan mem) = req.essidLen ∧
      Store.read (req.lbsSetScan mem) 0 req.essidLen.toNat = req.request.ssid := by
  have essid : req.request.ssid = req.request.essid := if_pos asks
  have length : req.request.essid.length = req.essidLen.toNat := Store.read_length _ _ _
  rw [IwScanReq.lbsSetScan, scanSsidLen]
  rw [if_pos asks, Store.run]
  constructor
  · rw [Store.run_copyTo_of_apart (.inr (by omega))]
    simp [Store.apply]
  · rw [essid, ← length]
    exact Store.read_copyTo

/-- What `lbs_set_scan` leaves in memory and `lbs_do_scan` makes of it is the encoding of the
request, unless the SSID is longer than `IW_ESSID_MAX_SIZE`. -/
theorem scan_encoded_iff (req : IwScanReq) (mem : Nat → UInt8) (bsstype : UInt8)
    {chanList : List ChanScanParamSet} (few : chanList.length ≤ 4) :
    ScanEncoded req mem bsstype chanList ↔
      ¬(req.thisEssid = true ∧ iwEssidMaxSize < req.essidLen.toNat) := by
  have items := items_lbsDoScan (req.lbsSetScan mem) bsstype few
  have max : iwEssidMaxSize = 32 := rfl
  constructor
  · rintro ⟨-, ssidLen, decoded⟩ ⟨asks, long⟩
    rw [items, Option.some.injEq] at decoded
    have lengths := congrArg List.length (ssid_eq_of_wanted_eq decoded)
    rw [Store.read_length, length_request_ssid asks] at lengths
    omega
  · intro short
    have stored : (scanSsidLen (req.lbsSetScan mem)).toNat ≤ iwEssidMaxSize ∧
        Store.read (req.lbsSetScan mem) 0 (scanSsidLen (req.lbsSetScan mem)).toNat =
          req.request.ssid := by
      cases asks : req.thisEssid with
      | false =>
          obtain ⟨none_asked, empty⟩ := lbsSetScan_broadcast mem asks
          rw [none_asked, empty]
          exact ⟨Nat.zero_le _, rfl⟩
      | true =>
          have fits : req.essidLen.toNat ≤ 32 := by
            by_contra long
            exact short ⟨asks, by omega⟩
          obtain ⟨len, ssid⟩ := lbsSetScan_essid mem asks (by omega)
          rw [len]
          exact ⟨fits, ssid⟩
    obtain ⟨ssidLen, ssid⟩ := stored
    refine ⟨?_, ssidLen, by rw [items, ssid]⟩
    obtain ⟨fixed, length, written, -⟩ := lbsDoScan_eq (req.lbsSetScan mem) bsstype chanList
    have bound := length_encode_scanFields (req.lbsSetScan mem) few
    have fifteen : sizeofScanCmd = 15 := rfl
    have alloc : maxScanCfgAlloc = 122 := rfl
    rw [written, List.length_append, List.length_append, List.length_singleton]
    omega

/-- A request for the network "home", and two channels. -/
theorem scan_encoded_home :
    ScanEncoded ⟨true, iwScanThisEssid, 4, fun i => [104, 111, 109, 101].getD i 0⟩ (fun _ => 0) 3
      [⟨1, 100, false⟩, ⟨12, 100, true⟩] :=
  (scan_encoded_iff _ _ 3 (by decide)).mpr (by decide)

/-- A request with the length 255 and bytes 255. -/
def longEssid : IwScanReq :=
  { complete := true, flags := iwScanThisEssid, essidLen := 255, essid := fun _ => 255 }

/-- The copied bytes overwrite `scan_ssid_len` and what is behind it, and the command is written
over the end of its buffer. -/
theorem scan_ssid_overflows : ¬ScanEncoded longEssid (fun _ => 0) 3 [⟨1, 100, false⟩] ∧
    scanSsidLen (longEssid.lbsSetScan fun _ => 0) = 255 ∧
    (lbsDoScan (longEssid.lbsSetScan fun _ => 0) 3 [⟨1, 100, false⟩]).written.length = 302 := by
  have len : scanSsidLen (longEssid.lbsSetScan fun _ => 0) = 255 := by decide +kernel
  have long : (lbsDoScan (longEssid.lbsSetScan fun _ => 0) 3
      [⟨1, 100, false⟩]).written.length = 302 := by
    decide +kernel
  refine ⟨fun encoded => ?_, len, long⟩
  have ssidLen := encoded.ssidLen
  rw [len] at ssidLen
  exact absurd ssidLen (by decide)

end Requests

end Libertas
