import Libertas.Scan.Table

/-!
# The beacon parser

`lbs_process_bss` fills a descriptor from a record: a fixed part, and
information elements, of which each has a type and a length in front of its data.
The parser is given the memory from the record on and the size of the record,
and a position counts from the beginning of the record.

`reads`, `copies` and `accepted` are not in the source: the stretches of memory
that are read, the copies into the descriptor with the size of their destination,
and the elements that are accepted, newest first. Of what a copy that is too long
overwrites behind its destination only the bit rates are modelled: with the natural
alignment they lie 55 bytes behind the SSID. Debugging output is left out.
-/

namespace Libertas

open ByteOrder

/-- The types of `enum ieee80211_mfie` that the parser knows. -/
inductive MfieType
  | ssid
  | rates
  | fhSet
  | dsSet
  | cfSet
  | ibssSet
  | country
  | rsn
  | ratesEx
  | generic
  | other
deriving DecidableEq, Repr

/-- The type that an element identifier stands for. -/
def mfieType (id : UInt8) : MfieType :=
  if id = 0 then .ssid
  else if id = 1 then .rates
  else if id = 2 then .fhSet
  else if id = 3 then .dsSet
  else if id = 4 then .cfSet
  else if id = 6 then .ibssSet
  else if id = 7 then .country
  else if id = 48 then .rsn
  else if id = 50 then .ratesEx
  else if id = 221 then .generic
  else .other

/-- `MAX_RATES`, `MARVELL_MESH_IE_LENGTH` and `COUNTRY_CODE_LEN`. -/
def maxRates : Nat := 14
def marvellMeshIeLength : Nat := 9
def countryCodeLen : Nat := 3

/-- How far the fields of `struct bss_descriptor` lie behind `ssid`. -/
def ssidToSsidLen : Nat := 33
def ssidToCapability : Nat := 34
def ssidToRssi : Nat := 38
def ssidToChannel : Nat := 42
def ssidToBeaconperiod : Nat := 46
def ssidToAtimwindow : Nat := 50
def ssidToMode : Nat := 54
def ssidToRates : Nat := 55

/-- The same for the parameter sets, which come behind `last_scanned` and its padding. -/
def ssidToSets (w : Nat) : Nat :=
  (76 + (w / 8 - 1)) / (w / 8) * (w / 8) + w / 8 - 6

/-- `WLAN_CAPABILITY_IBSS`. -/
def wlanCapabilityIbss : UInt16 := 2

/-- The first data bytes of a WPA element and of a mesh element. -/
def wpaOui : List UInt8 := [0x00, 0x50, 0xf2, 0x01]
def meshOui : List UInt8 := [0x00, 0x50, 0x43, 0x04]

/-- A stretch of memory. -/
structure Extent where
  offset : Nat
  count : Nat
deriving DecidableEq, Repr

/-- All bytes of a stretch are in front of a bound. -/
def Extent.Within (bound : Nat) (extent : Extent) : Prop :=
  extent.count = 0 ∨ extent.offset + extent.count ≤ bound

instance (bound : Nat) (extent : Extent) : Decidable (extent.Within bound) := by
  unfold Extent.Within
  infer_instance

/-- A copy: the size of its destination, and the number of bytes. -/
structure BssCopy where
  capacity : Nat
  count : Nat
deriving DecidableEq, Repr

/-- `struct ieee80211_info_element`, with its position. -/
structure InfoElement where
  pos : Nat
  id : UInt8
  len : UInt8
deriving DecidableEq, Repr

/-- The header of an element. -/
def elementAt (mem : List UInt8) (pos : Nat) : InfoElement :=
  { pos := pos, id := byteAt mem pos, len := byteAt mem (pos + 1) }

namespace InfoElement

variable (elem : InfoElement)

def type : MfieType :=
  mfieType elem.id

/-- The position of the data. -/
def data : Nat :=
  elem.pos + 2

/-- The position behind the element. -/
def next : Nat :=
  elem.pos + elem.len.toNat + 2

/-- The loop lets the element pass. -/
def passes (size : Nat) : Bool :=
  elem.pos + elem.len.toNat ≤ size

/-- The parser gives up because of the length of a country element. -/
def rejected : Bool :=
  elem.type = .country && (elem.len.toNat < countryCodeLen || elem.len.toNat > 254)

/-- The parser takes the element. -/
def taken (size : Nat) : Bool :=
  elem.passes size && !elem.rejected

end InfoElement

/-- How many bytes a comparison with a pattern looks at. It stops at the first difference. -/
def compared (mem : List UInt8) (offset : Nat) : List UInt8 → Nat
  | [] => 0
  | byte :: rest => 1 + if byteAt mem offset = byte then compared mem (offset + 1) rest else 0

/-- What `lbs_process_bss` works on. -/
structure BeaconParse (w : Nat) where
  bss : BssDescriptor w
  nBasicRates : Nat
  gotBasicRates : Bool
  reads : List Extent
  copies : List BssCopy
  accepted : List InfoElement
deriving DecidableEq

namespace BeaconParse

variable {w : Nat} (s : BeaconParse w) (mem : List UInt8) (elem : InfoElement)

/-- Bytes of the record are read. -/
def read (offset count : Nat) : BeaconParse w :=
  { s with reads := { offset := offset, count := count } :: s.reads }

/-- Bytes of the record are copied. -/
def copy (capacity offset count : Nat) : BeaconParse w :=
  { s.read offset count with copies := { capacity := capacity, count := count } :: s.copies }

/-- A field behind `ssid` when the bytes of an SSID were copied over it. -/
def spilled (offset : Nat) (field : List UInt8) : List UInt8 :=
  overwrite (slice mem (elem.data + offset) (min (elem.len.toNat - offset) field.length)) field

/-- `MFIE_TYPE_SSID`. -/
def onSsid : BeaconParse w :=
  -- The length is not checked, and the bytes of a long element reach the fields behind.
  let spilledRates := min (elem.len.toNat - ssidToRates) (maxRates + 1)
  let sets := ssidToSets w
  { s.copy (iwEssidMaxSize + 1) elem.data elem.len.toNat with
    bss := { s.bss with
      ssid := overwrite (slice mem elem.data elem.len.toNat) s.bss.ssid
      ssidLen := byteAt (spilled mem elem ssidToSsidLen [elem.len]) 0
      capability := le16At (spilled mem elem ssidToCapability (le16Bytes s.bss.capability)) 0
      rssi := le32At (spilled mem elem ssidToRssi (le32Bytes s.bss.rssi)) 0
      channel := le32At (spilled mem elem ssidToChannel (le32Bytes s.bss.channel)) 0
      beaconperiod :=
        le16At (spilled mem elem ssidToBeaconperiod (le16Bytes s.bss.beaconperiod)) 0
      atimwindow := le32At (spilled mem elem ssidToAtimwindow (le32Bytes s.bss.atimwindow)) 0
      mode := byteAt (spilled mem elem ssidToMode [s.bss.mode]) 0
      rates := overwrite (slice mem (elem.data + ssidToRates) spilledRates) s.bss.rates
      -- `last_scanned` is written behind the loop.
      phyparamset := spilled mem elem sets s.bss.phyparamset
      ssparamset := spilled mem elem (sets + 7) s.bss.ssparamset
      countryinfo := spilled mem elem (sets + 15) s.bss.countryinfo } }

/-- `MFIE_TYPE_RATES`. -/
def onRates : BeaconParse w :=
  let nBasicRates := min maxRates elem.len.toNat
  { s.copy (maxRates + 1) elem.data nBasicRates with
    nBasicRates := nBasicRates, gotBasicRates := true
    bss := { s.bss with rates := overwrite (slice mem elem.data nBasicRates) s.bss.rates } }

/-- `MFIE_TYPE_FH_SET`. -/
def onFhSet : BeaconParse w :=
  { s.copy 7 elem.pos 7 with
    bss := { s.bss with phyparamset := overwrite (slice mem elem.pos 7) s.bss.phyparamset } }

/-- `MFIE_TYPE_DS_SET`. -/
def onDsSet : BeaconParse w :=
  { (s.read elem.data 1).copy 3 elem.pos 3 with
    bss := { s.bss with
      channel := (byteAt mem elem.data).toUInt32
      phyparamset := overwrite (slice mem elem.pos 3) s.bss.phyparamset } }

/-- `MFIE_TYPE_CF_SET`. -/
def onCfSet : BeaconParse w :=
  { s.copy 8 elem.pos 8 with
    bss := { s.bss with ssparamset := overwrite (slice mem elem.pos 8) s.bss.ssparamset } }

/-- `MFIE_TYPE_IBSS_SET`. -/
def onIbssSet : BeaconParse w :=
  { (s.read elem.data 2).copy 4 elem.pos 4 with
    bss := { s.bss with
      atimwindow := (le16At mem elem.data).toUInt32
      ssparamset := overwrite (slice mem elem.pos 4) s.bss.ssparamset } }

/-- `MFIE_TYPE_COUNTRY`, when the length is accepted. -/
def onCountry : BeaconParse w :=
  -- The last bytes of the longest elements reach `wpa_ie`.
  let spilledIe := elem.len.toNat + 2 - 254
  { s.copy 254 elem.pos (elem.len.toNat + 2) with
    bss := { s.bss with
      countryinfo := overwrite (slice mem elem.pos (elem.len.toNat + 2)) s.bss.countryinfo
      wpaIe := overwrite (slice mem (elem.pos + 254) spilledIe) s.bss.wpaIe } }

/-- `MFIE_TYPE_RATES_EX`. -/
def onRatesEx : BeaconParse w :=
  if !s.gotBasicRates then s
  else
    let nExRates :=
      if s.nBasicRates + elem.len.toNat > maxRates then maxRates - s.nBasicRates
      else elem.len.toNat
    { s.copy (maxRates + 1 - s.nBasicRates) elem.data nExRates with
      bss := { s.bss with
        rates := s.bss.rates.take s.nBasicRates ++
          overwrite (slice mem elem.data nExRates) (s.bss.rates.drop s.nBasicRates) } }

/-- The copy of a WPA element. -/
def onWpa : BeaconParse w :=
  let len := min (elem.len.toNat + 2) maxWpaIeLen
  { s.copy maxWpaIeLen elem.pos len with
    bss := { s.bss with
      wpaIeLen := len, wpaIe := overwrite (slice mem elem.pos len) s.bss.wpaIe } }

/-- `MFIE_TYPE_GENERIC`. -/
def onGeneric : BeaconParse w :=
  if elem.len.toNat < 4 then s
  else
    let s := s.read elem.data (compared mem elem.data wpaOui)
    if slice mem elem.data 4 = wpaOui then s.onWpa mem elem
    else if elem.len.toNat < marvellMeshIeLength then s
    else
      let s := s.read elem.data (compared mem elem.data meshOui)
      if slice mem elem.data 4 = meshOui then { s with bss := { s.bss with mesh := true } }
      else s

/-- `MFIE_TYPE_RSN`. -/
def onRsn : BeaconParse w :=
  let len := min (elem.len.toNat + 2) maxWpaIeLen
  { s.copy maxWpaIeLen elem.pos len with
    bss := { s.bss with
      rsnIeLen := len, rsnIe := overwrite (slice mem elem.pos len) s.bss.rsnIe } }

/-- The switch over the type of an element that is not rejected. -/
def onElement : BeaconParse w :=
  match elem.type with
  | .ssid => s.onSsid mem elem
  | .rates => s.onRates mem elem
  | .fhSet => s.onFhSet mem elem
  | .dsSet => s.onDsSet mem elem
  | .cfSet => s.onCfSet mem elem
  | .ibssSet => s.onIbssSet mem elem
  | .country => s.onCountry mem elem
  | .rsn => s.onRsn mem elem
  | .ratesEx => s.onRatesEx mem elem
  | .generic => s.onGeneric mem elem
  | .other => s

/-- An element is accepted. -/
def accept : BeaconParse w :=
  { s with accepted := elem :: s.accepted }

/-- The loop over the information elements: `false` if it gives up. -/
def ieLoop (size : Nat) : Nat → Nat → BeaconParse w → BeaconParse w × Bool
  | 0, _, s => (s, true)
  | fuel + 1, pos, s =>
      if pos + 2 ≤ size then
        let elem := elementAt mem pos
        let s := s.read (pos + 1) 1
        if pos + elem.len.toNat > size then (s, true)
        else
          let s := s.read pos 1
          if elem.rejected then (s, false)
          else ieLoop size fuel elem.next ((s.accept elem).onElement mem elem)
      else (s, true)

/-- The fixed part behind the BSSID. -/
def fixedPart : BeaconParse w :=
  let capability := le16At mem 17
  { ((s.read 6 1).read 15 2).read 17 2 with
    bss := { s.bss with
      rssi := (byteAt mem 6).toUInt32
      beaconperiod := le16At mem 15
      capability := capability
      mode := if capability &&& wlanCapabilityIbss ≠ 0 then iwModeAdhoc else iwModeInfra } }

/-- `lbs_unset_basic_rate_flags`. -/
def unsetBasicRateFlags : BeaconParse w :=
  { s with bss := { s.bss with rates := s.bss.rates.map (· &&& 0x7f) } }

/-- A cleared descriptor, and nothing read yet. -/
def start : BeaconParse w :=
  { bss := .zero, nBasicRates := 0, gotBasicRates := false, reads := [], copies := []
    accepted := [] }

/-- The BSSID is copied, without a look at the size. -/
def takeBssid : BeaconParse w :=
  { s.copy ethAlen 0 ethAlen with bss := { s.bss with bssid := slice mem 0 ethAlen } }

end BeaconParse

/-- `lbs_process_bss` on a record of a size: `false` for an error. -/
def processRecord {w : Nat} (mem : List UInt8) (size : Nat) : BeaconParse w × Bool :=
  if size = 0 then (.start, false)
  else
    let s := BeaconParse.start.takeBssid mem
    if size < ethAlen + 12 then (s, false)
    else
      let (s, ok) := BeaconParse.ieLoop mem size size 19 (s.fixedPart mem)
      if ok then (s.unsetBasicRateFlags, true) else (s, false)

/-- The descriptor of a record. -/
def interpretRecord {w : Nat} : Interpret w := fun mem size =>
  match processRecord mem size with
  | (s, true) => some s.bss
  | (_, false) => none

/-- The elements whose headers the loop comes to: each begins behind the one before it, and the
last one is not taken, or is followed by less than a header. -/
def headersFrom (mem : List UInt8) (size : Nat) : Nat → Nat → List InfoElement
  | 0, _ => []
  | fuel + 1, pos =>
      if pos + 2 ≤ size then
        let elem := elementAt mem pos
        elem :: if elem.taken size then headersFrom mem size fuel elem.next else []
      else []

/-- The elements of a record. -/
def recordHeaders (mem : List UInt8) (size : Nat) : List InfoElement :=
  if size < ethAlen + 12 then [] else headersFrom mem size size 19

namespace BeaconParse

variable {w : Nat} {mem : List UInt8} {size : Nat}

/-- The header of an element is read, and the element is accepted. -/
def receive (s : BeaconParse w) (elem : InfoElement) : BeaconParse w :=
  ((s.read (elem.pos + 1) 1).read elem.pos 1).accept elem

/-- The loop over a list of elements. -/
def runHeaders (mem : List UInt8) (size : Nat) :
    List InfoElement → BeaconParse w → BeaconParse w × Bool
  | [], s => (s, true)
  | elem :: rest, s =>
      let s := s.read (elem.pos + 1) 1
      if !elem.passes size then (s, true)
      else if elem.rejected then (s.read elem.pos 1, false)
      else runHeaders mem size rest (((s.read elem.pos 1).accept elem).onElement mem elem)

/-- The loop goes over the elements that it comes to. -/
theorem ieLoop_eq (fuel pos : Nat) (s : BeaconParse w) :
    ieLoop mem size fuel pos s = runHeaders mem size (headersFrom mem size fuel pos) s := by
  induction fuel generalizing pos s with
  | zero => rfl
  | succ fuel ih =>
      rw [ieLoop, headersFrom]
      split
      · dsimp only
        unfold runHeaders
        dsimp only
        by_cases passes : pos + (elementAt mem pos).len.toNat ≤ size
        · have passed : (elementAt mem pos).passes size = true := decide_eq_true passes
          rw [InfoElement.taken]
          rw [if_neg (Nat.not_lt.mpr passes), passed]
          cases rejected : (elementAt mem pos).rejected with
          | true => rfl
          | false => exact ih _ _
        · have failed : (elementAt mem pos).passes size = false := decide_eq_false passes
          rw [InfoElement.taken]
          rw [if_pos (Nat.lt_of_not_le passes), failed]
          rfl
      · rfl

end BeaconParse

end Libertas
