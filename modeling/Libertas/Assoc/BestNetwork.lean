import Libertas.Assoc.Build
import Libertas.Scan.Table
import Libertas.Selection

/-!
# The best network in the scan table

`lbs_find_best_ssid_in_list` and `lbs_find_ssid_in_list` go through
`network_list` and keep the entry with the greatest `SCAN_RSSI` of those that fit
the wanted mode and the security settings. `SCAN_RSSI` of the byte 0 is 0x100. The
first function keeps it in a byte, the second one in 32 bits.

An entry fits a mode other than infrastructure or ad-hoc without further
conditions. `tmp_oldest` of the second function has no effect.
-/

namespace Libertas

open ByteOrder

/-- `MFIE_TYPE_GENERIC` and `MFIE_TYPE_RSN`. -/
def mfieTypeGeneric : UInt8 := 221
def mfieTypeRsn : UInt8 := 48

section Compatible

variable {w : Nat} (secinfo : Security) (matchBss : BssDescriptor w)

/-- The privacy bit of the capabilities is set. -/
def BssDescriptor.privacy : Bool :=
  matchBss.capability &&& wlanCapabilityPrivacy ≠ 0

/-- `match_bss_no_security`. -/
def matchBssNoSecurity : Bool :=
  !secinfo.wepEnabled && !secinfo.wpaEnabled && !secinfo.wpa2Enabled &&
    byteAt matchBss.wpaIe 0 ≠ mfieTypeGeneric && byteAt matchBss.rsnIe 0 ≠ mfieTypeRsn &&
    !matchBss.privacy

/-- `match_bss_static_wep`. -/
def matchBssStaticWep : Bool :=
  secinfo.wepEnabled && !secinfo.wpaEnabled && !secinfo.wpa2Enabled && matchBss.privacy

/-- `match_bss_wpa`. -/
def matchBssWpa : Bool :=
  !secinfo.wepEnabled && secinfo.wpaEnabled && byteAt matchBss.wpaIe 0 = mfieTypeGeneric

/-- `match_bss_wpa2`. -/
def matchBssWpa2 : Bool :=
  !secinfo.wepEnabled && secinfo.wpa2Enabled && byteAt matchBss.rsnIe 0 = mfieTypeRsn

/-- `match_bss_dynamic_wep`. -/
def matchBssDynamicWep : Bool :=
  !secinfo.wepEnabled && !secinfo.wpaEnabled && !secinfo.wpa2Enabled &&
    byteAt matchBss.wpaIe 0 ≠ mfieTypeGeneric && byteAt matchBss.rsnIe 0 ≠ mfieTypeRsn &&
    matchBss.privacy

/-- `is_network_compatible`. -/
def isNetworkCompatible (mode : UInt8) : Bool :=
  if matchBss.mode ≠ mode then false
  else
    matchBssNoSecurity secinfo matchBss || matchBssStaticWep secinfo matchBss ||
      matchBssWpa secinfo matchBss || matchBssWpa2 secinfo matchBss ||
      matchBssDynamicWep secinfo matchBss

end Compatible

/-- `SCAN_RSSI`. -/
def scanRssi (rssi : UInt32) : Nat :=
  0x100 - rssi.toUInt8.toNat

/-- `lbs_ssid_cmp` of two SSIDs is 0. -/
def sameSsid (ssid1 : List UInt8) (ssid1Len : UInt8) (ssid2 : List UInt8) (ssid2Len : UInt8) :
    Bool :=
  ssid1Len = ssid2Len && ssid1.take ssid1Len.toNat = ssid2.take ssid1Len.toNat

namespace ScanTable

variable {w : Nat} (table : ScanTable w) (secinfo : Security)

/-- The loop of `lbs_find_best_ssid_in_list`. -/
def findBestLoop (mode : UInt8) :
    List NetworkId → UInt8 → Option NetworkId → Option NetworkId
  | [], _, bestBss => bestBss
  | n :: rest, bestrssi, bestBss =>
      let iterBss := table.networks n
      if mode = iwModeInfra ∨ mode = iwModeAdhoc then
        if !isNetworkCompatible secinfo iterBss mode then findBestLoop mode rest bestrssi bestBss
        else if scanRssi iterBss.rssi ≤ bestrssi.toNat then findBestLoop mode rest bestrssi bestBss
        else findBestLoop mode rest (UInt8.ofNat (scanRssi iterBss.rssi)) (some n)
      else if scanRssi iterBss.rssi ≤ bestrssi.toNat then findBestLoop mode rest bestrssi bestBss
      else findBestLoop mode rest (UInt8.ofNat (scanRssi iterBss.rssi)) (some n)

/-- `lbs_find_best_ssid_in_list`. -/
def lbsFindBestSsidInList (mode : UInt8) : Option NetworkId :=
  table.findBestLoop secinfo mode table.networkList 0 none

/-- What `lbs_find_ssid_in_list` looks for. -/
structure SsidQuery where
  ssid : List UInt8
  ssidLen : UInt8
  /-- `none` when no BSSID is given. -/
  bssid : Option (List UInt8)
  mode : UInt8
  channel : Int

/-- The loop of `lbs_find_ssid_in_list`. -/
def findSsidLoop (query : SsidQuery) :
    List NetworkId → UInt32 → Option NetworkId → Option NetworkId
  | [], _, foundBss => foundBss
  | n :: rest, bestrssi, foundBss =>
      let iterBss := table.networks n
      if !sameSsid iterBss.ssid iterBss.ssidLen query.ssid query.ssidLen then
        findSsidLoop query rest bestrssi foundBss
      else if query.bssid.any (· ≠ iterBss.bssid) then findSsidLoop query rest bestrssi foundBss
      else if query.channel > 0 ∧ (iterBss.channel.toNat : Int) ≠ query.channel then
        findSsidLoop query rest bestrssi foundBss
      else if query.mode = iwModeInfra ∨ query.mode = iwModeAdhoc then
        if !isNetworkCompatible secinfo iterBss query.mode then
          findSsidLoop query rest bestrssi foundBss
        else if query.bssid.isSome then some n
        else if scanRssi iterBss.rssi > bestrssi.toNat then
          findSsidLoop query rest (UInt32.ofNat (scanRssi iterBss.rssi)) (some n)
        else findSsidLoop query rest bestrssi foundBss
      else if scanRssi iterBss.rssi > bestrssi.toNat then
        findSsidLoop query rest (UInt32.ofNat (scanRssi iterBss.rssi)) (some n)
      else findSsidLoop query rest bestrssi foundBss

/-- `lbs_find_ssid_in_list`. -/
def lbsFindSsidInList (query : SsidQuery) : Option NetworkId :=
  table.findSsidLoop secinfo query table.networkList 0 none

end ScanTable

/-- An entry fits the wanted mode and the security settings. -/
def Fitting {w : Nat} (secinfo : Security) (mode : UInt8) (bss : BssDescriptor w) : Bool :=
  (mode ≠ iwModeInfra && mode ≠ iwModeAdhoc) || isNetworkCompatible secinfo bss mode

/-- An entry has the SSID of a query without a BSSID, and its channel if there is one. -/
def Matching {w : Nat} (query : ScanTable.SsidQuery) (bss : BssDescriptor w) : Bool :=
  sameSsid bss.ssid bss.ssidLen query.ssid query.ssidLen &&
    !(query.channel > 0 && (bss.channel.toNat : Int) ≠ query.channel)

namespace ScanTable

variable {w : Nat}

/-- The entries that fit. -/
def candidates (table : ScanTable w) (secinfo : Security) (mode : UInt8) : List NetworkId :=
  table.networkList.filter fun n => Fitting secinfo mode (table.networks n)

/-- The strength by which the entries are ranked. -/
def strength (table : ScanTable w) (n : NetworkId) : Nat :=
  scanRssi (table.networks n).rssi

end ScanTable

section Ranking

variable {w : Nat} {table : ScanTable w} {secinfo : Security} {mode : UInt8} {rssi : UInt32}

theorem scanRssi_range (rssi : UInt32) : 0 < scanRssi rssi ∧ scanRssi rssi ≤ 2 ^ 8 := by
  have byte := rssi.toUInt8.toNat_lt
  rw [scanRssi]
  omega

/-- An entry that does not fit is passed over, and one that does is compared. -/
theorem findBestLoop_cons (n : NetworkId) (rest : List NetworkId) (bestrssi : UInt8)
    (bestBss : Option NetworkId) :
    table.findBestLoop secinfo mode (n :: rest) bestrssi bestBss =
      if Fitting secinfo mode (table.networks n) = true ∧
          bestrssi.toNat < table.strength n then
        table.findBestLoop secinfo mode rest (UInt8.ofNat (table.strength n)) (some n)
      else table.findBestLoop secinfo mode rest bestrssi bestBss := by
  simp only [ScanTable.findBestLoop, Fitting, ScanTable.strength]
  grind

/-- A query without a BSSID passes over the entries that do not fit. -/
theorem findSsidLoop_cons {query : ScanTable.SsidQuery} (any : query.bssid = none) (n : NetworkId)
    (rest : List NetworkId) (bestrssi : UInt32) (foundBss : Option NetworkId) :
    table.findSsidLoop secinfo query (n :: rest) bestrssi foundBss =
      if (Matching query (table.networks n) && Fitting secinfo query.mode (table.networks n)) ∧
          bestrssi.toNat < table.strength n then
        table.findSsidLoop secinfo query rest (UInt32.ofNat (table.strength n)) (some n)
      else table.findSsidLoop secinfo query rest bestrssi foundBss := by
  simp only [ScanTable.findSsidLoop, Fitting, Matching, ScanTable.strength, any]
  grind

theorem lbsFindBestSsidInList_eq :
    table.lbsFindBestSsidInList secinfo mode =
      (Selection.run (2 ^ 8) table.strength (table.candidates secinfo mode)).2 :=
  Selection.loop_eq (fun _ => UInt8.toNat_ofNat') (fun _ _ => rfl)
    (fun n rest best found => findBestLoop_cons n rest best found) _ _ _

/-- The entries that a query without a BSSID is about. -/
def ScanTable.matching (table : ScanTable w) (secinfo : Security) (query : ScanTable.SsidQuery) :
    List NetworkId :=
  table.networkList.filter fun n =>
    Matching query (table.networks n) && Fitting secinfo query.mode (table.networks n)

theorem lbsFindSsidInList_eq {query : ScanTable.SsidQuery} (any : query.bssid = none) :
    table.lbsFindSsidInList secinfo query =
      (Selection.run (2 ^ 32) table.strength (table.matching secinfo query)).2 :=
  Selection.loop_eq (fun _ => UInt32.toNat_ofNat') (fun _ _ => rfl)
    (fun n rest best found => findSsidLoop_cons any n rest best found) _ _ _

/-- In 32 bits the strongest entry is always found. -/
theorem lbsFindSsidInList_argmax {query : ScanTable.SsidQuery} (any : query.bssid = none) :
    table.lbsFindSsidInList secinfo query =
      (table.matching secinfo query).argmax table.strength := by
  have fits : ∀ n ∈ table.matching secinfo query,
      0 < table.strength n ∧ table.strength n < 2 ^ 32 := by
    intro n _
    obtain ⟨positive, most⟩ := scanRssi_range (table.networks n).rssi
    exact ⟨positive, Nat.lt_of_le_of_lt most (by decide)⟩
  rw [lbsFindSsidInList_eq any, Selection.run_eq_argmax fits]

/-- Both functions find the first of the strongest entries exactly if an entry that fits and has the
RSSI byte 0, whose `SCAN_RSSI` is not a byte, is only met as the last one that fits. -/
theorem best_network (secinfo : Security) (mode : UInt8) (query : ScanTable.SsidQuery)
    (linked : table.networkList.Nodup) (any : query.bssid = none) :
    (table.lbsFindBestSsidInList secinfo mode =
        (table.candidates secinfo mode).argmax table.strength ∧
      table.lbsFindSsidInList secinfo query =
        (table.matching secinfo query).argmax table.strength) ↔
      ∀ front n back, table.candidates secinfo mode = front ++ n :: back →
        (table.networks n).rssi.toUInt8 = 0 → back = [] := by
  have within : Selection.Within (2 ^ 8) table.strength (table.candidates secinfo mode) :=
    fun n _ => scanRssi_range (table.networks n).rssi
  have zero : ∀ n, table.strength n = 2 ^ 8 ↔ (table.networks n).rssi.toUInt8 = 0 := by
    intro n
    rw [← UInt8.toNat_inj]
    have byte := (table.networks n).rssi.toUInt8.toNat_lt
    have none : (0 : UInt8).toNat = 0 := rfl
    rw [ScanTable.strength, scanRssi]
    omega
  rw [lbsFindBestSsidInList_eq, and_iff_left (lbsFindSsidInList_argmax any),
    Selection.run_eq_argmax_iff within (linked.filter _)]
  simp only [Selection.OverflowsLast, zero]

end Ranking

/-- Two open networks, the first one with the RSSI byte 0. -/
def twoNetworks (networkList : List NetworkId) : ScanTable 32 :=
  { networks := fun n =>
      { BssDescriptor.zero with mode := iwModeInfra, rssi := if n = 0 then 0 else 40 }
    networkList := networkList, networkFreeList := [] }

/-- No encryption. -/
def openSecurity : Security :=
  { wpaEnabled := false, wpa2Enabled := false, wepEnabled := false, authMode := 0 }

/-- A query for the SSID of these networks. -/
def anyQuery : ScanTable.SsidQuery :=
  { ssid := [], ssidLen := 0, bssid := none, mode := iwModeInfra, channel := 0 }

theorem best_network_last :
    ((twoNetworks [1, 0]).lbsFindBestSsidInList openSecurity iwModeInfra =
        ((twoNetworks [1, 0]).candidates openSecurity iwModeInfra).argmax
          (twoNetworks [1, 0]).strength ∧
      (twoNetworks [1, 0]).lbsFindSsidInList openSecurity anyQuery =
        ((twoNetworks [1, 0]).matching openSecurity anyQuery).argmax
          (twoNetworks [1, 0]).strength) ↔
      ∀ front n back,
        (twoNetworks [1, 0]).candidates openSecurity iwModeInfra = front ++ n :: back →
        ((twoNetworks [1, 0]).networks n).rssi.toUInt8 = 0 → back = [] :=
  best_network openSecurity iwModeInfra anyQuery (by decide) rfl

/-- The strongest network is listed first, and the second one is found. -/
theorem best_network_missed :
    (twoNetworks [0, 1]).networkList.Nodup ∧
      ((twoNetworks [0, 1]).candidates openSecurity iwModeInfra).argmax
          (twoNetworks [0, 1]).strength = some 0 ∧
      (twoNetworks [0, 1]).lbsFindBestSsidInList openSecurity iwModeInfra = some 1 ∧
      (twoNetworks [0, 1]).lbsFindSsidInList openSecurity anyQuery = some 0 := by
  refine ⟨by decide, by decide +kernel, by decide +kernel, by decide +kernel⟩

end Libertas
