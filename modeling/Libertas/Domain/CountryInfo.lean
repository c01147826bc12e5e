import Mathlib.Data.List.Basic
import Libertas.ByteOrder
import Libertas.Domain.Subbands
import Libertas.Region
import Libertas.Scan.Beacon

/-!
# The country element of a beacon

`parse_domain_info_11d` goes through the sub-bands that an access point announces
and keeps the channels that the region of its country supports. A sub-band is
skipped when it does not begin behind the last channel that was looked at, and it
ends with the table of all channels.
-/

namespace Libertas

open ByteOrder

/-- `struct chan_freq_power`, without the power. The tables leave `unsupported` out. -/
structure RegionCfp extends ChanFreqPower where
  unsupported : Bool := false
deriving DecidableEq, Repr

/-- The entries `{channel, frequency}` of a table. -/
def cfpTable (entries : List (UInt16 × UInt32)) : List RegionCfp :=
  entries.map fun entry => { channel := entry.1, freq := entry.2 }

/-- `channel_freq_power_UN_BG`. -/
def channelFreqPowerUnBg : List RegionCfp :=
  cfpTable
    [(1, 2412), (2, 2417), (3, 2422), (4, 2427), (5, 2432), (6, 2437), (7, 2442), (8, 2447),
      (9, 2452), (10, 2457), (11, 2462), (12, 2467), (13, 2472), (14, 2484)]

/-- `channel_freq_power_US_BG`. -/
def channelFreqPowerUsBg : List RegionCfp :=
  cfpTable
    [(1, 2412), (2, 2417), (3, 2422), (4, 2427), (5, 2432), (6, 2437), (7, 2442), (8, 2447),
      (9, 2452), (10, 2457), (11, 2462)]

/-- `channel_freq_power_EU_BG`. -/
def channelFreqPowerEuBg : List RegionCfp :=
  cfpTable
    [(1, 2412), (2, 2417), (3, 2422), (4, 2427), (5, 2432), (6, 2437), (7, 2442), (8, 2447),
      (9, 2452), (10, 2457), (11, 2462), (12, 2467), (13, 2472)]

/-- `channel_freq_power_SPN_BG`. -/
def channelFreqPowerSpnBg : List RegionCfp :=
  cfpTable [(10, 2457), (11, 2462)]

/-- `channel_freq_power_FR_BG`. -/
def channelFreqPowerFrBg : List RegionCfp :=
  cfpTable [(10, 2457), (11, 2462), (12, 2467), (13, 2472)]

/-- `channel_freq_power_JPN_BG`. -/
def channelFreqPowerJpnBg : List RegionCfp :=
  cfpTable
    [(1, 2412), (2, 2417), (3, 2422), (4, 2427), (5, 2432), (6, 2437), (7, 2442), (8, 2447),
      (9, 2452), (10, 2457), (11, 2462), (12, 2467), (13, 2472), (14, 2484)]

/-- `region_cfp_table`. -/
def regionCfpTable : List (UInt8 × List RegionCfp) :=
  [(0x10, channelFreqPowerUsBg), (0x20, channelFreqPowerUsBg), (0x30, channelFreqPowerEuBg),
    (0x31, channelFreqPowerSpnBg), (0x32, channelFreqPowerFrBg), (0x40, channelFreqPowerJpnBg)]

/-- `lbs_get_region_cfp_table`. -/
def lbsGetRegionCfpTable (region : UInt8) : Option (List RegionCfp) :=
  (regionCfpTable.find? (·.1 = region)).map (·.2)

/-- `lbs_region_chan_supported_11d`. -/
def lbsRegionChanSupported11d (region chan : UInt8) : Bool :=
  match lbsGetRegionCfpTable region with
  | none => false
  | some cfp =>
      match cfp.find? (·.channel = chan.toUInt16) with
      | none => false
      | some entry => !entry.unsupported

/-- `region_code_mapping`. The codes are the letters of the country and a space. -/
def regionCodeMapping : List (List UInt8 × UInt8) :=
  [([0x55, 0x53, 0x20], 0x10), ([0x43, 0x41, 0x20], 0x10), ([0x53, 0x47, 0x20], 0x10),
    ([0x45, 0x55, 0x20], 0x30), ([0x41, 0x55, 0x20], 0x30), ([0x4b, 0x52, 0x20], 0x30),
    ([0x45, 0x53, 0x20], 0x31), ([0x46, 0x52, 0x20], 0x32), ([0x4a, 0x50, 0x20], 0x40)]

/-- `islower` of the kernel, which knows the letters of Latin-1. -/
def isLower (c : UInt8) : Bool :=
  (97 ≤ c && c ≤ 122) || (223 ≤ c && c ≤ 246) || 248 ≤ c

/-- `toupper`. -/
def toUpper (c : UInt8) : UInt8 :=
  if isLower c then c - 32 else c

/-- The loop of `lbs_region_2_code`, which ends with a zero. -/
def upperCode : List UInt8 → List UInt8
  | [] => []
  | c :: rest => if c = 0 then c :: rest else toUpper c :: upperCode rest

/-- The code that `lbs_region_2_code` returns. The default is that of the United States. -/
def lbsRegion2Code (region : List UInt8) : UInt8 :=
  match regionCodeMapping.find? (·.1 = upperCode region) with
  | none => 0x10
  | some mapping => mapping.2

/-- `lbs_get_chan_11d`. -/
def lbsGetChan11d (firstchan : UInt8) (nrchan : Nat) : Option UInt8 :=
  let i := channelFreqPowerUnBg.findIdx (·.channel = firstchan.toUInt16)
  if i < channelFreqPowerUnBg.length then
    (channelFreqPowerUnBg[i + nrchan]?).map (·.channel.toUInt8)
  else none

/-- `struct ieeetypes_countryinfofullset`. -/
structure CountryInfo where
  len : UInt8
  countrycode : List UInt8
  subband : List SubbandSet
  code : countrycode.length = countryCodeLen
  space : subband.length = mrvdrvMaxSubband80211d
deriving DecidableEq, Repr

/-- `nr_subband` of `parse_domain_info_11d`. -/
def CountryInfo.nrSubband (countryinfo : CountryInfo) : Nat :=
  (countryinfo.len.toNat - countryCodeLen) / 3

/-- What the loops of `parse_domain_info_11d` carry: `lastchan`, and the entries so far. -/
structure CountryLoop where
  lastchan : UInt8
  chanpwr : List ChanPower11d
  fits : chanpwr.length ≤ maxNoOfChan

namespace CountryLoop

def start : CountryLoop :=
  { lastchan := 0, chanpwr := [], fits := Nat.zero_le _ }

/-- A channel is handled; it is kept when the region supports it. -/
def take (s : CountryLoop) (room : s.chanpwr.length < maxNoOfChan)
    (region maxtxpwr curchan : UInt8) : CountryLoop :=
  if lbsRegionChanSupported11d region curchan then
    { lastchan := curchan
      chanpwr := s.chanpwr ++ [{ chan := curchan, pwr := maxtxpwr }]
      fits := by rw [List.length_append]; exact room }
  else { s with lastchan := curchan }

/-- The loop over the channels of a sub-band, from the channel `i` on. -/
def chanLoop (region : UInt8) (band : SubbandSet) : Nat → Nat → CountryLoop → CountryLoop
  | 0, _, s => s
  | left + 1, i, s =>
      if room : s.chanpwr.length < maxNoOfChan then
        match lbsGetChan11d band.firstchan i with
        | none => s
        | some curchan =>
            chanLoop region band left (i + 1) (s.take room region band.maxtxpwr curchan)
      else s

/-- The body of the loop over the sub-bands. -/
def subbandStep (region : UInt8) (s : CountryLoop) (band : SubbandSet) : CountryLoop :=
  if band.firstchan ≤ s.lastchan then s else chanLoop region band band.nrchan.toNat 0 s

end CountryLoop

/-- `parse_domain_info_11d`: the country code of the element, which is converted in place, and
the parsed channels. -/
def parseDomainInfo11d (countryinfo : CountryInfo) (band : UInt8) (parsed : ParsedRegionChan) :
    List UInt8 × ParsedRegionChan :=
  if byteAt countryinfo.countrycode 0 = 0 ∨ countryinfo.len.toNat ≤ countryCodeLen then
    (countryinfo.countrycode, parsed)
  else
    let region := lbsRegion2Code countryinfo.countrycode
    let countrycode := upperCode countryinfo.countrycode
    let loop := (countryinfo.subband.take countryinfo.nrSubband).foldl
      (CountryLoop.subbandStep region) .start
    (countrycode,
      { band := band, region := region, countrycode := countrycode
        chanpwr := loop.chanpwr, fits := loop.fits })

/-- The channels of the universal table. -/
def allChannels : List UInt8 :=
  channelFreqPowerUnBg.map (·.channel.toUInt8)

/-- The universal table from a channel on. -/
def channelsFrom (firstchan : UInt8) : List UInt8 :=
  allChannels.dropWhile (· ≠ firstchan)

/-- The channels of the universal table that a sub-band covers. -/
def SubbandSet.covered (band : SubbandSet) : List UInt8 :=
  (channelsFrom band.firstchan).take band.nrchan.toNat

/-- The sub-bands that begin behind the last channel handled so far. -/
def acceptedBands : UInt8 → List SubbandSet → List SubbandSet
  | _, [] => []
  | lastchan, band :: rest =>
      if lastchan < band.firstchan then
        band :: acceptedBands (band.covered.getLastD lastchan) rest
      else acceptedBands lastchan rest

/-- What an accepted sub-band contributes in a region. -/
def SubbandSet.supported (region : UInt8) (band : SubbandSet) : List ChanPower11d :=
  (band.covered.filter (lbsRegionChanSupported11d region)).map fun chan =>
    { chan := chan, pwr := band.maxtxpwr }

section Table

theorem drop_findIdx {α : Type} (p : α → Bool) (entries : List α) :
    entries.drop (entries.findIdx p) = entries.dropWhile fun entry => !p entry := by
  induction entries with
  | nil => rfl
  | cons entry rest ih =>
      cases found : p entry with
      | true => simp [List.findIdx_cons, found]
      | false => simp [List.findIdx_cons, found, ih]

/-- The channel numbers are small enough to be compared as bytes. -/
theorem dropWhile_channel (firstchan : UInt8) {entries : List RegionCfp}
    (small : ∀ entry ∈ entries, entry.channel.toUInt8.toUInt16 = entry.channel) :
    (entries.map (·.channel.toUInt8)).dropWhile (· ≠ firstchan) =
      (entries.dropWhile fun entry => !(entry.channel = firstchan.toUInt16)).map
        (·.channel.toUInt8) := by
  induction entries with
  | nil => rfl
  | cons entry rest ih =>
      have later := ih fun entry member => small entry (List.mem_cons_of_mem _ member)
      have same : entry.channel = firstchan.toUInt16 ↔ entry.channel.toUInt8 = firstchan := by
        constructor
        · intro equal
          rw [equal, UInt8.toUInt8_toUInt16]
        · intro equal
          rw [← equal, small entry List.mem_cons_self]
      by_cases found : entry.channel.toUInt8 = firstchan
      · simp [same.mpr found]
      · have other := mt same.mp found
        simp only [List.map_cons, List.dropWhile_cons]
        simp only [ne_eq, found, other]
        simpa using later

theorem channelsFrom_eq (firstchan : UInt8) :
    channelsFrom firstchan =
      (channelFreqPowerUnBg.dropWhile fun entry => !(entry.channel = firstchan.toUInt16)).map
        (·.channel.toUInt8) :=
  dropWhile_channel firstchan (by decide)

/-- `lbs_get_chan_11d` walks the universal table from the first channel on. -/
theorem lbsGetChan11d_eq (firstchan : UInt8) (nrchan : Nat) :
    lbsGetChan11d firstchan nrchan = (channelsFrom firstchan)[nrchan]? := by
  rw [channelsFrom_eq, ← drop_findIdx, List.getElem?_map, List.getElem?_drop]
  unfold lbsGetChan11d
  dsimp only
  split
  · rfl
  · rename_i missing
    rw [List.getElem?_eq_none (by omega)]
    rfl

theorem allChannels_ascending : allChannels.Pairwise (· < ·) := by
  decide

theorem channelsFrom_suffix (firstchan : UInt8) : channelsFrom firstchan <:+ allChannels :=
  List.dropWhile_suffix _

theorem channelsFrom_ascending (firstchan : UInt8) :
    (channelsFrom firstchan).Pairwise (· < ·) :=
  allChannels_ascending.sublist (channelsFrom_suffix firstchan).sublist

theorem le_of_mem_channelsFrom {firstchan chan : UInt8} (member : chan ∈ channelsFrom firstchan) :
    firstchan ≤ chan := by
  have ascending := channelsFrom_ascending firstchan
  cases tail : channelsFrom firstchan with
  | nil => rw [tail] at member; cases member
  | cons head rest =>
      have first : head = firstchan := by
        have kept := List.head?_dropWhile_not (· ≠ firstchan) allChannels
        rw [channelsFrom] at tail
        rw [tail] at kept
        simpa using kept
      rw [tail] at member ascending
      rcases List.mem_cons.mp member with same | behind
      · rw [same, first]
        exact UInt8.le_refl _
      · rw [← first]
        exact UInt8.le_of_lt ((List.pairwise_cons.mp ascending).1 chan behind)

end Table

namespace CountryLoop

variable {s : CountryLoop} {region : UInt8}

/-- The kept channels ascend up to the last one that was handled. -/
structure Ordered (s : CountryLoop) : Prop where
  ascending : (s.chanpwr.map (·.chan)).Pairwise (· < ·)
  behind : ∀ entry ∈ s.chanpwr, entry.chan ≤ s.lastchan
  known : ∀ entry ∈ s.chanpwr, entry.chan ∈ allChannels

theorem Ordered.start : start.Ordered :=
  ⟨.nil, nofun, nofun⟩

/-- There are fewer channels than the array has room for. -/
theorem Ordered.room (ordered : s.Ordered) : s.chanpwr.length < maxNoOfChan := by
  have nodup : (s.chanpwr.map (·.chan)).Nodup :=
    ordered.ascending.imp UInt8.ne_of_lt
  have subset : s.chanpwr.map (·.chan) ⊆ allChannels := by
    intro chan member
    obtain ⟨entry, kept, rfl⟩ := List.mem_map.mp member
    exact ordered.known entry kept
  have fits := nodup.length_le_of_subset subset
  rw [List.length_map] at fits
  exact Nat.lt_of_le_of_lt fits (by decide)

theorem Ordered.take (ordered : s.Ordered) (maxtxpwr : UInt8) {curchan : UInt8}
    (next : s.lastchan < curchan) (known : curchan ∈ allChannels) :
    (s.take ordered.room region maxtxpwr curchan).Ordered := by
  rw [CountryLoop.take]
  split
  · refine ⟨?_, ?_, ?_⟩
    · rw [List.map_append, List.pairwise_append]
      refine ⟨ordered.ascending, List.pairwise_singleton _ _, ?_⟩
      intro chan kept new single
      rw [List.mem_singleton.mp single]
      obtain ⟨entry, inside, rfl⟩ := List.mem_map.mp kept
      exact UInt8.lt_of_le_of_lt (ordered.behind entry inside) next
    · intro entry kept
      rcases List.mem_append.mp kept with before | new
      · exact UInt8.le_of_lt (UInt8.lt_of_le_of_lt (ordered.behind entry before) next)
      · rw [List.mem_singleton.mp new]
        exact UInt8.le_refl _
    · intro entry kept
      rcases List.mem_append.mp kept with before | new
      · exact ordered.known entry before
      · rw [List.mem_singleton.mp new]
        exact known
  · refine ⟨ordered.ascending, fun entry kept => ?_, ordered.known⟩
    exact UInt8.le_of_lt (UInt8.lt_of_le_of_lt (ordered.behind entry kept) next)

theorem take_lastchan (room : s.chanpwr.length < maxNoOfChan) (maxtxpwr curchan : UInt8) :
    (s.take room region maxtxpwr curchan).lastchan = curchan := by
  rw [CountryLoop.take]
  split <;> rfl

theorem take_chanpwr (room : s.chanpwr.length < maxNoOfChan) (maxtxpwr curchan : UInt8) :
    (s.take room region maxtxpwr curchan).chanpwr =
      s.chanpwr ++ ([curchan].filter (lbsRegionChanSupported11d region)).map fun chan =>
        { chan := chan, pwr := maxtxpwr } := by
  rw [CountryLoop.take]
  split
  · simp [*]
  · simp [*]

/-- What the loop over the channels of a sub-band has done when it comes to an end. -/
structure Handles (region maxtxpwr : UInt8) (chans : List UInt8) (s t : CountryLoop) : Prop where
  ordered : t.Ordered
  lastchan : t.lastchan = chans.getLastD s.lastchan
  chanpwr : t.chanpwr =
    s.chanpwr ++ (chans.filter (lbsRegionChanSupported11d region)).map fun chan =>
      { chan := chan, pwr := maxtxpwr }

/-- The loop handles the channels of the table, of which `left` may still come. -/
theorem chanLoop_handles (region : UInt8) (band : SubbandSet) (left i : Nat) (ordered : s.Ordered)
    (ahead : ∀ chan ∈ (channelsFrom band.firstchan).drop i, s.lastchan < chan) :
    Handles region band.maxtxpwr (((channelsFrom band.firstchan).drop i).take left) s
      (chanLoop region band left i s) := by
  induction left generalizing i s with
  | zero => exact ⟨ordered, rfl, by simp [chanLoop]⟩
  | succ left ih =>
      rw [chanLoop, dif_pos ordered.room, lbsGetChan11d_eq]
      cases found : (channelsFrom band.firstchan)[i]? with
      | none =>
          have nothing : (channelsFrom band.firstchan).drop i = [] :=
            List.drop_eq_nil_of_le (List.getElem?_eq_none_iff.mp found)
          rw [nothing]
          exact ⟨ordered, rfl, by simp⟩
      | some curchan =>
          obtain ⟨inside, at_⟩ := List.getElem?_eq_some_iff.mp found
          have split : (channelsFrom band.firstchan).drop i =
              curchan :: (channelsFrom band.firstchan).drop (i + 1) := by
            rw [← at_]
            exact List.drop_eq_getElem_cons inside
          rw [split] at ahead
          have next := ahead curchan List.mem_cons_self
          have known : curchan ∈ allChannels :=
            (channelsFrom_suffix band.firstchan).mem (List.mem_of_getElem? found)
          have ascending := (channelsFrom_ascending band.firstchan).sublist
            (List.drop_sublist i _)
          rw [split] at ascending
          have taken : (s.take ordered.room region band.maxtxpwr curchan).Ordered :=
            ordered.take band.maxtxpwr next known
          have later := ih (i + 1) taken (by
            intro chan member
            rw [take_lastchan]
            exact (List.pairwise_cons.mp ascending).1 chan member)
          dsimp only
          rw [split, List.take_succ_cons]
          refine ⟨later.ordered, ?_, ?_⟩
          · rw [later.lastchan, take_lastchan]
            exact List.getLastD_cons.symm
          · rw [later.chanpwr, take_chanpwr, List.append_assoc, ← List.map_append,
              ← List.filter_append]
            rfl

/-- The loop over the sub-bands keeps what the accepted ones contribute. -/
theorem foldl_subbandStep (region : UInt8) (bands : List SubbandSet) (ordered : s.Ordered) :
    (bands.foldl (subbandStep region) s).Ordered ∧
      (bands.foldl (subbandStep region) s).chanpwr =
        s.chanpwr ++ (acceptedBands s.lastchan bands).flatMap (SubbandSet.supported region) := by
  induction bands generalizing s with
  | nil => exact ⟨ordered, (List.append_nil _).symm⟩
  | cons band rest ih =>
      rw [List.foldl_cons, acceptedBands, subbandStep]
      by_cases accepted : s.lastchan < band.firstchan
      · rw [if_neg (UInt8.not_le.mpr accepted), if_pos accepted]
        have handled := chanLoop_handles region band band.nrchan.toNat 0 ordered (by
          intro chan member
          exact UInt8.lt_of_lt_of_le accepted (le_of_mem_channelsFrom member))
        obtain ⟨ordered', kept⟩ := ih handled.ordered
        refine ⟨ordered', ?_⟩
        rw [kept, handled.chanpwr, handled.lastchan, List.flatMap_cons, List.append_assoc]
        rfl
      · rw [if_pos (UInt8.not_lt.mp accepted), if_neg accepted]
        exact ih ordered

end CountryLoop

/-- Of a country element, exactly the supported channels of the accepted sub-bands are kept, in
ascending order and with the power of their sub-band. Only sub-bands within the data are read. -/
theorem parse_country_element (countryinfo : CountryInfo) (band : UInt8)
    (parsed : ParsedRegionChan) (code : byteAt countryinfo.countrycode 0 ≠ 0)
    (long : 4 ≤ countryinfo.len) (short : countryinfo.len ≤ 254) :
    let result := (parseDomainInfo11d countryinfo band parsed).2
    let bands := countryinfo.subband.take countryinfo.nrSubband
    result.region = lbsRegion2Code countryinfo.countrycode ∧
      result.chanpwr = (acceptedBands 0 bands).flatMap (SubbandSet.supported result.region) ∧
      (result.chanpwr.map (·.chan)).Pairwise (· < ·) ∧
      result.chanpwr.length ≤ maxNoOfChan ∧
      countryinfo.nrSubband ≤ countryinfo.subband.length ∧
      countryCodeLen + 3 * countryinfo.nrSubband ≤ countryinfo.len.toNat := by
  have long' : 4 ≤ countryinfo.len.toNat := UInt8.le_iff_toNat_le.mp long
  have short' : countryinfo.len.toNat ≤ 254 := UInt8.le_iff_toNat_le.mp short
  have three : countryCodeLen = 3 := rfl
  obtain ⟨ordered, kept⟩ := CountryLoop.foldl_subbandStep
    (lbsRegion2Code countryinfo.countrycode)
    (countryinfo.subband.take countryinfo.nrSubband) CountryLoop.Ordered.start
  intro result bands
  have parsed' : result = _ :=
    congrArg Prod.snd (if_neg (not_or.mpr ⟨code, by omega⟩))
  rw [parsed']
  refine ⟨rfl, kept, ordered.ascending, ordered.room.le, ?_, ?_⟩
  · rw [countryinfo.space, CountryInfo.nrSubband, mrvdrvMaxSubband80211d]
    omega
  · rw [CountryInfo.nrSubband]
    omega

/-- Two sub-bands behind the code `eu`, and one that overlaps. -/
def euCountry : CountryInfo where
  len := 12
  countrycode := [0x65, 0x75, 0x20]
  subband := [⟨1, 2, 20⟩, ⟨11, 4, 18⟩, ⟨12, 2, 30⟩] ++ List.replicate 80 ⟨0, 0, 0⟩
  code := rfl
  space := rfl

/-- The cleared `parsed_region_chan`. -/
def ParsedRegionChan.zero : ParsedRegionChan where
  band := 0
  region := 0
  countrycode := [0, 0, 0]
  chanpwr := []
  fits := Nat.zero_le _

theorem parse_country_element_eu :
    (parseDomainInfo11d euCountry 0 .zero).2.chanpwr =
        [⟨1, 20⟩, ⟨2, 20⟩, ⟨11, 18⟩, ⟨12, 18⟩, ⟨13, 18⟩] ∧
      ((parseDomainInfo11d euCountry 0 .zero).2.chanpwr.map (·.chan)).Pairwise (· < ·) :=
  ⟨by decide, (parse_country_element euCountry 0 .zero (by decide) (by decide) (by decide)).2.2.1⟩

end Libertas
