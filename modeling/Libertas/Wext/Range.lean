import Libertas.Domain.CountryInfo
import Libertas.Domain.Subbands
import Libertas.Exchange
import Libertas.Wext.Freq
import Libertas.Wext.Rate

/-!
# The range of an interface

`lbs_get_range` tells user space which bit rates and frequencies there are. The
frequencies come from the table of the region, which `lbs_update_hw_spec` chooses by the
code that the card reports, or, while there is a link under 11d, from the channels of
the country. `lbs_set_freq` looks a frequency up in other tables under 11d.

Of `struct iw_range` the fields are left out that hold the same in every state.
-/

namespace Libertas

open ByteOrder

/-- `struct iw_freq`, without the exponent. It is 1 in every entry that is filled. -/
structure IwFreq where
  m : Int32
  i : UInt8
deriving DecidableEq, Repr

/-- `IW_MAX_FREQUENCIES` and `IW_MAX_BITRATES`. -/
def iwMaxFrequencies : Nat := 32
def iwMaxBitrates : Nat := 32

/-- `FW_CAPINFO_WPA`, and the capabilities that come with it. -/
def fwCapinfoWpa : UInt32 := 1
def iwEncCapaAll : UInt32 := 0x0f

/-- The entries of `region_channel` and `universal_channel` that are not used. -/
def unusedChannels : RegionChannel :=
  { valid := false, band := 0, cfp := [] }

/-- `lbs_set_regiontable`: what it returns, and `region_channel`. -/
def lbsSetRegiontable (region band : UInt8) : Int × List RegionChannel :=
  match lbsGetRegionCfpTable region with
  | none => (-1, [unusedChannels, unusedChannels])
  | some cfp =>
      (0, [{ valid := true, band := band, cfp := cfp.map (·.toChanFreqPower) }, unusedChannels])

/-- `lbs_set_universaltable`. -/
def lbsSetUniversaltable (band : UInt8) : List RegionChannel :=
  [{ valid := true, band := band, cfp := channelFreqPowerUnBg.map (·.toChanFreqPower) },
    unusedChannels]

/-- `lbs_region_code_to_index`. -/
def lbsRegionCodeToIndex : List UInt16 :=
  [0x10, 0x20, 0x30, 0x31, 0x32, 0x40]

/-- The code that `lbs_update_hw_spec` takes for the one of the card. -/
def regioncode (reported : UInt16) : UInt16 :=
  let code := reported &&& 0xff
  if code ∈ lbsRegionCodeToIndex then code else 0x10

/-- The tables behind `lbs_update_hw_spec`. -/
def hwSpecTables (reported : UInt16) (enable11d : Bool) : ChannelTables where
  enable11d := enable11d
  regionChannel := (lbsSetRegiontable (regioncode reported).toUInt8 0).2
  universalChannel := lbsSetUniversaltable 0

/-- `lbs_chan_2_freq`. -/
def lbsChan2Freq (chan : UInt8) : UInt32 :=
  channelFreqPowerUnBg.foldl (fun freq cf => if chan.toUInt16 = cf.channel then cf.freq else freq) 0

/-- The entry for a channel. -/
def ChanFreqPower.iwFreq (cfp : ChanFreqPower) : IwFreq :=
  { m := Int32.ofInt (cfp.freq.toNat * 100000), i := cfp.channel.toUInt8 }

/-- The entry for a channel of the country. -/
def ChanPower11d.iwFreq (chanpwr : ChanPower11d) : IwFreq :=
  { m := Int32.ofInt ((lbsChan2Freq chanpwr.chan).toNat * 100000), i := chanpwr.chan }

/-- `range->freq` with `range->num_frequency` entries, and the variable `i`. -/
structure RangeLoop where
  freq : List IwFreq
  i : Nat
deriving DecidableEq, Repr

namespace RangeLoop

/-- A loop over entries that are listed, while there is room. -/
def fill (s : RangeLoop) : List IwFreq → RangeLoop
  | [] => s
  | entry :: rest =>
      if s.freq.length < iwMaxFrequencies then
        fill { freq := s.freq ++ [entry], i := s.i + 1 } rest
      else s

/-- The loop over the regions. -/
def regions (s : RangeLoop) : List RegionChannel → RangeLoop
  | [] => s
  | rc :: rest =>
      if s.freq.length < iwMaxFrequencies then
        let listed := if rc.valid then rc.cfp.map ChanFreqPower.iwFreq else []
        regions ({ s with i := 0 }.fill listed) rest
      else s

end RangeLoop

/-- `sort_channels`. The exponents stay where they are. -/
def sortChannels (freq : List IwFreq) (num : Nat) : List IwFreq :=
  Exchange.sort (·.i.toNat) num freq

/-- The fields of `struct iw_range` that depend on the state. -/
structure IwRange where
  bitrate : List Int32
  freq : List IwFreq
  throughput : Int32
  encCapa : UInt32
deriving DecidableEq, Repr

/-- `lbs_get_range`. -/
def lbsGetRange (tables : ChannelTables) (link : RateLink) (parsed : ParsedRegionChan)
    (fwcapinfo : UInt32) : IwRange :=
  let rates := ((link.copyActiveDataRates ++ [0]).takeWhile (· ≠ 0)).take iwMaxBitrates
  let s : RangeLoop := { freq := [], i := rates.length }
  let s :=
    if tables.enable11d = true ∧
        (link.connectStatus = .connected ∨ link.meshConnectStatus = .connected) then
      { s with i := 0 }.fill (parsed.chanpwr.map ChanPower11d.iwFreq)
    else s.regions tables.regionChannel
  { bitrate := rates.map fun rate => Int32.ofInt (rate.toNat * 500000)
    freq := sortChannels s.freq s.freq.length
    throughput := if s.i > 2 then 5000 * 1000 else 1500 * 1000
    encCapa := if fwcapinfo &&& fwCapinfoWpa ≠ 0 then iwEncCapaAll else 0 }

/-- The channels under 11d. -/
def universalChannels : List ChanFreqPower :=
  channelFreqPowerUnBg.map (·.toChanFreqPower)

/-- The channels that there are to list. -/
def rangeEntries (tables : ChannelTables) (link : RateLink) (parsed : ParsedRegionChan) :
    List IwFreq :=
  if tables.enable11d = true ∧
      (link.connectStatus = .connected ∨ link.meshConnectStatus = .connected) then
    parsed.chanpwr.map ChanPower11d.iwFreq
  else
    tables.regionChannel.flatMap fun rc =>
      if rc.valid then rc.cfp.map ChanFreqPower.iwFreq else []

/-- The frequencies of a range are those of these entries for which there is room, in the order of
their channels. `lbs_set_freq` takes each of them for its channel, unless it is 0, and without 11d
it takes no others, but that it rounds them. -/
structure FrequenciesAgree (tables : ChannelTables) (entries : List IwFreq) (range : IwRange) :
    Prop where
  all : List.Perm range.freq (entries.take iwMaxFrequencies)
  ascending : range.freq.Pairwise fun a b => a.i ≤ b.i
  accepted : ∀ f ∈ range.freq, f.m ≠ 0 → tables.freqChannel f.m.toInt 1 = some (f.i.toNat : Int)
  complete : tables.enable11d = false → ∀ (m : Int32) (c : Int),
    tables.freqChannel m.toInt 1 = some c →
      ∃ f ∈ range.freq, f.m.toInt = 100000 * m.toInt.tdiv 100000 ∧ c = f.i.toNat

section Tables

variable {cfp other : ChanFreqPower} {tables : ChannelTables}

/-- The entries of the channels are not rounded. -/
theorem iwFreq_of_universal (listed : cfp ∈ universalChannels) :
    cfp.iwFreq.m.toInt = 100000 * cfp.freq.toNat ∧ cfp.iwFreq.i.toNat = cfp.channel.toNat ∧
      cfp.channel.toNat ≤ 1000 ∧ cfp.freq.toNat ≤ 2484 := by
  have all : ∀ cfp ∈ universalChannels, cfp.iwFreq.m.toInt = 100000 * cfp.freq.toNat ∧
      cfp.iwFreq.i.toNat = cfp.channel.toNat ∧ cfp.channel.toNat ≤ 1000 ∧
        cfp.freq.toNat ≤ 2484 := by
    decide +kernel
  exact all cfp listed

/-- No two channels have one frequency. -/
theorem eq_of_freq (listed : cfp ∈ universalChannels) (listed' : other ∈ universalChannels)
    (same : other.freq = cfp.freq) : other = cfp := by
  have all : ∀ cfp ∈ universalChannels, ∀ other ∈ universalChannels,
      other.freq = cfp.freq → other = cfp := by
    decide +kernel
  exact all cfp listed other listed' same

/-- A channel of the country that has a frequency is one of the channels under 11d. -/
theorem universal_of_chan (chanpwr : ChanPower11d) (known : chanpwr.iwFreq.m ≠ 0) :
    ∃ cfp ∈ universalChannels, cfp.iwFreq = chanpwr.iwFreq := by
  have all : ∀ n < 256, Int32.ofInt ((lbsChan2Freq (UInt8.ofNat n)).toNat * 100000) ≠ 0 →
      ∃ cfp ∈ universalChannels, cfp.iwFreq =
        { m := Int32.ofInt ((lbsChan2Freq (UInt8.ofNat n)).toNat * 100000)
          i := UInt8.ofNat n } := by
    decide +kernel
  have own := all chanpwr.chan.toNat chanpwr.chan.toNat_lt
  rw [UInt8.ofNat_toNat] at own
  exact own known

/-- A frequency of the tables in force is taken for its channel. -/
theorem freqChannel_iwFreq (standard : ∀ cfp, tables.InForce 0 cfp → cfp ∈ universalChannels)
    (listed : tables.InForce 0 cfp) :
    tables.freqChannel cfp.iwFreq.m.toInt 1 = some (cfp.iwFreq.i.toNat : Int) := by
  obtain ⟨mantissa, number, small, -⟩ := iwFreq_of_universal (standard cfp listed)
  have freq : UInt32.ofInt (cfp.iwFreq.m.toInt.tdiv 100000) = cfp.freq := by
    rw [mantissa, Int.mul_tdiv_cancel_left _ (by decide), uint32_ofInt_toNat]
  have search : ∃ other, tables.findCfpByBandAndFreq 0 cfp.freq = some other :=
    ChannelTables.findCfp_of_inForce listed BEq.rfl
  obtain ⟨other, found⟩ := search
  obtain ⟨inForce, same⟩ := findCfpByBandAndFreq_eq_some found
  obtain rfl := eq_of_freq (standard cfp listed) (standard other inForce) same
  rw [number]
  exact freqChannel_of_freq rfl (freq ▸ found) small

end Tables

namespace RangeLoop

variable {s : RangeLoop} {entries : List IwFreq}

theorem fill_freq (s : RangeLoop) (entries : List IwFreq) :
    (s.fill entries).freq = s.freq ++ entries.take (iwMaxFrequencies - s.freq.length) := by
  induction entries generalizing s with
  | nil => rw [fill, List.take_nil, List.append_nil]
  | cons entry rest ih =>
      rw [fill]
      by_cases room : s.freq.length < iwMaxFrequencies
      · obtain ⟨more, left⟩ := Nat.exists_eq_add_of_lt room
        have one : iwMaxFrequencies - s.freq.length = more + 1 := by omega
        have less : iwMaxFrequencies - (s.freq ++ [entry]).length = more := by
          rw [List.length_append, List.length_singleton]
          omega
        rw [if_pos room, ih, less, one, List.take_succ_cons, List.append_assoc]
        rfl
      · have none : iwMaxFrequencies - s.freq.length = 0 := by omega
        rw [if_neg room, none, List.take_zero, List.append_nil]

theorem fill_start (i : Nat) (entries : List IwFreq) :
    (RangeLoop.fill { freq := [], i := i } entries).freq = entries.take iwMaxFrequencies :=
  fill_freq _ _

/-- A region, and an entry that is not used. -/
theorem regions_freq (i : Nat) (band : UInt8) (cfp : List ChanFreqPower) :
    (RangeLoop.regions { freq := [], i := i }
        [{ valid := true, band := band, cfp := cfp }, unusedChannels]).freq =
      (cfp.map ChanFreqPower.iwFreq).take iwMaxFrequencies := by
  have first := fill_start 0 (cfp.map ChanFreqPower.iwFreq)
  have room : ([] : List IwFreq).length < iwMaxFrequencies := by decide
  rw [regions]
  dsimp only
  rw [if_pos room, if_pos rfl, regions]
  split
  · exact first
  · exact first

end RangeLoop

section Ranges

variable {cfp : ChanFreqPower} {enable11d : Bool}

/-- `lbs_update_hw_spec` finds the table of a region, and no more than it. -/
theorem hwSpecTables_region (reported : UInt16) (enable11d : Bool) :
    ∃ cfp : List ChanFreqPower, (hwSpecTables reported enable11d).regionChannel =
        [{ valid := true, band := 0, cfp := cfp }, unusedChannels] ∧
      cfp.length ≤ iwMaxFrequencies ∧ ∀ entry ∈ cfp, entry ∈ universalChannels := by
  have known : regioncode reported ∈ lbsRegionCodeToIndex := by
    rw [regioncode]
    split
    · assumption
    · decide
  have tables : (lbsRegionCodeToIndex.all fun code =>
      (lbsGetRegionCfpTable code.toUInt8).isSome) = true := by
    decide +kernel
  have subset : ∀ entry ∈ regionCfpTable, entry.2.length ≤ iwMaxFrequencies ∧
      ∀ cfp ∈ entry.2, cfp.toChanFreqPower ∈ universalChannels := by
    decide +kernel
  obtain ⟨table, found⟩ :=
    Option.isSome_iff_exists.mp (List.all_eq_true.mp tables _ known)
  obtain ⟨entry, search, rfl⟩ := Option.map_eq_some_iff.mp found
  have member : entry ∈ regionCfpTable := List.mem_of_find?_eq_some search
  refine ⟨entry.2.map (·.toChanFreqPower), ?_, ?_, ?_⟩
  · show (lbsSetRegiontable (regioncode reported).toUInt8 0).2 = _
    rw [lbsSetRegiontable, found]
  · rw [List.length_map]
    exact (subset entry member).1
  · intro cfp listed
    obtain ⟨own, inside, rfl⟩ := List.mem_map.mp listed
    exact (subset entry member).2 own inside

theorem inForce_universal {reported : UInt16} (listed : cfp ∈ universalChannels) :
    (hwSpecTables reported true).InForce 0 cfp :=
  ⟨_, List.mem_cons_self, rfl, rfl, listed⟩

/-- Only the first of the two entries is used. -/
theorem used_of_mem {rc : RegionChannel} {own : List ChanFreqPower}
    (member : rc ∈ [{ valid := true, band := 0, cfp := own }, unusedChannels])
    (valid : rc.valid = true) : rc = { valid := true, band := 0, cfp := own } := by
  rcases List.mem_cons.mp member with first | unused
  · exact first
  · rw [List.mem_singleton.mp unused] at valid
    cases valid

/-- A region that is used has channels that are among those under 11d. -/
theorem region_of_mem {reported : UInt16} {rc : RegionChannel}
    (member : rc ∈ (hwSpecTables reported enable11d).regionChannel) (valid : rc.valid = true) :
    rc.band = 0 ∧ ∀ cfp ∈ rc.cfp, cfp ∈ universalChannels := by
  obtain ⟨table, region, -, subset⟩ := hwSpecTables_region reported enable11d
  rw [region] at member
  obtain rfl := used_of_mem member valid
  exact ⟨rfl, subset⟩

/-- The channels in force are among those under 11d. -/
theorem universal_of_inForce {reported : UInt16}
    (listed : (hwSpecTables reported enable11d).InForce 0 cfp) : cfp ∈ universalChannels := by
  obtain ⟨rc, member, valid, -, inside⟩ := listed
  cases enable11d with
  | true =>
      obtain rfl : rc = { valid := true, band := 0, cfp := universalChannels } :=
        used_of_mem member valid
      exact inside
  | false =>
      have own : rc ∈ (hwSpecTables reported false).regionChannel := member
      exact (region_of_mem own valid).2 cfp inside

/-- A range lists the entries for which there is room. -/
theorem range_freq (reported : UInt16) (enable11d : Bool) (link : RateLink)
    (parsed : ParsedRegionChan) (fwcapinfo : UInt32) :
    let tables := hwSpecTables reported enable11d
    let entries := (rangeEntries tables link parsed).take iwMaxFrequencies
    (lbsGetRange tables link parsed fwcapinfo).freq = sortChannels entries entries.length := by
  intro tables entries
  obtain ⟨cfp, region, -, -⟩ := hwSpecTables_region reported enable11d
  have single : (tables.regionChannel.flatMap fun rc =>
      if rc.valid then rc.cfp.map ChanFreqPower.iwFreq else []) =
        cfp.map ChanFreqPower.iwFreq := by
    rw [region]
    exact List.append_nil _
  have filled : ∀ i, (RangeLoop.regions { freq := [], i := i } tables.regionChannel).freq =
      (cfp.map ChanFreqPower.iwFreq).take iwMaxFrequencies := by
    intro i
    rw [region]
    exact RangeLoop.regions_freq i 0 cfp
  show _ = sortChannels ((rangeEntries tables link parsed).take iwMaxFrequencies)
    ((rangeEntries tables link parsed).take iwMaxFrequencies).length
  rw [lbsGetRange, rangeEntries]
  dsimp only
  by_cases country : tables.enable11d = true ∧
      (link.connectStatus = .connected ∨ link.meshConnectStatus = .connected)
  · rw [if_pos country, if_pos country, RangeLoop.fill_start]
  · rw [if_neg country, if_neg country, single, filled]

/-- What is listed has a channel that is in force, or no frequency. -/
theorem entry_of_mem {reported : UInt16} {link : RateLink} {parsed : ParsedRegionChan} {f : IwFreq}
    (listed : f ∈ rangeEntries (hwSpecTables reported enable11d) link parsed) (known : f.m ≠ 0) :
    ∃ cfp, (hwSpecTables reported enable11d).InForce 0 cfp ∧ cfp.iwFreq = f := by
  rw [rangeEntries] at listed
  by_cases country : (hwSpecTables reported enable11d).enable11d = true ∧
      (link.connectStatus = .connected ∨ link.meshConnectStatus = .connected)
  · rw [if_pos country] at listed
    obtain ⟨chanpwr, -, rfl⟩ := List.mem_map.mp listed
    obtain ⟨cfp, universal, same⟩ := universal_of_chan chanpwr known
    obtain rfl : enable11d = true := country.1
    exact ⟨cfp, inForce_universal universal, same⟩
  · rw [if_neg country] at listed
    obtain ⟨rc, member, inside⟩ := List.mem_flatMap.mp listed
    by_cases valid : rc.valid = true
    · rw [if_pos valid] at inside
      obtain ⟨cfp, own, rfl⟩ := List.mem_map.mp inside
      obtain ⟨band, subset⟩ := region_of_mem member valid
      cases enable11d with
      | true => exact ⟨cfp, inForce_universal (subset cfp own), rfl⟩
      | false => exact ⟨cfp, ⟨rc, member, valid, band, own⟩, rfl⟩
    · rw [if_neg valid] at inside
      cases inside

/-- Without 11d all channels in force are listed. -/
theorem mem_of_inForce {reported : UInt16} {link : RateLink} {parsed : ParsedRegionChan}
    (listed : (hwSpecTables reported false).InForce 0 cfp) :
    cfp.iwFreq ∈
      (rangeEntries (hwSpecTables reported false) link parsed).take iwMaxFrequencies := by
  obtain ⟨table, region, few, -⟩ := hwSpecTables_region reported false
  have plain : ¬((hwSpecTables reported false).enable11d = true ∧
      (link.connectStatus = .connected ∨ link.meshConnectStatus = .connected)) := by
    rintro ⟨on, -⟩
    cases on
  have entries : rangeEntries (hwSpecTables reported false) link parsed =
      table.map ChanFreqPower.iwFreq := by
    rw [rangeEntries, if_neg plain, region]
    exact List.append_nil _
  obtain ⟨rc, member, valid, -, inside⟩ := listed
  have own : rc ∈ (hwSpecTables reported false).regionChannel := member
  rw [region] at own
  obtain rfl := used_of_mem own valid
  rw [entries, List.take_of_length_le (by rw [List.length_map]; exact few)]
  exact List.mem_map_of_mem inside

/-- The quotient of a mantissa is the frequency that it gives. -/
theorem quotient_eq (m : Int32) (small : cfp.freq.toNat ≤ 2484)
    (same : cfp.freq = UInt32.ofInt (m.toInt.tdiv 100000)) :
    m.toInt.tdiv 100000 = cfp.freq.toNat := by
  have above := m.toInt_lt
  have below := m.le_toInt
  have freq : cfp.freq.toNat = (m.toInt.tdiv 100000 % 2 ^ 32).toNat := by
    rw [same, toNat_uint32_ofInt]
  have bounds : -21475 < m.toInt.tdiv 100000 ∧ m.toInt.tdiv 100000 < 21475 := by
    rcases Int.le_total 0 m.toInt with positive | negative
    · rw [Int.tdiv_eq_ediv_of_nonneg positive]
      omega
    · have quotient : m.toInt.tdiv 100000 = -((-m.toInt).tdiv 100000) := by
        rw [Int.neg_tdiv, Int.neg_neg]
      rw [quotient, Int.tdiv_eq_ediv_of_nonneg (by omega)]
      omega
  omega

/-- For every code that the card reports the frequencies of a range agree with `lbs_set_freq`. -/
theorem range_frequencies_agree (reported : UInt16) (enable11d : Bool) (link : RateLink)
    (parsed : ParsedRegionChan) (fwcapinfo : UInt32) :
    let tables := hwSpecTables reported enable11d
    FrequenciesAgree tables (rangeEntries tables link parsed)
      (lbsGetRange tables link parsed fwcapinfo) := by
  intro tables
  have sorted := range_freq reported enable11d link parsed fwcapinfo
  have all : List.Perm (lbsGetRange tables link parsed fwcapinfo).freq
      ((rangeEntries tables link parsed).take iwMaxFrequencies) :=
    (List.Perm.of_eq sorted).trans (Exchange.sort_perm _ _)
  refine ⟨all, ?_, fun f mem known => ?_, fun plain m c passed => ?_⟩
  · have ascending : (sortChannels ((rangeEntries tables link parsed).take iwMaxFrequencies)
        ((rangeEntries tables link parsed).take iwMaxFrequencies).length).Pairwise
          fun a b => a.i.toNat ≤ b.i.toNat := Exchange.sort_sorted (Nat.le_refl _)
    rw [sorted]
    exact ascending.imp fun le => UInt8.le_iff_toNat_le.mpr le
  · have entry := List.mem_of_mem_take (all.mem_iff.mp mem)
    obtain ⟨cfp, listed, rfl⟩ := entry_of_mem entry known
    exact freqChannel_iwFreq (fun _ inForce => universal_of_inForce inForce) listed
  · obtain rfl : enable11d = false := plain
    rcases freqChannel_eq_some passed with ⟨-, cfp, found, -, channel⟩ | ⟨wrong, -⟩
    · obtain ⟨listed, same⟩ := findCfpByBandAndFreq_eq_some found
      obtain ⟨mantissa, number, -, small⟩ := iwFreq_of_universal (universal_of_inForce listed)
      refine ⟨cfp.iwFreq, all.mem_iff.mpr (mem_of_inForce listed), ?_, ?_⟩
      · rw [mantissa, quotient_eq m small same]
      · rw [channel, number]
    · omega

end Ranges

section Bitrates

variable {priv : CmdPriv} {link : RateLink} {vwrq : IwParam} {stack : List UInt8}
  {adapt fallback : CmdOutcome} {rate : UInt8}

end Bitrates

end Libertas
