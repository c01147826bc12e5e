import Libertas.Host

/-!
# Channel tables

The channels of the two regions, and the same for 11d. Scanning walks these
tables, and a frequency or channel of an ioctl is looked up in them.
-/

namespace Libertas

/-- `struct chan_freq_power`, without the power. -/
structure ChanFreqPower where
  channel : UInt16
  freq : UInt32
deriving DecidableEq, Repr

/-- `struct region_channel`. A table that is not there is empty. -/
structure RegionChannel where
  valid : Bool
  band : UInt8
  cfp : List ChanFreqPower
deriving DecidableEq, Repr

/-- The tables of the regions, with an entry for each region. -/
structure ChannelTables where
  enable11d : Bool
  regionChannel : List RegionChannel
  universalChannel : List RegionChannel
deriving DecidableEq, Repr

namespace ChannelTables

/-- The first channel of a band that fits. -/
def findCfp (tables : ChannelTables) (band : UInt8) (fits : ChanFreqPower → Bool) :
    Option ChanFreqPower :=
  (if tables.enable11d then tables.universalChannel else tables.regionChannel).findSome? fun rc =>
    if rc.valid && rc.band == band then rc.cfp.find? fits else none

/-- `lbs_find_cfp_by_band_and_channel`. -/
def lbsFindCfpByBandAndChannel (tables : ChannelTables) (band : UInt8) (channel : UInt16) :
    Option ChanFreqPower :=
  tables.findCfp band (·.channel == channel)

/-- `find_cfp_by_band_and_freq`. -/
def findCfpByBandAndFreq (tables : ChannelTables) (band : UInt8) (freq : UInt32) :
    Option ChanFreqPower :=
  tables.findCfp band (·.freq == freq)

/-- A channel of a band in the tables in force. -/
def InForce (tables : ChannelTables) (band : UInt8) (cfp : ChanFreqPower) : Prop :=
  ∃ rc ∈ (if tables.enable11d then tables.universalChannel else tables.regionChannel),
    rc.valid = true ∧ rc.band = band ∧ cfp ∈ rc.cfp

variable {tables : ChannelTables} {band : UInt8} {fits : ChanFreqPower → Bool}
  {cfp : ChanFreqPower}

theorem findCfp_eq_some (found : tables.findCfp band fits = some cfp) :
    tables.InForce band cfp ∧ fits cfp = true := by
  obtain ⟨rc, member, inside⟩ := List.exists_of_findSome?_eq_some found
  by_cases usable : (rc.valid && rc.band == band) = true
  · rw [if_pos usable] at inside
    obtain ⟨valid, same⟩ := Bool.and_eq_true_iff.mp usable
    have listed : cfp ∈ rc.cfp := List.mem_of_find?_eq_some inside
    exact ⟨⟨rc, member, valid, beq_iff_eq.mp same, listed⟩, List.find?_some inside⟩
  · rw [if_neg usable] at inside
    cases inside

/-- A search that fails has seen every channel. -/
theorem findCfp_of_inForce (listed : tables.InForce band cfp) (suits : fits cfp = true) :
    ∃ other, tables.findCfp band fits = some other := by
  obtain ⟨rc, member, valid, same, inside⟩ := listed
  apply Option.ne_none_iff_exists'.mp
  intro missing
  have none := List.findSome?_eq_none_iff.mp missing rc member
  rw [valid, same, Bool.true_and, BEq.rfl, if_pos rfl] at none
  exact List.find?_eq_none.mp none cfp inside suits

end ChannelTables

end Libertas
