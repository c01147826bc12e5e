import Mathlib.Data.List.Chain
import Libertas.Host

/-!
# The domain that the firmware is sent

`generate_domain_info_11d` packs the channels of `parsed_region_chan` into
sub-bands: a first channel, a number of channels and a power. The loop carries
the first channel, the last channel, the power and the length of the run it is in.
-/

namespace Libertas

/-- `MAX_NO_OF_CHAN`. -/
def maxNoOfChan : Nat := 40

/-- `MRVDRV_MAX_SUBBAND_802_11D`. -/
def mrvdrvMaxSubband80211d : Nat := 83

/-- `struct ieeetypes_subbandset`. -/
structure SubbandSet where
  firstchan : UInt8
  nrchan : UInt8
  maxtxpwr : UInt8
deriving DecidableEq, Repr

/-- `struct chan_power_11d`. -/
structure ChanPower11d where
  chan : UInt8
  pwr : UInt8
deriving DecidableEq, Repr

/-- `struct parsed_region_chan_11d`, with the first `nr_chan` entries of `chanpwr`. -/
structure ParsedRegionChan where
  band : UInt8
  region : UInt8
  countrycode : List UInt8
  chanpwr : List ChanPower11d
  fits : chanpwr.length ≤ maxNoOfChan
deriving DecidableEq, Repr

/-- `struct lbs_802_11d_domain_reg`, with the first `nr_subband` sub-bands. -/
structure DomainReg where
  countrycode : List UInt8
  subband : List SubbandSet
  fits : subband.length ≤ mrvdrvMaxSubband80211d
deriving DecidableEq, Repr

/-- The locals of the loop in `generate_domain_info_11d`, and the sub-bands so far. -/
structure SubbandLoop where
  flag : Bool
  firstchan : UInt8
  nextchan : UInt8
  maxpwr : UInt8
  nrParsedchan : UInt8
  subband : List SubbandSet

namespace SubbandLoop

def start : SubbandLoop :=
  { flag := false, firstchan := 0, nextchan := 0, maxpwr := 0, nrParsedchan := 0, subband := [] }

variable (s : SubbandLoop)

/-- The sub-band that the loop is in. -/
def current : SubbandSet :=
  { firstchan := s.firstchan, nrchan := s.nrParsedchan, maxtxpwr := s.maxpwr }

/-- The body of the loop. A new sub-band takes the length over. -/
def step (entry : ChanPower11d) : SubbandLoop :=
  if s.flag = false then
    { s with
      flag := true
      firstchan := entry.chan, nextchan := entry.chan, maxpwr := entry.pwr, nrParsedchan := 1 }
  else if entry.chan.toNat = s.nextchan.toNat + 1 ∧ entry.pwr = s.maxpwr then
    { s with nextchan := s.nextchan + 1, nrParsedchan := s.nrParsedchan + 1 }
  else
    { s with
      subband := s.subband ++ [s.current]
      firstchan := entry.chan, nextchan := entry.chan, maxpwr := entry.pwr }

/-- The sub-bands when the loop is over. -/
def finish : List SubbandSet :=
  if s.flag then s.subband ++ [s.current] else s.subband

/-- At most one sub-band an entry is written. -/
theorem length_finish_step (entry : ChanPower11d) :
    (s.step entry).finish.length ≤ s.finish.length + 1 := by
  unfold step finish
  split
  · simp [*]
  · split <;> simp [*]

theorem length_finish (entries : List ChanPower11d) :
    (entries.foldl step s).finish.length ≤ s.finish.length + entries.length := by
  induction entries generalizing s with
  | nil => exact Nat.le_refl _
  | cons entry rest ih =>
      have first := s.length_finish_step entry
      have later := ih (s.step entry)
      simp only [List.foldl_cons, List.length_cons]
      omega

end SubbandLoop

/-- `generate_domain_info_11d`. -/
def generateDomainInfo11d (parsed : ParsedRegionChan) : DomainReg where
  countrycode := parsed.countrycode
  subband := (parsed.chanpwr.foldl SubbandLoop.step .start).finish
  fits := by
    have written := SubbandLoop.start.length_finish parsed.chanpwr
    have none_yet : SubbandLoop.start.finish.length = 0 := rfl
    have room : maxNoOfChan ≤ mrvdrvMaxSubband80211d := by decide
    have fits := parsed.fits
    omega

/-- The channels of a sub-band, with its power. -/
def SubbandSet.expand (band : SubbandSet) : List (Nat × UInt8) :=
  (List.range band.nrchan.toNat).map fun i => (band.firstchan.toNat + i, band.maxtxpwr)

/-- The channels that a domain allows. -/
def DomainReg.channels (domain : DomainReg) : List (Nat × UInt8) :=
  domain.subband.flatMap SubbandSet.expand

/-- A channel that was parsed, with its power. -/
def ChanPower11d.channel (entry : ChanPower11d) : Nat × UInt8 :=
  (entry.chan.toNat, entry.pwr)

/-- An entry continues the one before it: the next channel, at the same power. -/
def Continues (before entry : ChanPower11d) : Prop :=
  entry.chan.toNat = before.chan.toNat + 1 ∧ entry.pwr = before.pwr

instance (before entry : ChanPower11d) : Decidable (Continues before entry) := by
  unfold Continues
  infer_instance

/-- Once an entry continues the one before it, all later entries do. -/
def EndsInRun : List ChanPower11d → Prop
  | before :: entry :: rest =>
      if Continues before entry then (before :: entry :: rest).IsChain Continues
      else EndsInRun (entry :: rest)
  | _ => True

/-- The sub-bands from the one that the loop is in on. `last` is the entry before the rest. -/
def bandsFrom (current : SubbandSet) (last : ChanPower11d) : List ChanPower11d → List SubbandSet
  | [] => [current]
  | entry :: rest =>
      if Continues last entry then
        bandsFrom { current with nrchan := current.nrchan + 1 } entry rest
      else
        current ::
          bandsFrom { current with firstchan := entry.chan, maxtxpwr := entry.pwr } entry rest

theorem toNat_succ_of_lt {count : UInt8} (room : count.toNat + 1 < 256) :
    (count + 1).toNat = count.toNat + 1 := by
  rw [UInt8.toNat_add]
  exact Nat.mod_eq_of_lt room

theorem SubbandLoop.finish_foldl (s : SubbandLoop) (entries : List ChanPower11d)
    (begun : s.flag = true) :
    (entries.foldl step s).finish =
      s.subband ++ bandsFrom s.current { chan := s.nextchan, pwr := s.maxpwr } entries := by
  induction entries generalizing s with
  | nil => simp [finish, begun, bandsFrom]
  | cons entry rest ih =>
      rw [List.foldl_cons, bandsFrom]
      by_cases goesOn : Continues { chan := s.nextchan, pwr := s.maxpwr } entry
      · have step : s.step entry =
            { s with nextchan := s.nextchan + 1, nrParsedchan := s.nrParsedchan + 1 } := by
          simp only [SubbandLoop.step, begun]
          exact if_pos goesOn
        have next : entry.chan.toNat = s.nextchan.toNat + 1 := goesOn.1
        have same : entry.pwr = s.maxpwr := goesOn.2
        have chan : s.nextchan + 1 = entry.chan := by
          apply UInt8.toNat_inj.mp
          rw [next]
          exact toNat_succ_of_lt (next ▸ entry.chan.toNat_lt)
        rw [if_pos goesOn, step]
        refine (ih { s with nextchan := s.nextchan + 1, nrParsedchan := s.nrParsedchan + 1 }
          begun).trans ?_
        have whole : ({ chan := s.nextchan + 1, pwr := s.maxpwr } : ChanPower11d) = entry := by
          rw [chan, ← same]
        show s.subband ++ bandsFrom _ { chan := s.nextchan + 1, pwr := s.maxpwr } rest = _
        rw [whole]
        rfl
      · have step : s.step entry =
            { s with
              subband := s.subband ++ [s.current]
              firstchan := entry.chan, nextchan := entry.chan, maxpwr := entry.pwr } := by
          simp only [SubbandLoop.step, begun]
          exact if_neg goesOn
        rw [if_neg goesOn, step]
        refine (ih
          { s with
            subband := s.subband ++ [s.current]
            firstchan := entry.chan, nextchan := entry.chan, maxpwr := entry.pwr }
          begun).trans ?_
        exact List.append_assoc _ _ _

section Runs

variable {current : SubbandSet} {last : ChanPower11d} {rest : List ChanPower11d}

/-- A sub-band describes a run that ends with `last`. -/
structure RunEnds (current : SubbandSet) (last : ChanPower11d) (rest : List ChanPower11d) :
    Prop where
  chan : current.firstchan.toNat + current.nrchan.toNat = last.chan.toNat + 1
  pwr : current.maxtxpwr = last.pwr
  /-- The length is kept in a byte. -/
  counts : current.nrchan.toNat + rest.length < 256

theorem length_expand (band : SubbandSet) : band.expand.length = band.nrchan.toNat := by
  simp [SubbandSet.expand]

theorem expand_single {band : SubbandSet} (single : band.nrchan.toNat = 1) :
    band.expand = [(band.firstchan.toNat, band.maxtxpwr)] := by
  simp [SubbandSet.expand, single]

/-- The lengths never decrease, so every entry is counted at least once. -/
theorem length_bandsFrom (current : SubbandSet) (last : ChanPower11d)
    (nonempty : 1 ≤ current.nrchan.toNat)
    (counts : current.nrchan.toNat + rest.length < 256) :
    current.nrchan.toNat + rest.length ≤
      ((bandsFrom current last rest).flatMap SubbandSet.expand).length := by
  induction rest generalizing current last with
  | nil => simp [bandsFrom, length_expand]
  | cons entry rest ih =>
      simp only [List.length_cons] at counts ⊢
      rw [bandsFrom]
      split
      · have grown := @toNat_succ_of_lt current.nrchan (by omega)
        have more := ih { current with nrchan := current.nrchan + 1 } entry
          (by simp only [grown]; omega) (by simp only [grown]; omega)
        simp only [grown] at more
        omega
      · have more := ih { current with firstchan := entry.chan, maxtxpwr := entry.pwr } entry
          nonempty (by simp only; omega)
        simp only [List.flatMap_cons, List.length_append, length_expand] at more ⊢
        omega

/-- One channel more in a sub-band. -/
theorem expand_succ (ends : RunEnds current last rest) {entry : ChanPower11d}
    (goesOn : Continues last entry) (room : current.nrchan.toNat + 1 < 256) :
    ({ current with nrchan := current.nrchan + 1 } : SubbandSet).expand =
      current.expand ++ [entry.channel] := by
  have chan := ends.chan
  obtain ⟨next, same⟩ := goesOn
  simp only [SubbandSet.expand, toNat_succ_of_lt room, List.range_succ, List.map_append,
    List.map_cons, List.map_nil, ChanPower11d.channel]
  rw [chan, next, same, ends.pwr]

theorem RunEnds.extend {entry : ChanPower11d} (ends : RunEnds current last (entry :: rest))
    (goesOn : Continues last entry) :
    RunEnds { current with nrchan := current.nrchan + 1 } entry rest := by
  obtain ⟨chan, pwr, counts⟩ := ends
  obtain ⟨next, same⟩ := goesOn
  simp only [List.length_cons] at counts
  have grown := @toNat_succ_of_lt current.nrchan (by omega)
  constructor
  · simp only [grown]
    omega
  · rw [same]
    exact pwr
  · simp only [grown]
    omega

/-- In a run of several channels, the rest is described if and only if the run goes on. -/
theorem expand_bandsFrom_run (ends : RunEnds current last rest)
    (several : 2 ≤ current.nrchan.toNat) :
    (bandsFrom current last rest).flatMap SubbandSet.expand =
        current.expand ++ rest.map ChanPower11d.channel ↔
      (last :: rest).IsChain Continues := by
  induction rest generalizing current last with
  | nil => simp [bandsFrom]
  | cons entry rest ih =>
      have counts := ends.counts
      simp only [List.length_cons] at counts
      rw [List.isChain_cons_cons, bandsFrom]
      by_cases goesOn : Continues last entry
      · have grown := @toNat_succ_of_lt current.nrchan (by omega)
        have later := ih (ends.extend goesOn) (by simp only [grown]; omega)
        rw [expand_succ ends goesOn (by omega), List.append_assoc] at later
        rw [if_pos goesOn, List.map_cons]
        simpa [goesOn] using later
      · rw [if_neg goesOn]
        refine iff_of_false (fun equal => ?_) fun chain => goesOn chain.1
        -- The next sub-band starts with the length of this one.
        have longer := length_bandsFrom
          { current with firstchan := entry.chan, maxtxpwr := entry.pwr } entry
          (by show 1 ≤ current.nrchan.toNat; omega)
          (by show current.nrchan.toNat + rest.length < 256; omega)
        have lengths := congrArg List.length equal
        simp only [List.flatMap_cons, List.length_append, length_expand, List.length_map,
          List.length_cons] at lengths longer
        omega

/-- Behind a single channel, the rest is described if and only if only the last run has several
channels. -/
theorem expand_bandsFrom_single (ends : RunEnds current last rest)
    (single : current.nrchan.toNat = 1) :
    (bandsFrom current last rest).flatMap SubbandSet.expand =
        current.expand ++ rest.map ChanPower11d.channel ↔
      EndsInRun (last :: rest) := by
  induction rest generalizing current last with
  | nil => simp [bandsFrom, EndsInRun]
  | cons entry rest ih =>
      have counts := ends.counts
      simp only [List.length_cons] at counts
      rw [EndsInRun, bandsFrom]
      by_cases goesOn : Continues last entry
      · have grown := @toNat_succ_of_lt current.nrchan (by omega)
        have later := expand_bandsFrom_run (ends.extend goesOn) (by simp only [grown]; omega)
        rw [expand_succ ends goesOn (by omega), List.append_assoc] at later
        rw [if_pos goesOn, if_pos goesOn, List.isChain_cons_cons]
        simpa [goesOn] using later
      · rw [if_neg goesOn, if_neg goesOn, List.flatMap_cons, List.append_cancel_left_eq]
        have begins : RunEnds { current with firstchan := entry.chan, maxtxpwr := entry.pwr } entry
            rest :=
          ⟨by show entry.chan.toNat + current.nrchan.toNat = _; omega, rfl,
            by show current.nrchan.toNat + rest.length < 256; omega⟩
        have alone : ({ current with firstchan := entry.chan, maxtxpwr := entry.pwr } :
            SubbandSet).expand = [entry.channel] := expand_single single
        rw [← ih begins single, alone]
        rfl

end Runs

/-- The domain that the firmware is sent allows the parsed channels, each with its power, if and
only if only their last run has several channels. -/
theorem domain_lossless_iff (parsed : ParsedRegionChan) :
    (generateDomainInfo11d parsed).channels = parsed.chanpwr.map ChanPower11d.channel ↔
      EndsInRun parsed.chanpwr := by
  have fits := parsed.fits
  have small : maxNoOfChan < 255 := by decide
  show (parsed.chanpwr.foldl SubbandLoop.step .start).finish.flatMap SubbandSet.expand = _ ↔ _
  cases entries : parsed.chanpwr with
  | nil => exact iff_of_true rfl trivial
  | cons entry rest =>
      rw [entries, List.length_cons] at fits
      let first : SubbandLoop :=
        { flag := true, firstchan := entry.chan, nextchan := entry.chan, maxpwr := entry.pwr
          nrParsedchan := 1, subband := [] }
      have begins : RunEnds first.current entry rest :=
        ⟨rfl, rfl, by show 1 + rest.length < 256; omega⟩
      have written : (rest.foldl SubbandLoop.step first).finish =
          bandsFrom first.current entry rest :=
        first.finish_foldl rest rfl
      rw [List.foldl_cons, show SubbandLoop.start.step entry = first from rfl, written,
        ← expand_bandsFrom_single begins rfl, expand_single rfl]
      rfl

/-- Two runs of two channels: the second sub-band is announced with three. -/
theorem domain_adds_channel : ∃ parsed : ParsedRegionChan,
    parsed.chanpwr.map ChanPower11d.channel = [(1, 20), (2, 20), (11, 20), (12, 20)] ∧
      (generateDomainInfo11d parsed).channels =
        [(1, 20), (2, 20), (11, 20), (12, 20), (13, 20)] :=
  ⟨{ band := 0, region := 0x10, countrycode := [85, 83, 32]
     chanpwr := [⟨1, 20⟩, ⟨2, 20⟩, ⟨11, 20⟩, ⟨12, 20⟩], fits := by decide },
    by decide, by decide⟩

end Libertas
