import Libertas.Cmd.Channel
import Libertas.Driver.Status

/-!
# The quality of the link

`lbs_get_wireless_stats` grades the RSSI of the last beacon and the number of retries
that the card reports, and takes the worse grade. `POOR`, `FAIR`, `GOOD`, `VERY_GOOD`
and `PERFECT` are 30, 60, 80, 90 and 100.

The RSSI is a byte, and is graded in integers; the number of retries is graded in
unsigned 32-bit arithmetic. `rssiGrade` and `retryGrade` are the same grades for all
integers.
-/

namespace Libertas

open ByteOrder

/-- `CMD_802_11_GET_LOG`. -/
def cmd80211GetLog : UInt16 := 0x000b

/-- `MRVDRV_NF_DEFAULT_SCAN_VALUE`. -/
def nfDefaultScanValue : Int := -96

/-- `IW_QUAL_*`. -/
def iwQualAllUpdated : UInt8 := 0x07
def iwQualDbm : UInt8 := 0x08
def iwQualQualInvalid : UInt8 := 0x10
def iwQualLevelInvalid : UInt8 := 0x20
def iwQualNoiseInvalid : UInt8 := 0x40

/-- The fields of `struct iw_statistics` that are written. -/
structure WirelessStats where
  status : UInt16
  qual : UInt8
  level : UInt8
  noise : UInt8
  updated : UInt8
  discardCode : UInt32
  discardRetries : UInt32
  discardMisc : UInt32
  missBeacon : UInt32
deriving DecidableEq, Repr

/-- The part of the private structure that the statistics come from. -/
structure StatsPriv where
  connectStatus : ConnectStatus
  meshConnectStatus : ConnectStatus
  mode : UInt8
  /-- `SNR[TYPE_BEACON][TYPE_NOAVG]` and `NF[TYPE_BEACON][TYPE_NOAVG]`. -/
  snr : UInt16
  nf : UInt16
  wstats : WirelessStats
deriving DecidableEq, Repr

/-- `struct cmd_ds_802_11_get_log`, before it is sent. -/
def getLogCmd : List UInt8 :=
  sizeHeader 60 [] ++ List.replicate 52 0

/-- The structure on the stack behind the command. -/
def CmdOutcome.log (outcome : CmdOutcome) : List UInt8 :=
  (lbsCmdWithResponse cmd80211GetLog getLogCmd outcome).2

/-- The grade of an RSSI. -/
def rssiGrade (rssi : Int) : Int :=
  if rssi < 15 then rssi * 30 / 10
  else if rssi < 20 then (rssi - 15) * (60 - 30) / 5 + 30
  else if rssi < 30 then (rssi - 20) * (80 - 60) / 5 + 60
  else if rssi < 40 then (rssi - 30) * (90 - 80) / 10 + 80
  else (rssi - 40) * (100 - 90) / 10 + 90

/-- `tx_qual`, in 32 bits. -/
def txQual (retries : UInt32) : UInt32 :=
  if retries > 75 then (90 - retries) * 30 / 15
  else if retries > 70 then (75 - retries) * (60 - 30) / 5 + 30
  else if retries > 65 then (70 - retries) * (80 - 60) / 5 + 60
  else if retries > 50 then (65 - retries) * (90 - 80) / 15 + 80
  else (50 - retries) * (100 - 90) / 50 + 90

namespace StatsPriv

variable (priv : StatsPriv)

/-- `CAL_RSSI` and `CAL_NF`, in a byte. -/
def level : UInt8 :=
  UInt8.ofInt ((priv.snr.toNat : Int) - priv.nf.toNat)
def noise : UInt8 :=
  if priv.nf = 0 then UInt8.ofInt nfDefaultScanValue else UInt8.ofInt (-(priv.nf.toNat : Int))

/-- The quality for a number of retries. -/
def quality (retries : UInt32) : UInt32 :=
  min (UInt32.ofInt (rssiGrade (priv.level - priv.noise).toNat)) (txQual retries)

/-- `lbs_get_wireless_stats`, with the answer to the command for the log. Behind it comes a command
for the next call. -/
def lbsGetWirelessStats (outcome : CmdOutcome) : WirelessStats × List Request :=
  if priv.connectStatus ≠ .connected ∧ priv.meshConnectStatus ≠ .connected then
    ({ priv.wstats with
        status := priv.mode.toUInt16, missBeacon := 0, discardRetries := 0, qual := 0, level := 0
        noise := 0
        updated := iwQualAllUpdated |||
          (iwQualNoiseInvalid ||| iwQualQualInvalid ||| iwQualLevelInvalid) }, [])
  else
    let retries := le32At outcome.log 16
    ({ priv.wstats with
        status := priv.mode.toUInt16, level := priv.level, noise := priv.noise
        discardCode := le32At outcome.log 56
        discardRetries := retries
        discardMisc := le32At outcome.log 36
        qual := min (priv.quality retries).toUInt8 100
        updated := iwQualAllUpdated ||| iwQualDbm },
      [withResponseRequest cmd80211GetLog getLogCmd, getRssiRequest false])

end StatsPriv

/-- The number of retries that the card reports, zero if it does not. -/
def CmdOutcome.retries (outcome : CmdOutcome) : UInt32 :=
  if outcome.Succeeded then le32At outcome.response 16 else 0

/-- The grade of a number of retries. -/
def retryGrade (retries : Int) : Int :=
  if retries > 75 then (90 - retries) * 30 / 15
  else if retries > 70 then (75 - retries) * (60 - 30) / 5 + 30
  else if retries > 65 then (70 - retries) * (80 - 60) / 5 + 60
  else if retries > 50 then (65 - retries) * (90 - 80) / 15 + 80
  else (50 - retries) * (100 - 90) / 50 + 90

/-- A grade is clipped. -/
def clipGrade (grade : Int) : Int :=
  max 0 (min grade 100)

namespace StatsPriv

variable (priv : StatsPriv)

/-- The level less the noise. -/
def rssi : Int :=
  ((priv.snr.toNat : Int) - priv.nf.toNat) -
    (if priv.nf = 0 then nfDefaultScanValue else -(priv.nf.toNat : Int))

/-- The worse grade. -/
def exactQuality (retries : UInt32) : Int :=
  min (clipGrade (rssiGrade priv.rssi)) (clipGrade (retryGrade retries.toNat))

end StatsPriv

/-- The quality is a percentage, it is the worse grade, and it is not lower than for more
retries. -/
structure QualityLaw (priv : StatsPriv) (outcome : CmdOutcome) : Prop where
  range : (priv.lbsGetWirelessStats outcome).1.qual.toNat ≤ 100
  value : (priv.lbsGetWirelessStats outcome).1.qual.toNat = priv.exactQuality outcome.retries
  falls : ∀ fewer : CmdOutcome, fewer.retries ≤ outcome.retries →
    (priv.lbsGetWirelessStats outcome).1.qual ≤ (priv.lbsGetWirelessStats fewer).1.qual

/-- The grade of more than 90 retries in 32 bits. -/
def wrappedGrade (retries : Int) : Int :=
  30 * (90 - retries) % 2 ^ 32 / 15

/-- Up to 90 retries, the RSSI fits into a byte or its low byte has no worse grade than the retries.
Above, the low byte is zero, or the wrapped grade is, or the smaller of the two grades is 256. -/
def QualityExact (rssi retries : Int) : Prop :=
  if retries ≤ 90 then rssi < 256 ∨ retryGrade retries ≤ rssiGrade (rssi % 256)
  else
    rssi % 256 = 0 ∨ wrappedGrade retries = 0 ∨ (rssi % 256 = 206 ∧ 256 ≤ wrappedGrade retries) ∨
      (206 ≤ rssi % 256 ∧ wrappedGrade retries = 256)

section Grades

theorem rssiGrade_bounds (rssi : Int) (positive : 0 ≤ rssi) (byte : rssi < 256) :
    0 ≤ rssiGrade rssi ∧ rssiGrade rssi ≤ 305 := by
  rw [rssiGrade]
  omega

/-- A strong signal has the best grade. -/
theorem rssiGrade_of_strong (rssi : Int) (strong : 50 ≤ rssi) : 100 ≤ rssiGrade rssi := by
  rw [rssiGrade]
  omega

theorem rssiGrade_eq_zero (rssi : Int) : rssiGrade rssi = 0 ↔ rssi = 0 := by
  rw [rssiGrade]
  omega

theorem rssiGrade_ge_iff (rssi : Int) : 256 ≤ rssiGrade rssi ↔ 206 ≤ rssi := by
  rw [rssiGrade]
  omega

theorem rssiGrade_eq_iff (rssi : Int) : rssiGrade rssi = 256 ↔ rssi = 206 := by
  rw [rssiGrade]
  omega

theorem retryGrade_bounds (retries : Int) (positive : 0 ≤ retries) (few : retries ≤ 90) :
    0 ≤ retryGrade retries ∧ retryGrade retries ≤ 100 := by
  rw [retryGrade]
  omega

theorem retryGrade_of_many (retries : Int) (many : 90 < retries) : retryGrade retries < 0 := by
  rw [retryGrade]
  omega

theorem retryGrade_antitone {fewer retries : Int} (le : fewer ≤ retries) :
    retryGrade retries ≤ retryGrade fewer := by
  rw [retryGrade, retryGrade]
  split_ifs <;> omega

/-- The smaller grade is lost in a byte when it is 256. -/
theorem narrowed_eq_zero {rssi retries : Int} (low : 0 ≤ rssi) (high : rssi ≤ 305)
    (positive : 0 ≤ retries) :
    min (min rssi retries % 256) 100 = 0 ↔
      rssi = 0 ∨ retries = 0 ∨ (rssi = 256 ∧ 256 ≤ retries) ∨ (256 ≤ rssi ∧ retries = 256) := by
  omega

/-- A piece of the grade, when nothing wraps around. -/
theorem toNat_piece {limit retries span divisor base : UInt32} (few : retries ≤ limit)
    (low : limit.toNat ≤ 100) (flat : span.toNat ≤ 100) (below : base.toNat ≤ 100) :
    ((limit - retries) * span / divisor + base).toNat =
      (limit.toNat - retries.toNat) * span.toNat / divisor.toNat + base.toNat := by
  have less : (limit - retries).toNat = limit.toNat - retries.toNat :=
    UInt32.toNat_sub_of_le _ _ few
  have product : (limit.toNat - retries.toNat) * span.toNat ≤ 100 * 100 :=
    Nat.mul_le_mul (Nat.le_trans (Nat.sub_le _ _) low) flat
  have quotient := Nat.div_le_self ((limit.toNat - retries.toNat) * span.toNat) divisor.toNat
  rw [UInt32.toNat_add, UInt32.toNat_div, UInt32.toNat_mul, less,
    Nat.mod_eq_of_lt (Nat.lt_of_le_of_lt product (by decide)), Nat.mod_eq_of_lt (by omega)]

/-- Up to 90 retries the grade is the exact one. -/
theorem toNat_txQual_of_few {retries : UInt32} (up : retries.toNat ≤ 90) :
    ((txQual retries).toNat : Int) = retryGrade retries.toNat := by
  have few : ∀ limit : UInt32, ¬ limit.toNat < retries.toNat → retries ≤ limit := fun _ le =>
    UInt32.le_iff_toNat_le.mpr (Nat.le_of_not_lt le)
  rw [txQual, retryGrade]
  simp only [gt_iff_lt, UInt32.lt_iff_toNat_lt, UInt32.reduceToNat]
  split
  · have piece : ((90 - retries) * 30 / 15 + 0).toNat = (90 - retries.toNat) * 30 / 15 + 0 :=
      toNat_piece (few 90 (Nat.not_lt.mpr up)) (by decide) (by decide) (by decide)
    rw [UInt32.add_zero] at piece
    rw [piece]
    omega
  split
  · rename_i le _
    rw [toNat_piece (few 75 le) (by decide) (by decide) (by decide)]
    simp only [UInt32.reduceToNat, UInt32.reduceSub]
    omega
  split
  · rename_i le _
    rw [toNat_piece (few 70 le) (by decide) (by decide) (by decide)]
    simp only [UInt32.reduceToNat, UInt32.reduceSub]
    omega
  split
  · rename_i le _
    rw [toNat_piece (few 65 le) (by decide) (by decide) (by decide)]
    simp only [UInt32.reduceToNat, UInt32.reduceSub]
    omega
  · rename_i le
    rw [toNat_piece (few 50 le) (by decide) (by decide) (by decide)]
    simp only [UInt32.reduceToNat, UInt32.reduceSub]
    omega

/-- Above, the difference wraps around. -/
theorem toNat_txQual_of_many {retries : UInt32} (many : 90 < retries.toNat) :
    ((txQual retries).toNat : Int) = wrappedGrade retries.toNat := by
  have bound := retries.toNat_lt
  have wrapped : (2 ^ 32 - retries.toNat + 90) % 2 ^ 32 = 2 ^ 32 + 90 - retries.toNat := by
    omega
  have first : retries > 75 := UInt32.lt_iff_toNat_lt.mpr (Nat.lt_trans (by decide) many)
  rw [txQual, if_pos first, wrappedGrade, UInt32.toNat_div, UInt32.toNat_mul, UInt32.toNat_sub]
  simp only [UInt32.reduceToNat]
  rw [wrapped]
  omega

end Grades

section Quality

variable {priv : StatsPriv} {outcome : CmdOutcome} {retries : UInt32}

/-- The number of retries is read from the response. -/
theorem le32At_log : le32At outcome.log 16 = outcome.retries := by
  rw [CmdOutcome.log, lbsCmdWithResponse, CmdOutcome.retries]
  dsimp only
  by_cases succeeded : outcome.Succeeded
  · rw [if_pos succeeded]
    apply le32At_congr
    intro i below
    have cleared : ∀ i < 4, byteAt
        ((withResponseRequest cmd80211GetLog getLogCmd).storedBuffer getLogCmd) (16 + i) = 0 := by
      decide
    have size : respSize
        ((withResponseRequest cmd80211GetLog getLogCmd).storedBuffer getLogCmd) = 60 := by
      decide
    apply CmdOutcome.byteAt_buffer_of_zero succeeded
    · rw [size]
      exact Nat.lt_of_lt_of_le (Nat.add_lt_add_left below 16) (by decide)
    · exact cleared i below
  · rw [if_neg succeeded, CmdOutcome.buffer_of_not_succeeded succeeded]
    decide

theorem rssi_nonneg : 0 ≤ priv.rssi := by
  rw [StatsPriv.rssi, nfDefaultScanValue]
  by_cases zero : priv.nf = 0
  · have none : priv.nf.toNat = 0 := congrArg UInt16.toNat zero
    rw [if_pos zero]
    omega
  · rw [if_neg zero]
    omega

/-- The byte that is graded. -/
theorem toNat_level_sub_noise :
    ((priv.level - priv.noise).toNat : Int) = priv.rssi % 256 := by
  rw [StatsPriv.level, StatsPriv.noise, StatsPriv.rssi, nfDefaultScanValue, UInt8.toNat_sub]
  by_cases zero : priv.nf = 0
  · rw [if_pos zero, if_pos zero, toNat_uint8_ofInt, toNat_uint8_ofInt]
    omega
  · rw [if_neg zero, if_neg zero, toNat_uint8_ofInt, toNat_uint8_ofInt]
    omega

/-- The quality that is reported. -/
theorem toNat_quality : ((min (priv.quality retries).toUInt8 100).toNat : Int) =
    min (min (rssiGrade (priv.rssi % 256)) (txQual retries).toNat % 256) 100 := by
  obtain ⟨low, high⟩ : 0 ≤ rssiGrade (priv.rssi % 256) ∧ rssiGrade (priv.rssi % 256) ≤ 305 :=
    rssiGrade_bounds _ (by omega) (by omega)
  have graded : ((UInt32.ofInt (rssiGrade (priv.level - priv.noise).toNat)).toNat : Int) =
      rssiGrade (priv.rssi % 256) := by
    rw [toNat_level_sub_noise, toNat_uint32_ofInt]
    omega
  rw [StatsPriv.quality, UInt8.toNat_min, UInt32.toNat_toUInt8, UInt32.toNat_min]
  show ((min _ 100 : Nat) : Int) = _
  omega

/-- The quality that the law is about. -/
theorem qual_of_connected (connected : priv.connectStatus = .connected ∨
    priv.meshConnectStatus = .connected) :
    (priv.lbsGetWirelessStats outcome).1.qual =
      min (priv.quality outcome.retries).toUInt8 100 := by
  have linked : ¬ (priv.connectStatus ≠ .connected ∧ priv.meshConnectStatus ≠ .connected) := by
    rintro ⟨apart, alone⟩
    exact connected.elim apart alone
  rw [StatsPriv.lbsGetWirelessStats, if_neg linked]
  dsimp only
  rw [le32At_log]

/-- Up to 90 retries the grade of the RSSI byte counts. -/
theorem toNat_quality_of_few (priv : StatsPriv) (few : retries.toNat ≤ 90) :
    ((min (priv.quality retries).toUInt8 100).toNat : Int) =
      min (rssiGrade (priv.rssi % 256)) (retryGrade retries.toNat) := by
  have bounds := retryGrade_bounds retries.toNat (by omega) (by omega)
  have low := (rssiGrade_bounds (priv.rssi % 256) (by omega) (by omega)).1
  rw [toNat_quality, toNat_txQual_of_few few]
  omega

/-- The worse grade is reported, if and only if the condition holds. -/
theorem quality_eq_iff : ((min (priv.quality retries).toUInt8 100).toNat : Int) =
      priv.exactQuality retries ↔ QualityExact priv.rssi retries.toNat := by
  have positive : 0 ≤ priv.rssi := rssi_nonneg
  rw [StatsPriv.exactQuality, clipGrade, clipGrade, QualityExact]
  by_cases few : retries.toNat ≤ 90
  · rw [toNat_quality_of_few priv few, if_pos (by omega)]
    obtain ⟨low, high⟩ := retryGrade_bounds retries.toNat (by omega) (by omega)
    by_cases byte : priv.rssi < 256
    · have same : priv.rssi % 256 = priv.rssi := by omega
      have grade := (rssiGrade_bounds _ positive byte).1
      rw [same]
      omega
    · have strong := rssiGrade_of_strong priv.rssi (by omega)
      omega
  · have many := retryGrade_of_many retries.toNat (by omega)
    have worst : min (max 0 (min (rssiGrade priv.rssi) 100))
        (max 0 (min (retryGrade retries.toNat) 100)) = 0 := by omega
    obtain ⟨low, high⟩ := rssiGrade_bounds (priv.rssi % 256) (by omega) (by omega)
    have wrapped : 0 ≤ wrappedGrade retries.toNat := by
      rw [wrappedGrade]
      omega
    rw [worst, toNat_quality, if_neg (by omega), toNat_txQual_of_many (Nat.lt_of_not_le few),
      narrowed_eq_zero low high wrapped, rssiGrade_eq_zero, rssiGrade_eq_iff, rssiGrade_ge_iff]

end Quality

/-- The quality of a link is the worse grade, and does not rise with the retries, if and only if
what wraps around does not become visible. -/
theorem link_quality_iff (priv : StatsPriv) (connected : priv.connectStatus = .connected ∨
    priv.meshConnectStatus = .connected) (outcome : CmdOutcome) :
    QualityLaw priv outcome ↔ QualityExact priv.rssi outcome.retries.toNat := by
  constructor
  · intro law
    have value := law.value
    rw [qual_of_connected connected] at value
    exact quality_eq_iff.mp value
  · intro harmless
    have value := quality_eq_iff.mpr harmless
    constructor
    · rw [qual_of_connected connected, UInt8.toNat_min]
      exact Nat.min_le_right _ _
    · rw [qual_of_connected connected]
      exact value
    · intro fewer le
      rw [qual_of_connected connected, qual_of_connected connected, UInt8.le_iff_toNat_le]
      have less : fewer.retries.toNat ≤ outcome.retries.toNat := le
      by_cases few : outcome.retries.toNat ≤ 90
      · have here := toNat_quality_of_few priv few
        have there := toNat_quality_of_few priv (Nat.le_trans less few)
        have falls := retryGrade_antitone (Int.ofNat_le.mpr less)
        omega
      · have many := retryGrade_of_many outcome.retries.toNat (by omega)
        rw [StatsPriv.exactQuality, clipGrade, clipGrade] at value
        omega

/-- A link with a good signal. -/
def quietLink : StatsPriv :=
  { connectStatus := .connected, meshConnectStatus := .disconnected, mode := iwModeInfra
    snr := 40, nf := 90
    wstats := { status := 0, qual := 0, level := 0, noise := 0, updated := 0, discardCode := 0
                discardRetries := 0, discardMisc := 0, missBeacon := 0 } }

theorem link_quality_quiet : QualityLaw quietLink .timedOut ↔ QualityExact 40 0 :=
  link_quality_iff quietLink (.inl rfl) .timedOut

/-- A reply to the command for the log, with 91 retries. -/
def manyRetries : CmdOutcome :=
  .answered ⟨[0x0b, 0x80, 60, 0, 1, 0, 0, 0] ++ List.replicate 8 0 ++ [91, 0, 0, 0] ++
    List.replicate 40 0, by decide, by decide⟩

/-- A link with 91 retries is reported to be very good. -/
theorem very_good_with_many_retries : ¬ ∀ (priv : StatsPriv) (outcome : CmdOutcome),
    priv.connectStatus = .connected → QualityLaw priv outcome := by
  intro law
  have value := (law quietLink manyRetries rfl).value
  revert value
  decide

end Libertas
