import Libertas.Cmd.Wrappers

/-!
# Setting the rate

A rate comes in bits per second, and is kept as a byte in units of 500 kbit/s.
`lbs_set_rate` writes the private structure before it looks the byte up, in an array
that is filled up with zeros. Then it tells the card: with an older command when the
newer one fails.
-/

namespace Libertas

open ByteOrder

/-- The part of the private structure that says which rates are active. -/
structure RateLink where
  connectStatus : ConnectStatus
  meshConnectStatus : ConnectStatus
  /-- `curbssparams.rates`. -/
  rates : List UInt8
deriving DecidableEq, Repr

namespace RateLink

/-- `copy_active_data_rates`: the bytes that are copied. -/
def copyActiveDataRates (link : RateLink) : List UInt8 :=
  if link.connectStatus ≠ .connected ∧ link.meshConnectStatus ≠ .connected then
    slice lbsBgRates 0 maxRates
  else slice link.rates 0 maxRates

/-- The active rates. Zeros fill the array up. -/
def activeRates (link : RateLink) : List UInt8 :=
  link.copyActiveDataRates.filter (· ≠ 0)

end RateLink

/-- The end of `lbs_set_rate`. -/
structure RateEnd where
  ret : Int
  priv : CmdPriv
  sent : List Request

/-- The byte for a number of bits per second. -/
def newRate (value : Int32) : UInt8 :=
  UInt8.ofInt (value.toInt.tdiv 500000)

namespace CmdPriv

section Functions

variable (priv : CmdPriv) (link : RateLink) (stack : List UInt8) (adapt fallback : CmdOutcome)

/-- The commands of `lbs_set_rate`. -/
def tellRate (rate : UInt8) : RateEnd :=
  let first := priv.lbsCmd80211RateAdaptRateset stack adapt cmdActSet
  if first.ret ≠ 0 then
    let second := first.priv.lbsSetDataRate fallback rate
    { ret := second.ret, priv := second.priv, sent := first.sent.toList ++ second.sent.toList }
  else { ret := first.ret, priv := first.priv, sent := first.sent.toList }

/-- `lbs_set_rate`, with the answers to its two commands. -/
def lbsSetRate (vwrq : IwParam) : RateEnd :=
  if vwrq.fixed ≠ 0 ∧ vwrq.value = -1 then { ret := -eInval, priv := priv, sent := [] }
  else
    let priv := { priv with
      rates := { priv.rates with enablehwauto := if vwrq.fixed = 0 then 1 else 0 } }
    if vwrq.value = -1 then
      { priv with rates := { priv.rates with curRate := 0 } }.tellRate stack adapt fallback 0
    else if vwrq.value.toInt.tmod 100000 ≠ 0 then { ret := -eInval, priv := priv, sent := [] }
    else
      let rate := newRate vwrq.value
      let priv := { priv with rates := { priv.rates with curRate := rate } }
      if rate ∈ overwrite link.copyActiveDataRates (List.replicate (maxRates + 1) 0) then
        priv.tellRate stack adapt fallback rate
      else { ret := -eInval, priv := priv, sent := [] }

end Functions

end CmdPriv

/-- Only the automatic rate and active rates are accepted, and a request that is rejected leaves
the settings as they were. -/
structure RateLaw (link : RateLink) (priv : CmdPriv) (vwrq : IwParam) (e : RateEnd) : Prop where
  accepted : e.ret = 0 →
    vwrq.value = -1 ∨ ∃ rate ∈ link.activeRates, vwrq.value.toInt = 500000 * rate.toNat
  rejected : e.ret = -eInval → e.priv.rates = priv.rates

/-- The rate is automatic or active, or it is rejected by a check and what is written before that
check is what was there. -/
def RateSettled (link : RateLink) (priv : CmdPriv) (vwrq : IwParam) : Prop :=
  vwrq.value = -1 ∨
  (∃ rate ∈ link.activeRates, vwrq.value.toInt = 500000 * rate.toNat) ∨
  priv.rates.enablehwauto = (if vwrq.fixed = 0 then 1 else 0) ∧
    (¬ 100000 ∣ vwrq.value.toInt ∨
      newRate vwrq.value ≠ 0 ∧ newRate vwrq.value ∉ link.activeRates ∧
        newRate vwrq.value = priv.rates.curRate)

section Rate

variable {priv : CmdPriv} {link : RateLink} {vwrq : IwParam} {stack : List UInt8}
  {adapt fallback : CmdOutcome} {rate : UInt8}

theorem copyActiveDataRates_length (link : RateLink) :
    link.copyActiveDataRates.length = maxRates := by
  rw [RateLink.copyActiveDataRates]
  split
  · exact slice_length _ _ _
  · exact slice_length _ _ _

/-- What `memchr` finds. -/
theorem mem_padded_iff :
    rate ∈ overwrite link.copyActiveDataRates (List.replicate (maxRates + 1) 0) ↔
      rate = 0 ∨ rate ∈ link.activeRates := by
  rw [overwrite, copyActiveDataRates_length, List.mem_append, RateLink.activeRates, List.mem_filter,
    decide_eq_true_iff, show (List.replicate (maxRates + 1) (0 : UInt8)).drop maxRates = [0] from
      rfl, List.mem_singleton]
  by_cases zero : rate = 0
  · exact iff_of_true (.inr zero) (.inl zero)
  · simp [zero]

/-- The call succeeds, or fails as the older command does. -/
theorem tellRate_ret : (priv.tellRate stack adapt fallback rate).ret = 0 ∨
    (priv.tellRate stack adapt fallback rate).ret = fallback.ret := by
  rw [CmdPriv.tellRate]
  dsimp only
  by_cases failed : (priv.lbsCmd80211RateAdaptRateset stack adapt cmdActSet).ret ≠ 0
  · rw [if_pos failed, CmdPriv.lbsSetDataRate]
    dsimp only
    split
    · split
      · exact .inl rfl
      · exact .inr rfl
    · exact .inr rfl
  · rw [if_neg failed]
    exact .inl (not_not.mp failed)

/-- An error of a command is not that of the checks. -/
theorem tellRate_ret_ne : (priv.tellRate stack adapt fallback rate).ret ≠ -eInval := by
  intro error
  have older : fallback.ret = -eInval := by
    rcases tellRate_ret with fine | failed
    · exact absurd (fine.symm.trans error) (by decide)
    · exact failed.symm.trans error
  cases fallback with
  | removed | exhausted | timedOut | interrupted => exact absurd older (by decide)
  | answered reply =>
      rw [CmdOutcome.ret, eInval] at older
      omega

/-- A value that is a multiple of 500000 stands for its rate. -/
theorem newRate_of_eq (value : vwrq.value.toInt = 500000 * rate.toNat) :
    newRate vwrq.value = rate ∧ (100000 : Int) ∣ vwrq.value.toInt := by
  have small := rate.toNat_lt
  have byte : ((rate.toNat : Int) % 2 ^ 8).toNat = rate.toNat := by omega
  constructor
  · rw [newRate, value, Int.mul_tdiv_cancel_left _ (by decide), UInt8.ofInt, byte]
    exact UInt8.ofNat_toNat
  · omega

/-- The law, when the checks are passed. -/
theorem rateLaw_tellRate {written : CmdPriv} :
    (∀ stack adapt fallback, RateLaw link priv vwrq
        (written.tellRate stack adapt fallback rate)) ↔
      vwrq.value = -1 ∨ ∃ rate ∈ link.activeRates, vwrq.value.toInt = 500000 * rate.toNat := by
  constructor
  · intro law
    apply (law [] .interrupted .interrupted).accepted
    exact tellRate_ret.elim id id
  · intro known stack adapt fallback
    exact ⟨fun _ => known, fun error => absurd error tellRate_ret_ne⟩

/-- The law, when a check fails. -/
theorem rateLaw_rejected {written : CmdPriv} :
    (List UInt8 → CmdOutcome → CmdOutcome →
        RateLaw link priv vwrq { ret := -eInval, priv := written, sent := [] }) ↔
      written.rates = priv.rates := by
  constructor
  · intro law
    exact (law [] .interrupted .interrupted).rejected rfl
  · intro same _ _ _
    exact ⟨fun fine => absurd (show (-eInval : Int) = 0 from fine) (by decide), fun _ => same⟩

/-- The automatic rate follows the law. -/
theorem rateLaw_automatic (automatic : vwrq.value = -1) :
    RateLaw link priv vwrq (priv.lbsSetRate link stack adapt fallback vwrq) := by
  rw [CmdPriv.lbsSetRate]
  by_cases fixed : vwrq.fixed ≠ 0
  · rw [if_pos ⟨fixed, automatic⟩]
    exact rateLaw_rejected.mpr rfl stack adapt fallback
  · rw [if_neg fun both => fixed both.1, if_pos automatic]
    exact rateLaw_tellRate.mpr (.inl automatic) stack adapt fallback

/-- A rate that is no multiple of 100000 is rejected when only `enablehwauto` is written. -/
theorem rateLaw_unaligned (given : vwrq.value ≠ -1) (off : ¬ (100000 : Int) ∣ vwrq.value.toInt) :
    (∀ stack adapt fallback, RateLaw link priv vwrq
        (priv.lbsSetRate link stack adapt fallback vwrq)) ↔
      priv.rates.enablehwauto = if vwrq.fixed = 0 then 1 else 0 := by
  have unaligned : vwrq.value.toInt.tmod 100000 ≠ 0 :=
    fun divides => off (Int.dvd_of_tmod_eq_zero divides)
  simp only [CmdPriv.lbsSetRate, if_neg fun both => given (And.right both), if_neg given,
    if_pos unaligned, rateLaw_rejected]
  constructor
  · intro same
    exact (congrArg RateSettings.enablehwauto same).symm
  · intro same
    rw [← same]

/-- A rate that is looked up: when it is found it has to be active, and otherwise both settings have
to be those that are written. -/
theorem rateLaw_aligned (given : vwrq.value ≠ -1) (divides : (100000 : Int) ∣ vwrq.value.toInt) :
    (∀ stack adapt fallback, RateLaw link priv vwrq
        (priv.lbsSetRate link stack adapt fallback vwrq)) ↔
      if newRate vwrq.value = 0 ∨ newRate vwrq.value ∈ link.activeRates then
        ∃ rate ∈ link.activeRates, vwrq.value.toInt = 500000 * rate.toNat
      else
        priv.rates.enablehwauto = (if vwrq.fixed = 0 then 1 else 0) ∧
          newRate vwrq.value = priv.rates.curRate := by
  have aligned : ¬ vwrq.value.toInt.tmod 100000 ≠ 0 :=
    not_not.mpr (Int.tmod_eq_zero_of_dvd divides)
  simp only [CmdPriv.lbsSetRate, if_neg fun both => given (And.right both), if_neg given,
    if_neg aligned, mem_padded_iff]
  by_cases found : newRate vwrq.value = 0 ∨ newRate vwrq.value ∈ link.activeRates
  · simp only [if_pos found, rateLaw_tellRate]
    exact or_iff_right given
  · simp only [if_neg found, rateLaw_rejected]
    constructor
    · intro same
      exact ⟨(congrArg RateSettings.enablehwauto same).symm, congrArg RateSettings.curRate same⟩
    · rintro ⟨same, current⟩
      rw [← same, current]

end Rate

/-- A request follows the law whatever the card answers, if and only if its rate is automatic or
active, or it is rejected and the settings happen to be those that the request asked for. -/
theorem set_rate_iff (link : RateLink) (priv : CmdPriv) (vwrq : IwParam) :
    (∀ stack adapt fallback, RateLaw link priv vwrq
        (priv.lbsSetRate link stack adapt fallback vwrq)) ↔ RateSettled link priv vwrq := by
  by_cases automatic : vwrq.value = -1
  · exact iff_of_true (fun _ _ _ => rateLaw_automatic automatic) (.inl automatic)
  rw [RateSettled, or_iff_right automatic]
  by_cases divides : (100000 : Int) ∣ vwrq.value.toInt
  · rw [rateLaw_aligned automatic divides]
    by_cases found : newRate vwrq.value = 0 ∨ newRate vwrq.value ∈ link.activeRates
    · rw [if_pos found]
      constructor
      · exact .inl
      · rintro (known | ⟨-, off | ⟨nonzero, unknown, -⟩⟩)
        · exact known
        · exact absurd divides off
        · exact absurd found (not_or.mpr ⟨nonzero, unknown⟩)
    · obtain ⟨nonzero, unknown⟩ := not_or.mp found
      rw [if_neg found]
      constructor
      · rintro ⟨same, current⟩
        exact .inr ⟨same, .inr ⟨nonzero, unknown, current⟩⟩
      · rintro (⟨rate, active, value⟩ | ⟨same, off | ⟨-, -, current⟩⟩)
        · exact absurd ((newRate_of_eq value).1 ▸ active) unknown
        · exact absurd divides off
        · exact ⟨same, current⟩
  · rw [rateLaw_unaligned automatic divides]
    constructor
    · intro same
      exact .inr ⟨same, .inl divides⟩
    · rintro (⟨rate, -, value⟩ | ⟨same, -⟩)
      · exact absurd (newRate_of_eq value).2 divides
      · exact same

/-- A fixed rate that is no multiple of 100000 is rejected, and ends the automatic choice. -/
theorem automatic_rate_lost : ¬ ∀ (link : RateLink) (priv : CmdPriv) (vwrq : IwParam)
    (stack : List UInt8) (adapt fallback : CmdOutcome),
      RateLaw link priv vwrq (priv.lbsSetRate link stack adapt fallback vwrq) := by
  intro law
  have same := (law { connectStatus := .disconnected, meshConnectStatus := .disconnected
                      rates := [] } .init
    { value := 1, fixed := 1, disabled := 0, flags := 0 } [] .timedOut .timedOut).rejected rfl
  exact absurd same (by decide)

end Libertas
