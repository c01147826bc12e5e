import Libertas.Assoc.Associate

/-!
# Building the commands of a connection

The builders of ASSOCIATE, AD_HOC_START and AD_HOC_JOIN write the channel, the rates,
the mode and the beacon period of the private structure while they build, and some
of their exits lie behind that. Nothing is taken back on an error: a build that fails
late leaves what a successful one leaves.

A builder may send commands of its own, behind all that it writes. Their results are
given, as they do not touch what is modelled here. The domain information that is sent
is in the modules of `Domain`.
-/

namespace Libertas

open ByteOrder

/-- `MRVDRV_BEACON_INTERVAL` and `MRVDRV_ASSOCIATION_TIME_OUT`. -/
def mrvdrvBeaconInterval : UInt16 := 100
def mrvdrvAssociationTimeOut : UInt16 := 255

/-- `LBS802_11POWERMODEMAX_PSP`. -/
def lbs80211PowermodeMaxPsp : UInt16 := 1

/-- `CMD_BSS_TYPE_IBSS` and `CMD_SCAN_PROBE_DELAY_TIME`. -/
def cmdBssTypeIbss : UInt8 := 2
def cmdScanProbeDelayTime : UInt16 := 0

/-- `WLAN_CAPABILITY_PRIVACY`. -/
def wlanCapabilityPrivacy : UInt16 := 0x0010

/-- `sizeof(struct cmd_ds_802_11_ad_hoc_start)` and `sizeof(struct cmd_ds_802_11_ad_hoc_join)`. -/
def sizeofAdHocStart : UInt16 := 169
def sizeofAdHocJoin : UInt16 := 93

/-- The part of `struct lbs_private` that the builders use. -/
structure BuildPriv where
  curbssparams : CurrentBssParams
  /-- `curbssparams.rates`. -/
  rates : List UInt8
  mode : UInt8
  beaconPeriod : UInt16
  psmode : UInt16
  rateSettings : RateSettings
  enable11d : Bool
  regionChannel : List RegionChannel
deriving DecidableEq, Repr

/-- The results of the commands that a builder sends: PS_MODE and DOMAIN_INFO. -/
structure NestedResults where
  psMode : Int
  domainInfo : Int

/-- The private structure behind a builder, and the command; `none` for an error. -/
structure Built (Cmd : Type) where
  priv : BuildPriv
  cmd : Option Cmd

/-- The parameters of AD_HOC_START. -/
structure AdHocStartCmd where
  ssid : List UInt8
  bsstype : UInt8
  beaconperiod : UInt16
  ssparamset : List UInt8
  phyparamset : List UInt8
  probedelay : UInt16
  capability : UInt16
  rates : List UInt8
  size : UInt16
deriving DecidableEq, Repr

/-- The parameters of AD_HOC_JOIN. -/
structure AdHocJoinCmd where
  bssid : List UInt8
  ssid : List UInt8
  type : UInt8
  beaconperiod : UInt16
  phyparamset : List UInt8
  ssparamset : List UInt8
  capability : UInt16
  rates : List UInt8
  failtimeout : UInt16
  probedelay : UInt16
  size : UInt16
deriving DecidableEq, Repr

/-- The rates as `curbssparams` keeps them, with zeros behind. -/
def curRates (rates : List UInt8) : List UInt8 :=
  overwrite rates (List.replicate (maxRates + 1) 0)

namespace BuildPriv

variable (priv : BuildPriv) (nested : NestedResults)

/-- `set_domain_info_11d`. -/
def setDomainInfo11d : Int :=
  if priv.enable11d then nested.domainInfo else 0

/-- `lbs_parse_dnld_countryinfo_11d`. The parser reports no error. -/
def lbsParseDnldCountryinfo11d : Int :=
  if priv.enable11d then priv.setDomainInfo11d nested else 0

/-- The table of the band. A table without channels stands for a missing one. -/
def bandChannels : Option RegionChannel :=
  priv.regionChannel.find? fun regionChan =>
    regionChan.valid && !regionChan.cfp.isEmpty && regionChan.band == priv.curbssparams.band

/-- `lbs_create_dnld_countryinfo_11d`. -/
def lbsCreateDnldCountryinfo11d : Int :=
  if priv.enable11d then
    match priv.bandChannels with
    | none => -1
    | some _ => priv.setDomainInfo11d nested
  else 0

/-- The rates that the card and a BSS have in common. -/
def commonRates {w : Nat} (bss : BssDescriptor w) : Option (List UInt8) :=
  getCommonRates priv.rateSettings (slice bss.rates 0 maxRates)

variable {w : Nat} (input : AssociateInput w)

/-- `lbs_cmd_80211_associate`, with what it writes to the private structure. -/
def lbsCmd80211Associate (params : List UInt8) : Built AssociateCmd :=
  match priv.commonRates input.bss with
  | none => { priv := priv, cmd := none }
  | some rates =>
      let priv : BuildPriv :=
        { priv with
          rates := curRates rates
          curbssparams := { priv.curbssparams with channel := input.currentchan } }
      let countryinfo := priv.lbsParseDnldCountryinfo11d nested
      { priv := priv
        cmd := Libertas.lbsCmd80211Associate priv.rateSettings
          { input with countryinfo := countryinfo } params }

/-- `lbs_cmd_80211_ad_hoc_start`. -/
def lbsCmd80211AdHocStart (assocReq : AssocRequest) : Built AdHocStartCmd :=
  let priv : BuildPriv :=
    { priv with
      mode := iwModeAdhoc
      beaconPeriod := if priv.beaconPeriod = 0 then mrvdrvBeaconInterval else priv.beaconPeriod
      rates := curRates lbsBgRates }
  if priv.lbsCreateDnldCountryinfo11d nested ≠ 0 then { priv := priv, cmd := none }
  else
    { priv := priv
      cmd := some
        { ssid := overwrite (slice assocReq.ssid 0 assocReq.ssidLen.toNat)
            (List.replicate iwEssidMaxSize 0)
          bsstype := cmdBssTypeIbss
          beaconperiod := priv.beaconPeriod
          ssparamset := [6, 2, 0, 0]
          phyparamset := [3, 1, assocReq.channel]
          probedelay := cmdScanProbeDelayTime
          capability :=
            if assocReq.secinfo.wepEnabled then wlanCapabilityIbss ||| wlanCapabilityPrivacy
            else wlanCapabilityIbss
          rates := lbsSetBasicRateFlags lbsBgRates
          size := sizeofAdHocStart + UInt16.ofNat sDsGen } }

/-- The command that `lbs_cmd_80211_ad_hoc_join` builds, with the common rates. -/
def adHocJoinCmd (bss : BssDescriptor w) (wepEnabled : Bool) (rates : List UInt8) :
    AdHocJoinCmd :=
  { bssid := slice bss.bssid 0 ethAlen
    ssid := overwrite (slice bss.ssid 0 bss.ssidLen.toNat) (List.replicate iwEssidMaxSize 0)
    type := cmdBssTypeIbss
    beaconperiod := bss.beaconperiod
    phyparamset := bss.phyparamset
    ssparamset := bss.ssparamset.take 2 ++ le16Bytes bss.atimwindow.toUInt16 ++
      bss.ssparamset.drop 4
    capability :=
      if wepEnabled then (bss.capability &&& capinfoMask) ||| wlanCapabilityPrivacy
      else bss.capability &&& capinfoMask
    rates := overwrite (lbsSetBasicRateFlags rates) (List.replicate maxRates 0)
    failtimeout := mrvdrvAssociationTimeOut
    probedelay := cmdScanProbeDelayTime
    size := sizeofAdHocJoin + UInt16.ofNat sDsGen }

/-- `lbs_cmd_80211_ad_hoc_join`. -/
def lbsCmd80211AdHocJoin (bss : BssDescriptor w) (wepEnabled : Bool) : Built AdHocJoinCmd :=
  let priv : BuildPriv :=
    { priv with curbssparams := { priv.curbssparams with channel := bss.channel.toUInt8 } }
  match priv.commonRates bss with
  | none => { priv := priv, cmd := none }
  | some rates =>
      let priv : BuildPriv := { priv with rates := curRates rates }
      if priv.psmode = lbs80211PowermodeMaxPsp ∧ nested.psMode ≠ 0 then
        { priv := priv, cmd := none }
      else if priv.lbsParseDnldCountryinfo11d nested ≠ 0 then { priv := priv, cmd := none }
      else { priv := priv, cmd := some (adHocJoinCmd bss wepEnabled rates) }

/-- The commands that the builders send. `set_domain_info_11d` sends DOMAIN_INFO. -/
def domainInfoSent : List UInt16 :=
  if priv.enable11d then [cmd80211dDomainInfo] else []
def associateSent (bss : BssDescriptor w) : List UInt16 :=
  match priv.commonRates bss with
  | none => []
  | some _ => priv.domainInfoSent
def adHocStartSent : List UInt16 :=
  match priv.bandChannels with
  | none => []
  | some _ => priv.domainInfoSent

/-- AD_HOC_JOIN wakes the card up first. -/
def adHocJoinSent (bss : BssDescriptor w) : List UInt16 :=
  match priv.commonRates bss with
  | none => []
  | some _ =>
      if priv.psmode = lbs80211PowermodeMaxPsp then
        cmd80211PsMode :: if nested.psMode ≠ 0 then [] else priv.domainInfoSent
      else priv.domainInfoSent

end BuildPriv

/-- The network that the driver is in has the same name as before. -/
structure SameNetwork (before after : BuildPriv) : Prop where
  bssid : after.curbssparams.bssid = before.curbssparams.bssid
  ssid : after.curbssparams.ssid = before.curbssparams.ssid
  ssidLen : after.curbssparams.ssidLen = before.curbssparams.ssidLen
  band : after.curbssparams.band = before.curbssparams.band

/-- The mode and the beacon period are the same as before. -/
structure SameMode (before after : BuildPriv) : Prop where
  mode : after.mode = before.mode
  beaconPeriod : after.beaconPeriod = before.beaconPeriod

namespace BuildPriv

variable {w : Nat} {priv : BuildPriv} {nested : NestedResults}

/-- The private structure behind ASSOCIATE. -/
theorem lbsCmd80211Associate_priv (nested : NestedResults) (input : AssociateInput w)
    (params : List UInt8) :
    (priv.lbsCmd80211Associate nested input params).priv =
      match priv.commonRates input.bss with
      | none => priv
      | some rates =>
          { priv with
            rates := curRates rates
            curbssparams := { priv.curbssparams with channel := input.currentchan } } := by
  rw [BuildPriv.lbsCmd80211Associate]
  split <;> rfl

/-- The private structure behind AD_HOC_START. -/
theorem lbsCmd80211AdHocStart_priv (nested : NestedResults) (assocReq : AssocRequest) :
    (priv.lbsCmd80211AdHocStart nested assocReq).priv =
      { priv with
        mode := iwModeAdhoc
        beaconPeriod := if priv.beaconPeriod = 0 then mrvdrvBeaconInterval else priv.beaconPeriod
        rates := curRates lbsBgRates } := by
  rw [lbsCmd80211AdHocStart]
  exact (apply_ite Built.priv _ _ _).trans (ite_self _)

/-- The private structure behind AD_HOC_JOIN. -/
theorem lbsCmd80211AdHocJoin_priv (nested : NestedResults) (bss : BssDescriptor w)
    (wepEnabled : Bool) :
    (priv.lbsCmd80211AdHocJoin nested bss wepEnabled).priv =
      { priv with
        rates := match priv.commonRates bss with
          | none => priv.rates
          | some rates => curRates rates
        curbssparams := { priv.curbssparams with channel := bss.channel.toUInt8 } } := by
  have same : BuildPriv.commonRates
      { priv with curbssparams := { priv.curbssparams with channel := bss.channel.toUInt8 } } bss =
        priv.commonRates bss := rfl
  simp only [lbsCmd80211AdHocJoin, same]
  cases priv.commonRates bss with
  | none => rfl
  | some rates =>
      dsimp only
      split
      · rfl
      · split <;> rfl

/-- The domain information could not be set. -/
def DomainRefused (priv : BuildPriv) (nested : NestedResults) : Prop :=
  priv.enable11d = true ∧ nested.domainInfo ≠ 0

/-- The exits of ASSOCIATE. -/
theorem associate_cmd_eq_none_iff (input : AssociateInput w) (params : List UInt8) :
    (priv.lbsCmd80211Associate nested input params).cmd = none ↔
      priv.commonRates input.bss = none ∨ priv.DomainRefused nested := by
  rw [BuildPriv.lbsCmd80211Associate]
  cases found : priv.commonRates input.bss with
  | none => simp
  | some rates =>
      have common : getCommonRates priv.rateSettings (slice input.bss.rates 0 maxRates) =
          some rates := found
      simp only [Libertas.lbsCmd80211Associate, common, lbsParseDnldCountryinfo11d,
        setDomainInfo11d, DomainRefused]
      cases priv.enable11d <;> simp

/-- AD_HOC_START fails only with 11d. -/
theorem enable11d_of_adHocStart_failed {assocReq : AssocRequest}
    (failed : (priv.lbsCmd80211AdHocStart nested assocReq).cmd = none) :
    priv.enable11d = true := by
  cases enabled : priv.enable11d with
  | true => rfl
  | false => simp [lbsCmd80211AdHocStart, lbsCreateDnldCountryinfo11d, enabled] at failed

/-- The exits of AD_HOC_JOIN. -/
theorem adHocJoin_cmd_eq_none_iff (bss : BssDescriptor w) (wepEnabled : Bool) :
    (priv.lbsCmd80211AdHocJoin nested bss wepEnabled).cmd = none ↔
      priv.commonRates bss = none ∨
        priv.psmode = lbs80211PowermodeMaxPsp ∧ nested.psMode ≠ 0 ∨ priv.DomainRefused nested := by
  have same : BuildPriv.commonRates
      { priv with curbssparams := { priv.curbssparams with channel := bss.channel.toUInt8 } } bss =
        priv.commonRates bss := rfl
  simp only [lbsCmd80211AdHocJoin, same]
  cases priv.commonRates bss with
  | none => simp
  | some rates =>
      simp only [lbsParseDnldCountryinfo11d, setDomainInfo11d, DomainRefused]
      split
      · rename_i asleep
        simp [asleep.1, asleep.2]
      · rename_i awake
        cases priv.enable11d with
        | false => simp [awake]
        | true => by_cases set : nested.domainInfo = 0 <;> simp [awake, set]

end BuildPriv

/-- A build that fails keeps the name of the network. ASSOCIATE and AD_HOC_JOIN keep the mode and
the beacon period, AD_HOC_START the channel. Rates that are refused are not stored; at every later
exit the fields are those of the command. -/
theorem failed_build_state {w : Nat} (priv : BuildPriv) (nested : NestedResults)
    (input : AssociateInput w) (params : List UInt8) (wepEnabled : Bool) :
    (∀ after, priv.lbsCmd80211Associate nested input params = ⟨after, none⟩ →
      SameNetwork priv after ∧ SameMode priv after ∧
        (priv.commonRates input.bss = none ∧ after = priv ∨
          ∃ rates, priv.commonRates input.bss = some rates ∧ priv.DomainRefused nested ∧
            after.rates = curRates rates ∧ after.curbssparams.channel = input.currentchan)) ∧
    (∀ after, priv.lbsCmd80211AdHocStart nested input.assocReq = ⟨after, none⟩ →
      SameNetwork priv after ∧ after.curbssparams.channel = priv.curbssparams.channel ∧
        priv.enable11d = true ∧ after.mode = iwModeAdhoc ∧
        after.beaconPeriod =
          (if priv.beaconPeriod = 0 then mrvdrvBeaconInterval else priv.beaconPeriod) ∧
        after.rates = curRates lbsBgRates) ∧
    (∀ after, priv.lbsCmd80211AdHocJoin nested input.bss wepEnabled = ⟨after, none⟩ →
      SameNetwork priv after ∧ SameMode priv after ∧
        (priv.commonRates input.bss = none ∧ after.rates = priv.rates ∨
          ∃ rates, priv.commonRates input.bss = some rates ∧
            (priv.psmode = lbs80211PowermodeMaxPsp ∧ nested.psMode ≠ 0 ∨
              priv.DomainRefused nested) ∧
            after.rates = curRates rates ∧
            after.curbssparams.channel = input.bss.channel.toUInt8)) := by
  refine ⟨?_, ?_, ?_⟩
  · intro after built
    have exits := (BuildPriv.associate_cmd_eq_none_iff input params).mp (congrArg Built.cmd built)
    have left := priv.lbsCmd80211Associate_priv nested input params
    rw [built] at left
    cases found : priv.commonRates input.bss with
    | none =>
        simp only [found] at left
        subst left
        exact ⟨⟨rfl, rfl, rfl, rfl⟩, ⟨rfl, rfl⟩, .inl ⟨rfl, rfl⟩⟩
    | some rates =>
        simp only [found, reduceCtorEq, false_or] at left exits
        subst left
        exact ⟨⟨rfl, rfl, rfl, rfl⟩, ⟨rfl, rfl⟩, .inr ⟨rates, rfl, exits, rfl, rfl⟩⟩
  · intro after built
    have enabled := BuildPriv.enable11d_of_adHocStart_failed (congrArg Built.cmd built)
    have left := priv.lbsCmd80211AdHocStart_priv nested input.assocReq
    rw [built] at left
    subst left
    exact ⟨⟨rfl, rfl, rfl, rfl⟩, rfl, enabled, rfl, rfl, rfl⟩
  · intro after built
    have exits :=
      (BuildPriv.adHocJoin_cmd_eq_none_iff input.bss wepEnabled).mp (congrArg Built.cmd built)
    have left := priv.lbsCmd80211AdHocJoin_priv nested input.bss wepEnabled
    rw [built] at left
    cases found : priv.commonRates input.bss with
    | none =>
        simp only [found] at left
        subst left
        exact ⟨⟨rfl, rfl, rfl, rfl⟩, ⟨rfl, rfl⟩, .inl ⟨rfl, rfl⟩⟩
    | some rates =>
        simp only [found, reduceCtorEq, false_or] at left exits
        subst left
        exact ⟨⟨rfl, rfl, rfl, rfl⟩, ⟨rfl, rfl⟩, .inr ⟨rates, rfl, exits, rfl, rfl⟩⟩

/-- A station on channel 1, with 11d. -/
def onChannelOne : BuildPriv :=
  { curbssparams :=
      { bssid := [2, 0, 0, 0, 0, 1], ssid := [65], ssidLen := 1, band := 0, channel := 1 }
    rates := curRates [0x02, 0x04], mode := iwModeInfra, beaconPeriod := 0, psmode := 0
    rateSettings := { enablehwauto := 1, curRate := 0 }, enable11d := true, regionChannel := [] }

/-- A network on channel 6. -/
def onChannelSix : AssociateInput 32 :=
  { assocReq := .zero
    bss :=
      { BssDescriptor.zero with
        bssid := [2, 0, 0, 0, 0, 6], ssid := [66], ssidLen := 1, channel := 6
        rates := [0x02, 0x0b], phyparamset := [3, 1, 6] }
    behindIe := [], behindSsid := [], countryinfo := 0 }

/-- The firmware refuses the domain information. -/
def domainFails : NestedResults :=
  { psMode := 0, domainInfo := -1 }

/-- ASSOCIATE fails behind the writing of the channel and the rates. -/
theorem failed_build_state_domain : ∃ after rates,
    onChannelOne.lbsCmd80211Associate domainFails onChannelSix [] = ⟨after, none⟩ ∧
      onChannelOne.commonRates onChannelSix.bss = some rates ∧
      after.rates = curRates rates ∧ after.curbssparams.channel = onChannelSix.currentchan := by
  have built : onChannelOne.lbsCmd80211Associate domainFails onChannelSix [] =
      ⟨(onChannelOne.lbsCmd80211Associate domainFails onChannelSix []).priv, none⟩ := rfl
  obtain ⟨-, -, ⟨refused, -⟩ | ⟨rates, common, -, stored, channel⟩⟩ :=
    (failed_build_state onChannelOne domainFails onChannelSix [] false).1 _ built
  · exact absurd refused (by decide)
  · exact ⟨_, rates, built, common, stored, channel⟩

/-- The channel and the rates of a network that was not joined stay behind, and the mode of one
that was not started. -/
theorem failed_build_moves :
    (onChannelOne.lbsCmd80211Associate domainFails onChannelSix []).cmd = none ∧
      (onChannelOne.lbsCmd80211Associate domainFails onChannelSix []).priv.curbssparams.channel ≠
        onChannelOne.curbssparams.channel ∧
      (onChannelOne.lbsCmd80211Associate domainFails onChannelSix []).priv.rates ≠
        onChannelOne.rates ∧
      (onChannelOne.lbsCmd80211AdHocStart domainFails .zero).cmd = none ∧
      (onChannelOne.lbsCmd80211AdHocStart domainFails .zero).priv.mode ≠ onChannelOne.mode := by
  decide

end Libertas
