import Libertas.Assoc.Calls
import Libertas.Assoc.ChannelHelper

/-!
# Setting the frequency

`lbs_set_freq` and `lbs_mesh_set_freq` take a mantissa and an exponent. With the
exponent 1 they stand for a frequency in units of 10 Hz, and with the exponent 0 for the
number of a channel. Both functions check them in the same way, and turn a frequency
into a number: `freqChannel` is what they share. One puts the channel into the
association request, the other one starts the mesh on it.
-/

namespace Libertas

open ByteOrder

/-- What `lbs_set_freq` and `lbs_mesh_set_freq` check. When all is well it is the channel that
`fwrq->m` holds in the end. -/
def ChannelTables.freqChannel (tables : ChannelTables) (m e : Int) : Option Int :=
  let byChannel (m e : Int) : Option Int :=
    if 1000 < m ∨ 0 < e then none
    else (tables.lbsFindCfpByBandAndChannel 0 (UInt16.ofInt m)).map fun _ => m
  if e = 1 then
    (tables.findCfpByBandAndFreq 0 (UInt32.ofInt (m.tdiv 100000))).bind fun cfp =>
      byChannel cfp.channel.toNat 0
  else byChannel m e

/-- The call that `lbs_send_deauthentication` makes. The reason is that the station leaves. -/
def CmdPriv.deauthenticationRequest (priv : CmdPriv) : Request :=
  { kind := .prepareAndSend true, cmdNo := cmd80211Deauthenticate, cmdAction := 0
    content := some (16, priv.assoc.curbssparams.bssid ++ le16Bytes 3), buffer := none }

/-- The call that `lbs_stop_adhoc_network` makes. -/
def stopAdhocRequest : Request :=
  { kind := .prepareAndSend true, cmdNo := cmd80211AdHocStop, cmdAction := 0
    content := some (8, []), buffer := none }

/-- The end of `lbs_mesh_set_freq`, with the commands that it sends, oldest first. -/
structure MeshFreqEnd where
  ret : Int
  priv : CmdPriv
  sent : List Request

/-- `lbs_mesh_set_freq`. The private structure is `behind` when the first commands are over: they
can end a connection. -/
def CmdPriv.lbsMeshSetFreq (priv behind : CmdPriv) (mesh : MeshSettings)
    (started got : CmdOutcome) (m e : Int) : MeshFreqEnd :=
  match priv.assoc.tables.freqChannel m e with
  | none => { ret := -eInval, priv := priv, sent := [] }
  | some m =>
      let left :=
        if m ≠ priv.channel.toNat then
          if priv.assoc.mode = iwModeInfra then [priv.deauthenticationRequest]
          else if priv.assoc.mode = iwModeAdhoc then [stopAdhocRequest]
          else []
        else []
      { ret := 0
        priv := (behind.lbsUpdateChannel got).2
        sent := left ++ (lbsMeshConfig mesh cmdActMeshConfigStart (UInt16.ofInt m) started).2 ++
          [getChannelRequest] }

/-- The channel is the one that a mantissa and an exponent stand for. -/
def ChanFreqPower.Named (cfp : ChanFreqPower) (m : Int32) (e : Int16) : Prop :=
  e = 1 ∧ m.toInt = 100000 * cfp.freq.toNat ∨ e = 0 ∧ m.toInt = cfp.channel.toNat

/-- A call that succeeds was given a channel of the tables, and this is the one that is chosen. -/
def FreqLaw (tables : ChannelTables) (m : Int32) (e : Int16) (ret : Int)
    (Chosen : UInt16 → Prop) : Prop :=
  ret = 0 → ∃ cfp, tables.InForce 0 cfp ∧ cfp.Named m e ∧ Chosen cfp.channel

/-- The association request has the channel, and the flag that says so. -/
def AssocPriv.ChosenChannel (priv : AssocPriv) (channel : UInt16) : Prop :=
  ∃ req, priv.pendingAssocReq = some req ∧ req.flags.channel = true ∧
    req.channel.toUInt16 = channel

/-- What gets through the checks is not rounded, has no sign, and has the channel it names after the
number of that is narrowed. -/
structure FreqExact (tables : ChannelTables) (narrow : Int → UInt16) (m : Int32) (e : Int16) :
    Prop where
  freq : e.toInt = 1 → ∀ cfp,
    tables.findCfpByBandAndFreq 0 (UInt32.ofInt (m.toInt.tdiv 100000)) = some cfp →
      cfp.channel.toNat ≤ 1000 → 0 ≤ m.toInt ∧ 100000 ∣ m.toInt ∧
        ∃ other, tables.InForce 0 other ∧ other.freq = cfp.freq ∧
          narrow cfp.channel.toNat = other.channel
  number : e.toInt ≤ 0 → m.toInt ≤ 1000 →
    (∃ cfp, tables.InForce 0 cfp ∧ cfp.channel = UInt16.ofInt m.toInt) →
      0 ≤ m.toInt ∧ e.toInt = 0 ∧ narrow m.toInt = UInt16.ofInt m.toInt

section Channel

variable {tables : ChannelTables} {m e c : Int} {cfp : ChanFreqPower}

theorem findCfpByBandAndFreq_eq_some {freq : UInt32}
    (found : tables.findCfpByBandAndFreq 0 freq = some cfp) :
    tables.InForce 0 cfp ∧ cfp.freq = freq := by
  obtain ⟨listed, same⟩ := ChannelTables.findCfp_eq_some found
  exact ⟨listed, beq_iff_eq.mp same⟩

theorem lbsFindCfpByBandAndChannel_isSome (listed : tables.InForce 0 cfp) :
    ∃ other, tables.lbsFindCfpByBandAndChannel 0 cfp.channel = some other :=
  ChannelTables.findCfp_of_inForce listed BEq.rfl

theorem uint16_ofInt_toNat (value : UInt16) : UInt16.ofInt value.toNat = value := by
  have small := value.toNat_lt
  rw [← UInt16.toNat_inj, toNat_uint16_ofInt]
  omega

theorem uint32_ofInt_toNat (value : UInt32) : UInt32.ofInt value.toNat = value := by
  have small := value.toNat_lt
  rw [← UInt32.toNat_inj, toNat_uint32_ofInt]
  omega

/-- The association request gets the channel. -/
theorem setFreq_eq (req : AssocRequest) (tables : ChannelTables) (m e : Int) :
    req.setFreq tables m e =
      match tables.freqChannel m e with
      | none => { ret := -eInval, req := req, accesses := [] }
      | some m =>
          { ret := 0
            req := { req with
              channel := UInt8.ofInt m
              flags := { req.flags with channel := true } }
            accesses := [] } := by
  rw [AssocRequest.setFreq, ChannelTables.freqChannel]
  dsimp only
  by_cases freq : e = 1
  · rw [if_pos freq, if_pos freq]
    cases tables.findCfpByBandAndFreq 0 (UInt32.ofInt (m.tdiv 100000)) with
    | none => rfl
    | some cfp =>
        rw [Option.bind_some]
        dsimp only
        split
        · rfl
        · cases tables.lbsFindCfpByBandAndChannel 0 (UInt16.ofInt cfp.channel.toNat) <;> rfl
  · rw [if_neg freq, if_neg freq]
    split
    · rfl
    · cases tables.lbsFindCfpByBandAndChannel 0 (UInt16.ofInt m) <;> rfl

/-- A number that is a channel of the tables gets through. -/
theorem freqChannel_of_number (exponent : e ≤ 0) (small : m ≤ 1000)
    (listed : tables.InForce 0 cfp) (same : cfp.channel = UInt16.ofInt m) :
    tables.freqChannel m e = some m := by
  obtain ⟨other, found⟩ := lbsFindCfpByBandAndChannel_isSome listed
  rw [ChannelTables.freqChannel]
  dsimp only
  rw [if_neg (by omega), if_neg (by omega), ← same, found, Option.map_some]

/-- So does a frequency of the tables, as the number of its channel. -/
theorem freqChannel_of_freq (freq : e = 1) (found : tables.findCfpByBandAndFreq 0
    (UInt32.ofInt (m.tdiv 100000)) = some cfp) (small : cfp.channel.toNat ≤ 1000) :
    tables.freqChannel m e = some (cfp.channel.toNat : Int) := by
  have listed := (findCfpByBandAndFreq_eq_some found).1
  have number := freqChannel_of_number (Int.le_refl 0) (Int.ofNat_le.mpr small) listed
    (uint16_ofInt_toNat _).symm
  rw [ChannelTables.freqChannel] at number ⊢
  dsimp only at number ⊢
  rw [if_neg (by decide)] at number
  rw [if_pos freq, found, Option.bind_some, number]

/-- Nothing else gets through. -/
theorem freqChannel_eq_some (passed : tables.freqChannel m e = some c) :
    (e = 1 ∧ ∃ cfp, tables.findCfpByBandAndFreq 0 (UInt32.ofInt (m.tdiv 100000)) = some cfp ∧
      cfp.channel.toNat ≤ 1000 ∧ c = cfp.channel.toNat) ∨
    (e ≤ 0 ∧ m ≤ 1000 ∧ c = m ∧
      ∃ cfp, tables.InForce 0 cfp ∧ cfp.channel = UInt16.ofInt m) := by
  rw [ChannelTables.freqChannel] at passed
  dsimp only at passed
  by_cases freq : e = 1
  · rw [if_pos freq] at passed
    obtain ⟨cfp, found, passed⟩ := Option.bind_eq_some_iff.mp passed
    by_cases large : (1000 : Int) < cfp.channel.toNat ∨ (0 : Int) < 0
    · rw [if_pos large] at passed
      cases passed
    · rw [if_neg large] at passed
      obtain ⟨_, -, same⟩ := Option.map_eq_some_iff.mp passed
      exact .inl ⟨freq, cfp, found, by omega, same.symm⟩
  · rw [if_neg freq] at passed
    by_cases large : 1000 < m ∨ 0 < e
    · rw [if_pos large] at passed
      cases passed
    · rw [if_neg large] at passed
      obtain ⟨cfp, found, same⟩ := Option.map_eq_some_iff.mp passed
      obtain ⟨listed, number⟩ := ChannelTables.findCfp_eq_some found
      exact .inr ⟨by omega, by omega, same.symm, cfp, listed, beq_iff_eq.mp number⟩

end Channel

section Law

variable {tables : ChannelTables} {m : Int32} {e : Int16} {cfp : ChanFreqPower}
  {narrow : Int → UInt16}

/-- A mantissa without a sign that is a multiple of 100000 is not rounded. -/
theorem mantissa_eq (found : cfp.freq = UInt32.ofInt (m.toInt.tdiv 100000))
    (positive : 0 ≤ m.toInt) (divides : 100000 ∣ m.toInt) :
    m.toInt = 100000 * cfp.freq.toNat := by
  have bound := m.toInt_lt
  obtain ⟨quotient, value⟩ := divides
  have freq : cfp.freq.toNat = quotient.toNat := by
    rw [found, toNat_uint32_ofInt, value, Int.mul_tdiv_cancel_left _ (by decide)]
    omega
  omega

/-- The channels that get through are those that the request names, if and only if nothing is
rounded, has a sign or is narrowed. -/
theorem freqExact_iff :
    (∀ c, tables.freqChannel m.toInt e.toInt = some c →
      ∃ cfp, tables.InForce 0 cfp ∧ cfp.Named m e ∧ narrow c = cfp.channel) ↔
        FreqExact tables narrow m e := by
  constructor
  · intro law
    constructor
    · intro freq cfp found small
      obtain ⟨other, listed, named, chosen⟩ := law _ (freqChannel_of_freq freq found small)
      have value : m.toInt = 100000 * other.freq.toNat := by
        rcases named with ⟨-, value⟩ | ⟨zero, -⟩
        · exact value
        · rw [zero] at freq
          cases freq
      have same : other.freq = cfp.freq := by
        rw [(findCfpByBandAndFreq_eq_some found).2, value,
          Int.mul_tdiv_cancel_left _ (by decide), uint32_ofInt_toNat]
      refine ⟨by omega, by omega, other, listed, same, chosen⟩
    · rintro exponent small ⟨cfp, listed, same⟩
      obtain ⟨other, -, named, chosen⟩ := law _ (freqChannel_of_number exponent small listed same)
      rcases named with ⟨one, -⟩ | ⟨zero, value⟩
      · rw [one] at exponent
        exact absurd exponent (by decide)
      · refine ⟨by omega, by rw [zero]; rfl, ?_⟩
        rw [chosen, value, uint16_ofInt_toNat]
  · intro literal c passed
    rcases freqChannel_eq_some passed with
      ⟨freq, cfp, found, small, rfl⟩ | ⟨exponent, small, rfl, cfp, listed, same⟩
    · obtain ⟨positive, divides, other, listed, same, chosen⟩ := literal.freq freq cfp found small
      refine ⟨other, listed, .inl ⟨Int16.toInt_inj.mp freq, ?_⟩, chosen⟩
      rw [same]
      exact mantissa_eq (findCfpByBandAndFreq_eq_some found).2 positive divides
    · obtain ⟨positive, zero, chosen⟩ := literal.number exponent small ⟨cfp, listed, same⟩
      refine ⟨cfp, listed, .inr ⟨Int16.toInt_inj.mp zero, ?_⟩, chosen.trans same.symm⟩
      rw [same, toNat_uint16_ofInt]
      omega

/-- There is no request when there was none and none can be allocated. -/
theorem lbsGetAssociationRequest_eq_none {priv after : AssocPriv} {alloc : Bool}
    (missing : priv.lbsGetAssociationRequest alloc = (none, after)) :
    priv.pendingAssocReq = none ∧ alloc = false := by
  rw [AssocPriv.lbsGetAssociationRequest] at missing
  cases pending : priv.pendingAssocReq with
  | some req =>
      rw [pending] at missing
      cases missing
  | none =>
      rw [pending] at missing
      cases alloc with
      | true => cases missing
      | false => exact ⟨rfl, rfl⟩

/-- A channel that gets through is put into the request, if there is one. -/
theorem lbsSetFreq_of_some {priv : AssocPriv} {alloc : Bool} {m e c : Int}
    (room : ¬ (priv.pendingAssocReq = none ∧ alloc = false))
    (passed : priv.tables.freqChannel m e = some c) :
    (priv.lbsSetFreq alloc m e).1 = 0 ∧
      ∀ channel, (priv.lbsSetFreq alloc m e).2.ChosenChannel channel ↔
        (UInt8.ofInt c).toUInt16 = channel := by
  have success : (priv.lbsSetFreq alloc m e).1 = 0 := by
    rw [AssocPriv.lbsSetFreq, AssocPriv.withRequest]
    rcases priv.lbsGetAssociationRequest_cases alloc with missing | ⟨accesses, found⟩
    · exact absurd (lbsGetAssociationRequest_eq_none missing) room
    · rw [found]
      dsimp only
      rw [setFreq_eq, passed]
  refine ⟨success, fun channel => ?_⟩
  obtain ⟨-, work, accesses, only⟩ := withRequest_success success
  have stored : (priv.lbsSetFreq alloc m e).2.pendingAssocReq =
      some { priv.draft with
        channel := UInt8.ofInt c, flags := { priv.draft.flags with channel := true } } := by
    have same := congrArg AssocPriv.pendingAssocReq only
    rw [setFreq_eq, passed] at same
    exact same
  constructor
  · rintro ⟨req, pending, -, chosen⟩
    obtain rfl := Option.some.inj (stored.symm.trans pending)
    exact chosen
  · intro chosen
    exact ⟨_, stored, rfl, chosen⟩

/-- A request that does not get through fails. -/
theorem lbsSetFreq_of_none {priv : AssocPriv} {alloc : Bool} {m e : Int}
    (stopped : (priv.pendingAssocReq = none ∧ alloc = false) ∨
      priv.tables.freqChannel m e = none) : (priv.lbsSetFreq alloc m e).1 ≠ 0 := by
  rcases stopped with ⟨pending, rfl⟩ | stopped
  · rw [AssocPriv.lbsSetFreq, AssocPriv.withRequest, AssocPriv.lbsGetAssociationRequest, pending]
    exact (by decide : -eNoMem ≠ 0)
  · intro success
    have failed := (withRequest_success success).ret
    rw [setFreq_eq, stopped] at failed
    exact absurd failed (by decide : -eInval ≠ 0)

/-- The mesh is started on a channel that gets through. -/
theorem lbsMeshSetFreq_of_some {priv : CmdPriv} {m e c : Int} (behind : CmdPriv)
    (mesh : MeshSettings) (started got : CmdOutcome)
    (passed : priv.assoc.tables.freqChannel m e = some c) :
    (priv.lbsMeshSetFreq behind mesh started got m e).ret = 0 ∧
      (priv.lbsMeshSetFreq behind mesh started got m e).sent.filterMap Request.meshChannel =
        [UInt16.ofInt c] := by
  rw [CmdPriv.lbsMeshSetFreq, passed]
  refine ⟨rfl, ?_⟩
  have start : (lbsMeshConfig mesh cmdActMeshConfigStart (UInt16.ofInt c) started).2.filterMap
      Request.meshChannel = [UInt16.ofInt c] := by
    simp [lbsMeshConfig, meshChannel_meshConfigRequest]
  have other : [getChannelRequest].filterMap Request.meshChannel = [] := by decide
  dsimp only
  rw [List.filterMap_append, List.filterMap_append, start, other]
  split
  · split
    · rfl
    · split <;> rfl
  · rfl

/-- The law of `lbs_set_freq` is that of the channels that get through. -/
theorem freqLaw_setFreq_iff {priv : AssocPriv} {alloc : Bool} :
    FreqLaw priv.tables m e (priv.lbsSetFreq alloc m.toInt e.toInt).1
        (priv.lbsSetFreq alloc m.toInt e.toInt).2.ChosenChannel ↔
      (priv.pendingAssocReq = none ∧ alloc = false) ∨
        FreqExact priv.tables (fun c => (UInt8.ofInt c).toUInt16) m e := by
  by_cases room : priv.pendingAssocReq = none ∧ alloc = false
  · exact iff_of_true (fun success => absurd success (lbsSetFreq_of_none (.inl room))) (.inl room)
  rw [or_iff_right room, ← freqExact_iff]
  constructor
  · intro law c passed
    obtain ⟨success, chosen⟩ := lbsSetFreq_of_some room passed
    obtain ⟨cfp, listed, named, put⟩ := law success
    exact ⟨cfp, listed, named, (chosen _).mp put⟩
  · intro allowed success
    cases passed : priv.tables.freqChannel m.toInt e.toInt with
    | none => exact absurd success (lbsSetFreq_of_none (.inr passed))
    | some c =>
        obtain ⟨cfp, listed, named, put⟩ := allowed c passed
        exact ⟨cfp, listed, named, ((lbsSetFreq_of_some room passed).2 _).mpr put⟩

/-- So is the law of `lbs_mesh_set_freq`. -/
theorem freqLaw_meshSetFreq_iff {priv behind : CmdPriv} {mesh : MeshSettings}
    {started got : CmdOutcome} :
    FreqLaw priv.assoc.tables m e
        (priv.lbsMeshSetFreq behind mesh started got m.toInt e.toInt).ret
        (fun channel => (priv.lbsMeshSetFreq behind mesh started got m.toInt
          e.toInt).sent.filterMap Request.meshChannel = [channel]) ↔
      FreqExact priv.assoc.tables UInt16.ofInt m e := by
  rw [← freqExact_iff]
  constructor
  · intro law c passed
    obtain ⟨success, sent⟩ := lbsMeshSetFreq_of_some behind mesh started got passed
    obtain ⟨cfp, listed, named, put⟩ := law success
    exact ⟨cfp, listed, named, List.singleton_inj.mp (sent.symm.trans put)⟩
  · intro allowed success
    cases passed : priv.assoc.tables.freqChannel m.toInt e.toInt with
    | none =>
        rw [CmdPriv.lbsMeshSetFreq, passed] at success
        exact absurd success (by decide : -eInval ≠ 0)
    | some c =>
        obtain ⟨cfp, listed, named, put⟩ := allowed c passed
        refine ⟨cfp, listed, named, ?_⟩
        rw [← put]
        exact (lbsMeshSetFreq_of_some behind mesh started got passed).2

end Law

/-- `lbs_set_freq` and `lbs_mesh_set_freq` succeed only for a channel of the tables, which they
choose, if and only if nothing that gets through their checks is rounded, has a sign or, in a
request, more than eight bits. -/
theorem set_freq_iff (m : Int32) (e : Int16) :
    (∀ (priv : AssocPriv) (alloc : Bool),
      FreqLaw priv.tables m e (priv.lbsSetFreq alloc m.toInt e.toInt).1
          (priv.lbsSetFreq alloc m.toInt e.toInt).2.ChosenChannel ↔
        (priv.pendingAssocReq = none ∧ alloc = false) ∨
          FreqExact priv.tables (fun c => (UInt8.ofInt c).toUInt16) m e) ∧
    (∀ (priv behind : CmdPriv) (mesh : MeshSettings) (started got : CmdOutcome),
      FreqLaw priv.assoc.tables m e
          (priv.lbsMeshSetFreq behind mesh started got m.toInt e.toInt).ret
          (fun channel => (priv.lbsMeshSetFreq behind mesh started got m.toInt
            e.toInt).sent.filterMap Request.meshChannel = [channel]) ↔
        FreqExact priv.assoc.tables UInt16.ofInt m e) := by
  constructor
  · intro priv alloc
    exact freqLaw_setFreq_iff
  · intro priv behind mesh started got
    exact freqLaw_meshSetFreq_iff

/-- The first channel of the 2.4 GHz band. -/
def firstChannelTables : ChannelTables :=
  { enable11d := false, regionChannel := [{ valid := true, band := 0, cfp := [⟨1, 2412⟩] }]
    universalChannel := [] }

/-- 2412.5 MHz is taken for the frequency of the first channel. -/
theorem frequency_rounded : ¬ ∀ (priv : AssocPriv) (alloc : Bool) (m : Int32) (e : Int16),
    FreqLaw priv.tables m e (priv.lbsSetFreq alloc m.toInt e.toInt).1
      (priv.lbsSetFreq alloc m.toInt e.toInt).2.ChosenChannel := by
  intro law
  obtain ⟨cfp, -, named, -⟩ := law (.fresh firstChannelTables) true 241250000 1 rfl
  rcases named with ⟨-, value⟩ | ⟨zero, -⟩
  · have mantissa : (241250000 : Int32).toInt = 241250000 := rfl
    omega
  · exact absurd zero (by decide)

end Libertas
