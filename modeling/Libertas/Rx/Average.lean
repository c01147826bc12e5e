import Libertas.CmdResp.JoinFailure
import Libertas.Transition.Basic
import Libertas.Window

/-!
# Averages of SNR and NF

`lbs_compute_rssi` stores the SNR and the NF of a received packet in two rings of
`DEFAULT_DATA_AVG_FACTOR` bytes, which share an index and a count, and averages
the places in use. A successful association response clears the rings, and so does
a disconnect while connected, in other files.

`AvgState.samples` is not in the source: the headers of the packets since the last
such reset, oldest first.
-/

namespace Libertas

open ByteOrder

/-- `DEFAULT_DATA_AVG_FACTOR` and `AVG_SCALE`. -/
def defaultDataAvgFactor : Nat := 8
def avgScale : UInt16 := 100

/-- The fields of `struct rxpd` that the driver reads. -/
structure Rxpd where
  status : UInt16
  snr : UInt8
  rxControl : UInt8
  nf : UInt8
  rxRate : UInt8
deriving DecidableEq, Repr

/-- The loop of `lbs_getavgsnr` and `lbs_getavgnf` after some of its turns. -/
def sumTo (raw : List UInt8) : Nat → UInt16
  | 0 => 0
  | i + 1 => sumTo raw i + (raw.getD i 0).toUInt16

/-- The mean of the places in use. -/
def lbsGetavg (raw : List UInt8) (num : UInt16) : UInt8 :=
  if num = 0 then 0 else (sumTo raw num.toNat / num).toUInt8

namespace Signal

/-- `lbs_getavgsnr`. -/
def lbsGetavgsnr (signal : Signal) : UInt8 :=
  lbsGetavg signal.rawSNR signal.numSNRNF

/-- `lbs_getavgnf`. -/
def lbsGetavgnf (signal : Signal) : UInt8 :=
  lbsGetavg signal.rawNF signal.numSNRNF

/-- `lbs_save_rawSNRNF`. -/
def lbsSaveRawSNRNF (signal : Signal) (rxpd : Rxpd) : Signal :=
  let next := signal.nextSNRNF + 1
  { signal with
    numSNRNF :=
      if signal.numSNRNF.toNat < defaultDataAvgFactor then signal.numSNRNF + 1
      else signal.numSNRNF
    rawSNR := signal.rawSNR.set signal.nextSNRNF.toNat rxpd.snr
    rawNF := signal.rawNF.set signal.nextSNRNF.toNat rxpd.nf
    nextSNRNF := if next.toNat ≥ defaultDataAvgFactor then 0 else next }

/-- `lbs_compute_rssi`. `CAL_RSSI` is stored in a byte. -/
def lbsComputeRssi (signal : Signal) (rxpd : Rxpd) : Signal :=
  let saved := signal.lbsSaveRawSNRNF rxpd
  let snr : Level UInt16 := ⟨rxpd.snr.toUInt16, saved.lbsGetavgsnr.toUInt16 * avgScale⟩
  let nf : Level UInt16 := ⟨rxpd.nf.toUInt16, saved.lbsGetavgnf.toUInt16 * avgScale⟩
  { saved with
    snrRxpd := snr
    nfRxpd := nf
    rssiRxpd :=
      ⟨(snr.noavg - nf.noavg).toUInt8, (snr.avg / avgScale - nf.avg / avgScale).toUInt8⟩ }

/-- The statistics of received packets: the averages, the rings, and their index and count. -/
def packetStats (signal : Signal) :
    (UInt16 × UInt16) × (List UInt8 × List UInt8) × UInt16 × UInt16 :=
  ((signal.snrRxpd.avg, signal.nfRxpd.avg), (signal.rawSNR, signal.rawNF),
    signal.nextSNRNF, signal.numSNRNF)

end Signal

/-- The mean of the last values, or of all while there are fewer. -/
def lastMean (values : List UInt8) : Nat :=
  ((values.rtake defaultDataAvgFactor).map UInt8.toNat).sum /
    min values.length defaultDataAvgFactor

/-- A response reports that an association has succeeded. -/
def Associates (priv : Priv) (resp : List UInt8) : Prop :=
  respCommand resp ∈ associateReplies ∧ priv.settings.inProgressAssocReq ≠ none ∧
    assocStatus resp = 0

instance (priv : Priv) (resp : List UInt8) : Decidable (Associates priv resp) := by
  unfold Associates
  infer_instance

/-- A connection ends. -/
def Disconnects (priv priv' : Priv) : Prop :=
  priv.connectStatus = .connected ∧ priv'.connectStatus = .disconnected

instance (priv priv' : Priv) : Decidable (Disconnects priv priv') := by
  unfold Disconnects
  infer_instance

/-- The private structure, and the packets since the last reset. -/
structure AvgState where
  priv : Priv
  samples : List Rxpd

/-- What can happen to the statistics. -/
inductive AvgAction
  /-- `lbs_compute_rssi` for a received packet. -/
  | packet (rxpd : Rxpd)
  /-- `handle_cmd_response`. -/
  | response (resp : List UInt8)
  /-- `lbs_mac_event_disconnected` for an event. -/
  | disconnect
  /-- Any other part of the driver; it neither touches the statistics of packets nor ends a
  connection. -/
  | other (priv : Priv)

namespace AvgState

/-- A step to a private structure, with a reset where an association has succeeded or a connection
has ended. -/
def settle (s : AvgState) (priv : Priv) (associated : Bool) : AvgState :=
  { priv := priv
    samples := if associated = true ∨ Disconnects s.priv priv then [] else s.samples }

/-- One step. -/
def step (s : AvgState) : AvgAction → Option AvgState
  | .packet rxpd =>
      some
        { priv := { s.priv with signal := s.priv.signal.lbsComputeRssi rxpd }
          samples := s.samples ++ [rxpd] }
  | .response resp =>
      some (s.settle (handleCmdResponse s.priv resp).priv (Associates s.priv resp))
  | .disconnect => some (s.settle (lbsMacEventDisconnected s.priv 0).priv false)
  | .other priv =>
      if priv.signal.packetStats = s.priv.signal.packetStats ∧ ¬Disconnects s.priv priv then
        some { s with priv := priv }
      else none

end AvgState

/-- The statistics of received packets, from the zeroed structure on. -/
def averager : Machine AvgState AvgAction where
  initial s := s.priv.signal = .zero ∧ s.samples = []
  step := AvgState.step

/-- The rings, the index and the count say which packets were received, and the averages are over
the last of them. -/
structure Averaged (signal : Signal) (samples : List Rxpd) : Prop where
  snrSlots : signal.rawSNR.length = defaultDataAvgFactor
  nfSlots : signal.rawNF.length = defaultDataAvgFactor
  snrRing : InRing signal.rawSNR (samples.map Rxpd.snr)
  nfRing : InRing signal.rawNF (samples.map Rxpd.nf)
  next : signal.nextSNRNF.toNat = samples.length % defaultDataAvgFactor
  num : signal.numSNRNF.toNat = min samples.length defaultDataAvgFactor
  snrAvg : samples ≠ [] →
    signal.snrRxpd.avg.toNat = avgScale.toNat * lastMean (samples.map Rxpd.snr)
  nfAvg : samples ≠ [] →
    signal.nfRxpd.avg.toNat = avgScale.toNat * lastMean (samples.map Rxpd.nf)

/-- A ring is averaged without a value that overflows: the sum in every turn of the loop, the mean,
and the scaled mean. -/
structure SumsFit (raw : List UInt8) (num : UInt16) : Prop where
  sums : ∀ i ≤ num.toNat, (sumTo raw i).toNat = ((raw.take i).map UInt8.toNat).sum
  mean : (sumTo raw num.toNat / num).toNat < 2 ^ 8
  scaled : (lbsGetavg raw num).toNat * avgScale.toNat < 2 ^ 16

section Means

variable {raw values : List UInt8} {num : UInt16}

theorem sum_le (values : List UInt8) : (values.map UInt8.toNat).sum ≤ 255 * values.length := by
  induction values with
  | nil => rfl
  | cons value rest ih =>
      have byte := value.toNat_lt
      rw [List.map_cons, List.sum_cons, List.length_cons]
      omega

/-- The sum of at most 257 bytes fits. -/
theorem sumTo_toNat (small : raw.length ≤ 257) (i : Nat) :
    (sumTo raw i).toNat = ((raw.take i).map UInt8.toNat).sum := by
  induction i with
  | zero => rfl
  | succ i ih =>
      have bound := sum_le (raw.take (i + 1))
      have length : (raw.take (i + 1)).length ≤ 257 := (List.length_take_le' _ _).trans small
      have split : ((raw.take (i + 1)).map UInt8.toNat).sum =
          ((raw.take i).map UInt8.toNat).sum + (raw.getD i 0).toNat := by
        rw [List.take_add_one, List.map_append, List.sum_append, List.getD_eq_getElem?_getD]
        cases raw[i]? <;> simp
      have whole : (sumTo raw i).toNat + (raw.getD i 0).toUInt16.toNat =
          ((raw.take (i + 1)).map UInt8.toNat).sum := by
        rw [ih, UInt8.toNat_toUInt16, split]
      rw [sumTo, UInt16.toNat_add, whole]
      exact Nat.mod_eq_of_lt (by omega)

/-- The mean of bytes is a byte. -/
theorem mean_lt (small : raw.length ≤ 257) (num : UInt16) :
    (sumTo raw num.toNat / num).toNat < 2 ^ 8 := by
  have sum := sumTo_toNat small num.toNat
  have bound := sum_le (raw.take num.toNat)
  have length : (raw.take num.toNat).length ≤ num.toNat := List.length_take_le _ _
  rw [UInt16.toNat_div, sum]
  exact Nat.lt_succ_of_le (Nat.div_le_of_le_mul (by
    rw [Nat.mul_comm]
    exact bound.trans (Nat.mul_le_mul_left 255 length)))

theorem sumsFit (small : raw.length ≤ 257) (num : UInt16) : SumsFit raw num where
  sums i _ := sumTo_toNat small i
  mean := mean_lt small num
  scaled := by
    have byte := (lbsGetavg raw num).toNat_lt
    have scale : avgScale.toNat = 100 := rfl
    rw [scale]
    omega

/-- The mean over the places in use is the one over the last values. -/
theorem lbsGetavg_toNat (slots : raw.length = defaultDataAvgFactor) (ring : InRing raw values)
    (count : num.toNat = min values.length defaultDataAvgFactor) (some : values ≠ []) :
    (lbsGetavg raw num).toNat = lastMean values := by
  have small : raw.length ≤ 257 := by
    rw [slots]
    decide
  have positive : num ≠ 0 := by
    rintro rfl
    have length := List.length_pos_of_ne_nil some
    rw [defaultDataAvgFactor] at count
    have zero : (0 : UInt16).toNat = 0 := rfl
    omega
  have same : ((raw.take num.toNat).map UInt8.toNat).sum =
      ((values.rtake defaultDataAvgFactor).map UInt8.toNat).sum := by
    rw [count, ← slots]
    exact (ring.perm.map UInt8.toNat).sum_nat
  have mean := mean_lt small num
  rw [lbsGetavg, if_neg positive, UInt16.toNat_toUInt8, Nat.mod_eq_of_lt mean, UInt16.toNat_div,
    sumTo_toNat small, same, count]
  rfl

end Means

section Packets

variable {signal : Signal} {samples : List Rxpd}

/-- A packet is stored. -/
theorem saved_rings (held : Averaged signal samples) (rxpd : Rxpd) :
    InRing (signal.lbsSaveRawSNRNF rxpd).rawSNR ((samples ++ [rxpd]).map Rxpd.snr) ∧
      InRing (signal.lbsSaveRawSNRNF rxpd).rawNF ((samples ++ [rxpd]).map Rxpd.nf) := by
  have snr := held.snrRing.push (by rw [held.snrSlots]; decide) rxpd.snr
  have nf := held.nfRing.push (by rw [held.nfSlots]; decide) rxpd.nf
  rw [List.length_map, held.snrSlots, ← held.next] at snr
  rw [List.length_map, held.nfSlots, ← held.next] at nf
  rw [List.map_append, List.map_append]
  exact ⟨snr, nf⟩

/-- The index and the count behind a packet. -/
theorem saved_counts (held : Averaged signal samples) (rxpd : Rxpd) :
    (signal.lbsSaveRawSNRNF rxpd).nextSNRNF.toNat =
        (samples.length + 1) % defaultDataAvgFactor ∧
      (signal.lbsSaveRawSNRNF rxpd).numSNRNF.toNat =
        min (samples.length + 1) defaultDataAvgFactor := by
  have next := held.next
  have num := held.num
  have one : (1 : UInt16).toNat = 1 := rfl
  have zero : (0 : UInt16).toNat = 0 := rfl
  simp only [Signal.lbsSaveRawSNRNF]
  unfold defaultDataAvgFactor at *
  constructor
  · split <;> rename_i wraps <;> rw [UInt16.toNat_add] at wraps
    · omega
    · rw [UInt16.toNat_add]
      omega
  · split
    · rw [UInt16.toNat_add]
      omega
    · omega

/-- The average of a ring, scaled. -/
theorem scaled_toNat (avg : UInt8) :
    (avg.toUInt16 * avgScale).toNat = avgScale.toNat * avg.toNat := by
  have byte := avg.toNat_lt
  have scale : avgScale.toNat = 100 := rfl
  rw [UInt16.toNat_mul, UInt8.toNat_toUInt16, scale, Nat.mod_eq_of_lt (by omega), Nat.mul_comm]

/-- A packet is stored, and averaged with the last ones. -/
theorem Averaged.packet (held : Averaged signal samples) (rxpd : Rxpd) :
    Averaged (signal.lbsComputeRssi rxpd) (samples ++ [rxpd]) := by
  obtain ⟨snrRing, nfRing⟩ := saved_rings held rxpd
  obtain ⟨next, num⟩ := saved_counts held rxpd
  have snrSlots : (signal.lbsSaveRawSNRNF rxpd).rawSNR.length = defaultDataAvgFactor := by
    rw [← held.snrSlots]
    exact List.length_set
  have nfSlots : (signal.lbsSaveRawSNRNF rxpd).rawNF.length = defaultDataAvgFactor := by
    rw [← held.nfSlots]
    exact List.length_set
  have length : (samples ++ [rxpd]).length = samples.length + 1 := List.length_append
  refine ⟨snrSlots, nfSlots, snrRing, nfRing, by rw [length]; exact next,
    by rw [length]; exact num, fun _ => ?_, fun _ => ?_⟩
  · show ((signal.lbsSaveRawSNRNF rxpd).lbsGetavgsnr.toUInt16 * avgScale).toNat = _
    rw [scaled_toNat, Signal.lbsGetavgsnr, lbsGetavg_toNat snrSlots snrRing
      (by rw [num, List.length_map, length]) (by simp)]
  · show ((signal.lbsSaveRawSNRNF rxpd).lbsGetavgnf.toUInt16 * avgScale).toNat = _
    rw [scaled_toNat, Signal.lbsGetavgnf, lbsGetavg_toNat nfSlots nfRing
      (by rw [num, List.length_map, length]) (by simp)]

/-- The rings are empty. -/
def Signal.Cleared (signal : Signal) : Prop :=
  signal.rawSNR = Signal.zero.rawSNR ∧ signal.rawNF = Signal.zero.rawNF ∧
    signal.nextSNRNF = 0 ∧ signal.numSNRNF = 0

/-- Cleared statistics belong to no packet. -/
theorem averaged_nil (cleared : signal.Cleared) : Averaged signal [] := by
  obtain ⟨rawSNR, rawNF, next, num⟩ := cleared
  refine ⟨?_, ?_, .nil _, .nil _, ?_, ?_, nofun, nofun⟩
  · rw [rawSNR]
    rfl
  · rw [rawNF]
    rfl
  · rw [next]
    rfl
  · rw [num]
    rfl

theorem Averaged.congr (held : Averaged signal samples) {signal' : Signal}
    (same : signal'.packetStats = signal.packetStats) : Averaged signal' samples := by
  simp only [Signal.packetStats, Prod.mk.injEq] at same
  obtain ⟨⟨snr, nf⟩, ⟨rawSNR, rawNF⟩, next, num⟩ := same
  constructor
  · rw [rawSNR]
    exact held.snrSlots
  · rw [rawNF]
    exact held.nfSlots
  · rw [rawSNR]
    exact held.snrRing
  · rw [rawNF]
    exact held.nfRing
  · rw [next]
    exact held.next
  · rw [num]
    exact held.num
  · rw [snr]
    exact held.snrAvg
  · rw [nf]
    exact held.nfAvg

end Packets

/-- The statistics are cleared where a reset is due, and otherwise left alone. -/
def Settles (priv priv' : Priv) (associated : Prop) : Prop :=
  priv'.signal.Cleared ∧ (associated ∨ Disconnects priv priv') ∨
    priv'.signal.packetStats = priv.signal.packetStats ∧ ¬(associated ∨ Disconnects priv priv')

section Resets

variable {priv priv' : Priv} {resp : List UInt8}

/-- What neither clears the statistics nor disconnects. -/
theorem settles_of_same (stats : priv'.signal.packetStats = priv.signal.packetStats)
    (link : priv'.connectStatus = priv.connectStatus ∨ priv'.connectStatus = .connected) :
    Settles priv priv' False := by
  refine .inr ⟨stats, ?_⟩
  rintro (none | ⟨connected, disconnected⟩)
  · exact none
  · obtain same | same := link
    · rw [same, connected] at disconnected
      cases disconnected
    · rw [same] at disconnected
      cases disconnected

theorem lbsMacEventDisconnected_settles (priv : Priv) (ret : Int) :
    Settles priv (lbsMacEventDisconnected priv ret).priv False := by
  rw [lbsMacEventDisconnected]
  split
  · exact settles_of_same rfl (.inl rfl)
  · rename_i connected
    rw [ne_eq, not_not] at connected
    exact .inl ⟨⟨rfl, rfl, rfl, rfl⟩, .inr ⟨connected, rfl⟩⟩

theorem lbsRet80211Associate_settles (code : respCommand resp ∈ associateReplies) :
    Settles priv (lbsRet80211Associate priv resp).priv (Associates priv resp) := by
  have weaken : ∀ {priv' : Priv}, ¬Associates priv resp → Settles priv priv' False →
      Settles priv priv' (Associates priv resp) := by
    intro priv' not settled
    unfold Settles at *
    rw [iff_false_intro not]
    exact settled
  rw [lbsRet80211Associate]
  split
  · rename_i none
    exact weaken (fun associates => associates.2.1 none) (settles_of_same rfl (.inl rfl))
  · rename_i bss some
    split
    · rename_i failed
      exact weaken (fun associates => failed associates.2.2)
        (lbsMacEventDisconnected_settles priv (-1))
    · rename_i success
      rw [ne_eq, not_not] at success
      exact .inl ⟨⟨rfl, rfl, rfl, rfl⟩, .inl ⟨code, by simp [some], success⟩⟩

theorem lbsRet80211AdHocStart_settles (priv : Priv) (resp : List UInt8) :
    Settles priv (lbsRet80211AdHocStart priv resp).priv False := by
  rw [lbsRet80211AdHocStart]
  split
  · exact settles_of_same rfl (.inl rfl)
  · split
    · exact lbsMacEventDisconnected_settles priv (-1)
    · exact settles_of_same rfl (.inr rfl)

theorem lbsRet80211BcnCtrl_settles (priv : Priv) (resp : List UInt8) :
    Settles priv (lbsRet80211BcnCtrl priv resp).priv False := by
  rw [lbsRet80211BcnCtrl]
  split <;> exact settles_of_same rfl (.inl rfl)

/-- Responses reset the statistics exactly where a connection is made or ends. -/
theorem handleCmdResponse_settles (priv : Priv) (resp : List UInt8) :
    Settles priv (handleCmdResponse priv resp).priv (Associates priv resp) := by
  by_cases code : respCommand resp ∈ associateReplies
  · rw [handleCmdResponse_associate code]
    exact lbsRet80211Associate_settles code
  · have not : Associates priv resp ↔ False := iff_false_intro fun associates => code associates.1
    have choose : ∀ {c : Prop} [Decidable c] {yes no : Handled},
        Settles priv yes.priv False → Settles priv no.priv False →
        Settles priv (if c then yes else no).priv False := by
      intro c _ yes no left right
      split
      · exact left
      · exact right
    rw [Settles]
    rw [not]
    show Settles priv (handleCmdResponse priv resp).priv False
    unfold handleCmdResponse
    dsimp only
    apply choose (settles_of_same rfl (.inl rfl))
    rw [if_neg (show respCommand resp ∉ [cmdRet80211Associate, cmdRet cmd80211Associate,
      cmdRet cmd80211Reassociate] from code)]
    -- the handlers with branches of their own first, so that these are not taken apart
    repeat' first
      | exact lbsMacEventDisconnected_settles priv 0
      | exact lbsRet80211AdHocStart_settles priv resp
      | exact lbsRet80211BcnCtrl_settles priv resp
      | refine choose ?_ ?_
    all_goals exact settles_of_same rfl (.inl rfl)

end Resets

section Runs

variable {s t : AvgState} {action : AvgAction}

theorem settle_averaged (held : Averaged s.priv.signal s.samples) {priv : Priv}
    {associated : Prop} [Decidable associated] (settles : Settles s.priv priv associated) :
    Averaged (s.settle priv associated).priv.signal (s.settle priv associated).samples := by
  obtain ⟨cleared, reset⟩ | ⟨same, not⟩ := settles
  · have none : (s.settle priv associated).samples = [] := if_pos (by simpa using reset)
    rw [none]
    exact averaged_nil cleared
  · have all : (s.settle priv associated).samples = s.samples := if_neg (by simpa using not)
    rw [all]
    exact held.congr same

theorem step_averaged (held : Averaged s.priv.signal s.samples)
    (stepped : averager.step s action = some t) : Averaged t.priv.signal t.samples := by
  cases action with
  | packet rxpd =>
      cases stepped
      exact held.packet rxpd
  | response resp =>
      cases stepped
      exact settle_averaged held (handleCmdResponse_settles s.priv resp)
  | disconnect =>
      cases stepped
      exact settle_averaged held (lbsMacEventDisconnected_settles s.priv 0)
  | other priv =>
      obtain ⟨⟨same, _⟩, stepped⟩ := Option.ite_none_right_eq_some.mp stepped
      cases stepped
      exact held.congr same

theorem averager_averaged (reached : averager.Reachable s) :
    Averaged s.priv.signal s.samples := by
  refine reached.invariant (fun s => Averaged s.priv.signal s.samples) ?_
    fun _ _ _ _ held _ stepped => step_averaged held stepped
  rintro s ⟨signal, none⟩
  rw [none]
  apply averaged_nil
  rw [signal]
  exact ⟨rfl, rfl, rfl, rfl⟩

/-- After at least one packet since the last reset the averages are the scaled means of the SNR and
of the NF of the last packets; the index is in the rings, and no value of an averaging
overflows. -/
theorem snr_nf_averages (reached : averager.Reachable s) :
    (s.samples ≠ [] →
      s.priv.signal.snrRxpd.avg.toNat = avgScale.toNat * lastMean (s.samples.map Rxpd.snr) ∧
        s.priv.signal.nfRxpd.avg.toNat = avgScale.toNat * lastMean (s.samples.map Rxpd.nf)) ∧
      s.priv.signal.nextSNRNF.toNat < s.priv.signal.rawSNR.length ∧
      s.priv.signal.nextSNRNF.toNat < s.priv.signal.rawNF.length ∧
      s.priv.signal.numSNRNF.toNat ≤ defaultDataAvgFactor ∧
      SumsFit s.priv.signal.rawSNR s.priv.signal.numSNRNF ∧
      SumsFit s.priv.signal.rawNF s.priv.signal.numSNRNF := by
  have held := averager_averaged reached
  have index : s.priv.signal.nextSNRNF.toNat < defaultDataAvgFactor := by
    rw [held.next]
    exact Nat.mod_lt _ (by decide)
  refine ⟨fun some => ⟨held.snrAvg some, held.nfAvg some⟩, ?_, ?_, ?_, ?_, ?_⟩
  · rw [held.snrSlots]
    exact index
  · rw [held.nfSlots]
    exact index
  · rw [held.num]
    exact Nat.min_le_right _ _
  · exact sumsFit (by rw [held.snrSlots]; decide) _
  · exact sumsFit (by rw [held.nfSlots]; decide) _

end Runs

/-- Nine packets fill the rings and replace their first value. -/
theorem snr_nf_averages_nine : ∃ s, averager.Reachable s ∧
    (s.samples.length = 9 ∧ s.priv.signal.nextSNRNF = 1) ∧
    s.priv.signal.snrRxpd.avg.toNat = avgScale.toNat * lastMean (s.samples.map Rxpd.snr) := by
  let packets : List AvgAction := (List.range 9).map fun i =>
    .packet { status := 1, snr := UInt8.ofNat (10 * i), rxControl := 0, nf := 3, rxRate := 0 }
  obtain ⟨s, executed, filled⟩ := Machine.exists_of_map
    (fun s : AvgState => s.samples.length = 9 ∧ s.priv.signal.nextSNRNF = 1)
    (show (averager.run ⟨initAdapter, []⟩ packets).map _ = some true by decide +kernel)
  have reached : averager.Reachable s := .run (.initial ⟨rfl, rfl⟩) executed
  have some : s.samples ≠ [] := List.ne_nil_of_length_pos (by omega)
  exact ⟨s, reached, filled, ((snr_nf_averages reached).1 some).1⟩

end Libertas
