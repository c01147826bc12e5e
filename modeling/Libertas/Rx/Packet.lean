import Libertas.Assoc.Associate
import Libertas.Assoc.Setters
import Libertas.Rx.Average
import Libertas.Stores

/-!
# Received packets

`lbs_process_rxed_packet` gets a packet with the firmware's `struct rxpd` in front.
In normal mode it removes the header, and in front of a SNAP frame it moves the two
addresses next to the Ethernet type. In monitor mode a radiotap header takes the
place of the `struct rxpd`. Both ways the rate, the SNR and the NF are then read
through the pointer to the place where the `struct rxpd` was.

A packet is the memory of its buffer with the position and the length of the data.
The host is little-endian.
-/

namespace Libertas

open ByteOrder

/-- `struct sk_buff`: the memory of its head, where the data starts, and its length. -/
structure RxSkb where
  mem : Nat → UInt8
  data : Nat
  len : Nat

namespace RxSkb

/-- The data of a packet. -/
def bytes (skb : RxSkb) : List UInt8 :=
  Store.read skb.mem skb.data skb.len

/-- `skb_pull`. -/
def pull (skb : RxSkb) (count : Nat) : RxSkb :=
  { skb with data := skb.data + count, len := skb.len - count }

/-- `skb_push`. -/
def push (skb : RxSkb) (count : Nat) : RxSkb :=
  { skb with data := skb.data - count, len := skb.len + count }

/-- `memcpy` to an address in the head of the packet. -/
def memcpy (skb : RxSkb) (address : Nat) (bytes : List UInt8) : RxSkb :=
  { skb with mem := Store.run (Store.copyTo address bytes) skb.mem }

end RxSkb

/-- `sizeof(struct rxpd)`, `ETH_HLEN` and `sizeof(struct rx_radiotap_hdr)`. -/
def sizeofRxpd : Nat := 20
def ethHlen : Nat := 14
def sizeofRxRadiotap : Nat := 18

/-- `MRVDRV_RXPD_STATUS_OK` and `RxPD_MESH_FRAME`. -/
def mrvdrvRxpdStatusOk : UInt16 := 0x0001
def rxpdMeshFrame : UInt8 := 0x40

/-- The `struct rxpd` at an address. -/
def rxpdAt (mem : Nat → UInt8) (address : Nat) : Rxpd :=
  { status := le16At (Store.read mem address 2) 0
    snr := mem (address + 2)
    rxControl := mem (address + 3)
    nf := mem (address + 6)
    rxRate := mem (address + 7) }

/-- `fw_data_rates`. -/
def fwDataRates : List UInt8 :=
  [0x02, 0x04, 0x0b, 0x16, 0x00, 0x0c, 0x12, 0x18, 0x24, 0x30, 0x48, 0x60, 0x6c, 0x00]

/-- `lbs_fw_index_to_data_rate`. -/
def lbsFwIndexToDataRate (idx : UInt8) : UInt8 :=
  fwDataRates.getD (if idx.toNat ≥ fwDataRates.length then 0 else idx.toNat) 0

/-- `convert_mv_rate_to_radiotap`. -/
def convertMvRateToRadiotap (rate : UInt8) : UInt8 :=
  match rate with
  | 0 => 2
  | 1 => 4
  | 2 => 11
  | 3 => 22
  | 5 => 12
  | 6 => 18
  | 7 => 24
  | 8 => 36
  | 9 => 48
  | 10 => 72
  | 11 => 96
  | 12 => 108
  | _ => 0

/-- `RX_RADIOTAP_PRESENT`: flags, rate, channel, antenna, signal in dB, and flags of the
reception. -/
def rxRadiotapPresent : UInt32 :=
  (1 : UInt32) <<< 1 ||| (1 : UInt32) <<< 2 ||| (1 : UInt32) <<< 3 ||| (1 : UInt32) <<< 11 |||
    (1 : UInt32) <<< 12 ||| (1 : UInt32) <<< 14

/-- `IEEE80211_RADIOTAP_F_RX_BADFCS`. -/
def radiotapBadFcs : UInt16 := 0x0001

/-- The header `struct rx_radiotap_hdr` for a packet. -/
def radiotapHdr (rxpd : Rxpd) : List UInt8 :=
  -- it_version, it_pad, it_len, it_present
  ([0, 0] : List UInt8) ++ le16Bytes (UInt16.ofNat sizeofRxRadiotap) ++
    le16Bytes rxRadiotapPresent.toUInt16 ++ le16Bytes (rxRadiotapPresent >>> 16).toUInt16 ++
  -- flags, rate, chan_freq, chan_flags, antenna, antsignal, rx_flags
  [0, convertMvRateToRadiotap rxpd.rxRate] ++ le16Bytes 0 ++ le16Bytes 0 ++
    [0, rxpd.snr + rxpd.nf] ++
    le16Bytes (if rxpd.status &&& mrvdrvRxpdStatusOk = 0 then radiotapBadFcs else 0)

/-- The start of `struct rfc1042hdr` in a SNAP frame. -/
def rfc1042EthHdr : List UInt8 := [0xaa, 0xaa, 0x03, 0x00, 0x00, 0x00]

/-- The headers of a packet are replaced, or only the `struct rxpd` is removed. -/
def RxSkb.chopHeader (skb : RxSkb) : RxSkb :=
  let pRxPkt := skb.data
  let eth803Hdr := pRxPkt + sizeofRxpd
  let rfc1042Hdr := eth803Hdr + ethHlen
  if Store.read skb.mem rfc1042Hdr 6 = rfc1042EthHdr then
    let pEthhdr := eth803Hdr + ethHlen + 8 - 6 - 6 - 2
    let skb := skb.memcpy (pEthhdr + 6) (Store.read skb.mem (eth803Hdr + 6) 6)
    let skb := skb.memcpy pEthhdr (Store.read skb.mem eth803Hdr 6)
    skb.pull (pEthhdr - pRxPkt)
  else skb.pull (eth803Hdr - pRxPkt)

/-- The counters of `priv->stats` that receptions change. -/
structure RxStats where
  rxBytes : Nat
  rxPackets : Nat
  rxErrors : Nat
  rxLengthErrors : Nat
deriving DecidableEq, Repr

/-- The part of the private structure that a reception uses. -/
structure RxState where
  monitormode : Bool
  /-- There is a mesh device. -/
  meshDev : Bool
  rates : RateSettings
  signal : Signal
  stats : RxStats
deriving DecidableEq, Repr

/-- The devices that a packet is given to. -/
inductive RxDev
  | dev
  | meshDev
  | rtapNetDev
deriving DecidableEq, Repr

/-- The calls that give a packet away. -/
inductive RxDisposal
  /-- `netif_rx`, or `netif_rx_ni` outside of an interrupt. -/
  | netifRx
  | kfreeSkb
  /-- `kfree`, of the structure alone. -/
  | kfree
deriving DecidableEq, Repr

/-- The result of a reception: the device and the packet in the call of `eth_type_trans`, if there
is one, and the calls that give the packet away, oldest first. -/
structure RxOutcome where
  ret : Int
  state : RxState
  passed : Option (RxDev × RxSkb)
  disposals : List RxDisposal

namespace RxState

/-- What both modes take from the `struct rxpd` before a packet is passed on. -/
def account (st : RxState) (rxpd : Rxpd) (skb : RxSkb) : RxState :=
  { st with
    rates :=
      if st.rates.enablehwauto ≠ 0 then
        { st.rates with curRate := lbsFwIndexToDataRate rxpd.rxRate }
      else st.rates
    signal := st.signal.lbsComputeRssi rxpd
    stats :=
      { st.stats with
        rxBytes := st.stats.rxBytes + skb.len, rxPackets := st.stats.rxPackets + 1 } }

/-- `process_rxed_802_11_packet`; `expanded` is the outcome of `pskb_expand_head`: the packet in its
new memory, and the content of the old one. -/
def processRxed80211Packet (st : RxState) (skb : RxSkb)
    (expanded : Option (RxSkb × (Nat → UInt8))) : RxOutcome :=
  let prxpd := skb.data
  if skb.len < ethHlen + 8 + sizeofRxpd then
    { ret := -eInval, passed := none, disposals := [.kfree]
      state :=
        { st with stats := { st.stats with rxLengthErrors := st.stats.rxLengthErrors + 1 } } }
  else
    let rxpd := rxpdAt skb.mem prxpd
    let st :=
      if rxpd.status &&& mrvdrvRxpdStatusOk = 0 then
        { st with stats := { st.stats with rxErrors := st.stats.rxErrors + 1 } }
      else st
    let header := radiotapHdr rxpd
    let skb := skb.pull sizeofRxpd
    -- the packet, and the memory that `prxpd` points to when this is not that of the packet
    let room :=
      if skb.data < sizeofRxRadiotap then expanded.map fun (skb, old) => (skb, some old)
      else some (skb, none)
    match room with
    | none => { ret := -eNoMem, state := st, passed := none, disposals := [.kfreeSkb] }
    | some (skb, old) =>
        let skb := skb.push sizeofRxRadiotap
        let skb := skb.memcpy skb.data header
        { ret := 0
          state := st.account (rxpdAt (old.getD skb.mem) prxpd) skb
          passed := some (.rtapNetDev, skb)
          disposals := [.netifRx] }

/-- The device of a packet in normal mode. -/
def rxDev (st : RxState) (rxpd : Rxpd) : RxDev :=
  if st.meshDev ∧ rxpd.rxControl &&& rxpdMeshFrame ≠ 0 then .meshDev else .dev

/-- `lbs_process_rxed_packet`. -/
def lbsProcessRxedPacket (st : RxState) (skb : RxSkb)
    (expanded : Option (RxSkb × (Nat → UInt8))) : RxOutcome :=
  if st.monitormode then st.processRxed80211Packet skb expanded
  else
    let pRxPd := skb.data
    let rxpd := rxpdAt skb.mem pRxPd
    if skb.len < ethHlen + 8 + sizeofRxpd then
      { ret := 0, passed := none, disposals := []
        state :=
          { st with stats := { st.stats with rxLengthErrors := st.stats.rxLengthErrors + 1 } } }
    else if rxpd.status &&& mrvdrvRxpdStatusOk = 0 then
      { ret := 0, passed := none, disposals := []
        state := { st with stats := { st.stats with rxErrors := st.stats.rxErrors + 1 } } }
    else
      let skb := skb.chopHeader
      { ret := 0
        state := st.account (rxpdAt skb.mem pRxPd) skb
        passed := some (st.rxDev rxpd, skb)
        disposals := [.netifRx] }

end RxState

/-- A packet that is long enough for its headers and was received well. -/
structure GoodFrame (skb : RxSkb) : Prop where
  length : ethHlen + 8 + sizeofRxpd ≤ skb.len
  status : (rxpdAt skb.mem skb.data).status &&& mrvdrvRxpdStatusOk ≠ 0

/-- The statistics of a packet, in the state behind its reception, are those of a `struct rxpd`. -/
structure TakenFrom (st st' : RxState) (rxpd : Rxpd) : Prop where
  snr : st'.signal.snrRxpd.noavg = rxpd.snr.toUInt16
  nf : st'.signal.nfRxpd.noavg = rxpd.nf.toUInt16
  rawSNR : st'.signal.rawSNR = st.signal.rawSNR.set st.signal.nextSNRNF.toNat rxpd.snr
  rawNF : st'.signal.rawNF = st.signal.rawNF.set st.signal.nextSNRNF.toNat rxpd.nf
  rate : st.rates.enablehwauto ≠ 0 → st'.rates.curRate = lbsFwIndexToDataRate rxpd.rxRate

section Copies

variable {skb : RxSkb} {address i : Nat} {bytes : List UInt8}

theorem memcpy_mem_of_apart (apart : i < address ∨ address + bytes.length ≤ i) :
    (skb.memcpy address bytes).mem i = skb.mem i :=
  Store.run_copyTo_of_apart apart

theorem memcpy_mem (within : i < bytes.length) :
    (skb.memcpy address bytes).mem (address + i) = bytes.getD i 0 := by
  have copied : Store.read (skb.memcpy address bytes).mem (address + i) 1 =
      (bytes.drop i).take 1 := Store.read_copyTo_within (by omega)
  rw [List.getD_eq_getElem?_getD, List.getElem?_eq_getElem within, Option.getD_some]
  rw [List.drop_eq_getElem_cons within] at copied
  exact (List.cons.inj copied).1

theorem memcpy_read (skb : RxSkb) (address : Nat) (bytes : List UInt8) :
    Store.read (skb.memcpy address bytes).mem address bytes.length = bytes :=
  Store.read_copyTo

theorem memcpy_read_of_apart {start count : Nat}
    (apart : start + count ≤ address ∨ address + bytes.length ≤ start) :
    Store.read (skb.memcpy address bytes).mem start count = Store.read skb.mem start count :=
  Store.read_copyTo_of_apart apart

end Copies

/-- Bytes that are left alone hold the same `struct rxpd`. -/
theorem rxpdAt_congr {mem mem' : Nat → UInt8} {address : Nat}
    (same : ∀ i, address ≤ i → i < address + sizeofRxpd → mem' i = mem i) :
    rxpdAt mem' address = rxpdAt mem address := by
  rw [sizeofRxpd] at same
  have status : Store.read mem' address 2 = Store.read mem address 2 :=
    Store.read_congr fun i above below => same i above (by omega)
  simp only [rxpdAt, status, same (address + 2) (by omega) (by omega),
    same (address + 3) (by omega) (by omega), same (address + 6) (by omega) (by omega),
    same (address + 7) (by omega) (by omega)]

section Receptions

variable {st : RxState} {skb : RxSkb} {expanded : Option (RxSkb × (Nat → UInt8))}

/-- What is accounted is taken from the `struct rxpd` that is read. -/
theorem account_takenFrom (st : RxState) (read own : Rxpd) (skb : RxSkb) :
    TakenFrom st (st.account read skb) own ↔
      own.snr = read.snr ∧ own.nf = read.nf ∧ (st.rates.enablehwauto ≠ 0 →
        lbsFwIndexToDataRate own.rxRate = lbsFwIndexToDataRate read.rxRate) := by
  have byte : ∀ {a b : UInt8}, a.toUInt16 = b.toUInt16 → b = a := by
    intro a b same
    exact (UInt8.toNat_inj.mp (congrArg UInt16.toNat same)).symm
  have rate : st.rates.enablehwauto ≠ 0 →
      (st.account read skb).rates.curRate = lbsFwIndexToDataRate read.rxRate := by
    intro auto
    rw [RxState.account, if_pos auto]
  constructor
  · intro taken
    exact ⟨byte taken.snr, byte taken.nf, fun auto => (taken.rate auto).symm.trans (rate auto)⟩
  · rintro ⟨snr, nf, same⟩
    refine ⟨?_, ?_, ?_, ?_, fun auto => (rate auto).trans (same auto).symm⟩
    · rw [snr]
      rfl
    · rw [nf]
      rfl
    · rw [snr]
      rfl
    · rw [nf]
      rfl

/-- The two addresses of a SNAP frame are moved next to its type. -/
def RxSkb.joinAddresses (skb : RxSkb) : RxSkb :=
  let moved := skb.memcpy (skb.data + 34) (Store.read skb.mem (skb.data + 26) 6)
  moved.memcpy (skb.data + 28) (Store.read moved.mem (skb.data + 20) 6)

/-- The bytes that are moved lie in front of the ones that they replace. -/
theorem joinAddresses_mem {i : Nat} (apart : i < skb.data + 28 ∨ skb.data + 40 ≤ i) :
    skb.joinAddresses.mem i = skb.mem i := by
  rw [RxSkb.joinAddresses, memcpy_mem_of_apart, memcpy_mem_of_apart] <;>
    rw [Store.read_length] <;> omega

theorem joinAddresses_bytes (length : 42 ≤ skb.len) :
    (skb.joinAddresses.pull 28).bytes =
      Store.read skb.mem (skb.data + 20) 6 ++ Store.read skb.mem (skb.data + 26) 6 ++
        Store.read skb.mem (skb.data + 40) (skb.len - 40) := by
  let source := Store.read skb.mem (skb.data + 26) 6
  let moved := skb.memcpy (skb.data + 34) source
  have dest : Store.read moved.mem (skb.data + 20) 6 = Store.read skb.mem (skb.data + 20) 6 :=
    memcpy_read_of_apart (.inl (by omega))
  have first : Store.read skb.joinAddresses.mem (skb.data + 28) 6 =
      Store.read skb.mem (skb.data + 20) 6 := by
    have copied := memcpy_read moved (skb.data + 28) (Store.read moved.mem (skb.data + 20) 6)
    rw [Store.read_length] at copied
    exact copied.trans dest
  have second : Store.read skb.joinAddresses.mem (skb.data + 34) 6 = source := by
    have kept : Store.read skb.joinAddresses.mem (skb.data + 34) 6 =
        Store.read moved.mem (skb.data + 34) 6 :=
      memcpy_read_of_apart (.inr (by rw [Store.read_length]))
    have copied := memcpy_read skb (skb.data + 34) source
    rw [Store.read_length] at copied
    exact kept.trans copied
  have rest : Store.read skb.joinAddresses.mem (skb.data + 40) (skb.len - 40) =
      Store.read skb.mem (skb.data + 40) (skb.len - 40) :=
    Store.read_congr fun i above _ => joinAddresses_mem (.inr above)
  have split : skb.len - 28 = 6 + (6 + (skb.len - 40)) := by omega
  show Store.read skb.joinAddresses.mem (skb.data + 28) (skb.len - 28) = _
  rw [split, Store.read_append, Store.read_append, first, Nat.add_assoc skb.data 28 6, second,
    Nat.add_assoc skb.data, rest, List.append_assoc]

/-- The frame for a packet: destination, source, type and payload of a SNAP frame, and otherwise
what follows the `struct rxpd`. -/
def etherFrame (bytes : List UInt8) : List UInt8 :=
  if (bytes.drop 34).take 6 = rfc1042EthHdr then
    (bytes.drop 20).take 6 ++ (bytes.drop 26).take 6 ++ (bytes.drop 40).take 2 ++ bytes.drop 42
  else bytes.drop 20

theorem chopHeader_eq (skb : RxSkb) : skb.chopHeader =
    if Store.read skb.mem (skb.data + 34) 6 = rfc1042EthHdr then skb.joinAddresses.pull 28
    else skb.pull 20 := by
  have header : skb.data + sizeofRxpd + ethHlen + 8 - 6 - 6 - 2 = skb.data + 28 := by
    rw [sizeofRxpd, ethHlen]
    omega
  rw [RxSkb.chopHeader]
  dsimp only
  rw [header, Nat.add_sub_cancel_left, Nat.add_sub_cancel_left]
  rfl

/-- Nothing in front of the new header is written, and nothing behind it. -/
theorem chopHeader_mem {i : Nat} (apart : i < skb.data + 28 ∨ skb.data + 40 ≤ i) :
    skb.chopHeader.mem i = skb.mem i := by
  rw [chopHeader_eq]
  split
  · exact joinAddresses_mem apart
  · rfl

theorem chopHeader_bytes (length : 42 ≤ skb.len) : skb.chopHeader.bytes = etherFrame skb.bytes := by
  have snap : (skb.bytes.drop 34).take 6 = Store.read skb.mem (skb.data + 34) 6 := by
    rw [RxSkb.bytes, Store.read_drop _ _ (by omega), Store.read_take _ _ (by omega)]
  rw [chopHeader_eq, etherFrame, snap]
  split
  · have behind : (skb.bytes.drop 40).take 2 ++ skb.bytes.drop 42 =
        Store.read skb.mem (skb.data + 40) (skb.len - 40) := by
      rw [show skb.bytes.drop 42 = (skb.bytes.drop 40).drop 2 from by rw [List.drop_drop],
        List.take_append_drop, RxSkb.bytes, Store.read_drop _ _ (by omega)]
    have dest : (skb.bytes.drop 20).take 6 = Store.read skb.mem (skb.data + 20) 6 := by
      rw [RxSkb.bytes, Store.read_drop _ _ (by omega), Store.read_take _ _ (by omega)]
    have source : (skb.bytes.drop 26).take 6 = Store.read skb.mem (skb.data + 26) 6 := by
      rw [RxSkb.bytes, Store.read_drop _ _ (by omega), Store.read_take _ _ (by omega)]
    rw [joinAddresses_bytes length, dest, source, List.append_assoc _ _ (skb.bytes.drop 42), behind]
  · rw [RxSkb.bytes, RxSkb.bytes, Store.read_drop _ _ (by omega)]
    rfl

/-- A good frame in normal mode. -/
theorem lbsProcessRxedPacket_normal (good : GoodFrame skb) (normal : st.monitormode = false) :
    st.lbsProcessRxedPacket skb expanded =
      { ret := 0, state := st.account (rxpdAt skb.mem skb.data) skb.chopHeader
        passed := some (st.rxDev (rxpdAt skb.mem skb.data), skb.chopHeader)
        disposals := [.netifRx] } := by
  have long : ¬skb.len < ethHlen + 8 + sizeofRxpd := Nat.not_lt.mpr good.length
  have header : rxpdAt skb.chopHeader.mem skb.data = rxpdAt skb.mem skb.data :=
    rxpdAt_congr fun i _ below => chopHeader_mem (.inl (by unfold sizeofRxpd at below; omega))
  simp only [RxState.lbsProcessRxedPacket, normal, Bool.false_eq_true, if_false, if_neg long,
    if_neg good.status, header]

/-- In monitor mode the radiotap header is stored over all but the first two bytes of the
`struct rxpd`, and the packet always has room for it. -/
theorem processRxed80211Packet_good (st : RxState)
    (expanded : Option (RxSkb × (Nat → UInt8))) (good : GoodFrame skb) : ∃ skb',
    st.processRxed80211Packet skb expanded =
      { ret := 0
        state := st.account
          { rxpdAt skb.mem skb.data with snr := 0, rxControl := 0, nf := 0x0e, rxRate := 0x58 }
          skb'
        passed := some (.rtapNetDev, skb')
        disposals := [.netifRx] } := by
  have long : ¬skb.len < ethHlen + 8 + sizeofRxpd := Nat.not_lt.mpr good.length
  have room : ¬(skb.pull sizeofRxpd).data < sizeofRxRadiotap := by
    show ¬skb.data + sizeofRxpd < sizeofRxRadiotap
    rw [sizeofRxpd, sizeofRxRadiotap]
    omega
  let pushed := (skb.pull sizeofRxpd).push sizeofRxRadiotap
  let header := radiotapHdr (rxpdAt skb.mem skb.data)
  have start : pushed.data = skb.data + 2 := rfl
  have length : header.length = 18 := rfl
  have read : rxpdAt (pushed.memcpy pushed.data header).mem skb.data =
      { rxpdAt skb.mem skb.data with snr := 0, rxControl := 0, nf := 0x0e, rxRate := 0x58 } := by
    have status : Store.read (pushed.memcpy pushed.data header).mem skb.data 2 =
        Store.read skb.mem skb.data 2 := memcpy_read_of_apart (.inl (Nat.le_of_eq start.symm))
    have stored : ∀ i < 18, (pushed.memcpy pushed.data header).mem (skb.data + 2 + i) =
        header.getD i 0 := fun i below => memcpy_mem (by omega)
    rw [rxpdAt]
    rw [status]
    congr 1
    · exact stored 0 (by decide)
    · exact stored 1 (by decide)
    · exact stored 4 (by decide)
    · exact stored 5 (by decide)
  refine ⟨pushed.memcpy pushed.data header, ?_⟩
  simp only [RxState.processRxed80211Packet, if_neg long, if_neg good.status, if_neg room,
    Option.getD_none]
  rw [← read]

/-- In normal mode the statistics of a good frame are those of its own `struct rxpd`; in monitor
mode they are only by coincidence, since they are read from the radiotap header. -/
theorem rx_statistics (good : GoodFrame skb) :
    TakenFrom st (st.lbsProcessRxedPacket skb expanded).state (rxpdAt skb.mem skb.data) ↔
      (st.monitormode = true →
        (rxpdAt skb.mem skb.data).snr = 0 ∧ (rxpdAt skb.mem skb.data).nf = 0x0e ∧
          (st.rates.enablehwauto ≠ 0 →
            lbsFwIndexToDataRate (rxpdAt skb.mem skb.data).rxRate = 2)) := by
  by_cases monitor : st.monitormode = true
  · obtain ⟨skb', outcome⟩ := processRxed80211Packet_good st expanded good
    have rate : lbsFwIndexToDataRate 0x58 = 2 := by decide
    rw [RxState.lbsProcessRxedPacket, if_pos monitor, outcome, account_takenFrom, rate]
    exact ⟨fun same _ => same, fun coincide => coincide monitor⟩
  · rw [lbsProcessRxedPacket_normal good (Bool.not_eq_true _ ▸ monitor)]
    exact ⟨fun _ on => absurd on monitor,
      fun _ => (account_takenFrom ..).mpr ⟨rfl, rfl, fun _ => rfl⟩⟩

/-- A good frame in normal mode is passed on with an Ethernet header where it is a SNAP frame, and
otherwise as it was received, without the `struct rxpd`; the copies change nothing but the twelve
bytes in front of the type. -/
theorem rx_frame (good : GoodFrame skb) (normal : st.monitormode = false) :
    ∃ target skb', (st.lbsProcessRxedPacket skb expanded).passed = some (target, skb') ∧
      skb'.bytes = etherFrame skb.bytes ∧
      ∀ i, i < skb.data + 28 ∨ skb.data + 40 ≤ i → skb'.mem i = skb.mem i := by
  rw [lbsProcessRxedPacket_normal good normal]
  exact ⟨_, _, rfl, chopHeader_bytes good.length, fun i apart => chopHeader_mem apart⟩

end Receptions

/-- A SNAP frame with a payload of two bytes, an SNR of 40 and an NF of 80. -/
def snapPacket : RxSkb where
  mem := fun i =>
    ([1, 0, 40, 0, 24, 0, 80, 3, 0, 0, 0, 0, 0, 0, 0, 0, 0, 0, 0, 0,
      1, 1, 1, 1, 1, 1, 2, 2, 2, 2, 2, 2, 0, 10,
      0xaa, 0xaa, 3, 0, 0, 0, 8, 0, 9, 9] : List UInt8).getD i 0
  data := 0
  len := 44

theorem snapPacket_good : GoodFrame snapPacket :=
  ⟨by decide, by decide⟩

/-- The driver before its first packet, in one of the two modes. -/
def rxStart (monitormode : Bool) : RxState :=
  { monitormode := monitormode, meshDev := false, rates := { enablehwauto := 1, curRate := 0 }
    signal := .zero, stats := ⟨0, 0, 0, 0⟩ }

theorem rx_statistics_normal :
    TakenFrom (rxStart false) ((rxStart false).lbsProcessRxedPacket snapPacket none).state
      (rxpdAt snapPacket.mem 0) :=
  (@rx_statistics (rxStart false) _ _ snapPacket_good).mpr nofun

/-- The state behind the same packet in monitor mode. -/
def monitored : RxState :=
  ((rxStart true).lbsProcessRxedPacket snapPacket none).state

/-- It counts as one with an SNR of 0, an NF of 14 and a rate of 1 Mb/s. -/
theorem rx_statistics_monitor : GoodFrame snapPacket ∧ monitored.signal.snrRxpd.noavg = 0 ∧
    monitored.signal.nfRxpd.noavg = 14 ∧ monitored.rates.curRate = 2 ∧
    ¬TakenFrom (rxStart true) monitored (rxpdAt snapPacket.mem 0) := by
  refine ⟨snapPacket_good, by decide +kernel, by decide +kernel, by decide +kernel, ?_⟩
  intro taken
  have snr := taken.snr
  revert snr
  decide +kernel

theorem rx_frame_snap : ∃ target skb',
    ((rxStart false).lbsProcessRxedPacket snapPacket none).passed = some (target, skb') ∧
      skb'.bytes = etherFrame snapPacket.bytes ∧
      ∀ i, i < 28 ∨ 40 ≤ i → skb'.mem i = snapPacket.mem i := by
  obtain ⟨target, skb', passed, bytes, same⟩ :=
    @rx_frame (rxStart false) _ none snapPacket_good rfl
  exact ⟨target, skb', passed, bytes, fun i apart => same i (by
    show i < 0 + 28 ∨ 0 + 40 ≤ i
    omega)⟩

/-- The Ethernet frame of the packet. -/
example : etherFrame snapPacket.bytes = [1, 1, 1, 1, 1, 1, 2, 2, 2, 2, 2, 2, 8, 0, 9, 9] := by
  decide +kernel

end Libertas
