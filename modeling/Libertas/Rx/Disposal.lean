import Libertas.Rx.Packet

/-!
# What becomes of a received packet

`lbs_process_rxed_packet` owns the packet: it has to be passed on with `netif_rx`, or
to be freed. The function for monitor mode frees a packet in two places, once with
`kfree_skb` and once with `kfree`, which leaves the memory of its data behind. In
normal mode nothing is freed.
-/

namespace Libertas

/-- The parts of a packet. -/
inductive SkbPart
  | struct
  /-- The memory of its data. -/
  | head
deriving DecidableEq, Repr

/-- The parts that a call gives away. -/
def RxDisposal.gives : RxDisposal → SkbPart → Bool
  | .netifRx, _ => true
  | .kfreeSkb, _ => true
  | .kfree, .struct => true
  | .kfree, .head => false

/-- Each part of a packet is given away exactly once. -/
def DisposedOnce (disposals : List RxDisposal) : Prop :=
  ∀ part, disposals.countP (·.gives part) = 1

section Disposals

variable {st : RxState} {skb : RxSkb} {expanded : Option (RxSkb × (Nat → UInt8))}

theorem not_disposedOnce_nil : ¬DisposedOnce [] :=
  fun once => absurd (once .struct) (by decide)

/-- `kfree` leaves the data behind. -/
theorem not_disposedOnce_kfree : ¬DisposedOnce [.kfree] :=
  fun once => absurd (once .head) (by decide)

theorem disposedOnce_netifRx : DisposedOnce [.netifRx] := by
  intro part
  cases part <;> rfl

/-- In monitor mode there is always room for the radiotap header, so that every packet of a
sufficient length is passed on. -/
theorem disposals_monitor (st : RxState) (skb : RxSkb)
    (expanded : Option (RxSkb × (Nat → UInt8))) :
    (st.processRxed80211Packet skb expanded).disposals =
      if skb.len < ethHlen + 8 + sizeofRxpd then [.kfree] else [.netifRx] := by
  have room : ¬(skb.pull sizeofRxpd).data < sizeofRxRadiotap := by
    show ¬skb.data + sizeofRxpd < sizeofRxRadiotap
    rw [sizeofRxpd, sizeofRxRadiotap]
    omega
  rw [RxState.processRxed80211Packet]
  by_cases short : skb.len < ethHlen + 8 + sizeofRxpd
  · rw [if_pos short, if_pos short]
  · rw [if_neg short, if_neg short]
    dsimp only
    rw [if_neg room]

/-- In normal mode a packet is passed on, or forgotten. -/
theorem disposals_normal (normal : st.monitormode = false) :
    (st.lbsProcessRxedPacket skb expanded).disposals =
      if skb.len < ethHlen + 8 + sizeofRxpd ∨
        (rxpdAt skb.mem skb.data).status &&& mrvdrvRxpdStatusOk = 0 then [] else [.netifRx] := by
  rw [RxState.lbsProcessRxedPacket, if_neg (by simp [normal])]
  by_cases short : skb.len < ethHlen + 8 + sizeofRxpd
  · rw [if_pos short, if_pos (.inl short)]
  rw [if_neg short]
  by_cases bad : (rxpdAt skb.mem skb.data).status &&& mrvdrvRxpdStatusOk = 0
  · rw [if_pos bad, if_pos (.inr bad)]
  · rw [if_neg bad, if_neg (not_or.mpr ⟨short, bad⟩)]

end Disposals

/-- A packet is disposed of exactly once if and only if it is long enough for its headers and, in
normal mode, was received well. -/
theorem rx_disposed_iff (st : RxState) (skb : RxSkb)
    (expanded : Option (RxSkb × (Nat → UInt8))) :
    DisposedOnce (st.lbsProcessRxedPacket skb expanded).disposals ↔
      ethHlen + 8 + sizeofRxpd ≤ skb.len ∧ (st.monitormode = true ∨
        (rxpdAt skb.mem skb.data).status &&& mrvdrvRxpdStatusOk ≠ 0) := by
  cases mode : st.monitormode with
  | true =>
      rw [RxState.lbsProcessRxedPacket, if_pos mode, disposals_monitor]
      split
      · rename_i short
        exact iff_of_false not_disposedOnce_kfree fun whole => absurd short (Nat.not_lt.mpr whole.1)
      · rename_i long
        exact iff_of_true disposedOnce_netifRx ⟨Nat.not_lt.mp long, .inl rfl⟩
  | false =>
      rw [disposals_normal mode]
      split
      · rename_i forgotten
        refine iff_of_false not_disposedOnce_nil ?_
        rintro ⟨long, monitor | good⟩
        · cases monitor
        · exact forgotten.elim (Nat.not_lt.mpr long) good
      · rename_i passed
        obtain ⟨long, good⟩ := not_or.mp passed
        exact iff_of_true disposedOnce_netifRx ⟨Nat.not_lt.mp long, .inr good⟩

/-- A packet with nothing behind its `struct rxpd` is forgotten. -/
theorem short_packet_forgotten : ¬ ∀ (st : RxState) (skb : RxSkb)
    (expanded : Option (RxSkb × (Nat → UInt8))),
    DisposedOnce (st.lbsProcessRxedPacket skb expanded).disposals := by
  intro disposed
  have once := disposed (rxStart false) { snapPacket with len := sizeofRxpd } none .struct
  revert once
  decide

end Libertas
