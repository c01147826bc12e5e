import Libertas.Assoc.Setters
import Libertas.Transition.Fifo

/-!
# The packet queue of the SDIO card

`if_sdio_host_to_card` appends a packet to `card->packets` and schedules
`if_sdio_host_to_card_worker`, which takes the packets one by one and writes them
to the card. The list is changed under `card->lock`; between two accesses of the
worker any number of calls run. A work item does not run concurrently with
itself.

`sdio_align_size` is a parameter here; the copy of it that the driver carries is in
`Libertas.IfSdio.AlignSize`. `accepted`, `finished` and `wire` are not in the
source: the calls that returned 0, what became of the packets that were taken, and
the transfers, all oldest first.
-/

namespace Libertas

/-- `MVMS_DAT` and `MVMS_CMD`. -/
def mvmsDat : UInt8 := 0
def mvmsCmd : UInt8 := 1

/-- `IF_SDIO_IO_RDY`. -/
def ifSdioIoRdy : UInt8 := 0x08

/-- `struct if_sdio_packet`, without the link. -/
structure SdioPacket where
  nb : UInt16
  buffer : List UInt8
deriving DecidableEq, Repr

/-- `sizeof(struct if_sdio_packet)`, with pointers of four bytes. -/
def sizeofSdioPacket : Nat := 8

/-- The packet is handed to `sdio_writesb`. -/
def SdioPacket.transfer (packet : SdioPacket) : List UInt8 :=
  packet.buffer.take packet.nb.toNat

/-- The type and the bytes of a call. -/
structure SdioCall where
  type : UInt8
  payload : List UInt8
deriving DecidableEq, Repr

namespace SdioCall

variable (align : Nat → Nat) (call : SdioCall)

/-- The header that the card expects. -/
def header : List UInt8 :=
  [UInt8.ofNat ((call.payload.length + 4) &&& 0xff),
    UInt8.ofNat (((call.payload.length + 4) >>> 8) &&& 0xff), call.type, 0]

/-- The packet that `if_sdio_host_to_card` builds in zeroed memory. -/
def packet : SdioPacket :=
  let size := UInt16.ofNat (align (call.payload.length + 4))
  let buffer := ByteOrder.overwrite call.header (List.replicate size.toNat 0)
  { nb := size, buffer := buffer.take 4 ++ ByteOrder.overwrite call.payload (buffer.drop 4) }

/-- The header, the payload, and zeros up to the aligned size. -/
def frame : List UInt8 :=
  call.header ++ call.payload ++
    List.replicate (align (call.payload.length + 4) - (call.payload.length + 4)) 0

end SdioCall

/-- What becomes of a packet that was taken. -/
inductive SendEnd
  | written
  | statusError
  | timedOut
  | writeError
deriving DecidableEq, Repr

/-- Where the worker stands. -/
inductive SdioWorker
  | idle
  /-- It is going to look for a packet. -/
  | looking
  /-- It reads the status until the card is ready. -/
  | polling (packet : SdioPacket)
  | writing (packet : SdioPacket)
deriving DecidableEq, Repr

/-- The packet that the worker has taken. -/
def SdioWorker.inHand : SdioWorker → List SdioPacket
  | .idle | .looking => []
  | .polling packet | .writing packet => [packet]

@[simp] theorem inHand_idle : SdioWorker.idle.inHand = [] := rfl
@[simp] theorem inHand_looking : SdioWorker.looking.inHand = [] := rfl
@[simp] theorem inHand_polling (packet : SdioPacket) :
    (SdioWorker.polling packet).inHand = [packet] := rfl
@[simp] theorem inHand_writing (packet : SdioPacket) :
    (SdioWorker.writing packet).inHand = [packet] := rfl

/-- The part of `struct if_sdio_card` that is about packets, and the worker. -/
structure SdioCard where
  packets : List SdioPacket
  /-- `packet_worker` is pending. -/
  packetWorker : Bool
  worker : SdioWorker
  /-- `priv->dnld_sent`. -/
  dnldSent : DnldState
  /-- Calls that have appended their packet and not yet scheduled the worker. -/
  callers : Nat
  accepted : List SdioCall
  finished : List (SdioPacket × SendEnd)
  wire : List (List UInt8)
deriving DecidableEq, Repr

namespace SdioCard

/-- `if_sdio_host_to_card` up to the end of its locked part; `alloc` is the outcome of
`kzalloc`. -/
def ifSdioHostToCard (card : SdioCard) (align : Nat → Nat) (call : SdioCall) (alloc : Bool) :
    Int × SdioCard :=
  if call.payload.length > 65536 - sizeofSdioPacket - 4 then (-eInval, card)
  else if !alloc then (-eNoMem, card)
  else
    (0, { card with
      packets := card.packets ++ [call.packet align]
      dnldSent :=
        if call.type = mvmsCmd then .cmdSent
        else if call.type = mvmsDat then .dataSent
        else card.dnldSent
      callers := card.callers + 1
      accepted := card.accepted ++ [call] })

/-- The worker looks for a packet. -/
def takePacket (card : SdioCard) : SdioCard :=
  match card.packets with
  | [] => { card with worker := .idle }
  | packet :: rest => { card with packets := rest, worker := .polling packet }

/-- The worker is done with a packet. -/
def release (card : SdioCard) (packet : SdioPacket) (how : SendEnd) : SdioCard :=
  { card with worker := .looking, finished := card.finished ++ [(packet, how)] }

/-- The worker has read the status, or the reading has failed; `late` is the result of
`time_after`. -/
def pollStatus (card : SdioCard) (packet : SdioPacket) (status : Option UInt8) (late : Bool) :
    SdioCard :=
  match status with
  | none => card.release packet .statusError
  | some status =>
      if status &&& ifSdioIoRdy ≠ 0 then { card with worker := .writing packet }
      else if late then card.release packet .timedOut
      else card

/-- The worker has called `sdio_writesb`. -/
def writePacket (card : SdioCard) (packet : SdioPacket) (ok : Bool) : SdioCard :=
  if ok then
    { card.release packet .written with wire := card.wire ++ [packet.transfer] }
  else card.release packet .writeError

end SdioCard

/-- What can happen. -/
inductive SdioAction
  /-- A call up to the end of its locked part. -/
  | call (call : SdioCall) (alloc : Bool)
  /-- A call goes on to `schedule_work`. -/
  | schedule
  /-- The worker starts. -/
  | start
  | take
  | poll (status : Option UInt8) (late : Bool)
  | write (ok : Bool)
deriving DecidableEq, Repr

/-- How the sending of a packet ends with an action of the worker, by what the card and the clock
say. -/
def SdioAction.sendEnd : SdioAction → Option SendEnd
  | .poll none _ => some .statusError
  | .poll (some status) late =>
      if status &&& ifSdioIoRdy ≠ 0 then none else if late then some .timedOut else none
  | .write true => some .written
  | .write false => some .writeError
  | .call _ _ | .schedule | .start | .take => none

namespace SdioCard

/-- One step of the system. -/
def step (align : Nat → Nat) (card : SdioCard) : SdioAction → Option SdioCard
  | .call call alloc => some (card.ifSdioHostToCard align call alloc).2
  | .schedule =>
      match card.callers with
      | 0 => none
      | callers + 1 => some { card with callers := callers, packetWorker := true }
  | .start =>
      match card.worker with
      | .idle =>
          if card.packetWorker then
            some { card with packetWorker := false, worker := .looking }
          else none
      | .looking | .polling _ | .writing _ => none
  | .take =>
      match card.worker with
      | .looking => some card.takePacket
      | .idle | .polling _ | .writing _ => none
  | .poll status late =>
      match card.worker with
      | .polling packet => some (card.pollStatus packet status late)
      | .idle | .looking | .writing _ => none
  | .write ok =>
      match card.worker with
      | .writing packet => some (card.writePacket packet ok)
      | .idle | .looking | .polling _ => none

/-- The card after its probe. -/
def init : SdioCard :=
  { packets := [], packetWorker := false, worker := .idle, dnldSent := .resReceived
    callers := 0, accepted := [], finished := [], wire := [] }

end SdioCard

/-- The packet queue, for an alignment of the SDIO core. -/
def sdioQueue (align : Nat → Nat) : Machine SdioCard SdioAction where
  initial card := card = .init
  step := SdioCard.step align

/-- The aligned sizes of the calls fit into 16 bits. -/
def PayloadsFit (align : Nat → Nat) (_ : SdioCard) : SdioAction → Prop
  | .call call _ => align (call.payload.length + 4) ≤ 65535
  | _ => True

instance (align : Nat → Nat) (card : SdioCard) (action : SdioAction) :
    Decidable (PayloadsFit align card action) := by
  unfold PayloadsFit
  split <;> infer_instance

section Packets

variable {align : Nat → Nat} {call : SdioCall}

theorem header_length (call : SdioCall) : call.header.length = 4 := rfl

/-- The transfer of a packet is the header, the payload and zeros. -/
theorem transfer_packet (grows : ∀ size, size ≤ align size)
    (fits : align (call.payload.length + 4) ≤ 65535) :
    (call.packet align).transfer = call.frame align := by
  have enough := grows (call.payload.length + 4)
  have size : (UInt16.ofNat (align (call.payload.length + 4))).toNat =
      align (call.payload.length + 4) :=
    UInt16.toNat_ofNat_of_lt' (Nat.lt_succ_of_le fits)
  have built : (call.packet align).buffer = call.frame align := by
    rw [SdioCall.packet, SdioCall.frame]
    dsimp only
    rw [size]
    have front : (ByteOrder.overwrite call.header
        (List.replicate (align (call.payload.length + 4)) 0)).take 4 = call.header :=
      List.take_left' (header_length call)
    have back : (ByteOrder.overwrite call.header
        (List.replicate (align (call.payload.length + 4)) 0)).drop 4 =
        List.replicate (align (call.payload.length + 4) - 4) 0 := by
      rw [ByteOrder.overwrite]
      rw [List.drop_left' (header_length call), List.drop_replicate, header_length]
    rw [front, back, List.append_assoc]
    rw [ByteOrder.overwrite]
    rw [List.drop_replicate, Nat.sub_sub, Nat.add_comm 4]
  have length : (call.frame align).length = align (call.payload.length + 4) := by
    simp only [SdioCall.frame, List.length_append, List.length_replicate, header_length]
    omega
  rw [SdioPacket.transfer]
  rw [built]
  show (call.frame align).take (UInt16.ofNat (align (call.payload.length + 4))).toNat = _
  rw [size, ← length, List.take_length]

end Packets

/-- The queue and the worker as a channel from the calls to the card. -/
def SdioCard.channel (align : Nat → Nat) (card : SdioCard) : Channel SdioPacket :=
  { sent := card.accepted.map (·.packet align)
    received := card.finished.map Prod.fst ++ card.worker.inHand
    contents := card.packets }

/-- What every reachable state keeps besides the order. -/
structure SdioKept (align : Nat → Nat) (card : SdioCard) : Prop where
  fits : ∀ call ∈ card.accepted, align (call.payload.length + 4) ≤ 65535
  wire : card.wire = (card.finished.filter (·.2 = .written)).map (·.1.transfer)
  /-- Somebody is going to look at a waiting packet. -/
  served : card.packets = [] ∨ 0 < card.callers ∨ card.packetWorker = true ∨ card.worker ≠ .idle

section Steps

variable {align : Nat → Nat} {card card' : SdioCard} {packet : SdioPacket}

theorem call_keeps (kept : SdioKept align card) {call : SdioCall}
    (fits : align (call.payload.length + 4) ≤ 65535) (alloc : Bool) :
    SdioKept align (card.ifSdioHostToCard align call alloc).2 ∧
      (card.channel align).Moves ((card.ifSdioHostToCard align call alloc).2.channel align) := by
  rw [SdioCard.ifSdioHostToCard]
  split
  · exact ⟨kept, .stay _⟩
  · split
    · exact ⟨kept, .stay _⟩
    · refine ⟨⟨?_, kept.wire, .inr (.inl (Nat.succ_pos _))⟩, ?_⟩
      · intro other member
        rcases List.mem_append.mp member with member | member
        · exact kept.fits other member
        · rw [List.mem_singleton.mp member]
          exact fits
      · have sent := Channel.Moves.send (card.channel align) (call.packet align)
        simpa [SdioCard.channel] using sent

theorem take_keeps (kept : SdioKept align card) (looking : card.worker = .looking) :
    SdioKept align card.takePacket ∧
      (card.channel align).Moves (card.takePacket.channel align) := by
  rw [SdioCard.takePacket]
  split
  · rename_i none
    refine ⟨⟨kept.fits, kept.wire, .inl none⟩, ?_⟩
    have same : ({ card with worker := .idle } : SdioCard).channel align = card.channel align := by
      simp [SdioCard.channel, looking]
    rw [same]
    exact .stay _
  · rename_i packet rest first
    refine ⟨⟨kept.fits, kept.wire, .inr (.inr (.inr nofun))⟩, ?_⟩
    have received : (card.channel align).Moves _ := .receive first
    simpa [SdioCard.channel, looking] using received

/-- A worker that stays with its packet changes nothing in the channel. -/
theorem channel_inHand {worker : SdioWorker} (same : worker.inHand = card.worker.inHand) :
    ({ card with worker := worker } : SdioCard).channel align = card.channel align := by
  simp [SdioCard.channel, same]

theorem release_channel (holds : card.worker.inHand = [packet]) (how : SendEnd) :
    (card.release packet how).channel align = card.channel align := by
  simp [SdioCard.channel, SdioCard.release, holds]

/-- A packet that is not written leaves no trace on the wire. -/
theorem release_keeps (kept : SdioKept align card) {how : SendEnd} (failed : how ≠ .written) :
    SdioKept align (card.release packet how) where
  fits := kept.fits
  wire := by
    show card.wire = _
    rw [kept.wire]
    simp [SdioCard.release, failed]
  served := .inr (.inr (.inr nofun))

theorem poll_keeps (kept : SdioKept align card) (polling : card.worker = .polling packet)
    (status : Option UInt8) (late : Bool) :
    SdioKept align (card.pollStatus packet status late) ∧
      (card.channel align).Moves ((card.pollStatus packet status late).channel align) := by
  have holds : card.worker.inHand = [packet] := by
    rw [polling]
    rfl
  unfold SdioCard.pollStatus
  split
  · refine ⟨release_keeps kept nofun, ?_⟩
    rw [release_channel holds]
    exact .stay _
  · split
    · refine ⟨⟨kept.fits, kept.wire, .inr (.inr (.inr nofun))⟩, ?_⟩
      have same : ({ card with worker := .writing packet } : SdioCard).channel align =
          card.channel align := channel_inHand holds.symm
      rw [same]
      exact .stay _
    · split
      · refine ⟨release_keeps kept nofun, ?_⟩
        rw [release_channel holds]
        exact .stay _
      · exact ⟨kept, .stay _⟩

theorem write_keeps (kept : SdioKept align card) (writing : card.worker = .writing packet)
    (ok : Bool) : SdioKept align (card.writePacket packet ok) ∧
      (card.channel align).Moves ((card.writePacket packet ok).channel align) := by
  have holds : card.worker.inHand = [packet] := by
    rw [writing]
    rfl
  rw [SdioCard.writePacket]
  split
  · refine ⟨⟨kept.fits, ?_, .inr (.inr (.inr nofun))⟩, ?_⟩
    · show card.wire ++ [packet.transfer] = _
      rw [kept.wire]
      simp [SdioCard.release]
    · show (card.channel align).Moves ((card.release packet .written).channel align)
      rw [release_channel holds]
      exact .stay _
  · refine ⟨release_keeps kept nofun, ?_⟩
    rw [release_channel holds]
    exact .stay _

/-- Every step is a move of the channel. -/
theorem sdioQueue_step (kept : SdioKept align card) {action : SdioAction}
    (fits : PayloadsFit align card action) (stepped : card.step align action = some card') :
    SdioKept align card' ∧ (card.channel align).Moves (card'.channel align) := by
  cases action with
  | call call alloc =>
      cases stepped
      exact call_keeps kept fits alloc
  | schedule =>
      simp only [SdioCard.step] at stepped
      split at stepped <;> cases stepped
      exact ⟨⟨kept.fits, kept.wire, .inr (.inr (.inl rfl))⟩, .stay _⟩
  | start =>
      simp only [SdioCard.step] at stepped
      split at stepped
      · rename_i idle
        split at stepped <;> cases stepped
        refine ⟨⟨kept.fits, kept.wire, .inr (.inr (.inr nofun))⟩, ?_⟩
        have same : ({ card with packetWorker := false, worker := .looking } : SdioCard).channel
            align = card.channel align := by
          simp [SdioCard.channel, idle]
        rw [same]
        exact .stay _
      all_goals cases stepped
  | take =>
      simp only [SdioCard.step] at stepped
      split at stepped <;> cases stepped
      rename_i looking
      exact take_keeps kept looking
  | poll status late =>
      simp only [SdioCard.step] at stepped
      split at stepped <;> cases stepped
      rename_i polling
      exact poll_keeps kept polling status late
  | write ok =>
      simp only [SdioCard.step] at stepped
      split at stepped <;> cases stepped
      rename_i writing
      exact write_keeps kept writing ok

/-- A packet is finished only by an action that ends its sending. -/
theorem finished_step {action : SdioAction} (stepped : card.step align action = some card') :
    card'.finished.map Prod.snd = card.finished.map Prod.snd ++ action.sendEnd.toList := by
  cases action with
  | call call alloc =>
      cases stepped
      rw [SdioCard.ifSdioHostToCard]
      split_ifs <;> exact (List.append_nil _).symm
  | schedule =>
      simp only [SdioCard.step] at stepped
      split at stepped <;> cases stepped
      exact (List.append_nil _).symm
  | start =>
      simp only [SdioCard.step] at stepped
      split at stepped
      · split at stepped <;> cases stepped
        exact (List.append_nil _).symm
      all_goals cases stepped
  | take =>
      simp only [SdioCard.step] at stepped
      split at stepped <;> cases stepped
      rw [SdioCard.takePacket]
      split <;> exact (List.append_nil _).symm
  | poll status late =>
      simp only [SdioCard.step] at stepped
      split at stepped <;> cases stepped
      cases status with
      | none => exact List.map_append
      | some status =>
          rw [SdioCard.pollStatus, SdioAction.sendEnd]
          split_ifs
          · exact (List.append_nil _).symm
          · exact List.map_append
          · exact (List.append_nil _).symm
  | write ok =>
      simp only [SdioCard.step] at stepped
      split at stepped <;> cases stepped
      cases ok with
      | true => exact List.map_append
      | false => exact List.map_append

end Steps

section Runs

variable {align : Nat → Nat} {card : SdioCard}

theorem sdioQueue_faithful
    (reached : (sdioQueue align).ReachableUnder (PayloadsFit align) card) :
    SdioKept align card ∧ (card.channel align).Faithful := by
  refine reached.faithful ?_ fun _ _ _ kept fits stepped => sdioQueue_step kept fits stepped
  rintro _ rfl
  exact ⟨⟨nofun, rfl, .inl rfl⟩, rfl⟩

/-- The packets that are finished are those whose sending ended, each in its own way. -/
theorem finished_run {start : SdioCard} {actions : List SdioAction}
    (ran : (sdioQueue align).runUnder (PayloadsFit align) start actions = some card) :
    card.finished.map Prod.snd =
      start.finished.map Prod.snd ++ actions.filterMap SdioAction.sendEnd := by
  induction actions generalizing start with
  | nil =>
      cases ran
      exact (List.append_nil _).symm
  | cons action rest ih =>
      rw [Machine.runUnder] at ran
      split at ran
      · cases stepped : (sdioQueue align).step start action with
        | none =>
            rw [stepped] at ran
            cases ran
        | some next =>
            rw [stepped] at ran
            rw [ih ran, finished_step stepped, List.append_assoc]
            cases ended : action.sendEnd with
            | none => rw [List.filterMap_cons_none ended, Option.toList_none, List.nil_append]
            | some how => rw [List.filterMap_cons_some ended, Option.toList_some,
                List.singleton_append]
      · cases ran

/-- The accepted packets are, in the order of the calls, those that were finished, the one that
the worker has in its hand, and those that wait. The transfers are the packets finished by a
write, and each one is the frame of its call. What finished the others is, packet by packet, a
status that could not be read, a card that was not ready in time or a write that failed. -/
theorem sdio_packets (grows : ∀ size, size ≤ align size) {actions : List SdioAction}
    (ran : (sdioQueue align).runUnder (PayloadsFit align) .init actions = some card) :
    card.accepted.map (·.frame align) = card.finished.map (·.1.transfer) ++
        card.worker.inHand.map (·.transfer) ++ card.packets.map (·.transfer) ∧
      card.wire = (card.finished.filter (·.2 = .written)).map (·.1.transfer) ∧
      card.wire.Sublist (card.accepted.map (·.frame align)) ∧
      card.finished.map Prod.snd = actions.filterMap SdioAction.sendEnd := by
  have reached : (sdioQueue align).ReachableUnder (PayloadsFit align) card :=
    .run (.initial rfl) ran
  obtain ⟨kept, faithful⟩ := sdioQueue_faithful reached
  have frames : card.accepted.map (·.frame align) =
      (card.accepted.map (·.packet align)).map (·.transfer) := by
    rw [List.map_map]
    exact List.map_congr_left fun call member =>
      (transfer_packet grows (kept.fits call member)).symm
  have order : card.accepted.map (·.frame align) = card.finished.map (·.1.transfer) ++
      card.worker.inHand.map (·.transfer) ++ card.packets.map (·.transfer) := by
    have moved : card.accepted.map (·.packet align) =
        card.finished.map Prod.fst ++ card.worker.inHand ++ card.packets := faithful
    rw [frames, moved, List.map_append, List.map_append, List.map_map]
    rfl
  refine ⟨order, kept.wire, ?_, finished_run ran⟩
  rw [order, kept.wire, List.append_assoc]
  exact (List.filter_sublist.map _).trans (List.sublist_append_left _ _)

/-- No packet is forgotten: when the worker rests and nobody is about to start it, the queue is
empty. -/
theorem sdio_queue_drained
    (reached : (sdioQueue align).ReachableUnder (PayloadsFit align) card)
    (rests : card.worker = .idle) (notPending : card.packetWorker = false)
    (returned : card.callers = 0) : card.packets = [] := by
  obtain ⟨kept, _⟩ := sdioQueue_faithful reached
  rcases kept.served with drained | waiting | pending | running
  · exact drained
  · omega
  · rw [notPending] at pending
    cases pending
  · exact absurd rests running

end Runs

/-- Sizes are rounded up to words. -/
def alignWords (size : Nat) : Nat :=
  (size + 3) / 4 * 4

/-- A packet is dropped because the card does not get ready, and the next one is written. -/
def twoPackets : List SdioAction :=
  [.call { type := mvmsCmd, payload := [1, 2, 3, 4, 5] } true, .schedule, .start, .take,
    .call { type := mvmsDat, payload := [6] } true, .poll (some 0) false, .poll (some 0) true,
    .take, .schedule, .poll (some 0x08) false, .write true, .take, .start, .take]

theorem sdio_packets_two : ∃ card,
    (sdioQueue alignWords).runUnder (PayloadsFit alignWords) .init twoPackets = some card ∧
      card.wire = [[5, 0, 0, 0, 6, 0, 0, 0]] ∧
      card.wire.Sublist (card.accepted.map (·.frame alignWords)) ∧
      card.finished.map Prod.snd = [.timedOut, .written] := by
  obtain ⟨card, executed, wire⟩ := Machine.exists_of_map
    (fun card : SdioCard => card.wire = [[5, 0, 0, 0, 6, 0, 0, 0]])
    (show ((sdioQueue alignWords).runUnder (PayloadsFit alignWords) .init twoPackets).map _ =
      some true by decide +kernel)
  have grows : ∀ size, size ≤ alignWords size := by
    intro size
    rw [alignWords]
    omega
  obtain ⟨_, _, sublist, ends⟩ := sdio_packets grows executed
  exact ⟨card, executed, wire, sublist, ends.trans (by decide +kernel)⟩

end Libertas
