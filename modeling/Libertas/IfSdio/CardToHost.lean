import Libertas.ByteOrder
import Libertas.IfSdio.AlignSize
import Libertas.Stores

/-!
# Packets from the SDIO card

`if_sdio_card_to_host` reads the size of a packet from the scratch registers, waits
until the card is ready, transfers the aligned size into `card->buffer` and hands
what lies behind the packet's own header of four bytes to a handler. Three numbers
have to agree: the bytes transferred, the length field of the packet, and the size
that a handler is called with, which is the length field less four in an
`unsigned`.

An access to the card is the value that was read and the error code. The handlers
say which bytes of `card->buffer` they read. What they do with a response slot, a
frame or an event is modelled with the driver; the failure of the `BUG_ON` of
`if_sdio_handle_cmd` is not.
-/

namespace Libertas

/-- `MVMS_EVENT`. -/
def mvmsEvent : UInt8 := 3

/-- The number of the 8385, which has its event in a register. -/
def sdioModel8385 : Int := 0x04

/-- `MRVDRV_ETH_RX_PACKET_BUFFER_SIZE`: an Ethernet frame, `struct rxpd`, the SNAP header and
`EXTRA_LEN`. -/
def mrvdrvEthRxPacketBufferSize : Nat := 1514 + 20 + 8 + 36

/-- What a handler hands on. -/
inductive SdioDelivery
  /-- The bytes in the response slot, and their number in `resp_len`. -/
  | response (bytes : List UInt8)
  /-- The frame for `lbs_process_rxed_packet`. -/
  | frame (bytes : List UInt8)
  /-- The argument of `lbs_queue_event`. -/
  | event (event : UInt32)
deriving DecidableEq, Repr

/-- What a handler returns, hands on, and reads of `card->buffer`: the first byte and the number of
each range. -/
structure SdioHandled where
  ret : Int
  delivery : Option SdioDelivery
  uses : List (Nat × Nat)
deriving DecidableEq, Repr

/-- `if_sdio_handle_cmd`. -/
def ifSdioHandleCmd (mem : Nat → UInt8) (buffer : Nat) (size : UInt32) : SdioHandled :=
  if size.toNat > lbsCmdBufferSize then { ret := -e2Big, delivery := none, uses := [] }
  else
    { ret := 0, delivery := some (.response (Store.read mem buffer size.toNat))
      uses := [(buffer, size.toNat)] }

/-- `if_sdio_handle_data`; `alloc` is the outcome of `dev_alloc_skb`. -/
def ifSdioHandleData (mem : Nat → UInt8) (buffer : Nat) (size : UInt32) (alloc : Bool) :
    SdioHandled :=
  if size.toNat > mrvdrvEthRxPacketBufferSize then
    { ret := -e2Big, delivery := none, uses := [] }
  else if !alloc then { ret := -eNoMem, delivery := none, uses := [] }
  else
    { ret := 0, delivery := some (.frame (Store.read mem buffer size.toNat))
      uses := [(buffer, size.toNat)] }

/-- `if_sdio_handle_event`; `register` is what `IF_SDIO_EVENT` reads as. -/
def ifSdioHandleEvent (model : Int) (mem : Nat → UInt8) (buffer : Nat) (size : UInt32)
    (register : UInt8 × Int) : SdioHandled :=
  if model = sdioModel8385 then
    if register.2 ≠ 0 then { ret := register.2, delivery := none, uses := [] }
    else { ret := 0, delivery := some (.event (register.1.toUInt32 &&& 0xff)), uses := [] }
  else if size < 4 then { ret := -eInval, delivery := none, uses := [] }
  else
    let event := ByteOrder.le32At (Store.read mem buffer 4) 0
    { ret := 0, delivery := some (.event (event &&& 0xff)), uses := [(buffer, 4)] }

/-- The part of `struct if_sdio_card` that a reception uses. -/
structure SdioReceiver where
  func : SdioFunc
  model : Int
  buffer : Nat → UInt8

/-- What the card and the allocator answer during a call. -/
structure SdioInput where
  /-- The two scratch registers. -/
  low : UInt8 × Int
  high : UInt8 × Int
  /-- The readings of the status, each with the result of `time_after`. -/
  polls : List ((UInt8 × Int) × Bool)
  /-- The bytes that `sdio_readsb` transfers, and what it returns. -/
  bytes : Nat → UInt8
  transferred : Int
  register : UInt8 × Int
  alloc : Bool

/-- `if_sdio_read_scratch`: the value and the error. -/
def ifSdioReadScratch (input : SdioInput) : UInt16 × Int :=
  if input.low.2 ≠ 0 then (0xffff, input.low.2)
  else if input.high.2 ≠ 0 then (0xffff, input.high.2)
  else (input.low.1.toUInt16 ||| (input.high.1.toUInt16 <<< 8), 0)

/-- The loop that waits for the card, with its error; `none` while it waits. -/
def waitReady : List ((UInt8 × Int) × Bool) → Option Int
  | [] => none
  | (status, late) :: rest =>
      if status.2 ≠ 0 then some status.2
      else if status.1 &&& ifSdioIoRdy ≠ 0 then some 0
      else if late then some (-eTimedOut)
      else waitReady rest

/-- The result of a reception, the buffer behind it, the number of bytes transferred, and the length
field of a packet that was given to a handler with what the handler did. -/
structure SdioReceipt where
  ret : Int
  buffer : Nat → UInt8
  chunk : Nat
  packet : Option (UInt16 × SdioHandled)

namespace SdioReceiver

/-- The number of bytes that a packet of a size is transferred with. -/
def chunk (card : SdioReceiver) (size : UInt16) : UInt16 :=
  UInt16.ofNat (card.func.align size.toNat)

/-- The buffer after `sdio_readsb`. -/
def fill (card : SdioReceiver) (input : SdioInput) (chunk : UInt16) : Nat → UInt8 :=
  fun i => if i < chunk.toNat then input.bytes i else card.buffer i

/-- The first half of the header of the packet in a buffer. -/
def packetLength (buffer : Nat → UInt8) : UInt16 :=
  ByteOrder.le16At (Store.read buffer 0 4) 0

/-- The second half. -/
def packetType (buffer : Nat → UInt8) : UInt16 :=
  ByteOrder.le16At (Store.read buffer 0 4) 2

/-- The `switch` on the type of the packet; `none` where there is no handler. -/
def dispatch (card : SdioReceiver) (input : SdioInput) (buffer : Nat → UInt8) :
    Option SdioHandled :=
  let size := (packetLength buffer).toUInt32 - 4
  if packetType buffer = mvmsCmd.toUInt16 then some (ifSdioHandleCmd buffer 4 size)
  else if packetType buffer = mvmsDat.toUInt16 then
    some (ifSdioHandleData buffer 4 size input.alloc)
  else if packetType buffer = mvmsEvent.toUInt16 then
    some (ifSdioHandleEvent card.model buffer 4 size input.register)
  else none

/-- `if_sdio_card_to_host`; `none` while it waits for the card. -/
def ifSdioCardToHost (card : SdioReceiver) (input : SdioInput) : Option SdioReceipt :=
  let failed (ret : Int) : SdioReceipt :=
    { ret := ret, buffer := card.buffer, chunk := 0, packet := none }
  let (size, error) := ifSdioReadScratch input
  if error ≠ 0 then some (failed error)
  else if size < 4 then some (failed (-eInval))
  else
    match waitReady input.polls with
    | none => none
    | some error =>
        if error ≠ 0 then some (failed error)
        else
          let chunk := card.chunk size
          let buffer := card.fill input chunk
          let received : SdioReceipt :=
            { ret := 0, buffer := buffer, chunk := chunk.toNat, packet := none }
          if input.transferred ≠ 0 then some { received with ret := input.transferred }
          else if packetLength buffer > size then some { received with ret := -eInval }
          else
            match card.dispatch input buffer with
            | none => some { received with ret := -eInval }
            | some handled =>
                some { received with
                  ret := handled.ret
                  packet := some (packetLength buffer, handled) }

end SdioReceiver

/-- The packet has its header, lies in what was transferred, and is all that its handler reads. -/
def SdioReceipt.Safe (receipt : SdioReceipt) : Prop :=
  ∀ length handled, receipt.packet = some (length, handled) →
    4 ≤ length.toNat ∧ length.toNat ≤ receipt.chunk ∧
      ∀ use ∈ handled.uses, 4 ≤ use.1 ∧ use.1 + use.2 ≤ length.toNat

/-- The buffer of a reception after the transfer. -/
def SdioReceiver.buffered (card : SdioReceiver) (input : SdioInput) : Nat → UInt8 :=
  card.fill input (card.chunk (ifSdioReadScratch input).1)

/-- A packet of a known type gets as far as the comparison of its length field with its size: the
registers are read, the card gets ready, the transfer succeeds, and the field is not above the
size. -/
structure SdioReceiver.Arrives (card : SdioReceiver) (input : SdioInput) : Prop where
  scratch : (ifSdioReadScratch input).2 = 0
  size : 4 ≤ (ifSdioReadScratch input).1
  ready : waitReady input.polls = some 0
  transferred : input.transferred = 0
  whole : SdioReceiver.packetLength (card.buffered input) ≤ (ifSdioReadScratch input).1
  known : SdioReceiver.packetType (card.buffered input) ∈
    [mvmsCmd.toUInt16, mvmsDat.toUInt16, mvmsEvent.toUInt16]

/-- The length field of a packet that arrives. -/
def SdioReceiver.lengthField (card : SdioReceiver) (input : SdioInput) : Nat :=
  (SdioReceiver.packetLength (card.buffered input)).toNat

section Receptions

variable {card : SdioReceiver} {input : SdioInput} {buffer : Nat → UInt8} {handled : SdioHandled}

/-- A handler is found exactly for the known types. -/
theorem dispatch_isSome : (card.dispatch input buffer).isSome ↔
    SdioReceiver.packetType buffer ∈
      [mvmsCmd.toUInt16, mvmsDat.toUInt16, mvmsEvent.toUInt16] := by
  rw [SdioReceiver.dispatch]
  simp only [List.mem_cons, List.not_mem_nil, or_false]
  grind

theorem handleCmd_uses {mem : Nat → UInt8} {start : Nat} {size : UInt32} :
    ∀ use ∈ (ifSdioHandleCmd mem start size).uses,
      start ≤ use.1 ∧ use.1 + use.2 ≤ start + size.toNat := by
  rw [ifSdioHandleCmd]
  split
  · exact nofun
  · simp

theorem handleData_uses {mem : Nat → UInt8} {start : Nat} {size : UInt32} {alloc : Bool} :
    ∀ use ∈ (ifSdioHandleData mem start size alloc).uses,
      start ≤ use.1 ∧ use.1 + use.2 ≤ start + size.toNat := by
  rw [ifSdioHandleData]
  split
  · exact nofun
  · split
    · exact nofun
    · simp

theorem handleEvent_uses {model : Int} {mem : Nat → UInt8} {start : Nat} {size : UInt32}
    {register : UInt8 × Int} :
    ∀ use ∈ (ifSdioHandleEvent model mem start size register).uses,
      start ≤ use.1 ∧ use.1 + use.2 ≤ start + size.toNat := by
  rw [ifSdioHandleEvent]
  split
  · split <;> exact nofun
  · split
    · exact nofun
    · rename_i enough
      have four : 4 ≤ size.toNat := Nat.le_of_not_lt enough
      simpa using four

/-- The size of a packet that has its header does not wrap. -/
theorem payloadSize_toNat {length : UInt16} (header : 4 ≤ length.toNat) :
    (length.toUInt32 - 4).toNat = length.toNat - 4 := by
  have bound := length.toNat_lt
  rw [UInt32.toNat_sub_of_le]
  · rfl
  · rw [UInt32.le_iff_toNat_le]
    exact header

/-- The handlers read inside a packet that has its header. -/
theorem dispatch_uses (header : 4 ≤ (SdioReceiver.packetLength buffer).toNat)
    (dispatched : card.dispatch input buffer = some handled) :
    ∀ use ∈ handled.uses,
      4 ≤ use.1 ∧ use.1 + use.2 ≤ (SdioReceiver.packetLength buffer).toNat := by
  have size := payloadSize_toNat header
  have inside : ∀ use ∈ handled.uses, 4 ≤ use.1 ∧ use.1 + use.2 ≤
      4 + ((SdioReceiver.packetLength buffer).toUInt32 - 4).toNat := by
    unfold SdioReceiver.dispatch at dispatched
    dsimp only at dispatched
    split at dispatched
    · cases dispatched
      exact handleCmd_uses
    · split at dispatched
      · cases dispatched
        exact handleData_uses
      · split at dispatched
        · cases dispatched
          exact handleEvent_uses
        · cases dispatched
  intro use member
  have range := inside use member
  omega

/-- A packet that arrives is given to its handler. -/
theorem cardToHost_of_arrives (arrives : card.Arrives input) : ∃ handled receipt,
    card.ifSdioCardToHost input = some receipt ∧
      receipt.chunk = (card.chunk (ifSdioReadScratch input).1).toNat ∧
      receipt.packet = some (SdioReceiver.packetLength (card.buffered input), handled) := by
  have found : (card.dispatch input (card.buffered input)).isSome :=
    dispatch_isSome.mpr arrives.known
  obtain ⟨handled, dispatched⟩ := Option.isSome_iff_exists.mp found
  have enough : ¬(ifSdioReadScratch input).1 < 4 := UInt16.not_lt.mpr arrives.size
  have whole := UInt16.not_lt.mpr arrives.whole
  let receipt : SdioReceipt :=
    { ret := handled.ret
      buffer := card.buffered input
      chunk := (card.chunk (ifSdioReadScratch input).1).toNat
      packet := some (SdioReceiver.packetLength (card.buffered input), handled) }
  refine ⟨handled, receipt, ?_, rfl, rfl⟩
  rw [SdioReceiver.buffered] at whole dispatched
  simp only [SdioReceiver.ifSdioCardToHost, arrives.scratch, arrives.ready, arrives.transferred,
    ne_eq, not_true_eq_false, if_false, gt_iff_lt, enough, whole, dispatched]
  rfl

/-- Only a packet that arrives is given to a handler. -/
theorem cardToHost_packet {receipt : SdioReceipt} {length : UInt16}
    (received : card.ifSdioCardToHost input = some receipt)
    (packet : receipt.packet = some (length, handled)) :
    card.Arrives input ∧ length.toNat = card.lengthField input ∧
      receipt.chunk = (card.chunk (ifSdioReadScratch input).1).toNat ∧
      card.dispatch input (card.buffered input) = some handled := by
  rw [SdioReceiver.ifSdioCardToHost] at received
  dsimp only at received
  split at received
  · cases received
    cases packet
  rename_i scratch
  split at received
  · cases received
    cases packet
  rename_i size
  split at received
  · cases received
  rename_i error ready
  split at received
  · cases received
    cases packet
  rename_i noError
  split at received
  · cases received
    cases packet
  rename_i transferred
  split at received
  · cases received
    cases packet
  rename_i whole
  split at received
  · cases received
    cases packet
  rename_i found dispatched
  cases received
  cases packet
  rw [not_not] at scratch noError transferred
  refine ⟨⟨scratch, UInt16.not_lt.mp size, noError ▸ ready, transferred,
    UInt16.not_lt.mp whole, ?_⟩, rfl, rfl, dispatched⟩
  exact dispatch_isSome.mp (Option.isSome_iff_exists.mpr ⟨handled, dispatched⟩)

/-- A reception is safe exactly if the length field of a packet that arrives covers the packet's
header and is covered by the transfer. -/
theorem sdio_reception_safe (card : SdioReceiver) (input : SdioInput) :
    (∀ receipt, card.ifSdioCardToHost input = some receipt → receipt.Safe) ↔
      (card.Arrives input → 4 ≤ card.lengthField input ∧
        card.lengthField input ≤ card.func.align (ifSdioReadScratch input).1.toNat % 65536) := by
  have chunk : (card.chunk (ifSdioReadScratch input).1).toNat =
      card.func.align (ifSdioReadScratch input).1.toNat % 65536 := UInt16.toNat_ofNat'
  constructor
  · intro safe arrives
    obtain ⟨handled, receipt, received, bytes, packet⟩ := cardToHost_of_arrives arrives
    have held := safe receipt received _ handled packet
    rw [bytes, chunk] at held
    exact ⟨held.1, held.2.1⟩
  · intro sound receipt received length handled packet
    obtain ⟨arrives, field, bytes, dispatched⟩ := cardToHost_packet received packet
    obtain ⟨header, covered⟩ := sound arrives
    rw [bytes, chunk, field]
    exact ⟨header, covered, dispatch_uses header dispatched⟩

end Receptions

/-- A packet of type `MVMS_EVENT` from an 8686 with a length field of 2, in a transfer of 8
bytes. -/
def shortEvent : SdioInput :=
  { low := (8, 0), high := (0, 0), polls := [((0x08, 0), false)]
    bytes := fun i => [2, 0, 3, 0, 0x11, 0, 0, 0].getD i 0, transferred := 0
    register := (0, 0), alloc := true }

/-- An 8686 before its first packet. -/
def receiver8686 : SdioReceiver :=
  { func := blocksOf512, model := 0x0b, buffer := fun _ => 0 }

/-- Its event is read from the four bytes behind it. -/
theorem sdio_reception_unsafe : ∃ receipt,
    receiver8686.ifSdioCardToHost shortEvent = some receipt ∧
      (receipt.packet.map fun packet =>
        (packet.1.toNat, packet.2.delivery, packet.2.uses)) =
          some (2, some (.event 0x11), [(4, 4)]) ∧
      ¬receipt.Safe := by
  have seen : (receiver8686.ifSdioCardToHost shortEvent).map (fun receipt =>
      receipt.packet.map fun packet => (packet.1.toNat, packet.2.delivery, packet.2.uses)) =
        some (some (2, some (.event 0x11), [(4, 4)])) := by
    decide +kernel
  obtain ⟨receipt, received, fields⟩ := Option.map_eq_some_iff.mp seen
  refine ⟨receipt, received, fields, ?_⟩
  obtain ⟨⟨length, handled⟩, packet, same⟩ := Option.map_eq_some_iff.mp fields
  have two : length.toNat = 2 := congrArg Prod.fst same
  intro safe
  have header := (safe length handled packet).1
  omega

end Libertas
