import Libertas.IfSdio.Helper

/-!
# The download of the firmware

In each round of `if_sdio_prog_real` the helper on the card asks for a number of bytes,
which the driver sends in transfers of at most 512, padded to whole blocks of 32 with
what is in the buffer. A request for nothing, or for an odd number, is a sign that the
helper gave up.

The two loops are one loop here: `reqSize` is there while the inner one runs.
-/

namespace Libertas

open ByteOrder

/-- `EIO`. -/
def eIo : Int := 5

/-- `IF_SDIO_FIRMWARE_OK`. -/
def ifSdioFirmwareOk : UInt16 := 0xfedc

/-- A call of `sdio_writesb`: the `chunk_size` that it is for, and the bytes. -/
structure FirmwareTransfer where
  chunkSize : Nat
  bytes : List UInt8
deriving DecidableEq, Repr

/-- The part of a transfer that belongs to the image. -/
def FirmwareTransfer.payload (transfer : FirmwareTransfer) : List UInt8 :=
  transfer.bytes.take transfer.chunkSize

/-- The chunk in the buffer is handed to `sdio_writesb`. -/
def firmwareTransfer (chunkBuffer : List UInt8) (chunkSize : Nat) : FirmwareTransfer :=
  { chunkSize := chunkSize, bytes := chunkBuffer.take ((chunkSize + 31) / 32 * 32) }

/-- The locals of `if_sdio_prog_real`. -/
structure RealLocals where
  /-- The number of requests that are served. -/
  rounds : Nat
  /-- The `size` bytes from `firmware` on. -/
  firmware : List UInt8
  chunkBuffer : List UInt8
  /-- `req_size`, in the inner loop. -/
  reqSize : Option Nat
  /-- The calls of `sdio_writesb`, oldest first. -/
  transfers : List FirmwareTransfer
  /-- The error that the loops were left with. -/
  exit : Option Int
deriving DecidableEq, Repr

/-- The end of `if_sdio_prog_real`. -/
structure FirmwareEnd where
  ret : Int
  transfers : List FirmwareTransfer
deriving DecidableEq, Repr

namespace FirmwareInput

variable (input : FirmwareInput)

/-- The size that is requested in a round, with the error. -/
def request (round : Nat) : UInt16 × Int :=
  readRegisters (input.low round) (input.high round)

/-- The outer loop: the driver waits, and reads the size. -/
def askSize (s : RealLocals) : RealLocals :=
  match waitDownload (input.polls s.rounds) with
  | none => s
  | some error =>
      if error ≠ 0 then { s with exit := some error }
      else
        let (reqSize, error) := input.request s.rounds
        if error ≠ 0 then { s with exit := some error }
        else if reqSize = 0 then { s with exit := some (-eIo) }
        else if reqSize &&& 1 ≠ 0 then { s with exit := some (-eIo) }
        else { s with reqSize := some (min reqSize.toNat s.firmware.length) }

/-- The inner loop: one chunk is sent. -/
def sendChunk (s : RealLocals) (reqSize : Nat) : RealLocals :=
  let chunkSize := min reqSize 512
  let chunkBuffer := overwrite (s.firmware.take chunkSize) s.chunkBuffer
  let error := input.written s.transfers.length
  let s := { s with
    chunkBuffer := chunkBuffer
    transfers := s.transfers ++ [firmwareTransfer chunkBuffer chunkSize] }
  if error ≠ 0 then { s with exit := some error }
  else
    { s with firmware := s.firmware.drop chunkSize, reqSize := some (reqSize - chunkSize) }

/-- The body of the loops of `if_sdio_prog_real`. -/
def progRealStep (s : RealLocals) : Option RealLocals :=
  if s.exit.isSome then none
  else
    match s.reqSize with
    | none => if s.firmware = [] then none else some (input.askSize s)
    | some 0 => some { s with reqSize := none, rounds := s.rounds + 1 }
    | some reqSize => some (input.sendChunk s reqSize)

/-- The locals in front of the loop. -/
def realLocals (image : List UInt8) : RealLocals :=
  { rounds := 0, firmware := image, chunkBuffer := List.replicate 512 0, reqSize := none
    transfers := [], exit := none }

/-- `if_sdio_prog_real`; `none` while it waits. -/
def ifSdioProgReal (fuel : Nat) : Option FirmwareEnd :=
  match input.image with
  | .error error => some { ret := error, transfers := [] }
  | .ok image =>
      if !input.alloc then some { ret := -eNoMem, transfers := [] }
      else if input.setBlockSize ≠ 0 then some { ret := input.setBlockSize, transfers := [] }
      else
        (Loop.iterate input.progRealStep fuel (realLocals image)).bind fun s =>
          match s.exit with
          | some error => some { ret := error, transfers := s.transfers }
          | none =>
              (waitBoot (· == ifSdioFirmwareOk) input.boot).map fun error =>
                { ret := error, transfers := s.transfers }

/-- The request of a round is for an even number of bytes, and for some. -/
def Asks (round : Nat) : Prop :=
  (input.request round).1 ≠ 0 ∧ Even (input.request round).1.toNat

/-- The number of bytes that are requested before a round. -/
def asked : Nat → Nat
  | 0 => 0
  | round + 1 => asked round + (input.request round).1.toNat

end FirmwareInput

/-- The end of a download that no operation fails in. The chunks are the image if each request up to
its end is for an even number of bytes, and for some. The first one that is not ends the download
with an error. -/
structure RealLocals.Delivered (input : FirmwareInput) (image : List UInt8) (fuel : Nat)
    (s : RealLocals) : Prop where
  whole : (∀ round, input.asked round < image.length → input.Asks round) →
    s.exit = none ∧ s.transfers.flatMap (·.payload) = image
  refused : ∀ round, (∀ i < round, input.Asks i) → input.asked round < image.length →
    ¬input.Asks round → s.exit = some (-eIo) ∧
      s.transfers.flatMap (·.payload) = image.take (input.asked round) ∧
      (input.image = .ok image → input.alloc = true →
        input.ifSdioProgReal fuel = some { ret := -eIo, transfers := s.transfers })

section Chunks

variable {chunkBuffer firmware : List UInt8} {chunkSize : Nat}

theorem length_chunkBuffer (size : chunkBuffer.length = 512) (small : chunkSize ≤ 512)
    (left : chunkSize ≤ firmware.length) :
    (overwrite (firmware.take chunkSize) chunkBuffer).length = 512 := by
  rw [overwrite, List.length_append, List.length_drop, List.length_take, Nat.min_eq_left left, size]
  omega

/-- A transfer is made of blocks, and fits into the buffer. -/
theorem firmwareTransfer_blocks (size : chunkBuffer.length = 512) (small : chunkSize ≤ 512) :
    (firmwareTransfer chunkBuffer chunkSize).bytes.length ≤ 512 ∧
      32 ∣ (firmwareTransfer chunkBuffer chunkSize).bytes.length := by
  have whole : roundUp 32 chunkSize ≤ 512 := roundUp_le (by decide) (by decide) small
  have length : (firmwareTransfer chunkBuffer chunkSize).bytes.length = roundUp 32 chunkSize := by
    rw [firmwareTransfer, roundUp_eq, List.length_take, size]
    rw [roundUp_eq] at whole
    exact Nat.min_eq_left whole
  rw [length]
  exact ⟨whole, dvd_roundUp 32 chunkSize⟩

/-- A transfer begins with its chunk. -/
theorem firmwareTransfer_payload (left : chunkSize ≤ firmware.length) :
    (firmwareTransfer (overwrite (firmware.take chunkSize) chunkBuffer) chunkSize).payload =
      firmware.take chunkSize := by
  have least : chunkSize ≤ (chunkSize + 31) / 32 * 32 := by omega
  have length : (firmware.take chunkSize).length = chunkSize := by
    rw [List.length_take, Nat.min_eq_left left]
  rw [FirmwareTransfer.payload, firmwareTransfer]
  dsimp only
  rw [List.take_take, Nat.min_eq_left least, overwrite]
  exact List.take_left' length

end Chunks

section Download

variable {input : FirmwareInput} {image : List UInt8} {s t : RealLocals} {reqSize : Nat}

/-- How far the requests have got, when no operation fails. -/
def RealLocals.Place (input : FirmwareInput) (image : List UInt8) (s : RealLocals) : Prop :=
  match s.exit, s.reqSize with
  | some error, _ => error = -eIo ∧ ¬input.Asks s.rounds ∧ input.asked s.rounds < image.length ∧
      s.firmware = image.drop (input.asked s.rounds)
  | none, none => s.firmware = image.drop (input.asked s.rounds)
  | none, some reqSize => input.Asks s.rounds ∧
      s.firmware.drop reqSize = image.drop (input.asked (s.rounds + 1))

/-- What the loops keep. -/
structure RealLocals.Kept (input : FirmwareInput) (image : List UInt8) (s : RealLocals) :
    Prop where
  buffer : s.chunkBuffer.length = 512
  blocks : ∀ transfer ∈ s.transfers, transfer.bytes.length ≤ 512 ∧ 32 ∣ transfer.bytes.length
  room : ∀ reqSize, s.reqSize = some reqSize → reqSize ≤ s.firmware.length
  sent : input.Succeeds → s.transfers.flatMap (·.payload) ++ s.firmware = image
  served : input.Succeeds → ∀ round < s.rounds, input.Asks round
  place : input.Succeeds → s.Place input image

/-- What is left of the image counts three times, so that there is room for the steps between two
chunks. -/
def RealLocals.rank (s : RealLocals) : Nat :=
  match s.exit, s.reqSize with
  | some _, _ => 0
  | none, none => 3 * s.firmware.length + 1
  | none, some 0 => 3 * s.firmware.length + 2
  | none, some _ => 3 * s.firmware.length

theorem rank_of_exit {error : Int} (exit : s.exit = some error) : s.rank = 0 := by
  rw [RealLocals.rank, exit]

theorem rank_le (s : RealLocals) : s.rank ≤ 3 * s.firmware.length + 2 := by
  rw [RealLocals.rank]
  split <;> omega

/-- The helper asks for an even number of bytes, and for some. -/
theorem asks_iff {round : Nat} : input.Asks round ↔
    (input.request round).1 ≠ 0 ∧ (input.request round).1 &&& 1 = 0 := by
  have bit : (input.request round).1 &&& 1 = 0 ↔ Even (input.request round).1.toNat := by
    rw [← UInt16.toNat_inj, UInt16.toNat_and, Nat.even_iff]
    show (input.request round).1.toNat &&& 1 = 0 ↔ _
    rw [Nat.and_one_is_mod]
  rw [FirmwareInput.Asks, bit]

theorem asked_mono {less more : Nat} (le : less ≤ more) : input.asked less ≤ input.asked more := by
  induction le with
  | refl => exact Nat.le_refl _
  | step _ ih => exact Nat.le_trans ih (Nat.le_add_right _ _)

/-- No error comes from the card. -/
theorem request_error (succeeds : input.Succeeds) (round : Nat) :
    (input.request round).2 = 0 := by
  rw [FirmwareInput.request, readRegisters, if_neg (not_not.mpr (succeeds.low round))]
  exact succeeds.high round

/-- A round ends with an error, or with the size of the next chunks. -/
theorem askSize_cases (waits : ∀ i, (waitDownload (input.polls i)).isSome) (s : RealLocals) :
    (∃ error, input.askSize s = { s with exit := some error } ∧
      (input.Succeeds → error = -eIo ∧ ¬input.Asks s.rounds)) ∨
    (input.Asks s.rounds ∧ input.askSize s =
      { s with reqSize := some (min (input.request s.rounds).1.toNat s.firmware.length) }) := by
  obtain ⟨error, waited⟩ := Option.isSome_iff_exists.mp (waits s.rounds)
  rw [FirmwareInput.askSize, waited]
  dsimp only
  split
  · rename_i failed
    refine .inl ⟨error, rfl, fun succeeds => ?_⟩
    rw [succeeds.ready] at waited
    exact absurd (Option.some.inj waited).symm failed
  split
  · rename_i failed
    exact .inl ⟨_, rfl, fun succeeds => absurd (request_error succeeds _) failed⟩
  split
  · rename_i nothing
    exact .inl ⟨_, rfl, fun _ => ⟨rfl, fun asks => (asks_iff.mp asks).1 nothing⟩⟩
  split
  · rename_i odd
    exact .inl ⟨_, rfl, fun _ => ⟨rfl, fun asks => odd (asks_iff.mp asks).2⟩⟩
  · rename_i some_size even
    exact .inr ⟨asks_iff.mpr ⟨some_size, not_not.mp even⟩, rfl⟩

/-- What is requested of the rest of the image, and what is behind it. -/
theorem drop_request (size : Nat) {firmware : List UInt8} :
    firmware.drop (min size firmware.length) = firmware.drop size := by
  rcases Nat.le_total size firmware.length with le | le
  · rw [Nat.min_eq_left le]
  · rw [Nat.min_eq_right le, List.drop_length, List.drop_of_length_le le]

theorem askSize_kept (waits : ∀ i, (waitDownload (input.polls i)).isSome)
    (kept : s.Kept input image) (outside : s.exit = none) (idle : s.reqSize = none)
    (some_left : s.firmware ≠ []) :
    (input.askSize s).Kept input image ∧ (input.askSize s).rank < s.rank := by
  have positive := List.length_pos_iff.mpr some_left
  have rank : s.rank = 3 * s.firmware.length + 1 := by
    rw [RealLocals.rank, outside, idle]
  have place : input.Succeeds → s.firmware = image.drop (input.asked s.rounds) := by
    intro succeeds
    have here := kept.place succeeds
    rw [RealLocals.Place, outside, idle] at here
    exact here
  rcases askSize_cases waits s with ⟨error, result, bad⟩ | ⟨asks, result⟩
  · rw [result, rank_of_exit rfl]
    refine ⟨⟨kept.buffer, kept.blocks, kept.room, kept.sent, kept.served, fun succeeds => ?_⟩,
      by omega⟩
    obtain ⟨eio, refused⟩ := bad succeeds
    have rest := place succeeds
    have length := congrArg List.length rest
    rw [List.length_drop] at length
    refine ⟨eio, refused, ?_, rest⟩
    show input.asked s.rounds < image.length
    omega
  · obtain ⟨nonzero, -⟩ := asks_iff.mp asks
    have size : 0 < (input.request s.rounds).1.toNat :=
      Nat.pos_of_ne_zero fun zero => nonzero (UInt16.toNat_inj.mp zero)
    rw [result]
    refine ⟨⟨kept.buffer, kept.blocks, ?_, kept.sent, kept.served, fun succeeds => ?_⟩, ?_⟩
    · rintro reqSize ⟨⟩
      exact Nat.min_le_right _ _
    · rw [RealLocals.Place]
      dsimp only
      rw [outside]
      refine ⟨asks, ?_⟩
      rw [drop_request, place succeeds, List.drop_drop]
      rfl
    · obtain ⟨less, same⟩ : ∃ less,
          min (input.request s.rounds).1.toNat s.firmware.length = less + 1 :=
        ⟨min (input.request s.rounds).1.toNat s.firmware.length - 1, by omega⟩
      rw [rank, RealLocals.rank]
      dsimp only
      rw [outside, same]
      exact Nat.lt_succ_self _

theorem sendChunk_kept (kept : s.Kept input image) (outside : s.exit = none) {less : Nat}
    (inside : s.reqSize = some (less + 1)) :
    (input.sendChunk s (less + 1)).Kept input image ∧
      (input.sendChunk s (less + 1)).rank < s.rank := by
  have room := kept.room _ inside
  have rank : s.rank = 3 * s.firmware.length := by
    simp only [RealLocals.rank, outside, inside]
  have left : min (less + 1) 512 ≤ s.firmware.length := by omega
  have small : min (less + 1) 512 ≤ 512 := Nat.min_le_right _ _
  have buffer := length_chunkBuffer kept.buffer small left
  have blocks : ∀ transfer ∈ s.transfers ++ [firmwareTransfer (overwrite
      (s.firmware.take (min (less + 1) 512)) s.chunkBuffer) (min (less + 1) 512)],
      transfer.bytes.length ≤ 512 ∧ 32 ∣ transfer.bytes.length := by
    intro transfer member
    rcases List.mem_append.mp member with before | last
    · exact kept.blocks transfer before
    · rw [List.mem_singleton.mp last]
      exact firmwareTransfer_blocks buffer small
  rw [FirmwareInput.sendChunk]
  dsimp only
  split
  · rename_i failed
    rw [rank_of_exit rfl]
    refine ⟨⟨buffer, blocks, kept.room, ?_, kept.served, ?_⟩, by omega⟩
    · exact fun succeeds => absurd (succeeds.written _) failed
    · exact fun succeeds => absurd (succeeds.written _) failed
  · refine ⟨⟨buffer, blocks, ?_, fun succeeds => ?_, kept.served, fun succeeds => ?_⟩, ?_⟩
    · rintro reqSize ⟨⟩
      rw [List.length_drop]
      omega
    · have sent := kept.sent succeeds
      rw [List.flatMap_append, List.flatMap_singleton, firmwareTransfer_payload left,
        List.append_assoc, List.take_append_drop]
      exact sent
    · have here := kept.place succeeds
      rw [RealLocals.Place, outside, inside] at here
      obtain ⟨asks, rest⟩ := here
      rw [RealLocals.Place]
      dsimp only
      rw [outside]
      refine ⟨asks, ?_⟩
      rw [List.drop_drop, Nat.add_sub_cancel' (Nat.min_le_left _ _)]
      exact rest
    · refine Nat.lt_of_le_of_lt (rank_le _) ?_
      rw [rank]
      show 3 * (s.firmware.drop (min (less + 1) 512)).length + 2 < 3 * s.firmware.length
      rw [List.length_drop]
      omega

/-- Behind the inner loop the next round begins. -/
theorem endRound_kept (kept : s.Kept input image) (outside : s.exit = none)
    (done : s.reqSize = some 0) :
    RealLocals.Kept input image { s with reqSize := none, rounds := s.rounds + 1 } ∧
      RealLocals.rank { s with reqSize := none, rounds := s.rounds + 1 } < s.rank := by
  have here : input.Succeeds → input.Asks s.rounds ∧
      s.firmware.drop 0 = image.drop (input.asked (s.rounds + 1)) := by
    intro succeeds
    have here := kept.place succeeds
    rw [RealLocals.Place, outside, done] at here
    exact here
  refine ⟨⟨kept.buffer, kept.blocks, nofun, kept.sent, fun succeeds round below => ?_,
    fun succeeds => ?_⟩, ?_⟩
  · rcases Nat.lt_succ_iff_lt_or_eq.mp below with before | rfl
    · exact kept.served succeeds round before
    · exact (here succeeds).1
  · rw [RealLocals.Place]
    dsimp only
    rw [outside]
    exact (here succeeds).2
  · simp only [RealLocals.rank, outside, done]
    exact Nat.lt_succ_self _

theorem progRealStep_kept (waits : ∀ i, (waitDownload (input.polls i)).isSome)
    (kept : s.Kept input image) (step : input.progRealStep s = some t) :
    t.Kept input image ∧ t.rank < s.rank := by
  rw [FirmwareInput.progRealStep] at step
  split at step
  · cases step
  rename_i inside
  have outside : s.exit = none := Option.not_isSome_iff_eq_none.mp inside
  split at step
  · rename_i idle
    split at step <;> cases step
    rename_i some_left
    exact askSize_kept waits kept outside idle some_left
  · rename_i done
    cases step
    exact endRound_kept kept outside done
  · rename_i reqSize more sending
    cases step
    obtain ⟨less, rfl⟩ := Nat.exists_eq_succ_of_ne_zero more
    exact sendChunk_kept kept outside sending

/-- The download comes to its end, and its transfers are made of blocks. When no operation fails,
the chunks are the image, or the first refused request is answered with an error. -/
theorem firmware_download (waits : ∀ i, (waitDownload (input.polls i)).isSome)
    (image : List UInt8) : ∃ fuel s,
    Loop.iterate input.progRealStep fuel (FirmwareInput.realLocals image) = some s ∧
      (∀ transfer ∈ s.transfers, transfer.bytes.length ≤ 512 ∧ 32 ∣ transfer.bytes.length) ∧
      (input.Succeeds → s.Delivered input image fuel) := by
  have start : (FirmwareInput.realLocals image).Kept input image :=
    ⟨List.length_replicate, nofun, nofun, fun _ => rfl, nofun, fun _ => rfl⟩
  obtain ⟨fuel, s, ends, kept, stopped⟩ := Loop.exists_end RealLocals.rank start
    fun s t kept step => progRealStep_kept waits kept step
  refine ⟨fuel, s, ends, kept.blocks, fun succeeds => ?_⟩
  -- The loops are left with an error, or because nothing is left of the image.
  have place := kept.place succeeds
  have sent := kept.sent succeeds
  cases exit : s.exit with
  | some error =>
      rw [RealLocals.Place, exit] at place
      obtain ⟨rfl, refused, before, rest⟩ := place
      refine ⟨fun asks => absurd (asks _ before) refused, fun round asks _ odd => ?_⟩
      have here : round = s.rounds := by
        rcases Nat.lt_trichotomy round s.rounds with below | same | above
        · exact absurd (kept.served succeeds round below) odd
        · exact same
        · exact absurd (asks _ above) refused
      subst here
      refine ⟨exit, ?_, fun loaded alloc => ?_⟩
      · rw [rest] at sent
        exact List.append_cancel_right (sent.trans (List.take_append_drop _ image).symm)
      · simp [FirmwareInput.ifSdioProgReal, loaded, alloc, succeeds.setBlockSize, ends, exit]
  | none =>
      have done : s.reqSize = none ∧ s.firmware = [] := by
        rw [FirmwareInput.progRealStep, if_neg (by simp [exit])] at stopped
        split at stopped
        · rename_i idle
          split at stopped
          · rename_i nothing
            exact ⟨idle, nothing⟩
          · cases stopped
        · cases stopped
        · cases stopped
      rw [RealLocals.Place, exit, done.1, done.2] at place
      rw [done.2, List.append_nil] at sent
      refine ⟨fun _ => ⟨exit, sent⟩, fun round asks before odd => ?_⟩
      have all : image.length ≤ input.asked s.rounds := List.drop_eq_nil_iff.mp place.symm
      rcases Nat.lt_or_ge round s.rounds with below | above
      · exact absurd (kept.served succeeds round below) odd
      · exact absurd (Nat.lt_of_lt_of_le before (all.trans (asked_mono above)))
          (Nat.lt_irrefl _)

end Download

theorem firmware_download_bytes : ∃ fuel s,
    Loop.iterate readyCard.progRealStep fuel (FirmwareInput.realLocals [1, 2, 3]) = some s ∧
      (∀ transfer ∈ s.transfers, transfer.bytes.length ≤ 512 ∧ 32 ∣ transfer.bytes.length) ∧
      s.exit = none ∧ s.transfers.flatMap (·.payload) = [1, 2, 3] := by
  obtain ⟨fuel, s, ends, blocks, delivered⟩ :=
    firmware_download (show ∀ i, (waitDownload (readyCard.polls i)).isSome from fun _ => rfl)
      [1, 2, 3]
  have asks : ∀ round, readyCard.Asks round := fun round => by
    show (readRegisters (2, 0) (0, 0)).1 ≠ 0 ∧ Even (readRegisters (2, 0) (0, 0)).1.toNat
    decide
  exact ⟨fuel, s, ends, blocks, (delivered readyCard_succeeds).whole fun round _ => asks round⟩

end Libertas
