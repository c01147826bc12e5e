import Libertas.Cmd.Wrappers
import Libertas.IfSdio.CardToHost
import Libertas.Transition.Loop

/-!
# The download of the helper

`if_sdio_prog_helper` sends an image in blocks of 64 bytes: a little-endian count of at
most 60, and as many bytes of the image. The buffer of the block is used again, so that
the last bytes of a short block are those of the block before. An empty block marks the
end; then the function waits for the helper to start.

The answers of the card, of the loader of the image and of the allocator are a
`FirmwareInput`, for this download and for that of the firmware itself.
-/

namespace Libertas

open ByteOrder

/-- `IF_SDIO_DL_RDY`. -/
def ifSdioDlRdy : UInt8 := 0x01

/-- What is answered during a download. -/
structure FirmwareInput where
  /-- The bytes in `fw`, or the error of `request_firmware`. -/
  image : Except Int (List UInt8)
  /-- `kzalloc` succeeds. -/
  alloc : Bool
  setBlockSize : Int
  /-- The readings of the status in each round of the download, with the results of `time_after`. -/
  polls : Nat → List ((UInt8 × Int) × Bool)
  /-- The registers `IF_SDIO_RD_BASE` and `IF_SDIO_RD_BASE + 1` in each round. -/
  low : Nat → UInt8 × Int
  high : Nat → UInt8 × Int
  /-- What the calls of `sdio_writesb` return. -/
  written : Nat → Int
  /-- The two registers that are read until the image runs, with the results of `time_after`. -/
  boot : List (((UInt8 × Int) × (UInt8 × Int)) × Bool)

/-- The loop that waits until a block can be sent, with its error; `none` while it waits. -/
def waitDownload : List ((UInt8 × Int) × Bool) → Option Int
  | [] => none
  | (status, late) :: rest =>
      if status.2 ≠ 0 then some status.2
      else if status.1 &&& ifSdioIoRdy ≠ 0 ∧ status.1 &&& ifSdioDlRdy ≠ 0 then some 0
      else if late then some (-eTimedOut)
      else waitDownload rest

/-- Two registers are read into a value, and the error. -/
def readRegisters (low high : UInt8 × Int) : UInt16 × Int :=
  if low.2 ≠ 0 then (low.1.toUInt16, low.2)
  else (low.1.toUInt16 ||| (high.1.toUInt16 <<< 8), high.2)

/-- The loop that waits until the image runs. -/
def waitBoot (runs : UInt16 → Bool) : List (((UInt8 × Int) × (UInt8 × Int)) × Bool) → Option Int
  | [] => none
  | ((low, high), late) :: rest =>
      let (value, error) := readRegisters low high
      if error ≠ 0 then some error
      else if runs value then some 0
      else if late then some (-eTimedOut)
      else waitBoot runs rest

/-- The locals of `if_sdio_prog_helper`. -/
structure HelperLocals where
  /-- The number of rounds that are over. -/
  rounds : Nat
  /-- The `size` bytes from `firmware` on. -/
  firmware : List UInt8
  chunkBuffer : List UInt8
  /-- The blocks in the calls of `sdio_writesb`, oldest first. -/
  blocks : List (List UInt8)
  /-- The error that the loop was left with. -/
  exit : Option Int
deriving DecidableEq, Repr

namespace FirmwareInput

variable (input : FirmwareInput)

/-- The block for the next bytes of the image, in the buffer of the block before. -/
def helperBlock (chunkBuffer firmware : List UInt8) : List UInt8 :=
  let chunkSize := min firmware.length 60
  let chunkBuffer := overwrite (le32Bytes (UInt32.ofNat chunkSize)) chunkBuffer
  chunkBuffer.take 4 ++ overwrite (firmware.take chunkSize) (chunkBuffer.drop 4)

/-- The body of the loop of `if_sdio_prog_helper`. -/
def progHelperStep (s : HelperLocals) : Option HelperLocals :=
  if s.exit.isSome ∨ s.firmware = [] then none
  else
    match waitDownload (input.polls s.rounds) with
    | none => some s
    | some error =>
        if error ≠ 0 then some { s with exit := some error }
        else
          let chunkSize := min s.firmware.length 60
          let chunkBuffer := helperBlock s.chunkBuffer s.firmware
          let s := { s with
            chunkBuffer := chunkBuffer, blocks := s.blocks ++ [chunkBuffer.take 64] }
          if input.written s.rounds ≠ 0 then
            some { s with exit := some (input.written s.rounds) }
          else
            some { s with
              rounds := s.rounds + 1, firmware := s.firmware.drop chunkSize }

/-- The locals in front of the loop. -/
def helperLocals (image : List UInt8) : HelperLocals :=
  { rounds := 0, firmware := image, chunkBuffer := List.replicate 64 0, blocks := [], exit := none }

/-- The loop and the empty block behind it: the error, and the blocks. -/
def sendHelper (image : List UInt8) (fuel : Nat) : Option (Int × List (List UInt8)) :=
  (Loop.iterate input.progHelperStep fuel (helperLocals image)).map fun s =>
    match s.exit with
    | some error => (error, s.blocks)
    | none =>
        let chunkBuffer := overwrite [0, 0, 0, 0] s.chunkBuffer
        (input.written s.rounds, s.blocks ++ [chunkBuffer.take 64])

/-- `if_sdio_prog_helper`: what it returns, and the blocks; `none` while it waits. -/
def ifSdioProgHelper (fuel : Nat) : Option (Int × List (List UInt8)) :=
  match input.image with
  | .error error => some (error, [])
  | .ok image =>
      if !input.alloc then some (-eNoMem, [])
      else if input.setBlockSize ≠ 0 then some (input.setBlockSize, [])
      else
        (input.sendHelper image fuel).bind fun (error, blocks) =>
          if error ≠ 0 then some (error, blocks)
          else (waitBoot (· != 0) input.boot).map fun error => (error, blocks)

/-- No operation of the SDIO core fails, and the card gets ready in time. -/
structure Succeeds : Prop where
  setBlockSize : input.setBlockSize = 0
  ready : ∀ i, waitDownload (input.polls i) = some 0
  low : ∀ i, (input.low i).2 = 0
  high : ∀ i, (input.high i).2 = 0
  written : ∀ i, input.written i = 0

end FirmwareInput

/-- The image that blocks stand for: what they count, up to the empty block, which is the last. -/
def decodeBlocks : List (List UInt8) → Option (List UInt8)
  | [] => none
  | block :: rest =>
      let count := (le32At block 0).toNat
      if block.length ≠ 64 ∨ 60 < count then none
      else if count = 0 then if rest = [] then some [] else none
      else (decodeBlocks rest).map ((block.drop 4).take count ++ ·)

section Blocks

variable {chunkBuffer firmware : List UInt8} {rest : List (List UInt8)}

theorem take_chunk (count : Nat) :
    firmware.take (min firmware.length count) = firmware.take count := by
  rw [Nat.min_comm, ← List.take_take, List.take_length]

/-- The header, the bytes, and what is left of the block before. -/
theorem helperBlock_eq (chunkBuffer firmware : List UInt8) :
    FirmwareInput.helperBlock chunkBuffer firmware =
      le32Bytes (UInt32.ofNat (min firmware.length 60)) ++
        (firmware.take 60 ++ (chunkBuffer.drop 4).drop (min firmware.length 60)) := by
  have header := length_le32Bytes (UInt32.ofNat (min firmware.length 60))
  rw [FirmwareInput.helperBlock, overwrite, List.take_left' header, List.drop_left' header,
    header, overwrite, List.length_take, take_chunk, Nat.min_eq_left (Nat.min_le_left _ _)]

theorem length_helperBlock (size : chunkBuffer.length = 64) (firmware : List UInt8) :
    (FirmwareInput.helperBlock chunkBuffer firmware).length = 64 := by
  rw [helperBlock_eq, List.length_append, length_le32Bytes, List.length_append, List.length_take,
    List.length_drop, List.length_drop, size]
  omega

/-- A block stands for the bytes that are taken off the image. -/
theorem decodeBlocks_helperBlock (size : chunkBuffer.length = 64) (some_left : firmware ≠ [])
    (decodes : decodeBlocks rest = some (firmware.drop (min firmware.length 60))) :
    decodeBlocks ((FirmwareInput.helperBlock chunkBuffer firmware).take 64 :: rest) =
      some firmware := by
  have positive := List.length_pos_iff.mpr some_left
  have length := length_helperBlock size firmware
  have count : (le32At (FirmwareInput.helperBlock chunkBuffer firmware) 0).toNat =
      min firmware.length 60 := by
    rw [helperBlock_eq, le32At_le32Bytes]
    exact UInt32.toNat_ofNat_of_lt' (by
      show min firmware.length 60 < 2 ^ 32
      omega)
  have data : ((FirmwareInput.helperBlock chunkBuffer firmware).drop 4).take
      (min firmware.length 60) = firmware.take (min firmware.length 60) := by
    rw [helperBlock_eq, List.drop_left' (length_le32Bytes _), take_chunk]
    exact List.take_left' (by rw [List.length_take, Nat.min_comm])
  rw [List.take_of_length_le (Nat.le_of_eq length), decodeBlocks, count, if_neg (by omega),
    if_neg (by omega), decodes, data, Option.map_some, List.take_append_drop]

/-- The last block stands for nothing. -/
theorem decodeBlocks_empty (size : chunkBuffer.length = 64) :
    decodeBlocks [(overwrite [0, 0, 0, 0] chunkBuffer).take 64] = some [] := by
  have length : (overwrite [0, 0, 0, 0] chunkBuffer).length = 64 := by
    simp [overwrite, size]
  have count : le32At (overwrite [0, 0, 0, 0] chunkBuffer) 0 = 0 :=
    le32At_le32Bytes 0 (chunkBuffer.drop 4)
  rw [List.take_of_length_le (Nat.le_of_eq length), decodeBlocks, count, length, if_neg (by decide)]
  rfl

end Blocks

section Download

variable {input : FirmwareInput} {image : List UInt8} {s t : HelperLocals}

/-- The blocks so far, and any that stand for the rest, stand for the image. -/
structure HelperLocals.Carries (input : FirmwareInput) (image : List UInt8) (s : HelperLocals) :
    Prop where
  size : s.chunkBuffer.length = 64
  decodes : s.exit = none → ∀ rest, decodeBlocks rest = some s.firmware →
    decodeBlocks (s.blocks ++ rest) = some image
  exit : input.Succeeds → s.exit = none

/-- What is left of the image, or nothing when the loop was left. -/
def HelperLocals.rank (s : HelperLocals) : Nat :=
  if s.exit.isSome then 0 else s.firmware.length + 1

theorem progHelperStep_carries (waits : ∀ i, (waitDownload (input.polls i)).isSome)
    (carries : s.Carries input image) (step : input.progHelperStep s = some t) :
    t.Carries input image ∧ t.rank < s.rank := by
  have block := length_helperBlock carries.size s.firmware
  rw [FirmwareInput.progHelperStep] at step
  split at step
  · cases step
  rename_i running
  obtain ⟨inside, done⟩ := not_or.mp running
  have none_yet : s.exit = none := Option.not_isSome_iff_eq_none.mp inside
  have positive := List.length_pos_iff.mpr done
  rw [HelperLocals.rank, HelperLocals.rank, if_neg inside]
  obtain ⟨error, waited⟩ := Option.isSome_iff_exists.mp (waits s.rounds)
  rw [waited] at step
  dsimp only at step
  split at step
  · rename_i failed
    cases step
    refine ⟨⟨carries.size, nofun, fun succeeds => ?_⟩, Nat.succ_pos _⟩
    rw [succeeds.ready] at waited
    exact absurd (Option.some.inj waited).symm failed
  split at step
  · rename_i failed
    cases step
    exact ⟨⟨block, nofun, fun succeeds => absurd (succeeds.written _) failed⟩, Nat.succ_pos _⟩
  · cases step
    refine ⟨⟨block, fun _ rest decodes => ?_, carries.exit⟩, ?_⟩
    · show decodeBlocks (s.blocks ++ [_] ++ rest) = some image
      rw [List.append_assoc]
      exact carries.decodes none_yet _ (decodeBlocks_helperBlock carries.size done decodes)
    · dsimp only
      rw [if_neg inside, List.length_drop]
      omega

/-- The download comes to its end. When no operation fails, its blocks stand for the image, and the
function returns what the wait for the helper gives. -/
theorem helper_download (waits : ∀ i, (waitDownload (input.polls i)).isSome)
    (image : List UInt8) : ∃ fuel error blocks,
    input.sendHelper image fuel = some (error, blocks) ∧
      (input.Succeeds → (error = 0 ∧ decodeBlocks blocks = some image) ∧
        (input.image = .ok image → input.alloc = true →
          input.ifSdioProgHelper fuel =
            (waitBoot (· != 0) input.boot).map fun error => (error, blocks))) := by
  have start : (FirmwareInput.helperLocals image).Carries input image :=
    ⟨List.length_replicate, fun _ _ decodes => decodes, fun _ => rfl⟩
  obtain ⟨fuel, s, ends, carries, stopped⟩ := Loop.exists_end HelperLocals.rank start
    fun s t carries step => progHelperStep_carries waits carries step
  cases exit : s.exit with
  | some error =>
      refine ⟨fuel, error, s.blocks, ?_, fun succeeds => ?_⟩
      · rw [FirmwareInput.sendHelper, ends, Option.map_some, exit]
      · rw [carries.exit succeeds] at exit
        cases exit
  | none =>
      have done : s.firmware = [] := by
        by_contra some_left
        obtain ⟨error, waited⟩ := Option.isSome_iff_exists.mp (waits s.rounds)
        rw [FirmwareInput.progHelperStep, if_neg (by simp [exit, some_left]), waited] at stopped
        dsimp only at stopped
        split at stopped
        · cases stopped
        · split at stopped <;> cases stopped
      have sent : input.sendHelper image fuel = some (input.written s.rounds,
          s.blocks ++ [(overwrite [0, 0, 0, 0] s.chunkBuffer).take 64]) := by
        rw [FirmwareInput.sendHelper, ends, Option.map_some, exit]
      refine ⟨fuel, _, _, sent, fun succeeds =>
        ⟨⟨succeeds.written _, carries.decodes exit _ ?_⟩, fun loaded alloc => ?_⟩⟩
      · rw [done]
        exact decodeBlocks_empty carries.size
      · rw [FirmwareInput.ifSdioProgHelper, loaded]
        dsimp only
        rw [alloc, Bool.not_true, if_neg Bool.false_ne_true, succeeds.setBlockSize,
          if_neg (not_not.mpr rfl), sent, Option.bind_some, succeeds.written,
          if_neg (not_not.mpr rfl)]

end Download

/-- A card that asks for two bytes in each round, and starts the image. -/
def readyCard : FirmwareInput where
  image := .ok [1, 2, 3]
  alloc := true
  setBlockSize := 0
  polls := fun _ => [((0x08, 0), false), ((0x09, 0), false)]
  low := fun _ => (2, 0)
  high := fun _ => (0, 0)
  written := fun _ => 0
  boot := [(((0xdc, 0), (0xfe, 0)), false)]

theorem readyCard_succeeds : readyCard.Succeeds :=
  ⟨rfl, fun _ => rfl, fun _ => rfl, fun _ => rfl, fun _ => rfl⟩

theorem helper_download_bytes : ∃ fuel blocks,
    readyCard.ifSdioProgHelper fuel = some (0, blocks) ∧ decodeBlocks blocks = some [1, 2, 3] := by
  obtain ⟨fuel, _, blocks, -, succeeded⟩ :=
    helper_download (show ∀ i, (waitDownload (readyCard.polls i)).isSome from fun _ => rfl)
      [1, 2, 3]
  obtain ⟨⟨-, decodes⟩, whole⟩ := succeeded readyCard_succeeds
  exact ⟨fuel, blocks, whole rfl rfl, decodes⟩

/-- The bytes that are left in the buffer of a block do not count. -/
example : decodeBlocks [[2, 0, 0, 0, 7, 8] ++ List.replicate 58 9, List.replicate 64 0] =
    some [7, 8] := by
  decide

end Libertas
