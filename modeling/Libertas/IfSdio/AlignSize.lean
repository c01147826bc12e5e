import Libertas.IfSdio
import Libertas.Rounding

/-!
# The aligned size of an SDIO transfer

`sdio_align_size` pads a size so that the transfer can be one request: to a word
for a byte transfer, to whole blocks where the card has multi-block transfers, or
to whole blocks and a padded remainder. `if_sdio_host_to_card` keeps the result in
16 bits. Only the rounding to whole blocks can add more than a few bytes, and only
there a size near 65536 is lost.
-/

namespace Libertas

/-- The fields of `struct sdio_func` and of its card that `sdio_align_size` looks at. -/
structure SdioFunc where
  /-- `cur_blksize`, which the code divides by. -/
  curBlksize : UInt32
  /-- `card->cccr.multi_block`. -/
  multiBlock : Bool
deriving DecidableEq, Repr

/-- `mmc_align_data_size`. -/
def mmcAlignDataSize (sz : UInt32) : UInt32 :=
  (sz + 3) / 4 * 4

/-- `sdio_align_size`. -/
def sdioAlignSize (func : SdioFunc) (origSz : UInt32) : UInt32 :=
  let sz := mmcAlignDataSize origSz
  if sz ≤ func.curBlksize ∧ sz ≤ 512 then sz
  else if func.multiBlock then
    if sz % func.curBlksize = 0 then sz
    else
      let blkSz :=
        mmcAlignDataSize ((sz + func.curBlksize - 1) / func.curBlksize * func.curBlksize)
      if blkSz % func.curBlksize = 0 then blkSz
      else
        let byteSz := mmcAlignDataSize (sz % func.curBlksize)
        if byteSz ≤ func.curBlksize ∧ byteSz ≤ 512 then
          sz / func.curBlksize * func.curBlksize + byteSz
        else origSz
  else
    let chunkSz := mmcAlignDataSize (min func.curBlksize 512)
    if chunkSz = min func.curBlksize 512 then
      let byteSz := origSz % chunkSz
      origSz / chunkSz * chunkSz + (if byteSz ≠ 0 then mmcAlignDataSize byteSz else byteSz)
    else origSz

/-- The alignment that the packets of a function get. -/
def SdioFunc.align (func : SdioFunc) (size : Nat) : Nat :=
  (sdioAlignSize func (UInt32.ofNat size)).toNat

/-- The size is neither small enough for a byte transfer nor a number of blocks, and the card can
transfer several blocks. -/
def SdioFunc.TriesBlocks (func : SdioFunc) (size : Nat) : Prop :=
  func.multiBlock = true ∧
    ¬(roundUp 4 size ≤ func.curBlksize.toNat ∧ roundUp 4 size ≤ 512) ∧
    ¬func.curBlksize.toNat ∣ roundUp 4 size

/-- The size in whole blocks, padded to a word. -/
def SdioFunc.wholeBlocks (func : SdioFunc) (size : Nat) : Nat :=
  roundUp 4 (roundUp func.curBlksize.toNat (roundUp 4 size))

/-- The sum in which the blocks are counted does not wrap. -/
def SdioFunc.CountsBlocks (func : SdioFunc) (size : Nat) : Prop :=
  roundUp 4 size + func.curBlksize.toNat ≤ 2 ^ 32

section Alignment

variable {func : SdioFunc} {origSz : UInt32}

theorem mmcAlignDataSize_toNat {sz : UInt32} (small : sz.toNat + 3 < 2 ^ 32) :
    (mmcAlignDataSize sz).toNat = roundUp 4 sz.toNat := by
  have sum : (sz + 3).toNat = sz.toNat + 3 := by
    rw [UInt32.toNat_add]
    exact Nat.mod_eq_of_lt small
  rw [mmcAlignDataSize, UInt32.toNat_mul, UInt32.toNat_div, sum, roundUp_eq]
  have floor := Nat.div_mul_le_self (sz.toNat + 3) 4
  exact Nat.mod_eq_of_lt (Nat.lt_of_le_of_lt floor small)

theorem mod_eq_zero_iff {sz blk : UInt32} : sz % blk = 0 ↔ blk.toNat ∣ sz.toNat := by
  rw [← UInt32.toNat_inj, UInt32.toNat_mod]
  exact Nat.dvd_iff_mod_eq_zero.symm

/-- The remainder is padded to a word. -/
theorem remainder_toNat (sz step : UInt32) (small : sz.toNat + 3 < 2 ^ 32) :
    let size := sz / step * step + mmcAlignDataSize (sz % step)
    sz.toNat ≤ size.toNat ∧ size.toNat ≤ sz.toNat + 3 := by
  have parts := Nat.div_add_mod' sz.toNat step.toNat
  have floor : sz.toNat / step.toNat * step.toNat ≤ sz.toNat := Nat.div_mul_le_self _ _
  have padded : (mmcAlignDataSize (sz % step)).toNat = roundUp 4 (sz.toNat % step.toNat) := by
    have rest : (sz % step).toNat = sz.toNat % step.toNat := UInt32.toNat_mod _ _
    rw [mmcAlignDataSize_toNat (by omega), rest]
  have least : sz.toNat % step.toNat ≤ roundUp 4 (sz.toNat % step.toNat) :=
    le_roundUp (by decide)
  have below := roundUp_lt (show 0 < 4 by decide) (sz.toNat % step.toNat)
  have whole : (sz / step * step).toNat = sz.toNat / step.toNat * step.toNat := by
    rw [UInt32.toNat_mul, UInt32.toNat_div]
    exact Nat.mod_eq_of_lt (by omega)
  show sz.toNat ≤ (sz / step * step + _).toNat ∧ (sz / step * step + _).toNat ≤ _
  rw [UInt32.toNat_add, whole, padded, Nat.mod_eq_of_lt (by omega)]
  omega

/-- The sum in which the blocks are counted. -/
theorem blockSum_toNat (sz blk : UInt32) (some : 0 < sz.toNat) :
    (sz + blk - 1).toNat =
      if sz.toNat + blk.toNat ≤ 2 ^ 32 then sz.toNat + blk.toNat - 1
      else sz.toNat + blk.toNat - 1 - 2 ^ 32 := by
  have size := sz.toNat_lt
  have block := blk.toNat_lt
  rw [UInt32.toNat_sub, UInt32.toNat_add, UInt32.toNat_one]
  split <;> omega

/-- The size is rounded up to whole blocks unless the sum wraps. -/
theorem blocks_toNat {sz : UInt32} (blk : UInt32) (some : 0 < sz.toNat)
    (fits : sz.toNat + blk.toNat ≤ 2 ^ 32) :
    ((sz + blk - 1) / blk * blk).toNat = roundUp blk.toNat sz.toNat := by
  have floor := Nat.div_mul_le_self (sz.toNat + blk.toNat - 1) blk.toNat
  rw [UInt32.toNat_mul, UInt32.toNat_div, blockSum_toNat sz blk some, if_pos fits, roundUp_eq]
  exact Nat.mod_eq_of_lt (by omega)

/-- No block is left when the sum wraps. -/
theorem blocks_eq_zero {sz : UInt32} (blk : UInt32) (some : 0 < sz.toNat)
    (wraps : 2 ^ 32 < sz.toNat + blk.toNat) : (sz + blk - 1) / blk * blk = 0 := by
  have size := sz.toNat_lt
  apply UInt32.toNat_inj.mp
  rw [UInt32.toNat_mul, UInt32.toNat_div, blockSum_toNat sz blk some, if_neg (by omega),
    Nat.div_eq_of_lt (by omega), Nat.zero_mul]
  rfl

/-- The size that is tried for whole blocks. -/
def SdioFunc.blkSz (func : SdioFunc) (origSz : UInt32) : UInt32 :=
  mmcAlignDataSize ((mmcAlignDataSize origSz + func.curBlksize - 1) / func.curBlksize *
    func.curBlksize)

/-- At most a few bytes are added. -/
def Padded (size : Nat) (aligned : UInt32) : Prop :=
  size ≤ aligned.toNat ∧ aligned.toNat ≤ size + 6

theorem aligned_padded (small : origSz.toNat ≤ 65535) :
    Padded origSz.toNat (mmcAlignDataSize origSz) := by
  have above : origSz.toNat ≤ roundUp 4 origSz.toNat := le_roundUp (by decide)
  have below := roundUp_lt (show 0 < 4 by decide) origSz.toNat
  rw [Padded]
  rw [mmcAlignDataSize_toNat (by omega)]
  omega

/-- The remainder of an aligned size is padded. -/
theorem remainder_padded (small : origSz.toNat ≤ 65535) (step : UInt32) :
    Padded origSz.toNat (mmcAlignDataSize origSz / step * step +
      mmcAlignDataSize (mmcAlignDataSize origSz % step)) := by
  have aligned := aligned_padded small
  have rest := remainder_toNat (mmcAlignDataSize origSz) step (by
    have := aligned.2
    omega)
  have below := roundUp_lt (show 0 < 4 by decide) origSz.toNat
  have word : (mmcAlignDataSize origSz).toNat < origSz.toNat + 4 := by
    rw [mmcAlignDataSize_toNat (by omega)]
    exact below
  exact ⟨aligned.1.trans rest.1, by have := rest.2; omega⟩

theorem padded_self (size : UInt32) : Padded size.toNat size :=
  ⟨Nat.le_refl _, Nat.le_add_right _ _⟩

/-- Requests of several chunks. -/
theorem chunks_padded (small : origSz.toNat ≤ 65535) (chunkSz : UInt32) :
    Padded origSz.toNat (origSz / chunkSz * chunkSz +
      (if origSz % chunkSz ≠ 0 then mmcAlignDataSize (origSz % chunkSz)
        else origSz % chunkSz)) := by
  have rest := remainder_toNat origSz chunkSz (by omega)
  split
  · exact ⟨rest.1, rest.2.trans (by omega)⟩
  · rename_i none
    rw [not_not] at none
    have whole : mmcAlignDataSize (origSz % chunkSz) = origSz % chunkSz := by
      rw [none]
      rfl
    rw [whole] at rest
    exact ⟨rest.1, rest.2.trans (by omega)⟩

theorem sdioAlignSize_of_tries (small : origSz.toNat ≤ 65535)
    (tries : func.TriesBlocks origSz.toNat) :
    sdioAlignSize func origSz = func.blkSz origSz ∧ func.blkSz origSz % func.curBlksize = 0 ∨
      func.blkSz origSz % func.curBlksize ≠ 0 ∧
        Padded origSz.toNat (sdioAlignSize func origSz) := by
  have aligned : (mmcAlignDataSize origSz).toNat = roundUp 4 origSz.toNat :=
    mmcAlignDataSize_toNat (by omega)
  obtain ⟨multi, large, partly⟩ := tries
  have notBytes : ¬(mmcAlignDataSize origSz ≤ func.curBlksize ∧ mmcAlignDataSize origSz ≤ 512) := by
    rw [UInt32.le_iff_toNat_le, UInt32.le_iff_toNat_le, aligned]
    exact large
  have notWhole : mmcAlignDataSize origSz % func.curBlksize ≠ 0 := by
    rw [ne_eq, mod_eq_zero_iff, aligned]
    exact partly
  simp only [sdioAlignSize, if_neg notBytes, if_pos multi, if_neg notWhole]
  by_cases whole : func.blkSz origSz % func.curBlksize = 0
  · exact .inl ⟨if_pos whole, whole⟩
  · refine .inr ⟨whole, ?_⟩
    rw [show mmcAlignDataSize ((mmcAlignDataSize origSz + func.curBlksize - 1) /
      func.curBlksize * func.curBlksize) = func.blkSz origSz from rfl, if_neg whole]
    split
    · exact remainder_padded small _
    · exact padded_self _

theorem sdioAlignSize_of_not_tries (small : origSz.toNat ≤ 65535)
    (not : ¬func.TriesBlocks origSz.toNat) : Padded origSz.toNat (sdioAlignSize func origSz) := by
  have aligned : (mmcAlignDataSize origSz).toNat = roundUp 4 origSz.toNat :=
    mmcAlignDataSize_toNat (by omega)
  rw [sdioAlignSize]
  dsimp only
  split
  · exact aligned_padded small
  · rename_i large
    rw [UInt32.le_iff_toNat_le, UInt32.le_iff_toNat_le, aligned] at large
    split
    · rename_i multi
      rw [if_pos]
      · exact aligned_padded small
      · rw [mod_eq_zero_iff, aligned]
        by_contra partly
        exact not ⟨multi, large, partly⟩
    · split
      · exact chunks_padded small _
      · exact padded_self _

/-- Whole blocks of a size that is tried leave room for another word. -/
theorem roundUp_of_tries (small : origSz.toNat ≤ 65535) (tries : func.TriesBlocks origSz.toNat)
    (counts : func.CountsBlocks origSz.toNat) :
    roundUp func.curBlksize.toNat (roundUp 4 origSz.toNat) + 3 < 2 ^ 32 := by
  obtain ⟨_, large, partly⟩ := tries
  rw [SdioFunc.CountsBlocks] at counts
  have below := roundUp_lt (show 0 < 4 by decide) origSz.toNat
  obtain zero | positive := Nat.eq_zero_or_pos func.curBlksize.toNat
  · rw [zero, roundUp, Nat.zero_mul]
    decide
  by_cases one : roundUp 4 origSz.toNat ≤ func.curBlksize.toNat
  · have block := roundUp_le positive (Nat.dvd_refl _) one
    omega
  · have blocks := roundUp_lt positive (roundUp 4 origSz.toNat)
    omega

section Tried

variable (small : origSz.toNat ≤ 65535) (tries : func.TriesBlocks origSz.toNat)

include small tries

theorem aligned_pos : 0 < (mmcAlignDataSize origSz).toNat := by
  rw [mmcAlignDataSize_toNat (by omega)]
  refine Nat.pos_of_ne_zero fun zero => tries.2.2 ?_
  rw [zero]
  exact Nat.dvd_zero _

theorem blkSz_toNat (counts : func.CountsBlocks origSz.toNat) :
    (func.blkSz origSz).toNat = func.wholeBlocks origSz.toNat := by
  have aligned : (mmcAlignDataSize origSz).toNat = roundUp 4 origSz.toNat :=
    mmcAlignDataSize_toNat (by omega)
  have blocks := blocks_toNat func.curBlksize (aligned_pos small tries) (by
    rw [aligned]
    exact counts)
  have room := roundUp_of_tries small tries counts
  rw [aligned] at blocks
  rw [← blocks] at room
  rw [SdioFunc.blkSz, mmcAlignDataSize_toNat room, blocks]
  rfl

theorem blkSz_eq_zero (wraps : ¬func.CountsBlocks origSz.toNat) : func.blkSz origSz = 0 := by
  have aligned : (mmcAlignDataSize origSz).toNat = roundUp 4 origSz.toNat :=
    mmcAlignDataSize_toNat (by omega)
  have none := blocks_eq_zero func.curBlksize (aligned_pos small tries) (by
    rw [aligned]
    exact Nat.lt_of_not_le wraps)
  rw [SdioFunc.blkSz, none]
  rfl

end Tried

end Alignment

/-- The size of whole blocks, where it is used, is counted and kept in 16 bits. -/
def SdioFunc.CoversBlocks (func : SdioFunc) (size : Nat) : Prop :=
  func.TriesBlocks size → func.CountsBlocks size ∧
    (func.curBlksize.toNat ∣ func.wholeBlocks size → size ≤ func.wholeBlocks size % 65536)

/-- Whole blocks stay below 64 KiB. A block of more than that is one that can be counted, and if it
is made of words, its low 16 bits are at least the size. -/
def SdioFunc.Keeps (func : SdioFunc) (size : Nat) : Prop :=
  func.TriesBlocks size →
    if func.curBlksize.toNat < 65536 then
      func.curBlksize.toNat ∣ func.wholeBlocks size → func.wholeBlocks size < 65536
    else
      func.CountsBlocks size ∧
        (4 ∣ func.curBlksize.toNat → size ≤ func.curBlksize.toNat % 65536)

section Packets

variable {func : SdioFunc}

theorem coversBlocks_iff {size : Nat} (small : size ≤ 65529) :
    size ≤ (UInt16.ofNat (func.align size)).toNat ↔ func.CoversBlocks size := by
  have value : (UInt32.ofNat size).toNat = size :=
    UInt32.toNat_ofNat_of_lt' (Nat.lt_of_le_of_lt small (by decide))
  have within : (UInt32.ofNat size).toNat ≤ 65535 := by omega
  have kept : ∀ aligned, Padded (UInt32.ofNat size).toNat aligned →
      size ≤ (UInt16.ofNat aligned.toNat).toNat := by
    intro aligned padded
    have above := padded.1
    have below := padded.2
    rw [UInt16.toNat_ofNat_of_lt' (show aligned.toNat < 65536 by omega)]
    omega
  rw [SdioFunc.align]
  by_cases tries : func.TriesBlocks (UInt32.ofNat size).toNat
  · have some := aligned_pos within tries
    by_cases counts : func.CountsBlocks (UInt32.ofNat size).toNat
    · have blocks := blkSz_toNat within tries counts
      have multiple : func.blkSz (UInt32.ofNat size) % func.curBlksize = 0 ↔
          func.curBlksize.toNat ∣ func.wholeBlocks size := by
        rw [mod_eq_zero_iff, blocks, value]
      obtain ⟨result, whole⟩ | ⟨partly, padded⟩ := sdioAlignSize_of_tries within tries
      · rw [result, blocks, UInt16.toNat_ofNat', value]
        rw [value] at tries counts
        exact ⟨fun covers _ => ⟨counts, fun _ => covers⟩,
          fun keeps => (keeps tries).2 (multiple.mp whole)⟩
      · rw [value] at counts
        exact ⟨fun _ _ => ⟨counts, fun dvd => absurd (multiple.mpr dvd) partly⟩,
          fun _ => kept _ padded⟩
    · have none := blkSz_eq_zero within tries counts
      have zero : sdioAlignSize func (UInt32.ofNat size) = 0 := by
        obtain ⟨result, _⟩ | ⟨partly, _⟩ := sdioAlignSize_of_tries within tries
        · rw [result, none]
        · rw [none] at partly
          exact absurd (UInt32.zero_mod) partly
      rw [zero]
      rw [value] at tries counts
      refine ⟨fun covers => ?_, fun keeps => absurd (keeps tries).1 counts⟩
      have nothing : size = 0 := Nat.le_zero.mp covers
      rw [mmcAlignDataSize_toNat (by omega), value, nothing] at some
      exact absurd some (by decide)
  · have padded := sdioAlignSize_of_not_tries within tries
    rw [value] at tries
    exact ⟨fun _ tried => absurd tried tries, fun _ => kept _ padded⟩

/-- The memory of a packet: header and payload are stored whether or not there is room. -/
theorem packet_buffer (align : Nat → Nat) (call : SdioCall) :
    (call.packet align).buffer = call.header ++ call.payload ++
      (List.replicate (call.packet align).nb.toNat 0).drop (call.payload.length + 4) := by
  have front : ∀ rest : List UInt8, (ByteOrder.overwrite call.header rest).take 4 =
      call.header := fun _ => List.take_left' (header_length call)
  have back : ∀ rest : List UInt8, (ByteOrder.overwrite call.header rest).drop 4 =
      rest.drop 4 := fun _ => List.drop_left' (header_length call)
  rw [SdioCall.packet]
  dsimp only
  rw [front, back, List.append_assoc, ByteOrder.overwrite, List.drop_drop, Nat.add_comm 4]

/-- A transfer starts with the header and the payload if the size of the packet covers them. -/
theorem covered_iff (align : Nat → Nat) (call : SdioCall) :
    (call.header ++ call.payload) <+: (call.packet align).transfer ↔
      call.payload.length + 4 ≤ (call.packet align).nb.toNat := by
  have length : (call.header ++ call.payload).length = call.payload.length + 4 := by
    rw [List.length_append, header_length, Nat.add_comm]
  rw [SdioPacket.transfer, packet_buffer]
  constructor
  · intro front
    have covered := front.length_le
    rw [length] at covered
    exact covered.trans (List.length_take_le _ _)
  · intro covers
    rw [List.take_append, List.take_of_length_le (by omega)]
    exact List.prefix_append _ _

/-- What whole blocks add to the aligned size. -/
theorem wholeBlocks_lt {size : Nat} (positive : 0 < func.curBlksize.toNat)
    (whole : func.curBlksize.toNat ∣ func.wholeBlocks size) :
    func.wholeBlocks size < roundUp 4 size + max func.curBlksize.toNat 7 := by
  have blocks := roundUp_lt positive (roundUp 4 size)
  have above : roundUp func.curBlksize.toNat (roundUp 4 size) ≤
      roundUp 4 (roundUp func.curBlksize.toNat (roundUp 4 size)) := le_roundUp (by decide)
  have word := roundUp_lt (show 0 < 4 by decide)
    (roundUp func.curBlksize.toNat (roundUp 4 size))
  have rest := Nat.dvd_sub whole (dvd_roundUp func.curBlksize.toNat (roundUp 4 size))
  rw [SdioFunc.wholeBlocks] at rest ⊢
  by_cases large : 3 < func.curBlksize.toNat
  · -- the padding of the blocks is itself a number of blocks, and less than one
    have same := Nat.eq_zero_of_dvd_of_lt rest (by omega)
    omega
  · omega

/-- A block of 64 KiB or more is all there is. -/
theorem wholeBlocks_of_large {size : Nat} (small : size ≤ 65528) (some : 0 < roundUp 4 size)
    (block : ¬func.curBlksize.toNat < 65536) :
    func.wholeBlocks size = roundUp 4 func.curBlksize.toNat := by
  have aligned := roundUp_lt (show 0 < 4 by decide) size
  have least : roundUp 4 size ≤ roundUp func.curBlksize.toNat (roundUp 4 size) :=
    le_roundUp (by omega)
  have most : roundUp func.curBlksize.toNat (roundUp 4 size) ≤ func.curBlksize.toNat :=
    roundUp_le (by omega) (Nat.dvd_refl _) (by omega)
  have blocks := dvd_roundUp func.curBlksize.toNat (roundUp 4 size)
  have one := Nat.le_of_dvd (by omega) blocks
  rw [SdioFunc.wholeBlocks, Nat.le_antisymm most one]

theorem coversBlocks_iff_keeps {size : Nat} (small : size ≤ 65528)
    (usable : func.curBlksize ≠ 0) : func.CoversBlocks size ↔ func.Keeps size := by
  have positive : 0 < func.curBlksize.toNat :=
    Nat.pos_of_ne_zero fun zero => usable (UInt32.toNat_inj.mp zero)
  have aligned := roundUp_lt (show 0 < 4 by decide) size
  have above : size ≤ roundUp 4 size := le_roundUp (by decide)
  have word := dvd_roundUp 4 size
  refine forall_congr' fun tries => ?_
  by_cases block : func.curBlksize.toNat < 65536
  · rw [if_pos block]
    constructor
    · intro covers whole
      have kept := covers.2 whole
      have words : 4 ∣ func.wholeBlocks size := dvd_roundUp _ _
      have below := wholeBlocks_lt positive whole
      omega
    · intro fits
      refine ⟨?_, fun whole => ?_⟩
      · rw [SdioFunc.CountsBlocks]
        omega
      · rw [Nat.mod_eq_of_lt (fits whole)]
        exact above.trans ((le_roundUp positive).trans (le_roundUp (by decide)))
  · have some : 0 < roundUp 4 size := by
      refine Nat.pos_of_ne_zero fun zero => tries.2.2 ?_
      rw [zero]
      exact Nat.dvd_zero _
    rw [if_neg block, wholeBlocks_of_large small some block,
      dvd_roundUp_iff (by decide) (by omega)]
    refine and_congr_right fun _ => forall_congr' fun words => ?_
    rw [roundUp_of_dvd (by decide) words]

/-- The size of a packet covers the header and the payload exactly if its whole blocks, where it is
sent in whole blocks, stay below 64 KiB, or a block of more leaves enough in 16 bits. -/
theorem sdio_packet_covers {call : SdioCall}
    (accepted : call.payload.length ≤ 65536 - sizeofSdioPacket - 4)
    (usable : func.curBlksize ≠ 0) :
    (call.payload.length + 4 ≤ (call.packet func.align).nb.toNat ∧
      (call.header ++ call.payload) <+: (call.packet func.align).transfer) ↔
      func.Keeps (call.payload.length + 4) := by
  rw [covered_iff, and_self]
  have small : call.payload.length + 4 ≤ 65528 := by
    rw [sizeofSdioPacket] at accepted
    omega
  exact (coversBlocks_iff (by omega)).trans (coversBlocks_iff_keeps small usable)

end Packets

/-- A card with blocks of 512 bytes. -/
def blocksOf512 : SdioFunc := { curBlksize := 512, multiBlock := true }

theorem sdio_packet_covers_small :
    (4 + 4 ≤ (SdioCall.packet blocksOf512.align { type := 0, payload := [1, 2, 3, 4] }).nb.toNat ∧
      [8, 0, 0, 0, 1, 2, 3, 4] <+:
        (SdioCall.packet blocksOf512.align { type := 0, payload := [1, 2, 3, 4] }).transfer) ↔
      blocksOf512.Keeps (4 + 4) :=
  @sdio_packet_covers blocksOf512 { type := 0, payload := [1, 2, 3, 4] } (by decide) (by decide)

/-- A payload of 65500 bytes is sent in 128 blocks, and the size of its packet is 0. -/
theorem sdio_packet_not_covered :
    let call : SdioCall := { type := mvmsDat, payload := List.replicate 65500 0 }
    call.payload.length ≤ 65536 - sizeofSdioPacket - 4 ∧
      (call.packet blocksOf512.align).nb = 0 ∧
      ¬call.payload.length + 4 ≤ (call.packet blocksOf512.align).nb.toNat := by
  intro call
  have length : call.payload.length = 65500 := List.length_replicate
  have size : (call.packet blocksOf512.align).nb = 0 := by
    show UInt16.ofNat (blocksOf512.align (call.payload.length + 4)) = 0
    rw [length]
    decide
  rw [size, length]
  exact ⟨by decide, rfl, by decide⟩

end Libertas
