import Mathlib.Algebra.Order.Ring.Int
import Mathlib.Data.List.Basic
import Mathlib.Data.List.GetD

/-!
# Reading little-endian fields of a byte buffer

Firmware structures are read at fixed byte offsets of a buffer. A list of bytes
stands for a zero-initialised array whose first bytes are the list, so a read
past the end of the list sees a zero byte.
-/

namespace ByteOrder

/-- The byte at an offset. -/
def byteAt (bytes : List UInt8) (offset : Nat) : UInt8 :=
  bytes.getD offset 0

/-- The little-endian 16-bit field at an offset. -/
def le16At (bytes : List UInt8) (offset : Nat) : UInt16 :=
  (byteAt bytes offset).toUInt16 ||| ((byteAt bytes (offset + 1)).toUInt16 <<< 8)

/-- The little-endian 32-bit field at an offset. -/
def le32At (bytes : List UInt8) (offset : Nat) : UInt32 :=
  (le16At bytes offset).toUInt32 ||| ((le16At bytes (offset + 2)).toUInt32 <<< 16)

/-- The two bytes of a 16-bit value in little-endian order. -/
def le16Bytes (value : UInt16) : List UInt8 :=
  [value.toUInt8, (value >>> 8).toUInt8]

/-- The four bytes of a 32-bit value in little-endian order. -/
def le32Bytes (value : UInt32) : List UInt8 :=
  le16Bytes value.toUInt16 ++ le16Bytes (value >>> 16).toUInt16

/-- The bytes from an offset on, zero-filled to the requested count. -/
def slice (bytes : List UInt8) (offset count : Nat) : List UInt8 :=
  (List.range count).map fun i => byteAt bytes (offset + i)

/-- `memcpy`: the first bytes of the destination are replaced by the source. -/
def overwrite (source destination : List UInt8) : List UInt8 :=
  source ++ destination.drop source.length

@[simp] theorem slice_length (bytes : List UInt8) (offset count : Nat) :
    (slice bytes offset count).length = count := by
  simp [slice]

/-- The slice that takes everything. -/
theorem slice_self (bytes : List UInt8) : slice bytes 0 bytes.length = bytes := by
  apply List.ext_getElem (slice_length _ _ _)
  intro i _ below
  simp [slice, byteAt, below]

theorem byteAt_slice (bytes : List UInt8) {offset count i : Nat} (below : i < count) :
    byteAt (slice bytes offset count) i = byteAt bytes (offset + i) := by
  simp [byteAt, slice, List.getD_eq_getElem?_getD, below]

theorem byteAt_drop (bytes : List UInt8) (offset i : Nat) :
    byteAt (bytes.drop offset) i = byteAt bytes (offset + i) := by
  simp [byteAt, List.getD_eq_getElem?_getD]

/-- Arrays of one length with the same bytes. -/
theorem eq_of_byteAt {a b : List UInt8} {count : Nat} (lengthA : a.length = count)
    (lengthB : b.length = count) (same : ∀ i < count, byteAt a i = byteAt b i) : a = b := by
  rw [← slice_self a, ← slice_self b, lengthA, lengthB]
  apply List.map_congr_left
  intro i member
  rw [Nat.zero_add]
  exact same i (List.mem_range.mp member)

/-- A copy leaves every byte behind the copied ones as it was. -/
theorem byteAt_overwrite_of_le {source destination : List UInt8} {i : Nat}
    (behind : source.length ≤ i) :
    byteAt (overwrite source destination) i = byteAt destination i := by
  simp only [byteAt, overwrite, List.getD_eq_getElem?_getD,
    List.getElem?_append_right behind, List.getElem?_drop]
  congr 2
  omega

/-- A byte is stored. -/
theorem byteAt_set (bytes : List UInt8) {offset : Nat} (room : offset < bytes.length)
    (value : UInt8) (i : Nat) :
    byteAt (bytes.set offset value) i = if i = offset then value else byteAt bytes i := by
  by_cases here : i = offset
  · subst here
    simp [byteAt, List.getD_eq_getElem?_getD, room]
  · simp [byteAt, List.getD_eq_getElem?_getD, here, Ne.symm here]

/-- A 32-bit field is that of its bytes. -/
theorem le32At_congr {a b : List UInt8} {offset : Nat}
    (same : ∀ i < 4, byteAt a (offset + i) = byteAt b (offset + i)) :
    le32At a offset = le32At b offset := by
  rw [le32At, le32At, le16At, le16At, le16At, le16At, same 1 (by decide), same 2 (by decide),
    same 3 (by decide)]
  rw [show byteAt a offset = byteAt b offset from same 0 (by decide)]

/-- A copy to some position: the copied bytes, and the others as they were. -/
theorem byteAt_overwrite_at {bytes destination : List UInt8} {offset count start i : Nat}
    (room : start ≤ destination.length) :
    byteAt (destination.take start ++
        overwrite (slice bytes offset count) (destination.drop start)) i =
      if start ≤ i ∧ i < start + count then byteAt bytes (offset + (i - start))
      else byteAt destination i := by
  have front : (destination.take start).length = start := List.length_take_of_le room
  by_cases below : i < start
  · rw [if_neg (by omega), byteAt, List.getD_append _ _ _ _ (by omega)]
    simp [byteAt, List.getD_eq_getElem?_getD, below]
  · have behind : byteAt (destination.take start ++
        overwrite (slice bytes offset count) (destination.drop start)) i =
          byteAt (overwrite (slice bytes offset count) (destination.drop start)) (i - start) := by
      rw [byteAt, List.getD_append_right _ _ _ _ (by omega), front, byteAt]
    rw [behind]
    by_cases inside : i < start + count
    · rw [if_pos ⟨Nat.le_of_not_lt below, inside⟩, overwrite, byteAt,
        List.getD_append _ _ _ _ (by rw [slice_length]; omega)]
      exact byteAt_slice bytes (by omega)
    · rw [if_neg (by omega), byteAt_overwrite_of_le (by rw [slice_length]; omega), byteAt_drop]
      congr 1
      omega

/-- Reassembling the two bytes of a 16-bit value gives the value back. -/
@[simp] theorem le16At_le16Bytes (value : UInt16) (rest : List UInt8) :
    le16At (le16Bytes value ++ rest) 0 = value := by
  apply UInt16.toNat_inj.mp
  simp only [le16At, le16Bytes, byteAt, List.cons_append, List.nil_append, List.getD_cons_zero,
    List.getD_cons_succ, UInt16.toNat_or, UInt16.toNat_shiftLeft, UInt8.toNat_toUInt16,
    UInt16.toNat_toUInt8, UInt16.toNat_shiftRight, Nat.zero_add]
  change value.toNat % 2 ^ 8 ||| (value.toNat >>> 8 % 2 ^ 8) <<< 8 % 2 ^ 16 = value.toNat
  have bound : value.toNat < 2 ^ 16 := value.toNat_lt
  have low : value.toNat % 2 ^ 8 < 2 ^ 8 := Nat.mod_lt _ (by decide)
  have high : (value.toNat >>> 8 % 2 ^ 8) <<< 8 % 2 ^ 16 = 2 ^ 8 * (value.toNat / 2 ^ 8) := by
    rw [Nat.shiftLeft_eq, Nat.shiftRight_eq_div_pow]
    omega
  rw [high, Nat.or_comm, ← Nat.two_pow_add_eq_or_of_lt low]
  exact Nat.div_add_mod _ _

theorem byteAt_append_right (front rest : List UInt8) (i : Nat) :
    byteAt (front ++ rest) (front.length + i) = byteAt rest i := by
  simp only [byteAt, List.getD_eq_getElem?_getD]
  rw [List.getElem?_append_right (Nat.le_add_right _ _), Nat.add_sub_cancel_left]

/-- A 16-bit value is read back where it was written. -/
theorem le16At_append (front rest : List UInt8) (value : UInt16) :
    le16At (front ++ le16Bytes value ++ rest) front.length = value := by
  have shifted : ∀ i, byteAt (front ++ (le16Bytes value ++ rest)) (front.length + i) =
      byteAt (le16Bytes value ++ rest) i := byteAt_append_right front _
  rw [List.append_assoc, le16At, shifted 1, show front.length = front.length + 0 from rfl,
    shifted 0]
  exact le16At_le16Bytes value rest

/-- Two buffers hold the same bytes below an offset. -/
def AgreeBelow (count : Nat) (a b : List UInt8) : Prop :=
  ∀ i < count, byteAt a i = byteAt b i

namespace AgreeBelow

variable {count : Nat} {a b : List UInt8}

theorem mono {fewer : Nat} (agree : AgreeBelow count a b) (le : fewer ≤ count) :
    AgreeBelow fewer a b := by
  intro i lt
  exact agree i (Nat.lt_of_lt_of_le lt le)

theorem symm (agree : AgreeBelow count a b) : AgreeBelow count b a := by
  intro i lt
  exact (agree i lt).symm

theorem trans {c : List UInt8} (left : AgreeBelow count a b) (right : AgreeBelow count b c) :
    AgreeBelow count a c := by
  intro i lt
  exact (left i lt).trans (right i lt)

theorem le16At_eq {i : Nat} (agree : AgreeBelow count a b) (fits : i + 2 ≤ count) :
    le16At a i = le16At b i := by
  rw [le16At, le16At, agree i (by omega), agree (i + 1) (by omega)]

theorem le32At_eq {i : Nat} (agree : AgreeBelow count a b) (fits : i + 4 ≤ count) :
    le32At a i = le32At b i := by
  rw [le32At, le32At, agree.le16At_eq (by omega), agree.le16At_eq (by omega)]

theorem slice_eq (offset length : Nat) (agree : AgreeBelow count a b)
    (fits : offset + length ≤ count) : slice a offset length = slice b offset length := by
  apply List.map_congr_left
  intro i below
  rw [List.mem_range] at below
  exact agree (offset + i) (by omega)

theorem drop (offset : Nat) {rest : Nat} (agree : AgreeBelow count a b)
    (fits : offset + rest ≤ count) : AgreeBelow rest (a.drop offset) (b.drop offset) := by
  intro i below
  rw [byteAt_drop, byteAt_drop]
  exact agree (offset + i) (by omega)

end AgreeBelow

/-- A slice determines the bytes it was taken from. -/
theorem slice_inj {a b : List UInt8} {offset count : Nat}
    (same : slice a offset count = slice b offset count) {i : Nat} (below : i < count) :
    byteAt a (offset + i) = byteAt b (offset + i) :=
  List.map_inj_left.mp same i (List.mem_range.mpr below)

/-- A copy shows the copied bytes. -/
theorem agreeBelow_overwrite (source destination : List UInt8) :
    AgreeBelow source.length (overwrite source destination) source := by
  intro i below
  simp only [byteAt, overwrite, List.getD_eq_getElem?_getD, List.getElem?_append_left below]

/-- The value of a 16-bit field. -/
theorem le16At_toNat (bytes : List UInt8) (i : Nat) :
    (le16At bytes i).toNat = 2 ^ 8 * (byteAt bytes (i + 1)).toNat + (byteAt bytes i).toNat := by
  have low : (byteAt bytes i).toNat < 2 ^ 8 := (byteAt bytes i).toNat_lt
  have high : (byteAt bytes (i + 1)).toNat < 2 ^ 8 := (byteAt bytes (i + 1)).toNat_lt
  have shifted : (byteAt bytes (i + 1)).toNat <<< 8 % 2 ^ 16 =
      2 ^ 8 * (byteAt bytes (i + 1)).toNat := by
    rw [Nat.shiftLeft_eq]
    omega
  rw [Nat.two_pow_add_eq_or_of_lt low, Nat.or_comm, ← shifted]
  rfl

/-- The value of a 32-bit field. -/
theorem le32At_toNat (bytes : List UInt8) (i : Nat) :
    (le32At bytes i).toNat = 2 ^ 16 * (le16At bytes (i + 2)).toNat + (le16At bytes i).toNat := by
  have low : (le16At bytes i).toNat < 2 ^ 16 := (le16At bytes i).toNat_lt
  have high : (le16At bytes (i + 2)).toNat < 2 ^ 16 := (le16At bytes (i + 2)).toNat_lt
  have shifted : (le16At bytes (i + 2)).toNat <<< 16 % 2 ^ 32 =
      2 ^ 16 * (le16At bytes (i + 2)).toNat := by
    rw [Nat.shiftLeft_eq]
    omega
  rw [Nat.two_pow_add_eq_or_of_lt low, Nat.or_comm, ← shifted]
  rfl

theorem length_le32Bytes (value : UInt32) : (le32Bytes value).length = 4 := rfl

/-- A 32-bit value is read back. -/
theorem le32At_le32Bytes (value : UInt32) (rest : List UInt8) :
    le32At (le32Bytes value ++ rest) 0 = value := by
  have low : le16At (le32Bytes value ++ rest) 0 = value.toUInt16 := by
    rw [le32Bytes, List.append_assoc]
    exact le16At_le16Bytes _ _
  have high : le16At (le32Bytes value ++ rest) 2 = (value >>> 16).toUInt16 := by
    rw [le32Bytes, List.append_assoc]
    exact le16At_append (le16Bytes value.toUInt16) rest _
  have bound := value.toNat_lt
  apply UInt32.toNat_inj.mp
  rw [le32At_toNat, low, Nat.zero_add, high, UInt32.toNat_toUInt16, UInt32.toNat_toUInt16,
    UInt32.toNat_shiftRight]
  show 2 ^ 16 * (value.toNat >>> 16 % 2 ^ 16) + value.toNat % 2 ^ 16 = value.toNat
  rw [Nat.shiftRight_eq_div_pow]
  omega

/-- A 16-bit field determines its two bytes. -/
theorem le16At_inj {a b : List UInt8} {i j : Nat} (same : le16At a i = le16At b j) :
    byteAt a i = byteAt b j ∧ byteAt a (i + 1) = byteAt b (j + 1) := by
  have values := congrArg UInt16.toNat same
  rw [le16At_toNat, le16At_toNat] at values
  have lowA := (byteAt a i).toNat_lt
  have lowB := (byteAt b j).toNat_lt
  constructor
  · apply UInt8.toNat_inj.mp
    omega
  · apply UInt8.toNat_inj.mp
    omega

/-- A 32-bit field determines its two halves. -/
theorem le32At_inj {a b : List UInt8} {i j : Nat} (same : le32At a i = le32At b j) :
    le16At a i = le16At b j ∧ le16At a (i + 2) = le16At b (j + 2) := by
  have values := congrArg UInt32.toNat same
  rw [le32At_toNat, le32At_toNat] at values
  have lowA := (le16At a i).toNat_lt
  have lowB := (le16At b j).toNat_lt
  constructor
  · apply UInt16.toNat_inj.mp
    omega
  · apply UInt16.toNat_inj.mp
    omega

end ByteOrder
