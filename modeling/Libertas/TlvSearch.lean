import Libertas.Stores
import Libertas.Tlv
import Libertas.TlvFind

/-!
# The search over well-formed elements

`lbs_tlv_find` trusts the lengths it reads and stops at a length of zero or at the
end. Over a sequence of elements with nonempty values, with nothing behind them or
zeros that hold at least another header, it goes from element to element: it stops
at the first one of the wanted type, and behind the last one otherwise.
-/

namespace Libertas

open ByteOrder

/-- From a position on, the memory holds elements, and behind them, up to the end, zeros: none or
at least a header of them. -/
structure TlvStream (tlv : Nat → UInt8) (size : UInt16) (fields : List Tlv.Field)
    (pos zeros : Nat) : Prop where
  stored : Store.read tlv pos ((Tlv.encode fields).length + zeros) =
    Tlv.encode fields ++ List.replicate zeros 0
  whole : pos + (Tlv.encode fields).length + zeros = size.toNat
  zeros : zeros = 0 ∨ tlvHeaderSize ≤ zeros
  filled : ∀ field ∈ fields, field.value ≠ []

section Stream

variable {tlvType : UInt16} {tlv : Nat → UInt8} {size : UInt16} {pos zeros : Nat}
  {field : Tlv.Field} {fields : List Tlv.Field}

/-- The bytes of an element determine the header that the search reads. -/
theorem header_of_read {count : Nat} (stored : Store.read tlv pos (4 + count) = field.bytes) :
    tlvTypeAt tlv pos = field.type ∧ tlvLenAt tlv pos = UInt16.ofNat field.value.length := by
  rw [Store.read_append] at stored
  have bytes : [tlv pos, tlv (pos + 1), tlv (pos + 2), tlv (pos + 3)] ++
      Store.read tlv (pos + 4) count = le16Bytes field.type ++
        (le16Bytes (UInt16.ofNat field.value.length) ++ field.value) := stored
  simp only [le16Bytes, List.cons_append, List.nil_append, List.cons.injEq] at bytes
  obtain ⟨low, high, lenLow, lenHigh, -⟩ := bytes
  constructor
  · rw [tlvTypeAt, low, high]
    exact le16At_le16Bytes field.type []
  · rw [tlvLenAt, lenLow, lenHigh]
    exact le16At_le16Bytes (UInt16.ofNat field.value.length) []

/-- A header of zeros. -/
theorem tlvLenAt_of_zeros (stored : Store.read tlv pos zeros = List.replicate zeros 0)
    (room : tlvHeaderSize ≤ zeros) : tlvLenAt tlv pos = 0 := by
  obtain ⟨rest, rfl⟩ := Nat.exists_eq_add_of_le room
  rw [tlvHeaderSize, Store.read_append, List.replicate_add] at stored
  have bytes : [tlv pos, tlv (pos + 1), tlv (pos + 2), tlv (pos + 3)] ++
      Store.read tlv (pos + 4) rest = [0, 0, 0, 0] ++ List.replicate rest 0 := stored
  simp only [List.cons_append, List.nil_append, List.cons.injEq] at bytes
  obtain ⟨-, -, lenLow, lenHigh, -⟩ := bytes
  rw [tlvLenAt, lenLow, lenHigh]
  rfl

namespace TlvStream

/-- Behind the last element the search is over. -/
theorem verdict_nil (stream : TlvStream tlv size [] pos zeros) (tlvType : UInt16) :
    tlvVerdict tlvType tlv size pos = .missing := by
  have whole := stream.whole
  have stored := stream.stored
  rw [Tlv.encode_nil, List.length_nil] at whole
  rw [Tlv.encode_nil, List.length_nil, Nat.zero_add, List.nil_append] at stored
  rw [tlvVerdict]
  rcases stream.zeros with none | some
  · rw [if_pos (by omega)]
  · have four : tlvHeaderSize = 4 := rfl
    rw [if_neg (by omega), if_pos (tlvLenAt_of_zeros stored some)]

/-- The element at the position and the ones behind it. -/
theorem cons (stream : TlvStream tlv size (field :: fields) pos zeros) :
    Store.read tlv pos (4 + field.value.length) = field.bytes ∧
      TlvStream tlv size fields (pos + (4 + field.value.length)) zeros := by
  have stored := stream.stored
  have whole := stream.whole
  rw [Tlv.encode_cons, List.length_append, field.length_bytes] at whole
  rw [Tlv.encode_cons, List.length_append, field.length_bytes, Nat.add_assoc, Store.read_append,
    List.append_assoc] at stored
  obtain ⟨here, behind⟩ := List.append_inj stored (by simp)
  exact ⟨here, behind, by omega, stream.zeros,
    fun other member => stream.filled other (List.mem_cons_of_mem _ member)⟩

theorem fits (stream : TlvStream tlv size (field :: fields) pos zeros) : field.Fits := by
  have whole := stream.whole
  have small : size.toNat < 2 ^ 16 := size.toNat_lt
  rw [Tlv.encode_cons, List.length_append, field.length_bytes] at whole
  rw [Tlv.Field.Fits]
  omega

theorem verdict_cons (stream : TlvStream tlv size (field :: fields) pos zeros)
    (tlvType : UInt16) :
    tlvVerdict tlvType tlv size pos = if field.type = tlvType then .found else .skip := by
  have whole := stream.whole
  have value := List.length_pos_iff.mpr (stream.filled field List.mem_cons_self)
  rw [Tlv.encode_cons, List.length_append, field.length_bytes] at whole
  obtain ⟨type, len⟩ := header_of_read stream.cons.1
  have nonzero : tlvLenAt tlv pos ≠ 0 := by
    rw [len, Ne, ← UInt16.toNat_inj, UInt16.toNat_ofNat_of_lt' stream.fits]
    exact Nat.pos_iff_ne_zero.mp value
  rw [tlvVerdict, if_neg (by omega), if_neg nonzero, type]

/-- The sum of header and length does not wrap around. -/
theorem advance_cons (stream : TlvStream tlv size (field :: fields) pos zeros) :
    (tlvAdvance tlv pos).toNat = 4 + field.value.length := by
  have whole := stream.whole
  have small := size.toNat_lt
  rw [Tlv.encode_cons, List.length_append, field.length_bytes] at whole
  obtain ⟨-, len⟩ := header_of_read stream.cons.1
  rw [tlvAdvance, len, UInt16.toNat_add, UInt16.toNat_ofNat_of_lt' stream.fits]
  show (field.value.length + 4) % 2 ^ 16 = 4 + field.value.length
  omega

/-- The search ends at the first element of the type or behind the last one. -/
theorem iterate (stream : TlvStream tlv size fields pos zeros) (tlvType : UInt16) {fuel : Nat}
    (enough : fields.length < fuel) :
    (Loop.iterate (tlvFindStep tlvType tlv size) fuel pos).map (fun last =>
        if tlvVerdict tlvType tlv size last = .found then some last else none) =
      some ((Tlv.firstOffset tlvType fields).map (pos + ·)) := by
  obtain ⟨fuel, rfl⟩ : ∃ less, fuel = less + 1 := ⟨fuel - 1, by omega⟩
  induction fields generalizing pos fuel with
  | nil =>
      have verdict := stream.verdict_nil tlvType
      simp [Loop.iterate, tlvFindStep, verdict, Tlv.firstOffset]
  | cons field fields ih =>
      have verdict := stream.verdict_cons tlvType
      by_cases wanted : field.type = tlvType
      · rw [if_pos wanted] at verdict
        simp [Loop.iterate, tlvFindStep, verdict, Tlv.firstOffset, wanted]
      · rw [if_neg wanted] at verdict
        rw [List.length_cons] at enough
        obtain ⟨fuel, rfl⟩ : ∃ less, fuel = less + 1 := ⟨fuel - 1, by omega⟩
        have step : tlvFindStep tlvType tlv size pos = some (pos + (4 + field.value.length)) := by
          rw [tlvFindStep, verdict, stream.advance_cons]
        have later := ih stream.cons.2 fuel (by omega)
        rw [Loop.iterate, step]
        show Option.map _ (Loop.iterate (tlvFindStep tlvType tlv size) (fuel + 1) _) = _
        rw [later, Tlv.firstOffset, if_neg wanted, Option.map_map, field.length_bytes]
        congr 2
        funext offset
        exact Nat.add_assoc _ _ _

end TlvStream

end Stream

/-- `lbs_tlv_find` over well-formed elements: with a bound above their number it returns the
position of the first one of the type, which has elements of other types in front of it, and
nothing if and only if there is none. -/
theorem tlv_find_first (tlvType : UInt16) (tlv : Nat → UInt8) (size : UInt16)
    (fields : List Tlv.Field) (zeros : Nat) (stream : TlvStream tlv size fields 0 zeros) :
    ∃ result, (∀ fuel, fields.length < fuel → lbsTlvFind tlvType tlv size fuel = some result) ∧
      (∀ pos, result = some pos ↔
        ∃ front field back, fields = front ++ field :: back ∧ field.type = tlvType ∧
          (∀ other ∈ front, other.type ≠ tlvType) ∧ pos = (Tlv.encode front).length) ∧
      (result = none ↔ ∀ field ∈ fields, field.type ≠ tlvType) := by
  refine ⟨Tlv.firstOffset tlvType fields, ?_, ?_, Tlv.firstOffset_eq_none⟩
  · intro fuel enough
    have found := stream.iterate tlvType enough
    simp only [Nat.zero_add, Option.map_id'] at found
    exact found
  · intro pos
    exact Tlv.firstOffset_eq_some

/-- The elements of the reply that the source shows, and a search for the second one. -/
theorem tlv_find_first_subscription :
    ∃ result, (∀ fuel, 4 < fuel → lbsTlvFind 0x0105
        (byteAt ([0x04, 0x01, 2, 0, 0, 0, 0x05, 0x01, 2, 0, 0, 0, 0x06, 0x01, 2, 0,
          0, 0, 0x07, 0x01, 2, 0, 0x3c, 0] ++ List.replicate 24 0)) 48 fuel = some result) ∧
      result = some 6 := by
  obtain ⟨result, returns, found, -⟩ := tlv_find_first 0x0105
    (byteAt ([0x04, 0x01, 2, 0, 0, 0, 0x05, 0x01, 2, 0, 0, 0, 0x06, 0x01, 2, 0,
      0, 0, 0x07, 0x01, 2, 0, 0x3c, 0] ++ List.replicate 24 0)) 48
    [⟨0x0104, [0, 0]⟩, ⟨0x0105, [0, 0]⟩, ⟨0x0106, [0, 0]⟩, ⟨0x0107, [0x3c, 0]⟩] 24
    ⟨by decide, by decide, by decide, by decide⟩
  exact ⟨result, returns, (found 6).mpr
    ⟨[⟨0x0104, [0, 0]⟩], ⟨0x0105, [0, 0]⟩, [⟨0x0106, [0, 0]⟩, ⟨0x0107, [0x3c, 0]⟩], rfl, rfl,
      by decide, rfl⟩⟩

end Libertas
