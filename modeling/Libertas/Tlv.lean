import Libertas.ByteOrder

/-!
# Type-length-value fields

A field is a type and a length of 16 bits each, in little-endian order, and as many
bytes as the length says. A sequence of fields is decoded by going from header to
header; nothing may be left over at its end.
-/

namespace Tlv

open ByteOrder

/-- A field. -/
structure Field where
  type : UInt16
  value : List UInt8
deriving DecidableEq, Repr

/-- The length of the value fits into the header. -/
def Field.Fits (field : Field) : Prop :=
  field.value.length < 2 ^ 16

/-- The bytes of a field. -/
def Field.bytes (field : Field) : List UInt8 :=
  le16Bytes field.type ++ (le16Bytes (UInt16.ofNat field.value.length) ++ field.value)

/-- The bytes of a sequence of fields. -/
def encode (fields : List Field) : List UInt8 :=
  fields.flatMap Field.bytes

/-- The fields of a sequence of bytes, with a bound on their number. -/
def decodeFrom : Nat → List UInt8 → Option (List Field)
  | _, [] => some []
  | 0, _ :: _ => none
  | fuel + 1, bytes =>
      let len := (le16At bytes 2).toNat
      if bytes.length < 4 + len then none
      else
        (decodeFrom fuel (bytes.drop (4 + len))).map
          ({ type := le16At bytes 0, value := (bytes.drop 4).take len } :: ·)

/-- The fields of a sequence of bytes. -/
def decode (bytes : List UInt8) : Option (List Field) :=
  decodeFrom bytes.length bytes

/-- Where the first field of a type begins. -/
def firstOffset (type : UInt16) : List Field → Option Nat
  | [] => none
  | field :: fields =>
      if field.type = type then some 0
      else (firstOffset type fields).map (field.bytes.length + ·)

namespace Field

variable (field : Field) (rest : List UInt8)

@[simp] theorem length_bytes : field.bytes.length = 4 + field.value.length := by
  simp only [bytes, le16Bytes, List.length_append, List.length_cons, List.length_nil]
  omega

theorem le16At_type : le16At (field.bytes ++ rest) 0 = field.type :=
  le16At_le16Bytes field.type _

theorem le16At_length : le16At (field.bytes ++ rest) 2 = UInt16.ofNat field.value.length :=
  le16At_append (le16Bytes field.type) (field.value ++ rest) (UInt16.ofNat field.value.length)

theorem drop_header : (field.bytes ++ rest).drop 4 = field.value ++ rest :=
  rfl

theorem drop_bytes : (field.bytes ++ rest).drop (4 + field.value.length) = rest :=
  List.drop_left' field.length_bytes

theorem byteAt_value {i : Nat} (inside : i < field.value.length) :
    byteAt (field.bytes ++ rest) (4 + i) = byteAt field.value i := by
  have behind := byteAt_append_right (le16Bytes field.type ++
    le16Bytes (UInt16.ofNat field.value.length)) (field.value ++ rest) i
  have value : byteAt (field.value ++ rest) i = byteAt field.value i :=
    List.getD_append _ _ _ _ inside
  rw [List.append_assoc] at behind
  rw [bytes, List.append_assoc, List.append_assoc]
  exact behind.trans value

end Field

@[simp] theorem encode_nil : encode [] = [] :=
  rfl

theorem encode_cons (field : Field) (fields : List Field) :
    encode (field :: fields) = field.bytes ++ encode fields :=
  List.flatMap_cons

theorem firstOffset_eq_none {type : UInt16} {fields : List Field} :
    firstOffset type fields = none ↔ ∀ field ∈ fields, field.type ≠ type := by
  induction fields with
  | nil => simp [firstOffset]
  | cons field fields ih =>
      by_cases wanted : field.type = type
      · simp [firstOffset, wanted]
      · simp [firstOffset, wanted, ih]

/-- The first field of a type has fields of other types in front of it. -/
theorem firstOffset_eq_some {type : UInt16} {fields : List Field} {offset : Nat} :
    firstOffset type fields = some offset ↔
      ∃ front field back, fields = front ++ field :: back ∧ field.type = type ∧
        (∀ other ∈ front, other.type ≠ type) ∧ offset = (encode front).length := by
  induction fields generalizing offset with
  | nil => simp [firstOffset]
  | cons head fields ih =>
      by_cases wanted : head.type = type
      · rw [firstOffset, if_pos wanted]
        constructor
        · rintro ⟨⟩
          exact ⟨[], head, fields, rfl, wanted, by simp, rfl⟩
        · rintro ⟨front, field, back, split, -, others, rfl⟩
          cases front with
          | nil => rfl
          | cons first front =>
              obtain ⟨rfl, -⟩ := List.cons_eq_cons.mp split
              exact absurd wanted (others head List.mem_cons_self)
      · rw [firstOffset, if_neg wanted, Option.map_eq_some_iff]
        constructor
        · rintro ⟨later, found, rfl⟩
          obtain ⟨front, field, back, rfl, same, others, rfl⟩ := ih.mp found
          refine ⟨head :: front, field, back, rfl, same, ?_, ?_⟩
          · intro other member
            rcases List.mem_cons.mp member with rfl | member
            · exact wanted
            · exact others other member
          · rw [encode_cons, List.length_append]
        · rintro ⟨front, field, back, split, same, others, rfl⟩
          cases front with
          | nil =>
              obtain ⟨rfl, -⟩ := List.cons_eq_cons.mp split
              exact absurd same wanted
          | cons first front =>
              obtain ⟨rfl, rfl⟩ := List.cons_eq_cons.mp split
              refine ⟨(encode front).length, ih.mpr ⟨front, field, back, rfl, same, ?_, rfl⟩, ?_⟩
              · exact fun other member => others other (List.mem_cons_of_mem _ member)
              · rw [encode_cons, List.length_append]

/-- A sequence of fields is decoded from its bytes. -/
theorem decodeFrom_encode {fields : List Field} (fits : ∀ field ∈ fields, field.Fits) (fuel : Nat)
    (enough : (encode fields).length ≤ fuel) : decodeFrom fuel (encode fields) = some fields := by
  induction fields generalizing fuel with
  | nil => cases fuel <;> rfl
  | cons field fields ih =>
      rw [encode_cons, List.length_append, field.length_bytes] at enough
      obtain ⟨fuel, rfl⟩ : ∃ less, fuel = less + 1 := ⟨fuel - 1, by omega⟩
      have small : field.value.length < 2 ^ 16 := fits field List.mem_cons_self
      have len : (UInt16.ofNat field.value.length).toNat = field.value.length :=
        UInt16.toNat_ofNat_of_lt' small
      have later := ih (fun field member => fits field (List.mem_cons_of_mem _ member)) fuel
        (by omega)
      obtain ⟨first, others, head⟩ : ∃ first others, encode (field :: fields) = first :: others :=
        ⟨_, _, rfl⟩
      have step : decodeFrom (fuel + 1) (encode (field :: fields)) =
          if (encode (field :: fields)).length <
              4 + (le16At (encode (field :: fields)) 2).toNat then none
          else
            (decodeFrom fuel ((encode (field :: fields)).drop
              (4 + (le16At (encode (field :: fields)) 2).toNat))).map
              ({ type := le16At (encode (field :: fields)) 0
                 value := ((encode (field :: fields)).drop 4).take
                  (le16At (encode (field :: fields)) 2).toNat } :: ·) := by
        rw [head]
        rfl
      rw [step, encode_cons, field.le16At_length, len, field.le16At_type, field.drop_header,
        field.drop_bytes, List.take_left, later, if_neg]
      · rfl
      · rw [List.length_append, field.length_bytes]
        omega

/-- Decoding inverts encoding. -/
theorem decode_encode {fields : List Field} (fits : ∀ field ∈ fields, field.Fits) :
    decode (encode fields) = some fields :=
  decodeFrom_encode fits _ (Nat.le_refl _)

end Tlv
