import Libertas.ByteOrder
import Libertas.Transition.Loop

/-!
# The search in event subscriptions

The reply to a query of the event subscriptions carries a sequence of
type-length-value elements, in which `lbs_tlv_find` looks for a type. It takes the
length of each element from the reply and trusts it.

The search runs over the memory from the elements on; `size` is the number of
bytes that belong to them.
-/

namespace Libertas

open ByteOrder

/-- `sizeof(struct mrvlietypesheader)`. -/
def tlvHeaderSize : Nat := 4

section Search

variable (tlvType : UInt16) (tlv : Nat → UInt8) (size : UInt16)

/-- The fields of the header at a position. -/
def tlvTypeAt (pos : Nat) : UInt16 := le16At [tlv pos, tlv (pos + 1)] 0
def tlvLenAt (pos : Nat) : UInt16 := le16At [tlv (pos + 2), tlv (pos + 3)] 0

/-- `length`, a 16-bit sum. -/
def tlvAdvance (pos : Nat) : UInt16 :=
  tlvLenAt tlv pos + UInt16.ofNat tlvHeaderSize

/-- What an iteration decides. -/
inductive TlvVerdict
  /-- `NULL` is returned. -/
  | missing
  /-- The address of the element is returned. -/
  | found
  /-- The next element is looked at. -/
  | skip
deriving DecidableEq, Repr

/-- The body of the loop in `lbs_tlv_find`. -/
def tlvVerdict (pos : Nat) : TlvVerdict :=
  if size.toNat ≤ pos then .missing
  else if tlvLenAt tlv pos = 0 then .missing
  else if tlvTypeAt tlv pos = tlvType then .found
  else .skip

/-- One iteration. The loop is over when the function returns. -/
def tlvFindStep (pos : Nat) : Option Nat :=
  match tlvVerdict tlvType tlv size pos with
  | .skip => some (pos + (tlvAdvance tlv pos).toNat)
  | _ => none

/-- The bytes that an iteration examines: the length, and behind it the type. -/
def tlvFindReads (pos : Nat) : List Nat :=
  if size.toNat ≤ pos then []
  else if tlvLenAt tlv pos = 0 then [pos + 2, pos + 3]
  else [pos + 2, pos + 3, pos, pos + 1]

/-- `lbs_tlv_find` with a bound on the number of iterations: the position of the element, if there
is one. -/
def lbsTlvFind (fuel : Nat) : Option (Option Nat) :=
  (Loop.iterate (tlvFindStep tlvType tlv size) fuel 0).map fun pos =>
    if tlvVerdict tlvType tlv size pos = .found then some pos else none

/-- `lbs_tlv_find` returns. -/
def TlvFindReturns : Prop :=
  ∃ fuel result, lbsTlvFind tlvType tlv size fuel = some result

/-- `lbs_tlv_find` examines a byte. -/
def TlvFindExamines (i : Nat) : Prop :=
  ∃ pos, Loop.Visits (tlvFindStep tlvType tlv size) 0 pos ∧ i ∈ tlvFindReads tlv size pos

/-- The elements in front of a match or an end: the first one is at the start, and behind an
element with a length and another type there is the next one. -/
inductive ElementAt : Nat → Prop
  | first : ElementAt 0
  | behind {pos} : ElementAt pos → pos < size.toNat → tlvLenAt tlv pos ≠ 0 →
      tlvTypeAt tlv pos ≠ tlvType → ElementAt (pos + (tlvAdvance tlv pos).toNat)

/-- Every element that begins in the reply has its whole header there, and a length that the
16-bit sum does not turn into zero. -/
def ElementsFit : Prop :=
  ∀ pos, ElementAt tlvType tlv size pos → pos < size.toNat →
    pos + tlvHeaderSize ≤ size.toNat ∧
      (tlvTypeAt tlv pos ≠ tlvType → tlvLenAt tlv pos ≠ 65532)

end Search

section Safety

variable {tlvType : UInt16} {tlv : Nat → UInt8} {size : UInt16} {pos : Nat}

theorem tlvFindStep_eq_some {next : Nat} : tlvFindStep tlvType tlv size pos = some next ↔
    pos < size.toNat ∧ tlvLenAt tlv pos ≠ 0 ∧ tlvTypeAt tlv pos ≠ tlvType ∧
      next = pos + (tlvAdvance tlv pos).toNat := by
  rw [tlvFindStep, tlvVerdict]
  by_cases inside : pos < size.toNat
  · rw [if_neg (Nat.not_le.mpr inside)]
    by_cases empty : tlvLenAt tlv pos = 0
    · simp [empty]
    · by_cases wanted : tlvTypeAt tlv pos = tlvType
      · simp [empty, wanted]
      · simp [inside, empty, wanted, eq_comm]
  · rw [if_pos (Nat.not_lt.mp inside)]
    simp [inside]

/-- The search looks at the elements, one after the other. -/
theorem visits_iff_elementAt :
    Loop.Visits (tlvFindStep tlvType tlv size) 0 pos ↔ ElementAt tlvType tlv size pos := by
  constructor
  · intro visits
    induction visits with
    | start => exact .first
    | next _ step ih =>
        obtain ⟨inside, filled, other, rfl⟩ := tlvFindStep_eq_some.mp step
        exact .behind ih inside filled other
  · intro element
    induction element with
    | first => exact .start
    | behind _ inside filled other ih =>
        exact .next ih (tlvFindStep_eq_some.mpr ⟨inside, filled, other, rfl⟩)

theorem tlvFindReturns_iff :
    TlvFindReturns tlvType tlv size ↔ Loop.Terminates (tlvFindStep tlvType tlv size) 0 := by
  unfold TlvFindReturns Loop.Terminates lbsTlvFind
  simp

/-- The sum is only zero for the length that wraps it around. -/
theorem tlvAdvance_eq_zero : (tlvAdvance tlv pos).toNat = 0 ↔ tlvLenAt tlv pos = 65532 := by
  have bound := (tlvLenAt tlv pos).toNat_lt
  rw [← UInt16.toNat_inj, tlvAdvance, UInt16.toNat_add]
  show ((tlvLenAt tlv pos).toNat + 4) % 2 ^ 16 = 0 ↔ (tlvLenAt tlv pos).toNat = 65532
  omega

/-- The last byte of the header at a position before the end is examined. -/
theorem mem_tlvFindReads (inside : pos < size.toNat) : pos + 3 ∈ tlvFindReads tlv size pos := by
  rw [tlvFindReads]
  rw [if_neg (Nat.not_le.mpr inside)]
  split <;> simp

theorem lt_of_mem_tlvFindReads {i : Nat} (read : i ∈ tlvFindReads tlv size pos) :
    pos < size.toNat ∧ i < pos + tlvHeaderSize := by
  rw [tlvFindReads] at read
  have four : tlvHeaderSize = 4 := rfl
  split at read
  · cases read
  · split at read <;> simp at read <;> omega

theorem ElementsFit.returns (fit : ElementsFit tlvType tlv size) :
    TlvFindReturns tlvType tlv size := by
  rw [tlvFindReturns_iff]
  -- Every element that is passed brings the search closer to the end.
  apply Loop.terminates_of_variant fun pos => size.toNat - pos
  intro pos next visits step
  obtain ⟨inside, filled, other, rfl⟩ := tlvFindStep_eq_some.mp step
  have moves := mt tlvAdvance_eq_zero.mp
    ((fit pos (visits_iff_elementAt.mp visits) inside).2 other)
  omega

theorem ElementsFit.examines (fit : ElementsFit tlvType tlv size) {i : Nat}
    (examined : TlvFindExamines tlvType tlv size i) : i < size.toNat := by
  obtain ⟨pos, visits, read⟩ := examined
  obtain ⟨inside, near⟩ := lt_of_mem_tlvFindReads read
  have whole := (fit pos (visits_iff_elementAt.mp visits) inside).1
  omega

theorem elementsFit_of_safe (returns : TlvFindReturns tlvType tlv size)
    (inside : ∀ i, TlvFindExamines tlvType tlv size i → i < size.toNat) :
    ElementsFit tlvType tlv size := by
  intro pos element before
  have visits := visits_iff_elementAt.mpr element
  constructor
  · have last := inside (pos + 3) ⟨pos, visits, mem_tlvFindReads before⟩
    exact last
  · intro other wraps
    have stuck : tlvFindStep tlvType tlv size pos = some pos := by
      rw [tlvFindStep_eq_some]
      refine ⟨before, by rw [wraps]; decide, other, ?_⟩
      rw [tlvAdvance_eq_zero.mpr wraps]
      rfl
    exact Loop.not_terminates_of_stuck stuck (visits.terminates.mp (tlvFindReturns_iff.mp returns))

end Safety

/-- `lbs_tlv_find` returns and examines no byte behind the elements if and only if the elements
fit. -/
theorem tlv_find_safe_iff (tlvType : UInt16) (tlv : Nat → UInt8) (size : UInt16) :
    (TlvFindReturns tlvType tlv size ∧ ∀ i, TlvFindExamines tlvType tlv size i → i < size.toNat) ↔
      ElementsFit tlvType tlv size :=
  ⟨fun safe => elementsFit_of_safe safe.1 safe.2, fun fit => ⟨fit.returns, fun _ => fit.examines⟩⟩

/-- An element of another type, with a length field and zeros behind it. -/
def tlvReply (low high : UInt8) : Nat → UInt8 := fun i =>
  [0x05, 0x01, low, high].getD i 0

/-- For the length 65532 the search does not return, and for the length 122 it looks for an element
in the last two bytes of the reply. -/
theorem tlv_find_leaves_reply :
    ¬ TlvFindReturns 0x0104 (tlvReply 0xfc 0xff) 128 ∧
      TlvFindExamines 0x0104 (tlvReply 122 0) 128 129 := by
  constructor
  · rw [tlvFindReturns_iff]
    exact Loop.not_terminates_of_stuck (by decide)
  · exact ⟨126, .next .start (by decide), by decide⟩

end Libertas
