import Mathlib.Data.List.Basic

/-!
# Bits of a register under a mask

A register is changed by setting and clearing groups of bits. `Same mask` says
that two values agree in the bits of a mask. A change of other bits keeps it, and
a change that keeps its own bits is no change at all.
-/

namespace Bits

/-- Two values have the same bits under a mask. -/
def Same (mask v w : UInt16) : Prop :=
  v &&& mask = w &&& mask

instance (mask v w : UInt16) : Decidable (Same mask v w) := by
  unfold Same
  infer_instance

variable {mask bits v w : UInt16}

theorem ext_bits (same : ∀ i < 16, v.toBitVec.getLsbD i = w.toBitVec.getLsbD i) : v = w :=
  UInt16.toBitVec_inj.mp (BitVec.eq_of_getLsbD_eq fun i below => same i below)

theorem bit_of_eq (same : v = w) (i : Nat) : v.toBitVec.getLsbD i = w.toBitVec.getLsbD i := by
  rw [same]

theorem bit_of_apart (apart : bits &&& mask = 0) (i : Nat) :
    (bits.toBitVec.getLsbD i && mask.toBitVec.getLsbD i) = false := by
  rw [← BitVec.getLsbD_and, ← UInt16.toBitVec_and, apart]
  exact BitVec.getLsbD_zero

theorem Same.symm (same : Same mask v w) : Same mask w v :=
  Eq.symm same

theorem Same.trans {u : UInt16} (first : Same mask u v) (second : Same mask v w) :
    Same mask u w :=
  Eq.trans first second

/-- What holds under a mask holds under each part of it. -/
theorem Same.mono (same : Same mask v w) (part : bits &&& mask = bits) : Same bits v w := by
  have within : ∀ u : UInt16, u &&& bits = u &&& mask &&& bits := by
    intro u
    rw [UInt16.and_assoc, UInt16.and_comm mask bits, part]
  rw [Same]
  rw [within v, within w, same]

/-- Other bits are set. -/
theorem same_set (apart : bits &&& mask = 0) : Same mask (v ||| bits) v := by
  apply ext_bits
  intro i _
  have none := bit_of_apart apart i
  simp only [UInt16.toBitVec_and, UInt16.toBitVec_or, BitVec.getLsbD_and, BitVec.getLsbD_or]
  grind

/-- Other bits are cleared. -/
theorem same_clear (apart : bits &&& mask = 0) : Same mask (v &&& ~~~bits) v := by
  apply ext_bits
  intro i _
  have none := bit_of_apart apart i
  simp only [UInt16.toBitVec_and, UInt16.toBitVec_not, BitVec.getLsbD_and, BitVec.getLsbD_not]
  grind

/-- All bits of a mask are replaced: some are set, the others cleared. -/
theorem set_clear (within : v &&& mask = v) (apart : v &&& bits = 0) (whole : v ||| bits = mask) :
    (w ||| v) &&& ~~~bits &&& mask = v := by
  apply ext_bits
  intro i _
  have inside := bit_of_eq within i
  have none := bit_of_apart apart i
  have all := bit_of_eq whole i
  simp only [UInt16.toBitVec_and, UInt16.toBitVec_or, UInt16.toBitVec_not, BitVec.getLsbD_and,
    BitVec.getLsbD_or, BitVec.getLsbD_not] at inside none all ⊢
  grind

/-- All bits of a mask are cleared, in two groups. -/
theorem clear_clear (whole : v ||| bits = mask) : w &&& ~~~v &&& ~~~bits &&& mask = 0 := by
  apply ext_bits
  intro i _
  have all := bit_of_eq whole i
  simp only [UInt16.toBitVec_and, UInt16.toBitVec_or, UInt16.toBitVec_not, BitVec.getLsbD_and,
    BitVec.getLsbD_or, BitVec.getLsbD_not, UInt16.toBitVec_zero, BitVec.getLsbD_zero] at all ⊢
  grind

/-- The bits that are set, and those that are cleared. -/
theorem set_own : (v ||| bits) &&& bits = bits := by
  apply ext_bits
  intro i _
  simp only [UInt16.toBitVec_and, UInt16.toBitVec_or, BitVec.getLsbD_and, BitVec.getLsbD_or]
  grind

theorem clear_own : v &&& ~~~bits &&& bits = 0 := by
  apply ext_bits
  intro i _
  simp only [UInt16.toBitVec_and, UInt16.toBitVec_not, BitVec.getLsbD_and, BitVec.getLsbD_not,
    UInt16.toBitVec_zero, BitVec.getLsbD_zero]
  grind

/-- Bits are set that were set. -/
theorem set_eq_self (same : Same bits (v ||| bits) v) : v ||| bits = v := by
  apply ext_bits
  intro i _
  have bit := bit_of_eq same i
  simp only [UInt16.toBitVec_and, UInt16.toBitVec_or, BitVec.getLsbD_and, BitVec.getLsbD_or]
    at bit ⊢
  grind

/-- Bits are cleared that were clear. -/
theorem clear_eq_self (same : Same bits (v &&& ~~~bits) v) : v &&& ~~~bits = v := by
  apply ext_bits
  intro i _
  have bit := bit_of_eq same i
  simp only [UInt16.toBitVec_and, UInt16.toBitVec_not, BitVec.getLsbD_and, BitVec.getLsbD_not]
    at bit ⊢
  grind

end Bits
