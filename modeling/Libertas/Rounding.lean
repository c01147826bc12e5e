import Mathlib.Algebra.Order.Floor.Div

/-!
# Rounding sizes up

`roundUp step size` is the least multiple of `step` that is not below `size`.
Code computes it as `(size + step - 1) / step * step` in machine integers, where
the sum may wrap; `roundUp` is the number that it is meant to compute.
-/

/-- The least multiple of a step that is not below a size. -/
def roundUp (step size : Nat) : Nat :=
  step * (size ⌈/⌉ step)

section RoundUp

variable {step size bound : Nat}

/-- The expression in which code rounds up. -/
theorem roundUp_eq (step size : Nat) : roundUp step size = (size + step - 1) / step * step := by
  rw [roundUp, Nat.ceilDiv_eq_add_pred_div, Nat.mul_comm]

theorem dvd_roundUp (step size : Nat) : step ∣ roundUp step size :=
  Dvd.intro _ rfl

theorem le_roundUp (positive : 0 < step) : size ≤ roundUp step size := by
  have least := le_smul_ceilDiv (b := size) positive
  rwa [smul_eq_mul] at least

/-- No multiple of the step lies between a size and what it is rounded to. -/
theorem roundUp_le (positive : 0 < step) (multiple : step ∣ bound) (above : size ≤ bound) :
    roundUp step size ≤ bound := by
  obtain ⟨count, rfl⟩ := multiple
  exact Nat.mul_le_mul_left step ((ceilDiv_le_iff_le_mul positive).mpr above)

theorem roundUp_lt (positive : 0 < step) (size : Nat) : roundUp step size < size + step := by
  rw [roundUp_eq]
  have floor := Nat.div_mul_le_self (size + step - 1) step
  omega

theorem roundUp_of_dvd (positive : 0 < step) (multiple : step ∣ size) : roundUp step size = size :=
  Nat.le_antisymm (roundUp_le positive multiple (Nat.le_refl size)) (le_roundUp positive)

/-- The next multiple of a smaller step is a multiple of the size for the size itself only. -/
theorem dvd_roundUp_iff (positive : 0 < step) (large : step ≤ size) :
    size ∣ roundUp step size ↔ step ∣ size := by
  have above : size ≤ roundUp step size := le_roundUp positive
  constructor
  · intro whole
    have rest : size ∣ roundUp step size - size := Nat.dvd_sub whole (Nat.dvd_refl size)
    have below := roundUp_lt positive size
    have none := Nat.eq_zero_of_dvd_of_lt rest (by omega)
    have same : roundUp step size = size := by omega
    exact same ▸ dvd_roundUp step size
  · intro multiple
    rw [roundUp_of_dvd positive multiple]

end RoundUp
