import Mathlib.Algebra.Order.Ring.Int
import Mathlib.Algebra.BigOperators.Group.List.Basic

/-!
# Streams that skip what does not fit

A writer appends items to a buffer and leaves out, without a sign, those that do not
fit. `Fills` relates the items that were meant to be written with those that were:
either all of them were, and their end is below the end of the buffer, or less was
written, and no more than `slack` bytes were left.
-/

namespace Stream

variable {ι : Type*} (size : ι → Nat)

/-- The number of bytes of a list of items. -/
def total (items : List ι) : Nat :=
  (items.map size).sum

@[simp] theorem total_nil : total size [] = 0 := rfl

@[simp] theorem total_singleton (item : ι) : total size [item] = size item := by
  simp [total]

@[simp] theorem total_append (front back : List ι) :
    total size (front ++ back) = total size front + total size back := by
  simp [total]

/-- What was written of the items that were meant, from a position on in front of an end. -/
inductive Fills (slack stop start : Nat) (items out : List ι) : Prop
  | whole (same : out = items) (room : items ≠ [] → start + total size items < stop)
  | short (long : stop ≤ start + total size items) (less : total size out < total size items)
      (full : stop ≤ start + total size out + slack)

namespace Fills

variable {size} {slack stop start : Nat} {items items' out out' : List ι} {item : ι}

theorem nil : Fills size slack stop start [] [] :=
  .whole rfl fun some => absurd rfl some

/-- An item that is left out if it does not fit. -/
theorem single (bound : size item ≤ slack) (positive : 0 < size item) :
    Fills size slack stop start [item] (if start + size item < stop then [item] else []) := by
  split
  · rename_i fits
    exact .whole rfl fun _ => by simpa using fits
  · rename_i long
    refine .short ?_ ?_ ?_
    · simpa using Nat.not_lt.mp long
    · simpa using positive
    · rw [total_nil]
      omega

theorem total_le (fills : Fills size slack stop start items out) :
    total size out ≤ total size items := by
  cases fills with
  | whole same _ => exact Nat.le_of_eq (congrArg _ same)
  | short _ less _ => exact Nat.le_of_lt less

/-- With more room left than the slack, nothing was left out. -/
theorem eq_of_room (fills : Fills size slack stop start items out)
    (room : start + total size out + slack < stop) : out = items := by
  cases fills with
  | whole same _ => exact same
  | short _ _ full => omega

/-- One list of items after another. -/
theorem append (first : Fills size slack stop start items out)
    (second : Fills size slack stop (start + total size out) items' out') :
    Fills size slack stop start (items ++ items') (out ++ out') := by
  have noMore := second.total_le
  cases first with
  | whole same room =>
      subst same
      cases second with
      | whole same' room' =>
          subst same'
          refine .whole rfl fun some => ?_
          rw [total_append]
          by_cases none : out' = []
          · subst none
            rw [List.append_nil] at some
            simpa using room some
          · have fits := room' none
            omega
      | short long less full =>
          refine .short ?_ ?_ ?_ <;> simp only [total_append] <;> omega
  | short long less full =>
      refine .short ?_ ?_ ?_ <;> simp only [total_append] <;> omega

/-- Everything was written exactly if the end of it is below the end of the buffer. -/
theorem eq_iff (fills : Fills size slack stop start items out) :
    out = items ↔ items = [] ∨ start + total size items < stop := by
  cases fills with
  | whole same room =>
      apply iff_of_true same
      by_cases none : items = []
      · exact .inl none
      · exact .inr (room none)
  | short long less _ =>
      refine iff_of_false ?_ ?_
      · rintro rfl
        omega
      · rintro (rfl | fits)
        · rw [total_nil] at less
          omega
        · omega

end Fills

end Stream
