import Mathlib.Data.List.DropRight
import Mathlib.Data.List.Rotate

/-!
# The last values in a ring

A ring of `slots.length` places takes one value after another, each at the index
behind the last one. `InRing slots history` says that the places hold the last
values of a history. What is kept is not the order of these values but the values:
up to a permutation, the places in use are the end of the history.
-/

/-- The last values of a history stand in a ring at their numbers modulo its length. -/
def InRing {α : Type*} (slots history : List α) : Prop :=
  ∀ i, i < history.length → history.length ≤ i + slots.length →
    slots[i % slots.length]? = history[i]?

namespace InRing

variable {α : Type*} {slots history : List α}

theorem nil (slots : List α) : InRing slots [] :=
  fun _ below => absurd below (Nat.not_lt_zero _)

/-- A value is stored behind the last one. -/
theorem push (held : InRing slots history) (room : 0 < slots.length) (value : α) :
    InRing (slots.set (history.length % slots.length) value) (history ++ [value]) := by
  intro i below recent
  rw [List.length_set] at recent ⊢
  rw [List.length_append, List.length_singleton] at below recent
  have place := Nat.mod_lt history.length room
  by_cases last : i = history.length
  · rw [last, List.getElem?_set_self place, List.getElem?_append_right (Nat.le_refl _),
      Nat.sub_self, List.getElem?_cons_zero]
  · have earlier : i < history.length := by omega
    have apart : history.length % slots.length ≠ i % slots.length := by
      intro same
      have whole := Nat.sub_mod_eq_zero_of_mod_eq same
      rw [Nat.mod_eq_of_lt (by omega)] at whole
      omega
    rw [List.getElem?_set_ne apart, List.getElem?_append_left earlier]
    exact held i earlier (by omega)

/-- The places in use hold the end of the history. -/
theorem perm (held : InRing slots history) :
    (slots.take (min history.length slots.length)).Perm (history.rtake slots.length) := by
  by_cases short : history.length ≤ slots.length
  · have whole : slots.take history.length = history := by
      apply List.ext_getElem?
      intro i
      by_cases below : i < history.length
      · rw [List.getElem?_take_of_lt below, ← held i below (by omega),
          Nat.mod_eq_of_lt (by omega)]
      · rw [List.getElem?_eq_none (by rw [List.length_take]; omega),
          List.getElem?_eq_none (by omega)]
    rw [Nat.min_eq_left short, whole, List.rtake, Nat.sub_eq_zero_of_le short, List.drop_zero]
  · have turned : slots.rotate (history.length - slots.length) = history.rtake slots.length := by
      apply List.ext_getElem?
      intro i
      rw [List.rtake, List.getElem?_drop]
      by_cases below : i < slots.length
      · rw [List.getElem?_rotate below, Nat.add_comm i]
        exact held _ (by omega) (by omega)
      · rw [List.getElem?_eq_none (by rw [List.length_rotate]; omega),
          List.getElem?_eq_none (by omega)]
    rw [Nat.min_eq_right (by omega), List.take_length, ← turned]
    exact (List.rotate_perm _ _).symm

end InRing
