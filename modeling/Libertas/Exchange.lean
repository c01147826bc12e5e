import Mathlib.Data.List.Perm.Basic
import Mathlib.Order.Lattice

/-!
# Sorting by exchange

For each place of an array the elements behind it are walked once, and one with a
smaller key changes places with the element that is there. `pass` is the walk for one
place and `sort` goes through the places. The keys need not be different.
-/

universe u v

namespace Exchange

variable {α : Type u} {κ : Type v} [LinearOrder κ] (key : α → κ)

/-- The walk for one place: what is left there, and what is left behind it. -/
def pass (x : α) : List α → α × List α
  | [] => (x, [])
  | y :: rest =>
      if key y < key x then ((pass y rest).1, x :: (pass y rest).2)
      else ((pass x rest).1, y :: (pass x rest).2)

/-- The walks for a number of places. -/
def sort : Nat → List α → List α
  | 0, xs => xs
  | _ + 1, [] => []
  | places + 1, x :: xs => (pass key x xs).1 :: sort places (pass key x xs).2

variable {key} {x y : α} {xs rest : List α}

theorem pass_of_lt (less : key y < key x) :
    pass key x (y :: rest) = ((pass key y rest).1, x :: (pass key y rest).2) :=
  if_pos less

theorem pass_of_le (le : key x ≤ key y) :
    pass key x (y :: rest) = ((pass key x rest).1, y :: (pass key x rest).2) :=
  if_neg (not_lt.mpr le)

/-- A walk only exchanges. -/
theorem pass_perm (x : α) (xs : List α) :
    List.Perm ((pass key x xs).1 :: (pass key x xs).2) (x :: xs) := by
  induction xs generalizing x with
  | nil => exact .refl _
  | cons y rest ih =>
      rcases lt_or_ge (key y) (key x) with less | le
      · rw [pass_of_lt less]
        exact (List.Perm.swap x _ _).trans ((ih y).cons x)
      · rw [pass_of_le le]
        exact (List.Perm.swap y _ _).trans (((ih x).cons y).trans (List.Perm.swap x y rest))

/-- No key is smaller than the one that a walk leaves at its place. -/
theorem pass_le (x : α) (xs : List α) : ∀ z ∈ x :: xs, key (pass key x xs).1 ≤ key z := by
  induction xs generalizing x with
  | nil =>
      intro z mem
      rw [List.mem_singleton.mp mem]
      exact le_refl _
  | cons y rest ih =>
      intro z mem
      rcases lt_or_ge (key y) (key x) with less | le
      · rw [pass_of_lt less]
        rcases List.mem_cons.mp mem with rfl | behind
        · exact (ih y y List.mem_cons_self).trans less.le
        · exact ih y z behind
      · rw [pass_of_le le]
        rcases List.mem_cons.mp mem with rfl | behind
        · exact ih z z List.mem_cons_self
        · rcases List.mem_cons.mp behind with rfl | later
          · exact (ih x x List.mem_cons_self).trans le
          · exact ih x z (List.mem_cons_of_mem _ later)

theorem sort_perm (places : Nat) (xs : List α) : List.Perm (sort key places xs) xs := by
  induction places generalizing xs with
  | zero => exact .refl _
  | succ places ih =>
      cases xs with
      | nil => exact .refl _
      | cons x xs => exact ((ih _).cons _).trans (pass_perm x xs)

/-- With a walk for each place the keys ascend. -/
theorem sort_sorted {places : Nat} (enough : xs.length ≤ places) :
    (sort key places xs).Pairwise fun a b => key a ≤ key b := by
  induction places generalizing xs with
  | zero =>
      rw [List.length_eq_zero_iff.mp (Nat.le_zero.mp enough)]
      exact .nil
  | succ places ih =>
      cases xs with
      | nil => exact .nil
      | cons x xs =>
          have length : ((pass key x xs).1 :: (pass key x xs).2).length = (x :: xs).length :=
            (pass_perm x xs).length_eq
          rw [List.length_cons, List.length_cons] at length
          rw [List.length_cons] at enough
          refine .cons (fun z mem => ?_) (ih (by omega))
          have behind : z ∈ (pass key x xs).2 := (sort_perm places _).mem_iff.mp mem
          exact pass_le x xs z ((pass_perm x xs).mem_iff.mp (List.mem_cons_of_mem _ behind))

end Exchange
