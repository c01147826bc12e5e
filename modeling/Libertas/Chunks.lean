import Mathlib.Data.List.Basic

/-!
# Chunks of a list

`chunksOf n` cuts a list into chunks of `n` elements; the last one may be shorter.
Its recursion is the one of a loop that takes some elements off the list in each
iteration.
-/

namespace Chunks

universe u

variable {α : Type u}

/-- The list in chunks of `n` elements, or of one if `n` is zero. -/
def chunksOf (n : Nat) : List α → List (List α)
  | [] => []
  | a :: rest => (a :: rest.take (n - 1)) :: chunksOf n (rest.drop (n - 1))
termination_by list => list.length
decreasing_by
  rw [List.length_drop, List.length_cons]
  omega

@[simp] theorem chunksOf_nil (n : Nat) : chunksOf n ([] : List α) = [] := by
  rw [chunksOf]

/-- The first chunk, and the chunks of the rest. -/
theorem chunksOf_of_ne_nil {n : Nat} (pos : 0 < n) {list : List α} (some_left : list ≠ []) :
    chunksOf n list = list.take n :: chunksOf n (list.drop n) := by
  cases list with
  | nil => exact absurd rfl some_left
  | cons a rest =>
      obtain ⟨k, rfl⟩ : ∃ k, n = k + 1 := ⟨n - 1, by omega⟩
      rw [chunksOf]
      rfl

/-- The chunks in order are the list. -/
theorem flatten_chunksOf (n : Nat) (list : List α) : (chunksOf n list).flatten = list := by
  induction list using chunksOf.induct n with
  | case1 => simp
  | case2 a rest ih =>
      rw [chunksOf, List.flatten_cons, ih, List.cons_append, List.take_append_drop]

theorem length_of_mem_chunksOf {n : Nat} (pos : 0 < n) {list chunk : List α}
    (member : chunk ∈ chunksOf n list) : 1 ≤ chunk.length ∧ chunk.length ≤ n := by
  induction list using chunksOf.induct n with
  | case1 => simp at member
  | case2 a rest ih =>
      rw [chunksOf] at member
      rcases List.mem_cons.mp member with rfl | later
      · rw [List.length_cons, List.length_take]
        omega
      · exact ih later

end Chunks
