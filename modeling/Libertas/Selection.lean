import Mathlib.Data.List.MinMax

/-!
# Selection of the first maximum

A loop over a list keeps the best value so far, in an integer that may be too
narrow, and the element that it was found at; a later element has to be better.
Where all values fit, the loop finds `List.argmax`: the first of the elements with
the greatest value. A value that is just too great is kept as 0, and what follows
it is then taken for better.
-/

namespace Selection

variable {α : Type*} {modulus : Nat} {value : α → Nat} {l : List α}

/-- One turn: the best value is kept modulo the range of its integer. -/
def step (modulus : Nat) (value : α → Nat) (best : Nat × Option α) (a : α) : Nat × Option α :=
  if value a ≤ best.1 then best else (value a % modulus, some a)

/-- The loop from 0 and no element. -/
def run (modulus : Nat) (value : α → Nat) (l : List α) : Nat × Option α :=
  l.foldl (step modulus value) (0, none)

/-- A loop that passes over some elements and compares the others is the one over these others. -/
theorem loop_eq {σ : Type*} {read : σ → Nat} {keep : Nat → σ} {fits : α → Bool}
    {loop : List α → σ → Option α → Option α} (kept : ∀ n, read (keep n) = n % modulus)
    (nil : ∀ best found, loop [] best found = found)
    (cons : ∀ a rest best found, loop (a :: rest) best found =
      if fits a = true ∧ read best < value a then loop rest (keep (value a)) (some a)
      else loop rest best found) (l : List α) (best : σ) (found : Option α) :
    loop l best found = ((l.filter fits).foldl (step modulus value) (read best, found)).2 := by
  induction l generalizing best found with
  | nil => exact nil best found
  | cons a rest ih =>
      rw [cons, List.filter_cons]
      by_cases fit : fits a = true
      · rw [if_pos fit, List.foldl_cons, step]
        by_cases better : read best < value a
        · rw [if_pos ⟨fit, better⟩, if_neg (Nat.not_le.mpr better), ih, kept]
        · rw [if_neg fun both => better both.2, if_pos (Nat.not_lt.mp better), ih]
      · rw [if_neg fit, if_neg fun both => fit both.1, ih]

theorem run_append (modulus : Nat) (value : α → Nat) (l rest : List α) :
    run modulus value (l ++ rest) = rest.foldl (step modulus value) (run modulus value l) :=
  List.foldl_append

/-- The loop over values that fit: the greatest one, and the first element that has it. -/
theorem run_eq_argmax (fits : ∀ a ∈ l, 0 < value a ∧ value a < modulus) :
    run modulus value l = (((l.argmax value).map value).getD 0, l.argmax value) := by
  induction l using List.reverseRecOn with
  | nil => rfl
  | append_singleton l a ih =>
      have last := fits a (List.mem_append_right _ (List.mem_singleton_self a))
      have before := ih fun b member => fits b (List.mem_append_left _ member)
      rw [run_append, before, List.argmax_concat, List.foldl_cons, List.foldl_nil]
      cases found : l.argmax value with
      | none =>
          have better : ¬value a ≤ 0 := Nat.not_le.mpr last.1
          simp [step, better, Nat.mod_eq_of_lt last.2]
      | some b =>
          by_cases better : value b < value a
          · simp [step, better, Nat.not_le.mpr better, Nat.mod_eq_of_lt last.2]
          · simp [step, better, Nat.not_lt.mp better]

/-- The loop over further elements keeps what was found or finds one of them. -/
theorem foldl_found (l : List α) (best : Nat × Option α) :
    (l.foldl (step modulus value) best).2 = best.2 ∨
      ∃ a ∈ l, (l.foldl (step modulus value) best).2 = some a := by
  induction l generalizing best with
  | nil => exact .inl rfl
  | cons a rest ih =>
      obtain same | ⟨b, member, found⟩ := ih (step modulus value best a)
      · rw [List.foldl_cons, same, step]
        split
        · exact .inl rfl
        · exact .inr ⟨a, List.mem_cons_self, rfl⟩
      · exact .inr ⟨b, List.mem_cons_of_mem a member, found⟩

/-- The values are at most one too great for the integer. -/
def Within (modulus : Nat) (value : α → Nat) (l : List α) : Prop :=
  ∀ a ∈ l, 0 < value a ∧ value a ≤ modulus

/-- A value that does not fit is only met at the end. -/
def OverflowsLast (modulus : Nat) (value : α → Nat) (l : List α) : Prop :=
  ∀ front a back, l = front ++ a :: back → value a = modulus → back = []

/-- The first value that does not fit is the greatest one. -/
theorem argmax_of_overflow {front back : List α} {a : α}
    (within : Within modulus value (front ++ a :: back)) (wraps : value a = modulus)
    (first : ∀ b ∈ front, value b ≠ modulus) : (front ++ a :: back).argmax value = some a := by
  classical
  have absent : a ∉ front := fun member => first a member wraps
  rw [List.argmax_eq_some_iff]
  refine ⟨by simp, fun b member => ?_, fun b member great => ?_⟩
  · rw [wraps]
    exact (within b member).2
  · have top : value b = modulus := Nat.le_antisymm (within b member).2 (wraps ▸ great)
    have behind : b ∉ front := fun member => first b member top
    rw [List.idxOf_append_of_notMem absent, List.idxOf_append_of_notMem behind,
      List.idxOf_cons_self]
    omega

/-- The loop up to the first value that does not fit. -/
theorem run_first_overflow {front : List α} {a : α}
    (within : Within modulus value (front ++ [a])) (wraps : value a = modulus)
    (first : ∀ b ∈ front, value b ≠ modulus) :
    run modulus value (front ++ [a]) = (0, some a) := by
  have fits : ∀ b ∈ front, 0 < value b ∧ value b < modulus := by
    intro b member
    obtain ⟨positive, most⟩ := within b (List.mem_append_left _ member)
    exact ⟨positive, Nat.lt_of_le_of_ne most (first b member)⟩
  have better : ¬value a ≤ (run modulus value front).1 := by
    obtain ⟨positive, _⟩ := within a (List.mem_append_right _ (List.mem_singleton_self a))
    rw [run_eq_argmax fits, wraps]
    cases found : front.argmax value with
    | none => exact Nat.not_le.mpr (wraps ▸ positive)
    | some b => exact Nat.not_le.mpr (fits b (List.argmax_mem found)).2
  rw [run_append, List.foldl_cons, List.foldl_nil, step, if_neg better, wraps, Nat.mod_self]

/-- What is found behind a value that does not fit is a later element. -/
theorem run_behind_overflow {front rest : List α} {a b : α}
    (within : Within modulus value (front ++ a :: b :: rest)) (wraps : value a = modulus)
    (first : ∀ c ∈ front, value c ≠ modulus) :
    ∃ c ∈ b :: rest, (run modulus value (front ++ a :: b :: rest)).2 = some c := by
  have split : front ++ a :: b :: rest = (front ++ [a]) ++ b :: rest := by simp
  rw [split] at within ⊢
  have start := run_first_overflow
    (fun c member => within c (List.mem_append_left _ member)) wraps first
  have better : ¬value b ≤ 0 :=
    Nat.not_le.mpr (within b (List.mem_append_right _ List.mem_cons_self)).1
  rw [run_append, start, List.foldl_cons, step, if_neg better]
  obtain same | ⟨c, member, found⟩ := foldl_found rest (value b % modulus, some b)
  · exact ⟨b, List.mem_cons_self, same⟩
  · exact ⟨c, List.mem_cons_of_mem b member, found⟩

/-- The first value that does not fit. -/
theorem exists_first_overflow {a : α} (member : a ∈ l) (wraps : value a = modulus) :
    ∃ front b back, l = front ++ b :: back ∧ value b = modulus ∧
      ∀ c ∈ front, value c ≠ modulus := by
  have some : (l.find? fun b => value b = modulus).isSome := by
    rw [List.find?_isSome]
    exact ⟨a, member, by simpa using wraps⟩
  obtain ⟨b, found⟩ := Option.isSome_iff_exists.mp some
  obtain ⟨top, front, back, split, first⟩ := List.find?_eq_some_iff_append.mp found
  exact ⟨front, b, back, split, by simpa using top, fun c inFront => by simpa using first c inFront⟩

/-- The loop finds the first maximum exactly if a value that does not fit is only met at the end. -/
theorem run_eq_argmax_iff (within : Within modulus value l) (distinct : l.Nodup) :
    (run modulus value l).2 = l.argmax value ↔ OverflowsLast modulus value l := by
  by_cases fits : ∀ a ∈ l, value a ≠ modulus
  · have exact : run modulus value l = _ := run_eq_argmax fun a member =>
      ⟨(within a member).1, Nat.lt_of_le_of_ne (within a member).2 (fits a member)⟩
    rw [exact]
    apply iff_of_true rfl
    rintro front a back rfl wraps
    exact absurd wraps (fits a (by simp))
  · obtain ⟨a, fails⟩ := not_forall.mp fits
    obtain ⟨member, wraps⟩ := Classical.not_imp.mp fails
    obtain ⟨front, a, back, rfl, wraps, first⟩ := exists_first_overflow member (not_not.mp wraps)
    cases back with
    | nil =>
        rw [run_first_overflow within wraps first, argmax_of_overflow within wraps first]
        apply iff_of_true rfl
        intro front' b back split top
        by_contra more
        have inFront : b ∈ front := by
          have shorter := congrArg List.dropLast split
          rw [List.dropLast_concat, List.dropLast_append_of_ne_nil (List.cons_ne_nil _ _),
            List.dropLast_cons_of_ne_nil more] at shorter
          rw [shorter]
          simp
        exact first b inFront top
    | cons b rest =>
        obtain ⟨c, later, found⟩ := run_behind_overflow within wraps first
        rw [found, argmax_of_overflow within wraps first]
        refine iff_of_false ?_ fun last => absurd (last front a (b :: rest) rfl wraps) nofun
        rintro ⟨rfl⟩
        have apart := (List.nodup_append.mp distinct).2.1
        exact (List.nodup_cons.mp apart).1 later

end Selection
