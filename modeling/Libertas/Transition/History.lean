import Mathlib.Data.List.TakeWhile

/-!
# Logs of a run

A log lists what happened, newest entry first. Some entries open an episode.
`since` are the entries of the episode that is still open, `opener` is the entry
that opened it, and `Throughout` says that every entry was right when it was
written, given the entries before it.
-/

namespace History

universe u

variable {α : Type u} {opens : α → Bool} {log between before : List α} {entry opening : α}

/-- The entries since the last one that opens an episode. -/
def since (opens : α → Bool) (log : List α) : List α :=
  log.takeWhile fun entry => !opens entry

/-- The last entry that opens an episode. -/
def opener (opens : α → Bool) (log : List α) : Option α :=
  log.find? opens

@[simp] theorem since_nil : since opens [] = [] := rfl

@[simp] theorem opener_nil : opener opens [] = none := rfl

@[simp] theorem since_cons_of_opens (opened : opens entry = true) :
    since opens (entry :: log) = [] := by
  simp [since, opened]

@[simp] theorem since_cons_of_not (closed : opens entry = false) :
    since opens (entry :: log) = entry :: since opens log := by
  simp [since, closed]

@[simp] theorem opener_cons_of_opens (opened : opens entry = true) :
    opener opens (entry :: log) = some entry := by
  simp [opener, opened]

@[simp] theorem opener_cons_of_not (closed : opens entry = false) :
    opener opens (entry :: log) = opener opens log := by
  simp [opener, closed]

/-- An episode that is written out is the one that is open. -/
theorem since_of_split (split : log = between ++ opening :: before)
    (opened : opens opening = true) (closed : ∀ entry ∈ between, opens entry = false) :
    since opens log = between ∧ opener opens log = some opening := by
  subst split
  induction between with
  | nil => exact ⟨since_cons_of_opens opened, opener_cons_of_opens opened⟩
  | cons entry rest ih =>
      have first := closed entry List.mem_cons_self
      obtain ⟨same, found⟩ := ih fun other member =>
        closed other (List.mem_cons_of_mem entry member)
      refine ⟨?_, ?_⟩
      · rw [List.cons_append, since_cons_of_not first, same]
      · rw [List.cons_append, opener_cons_of_not first, found]

/-- Every entry is right, given the entries before it. -/
def Throughout (Right : α → List α → Prop) (log : List α) : Prop :=
  ∀ later entry before, log = later ++ entry :: before → Right entry before

variable {Right : α → List α → Prop}

theorem Throughout.nil : Throughout Right [] := by
  intro later entry before split
  cases later <;> cases split

/-- A log stays right when the new entry is. -/
theorem Throughout.cons (right : Throughout Right log) (new : Right entry log) :
    Throughout Right (entry :: log) := by
  intro later other before split
  cases later with
  | nil =>
      cases split
      exact new
  | cons first later =>
      obtain ⟨-, rest⟩ := List.cons.inj split
      exact right later other before rest

end History
