import Mathlib.Data.List.Perm.Subperm
import Mathlib.Data.List.Nodup

/-!
# Slots in use and free slots

A fixed set of slots is divided between two lists, the slots in use and the free
ones. `SlotPartition` says that every slot is on exactly one of the lists, and once.
Slots move between the lists one at a time, and each move has its rule.
-/

universe u

variable {Slot : Type u}

/-- Every slot is on exactly one of the two lists, and only once. -/
structure SlotPartition (used free : List Slot) : Prop where
  nodup : (used ++ free).Nodup
  complete : ∀ slot, slot ∈ used ∨ slot ∈ free

namespace SlotPartition

variable {used free : List Slot} {slot : Slot}

theorem used_nodup (partition : SlotPartition used free) : used.Nodup :=
  (List.nodup_append.mp partition.nodup).1

theorem free_nodup (partition : SlotPartition used free) : free.Nodup :=
  (List.nodup_append.mp partition.nodup).2.1

theorem not_free (partition : SlotPartition used free) (member : slot ∈ used) : slot ∉ free :=
  fun other => (List.nodup_append.mp partition.nodup).2.2 slot member slot other rfl

/-- The slots are divided differently, but are the same slots. -/
theorem perm {used' free' : List Slot} (partition : SlotPartition used free)
    (same : (used' ++ free').Perm (used ++ free)) : SlotPartition used' free' where
  nodup := same.nodup_iff.mpr partition.nodup
  complete slot := by
    have member := partition.complete slot
    rw [← List.mem_append] at member ⊢
    exact same.mem_iff.mpr member

/-- The first free slot is put to use. -/
theorem take {rest : List Slot} (partition : SlotPartition used (slot :: rest)) :
    SlotPartition (used ++ [slot]) rest :=
  partition.perm (by simp)

section Erase

variable [DecidableEq Slot]

/-- A slot in use becomes free. -/
theorem retire (partition : SlotPartition used free) (member : slot ∈ used) :
    SlotPartition (used.erase slot) (free ++ [slot]) := by
  have shifted : (used.erase slot ++ (free ++ [slot])).Perm
      (slot :: (used.erase slot ++ free)) := by
    rw [← List.append_assoc]
    exact List.perm_append_singleton _ _
  exact partition.perm (shifted.trans ((List.perm_cons_erase member).symm.append_right free))

/-- A slot in use moves to the end of its list. -/
theorem rotate (partition : SlotPartition used free) (member : slot ∈ used) :
    SlotPartition (used.erase slot ++ [slot]) free := by
  refine partition.perm (List.Perm.append_right free ?_)
  exact (List.perm_append_singleton _ _).trans (List.perm_cons_erase member).symm

end Erase

/-- When no slot is free, some slot in use is outside any shorter list. -/
theorem exists_outside {few : List Slot} (partition : SlotPartition used [])
    (all : List Slot) (nodup : all.Nodup) (short : few.length < all.length) :
    ∃ slot ∈ used, slot ∉ few := by
  by_contra none
  have covered : all ⊆ few := by
    intro slot _
    by_contra outside
    have inUse : slot ∈ used := (partition.complete slot).resolve_right (by simp)
    exact none ⟨slot, inUse, outside⟩
  have fits := (nodup.subperm covered).length_le
  omega

end SlotPartition
