import Libertas.Transition.Procedure
import Mathlib.Data.Multiset.AddSub
import Mathlib.Data.Multiset.Filter

/-!
# A ledger of resources

The journal of a procedure may be about resources: one is acquired, used or released. To
`settle` a journal is to go through it with what is held. It fails at the first entry that
uses or releases a resource that is not held.

`Books` says what holds at the end of a procedure, and of what it leaves held. It is
computed along the program, so that its rules are equivalences. Some of the resources may
be left out of account (`only`).
-/

universe u

/-- An entry about a resource. -/
inductive Booking (R : Type u)
  | acquire (r : R)
  | use (r : R)
  | release (r : R)
deriving DecidableEq, Repr

namespace Booking

variable {R : Type u}

/-- The resource that an entry is about. -/
def resource : Booking R → R
  | acquire r | use r | release r => r

section Settling

variable [DecidableEq R] {held left frame : Multiset R} {journal : List (Booking R)}

/-- What is held after an entry. -/
def book (held : Multiset R) : Booking R → Option (Multiset R)
  | acquire r => some (r ::ₘ held)
  | use r => if r ∈ held then some held else none
  | release r => if r ∈ held then some (held.erase r) else none

/-- What is held after a journal. -/
def settle (held : Multiset R) : List (Booking R) → Option (Multiset R)
  | [] => some held
  | entry :: rest => (book held entry).bind fun left => settle left rest

theorem settle_append (held : Multiset R) (first second : List (Booking R)) :
    settle held (first ++ second) = (settle held first).bind fun left => settle left second := by
  induction first generalizing held with
  | nil => rfl
  | cons entry rest ih =>
      rw [List.cons_append, settle, settle]
      cases book held entry with
      | none => rfl
      | some left => exact ih left

/-- An entry does not touch what else is held. -/
theorem book_frame {entry : Booking R} (booked : book held entry = some left) :
    book (held + frame) entry = some (left + frame) := by
  cases entry with
  | acquire r =>
      cases booked
      rw [book, Multiset.cons_add]
  | use r =>
      rw [book] at booked ⊢
      split at booked
      · rename_i member
        cases booked
        rw [if_pos (Multiset.mem_add.mpr (.inl member))]
      · cases booked
  | release r =>
      rw [book] at booked ⊢
      split at booked
      · rename_i member
        cases booked
        rw [if_pos (Multiset.mem_add.mpr (.inl member)), Multiset.erase_add_left_pos _ member]
      · cases booked

theorem settle_frame (settled : settle held journal = some left) :
    settle (held + frame) journal = some (left + frame) := by
  induction journal generalizing held with
  | nil =>
      cases settled
      rfl
  | cons entry rest ih =>
      rw [settle] at settled ⊢
      cases booked : book held entry with
      | none =>
          rw [booked] at settled
          cases settled
      | some next =>
          rw [booked] at settled
          rw [book_frame booked]
          exact ih settled

end Settling

end Booking

namespace Procedure

open Booking

variable {R State α β : Type} {only : R → Bool}

def acquire (r : R) : Procedure State (Booking R) PUnit :=
  fun s => { out := ⟨⟩, state := s, journal := [.acquire r] }

def use (r : R) : Procedure State (Booking R) PUnit :=
  fun s => { out := ⟨⟩, state := s, journal := [.use r] }

def release (r : R) : Procedure State (Booking R) PUnit :=
  fun s => { out := ⟨⟩, state := s, journal := [.release r] }

section Evaluation

variable {r : R} {s : State}

@[simp] theorem acquire_state : (acquire r s).state = s := rfl

@[simp] theorem use_state : (use r s).state = s := rfl

@[simp] theorem release_state : (release r s).state = s := rfl

end Evaluation

variable [DecidableEq R]

/-- Started with some resources the procedure books soundly, and what it ends with has a property.
The resources that are not in `only` are left out of account. -/
def Books (only : R → Bool) (p : Procedure State (Booking R) α) (s : State) (held : Multiset R)
    (behind : α → State → Multiset R → Prop) : Prop :=
  ∃ left, settle held ((p s).journal.filter fun entry => only entry.resource) = some left ∧
    behind (p s).out (p s).state left

namespace Books

variable {p q : Procedure State (Booking R) α} {f : α → Procedure State (Booking R) β} {s : State}
  {held : Multiset R} {behind : α → State → Multiset R → Prop}

theorem pure_iff {out : α} : Books only (pure out) s held behind ↔ behind out s held := by
  constructor
  · rintro ⟨left, settled, end_⟩
    cases settled
    exact end_
  · exact fun end_ => ⟨held, rfl, end_⟩

theorem bind_iff {behind : β → State → Multiset R → Prop} :
    Books only (p >>= f) s held behind ↔
      Books only p s held fun out t left => Books only (f out) t left behind := by
  unfold Books
  simp only [bind_journal, bind_out, bind_state, List.filter_append, settle_append,
    Option.bind_eq_some_iff]
  constructor
  · rintro ⟨left, ⟨middle, first, second⟩, ended⟩
    exact ⟨middle, first, left, second, ended⟩
  · rintro ⟨middle, first, left, second, ended⟩
    exact ⟨left, ⟨middle, first, second⟩, ended⟩

theorem get_iff {behind : State → State → Multiset R → Prop} :
    Books only get s held behind ↔ behind s s held :=
  pure_iff

theorem modify_iff {change : State → State} {behind : PUnit → State → Multiset R → Prop} :
    Books only (modify change) s held behind ↔ behind ⟨⟩ (change s) held := by
  constructor
  · rintro ⟨left, settled, ended⟩
    cases settled
    exact ended
  · exact fun ended => ⟨held, rfl, ended⟩

theorem ite_iff {c : Prop} [Decidable c] :
    Books only (if c then p else q) s held behind ↔
      if c then Books only p s held behind else Books only q s held behind := by
  split <;> rfl

section Entries

variable {r : R} {behind : PUnit → State → Multiset R → Prop}

theorem acquire_iff :
    Books only (acquire r) s held behind ↔
      behind ⟨⟩ s (if only r then r ::ₘ held else held) := by
  unfold Books acquire
  cases counted : only r <;> simp [counted, resource, settle, book]

theorem use_iff :
    Books only (use r) s held behind ↔ (only r → r ∈ held) ∧ behind ⟨⟩ s held := by
  unfold Books use
  cases counted : only r <;> simp [counted, resource, settle, book]

theorem release_iff :
    Books only (release r) s held behind ↔
      (only r → r ∈ held) ∧ behind ⟨⟩ s (if only r then held.erase r else held) := by
  unfold Books release
  cases counted : only r <;> simp [counted, resource, settle, book]

end Entries

theorem mono {weaker : α → State → Multiset R → Prop} (books : Books only p s held behind)
    (weaken : ∀ out t left, behind out t left → weaker out t left) :
    Books only p s held weaker := by
  obtain ⟨left, settled, ended⟩ := books
  exact ⟨left, settled, weaken _ _ _ ended⟩

/-- What is held besides stays held. -/
theorem frame (books : Books only p s held behind) (frame : Multiset R) :
    Books only p s (held + frame) fun out t left =>
      ∃ own, left = own + frame ∧ behind out t own := by
  obtain ⟨left, settled, ended⟩ := books
  exact ⟨left + frame, settle_frame settled, left, rfl, ended⟩

/-- There is one end. -/
theorem both {other : α → State → Multiset R → Prop} (first : Books only p s held behind)
    (second : Books only p s held other) :
    Books only p s held fun out t left => behind out t left ∧ other out t left := by
  obtain ⟨left, settled, ended⟩ := first
  obtain ⟨_, again, also⟩ := second
  rw [settled] at again
  cases again
  exact ⟨left, settled, ended, also⟩

theorem exact_iff {left : Multiset R} :
    Books only p s held (fun _ _ own => own = left) ↔
      settle held ((p s).journal.filter fun entry => only entry.resource) = some left := by
  unfold Books
  simp

/-- With all resources taken into account the whole journal is settled. -/
theorem all_iff {left : Multiset R} :
    Books (fun _ => true) p s held (fun _ _ own => own = left) ↔
      settle held (p s).journal = some left := by
  rw [exact_iff, List.filter_eq_self.mpr fun _ _ => rfl]

theorem not_false : ¬ Books only p s held fun _ _ _ => False := by
  rintro ⟨_, _, never⟩
  exact never

/-- A loop over a list: `kept` says what holds in front of each of its ends. -/
theorem each {ι : Type} {body : ι → Procedure State (Booking R) PUnit} {all : List ι}
    (kept : List ι → State → Multiset R → Prop)
    (once : ∀ i rest s held, kept (i :: rest) s held →
      Books only (body i) s held fun _ => kept rest)
    (start : kept all s held) : Books only (each body all) s held fun _ => kept [] := by
  induction all generalizing s held with
  | nil => exact pure_iff.mpr start
  | cons i rest ih =>
      exact bind_iff.mpr ((once i rest s held start).mono fun _ _ _ kept => ih kept)

end Books

end Procedure
