import Mathlib.Algebra.Order.Ring.Int
import Mathlib.Logic.Function.Basic
import Mathlib.Data.List.Basic

/-!
# Byte stores

A memory is a function from addresses to bytes. Code that fills a shared buffer
without a lock is a list of stores, one for each byte, in program order; whoever
runs them one at a time can be interrupted between any two.

`copyTo` stores a list of bytes, `mergeTo` combines one with what is there, and
`read` reads a range. The lemmas say what a range holds after either of them.
-/

/-- A store of one byte, or of its union with the byte that is there. -/
structure Store where
  address : Nat
  value : UInt8
  merge : Bool
deriving DecidableEq, Repr

namespace Store

/-- The memory after a store. -/
def apply (store : Store) (mem : Nat → UInt8) : Nat → UInt8 :=
  Function.update mem store.address
    (if store.merge then mem store.address ||| store.value else store.value)

/-- The memory after a list of stores. -/
def run : List Store → (Nat → UInt8) → Nat → UInt8
  | [], mem => mem
  | store :: rest, mem => run rest (store.apply mem)

/-- Copy bytes to an address. -/
def copyTo : Nat → List UInt8 → List Store
  | _, [] => []
  | address, value :: rest =>
      { address := address, value := value, merge := false } :: copyTo (address + 1) rest

/-- Combine bytes with those at an address. -/
def mergeTo : Nat → List UInt8 → List Store
  | _, [] => []
  | address, value :: rest =>
      { address := address, value := value, merge := true } :: mergeTo (address + 1) rest

/-- The bytes of a range. -/
def read (mem : Nat → UInt8) : Nat → Nat → List UInt8
  | _, 0 => []
  | address, count + 1 => mem address :: read mem (address + 1) count

@[simp] theorem read_length (mem : Nat → UInt8) (address count : Nat) :
    (read mem address count).length = count := by
  induction count generalizing address with
  | zero => rfl
  | succ count ih => simp [read, ih]

theorem read_append (mem : Nat → UInt8) (address first second : Nat) :
    read mem address (first + second) =
      read mem address first ++ read mem (address + first) second := by
  induction first generalizing address with
  | zero => simp [read]
  | succ first ih =>
      rw [Nat.add_right_comm, read, ih (address + 1), read, List.cons_append]
      congr 3
      omega

theorem read_take (mem : Nat → UInt8) (address : Nat) {part count : Nat} (within : part ≤ count) :
    (read mem address count).take part = read mem address part := by
  obtain ⟨rest, rfl⟩ := Nat.exists_eq_add_of_le within
  rw [read_append]
  exact List.take_left' (read_length _ _ _)

theorem read_drop (mem : Nat → UInt8) (address : Nat) {part count : Nat} (within : part ≤ count) :
    (read mem address count).drop part = read mem (address + part) (count - part) := by
  obtain ⟨rest, rfl⟩ := Nat.exists_eq_add_of_le within
  rw [read_append, Nat.add_sub_cancel_left]
  exact List.drop_left' (read_length _ _ _)

theorem run_append (front back : List Store) (mem : Nat → UInt8) :
    run (front ++ back) mem = run back (run front mem) := by
  induction front generalizing mem with
  | nil => rfl
  | cons store rest ih => exact ih (store.apply mem)

/-- Two memories agree on a range. -/
theorem read_congr {mem mem' : Nat → UInt8} {address count : Nat}
    (same : ∀ i, address ≤ i → i < address + count → mem' i = mem i) :
    read mem' address count = read mem address count := by
  induction count generalizing address with
  | zero => rfl
  | succ count ih =>
      rw [read, read, same address (Nat.le_refl _) (by omega)]
      rw [ih fun i above below => same i (by omega) (by omega)]

section Copies

variable {mem : Nat → UInt8} {address : Nat} {bytes : List UInt8}

/-- A copy leaves the rest of the memory as it was. -/
theorem run_copyTo_of_apart {i : Nat} (apart : i < address ∨ address + bytes.length ≤ i) :
    run (copyTo address bytes) mem i = mem i := by
  induction bytes generalizing address mem with
  | nil => rfl
  | cons value rest ih =>
      simp only [List.length_cons] at apart
      rw [copyTo, run, ih (by omega)]
      exact Function.update_of_ne (by show i ≠ address; omega) _ _

theorem run_mergeTo_of_apart {i : Nat} (apart : i < address ∨ address + bytes.length ≤ i) :
    run (mergeTo address bytes) mem i = mem i := by
  induction bytes generalizing address mem with
  | nil => rfl
  | cons value rest ih =>
      simp only [List.length_cons] at apart
      rw [mergeTo, run, ih (by omega)]
      exact Function.update_of_ne (by show i ≠ address; omega) _ _

/-- What was copied is read back. -/
theorem read_copyTo : read (run (copyTo address bytes) mem) address bytes.length = bytes := by
  induction bytes generalizing address mem with
  | nil => rfl
  | cons value rest ih =>
      rw [copyTo, run, List.length_cons, read, ih]
      rw [run_copyTo_of_apart (.inl (Nat.lt_succ_self address))]
      simp [apply]

/-- What was merged is read back together with what was there. -/
theorem read_mergeTo : read (run (mergeTo address bytes) mem) address bytes.length =
    List.zipWith (· ||| ·) (read mem address bytes.length) bytes := by
  induction bytes generalizing address mem with
  | nil => rfl
  | cons value rest ih =>
      rw [mergeTo, run, List.length_cons, read, ih]
      rw [run_mergeTo_of_apart (.inl (Nat.lt_succ_self address))]
      rw [read, List.zipWith_cons_cons]
      congr 2
      · simp [apply]
      · refine read_congr fun i above _ => ?_
        exact Function.update_of_ne (by show i ≠ address; omega) _ _

/-- A range within a copy holds that part of what was copied. -/
theorem read_copyTo_within {offset count : Nat} (within : offset + count ≤ bytes.length) :
    read (run (copyTo address bytes) mem) (address + offset) count =
      (bytes.drop offset).take count := by
  have whole : read (run (copyTo address bytes) mem) address bytes.length = bytes := read_copyTo
  have parts : bytes.length = offset + (count + (bytes.length - offset - count)) := by omega
  rw [parts, read_append, read_append] at whole
  conv => rhs; rw [← whole]
  rw [List.drop_left' (read_length _ _ _), List.take_left' (read_length _ _ _)]

/-- A range beside a copy is read as before. -/
theorem read_copyTo_of_apart {start count : Nat}
    (apart : start + count ≤ address ∨ address + bytes.length ≤ start) :
    read (run (copyTo address bytes) mem) start count = read mem start count :=
  read_congr fun i above below => run_copyTo_of_apart (by omega)

theorem read_mergeTo_of_apart {start count : Nat}
    (apart : start + count ≤ address ∨ address + bytes.length ≤ start) :
    read (run (mergeTo address bytes) mem) start count = read mem start count :=
  read_congr fun i above below => run_mergeTo_of_apart (by omega)

end Copies

end Store
