import Mathlib.Data.List.Basic
import Mathlib.Logic.Function.Basic

/-!
# Cells that are written and read back

A device keeps a value in each of its cells. Operations come one after another. One of
them writes at most one cell, and one that fails may still have written. `written` is
what the writes leave in the cells, and `cells_foldl` moves it from one operation to a
sequence of them.
-/

universe u v w z

namespace Cells

variable {Cell : Type u} {Value : Type v} [DecidableEq Cell]

/-- A cell is written, or nothing is. -/
def write (cells : Cell → Value) : Option (Cell × Value) → Cell → Value
  | none => cells
  | some (cell, value) => Function.update cells cell value

/-- What the writes leave in the cells, oldest first. -/
def written (cells : Cell → Value) (writes : List (Cell × Value)) : Cell → Value :=
  writes.foldl (fun cells new => write cells (some new)) cells

variable {cells : Cell → Value} {writes : List (Cell × Value)} {cell : Cell} {value : Value}

@[simp] theorem written_nil : written cells [] = cells :=
  rfl

/-- Operations that write as `effect` says leave what their writes leave. -/
theorem cells_foldl {State : Type w} {Operation : Type z} {step : State → Operation → State}
    (held : State → Cell → Value) {effect : Operation → Option (Cell × Value)}
    (one : ∀ s operation, held (step s operation) = write (held s) (effect operation))
    (s : State) (operations : List Operation) :
    held (operations.foldl step s) = written (held s) (operations.filterMap effect) := by
  induction operations generalizing s with
  | nil => rfl
  | cons operation rest ih =>
      rw [List.foldl_cons, ih, one]
      cases wrote : effect operation with
      | none => rw [List.filterMap_cons_none wrote]; rfl
      | some new => rw [List.filterMap_cons_some wrote]; rfl

/-- Operations that do not write a cell leave it, whatever they do to the others. -/
theorem cells_kept {State : Type w} {Operation : Type z} {step : State → Operation → State}
    (held : State → Cell → Value) {effect : State → Operation → Option (Cell × Value)}
    (one : ∀ s operation, held (step s operation) = write (held s) (effect s operation))
    {operations : List Operation}
    (apart : ∀ operation ∈ operations, ∀ s new, effect s operation = some new → new.1 ≠ cell)
    (s : State) : held (operations.foldl step s) cell = held s cell := by
  induction operations generalizing s with
  | nil => rfl
  | cons operation rest ih =>
      rw [List.foldl_cons, ih fun later late => apart later (List.mem_cons_of_mem _ late), one]
      cases wrote : effect s operation with
      | none => rfl
      | some new =>
          have other := apart operation List.mem_cons_self s new wrote
          exact Function.update_of_ne (Ne.symm other) _ _

end Cells
