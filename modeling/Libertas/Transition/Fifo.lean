import Libertas.Transition.Basic

/-!
# First-in, first-out channels

A `Channel` remembers everything that was sent, everything that was received and
what is still inside. It has three moves: nothing happens, a value is sent and
joins the contents at the end, or the first of the contents is received.

A channel is `Faithful` when the values sent are the values received followed by
the contents. Nothing is then lost or duplicated, and the order is kept. A machine
whose steps are moves of a channel, seen through a view of its states, is
faithful in every state it reaches.
-/

universe u v w

/-- The history and the contents of a channel. -/
structure Channel (Value : Type w) where
  sent : List Value
  received : List Value
  contents : List Value

namespace Channel

variable {Value : Type w} {ch ch' : Channel Value}

/-- A channel that was never used. -/
def unused : Channel Value :=
  { sent := [], received := [], contents := [] }

/-- What can happen to a channel at once. -/
inductive Moves : Channel Value → Channel Value → Prop
  | stay (ch : Channel Value) : Moves ch ch
  | send (ch : Channel Value) (value : Value) :
      Moves ch { ch with sent := ch.sent ++ [value], contents := ch.contents ++ [value] }
  | receive {ch : Channel Value} {value : Value} {rest : List Value} :
      ch.contents = value :: rest →
      Moves ch { ch with received := ch.received ++ [value], contents := rest }

/-- Every value sent was received in order or is still in the channel. -/
def Faithful (ch : Channel Value) : Prop :=
  ch.sent = ch.received ++ ch.contents

theorem faithful_unused : (unused : Channel Value).Faithful := rfl

theorem Moves.faithful (moves : Moves ch ch') (faithful : ch.Faithful) : ch'.Faithful := by
  cases moves with
  | stay => exact faithful
  | send value =>
      show ch.sent ++ [value] = ch.received ++ (ch.contents ++ [value])
      rw [faithful, List.append_assoc]
  | @receive value rest contents =>
      show ch.sent = ch.received ++ [value] ++ rest
      rw [faithful, contents, List.append_assoc, List.singleton_append]

end Channel

/-- A machine that implements a channel. `Good` is the invariant the implementation needs. -/
theorem Machine.ReachableUnder.faithful {State : Type u} {Action : Type v} {Value : Type w}
    {m : Machine State Action} {allowed : State → Action → Prop} {s : State}
    (reached : m.ReachableUnder allowed s) {view : State → Channel Value} {Good : State → Prop}
    (start : ∀ s, m.initial s → Good s ∧ view s = .unused)
    (keep : ∀ s action t, Good s → allowed s action → m.step s action = some t →
      Good t ∧ (view s).Moves (view t)) :
    Good s ∧ (view s).Faithful := by
  refine reached.invariant (fun s => Good s ∧ (view s).Faithful) ?_ ?_
  · intro s initial
    obtain ⟨good, same⟩ := start s initial
    exact ⟨good, same ▸ Channel.faithful_unused⟩
  · rintro s action t _ ⟨good, faithful⟩ ok step
    obtain ⟨good', moves⟩ := keep s action t good ok step
    exact ⟨good', moves.faithful faithful⟩
