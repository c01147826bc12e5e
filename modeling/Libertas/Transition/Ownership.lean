import Libertas.Transition.Basic

/-!
# Exclusive ownership of resources

A relation `holds place r` says that the resource `r` is found at a place. It is
`Exclusive` when no resource is at two places at once. The places may be queues,
registers or the local variables of unboundedly many agents, so nothing is
counted: exclusivity is a statement about pairs.

A step of a system typically removes resources from places and moves at most one
of them to one new place. `Exclusive.move` is the rule for such a step, and
`Exclusive.shrink` the rule for a step that moves none.
-/

universe u v

variable {Place : Type u} {Resource : Type v}

/-- Every resource is at no more than one place. -/
def Exclusive (holds : Place → Resource → Prop) : Prop :=
  ∀ p q r, holds p r → holds q r → p = q

namespace Exclusive

variable {holds holds' : Place → Resource → Prop}

theorem eq (exclusive : Exclusive holds) {p q : Place} {r : Resource}
    (left : holds p r) (right : holds q r) : p = q :=
  exclusive p q r left right

/-- A step that only removes resources from places keeps them exclusive. -/
theorem shrink (exclusive : Exclusive holds)
    (kept : ∀ p r, holds' p r → holds p r) : Exclusive holds' :=
  fun p q r left right => exclusive p q r (kept p r left) (kept q r right)

/-- A step that takes `moved` away from every place but `target`, and otherwise only removes
resources, keeps them exclusive. -/
theorem move (exclusive : Exclusive holds) (moved : Resource) (target : Place)
    (effect : ∀ p r, holds' p r → (r = moved ∧ p = target) ∨ (r ≠ moved ∧ holds p r)) :
    Exclusive holds' := by
  intro p q r left right
  rcases effect p r left with ⟨_, atTarget⟩ | ⟨other, before⟩
  · rcases effect q r right with ⟨_, atTarget'⟩ | ⟨other', _⟩
    · rw [atTarget, atTarget']
    · exact absurd ‹r = moved› other'
  · rcases effect q r right with ⟨same, _⟩ | ⟨_, before'⟩
    · exact absurd same other
    · exact exclusive p q r before before'

end Exclusive
