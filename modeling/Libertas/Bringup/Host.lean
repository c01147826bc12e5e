import Libertas.Bringup

/-!
# The claim of the host

The SDIO functions may only be called with the host claimed, and a claim is not repeated.
Here only these two resources count. Whatever fails, also where a probe leaves something
behind, they are used as they should.
-/

namespace Libertas

open Booking Procedure Procedure.Books

/-- The host with its claim. -/
def Resource.ofHost : Resource → Bool
  | .hostFree | .host => true
  | _ => false

namespace Bringup

variable {s : CardState} {ret : Int} {input : BringupInput}

/-- The procedure does not come near the host. -/
def Aside {α : Type} (p : Bringup α) : Prop :=
  Writes (fun entry => entry.resource.ofHost = false) p

theorem Aside.books {α : Type} {p : Bringup α} {held : Multiset Resource} (aside : Aside p) :
    Books Resource.ofHost p s held fun _ _ left => left = held := by
  have none : (p s).journal.filter (fun entry => entry.resource.ofHost) = [] :=
    List.filter_eq_nil_iff.mpr fun entry member => by simp [aside s entry member]
  exact ⟨held, by rw [none]; rfl, rfl⟩

section Asides

end Asides

section Ladder

end Ladder

end Bringup

end Libertas
