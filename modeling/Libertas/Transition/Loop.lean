import Mathlib.Order.Basic

/-!
# Loops

The body of a loop is a partial function on its locals; it is undefined when the
loop is over. `Loop.iterate` runs it with a bound on the number of iterations and
gives the locals at the end, `Loop.Visits` collects the locals at its head.

`Loop.terminates_of_variant` is the rule for termination, `Loop.exists_end` the one
for total correctness, and `Loop.not_terminates_of_stuck` the one for a loop that
comes to an iteration that changes nothing.
-/

universe u

namespace Loop

variable {Locals : Type u} (body : Locals → Option Locals)

/-- The locals when the loop is over, if it is after this many iterations. -/
def iterate : Nat → Locals → Option Locals
  | 0, _ => none
  | fuel + 1, s =>
      match body s with
      | none => some s
      | some t => iterate fuel t

/-- The loop comes to an end. -/
def Terminates (s : Locals) : Prop :=
  ∃ fuel t, iterate body fuel s = some t

/-- The locals at the head of the loop. -/
inductive Visits (s : Locals) : Locals → Prop
  | start : Visits s s
  | next {t u} : Visits s t → body t = some u → Visits s u

variable {body} {s t : Locals}

theorem Visits.trans {u : Locals} (first : Visits body s t) (second : Visits body t u) :
    Visits body s u := by
  induction second with
  | start => exact first
  | next _ step ih => exact .next ih step

/-- One iteration does not decide whether the loop comes to an end. -/
theorem terminates_step (step : body s = some t) : Terminates body s ↔ Terminates body t := by
  constructor
  · rintro ⟨fuel, last, ends⟩
    cases fuel with
    | zero => cases ends
    | succ fuel =>
        simp only [iterate, step] at ends
        exact ⟨fuel, last, ends⟩
  · rintro ⟨fuel, last, ends⟩
    refine ⟨fuel + 1, last, ?_⟩
    simp only [iterate, step]
    exact ends

theorem Visits.terminates (visits : Visits body s t) : Terminates body s ↔ Terminates body t := by
  induction visits with
  | start => exact Iff.rfl
  | next _ step ih => exact ih.trans (terminates_step step)

/-- A loop terminates when each of its iterations lowers a rank. -/
theorem terminates_of_variant (rank : Locals → Nat)
    (lower : ∀ t u, Visits body s t → body t = some u → rank u < rank t) : Terminates body s := by
  -- The rank of the locals bounds the number of iterations that are left.
  suffices bounded : ∀ fuel t, Visits body s t → rank t < fuel →
      ∃ last, iterate body fuel t = some last from
    ⟨rank s + 1, bounded (rank s + 1) s .start (Nat.lt_succ_self _)⟩
  intro fuel
  induction fuel with
  | zero => exact fun t _ less => absurd less (Nat.not_lt_zero _)
  | succ fuel ih =>
      intro t visits less
      cases step : body t with
      | none => exact ⟨t, by simp only [iterate, step]⟩
      | some u =>
          have down := lower t u visits step
          obtain ⟨last, ends⟩ := ih u (.next visits step) (by omega)
          exact ⟨last, by simp only [iterate, step]; exact ends⟩

/-- A loop ends where the body is undefined. -/
theorem iterate_eq_some {fuel : Nat} (ends : iterate body fuel s = some t) :
    Visits body s t ∧ body t = none := by
  induction fuel generalizing s with
  | zero => cases ends
  | succ fuel ih =>
      cases step : body s with
      | none =>
          simp only [iterate, step, Option.some.injEq] at ends
          subst ends
          exact ⟨.start, step⟩
      | some u =>
          simp only [iterate, step] at ends
          obtain ⟨visits, stopped⟩ := ih ends
          exact ⟨Visits.trans (.next .start step) visits, stopped⟩

theorem Visits.invariant {I : Locals → Prop} (visits : Visits body s t) (start : I s)
    (step : ∀ t u, I t → body t = some u → I u) : I t := by
  induction visits with
  | start => exact start
  | next _ next ih => exact step _ _ ih next

/-- The rule for total correctness: an invariant, and a rank that each iteration lowers while the
invariant holds. -/
theorem exists_end {I : Locals → Prop} (rank : Locals → Nat) (start : I s)
    (step : ∀ t u, I t → body t = some u → I u ∧ rank u < rank t) :
    ∃ fuel last, iterate body fuel s = some last ∧ I last ∧ body last = none := by
  have keeps : ∀ t, Visits body s t → I t := fun t visits =>
    visits.invariant start fun t u held next => (step t u held next).1
  obtain ⟨fuel, last, ends⟩ := terminates_of_variant rank fun t u visits next =>
    (step t u (keeps t visits) next).2
  obtain ⟨visits, stopped⟩ := iterate_eq_some ends
  exact ⟨fuel, last, ends, keeps last visits, stopped⟩

/-- An iteration that changes nothing is repeated for ever. -/
theorem not_terminates_of_stuck (stuck : body s = some s) : ¬ Terminates body s := by
  rintro ⟨fuel, last, ends⟩
  induction fuel with
  | zero => cases ends
  | succ fuel ih =>
      simp only [iterate, stuck] at ends
      exact ih ends

end Loop
