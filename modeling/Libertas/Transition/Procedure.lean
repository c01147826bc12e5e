import Mathlib.Data.List.Basic

/-!
# Procedures with a journal

A `Procedure` is a sequential program: it runs on a state, and it ends with a result,
a state and the journal of what it did, oldest entry first. What others do while it
sleeps belongs to the functions from which it is built.

A relation between the start, the journal and the end that composes holds of a
procedure when it holds of its parts (`Satisfies`). `Writes` and `Keeps` are two such
relations: all entries are of one kind, and a view of the state is left alone.
`Ascends` is about the order of the entries, and `Leads` about the states alone.
`stages` is a sequence of procedures that stops at the first one that fails.
-/

universe u v w x

/-- The end of a procedure: its result, the state, and the journal. -/
structure Ending (State : Type u) (Entry : Type v) (α : Type w) where
  out : α
  state : State
  journal : List Entry

/-- A sequential program. -/
def Procedure (State : Type u) (Entry : Type v) (α : Type w) :=
  State → Ending State Entry α

namespace Procedure

section Programs

variable {State : Type u} {Entry : Type v}

/-- Nothing but a result. -/
def done {α : Type w} (out : α) : Procedure State Entry α :=
  fun s => { out := out, state := s, journal := [] }

/-- One procedure after the other. -/
def andThen {α : Type w} {β : Type x} (p : Procedure State Entry α)
    (f : α → Procedure State Entry β) : Procedure State Entry β :=
  fun s =>
    let first := p s
    let rest := f first.out first.state
    { out := rest.out, state := rest.state, journal := first.journal ++ rest.journal }

instance instMonad : Monad (Procedure State Entry) where
  pure := done
  bind := andThen

/-- The state. -/
def get : Procedure State Entry State :=
  fun s => { out := s, state := s, journal := [] }

/-- The state is changed. -/
def modify (f : State → State) : Procedure State Entry PUnit.{w + 1} :=
  fun s => { out := ⟨⟩, state := f s, journal := [] }

/-- Stages of which each one is only entered when those before it returned 0. The first other
result is that of the whole. -/
def stages : List (Procedure State Entry Int) → Procedure State Entry Int
  | [] => done 0
  | stage :: rest => andThen stage fun ret => if ret ≠ 0 then done ret else stages rest

/-- A loop over a list. -/
def each {ι : Type x} (body : ι → Procedure State Entry PUnit.{w + 1}) :
    List ι → Procedure State Entry PUnit.{w + 1}
  | [] => done ⟨⟩
  | i :: rest => andThen (body i) fun _ => each body rest

end Programs

section Evaluation

variable {State Entry : Type u} {α β : Type u} {p : Procedure State Entry α}
  {f : α → Procedure State Entry β} {s : State}

@[simp] theorem pure_apply (out : α) :
    (pure out : Procedure State Entry α) s = { out := out, state := s, journal := [] } := rfl

@[simp] theorem bind_out : ((p >>= f) s).out = (f (p s).out (p s).state).out := rfl

@[simp] theorem bind_state : ((p >>= f) s).state = (f (p s).out (p s).state).state := rfl

@[simp] theorem bind_journal :
    ((p >>= f) s).journal = (p s).journal ++ (f (p s).out (p s).state).journal := rfl

/-- What comes behind `get` runs on the state. -/
theorem get_bind (f : State → Procedure State Entry α) : (get >>= f) s = f s s := rfl

@[simp] theorem get_apply :
    (get : Procedure State Entry State) s = { out := s, state := s, journal := [] } := rfl

@[simp] theorem modify_apply (change : State → State) :
    (modify change : Procedure State Entry PUnit) s =
      { out := ⟨⟩, state := change s, journal := [] } := rfl

@[simp] theorem stages_nil :
    (stages [] : Procedure State Entry Int) s = { out := 0, state := s, journal := [] } := rfl

end Evaluation

section Frames

variable {State Entry : Type} {α β : Type} {Kind : Entry → Prop} {View : Type u}
  {view : State → View} {p q : Procedure State Entry α} {f : α → Procedure State Entry β}

/-- The start, the journal and the end of every run are related. -/
def Satisfies (R : State → List Entry → State → Prop) (p : Procedure State Entry α) : Prop :=
  ∀ s, R s (p s).journal (p s).state

/-- A relation that composes: it holds of a run that does nothing, and of two runs together when
it holds of each. -/
structure Composes (R : State → List Entry → State → Prop) : Prop where
  nothing : ∀ s, R s [] s
  together : ∀ {s t u journal journal'}, R s journal t → R t journal' u →
    R s (journal ++ journal') u

namespace Satisfies

variable {R : State → List Entry → State → Prop} (composes : Composes R)

include composes

theorem pure (out : α) : Satisfies R (pure out : Procedure State Entry α) :=
  composes.nothing

theorem get : Satisfies R (get : Procedure State Entry State) :=
  composes.nothing

theorem bind (first : Satisfies R p) (rest : ∀ out, Satisfies R (f out)) :
    Satisfies R (p >>= f) :=
  fun s => composes.together (first s) (rest _ _)

omit composes in
theorem ite {c : Prop} [Decidable c] (yes : c → Satisfies R p) (no : ¬ c → Satisfies R q) :
    Satisfies R (if c then p else q) := by
  split
  · exact yes ‹_›
  · exact no ‹_›

theorem stages {all : List (Procedure State Entry Int)}
    (each : ∀ stage ∈ all, Satisfies R stage) : Satisfies R (stages all) := by
  induction all with
  | nil => exact .pure composes 0
  | cons stage rest ih =>
      refine .bind composes (each stage List.mem_cons_self) fun ret => ?_
      refine .ite (fun _ => .pure composes ret) fun _ => ih fun other member => ?_
      exact each other (List.mem_cons_of_mem stage member)

end Satisfies

/-- All entries of the journal are of one kind. -/
def Writes (Kind : Entry → Prop) (p : Procedure State Entry α) : Prop :=
  Satisfies (fun _ journal _ => ∀ entry ∈ journal, Kind entry) p

namespace Writes

theorem composes : Composes fun (_ : State) journal _ => ∀ entry ∈ journal, Kind entry := by
  refine ⟨fun _ _ member => absurd member List.not_mem_nil, fun first rest entry member => ?_⟩
  rcases List.mem_append.mp member with early | late
  · exact first entry early
  · exact rest entry late

theorem pure (out : α) : Writes Kind (pure out : Procedure State Entry α) :=
  Satisfies.pure composes out

theorem get : Writes Kind (get : Procedure State Entry State) :=
  Satisfies.get composes

theorem modify (change : State → State) :
    Writes Kind (modify change : Procedure State Entry PUnit) :=
  fun _ _ member => absurd member List.not_mem_nil

theorem bind (first : Writes Kind p) (rest : ∀ out, Writes Kind (f out)) :
    Writes Kind (p >>= f) :=
  Satisfies.bind composes first rest

theorem ite {c : Prop} [Decidable c] (yes : c → Writes Kind p) (no : ¬ c → Writes Kind q) :
    Writes Kind (if c then p else q) :=
  Satisfies.ite yes no

theorem stages {all : List (Procedure State Entry Int)}
    (each : ∀ stage ∈ all, Writes Kind stage) : Writes Kind (stages all) :=
  Satisfies.stages composes each

end Writes

/-- A view of the state is the same at the end. -/
def Keeps (view : State → View) (p : Procedure State Entry α) : Prop :=
  Satisfies (fun s _ t => view t = view s) p

namespace Keeps

theorem composes : Composes fun s (_ : List Entry) t => view t = view s :=
  ⟨fun _ => rfl, fun first rest => rest.trans first⟩

theorem pure (out : α) : Keeps view (pure out : Procedure State Entry α) :=
  Satisfies.pure composes out

theorem get : Keeps view (get : Procedure State Entry State) :=
  Satisfies.get composes

theorem modify {change : State → State} (same : ∀ s, view (change s) = view s) :
    Keeps view (modify change : Procedure State Entry PUnit) :=
  same

theorem bind (first : Keeps view p) (rest : ∀ out, Keeps view (f out)) :
    Keeps view (p >>= f) :=
  Satisfies.bind composes first rest

theorem ite {c : Prop} [Decidable c] (yes : c → Keeps view p) (no : ¬ c → Keeps view q) :
    Keeps view (if c then p else q) :=
  Satisfies.ite yes no

end Keeps

/-- The ranked entries of the journal are between two ranks, and none comes before a smaller one. -/
structure Ascends (rank : Entry → Option Nat) (low high : Nat) (p : Procedure State Entry α) :
    Prop where
  sorted : ∀ s, ((p s).journal.filterMap rank).Pairwise (· ≤ ·)
  within : ∀ s, ∀ n ∈ (p s).journal.filterMap rank, low ≤ n ∧ n ≤ high

namespace Ascends

variable {rank : Entry → Option Nat} {low middle high : Nat}

theorem of_unranked (unranked : Writes (fun entry => rank entry = none) p) :
    Ascends rank low high p := by
  have empty : ∀ s, (p s).journal.filterMap rank = [] := fun s =>
    List.filterMap_eq_nil_iff.mpr (unranked s)
  refine ⟨fun s => ?_, fun s n member => ?_⟩
  · rw [empty s]
    exact .nil
  · rw [empty s] at member
    exact absurd member List.not_mem_nil

/-- A procedure whose entries have one rank. -/
theorem of_rank {n : Nat}
    (ranked : Writes (fun entry => rank entry = none ∨ rank entry = some n) p) :
    Ascends rank n n p := by
  have all : ∀ s, ∀ m ∈ (p s).journal.filterMap rank, m = n := by
    intro s m member
    obtain ⟨entry, written, same⟩ := List.mem_filterMap.mp member
    rcases ranked s entry written with none | some
    · rw [none] at same
      cases same
    · rw [some] at same
      exact (Option.some.inj same).symm
  refine ⟨fun s => ?_, fun s m member => ?_⟩
  · apply List.pairwise_of_forall_mem_list
    intro m early k late
    exact Nat.le_of_eq ((all s m early).trans (all s k late).symm)
  · have same := all s m member
    exact ⟨Nat.le_of_eq same.symm, Nat.le_of_eq same⟩

theorem pure (out : α) : Ascends rank low high (pure out : Procedure State Entry α) :=
  .of_unranked (.pure out)

theorem widen {low' high' : Nat} (ascends : Ascends rank low high p) (below : low' ≤ low)
    (above : high ≤ high') : Ascends rank low' high' p := by
  refine ⟨ascends.sorted, fun s n member => ?_⟩
  obtain ⟨least, most⟩ := ascends.within s n member
  exact ⟨Nat.le_trans below least, Nat.le_trans most above⟩

/-- The second procedure goes on from the rank that the first one stays below. -/
theorem bind (first : Ascends rank low middle p) (rest : ∀ out, Ascends rank middle high (f out))
    (below : low ≤ middle) (above : middle ≤ high) : Ascends rank low high (p >>= f) := by
  refine ⟨fun s => ?_, fun s n member => ?_⟩
  · rw [bind_journal, List.filterMap_append, List.pairwise_append]
    refine ⟨first.sorted s, (rest _).sorted _, fun m early n late => ?_⟩
    exact Nat.le_trans (first.within s m early).2 ((rest _).within _ n late).1
  · rw [bind_journal, List.filterMap_append, List.mem_append] at member
    rcases member with early | late
    · obtain ⟨least, most⟩ := first.within s n early
      exact ⟨least, Nat.le_trans most above⟩
    · obtain ⟨least, most⟩ := (rest _).within _ n late
      exact ⟨Nat.le_trans below least, most⟩

/-- What comes first writes nothing that is ranked. -/
theorem after (first : Writes (fun entry => rank entry = none) p)
    (rest : ∀ out, Ascends rank low high (f out)) : Ascends rank low high (p >>= f) := by
  have empty : ∀ s, (p s).journal.filterMap rank = [] := fun s =>
    List.filterMap_eq_nil_iff.mpr (first s)
  have same : ∀ s, ((p >>= f) s).journal.filterMap rank =
      (f (p s).out (p s).state).journal.filterMap rank := fun s => by
    rw [bind_journal, List.filterMap_append, empty s, List.nil_append]
  refine ⟨fun s => ?_, fun s n member => ?_⟩
  · rw [same s]
    exact (rest _).sorted _
  · rw [same s] at member
    exact (rest _).within _ n member

theorem ite {c : Prop} [Decidable c] (yes : Ascends rank low high p)
    (no : Ascends rank low high q) : Ascends rank low high (if c then p else q) := by
  split
  · exact yes
  · exact no

theorem stages_cons (middle : Nat) {stage : Procedure State Entry Int}
    {rest : List (Procedure State Entry Int)} (first : Ascends rank low middle stage)
    (later : Ascends rank middle high (stages rest))
    (below : low ≤ middle) (above : middle ≤ high) :
    Ascends rank low high (stages (stage :: rest)) :=
  first.bind (fun ret => .ite (.pure ret) later) below above

end Ascends

/-- A procedure that starts in a state with the first property ends in one with the second. -/
def Leads (before : State → Prop) (p : Procedure State Entry α) (behind : State → Prop) : Prop :=
  ∀ s, before s → behind (p s).state

namespace Leads

variable {before middle behind : State → Prop}

theorem pure (weaken : ∀ s, before s → behind s) (out : α) :
    Leads before (pure out : Procedure State Entry α) behind :=
  weaken

theorem get : Leads before (get : Procedure State Entry State) before :=
  fun _ held => held

theorem modify {change : State → State} (step : ∀ s, before s → behind (change s)) :
    Leads before (modify change : Procedure State Entry PUnit) behind :=
  step

theorem bind (first : Leads before p middle) (rest : ∀ out, Leads middle (f out) behind) :
    Leads before (p >>= f) behind :=
  fun s held => rest _ _ (first s held)

theorem ite {c : Prop} [Decidable c] (yes : c → Leads before p behind)
    (no : ¬ c → Leads before q behind) : Leads before (if c then p else q) behind := by
  split
  · exact yes ‹_›
  · exact no ‹_›

/-- A property of a view is kept with the view. -/
theorem of_keeps (held : View → Prop) (keeps : Keeps view p) :
    Leads (fun s => held (view s)) p fun s => held (view s) :=
  fun s start => (congrArg held (keeps s)).mpr start

theorem stages (before : State → Prop) {all : List (Procedure State Entry Int)}
    (each : ∀ stage ∈ all, Leads before stage before) : Leads before (stages all) before := by
  induction all with
  | nil => exact .pure (fun _ held => held) 0
  | cons stage rest ih =>
      refine .bind (each stage List.mem_cons_self) fun ret =>
        .ite (fun _ => .pure (fun _ held => held) ret) fun _ => ?_
      exact ih fun other member => each other (List.mem_cons_of_mem stage member)

end Leads

end Frames

end Procedure
