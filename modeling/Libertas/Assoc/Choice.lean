import Libertas.Assoc.Arrival

/-!
# The network a pass turns to

The attempt of a pass searches the scan table and then sends a command for what it
found. The entry of the search that comes last before the command justifies it: the
BSS is in that table, it suits the request and the security settings in force, and
none that suits is stronger unless the request names the BSSID. A network is only
started when none was found.
-/

namespace Libertas

open ByteOrder Procedure

/-- A list that is split at one of its elements, and again behind it. -/
theorem split_behind {α : Type} {pre rest front back : List α} {mark x : α}
    (split : pre ++ mark :: rest = front ++ x :: back) (early : x ∉ pre) (other : x ≠ mark) :
    ∃ mid, front = pre ++ mark :: mid ∧ rest = mid ++ x :: back := by
  rcases List.append_eq_append_iff.mp split with ⟨as, fronts, rests⟩ | ⟨cs, pres, backs⟩
  · cases as with
    | nil => exact absurd (List.cons.inj rests).1.symm other
    | cons a mid =>
        obtain ⟨rfl, tails⟩ := List.cons.inj rests
        exact ⟨mid, fronts, tails⟩
  · cases cs with
    | nil => exact absurd (List.cons.inj backs).1 other
    | cons c cs =>
        obtain ⟨rfl, -⟩ := List.cons.inj backs
        exact absurd (pres ▸ List.mem_append_right _ List.mem_cons_self) early

/-- A BSS is one that a request asks for. -/
structure AssocRequest.Suits {w : Nat} (req : AssocRequest) (secinfo : Security)
    (bss : BssDescriptor w) : Prop where
  fits : Fitting secinfo req.mode bss = true
  named : if req.lockedBssid then bss.bssid = req.bssid
    else sameSsid bss.ssid bss.ssidLen req.ssid req.ssidLen = true ∧
      (req.flags.channel = true → req.channel ≠ 0 → bss.channel.toNat = req.channel.toNat)

/-- A BSS is a listed one that the request asks for, and there is no stronger one when the request
goes by the SSID. -/
def ScanTable.Offers {w : Nat} (table : ScanTable w) (secinfo : Security) (req : AssocRequest)
    (bss : BssDescriptor w) : Prop :=
  ∃ n ∈ table.networkList, bss = table.networks n ∧ req.Suits secinfo bss ∧
    (req.lockedBssid = false → ∀ m ∈ table.networkList,
      req.Suits secinfo (table.networks m) → table.strength m ≤ table.strength n)

namespace PassEntry

variable {w : Nat}

/-- The table and the security settings of a search. -/
def looked : PassEntry w → Option (ScanTable w × Security)
  | lookup table secinfo => some (table, secinfo)
  | _ => none

/-- A command that is for a network. -/
def Turns : PassEntry w → Prop
  | associate _ _ => True
  | adHocJoin _ _ => True
  | adHocStart _ _ _ => True
  | _ => False

instance decidableTurns : ∀ entry : PassEntry w, Decidable entry.Turns
  | scan _ => .isFalse id
  | lookup _ _ => .isFalse id
  | call _ => .isFalse id
  | nested _ => .isFalse id
  | associate _ _ => .isTrue trivial
  | adHocJoin _ _ => .isTrue trivial
  | adHocStart _ _ _ => .isTrue trivial
  | rejoined _ => .isFalse id

/-- A command answers a request after a search. -/
def Answers (req : AssocRequest) (table : ScanTable w) (secinfo : Security) : PassEntry w → Prop
  | associate bss _ => req.mode = iwModeInfra ∧ table.Offers secinfo req bss
  | adHocJoin bss _ => req.mode = iwModeAdhoc ∧ table.Offers secinfo req bss
  | adHocStart ssid ssidLen _ =>
      req.mode = iwModeAdhoc ∧ req.lockedBssid = false ∧
        slice ssid 0 iwEssidMaxSize = slice req.ssid 0 iwEssidMaxSize ∧ ssidLen = req.ssidLen ∧
        ∀ n ∈ table.networkList, ¬ req.Suits secinfo (table.networks n)
  | _ => False

/-- Neither a search nor a command for a network. -/
def Quiet (entry : PassEntry w) : Prop :=
  entry.looked = none ∧ ¬ entry.Turns

theorem Quiet.joining {entry : PassEntry w} (quiet : entry.Quiet) : entry.joining = none := by
  cases entry with
  | scan caller | lookup table secinfo | call req | nested cmdNo | rejoined bssid => rfl
  | associate bss cmd | adHocJoin bss cmd => exact absurd trivial quiet.2
  | adHocStart ssid ssidLen cmd => exact absurd trivial quiet.2

end PassEntry

/-- The last search of a journal. -/
def lastLook {w : Nat} (journal : List (PassEntry w)) : Option (ScanTable w × Security) :=
  (journal.filterMap PassEntry.looked).getLast?

section Searching

variable {w : Nat} {table : ScanTable w} {secinfo : Security} {req : AssocRequest} {n : NetworkId}

end Searching

section Directing

variable {w : Nat}

/-- The commands for networks in a journal come behind one search, and they answer the request after
it. -/
def Directed (req : AssocRequest) (secinfo : Security) (journal : List (PassEntry w)) : Prop :=
  (∀ entry ∈ journal, ¬ entry.Turns) ∨
    ∃ pre table rest, journal = pre ++ .lookup table secinfo :: rest ∧
      (∀ entry ∈ pre, ¬ entry.Turns) ∧
      ∀ entry ∈ rest, entry.looked = none ∧ (entry.Turns → entry.Answers req table secinfo)

theorem Directed.answers {req : AssocRequest} {secinfo : Security}
    {journal front back : List (PassEntry w)} {entry : PassEntry w}
    (directed : Directed req secinfo journal) (split : journal = front ++ entry :: back)
    (turns : entry.Turns) :
    ∃ table, lastLook front = some (table, secinfo) ∧ entry.Answers req table secinfo := by
  rcases directed with never | ⟨pre, table, rest, parts, early, late⟩
  · exact absurd turns (never entry (split ▸ List.mem_append_right _ List.mem_cons_self))
  · have before : entry ∉ pre := fun member => early entry member turns
    have other : entry ≠ .lookup table secinfo := by
      rintro rfl
      exact turns
    obtain ⟨mid, rfl, rfl⟩ := split_behind (parts ▸ split) before other
    have silent : mid.filterMap PassEntry.looked = [] :=
      List.filterMap_eq_nil_iff.mpr fun y member =>
        (late y (List.mem_append_left _ member)).1
    refine ⟨table, ?_, (late entry (List.mem_append_right _ List.mem_cons_self)).2 turns⟩
    have noted : (PassEntry.lookup table secinfo).looked = some (table, secinfo) := rfl
    rw [lastLook, List.filterMap_append, List.filterMap_cons_some noted, silent,
      List.getLast?_concat]

/-- What comes later is neither a search nor a command for a network. -/
theorem Directed.append {req : AssocRequest} {secinfo : Security}
    {journal later : List (PassEntry w)} (directed : Directed req secinfo journal)
    (quiet : ∀ entry ∈ later, entry.Quiet) : Directed req secinfo (journal ++ later) := by
  rcases directed with never | ⟨pre, table, rest, rfl, early, late⟩
  · refine .inl fun entry member => ?_
    rcases List.mem_append.mp member with first | second
    · exact never entry first
    · exact (quiet entry second).2
  · refine .inr ⟨pre, table, rest ++ later, by simp, early, fun entry member => ?_⟩
    rcases List.mem_append.mp member with first | second
    · exact late entry first
    · exact ⟨(quiet entry second).1, fun turns => absurd turns (quiet entry second).2⟩

end Directing

namespace PassState

variable {w : Nat} {s : PassState w}

end PassState

namespace Pass

variable {w : Nat} {α β : Type}

/-- A procedure neither searches nor turns to a network, and keeps the BSS of the request. -/
def Still (p : Pass w α) : Prop :=
  Satisfies (fun s journal t => t.bss = s.bss ∧ ∀ entry ∈ journal, entry.Quiet) p

/-- A procedure turns to networks with commands of one kind, for the BSS of the request. -/
def Sends (made : BssDescriptor w → PassEntry w → Prop) (p : Pass w α) : Prop :=
  ∀ s, ∀ entry ∈ (p s).journal, entry.looked = none ∧ (entry.Turns → made s.bss entry)

namespace Still

variable {p q : Pass w α} {f : α → Pass w β}

theorem composes_still : Composes fun (s : PassState w) (journal : List (PassEntry w)) t =>
    t.bss = s.bss ∧ ∀ entry ∈ journal, entry.Quiet := by
  refine ⟨fun s => ⟨rfl, fun _ member => absurd member List.not_mem_nil⟩, fun first rest => ?_⟩
  refine ⟨rest.1.trans first.1, fun entry member => ?_⟩
  rcases List.mem_append.mp member with early | late
  · exact first.2 entry early
  · exact rest.2 entry late

theorem pure (out : α) : Still (pure out : Pass w α) :=
  Satisfies.pure composes_still out

theorem get : Still (get : Pass w (PassState w)) :=
  Satisfies.get composes_still

theorem bind (first : Still p) (rest : ∀ out, Still (f out)) : Still (p >>= f) :=
  Satisfies.bind composes_still first rest

theorem modify {change : PassState w → PassState w} (same : ∀ s, (change s).bss = s.bss) :
    Still (modify change : Pass w PUnit) :=
  fun s => ⟨same s, fun _ member => absurd member List.not_mem_nil⟩

theorem call {entry : PassEntry w} (quiet : entry.Quiet) : Still (call entry) :=
  fun _ => ⟨PassState.resume_bss quiet.joining,
    fun _ member => List.mem_singleton.mp member ▸ quiet⟩

theorem prepareAndSend (req : Request) (built : Bool) :
    Still (prepareAndSend (.call req) built : Pass w Int) :=
  .bind (.call ⟨rfl, id⟩) fun _ => .pure _

theorem wrapper (run : CmdPriv → Answer w → CmdEnd α) : Still (wrapper run) := by
  intro s
  rw [Pass.wrapper]
  have quiet : ∀ req, (PassEntry.call req : PassEntry w).Quiet := fun _ => ⟨rfl, id⟩
  cases (run s.cmd s.answer).sent with
  | none => exact composes_still.nothing s
  | some req => exact call (quiet req) s

end Still

namespace Sends

variable {made : BssDescriptor w → PassEntry w → Prop} {p q : Pass w α} {f : α → Pass w β}

theorem of_still (still : Still p) : Sends made p :=
  fun s entry member => ⟨((still s).2 entry member).1,
    fun turns => absurd turns ((still s).2 entry member).2⟩

theorem after (first : Still p) (rest : ∀ out, Sends made (f out)) : Sends made (p >>= f) := by
  intro s entry member
  rcases List.mem_append.mp member with early | late
  · exact of_still first s entry early
  · exact (first s).1 ▸ rest _ _ entry late

theorem ite {c : Prop} [Decidable c] (yes : Sends made p) (no : Sends made q) :
    Sends made (if c then p else q) := by
  split
  · exact yes
  · exact no

/-- The result is dropped. -/
theorem dropped (sends : Sends made p) (out : β) : Sends made (p >>= fun _ => Pure.pure out) := by
  intro s entry member
  rw [bind_journal, pure_apply, List.append_nil] at member
  exact sends s entry member

end Sends

/-- The entries of a command behind a change of the state. -/
theorem Sends.late {made : BssDescriptor w → PassEntry w → Prop} {p : Pass w Int}
    (sends : Sends made p) (change : PassState w → PassState w) (t : PassState w) :
    ∀ entry ∈ ((Procedure.modify change >>= fun _ => p) t).journal,
      entry.looked = none ∧ (entry.Turns → made (change t).bss entry) :=
  fun entry member => sends (change t) entry member

section Frame

end Frame

end Pass

end Libertas
