import Libertas.Bringup.Probe

/-!
# From the probe to the removal
-/

namespace Libertas

open Booking Procedure Procedure.Books

/-- A write of an attribute does not fail to register a mesh device that it allocated. -/
def AttrWrite.Clean : AttrWrite → Prop
  | .mesh _ _ outcome => outcome.Clean
  | .rtap _ _ _ => True

namespace Bringup

variable {s : CardState} {rest held : Multiset Resource} {ret : Int} {input : BringupInput}

section Interfaces

theorem lbsRemoveMesh_books :
    Books allResources lbsRemoveMesh s ((if s.meshDev then meshResources else 0) + rest)
      fun _ t left => t = { s with meshDev := false } ∧ left = rest := by
  unfold lbsRemoveMesh
  rw [bind_iff, get_iff]
  cases present : s.meshDev with
  | false =>
      refine pure_iff.mpr ⟨?_, by simp⟩
      rw [← present]
  | true => simp [bind_iff, release_iff, modify_iff, meshResources]

theorem lbsAddRtap_books {outcome : AddOutcome} :
    Books allResources (lbsAddRtap outcome) s ((if s.rtapNetDev then rtapResources else 0) + rest)
      fun _ t left => t = { s with rtapNetDev := t.rtapNetDev } ∧
        left = (if t.rtapNetDev then rtapResources else 0) + rest := by
  unfold lbsAddRtap
  rw [bind_iff, get_iff]
  cases present : s.rtapNetDev with
  | true => exact pure_iff.mpr ⟨rfl, by simp [present]⟩
  | false =>
      cases allocated : outcome.alloc with
      | false => exact pure_iff.mpr ⟨rfl, by simp [present]⟩
      | true =>
          have same : ({ s with rtapNetDev := false } : CardState) = s := by rw [← present]
          cases outcome.register <;>
            simp [bind_iff, acquire_iff, release_iff, modify_iff, present, same, rtapResources]

theorem lbsRemoveRtap_books :
    Books allResources lbsRemoveRtap s ((if s.rtapNetDev then rtapResources else 0) + rest)
      fun _ t left => t = { s with rtapNetDev := false } ∧ left = rest := by
  unfold lbsRemoveRtap
  rw [bind_iff, get_iff]
  cases present : s.rtapNetDev with
  | false =>
      refine pure_iff.mpr ⟨?_, by simp⟩
      rw [← present]
  | true => simp [bind_iff, release_iff, modify_iff, rtapResources]

theorem lbsMeshSet_books {enable : Bool} {config : Int} {outcome : AddOutcome}
    (clean : outcome.Clean) :
    Books allResources (lbsMeshSet enable config outcome) s
      ((if s.meshDev then meshResources else 0) + rest) fun _ t left =>
        t = { s with meshDev := t.meshDev } ∧
          left = (if t.meshDev then meshResources else 0) + rest := by
  unfold lbsMeshSet
  rw [bind_iff, get_iff]
  split
  · exact pure_iff.mpr ⟨rfl, rfl⟩
  rename_i toggled
  split
  · exact pure_iff.mpr ⟨rfl, rfl⟩
  split
  · rename_i enabled
    have absent : s.meshDev = false := by
      simpa [enabled] using toggled
    refine lbsAddMesh_books.mono ?_
    rintro _ t _ ⟨rfl, added⟩
    exact ⟨rfl, by simpa [absent] using added clean⟩
  · refine lbsRemoveMesh_books.mono ?_
    rintro _ t _ ⟨rfl, rfl⟩
    exact ⟨rfl, by simp⟩

theorem lbsRtapSet_books {monitorMode : Int} {opened : Bool} {outcome : AddOutcome} :
    Books allResources (lbsRtapSet monitorMode opened outcome) s
      ((if s.rtapNetDev then rtapResources else 0) + rest) fun _ t left =>
        t = { s with rtapNetDev := t.rtapNetDev, monitormode := t.monitormode } ∧
          left = (if t.rtapNetDev then rtapResources else 0) + rest := by
  unfold lbsRtapSet
  rw [bind_iff, get_iff]
  split
  · split
    · exact pure_iff.mpr ⟨rfl, rfl⟩
    split
    · split
      · exact pure_iff.mpr ⟨rfl, rfl⟩
      · refine bind_iff.mpr (lbsAddRtap_books.mono ?_)
        rintro _ t _ ⟨only, rfl⟩
        refine modify_iff.mpr ⟨?_, rfl⟩
        rw [only]
    · exact modify_iff.mpr ⟨rfl, rfl⟩
  · split
    · exact pure_iff.mpr ⟨rfl, rfl⟩
    · rw [bind_iff, modify_iff]
      refine (lbsRemoveRtap_books (s := { s with monitormode := 0 })).mono ?_
      rintro _ t _ ⟨rfl, rfl⟩
      exact ⟨rfl, by simp⟩

end Interfaces

section Removal

/-- What is behind the interfaces of a card that is up, in the order of the removal. -/
theorem upHeld_order (s : CardState) (rest : Multiset Resource) :
    s.upHeld + rest = .registration ::ₘ ((if s.meshDev then meshResources else 0) +
      ((if s.rtapNetDev then rtapResources else 0) +
        (s.cardHeld + .irq ::ₘ .function ::ₘ .card ::ₘ (s.queued + rest)))) := by
  rw [CardState.upHeld, CardState.baseHeld]
  simp only [← Multiset.singleton_add]
  ac_rfl

theorem lbsRemoveCard_books (up : s.Up) :
    Books allResources lbsRemoveCard s ((if s.meshDev then meshResources else 0) +
      ((if s.rtapNetDev then rtapResources else 0) + (s.cardHeld + rest)))
      fun _ t left => t.packets = s.packets ∧ left = rest := by
  unfold lbsRemoveCard
  refine bind_iff.mpr (lbsRemoveMesh_books.mono ?_)
  rintro _ _ _ ⟨rfl, rfl⟩
  refine bind_iff.mpr ((lbsRemoveRtap_books (s := { s with meshDev := false })).mono ?_)
  rintro _ _ _ ⟨rfl, rfl⟩
  have adapter : ({ s with meshDev := false, rtapNetDev := false } : CardState).adapterHeld =
      s.adapterHeld := rfl
  rw [CardState.cardHeld, up.workThread, if_pos rfl]
  simp only [bind_iff, release_iff, if_true, Multiset.singleton_add, Multiset.cons_add,
    Multiset.erase_cons_head]
  refine ⟨fun _ => by simp, fun _ => by simp, ?_⟩
  rw [add_assoc, ← adapter]
  refine (lbsFreeAdapter_books ?_).mono ?_
  · exact fun error => by simp [up.eventFifo] at error
  · rintro _ t _ ⟨rfl, packets⟩
    simp [packets]

theorem ifSdioRemove_books (up : s.Up) :
    Books allResources ifSdioRemove s (s.upHeld + {.hostFree}) fun _ _ left =>
      left = {.hostFree} := by
  unfold ifSdioRemove lbsStopCard
  rw [upHeld_order]
  simp only [bind_iff, release_iff, if_true, Multiset.erase_cons_head]
  refine ⟨fun _ => by simp, (lbsRemoveCard_books up).mono ?_⟩
  rintro _ t _ ⟨packets, rfl⟩
  have queued : s.queued = t.queued := by rw [CardState.queued, CardState.queued, packets]
  have order : Resource.irq ::ₘ .function ::ₘ .card ::ₘ (t.queued + {.hostFree}) =
      .hostFree ::ₘ .irq ::ₘ .function ::ₘ .card ::ₘ t.queued := by
    simp only [← Multiset.singleton_add]
    ac_rfl
  have freed := freeCard_books t {.hostFree}
  have freeing : Resource.card ::ₘ (t.queued + {.hostFree}) = .hostFree ::ₘ .card ::ₘ t.queued := by
    simp only [← Multiset.singleton_add]
    ac_rfl
  rw [freeing] at freed
  rw [queued, order]
  unfold sdioClaimHost sdioReleaseIrq sdioDisableFunc sdioReleaseHost
  simp only [bind_iff, acquire_iff, use_iff, release_iff, if_true, Multiset.erase_cons_head]
  simpa using freed

end Removal

section Writes

theorem upHeld_mesh (s : CardState) (rest : Multiset Resource) :
    s.upHeld + rest = (if s.meshDev then meshResources else 0) +
      ((if s.rtapNetDev then rtapResources else 0) + s.baseHeld + rest) := by
  rw [CardState.upHeld, add_assoc]

theorem upHeld_rtap (s : CardState) (rest : Multiset Resource) :
    s.upHeld + rest = (if s.rtapNetDev then rtapResources else 0) +
      ((if s.meshDev then meshResources else 0) + s.baseHeld + rest) := by
  rw [CardState.upHeld, add_left_comm, add_assoc]

theorem write_books {write : AttrWrite} (clean : write.Clean) (up : s.Up) :
    Books allResources write.run s (s.upHeld + rest) fun _ t left =>
      t.Up ∧ left = t.upHeld + rest := by
  cases write with
  | mesh enable config outcome =>
      rw [upHeld_mesh]
      refine (lbsMeshSet_books clean).mono ?_
      rintro _ t _ ⟨only, rfl⟩
      obtain ⟨meshDev, rfl⟩ : ∃ meshDev, t = { s with meshDev := meshDev } := ⟨_, only⟩
      exact ⟨⟨up.eventFifo, up.workThread⟩, (upHeld_mesh _ rest).symm⟩
  | rtap monitorMode opened outcome =>
      rw [upHeld_rtap]
      refine lbsRtapSet_books.mono ?_
      rintro _ t _ ⟨only, rfl⟩
      obtain ⟨rtapNetDev, monitormode, rfl⟩ : ∃ rtapNetDev monitormode,
          t = { s with rtapNetDev := rtapNetDev, monitormode := monitormode } := ⟨_, _, only⟩
      exact ⟨⟨up.eventFifo, up.workThread⟩, (upHeld_rtap _ rest).symm⟩

theorem writes_books {writes : List AttrWrite} (clean : ∀ write ∈ writes, write.Clean)
    (up : s.Up) :
    Books allResources (each AttrWrite.run writes) s (s.upHeld + rest) fun _ t left =>
      t.Up ∧ left = t.upHeld + rest := by
  refine (Books.each (fun later t left => (∀ write ∈ later, write.Clean) ∧ t.Up ∧
    left = t.upHeld + rest) ?_ ⟨clean, up, rfl⟩).mono fun _ _ _ kept => kept.2
  rintro write later t _ ⟨clean, up, rfl⟩
  refine (write_books (clean write List.mem_cons_self) up).mono fun _ _ _ kept => ⟨?_, kept⟩
  exact fun other member => clean other (List.mem_cons_of_mem write member)

end Writes

section Agreement

/-- The pointers of this model and of that of the virtual interfaces are NULL together. -/
structure Agrees (s : CardState) (t : IfSys) : Prop where
  meshDev : s.meshDev = t.meshDev.isSome
  rtapNetDev : s.rtapNetDev = t.rtapNetDev.isSome
  monitormode : s.monitormode = t.monitormode

/-- A write in the model of the virtual interfaces. -/
def interfaceWrite (t : IfSys) : AttrWrite → IfSys
  | .mesh enable config outcome => t.lbsMeshSet enable config outcome
  | .rtap monitorMode opened outcome => t.lbsRtapSet monitorMode opened outcome

theorem addMesh_agrees {t : IfSys} {outcome : AddOutcome} (agrees : Agrees s t) :
    Agrees (lbsAddMesh outcome s).state (t.lbsAddMesh outcome) := by
  obtain ⟨alloc, register, group⟩ := outcome
  cases alloc <;> cases register <;> cases group <;>
    first
    | exact agrees
    | exact ⟨rfl, agrees.rtapNetDev, agrees.monitormode⟩

theorem removeMesh_agrees {t : IfSys} (agrees : Agrees s t) :
    Agrees (lbsRemoveMesh s).state t.lbsRemoveMesh := by
  unfold lbsRemoveMesh IfSys.lbsRemoveMesh
  rw [get_bind, agrees.meshDev]
  cases pointer : t.meshDev with
  | none => exact agrees
  | some dev => exact ⟨rfl, agrees.rtapNetDev, agrees.monitormode⟩

theorem addRtap_agrees {t : IfSys} {outcome : AddOutcome} (agrees : Agrees s t) :
    Agrees (lbsAddRtap outcome s).state (t.lbsAddRtap outcome) := by
  unfold lbsAddRtap IfSys.lbsAddRtap
  rw [get_bind, agrees.rtapNetDev]
  obtain ⟨alloc, register, group⟩ := outcome
  cases present : t.rtapNetDev.isSome <;> cases alloc <;> cases register <;>
    first
    | exact agrees
    | exact ⟨agrees.meshDev, rfl, agrees.monitormode⟩
    | exact ⟨agrees.meshDev, agrees.rtapNetDev, agrees.monitormode⟩

theorem removeRtap_agrees {t : IfSys} (agrees : Agrees s t) :
    Agrees (lbsRemoveRtap s).state t.lbsRemoveRtap := by
  unfold lbsRemoveRtap IfSys.lbsRemoveRtap
  rw [get_bind, agrees.rtapNetDev]
  cases pointer : t.rtapNetDev with
  | none => exact agrees
  | some dev => exact ⟨agrees.meshDev, rfl, agrees.monitormode⟩

theorem meshSet_agrees {t : IfSys} {enable : Bool} {config : Int} {outcome : AddOutcome}
    (agrees : Agrees s t) :
    Agrees (lbsMeshSet enable config outcome s).state (t.lbsMeshSet enable config outcome) := by
  unfold lbsMeshSet IfSys.lbsMeshSet
  rw [get_bind, agrees.meshDev]
  split
  · exact agrees
  split
  · exact agrees
  split
  · exact addMesh_agrees agrees
  · exact removeMesh_agrees agrees

theorem rtapSet_agrees {t : IfSys} {monitorMode : Int} {opened : Bool} {outcome : AddOutcome}
    (agrees : Agrees s t) :
    Agrees (lbsRtapSet monitorMode opened outcome s).state
      (t.lbsRtapSet monitorMode opened outcome) := by
  unfold lbsRtapSet IfSys.lbsRtapSet
  rw [get_bind, agrees.monitormode]
  split
  · split
    · exact agrees
    split
    · split
      · exact agrees
      · have added : Agrees (lbsAddRtap outcome s).state (t.lbsAddRtap outcome) :=
          addRtap_agrees agrees
        exact ⟨added.meshDev, added.rtapNetDev, rfl⟩
    · exact ⟨agrees.meshDev, agrees.rtapNetDev, rfl⟩
  · split
    · exact agrees
    · exact removeRtap_agrees (s := { s with monitormode := 0 })
        ⟨agrees.meshDev, agrees.rtapNetDev, rfl⟩

/-- The two models of the attributes do the same to the pointers. -/
theorem write_agrees {t : IfSys} (write : AttrWrite) (agrees : Agrees s t) :
    Agrees (write.run s).state (interfaceWrite t write) := by
  cases write with
  | mesh enable config outcome => exact meshSet_agrees agrees
  | rtap monitorMode opened outcome => exact rtapSet_agrees agrees

end Agreement

section Failure

theorem lbsAddCard_fails (fails : input.FifoFails) : (input.lbsAddCard s).out = false := by
  obtain ⟨_, -, -, -, zero, -, -⟩ := lbsInitAdapter_books input 0
  have failed : (input.lbsInitAdapter .zero).out ≠ 0 := fun success =>
    Bool.false_ne_true (fails.kfifoAlloc.symm.trans (zero.mp success).2)
  unfold BringupInput.lbsAddCard
  simp only [fails.allocEtherdev, Bool.not_true, Bool.false_eq_true, if_false, bind_out,
    modify_apply, acquire_state]
  rw [if_pos failed]
  rfl

theorem activate_fails (fails : input.intMask ≠ 0 ∨ input.setupFirmware ≠ 0) :
    (input.activate s).out ≠ 0 := by
  unfold BringupInput.activate
  by_cases mask : input.intMask = 0
  · have setup := fails.resolve_left (not_not.mpr mask)
    have started (t : CardState) : (input.lbsStartCard t).out = input.setupFirmware := by
      obtain ⟨_, -, ret, -⟩ := lbsStartCard_fails t 0 setup
      exact ret
    simp only [mask, ne_eq, not_true_eq_false, if_false, bind_out, started]
    rw [if_pos setup]
    exact setup
  · simp only [if_pos mask, bind_out]
    exact mask

theorem loadAndAdd_fails (programmed : input.programmed = 0) (leaks : input.LeaksBehind) :
    (input.loadAndAdd s).out ≠ 0 := by
  have loaded (t : CardState) : (input.ifSdioProgFirmware t).out = 0 := by
    obtain ⟨_, -, ret, -⟩ := ifSdioProgFirmware_books input t
      (Multiset.mem_singleton_self Resource.function)
    exact ret.trans programmed
  unfold BringupInput.loadAndAdd
  simp only [bind_out, loaded, ne_eq, not_true_eq_false, if_false]
  split
  · exact show (-eNoMem : Int) ≠ 0 by decide
  · rename_i added
    rcases leaks with fails | ⟨-, fails⟩
    · rw [lbsAddCard_fails fails] at added
      exact absurd rfl added
    · exact activate_fails fails

theorem ifSdioProbe_fails (ready : input.Ready) (leaks : input.LeaksBehind) :
    (input.ifSdioProbe s).out ≠ 0 := by
  obtain ⟨model, known, identified⟩ := ready.identified
  unfold BringupInput.ifSdioProbe BringupInput.claimAndRead
  rw [known]
  simp only [ready.kzallocCard, ready.enableFunc, ready.claimIrq, ready.ioport, if_neg identified,
    Bool.not_true, Bool.false_eq_true, ne_eq, not_true_eq_false, if_false, bind_out]
  exact loadAndAdd_fails ready.programmed leaks

end Failure

end Bringup

/-- A card that comes, whose attributes are written, and that goes again leaves nothing behind, if
the work queue and the devices could be made. -/
theorem life_balanced (input : BringupInput) (writes : List AttrWrite) (s : CardState)
    (up : (input.ifSdioProbe s).out = 0) (unchecked : input.Unchecked)
    (clean : ∀ write ∈ writes, write.Clean) :
    settle {.hostFree} (input.life writes s).journal = some {.hostFree} := by
  rw [← all_iff]
  have kept : ¬ (input.Ready ∧ input.LeaksBehind) := fun ⟨ready, leaks⟩ =>
    Bringup.ifSdioProbe_fails ready leaks up
  obtain ⟨left, settled, -, done⟩ := Bringup.ifSdioProbe_books (s := s) kept
  obtain ⟨state, rfl⟩ := done up unchecked
  unfold BringupInput.life
  refine bind_iff.mpr ⟨_, settled, bind_iff.mpr ?_⟩
  rw [add_zero, ← Multiset.singleton_add, add_comm]
  refine (Bringup.writes_books clean state).mono ?_
  rintro _ t _ ⟨state, rfl⟩
  exact Bringup.ifSdioRemove_books state

/-- The mesh device is removed and added again, and the monitor device is added. -/
theorem life_balanced_writes :
    settle {.hostFree}
      (workingCard.life [.mesh false 0 workingCard.mesh, .mesh true 0 workingCard.mesh,
        .rtap 1 false { alloc := true, register := true, group := false }] .zero).journal =
      some {.hostFree} := by
  refine life_balanced workingCard _ .zero (by decide +kernel) ⟨rfl, rfl, fun _ _ => ⟨rfl, rfl⟩⟩ ?_
  intro write member
  simp only [List.mem_cons, List.not_mem_nil, or_false] at member
  rcases member with rfl | rfl | rfl
  · exact fun _ => ⟨rfl, rfl⟩
  · exact fun _ => ⟨rfl, rfl⟩
  · trivial

end Libertas
