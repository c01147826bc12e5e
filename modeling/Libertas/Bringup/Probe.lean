import Libertas.Bringup.Balance

/-!
# A probe that fails leaves nothing behind

Each label of `if_sdio_probe` undoes one step. There are three exceptions: the FIFO for
events cannot be allocated, the interrupts cannot be enabled, or the card cannot be
started. In all other cases a probe that fails releases what it acquired, and nothing else.
-/

namespace Libertas

open Booking Procedure Procedure.Books

/-- A device is allocated and registered, with its attributes. -/
def meshResources : Multiset Resource :=
  .meshGroup ::ₘ .meshRegistration ::ₘ {.meshDev}

def rtapResources : Multiset Resource :=
  .rtapRegistration ::ₘ {.rtapDev}

/-- What is held for a card that is up, but for its virtual interfaces. -/
def CardState.baseHeld (s : CardState) : Multiset Resource :=
  .registration ::ₘ .irq ::ₘ .function ::ₘ .card ::ₘ (s.queued + s.cardHeld)

def CardState.upHeld (s : CardState) : Multiset Resource :=
  (if s.meshDev then meshResources else 0) +
    ((if s.rtapNetDev then rtapResources else 0) + s.baseHeld)

/-- The mesh device can be registered when it is allocated. -/
def AddOutcome.Clean (outcome : AddOutcome) : Prop :=
  outcome.alloc = true → outcome.register = true ∧ outcome.group = true

/-- `lbs_start_card` adds the mesh device. -/
def BringupInput.AddsMesh (input : BringupInput) : Prop :=
  input.newer = true ∧ IfSys.startMeshTlv input.config.1 input.config.2 ≠ 0

/-- What `lbs_start_card` and `lbs_add_card` do not look at succeeds. -/
structure BringupInput.Unchecked (input : BringupInput) : Prop where
  createWorkqueue : input.createWorkqueue = true
  registerNetdev : input.registerNetdev = true
  mesh : input.AddsMesh → input.mesh.Clean

/-- The pointers of a card that is up. -/
structure CardState.Up (s : CardState) : Prop where
  eventFifo : s.eventFifo = .valid
  workThread : s.workThread = true

/-- The labels of `if_sdio_probe` do not undo what comes behind `lbs_add_card`, and
`lbs_free_adapter` does not know that the FIFO is missing. -/
def BringupInput.LeaksBehind (input : BringupInput) : Prop :=
  input.FifoFails ∨ input.Adds ∧ (input.intMask ≠ 0 ∨ input.setupFirmware ≠ 0)

/-- The function is enabled, and the firmware runs. -/
structure BringupInput.Ready (input : BringupInput) : Prop where
  model : input.model = some 0x04 ∨ input.model = some 0x0b
  kzallocCard : input.kzallocCard = true
  enableFunc : input.enableFunc = 0
  claimIrq : input.claimIrq = 0
  ioport : input.ioport = (0, 0, 0)
  programmed : input.programmed = 0

theorem BringupInput.Ready.identified {input : BringupInput} (ready : input.Ready) :
    ∃ model, input.model = some model ∧ ¬ (model ≠ 0x04 ∧ model ≠ 0x0b) := by
  rcases ready.model with known | known <;> exact ⟨_, known, by decide⟩

namespace Bringup

variable {s : CardState} {rest held : Multiset Resource} {ret : Int} {input : BringupInput}

section Start

theorem lbsAddMesh_books {outcome : AddOutcome} :
    Books allResources (lbsAddMesh outcome) s held fun _ t left =>
      t = { s with meshDev := s.meshDev || outcome.alloc } ∧
        (outcome.Clean → left = (if outcome.alloc then meshResources else 0) + held) := by
  unfold lbsAddMesh
  cases allocated : outcome.alloc with
  | false => exact pure_iff.mpr ⟨by simp, by simp⟩
  | true =>
      cases registered : outcome.register <;> cases group : outcome.group <;>
        simp [bind_iff, acquire_iff, release_iff, modify_iff, AddOutcome.Clean, allocated,
          registered, group, meshResources]

theorem lbsSetupFirmware_books :
    Books allResources input.lbsSetupFirmware s held fun ret t left =>
      ret = input.setupFirmware ∧ left = packetsOf (List.range input.packets) + held ∧
        t = { s with packets := input.packets } := by
  unfold BringupInput.lbsSetupFirmware
  simp only [bind_iff, modify_iff, pure_iff]
  refine (Books.each (fun indices t left => t = s ∧
    packetsOf indices + left = packetsOf (List.range input.packets) + held) ?_ ⟨rfl, rfl⟩).mono ?_
  · rintro i indices t left ⟨rfl, same⟩
    rw [acquire_iff]
    refine ⟨rfl, ?_⟩
    rw [← same]
    simp
  · rintro _ t left ⟨rfl, same⟩
    exact ⟨trivial, by simpa using same, rfl⟩

/-- When the net device cannot be registered `lbs_start_card` returns 0 all the same. -/
theorem lbsStartCard_books (setup : input.setupFirmware = 0) (fresh : s.meshDev = false) :
    Books allResources input.lbsStartCard s held fun ret t left =>
      ret = 0 ∧ t = { s with packets := input.packets, meshDev := t.meshDev } ∧
        (input.Unchecked → left = (if t.meshDev then meshResources else 0) +
          .registration ::ₘ (packetsOf (List.range input.packets) + held)) := by
  unfold BringupInput.lbsStartCard
  refine bind_iff.mpr (lbsSetupFirmware_books.mono ?_)
  rintro _ t _ ⟨rfl, rfl, rfl⟩
  rw [setup, if_neg (not_not.mpr rfl)]
  cases registered : input.registerNetdev with
  | false =>
      refine pure_iff.mpr ⟨rfl, rfl, fun unchecked => ?_⟩
      exact absurd (registered.symm.trans unchecked.registerNetdev) (by simp)
  | true =>
      simp only [Bool.not_true, Bool.false_eq_true, if_false, bind_iff, acquire_iff, if_true]
      by_cases adds : input.AddsMesh
      · rw [if_pos (by simpa [BringupInput.AddsMesh] using adds)]
        refine bind_iff.mpr (lbsAddMesh_books.mono ?_)
        rintro _ t _ ⟨rfl, clean⟩
        refine pure_iff.mpr ⟨rfl, rfl, fun unchecked => ?_⟩
        simpa [fresh] using clean (unchecked.mesh adds)
      · rw [if_neg (by simpa [BringupInput.AddsMesh] using adds)]
        exact pure_iff.mpr ⟨rfl, rfl, fun _ => by simp [fresh]⟩

theorem lbsStartCard_fails (s : CardState) (held : Multiset Resource)
    (setup : input.setupFirmware ≠ 0) :
    Books allResources input.lbsStartCard s held fun ret _ left =>
      ret = input.setupFirmware ∧ left = packetsOf (List.range input.packets) + held := by
  unfold BringupInput.lbsStartCard
  refine bind_iff.mpr (lbsSetupFirmware_books.mono ?_)
  rintro _ t _ ⟨rfl, rfl, rfl⟩
  rw [if_pos setup]
  exact pure_iff.mpr ⟨rfl, rfl⟩

/-- The private structure is a part of the net device. -/
theorem priv_not_mem_cardHeld (s : CardState) : .priv ∉ s.cardHeld := by
  rw [CardState.cardHeld, CardState.adapterHeld, CardState.cmdHeld]
  intro member
  simp only [Multiset.mem_add, Multiset.mem_cons, Multiset.mem_singleton] at member
  split at member <;> split at member <;> split at member <;> split at member <;>
    simp [mem_cmdBuffersOf] at member

end Start

section Up

/-- How a probe ends: when it fails, nothing is left, and otherwise the card is up. -/
def Ends (input : BringupInput) (rest : Multiset Resource) (ret : Int) (t : CardState)
    (left : Multiset Resource) : Prop :=
  (ret ≠ 0 → left = .hostFree ::ₘ rest) ∧
    (ret = 0 → input.Unchecked → t.Up ∧ left = .hostFree ::ₘ (t.upHeld + rest))

theorem activate_books (fifo : s.eventFifo = .valid)
    (others : s.others = (0, input.createWorkqueue, false, false, 0)) (mask : input.intMask = 0)
    (setup : input.setupFirmware = 0) :
    Books allResources input.activate s
      (.hostFree ::ₘ .irq ::ₘ .function ::ₘ .card ::ₘ (s.cardHeld + rest)) (Ends input rest) := by
  simp only [CardState.others, Prod.mk.injEq] at others
  obtain ⟨-, workThread, meshDev, rtapNetDev, -⟩ := others
  unfold BringupInput.activate sdioClaimHost accessFunc sdioReleaseHost
  simp only [bind_iff, acquire_iff, use_iff, release_iff]
  refine ⟨fun _ => by simp, ⟨fun _ => by simp, fun _ => by simp, fun _ => by simp, ?_⟩⟩
  simp only [if_true, Multiset.erase_cons_head, mask, ne_eq, not_true_eq_false, if_false]
  refine bind_iff.mpr ((lbsStartCard_books setup meshDev).mono ?_)
  rintro _ t left ⟨rfl, only, unchecked⟩
  refine pure_iff.mpr ⟨absurd rfl, fun _ all => ⟨⟨?_, ?_⟩, ?_⟩⟩
  · rw [only]
    exact fifo
  · rw [only]
    exact workThread.trans all.createWorkqueue
  · have adapter : t.adapterHeld = s.adapterHeld := by
      rw [only]
      rfl
    have packets : t.packets = input.packets := by rw [only]
    have rtap : t.rtapNetDev = false := by
      rw [only]
      exact rtapNetDev
    have work : t.workThread = s.workThread := by rw [only]
    rw [unchecked all, CardState.upHeld, CardState.baseHeld, CardState.queued, packets, rtap,
      CardState.cardHeld,
      CardState.cardHeld, work, adapter]
    simp only [Bool.false_eq_true, if_false, zero_add, ← Multiset.singleton_add]
    ac_rfl

theorem activate_leaks (queue : s.packets = 0)
    (leaks : input.intMask ≠ 0 ∨ input.setupFirmware ≠ 0) :
    ¬ Books allResources input.activate s
      (.hostFree ::ₘ .irq ::ₘ .function ::ₘ .card ::ₘ s.cardHeld)
      fun _ _ left => left = {.hostFree} := by
  unfold BringupInput.activate sdioClaimHost accessFunc sdioReleaseHost
  simp only [bind_iff, acquire_iff, use_iff, release_iff]
  rintro ⟨-, ⟨-, -, -, books⟩⟩
  simp only [if_true, Multiset.erase_cons_head] at books
  by_cases mask : input.intMask = 0
  · have setup := leaks.resolve_left (not_not.mpr mask)
    rw [mask, if_neg (not_not.mpr rfl)] at books
    refine not_false (((bind_iff.mp books).both (lbsStartCard_fails s _ setup)).mono ?_)
    rintro _ t _ ⟨books, rfl, rfl⟩
    rw [if_pos setup] at books
    refine labelErrActivateCard_unbooked ?_ books
    simp [mem_packetsOf, priv_not_mem_cardHeld]
  · rw [if_pos mask] at books
    have reclaimed : Books allResources (labelReclaim input.intMask) s
        (.hostFree ::ₘ .irq ::ₘ .function ::ₘ .card ::ₘ (s.queued + s.cardHeld))
        fun out _ left => out = input.intMask ∧ left = .hostFree ::ₘ s.cardHeld :=
      labelReclaim_books s s.cardHeld input.intMask
    rw [CardState.queued, queue, List.range_zero, packetsOf_nil, zero_add] at reclaimed
    refine not_false ((books.both reclaimed).mono ?_)
    rintro _ _ left ⟨rfl, -, same⟩
    have held : Resource.mainThread ∈ ({.hostFree} : Multiset Resource) := by
      rw [same]
      simp [CardState.cardHeld]
    simp at held

end Up

section Ladder

theorem failed_ends {out : Int} {t : CardState} {left : Multiset Resource} (failed : ret ≠ 0)
    (ended : out = ret ∧ left = .hostFree ::ₘ rest) : Ends input rest out t left := by
  obtain ⟨rfl, rfl⟩ := ended
  exact ⟨fun _ => rfl, fun success => absurd success failed⟩

/-- In front of `labelReclaim` the packet queue is empty. -/
theorem reclaim_ends (queue : s.packets = 0) (failed : ret ≠ 0) :
    Books allResources (labelReclaim ret) s
      (.hostFree ::ₘ .irq ::ₘ .function ::ₘ .card ::ₘ rest) (Ends input rest) := by
  have reclaimed := labelReclaim_books s rest ret
  rw [CardState.queued, queue, List.range_zero, packetsOf_nil, zero_add] at reclaimed
  exact reclaimed.mono fun _ _ _ => failed_ends failed

theorem add_ladder (held rest : Multiset Resource) :
    held + .hostFree ::ₘ .irq ::ₘ .function ::ₘ .card ::ₘ rest =
      .hostFree ::ₘ .irq ::ₘ .function ::ₘ .card ::ₘ (held + rest) := by
  simp only [Multiset.add_cons]

theorem loadAndAdd_books (queue : s.packets = 0)
    (kept : ¬ (input.programmed = 0 ∧ input.LeaksBehind)) :
    Books allResources input.loadAndAdd s
      (.host ::ₘ .irq ::ₘ .function ::ₘ .card ::ₘ rest) (Ends input rest) := by
  unfold BringupInput.loadAndAdd sdioReleaseHost
  simp only [bind_iff, acquire_iff, release_iff]
  refine ⟨fun _ => by simp, ?_⟩
  simp only [if_true, Multiset.erase_cons_head]
  refine (ifSdioProgFirmware_books input s (by simp)).mono ?_
  rintro _ _ _ ⟨rfl, rfl, rfl⟩
  by_cases programmed : input.programmed ≠ 0
  · rw [if_pos programmed]
    exact reclaim_ends queue programmed
  · rw [if_neg programmed]
    have success := not_not.mp programmed
    have fine : ¬ input.FifoFails := fun fails => kept ⟨success, .inl fails⟩
    refine bind_iff.mpr ((lbsAddCard_books queue fine).mono ?_)
    rintro added t left ⟨adds, packets, undone, done⟩
    cases added with
    | false =>
        rw [undone rfl]
        exact reclaim_ends packets (by decide)
    | true =>
        obtain ⟨rfl, fifo, others⟩ := done rfl
        have both : input.intMask = 0 ∧ input.setupFirmware = 0 := by
          by_contra wrong
          exact kept ⟨success, .inr ⟨adds.mp rfl, not_and_or.mp wrong⟩⟩
        rw [add_ladder]
        exact activate_books fifo others both.1 both.2

theorem loadAndAdd_leaks (queue : s.packets = 0) (programmed : input.programmed = 0)
    (leaks : input.LeaksBehind) :
    ¬ Books allResources input.loadAndAdd s (.host ::ₘ .irq ::ₘ .function ::ₘ {.card})
      fun _ _ left => left = {.hostFree} := by
  unfold BringupInput.loadAndAdd sdioReleaseHost
  simp only [bind_iff, acquire_iff, release_iff]
  rintro ⟨-, books⟩
  simp only [if_true, Multiset.erase_cons_head] at books
  refine not_false ((books.both (ifSdioProgFirmware_books input s (by simp))).mono ?_)
  rintro _ _ _ ⟨books, rfl, rfl, rfl⟩
  rw [if_neg (not_not.mpr programmed), bind_iff] at books
  rcases leaks with fails | ⟨adds, leaks⟩
  · exact lbsAddCard_unbooked fails (by simp) books
  · have fine : ¬ input.FifoFails := fun fails =>
      Bool.false_ne_true (fails.kfifoAlloc.symm.trans adds.kfifoAlloc)
    refine not_false ((books.both (lbsAddCard_books queue fine)).mono ?_)
    rintro added t left ⟨books, added_iff, packets, -, done⟩
    obtain rfl := added_iff.mpr adds
    obtain ⟨rfl, -, -⟩ := done rfl
    refine activate_leaks packets leaks ?_
    have order := add_ladder t.cardHeld 0
    rw [add_zero] at order
    rw [← order]
    exact books

theorem releaseInt_ends (queue : s.packets = 0) (failed : ret ≠ 0) :
    Books allResources (labelReleaseInt ret) s
      (.host ::ₘ .irq ::ₘ .function ::ₘ .card ::ₘ rest) (Ends input rest) := by
  have released := labelReleaseInt_books s rest ret
  rw [CardState.queued, queue, List.range_zero, packetsOf_nil, zero_add] at released
  exact released.mono fun _ _ _ => failed_ends failed

theorem claimAndRead_books (queue : s.packets = 0)
    (kept : ¬ (input.claimIrq = 0 ∧ input.ioport = (0, 0, 0) ∧ input.programmed = 0 ∧
      input.LeaksBehind)) :
    Books allResources input.claimAndRead s
      (.host ::ₘ .function ::ₘ .card ::ₘ rest) (Ends input rest) := by
  unfold BringupInput.claimAndRead
  rw [bind_iff, use_iff]
  refine ⟨fun _ => by simp, ?_⟩
  by_cases irq : input.claimIrq ≠ 0
  · have disabled := labelDisable_books s rest input.claimIrq
    rw [CardState.queued, queue, List.range_zero, packetsOf_nil, zero_add] at disabled
    rw [if_pos irq]
    exact disabled.mono fun _ _ _ => failed_ends irq
  · unfold accessFunc
    simp only [if_neg irq, bind_iff, acquire_iff, use_iff, if_true,
      Multiset.cons_swap Resource.irq Resource.host]
    refine ⟨fun _ => by simp, fun _ => by simp, ?_⟩
    by_cases first : input.ioport.1 ≠ 0
    · rw [if_pos first]
      exact releaseInt_ends queue first
    rw [if_neg first]
    simp only [bind_iff, use_iff]
    refine ⟨fun _ => by simp, fun _ => by simp, ?_⟩
    by_cases second : input.ioport.2.1 ≠ 0
    · rw [if_pos second]
      exact releaseInt_ends queue second
    rw [if_neg second]
    simp only [bind_iff, use_iff]
    refine ⟨fun _ => by simp, fun _ => by simp, ?_⟩
    by_cases third : input.ioport.2.2 ≠ 0
    · rw [if_pos third]
      exact releaseInt_ends queue third
    rw [if_neg third]
    have read : input.ioport = (0, 0, 0) :=
      Prod.ext (not_not.mp first) (Prod.ext (not_not.mp second) (not_not.mp third))
    exact loadAndAdd_books queue fun leaks => kept ⟨not_not.mp irq, read, leaks⟩

theorem claimAndRead_leaks (queue : s.packets = 0) (irq : input.claimIrq = 0)
    (read : input.ioport = (0, 0, 0)) (programmed : input.programmed = 0)
    (leaks : input.LeaksBehind) :
    ¬ Books allResources input.claimAndRead s (.host ::ₘ .function ::ₘ {.card})
      fun _ _ left => left = {.hostFree} := by
  unfold BringupInput.claimAndRead accessFunc
  simp only [irq, read, ne_eq, not_true_eq_false, if_false, bind_iff, acquire_iff, use_iff, if_true,
    Multiset.cons_swap Resource.irq Resource.host]
  rintro ⟨-, -, -, -, -, -, -, books⟩
  exact loadAndAdd_leaks queue programmed leaks books

end Ladder

/-- Unless it comes to one of the three exceptions a probe ends as it should. -/
theorem ifSdioProbe_books (kept : ¬ (input.Ready ∧ input.LeaksBehind)) :
    Books allResources input.ifSdioProbe s {.hostFree} (Ends input 0) := by
  unfold BringupInput.ifSdioProbe
  cases known : input.model with
  | none => exact pure_iff.mpr ⟨fun _ => rfl, fun success => absurd success (by decide)⟩
  | some model =>
      dsimp only
      cases allocated : input.kzallocCard with
      | false => exact pure_iff.mpr ⟨fun _ => rfl, fun success => absurd success (by decide)⟩
      | true =>
          simp only [Bool.not_true, Bool.false_eq_true, if_false, bind_iff, acquire_iff,
            modify_iff, if_true]
          have start : (Resource.card ::ₘ {Resource.hostFree} : Multiset Resource).erase .hostFree =
              {.card} := by
            simp
          by_cases unknown : model ≠ 0x04 ∧ model ≠ 0x0b
          · have freed := labelFree_books { s with packets := 0 } {.hostFree} (-eNoDev)
            rw [if_pos unknown]
            exact freed.mono fun _ _ _ => failed_ends (by decide)
          rw [if_neg unknown]
          unfold sdioClaimHost
          simp only [bind_iff, acquire_iff, use_iff, release_iff, if_true, start]
          refine ⟨fun _ => by simp, fun _ => by simp, ?_⟩
          by_cases enabled : input.enableFunc ≠ 0
          · have released := labelRelease_books { s with packets := 0 } 0 input.enableFunc
            rw [if_pos enabled]
            exact released.mono fun _ _ _ => failed_ends enabled
          rw [if_neg enabled]
          simp only [bind_iff, acquire_iff, if_true,
            Multiset.cons_swap Resource.function Resource.host]
          refine claimAndRead_books rfl fun behind => kept ⟨?_, behind.2.2.2⟩
          exact
            { model := (not_and_or.mp unknown).imp
                (fun same => known.trans (congrArg some (not_not.mp same)))
                fun same => known.trans (congrArg some (not_not.mp same))
              kzallocCard := allocated
              enableFunc := not_not.mp enabled
              claimIrq := behind.1
              ioport := behind.2.1
              programmed := behind.2.2.1 }

theorem ifSdioProbe_leaks (ready : input.Ready) (leaks : input.LeaksBehind) :
    ¬ Books allResources input.ifSdioProbe s {.hostFree} fun _ _ left => left = {.hostFree} := by
  obtain ⟨model, known, identified⟩ := ready.identified
  have start : (Resource.card ::ₘ {Resource.hostFree} : Multiset Resource).erase .hostFree =
      {.card} := by
    simp
  unfold BringupInput.ifSdioProbe sdioClaimHost
  rw [known]
  simp only [ready.kzallocCard, ready.enableFunc, if_neg identified, Bool.not_true,
    Bool.false_eq_true, ne_eq, not_true_eq_false, if_false, bind_iff, acquire_iff, use_iff,
    release_iff, modify_iff, if_true, start, Multiset.cons_swap Resource.function Resource.host]
  rintro ⟨-, -, books⟩
  exact claimAndRead_leaks rfl ready.claimIrq ready.ioport ready.programmed leaks books

end Bringup

/-- A probe that fails releases everything it acquired, and nothing else, exactly if it does not
come to one of the three exceptions. -/
theorem probe_failure_balanced (input : BringupInput) (s : CardState)
    (failed : (input.ifSdioProbe s).out ≠ 0) :
    settle {.hostFree} (input.ifSdioProbe s).journal = some {.hostFree} ↔
      ¬ (input.Ready ∧ input.LeaksBehind) := by
  rw [← all_iff]
  constructor
  · exact fun balanced ⟨ready, leaks⟩ => Bringup.ifSdioProbe_leaks ready leaks balanced
  · intro kept
    obtain ⟨left, settled, undone, -⟩ := Bringup.ifSdioProbe_books (s := s) kept
    exact ⟨left, settled, undone failed⟩

/-- A card on which nothing fails. -/
def workingCard : BringupInput where
  model := some 0x0b
  kzallocCard := true
  enableFunc := 0
  claimIrq := 0
  ioport := (0, 0, 0)
  scratch := ((0, 0), (0, 0))
  helper := { request := 0, alloc := true, transfer := 0 }
  real := { request := 0, alloc := true, transfer := 0 }
  allocEtherdev := true
  networks := true
  cmdArray := true
  cmdbuf := fun _ => true
  kfifoAlloc := true
  kthreadRun := true
  createWorkqueue := true
  intMask := 0
  setupFirmware := 0
  packets := 1
  registerNetdev := true
  newer := true
  config := (0, 0)
  mesh := { alloc := true, register := true, group := true }

/-- The fourth buffer for commands cannot be allocated. -/
theorem probe_failure_balanced_buffer :
    settle {.hostFree}
      (({ workingCard with cmdbuf := fun i => i != 3 } : BringupInput).ifSdioProbe .zero).journal =
        some {.hostFree} := by
  refine (probe_failure_balanced _ .zero (by decide +kernel)).mpr fun ⟨_, leaks⟩ => ?_
  rcases leaks with fails | ⟨adds, _⟩
  · exact absurd (fails.buffered.2.2 3 (by decide)) (by decide)
  · exact absurd (adds.buffered.2.2 3 (by decide)) (by decide)

end Libertas
