import Libertas.Bringup

/-!
# What the card leaves behind
-/

namespace Libertas

open Booking Procedure Procedure.Books

/-- All resources are taken into account. -/
abbrev allResources : Resource → Bool := fun _ => true

/-- The packets with these numbers. -/
def packetsOf (indices : List Nat) : Multiset Resource :=
  (indices.map Resource.packet : List Resource)

/-- The buffers of the command array with these numbers. -/
def cmdBuffersOf (indices : List Nat) : Multiset Resource :=
  (indices.map Resource.cmdBuffer : List Resource)

@[simp] theorem packetsOf_nil : packetsOf [] = 0 := rfl

@[simp] theorem packetsOf_cons {i : Nat} {indices : List Nat} :
    packetsOf (i :: indices) = .packet i ::ₘ packetsOf indices := rfl

@[simp] theorem cmdBuffersOf_nil : cmdBuffersOf [] = 0 := rfl

@[simp] theorem cmdBuffersOf_cons {i : Nat} {indices : List Nat} :
    cmdBuffersOf (i :: indices) = .cmdBuffer i ::ₘ cmdBuffersOf indices := rfl

theorem mem_packetsOf {indices : List Nat} {r : Resource} :
    r ∈ packetsOf indices ↔ ∃ i ∈ indices, .packet i = r := by
  simp [packetsOf]

theorem mem_cmdBuffersOf {indices : List Nat} {r : Resource} :
    r ∈ cmdBuffersOf indices ↔ ∃ i ∈ indices, .cmdBuffer i = r := by
  simp [cmdBuffersOf]

/-- The packets in the queue. -/
def CardState.queued (s : CardState) : Multiset Resource :=
  packetsOf (List.range s.packets)

/-- What is held through `cmd_array`. -/
def CardState.cmdHeld (s : CardState) : Multiset Resource :=
  if s.cmdArray then
    .cmdArray ::ₘ cmdBuffersOf ((List.range lbsNumCmdBuffers).filter s.cmdbuf)
  else 0

/-- What is held through the pointers that `lbs_init_adapter` writes. -/
def CardState.adapterHeld (s : CardState) : Multiset Resource :=
  (if s.networks then {.networks} else 0) + s.cmdHeld +
    if s.eventFifo = .valid then {.eventFifo} else 0

/-- The fields that `lbs_init_adapter` does not write. -/
def CardState.others (s : CardState) : Nat × Bool × Bool × Bool × Int :=
  (s.packets, s.workThread, s.meshDev, s.rtapNetDev, s.monitormode)

/-- The buffers can be allocated. -/
def BringupInput.Buffered (input : BringupInput) : Prop :=
  input.networks = true ∧ input.cmdArray = true ∧
    ∀ i ∈ List.range lbsNumCmdBuffers, input.cmdbuf i = true

/-- What `if_sdio_prog_helper` and `if_sdio_prog_real` return. -/
def ImageAnswers.result (answers : ImageAnswers) : Int :=
  if answers.request ≠ 0 then answers.request
  else if !answers.alloc then -eNoMem else answers.transfer

/-- What `if_sdio_prog_firmware` returns. -/
def BringupInput.programmed (input : BringupInput) : Int :=
  let (scratch, error) := readRegisters input.scratch.1 input.scratch.2
  if error ≠ 0 then error
  else if scratch = ifSdioFirmwareOk then 0
  else if input.helper.result ≠ 0 then input.helper.result else input.real.result

/-- `lbs_add_card` succeeds. -/
structure BringupInput.Adds (input : BringupInput) : Prop where
  allocEtherdev : input.allocEtherdev = true
  buffered : input.Buffered
  kfifoAlloc : input.kfifoAlloc = true
  kthreadRun : input.kthreadRun = true

/-- `lbs_add_card` comes to the FIFO, and that is not allocated. -/
structure BringupInput.FifoFails (input : BringupInput) : Prop where
  allocEtherdev : input.allocEtherdev = true
  buffered : input.Buffered
  kfifoAlloc : input.kfifoAlloc = false

/-- What `lbs_add_card` leaves held. -/
def CardState.cardHeld (s : CardState) : Multiset Resource :=
  (if s.workThread then {.workThread} else 0) + .mainThread ::ₘ (s.adapterHeld + {.netDev})

namespace Bringup

variable {s : CardState} {rest : Multiset Resource} {ret : Int}

section Labels

theorem freeCard_books (s : CardState) (rest : Multiset Resource) :
    Books allResources freeCard s (.card ::ₘ (s.queued + rest)) fun _ _ left => left = rest := by
  unfold freeCard
  simp only [bind_iff, get_iff, modify_iff, release_iff]
  refine (Books.each (fun indices _ left => left = .card ::ₘ (packetsOf indices + rest)) ?_
    rfl).mono ?_
  · rintro i indices t _ rfl
    simp [release_iff]
  · rintro _ t _ rfl
    simp

theorem labelFree_books (s : CardState) (rest : Multiset Resource) (ret : Int) :
    Books allResources (labelFree ret) s (.card ::ₘ (s.queued + rest)) fun out _ left =>
      out = ret ∧ left = rest := by
  unfold labelFree
  exact bind_iff.mpr ((freeCard_books s rest).mono fun _ _ _ left => pure_iff.mpr ⟨rfl, left⟩)

theorem labelRelease_books (s : CardState) (rest : Multiset Resource) (ret : Int) :
    Books allResources (labelRelease ret) s (.host ::ₘ .card ::ₘ (s.queued + rest))
      fun out _ left => out = ret ∧ left = .hostFree ::ₘ rest := by
  unfold labelRelease sdioReleaseHost
  simp only [bind_iff, acquire_iff, release_iff]
  refine ⟨fun _ => by simp, ?_⟩
  have free := labelFree_books s (.hostFree ::ₘ rest) ret
  rw [Multiset.add_cons, Multiset.cons_swap] at free
  simpa using free

theorem labelDisable_books (s : CardState) (rest : Multiset Resource) (ret : Int) :
    Books allResources (labelDisable ret) s (.host ::ₘ .function ::ₘ .card ::ₘ (s.queued + rest))
      fun out _ left => out = ret ∧ left = .hostFree ::ₘ rest := by
  unfold labelDisable sdioDisableFunc
  simp only [bind_iff, use_iff, release_iff]
  simpa using labelRelease_books s rest ret

theorem labelReleaseInt_books (s : CardState) (rest : Multiset Resource) (ret : Int) :
    Books allResources (labelReleaseInt ret) s
      (.host ::ₘ .irq ::ₘ .function ::ₘ .card ::ₘ (s.queued + rest))
      fun out _ left => out = ret ∧ left = .hostFree ::ₘ rest := by
  unfold labelReleaseInt sdioReleaseIrq
  simp only [bind_iff, use_iff, release_iff]
  simpa using labelDisable_books s rest ret

theorem labelReclaim_books (s : CardState) (rest : Multiset Resource) (ret : Int) :
    Books allResources (labelReclaim ret) s
      (.hostFree ::ₘ .irq ::ₘ .function ::ₘ .card ::ₘ (s.queued + rest))
      fun out _ left => out = ret ∧ left = .hostFree ::ₘ rest := by
  unfold labelReclaim sdioClaimHost
  simp only [bind_iff, acquire_iff, release_iff]
  simpa using labelReleaseInt_books s rest ret

/-- The private structure is no allocation of its own. -/
theorem labelErrActivateCard_unbooked {held : Multiset Resource}
    {behind : Int → CardState → Multiset Resource → Prop} (absent : .priv ∉ held) :
    ¬ Books allResources (labelErrActivateCard ret) s held behind := by
  unfold labelErrActivateCard
  simp only [bind_iff, release_iff]
  rintro ⟨-, member, -⟩
  exact absent (Multiset.mem_of_mem_erase (member trivial))

end Labels

section Buffers

theorem allocateCmdbuf_books {input : BringupInput} {indices : List Nat} {held : Multiset Resource}
    (nodup : indices.Nodup) (empty : ∀ i ∈ indices, s.cmdbuf i = false) :
    Books allResources (stages (indices.map input.allocateCmdbuf)) s held fun ret t left =>
      left = cmdBuffersOf (indices.filter t.cmdbuf) + held ∧
        (∀ i ∉ indices, t.cmdbuf i = s.cmdbuf i) ∧ t = { s with cmdbuf := t.cmdbuf } ∧
        (ret = 0 ↔ ∀ i ∈ indices, input.cmdbuf i = true) := by
  induction indices generalizing s held with
  | nil => exact pure_iff.mpr ⟨by simp, by simp, rfl, by simp⟩
  | cons i rest ih =>
      obtain ⟨fresh, nodup⟩ := List.nodup_cons.mp nodup
      rw [List.map_cons]
      refine bind_iff.mpr ?_
      unfold BringupInput.allocateCmdbuf
      cases allocated : input.cmdbuf i with
      | false =>
          have none : (i :: rest).filter s.cmdbuf = [] :=
            List.filter_eq_nil_iff.mpr fun j member => by simp [empty j member]
          refine pure_iff.mpr (pure_iff.mpr ⟨by rw [none]; simp, by simp, rfl, ?_⟩)
          simp [allocated]
      | true =>
          simp only [Bool.not_true, Bool.false_eq_true, if_false, bind_iff, acquire_iff, modify_iff,
            pure_iff]
          refine (ih nodup fun j member => ?_).mono fun ret t left => ?_
          · have other : j ≠ i := fun same => fresh (same ▸ member)
            exact (Function.update_of_ne other _ _).trans (empty j (List.mem_cons_of_mem i member))
          · rintro ⟨rfl, outside, only, all⟩
            have here : t.cmdbuf i = true :=
              (outside i fresh).trans (Function.update_self i true s.cmdbuf)
            refine ⟨?_, fun j other => ?_, only, ?_⟩
            · rw [List.filter_cons_of_pos here]
              simp
            · obtain ⟨different, absent⟩ := not_or.mp (mt List.mem_cons.mpr other)
              exact (outside j absent).trans (Function.update_of_ne different _ _)
            · rw [all]
              simp [allocated]

theorem lbsAllocateCmdBuffer_books {input : BringupInput} {held : Multiset Resource}
    (none : s.cmdArray = false) (empty : ∀ i, s.cmdbuf i = false) :
    Books allResources input.lbsAllocateCmdBuffer s held fun ret t left =>
      left = t.cmdHeld + held ∧ t = { s with cmdArray := t.cmdArray, cmdbuf := t.cmdbuf } ∧
        (ret = 0 ↔ input.cmdArray = true ∧
          ∀ i ∈ List.range lbsNumCmdBuffers, input.cmdbuf i = true) := by
  unfold BringupInput.lbsAllocateCmdBuffer
  cases allocated : input.cmdArray with
  | false => exact pure_iff.mpr ⟨by simp [CardState.cmdHeld, none], rfl, by simp⟩
  | true =>
      simp only [Bool.not_true, Bool.false_eq_true, if_false, bind_iff, acquire_iff, modify_iff,
        if_true, true_and]
      refine (allocateCmdbuf_books (s := { s with cmdArray := true }) List.nodup_range
        fun i _ => empty i).mono fun ret t left => ?_
      rintro ⟨rfl, -, only, all⟩
      have array : t.cmdArray = true := by rw [only]
      refine ⟨?_, ?_, all⟩
      · rw [CardState.cmdHeld, if_pos array]
        simp
      · rw [array]
        exact only

theorem lbsFreeCmdBuffer_books :
    Books allResources lbsFreeCmdBuffer s (s.cmdHeld + rest) fun _ t left =>
      left = rest ∧ t = { s with cmdArray := t.cmdArray, cmdbuf := t.cmdbuf } := by
  unfold lbsFreeCmdBuffer
  rw [bind_iff, get_iff]
  cases array : s.cmdArray with
  | false => exact pure_iff.mpr ⟨by simp [CardState.cmdHeld, array], rfl⟩
  | true =>
      rw [CardState.cmdHeld, if_pos array]
      simp only [Bool.not_true, Bool.false_eq_true, if_false, bind_iff, release_iff, modify_iff,
        if_true]
      refine (Books.each (fun indices t left => indices.Nodup ∧
        left = .cmdArray ::ₘ (cmdBuffersOf (indices.filter t.cmdbuf) + rest) ∧
          t = { s with cmdbuf := t.cmdbuf }) ?_ ⟨List.nodup_range, ?_, rfl⟩).mono ?_
      · rintro i indices t _ ⟨nodup, rfl, only⟩
        obtain ⟨fresh, nodup⟩ := List.nodup_cons.mp nodup
        unfold freeCmdbuf
        rw [bind_iff, get_iff]
        cases buffer : t.cmdbuf i with
        | false =>
            refine pure_iff.mpr ⟨nodup, ?_, only⟩
            rw [List.filter_cons_of_neg (by simp [buffer])]
        | true =>
            have kept : indices.filter (Function.update t.cmdbuf i false) =
                indices.filter t.cmdbuf := List.filter_congr fun j member => by
              have other : j ≠ i := fun same => fresh (same ▸ member)
              rw [Function.update_of_ne other]
            rw [List.filter_cons_of_pos buffer]
            simp only [if_true, bind_iff, release_iff, modify_iff, kept]
            refine ⟨by simp, nodup, by simp, ?_⟩
            rw [only]
      · rw [Multiset.cons_add]
      · rintro _ t _ ⟨-, rfl, only⟩
        refine ⟨by simp, by simp, ?_⟩
        rw [only]

end Buffers

section Adapter

theorem lbsFreeAdapter_books (sound : s.eventFifo ≠ .error) :
    Books allResources lbsFreeAdapter s (s.adapterHeld + rest) fun _ t left =>
      left = rest ∧ t.packets = s.packets := by
  have order : s.adapterHeld + rest = s.cmdHeld + ((if s.networks then {.networks} else 0) +
      ((if s.eventFifo = .valid then {.eventFifo} else 0) + rest)) := by
    rw [CardState.adapterHeld]
    ac_rfl
  rw [order]
  unfold lbsFreeAdapter
  refine bind_iff.mpr (lbsFreeCmdBuffer_books.mono ?_)
  rintro - t _ ⟨rfl, only⟩
  have fifo : t.eventFifo = s.eventFifo := by rw [only]
  have networks : t.networks = s.networks := by rw [only]
  have packets : t.packets = s.packets := by rw [only]
  simp only [bind_iff, get_iff, modify_iff, ite_iff, release_iff, fifo, networks]
  cases pointer : s.eventFifo with
  | null => cases allocated : s.networks <;> simp [packets]
  | error => exact absurd pointer sound
  | valid => cases allocated : s.networks <;> simp [packets]

/-- A pointer that is an error is passed to `kfifo_free`. -/
theorem lbsFreeAdapter_unbooked {behind : PUnit → CardState → Multiset Resource → Prop}
    (error : s.eventFifo = .error) (absent : .eventFifo ∉ rest) :
    ¬ Books allResources lbsFreeAdapter s (s.adapterHeld + rest) behind := by
  have order : s.adapterHeld + rest =
      s.cmdHeld + ((if s.networks then {.networks} else 0) + rest) := by
    rw [CardState.adapterHeld, error]
    simp only [reduceCtorEq, if_false]
    ac_rfl
  rw [order]
  unfold lbsFreeAdapter
  intro books
  refine not_false (((bind_iff.mp books).both lbsFreeCmdBuffer_books).mono ?_)
  rintro - t _ ⟨books, rfl, only⟩
  have fifo : t.eventFifo = .error := by rw [only, error]
  simp only [bind_iff, get_iff, ite_iff, release_iff, fifo, ne_eq, reduceCtorEq,
    not_false_eq_true, if_true] at books
  have member := books.1 trivial
  rcases Multiset.mem_add.mp member with member | member
  · split at member <;> simp at member
  · exact absent member

theorem cmdHeld_congr {t : CardState} (array : t.cmdArray = s.cmdArray)
    (buffers : t.cmdbuf = s.cmdbuf) : t.cmdHeld = s.cmdHeld := by
  rw [CardState.cmdHeld, CardState.cmdHeld, array, buffers]

theorem lbsInitAdapter_books (input : BringupInput) (held : Multiset Resource) :
    Books allResources input.lbsInitAdapter .zero held fun ret t left =>
      left = t.adapterHeld + held ∧ t.others = CardState.zero.others ∧
        (ret = 0 ↔ input.Buffered ∧ input.kfifoAlloc = true) ∧ (ret = 0 → t.eventFifo = .valid) ∧
        (t.eventFifo = .error ↔ input.Buffered ∧ input.kfifoAlloc = false) := by
  unfold BringupInput.lbsInitAdapter
  cases allocated : input.networks with
  | false =>
      have unbuffered : ¬ input.Buffered := fun buffered =>
        Bool.false_ne_true (allocated.symm.trans buffered.1)
      exact pure_iff.mpr ⟨by simp [CardState.adapterHeld, CardState.cmdHeld, CardState.zero], rfl,
        by simp [unbuffered], by simp, by simp [unbuffered, CardState.zero]⟩
  | true =>
      simp only [Bool.not_true, Bool.false_eq_true, if_false, bind_iff, acquire_iff, modify_iff,
        if_true]
      refine (lbsAllocateCmdBuffer_books rfl fun _ => rfl).mono ?_
      rintro ret t _ ⟨rfl, only, all⟩
      have buffered : ret = 0 ↔ input.Buffered := by
        rw [all, BringupInput.Buffered, allocated]
        simp
      have networks : t.networks = true := by rw [only]
      have null : t.eventFifo = .null := by
        rw [only]
        rfl
      have others : t.others = CardState.zero.others := by
        rw [only]
        rfl
      by_cases failed : ret ≠ 0
      · have unbuffered : ¬ input.Buffered := fun all => failed (buffered.mpr all)
        rw [if_pos failed, pure_iff]
        refine ⟨?_, others, by simp [unbuffered, eNoMem], by simp [eNoMem], ?_⟩
        · rw [CardState.adapterHeld, networks, null]
          simp
        · simp [unbuffered, null]
      · rw [if_neg failed]
        have all := buffered.mp (not_not.mp failed)
        cases fifo : input.kfifoAlloc with
        | false =>
            simp only [Bool.not_false, if_true, bind_iff, modify_iff, pure_iff]
            refine ⟨?_, others, by simp [eNoMem], by simp [eNoMem], by simp [all]⟩
            simp [CardState.adapterHeld, networks, cmdHeld_congr (s := t)]
        | true =>
            simp only [Bool.not_true, Bool.false_eq_true, if_false, bind_iff, acquire_iff,
              modify_iff, pure_iff, if_true]
            refine ⟨?_, others, by simp [all], by simp, by simp⟩
            simp only [CardState.adapterHeld, networks, cmdHeld_congr (s := t), if_true,
              Multiset.singleton_add, Multiset.add_cons, Multiset.cons_add, add_assoc]
            rw [Multiset.cons_swap]

theorem errInitAdapter_books (sound : s.eventFifo ≠ .error) :
    Books allResources errInitAdapter s (s.adapterHeld + .netDev ::ₘ rest) fun added t left =>
      added = false ∧ left = rest ∧ t.packets = s.packets := by
  unfold errInitAdapter
  refine bind_iff.mpr ((lbsFreeAdapter_books sound).mono ?_)
  rintro - t _ ⟨rfl, packets⟩
  simp [bind_iff, release_iff, pure_iff, packets]

theorem lbsAddCard_books {input : BringupInput} {held : Multiset Resource}
    (queue : s.packets = 0) (fine : ¬ input.FifoFails) :
    Books allResources input.lbsAddCard s held fun added t left =>
      (added = true ↔ input.Adds) ∧ t.packets = 0 ∧ (added = false → left = held) ∧
        (added = true → left = t.cardHeld + held ∧ t.eventFifo = .valid ∧
          t.others = (0, input.createWorkqueue, false, false, 0)) := by
  unfold BringupInput.lbsAddCard
  cases allocated : input.allocEtherdev with
  | false =>
      refine pure_iff.mpr ⟨⟨(by cases ·), fun adds => ?_⟩, queue, fun _ => rfl, (by cases ·)⟩
      exact allocated.symm.trans adds.allocEtherdev
  | true =>
      simp only [Bool.not_true, Bool.false_eq_true, if_false, bind_iff, acquire_iff, modify_iff,
        if_true]
      refine (lbsInitAdapter_books input _).mono ?_
      rintro ret t _ ⟨rfl, others, zero, valid, error⟩
      have packets : t.packets = 0 := congrArg Prod.fst others
      have sound : t.eventFifo ≠ .error := fun pointer =>
        fine ⟨allocated, (error.mp pointer).1, (error.mp pointer).2⟩
      by_cases failed : ret ≠ 0
      · rw [if_pos failed]
        refine (errInitAdapter_books sound).mono ?_
        rintro _ u _ ⟨rfl, rfl, kept⟩
        refine ⟨⟨(by cases ·), fun adds => ?_⟩, kept.trans packets, fun _ => rfl, (by cases ·)⟩
        exact absurd (zero.mpr ⟨adds.buffered, adds.kfifoAlloc⟩) failed
      · rw [if_neg failed]
        have initialised := zero.mp (not_not.mp failed)
        cases started : input.kthreadRun with
        | false =>
            refine (errInitAdapter_books sound).mono ?_
            rintro _ u _ ⟨rfl, rfl, kept⟩
            refine ⟨⟨(by cases ·), fun adds => ?_⟩, kept.trans packets, fun _ => rfl, (by cases ·)⟩
            exact started.symm.trans adds.kthreadRun
        | true =>
            have adds : input.Adds := ⟨allocated, initialised.1, initialised.2, started⟩
            simp only [CardState.others, CardState.zero, Prod.mk.injEq] at others
            cases workqueue : input.createWorkqueue
            all_goals
              simp only [Bool.not_true, Bool.false_eq_true, if_false, bind_iff, acquire_iff,
                modify_iff, pure_iff, if_true]
              refine ⟨by simp [adds], packets, (by cases ·), fun _ =>
                ⟨?_, valid (not_not.mp failed),
                by simp [CardState.others, others]⟩⟩
              simp only [CardState.cardHeld, Bool.false_eq_true, if_false, if_true, zero_add,
                Multiset.cons_add, Multiset.singleton_add, add_assoc]
              rfl

/-- When the FIFO cannot be allocated, `lbs_add_card` does not book soundly. -/
theorem lbsAddCard_unbooked {input : BringupInput} {held : Multiset Resource}
    {behind : Bool → CardState → Multiset Resource → Prop} (fails : input.FifoFails)
    (absent : .eventFifo ∉ held) : ¬ Books allResources input.lbsAddCard s held behind := by
  unfold BringupInput.lbsAddCard
  simp only [fails.allocEtherdev, Bool.not_true, Bool.false_eq_true, if_false, bind_iff,
    acquire_iff, modify_iff, if_true]
  intro books
  refine not_false ((books.both (lbsInitAdapter_books input _)).mono ?_)
  rintro ret t _ ⟨books, rfl, -, zero, -, error⟩
  have failed : ret ≠ 0 := fun success =>
    Bool.false_ne_true (fails.kfifoAlloc.symm.trans (zero.mp success).2)
  rw [if_pos failed] at books
  refine lbsFreeAdapter_unbooked (error.mpr ⟨fails.buffered, fails.kfifoAlloc⟩) ?_
    (bind_iff.mp books)
  simpa using absent

end Adapter

section Firmware

theorem progImage_books {answers : ImageAnswers} (enabled : .function ∈ rest) :
    Books allResources (progImage answers) s (.hostFree ::ₘ rest) fun ret t left =>
      ret = answers.result ∧ t = s ∧ left = .hostFree ::ₘ rest := by
  unfold progImage ImageAnswers.result sdioClaimHost accessFunc sdioReleaseHost
  split
  · exact pure_iff.mpr ⟨rfl, rfl, rfl⟩
  · rw [bind_iff, acquire_iff]
    split
    · simp [bind_iff, release_iff, pure_iff]
    · simp [bind_iff, acquire_iff, use_iff, release_iff, pure_iff, enabled]

theorem ifSdioProgFirmware_books (input : BringupInput) (s : CardState)
    (enabled : .function ∈ rest) :
    Books allResources input.ifSdioProgFirmware s (.hostFree ::ₘ rest) fun ret t left =>
      ret = input.programmed ∧ t = s ∧ left = .hostFree ::ₘ rest := by
  unfold BringupInput.ifSdioProgFirmware BringupInput.programmed sdioClaimHost accessFunc
    sdioReleaseHost
  simp only [bind_iff, acquire_iff, use_iff, release_iff]
  refine ⟨fun _ => by simp, ⟨fun _ => by simp, fun _ => by simp [enabled], fun _ => by simp, ?_⟩⟩
  simp only [if_true, Multiset.erase_cons_head]
  split
  · exact pure_iff.mpr ⟨rfl, rfl, rfl⟩
  split
  · exact pure_iff.mpr ⟨rfl, rfl, rfl⟩
  refine bind_iff.mpr ((progImage_books enabled).mono ?_)
  rintro _ _ _ ⟨rfl, rfl, rfl⟩
  split
  · exact pure_iff.mpr ⟨rfl, rfl, rfl⟩
  · exact progImage_books enabled

end Firmware

end Bringup

end Libertas
