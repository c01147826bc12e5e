import Libertas.MacControl
import Libertas.Transition.Turn

/-!
# The multicast filter

`lbs_set_mcast_worker` merges the multicast lists of two devices into an array of
fixed size, without the addresses that both have, and sends it. When the array is
too small it gives up and lets all multicast frames pass.

The worker runs as a party of `macController`; here it runs without interruption,
from any state.
-/

namespace Libertas

section Merge

variable {α : Type} [BEq α] [LawfulBEq α]

/-- The elements of two lists: the first one, and behind it those of the second that are not in
the first. -/
def merged (first second : List α) : List α :=
  first ++ second.filter (· ∉ first)

theorem nodup_merged {first second : List α} (nodupFirst : first.Nodup)
    (nodupSecond : second.Nodup) : (merged first second).Nodup := by
  rw [merged, List.nodup_append]
  refine ⟨nodupFirst, nodupSecond.filter _, ?_⟩
  rintro x inFirst y inRest rfl
  exact of_decide_eq_true (List.mem_filter.mp inRest).2 inFirst

/-- Elements are added to an array one at a time, as long as there is room. -/
theorem foldlM_add (known added : List α) (capacity : Nat) (room : added.length ≤ capacity)
    (rest : List α) :
    rest.foldlM (fun added x =>
      if x ∈ known then some added
      else if added.length = capacity then none
      else some (added ++ [x])) added =
    if (added ++ rest.filter (· ∉ known)).length ≤ capacity then
      some (added ++ rest.filter (· ∉ known))
    else none := by
  induction rest generalizing added with
  | nil =>
      rw [List.filter_nil, List.append_nil, if_pos room]
      rfl
  | cons x rest ih =>
      rw [List.foldlM_cons]
      by_cases skipped : x ∈ known
      · rw [if_pos skipped, List.filter_cons_of_neg (by simpa using skipped)]
        exact ih added room
      · rw [if_neg skipped, List.filter_cons_of_pos (by simpa using skipped)]
        by_cases full : added.length = capacity
        · rw [if_pos full, if_neg]
          · rfl
          · rw [List.length_append, List.length_cons]
            omega
        · rw [if_neg full, show added ++ x :: rest.filter (· ∉ known) =
            (added ++ [x]) ++ rest.filter (· ∉ known) by simp]
          apply ih
          rw [List.length_append, List.length_singleton]
          omega

end Merge

/-- The addresses of a device that is up and capable of multicast. -/
def McastDev.active (dev : McastDev) : List (List UInt8) :=
  if dev.up && dev.multicast then dev.mcList else []

instance lawfulBEq_address : LawfulBEq (List UInt8) := inferInstance

/-- The addresses of both devices. -/
def mcastUnion (dev : McastDev) (meshDev : Option McastDev) : List (List UInt8) :=
  merged dev.active (meshDev.elim [] (·.active))

/-- The flags of a device that open the filter. -/
def McastDev.opensFilter (dev : McastDev) : Bool :=
  dev.promisc || dev.allmulti

/-- The size and the bytes of a `CMD_MAC_MULTICAST_ADR` command. -/
def CmdBuf.mcastAdr (buf : CmdBuf) : Option (UInt16 × List UInt8) :=
  if buf.command = cmdMacMulticastAdr then some (buf.size, buf.body) else none

/-- The commands with multicast addresses that were queued, newest first. -/
def MacSys.mcastSent (s : MacSys) : List (UInt16 × List UInt8) :=
  s.commands.filterMap CmdBuf.mcastAdr

/-- The command that sends a list, as the card expects it. -/
def mcastCommand (maclist : List (List UInt8)) : UInt16 × List UInt8 :=
  (UInt16.ofNat (12 + 6 * maclist.length),
    ByteOrder.le16Bytes cmdActSet ++ ByteOrder.le16Bytes (UInt16.ofNat maclist.length) ++
      maclist.flatten)

/-- No device opens the filter. -/
def FilterClosed (dev : McastDev) (meshDev : Option McastDev) : Prop :=
  dev.opensFilter = false ∧ ∀ mesh ∈ meshDev, mesh.opensFilter = false

/-- From one state to the other the addresses of both devices were sent, if there are any and there
is room for them; without room all multicast frames pass. At most one bit of the mask is set, and
the other bits are as they were. -/
structure FilterLaw (dev : McastDev) (meshDev : Option McastDev) (s t : MacSys) : Prop where
  nodup : (mcastUnion dev meshDev).Nodup
  sent : FilterClosed dev meshDev → mcastUnion dev meshDev ≠ [] →
    (mcastUnion dev meshDev).length ≤ maxMulticastListSize →
      t.mcastSent = mcastCommand (mcastUnion dev meshDev) :: s.mcastSent
  empty : FilterClosed dev meshDev → mcastUnion dev meshDev = [] → t.mcastSent = s.mcastSent
  large : FilterClosed dev meshDev → maxMulticastListSize < (mcastUnion dev meshDev).length →
    t.mcastSent = s.mcastSent ∧ t.macControl &&& mcastMask = actMacAllMulticastEnable
  atMostOne : t.macControl &&& mcastMask ∈
    [0, actMacPromiscuousEnable, actMacAllMulticastEnable, actMacMulticastEnable]
  others : Bits.Same (~~~mcastMask) t.macControl s.macControl

/-- The worker does the rest of its operations, and no other function runs. -/
def McastTurn : MacSys → MacSys → Prop :=
  macController.Turn (fun _ action => action = .mcastStep) (·.mcast = [])

/-- `lbs_set_mcast_worker` starts in a state and runs to its end. -/
def McastRun (dev : McastDev) (meshDev : Option McastDev) (s t : MacSys) : Prop :=
  ∃ started, macController.step s (.multicast dev meshDev) = some started ∧ McastTurn started t

/-- The state behind a list of operations. -/
def MacSys.through (s : MacSys) (updates : List MacOp) : MacSys :=
  updates.foldl (fun s op => (s.carryOut op []).1) s

/-- The list that `lbs_set_mcast_worker` sends, and the bits of its mask that are set in the end. -/
def mcastResult (dev : McastDev) (meshDev : Option McastDev) :
    Option (List (List UInt8)) × UInt16 :=
  if dev.promisc || meshDev.any (·.promisc) then (none, actMacPromiscuousEnable)
  else if dev.allmulti || meshDev.any (·.allmulti) then (none, actMacAllMulticastEnable)
  else if (mcastUnion dev meshDev).length = 0 then (none, 0)
  else if (mcastUnion dev meshDev).length ≤ maxMulticastListSize then
    (some (mcastUnion dev meshDev), actMacMulticastEnable)
  else (none, actMacAllMulticastEnable)

section Filter

variable {dev : McastDev} {meshDev : Option McastDev} {maclist : List (List UInt8)}

/-- A device adds its addresses if there is room for all of them. -/
theorem lbsAddMcastAddrs_eq (room : maclist.length ≤ maxMulticastListSize) :
    lbsAddMcastAddrs maclist dev =
      if (merged maclist dev.active).length ≤ maxMulticastListSize then
        some (merged maclist dev.active)
      else none := by
  rw [lbsAddMcastAddrs, McastDev.active]
  cases capable : dev.up && dev.multicast with
  | false => simp [merged, room]
  | true =>
      rw [if_neg nofun, if_pos rfl]
      exact foldlM_add maclist maclist maxMulticastListSize room dev.mcList

/-- The first list stays in front. -/
theorem length_le_merged (first second : List (List UInt8)) :
    first.length ≤ (merged first second).length := by
  rw [merged, List.length_append]
  exact Nat.le_add_right _ _

/-- The two passes merge the lists, or find them too long. -/
theorem passes_eq : ((lbsAddMcastAddrs [] dev).bind fun maclist =>
      meshDev.elim (some maclist) (lbsAddMcastAddrs maclist)) =
    if (mcastUnion dev meshDev).length ≤ maxMulticastListSize then some (mcastUnion dev meshDev)
    else none := by
  have first : merged [] dev.active = dev.active := by simp [merged]
  rw [lbsAddMcastAddrs_eq (Nat.zero_le _), first]
  by_cases fits : dev.active.length ≤ maxMulticastListSize
  · rw [if_pos fits, Option.bind_some]
    cases meshDev with
    | none => simp [mcastUnion, merged, fits]
    | some mesh => exact lbsAddMcastAddrs_eq fits
  · have long := length_le_merged dev.active (meshDev.elim [] (·.active))
    rw [mcastUnion, if_neg fits, if_neg (fun short => fits (Nat.le_trans long short))]
    rfl

/-- An update of the worker does what `MacOp.apply` says. -/
theorem carryOut_update {op : MacOp} (s : MacSys) (update : McastUpdate op) :
    (s.carryOut op []).1.macControl = op.apply s.macControl := by
  cases update with
  | sendAddrs maclist => exact (sendAddrs_frame s maclist).1
  | set bits _ => rfl
  | clear bits _ => rfl

theorem through_macControl {updates : List MacOp} (each : ∀ op ∈ updates, McastUpdate op)
    (s : MacSys) : (s.through updates).macControl = updates.foldl MacOp.apply s.macControl := by
  induction updates generalizing s with
  | nil => rfl
  | cons op updates ih =>
      have later := ih (fun later member => each later (List.mem_cons_of_mem _ member))
        (s.carryOut op []).1
      rw [carryOut_update s (each op List.mem_cons_self)] at later
      exact later

/-- A command does not depend on what is left to do. -/
theorem lbsCmdAsync_mcast (s : MacSys) (ops : List MacOp) (req : Request) :
    { s with mcast := ops }.lbsCmdAsync req = { s.lbsCmdAsync req with mcast := ops } := by
  rw [MacSys.lbsCmdAsync, MacSys.lbsCmdAsync]
  cases Libertas.lbsCmdAsync s.priv 0 req with
  | error _ => rfl
  | ok priv => rfl

theorem carryOut_mcast (s : MacSys) (ops : List MacOp) {op : MacOp} (update : McastUpdate op) :
    ({ s with mcast := ops }.carryOut op []).1 = { (s.carryOut op []).1 with mcast := ops } := by
  cases update with
  | sendAddrs maclist => exact lbsCmdAsync_mcast s ops _
  | set bits _ => rfl
  | clear bits _ => rfl

theorem through_mcast (s : MacSys) (ops : List MacOp) {updates : List MacOp}
    (each : ∀ op ∈ updates, McastUpdate op) :
    { s with mcast := ops }.through updates = { s.through updates with mcast := ops } := by
  induction updates generalizing s with
  | nil => rfl
  | cons op updates ih =>
      have later := ih (s.carryOut op []).1 fun later member =>
        each later (List.mem_cons_of_mem _ member)
      rw [← carryOut_mcast s ops (each op List.mem_cons_self)] at later
      exact later

/-- The worker goes on with what an operation leaves. -/
theorem mcastTurn_perform {s t : MacSys} {op : MacOp} {rest : List MacOp}
    (running : s.mcast = op :: rest) :
    McastTurn s t ↔ McastTurn { (s.perform op rest).1 with mcast := (s.perform op rest).2 } t := by
  have stepped : macController.step s .mcastStep =
      some { (s.perform op rest).1 with mcast := (s.perform op rest).2 } := by
    show s.step .mcastStep = _
    rw [MacSys.step, running]
  have away : s.mcast ≠ [] := by
    rw [running]
    exact List.cons_ne_nil op rest
  simp only [McastTurn]
  exact Machine.Turn.iff_next away rfl stepped fun _ same => same

/-- Nobody comes between reading the word and writing it back. -/
theorem mcastTurn_carryOut {s t : MacSys} {op : MacOp} {rest : List MacOp}
    (update : McastUpdate op) (running : s.mcast = op :: rest) :
    McastTurn s t ↔ McastTurn { (s.carryOut op []).1 with mcast := rest } t := by
  rw [mcastTurn_perform running]
  cases update with
  | sendAddrs maclist => exact .rfl
  | set bits _ => exact mcastTurn_perform (show MacSys.mcast _ = .store _ _ :: rest from rfl)
  | clear bits _ => exact mcastTurn_perform (show MacSys.mcast _ = .store _ _ :: rest from rfl)

theorem mcastTurn_done {s t : MacSys} (done : s.mcast = []) : McastTurn s t ↔ t = s := by
  constructor
  · exact fun turn => Machine.Turn.eq_of_home turn done
  · rintro rfl
    exact .ends done

/-- The end of `lbs_set_mcast_worker` sends the word or does nothing. It changes neither the word
nor what is known about the addresses. -/
theorem mcastTurn_outSetMacControl {s : MacSys} {old : UInt16}
    (running : s.mcast = outSetMacControl old) :
    ∃ t, (∀ u, McastTurn s u ↔ u = t) ∧ t.macControl = s.macControl ∧
      t.mcastSent = s.mcastSent := by
  by_cases changed : s.macControl ≠ old
  · have other : (macControlRequest s.macControl).cmdNo ≠ cmd80211PsMode := by
      show cmdMacControl ≠ cmd80211PsMode
      decide
    obtain ⟨priv, new, sent, each⟩ := lbsCmdAsync_frame s other
    refine ⟨{ s.lbsCmdAsync (macControlRequest s.macControl) with mcast := [] }, fun u => ?_, ?_,
      ?_⟩
    · rw [mcastTurn_perform running, perform_compare, if_pos changed]
      rw [mcastTurn_perform (show MacSys.mcast _ = .read :: [] from rfl)]
      rw [mcastTurn_perform (show MacSys.mcast _ = .queue _ :: [] from rfl)]
      show McastTurn { MacSys.lbsCmdAsync { s with mcast := _ } _ with mcast := [] } u ↔ _
      rw [lbsCmdAsync_mcast]
      exact mcastTurn_done rfl
    · rw [sent]
    · rw [sent]
      show List.filterMap _ (new ++ s.commands) = _
      have none : new.filterMap CmdBuf.mcastAdr = [] := by
        rw [List.filterMap_eq_nil_iff]
        intro buf member
        rw [CmdBuf.mcastAdr, each buf member]
        show (if cmdMacControl = cmdMacMulticastAdr then _ else none) = none
        exact if_neg (by decide)
      rw [List.filterMap_append, none, List.nil_append]
      rfl
  · refine ⟨{ s with mcast := [] }, fun u => ?_, rfl, rfl⟩
    rw [mcastTurn_perform running, perform_compare, if_neg changed]
    exact mcastTurn_done rfl

/-- The worker comes to its end in one state, behind its updates. -/
theorem mcastTurn_updates {s : MacSys} {updates : List MacOp} {old : UInt16}
    (each : ∀ op ∈ updates, McastUpdate op) (running : s.mcast = updates ++ outSetMacControl old) :
    ∃ t, (∀ u, McastTurn s u ↔ u = t) ∧ t.macControl = (s.through updates).macControl ∧
      t.mcastSent = (s.through updates).mcastSent := by
  induction updates generalizing s with
  | nil => exact mcastTurn_outSetMacControl running
  | cons op updates ih =>
      have others : ∀ op ∈ updates, McastUpdate op := fun later member =>
        each later (List.mem_cons_of_mem _ member)
      obtain ⟨t, turn, word, sent⟩ := ih others
        (s := { (s.carryOut op []).1 with mcast := updates ++ outSetMacControl old }) rfl
      rw [through_mcast _ _ others] at word sent
      refine ⟨t, fun u => ?_, word, sent⟩
      rw [mcastTurn_carryOut (each op List.mem_cons_self) running]
      exact turn u

/-- The worker leaves the bits outside its mask. -/
theorem same_updates {updates : List MacOp} (each : ∀ op ∈ updates, McastUpdate op)
    (word : UInt16) : Bits.Same (~~~mcastMask) (updates.foldl MacOp.apply word) word := by
  have outside : ∀ bits : UInt16, bits &&& mcastMask = bits → bits &&& ~~~mcastMask = 0 := by
    intro bits within
    rw [← within, UInt16.and_assoc, UInt16.and_not_self, UInt16.and_zero]
  induction updates generalizing word with
  | nil => rfl
  | cons op updates ih =>
      have later := ih (fun later member => each later (List.mem_cons_of_mem _ member))
        (op.apply word)
      apply later.trans
      cases each op List.mem_cons_self with
      | sendAddrs maclist => rfl
      | set bits within => exact Bits.same_set (outside bits within)
      | clear bits within => exact Bits.same_clear (outside bits within)

/-- Changes of the word send nothing. -/
theorem mcastSent_changes (s : MacSys) {updates : List MacOp}
    (changes : ∀ op ∈ updates, ∃ bits, op = .set bits ∨ op = .clear bits) :
    (s.through updates).mcastSent = s.mcastSent := by
  induction updates generalizing s with
  | nil => rfl
  | cons op updates ih =>
      have later := ih (s.carryOut op []).1 fun later member =>
        changes later (List.mem_cons_of_mem _ member)
      obtain ⟨bits, rfl | rfl⟩ := changes op List.mem_cons_self
      · exact later
      · exact later

/-- What is sent of a list, if there is one. -/
def MacSys.sending (s : MacSys) : Option (List (List UInt8)) → List (UInt16 × List UInt8)
  | none => s.mcastSent
  | some maclist => (s.lbsCmdAsync (multicastAdrRequest maclist)).mcastSent

/-- The updates in front of the end: the list they send, and the bits of the mask behind them. -/
theorem lbsSetMcastWorker_result (dev : McastDev) (meshDev : Option McastDev) (old : UInt16) :
    ∃ updates, (∀ op ∈ updates, McastUpdate op) ∧
      lbsSetMcastWorker dev meshDev old = updates ++ outSetMacControl old ∧
      (∀ s : MacSys, (s.through updates).mcastSent = s.sending (mcastResult dev meshDev).1) ∧
      ∀ word, updates.foldl MacOp.apply word &&& mcastMask = (mcastResult dev meshDev).2 := by
  have opens : ∀ bits others : UInt16, bits &&& mcastMask = bits → others &&& mcastMask = others →
      ∀ op ∈ [MacOp.set bits, .clear others], McastUpdate op := by
    intro bits others within without
    exact List.forall_mem_cons.mpr ⟨.set _ within, List.forall_mem_singleton.mpr (.clear _ without)⟩
  have quiet : ∀ (bits others : UInt16) (s : MacSys),
      (s.through [.set bits, .clear others]).mcastSent = s.mcastSent := by
    intro bits others s
    apply mcastSent_changes
    exact List.forall_mem_cons.mpr
      ⟨⟨bits, .inl rfl⟩, List.forall_mem_singleton.mpr ⟨others, .inr rfl⟩⟩
  have allmulti : ∀ word : UInt16, (word ||| actMacAllMulticastEnable) &&&
      ~~~(actMacPromiscuousEnable ||| actMacMulticastEnable) &&& mcastMask =
        actMacAllMulticastEnable := fun word => Bits.set_clear rfl rfl rfl
  rw [lbsSetMcastWorker, mcastResult, passes_eq]
  by_cases promisc : dev.promisc || meshDev.any (·.promisc)
  · rw [if_pos promisc, if_pos promisc]
    exact ⟨_, opens _ _ rfl rfl, rfl, quiet _ _, fun word => Bits.set_clear rfl rfl rfl⟩
  rw [if_neg promisc, if_neg promisc]
  by_cases all : dev.allmulti || meshDev.any (·.allmulti)
  · rw [if_pos all, if_pos all]
    exact ⟨_, opens _ _ rfl rfl, rfl, quiet _ _, allmulti⟩
  rw [if_neg all, if_neg all]
  by_cases fits : (mcastUnion dev meshDev).length ≤ maxMulticastListSize
  · rw [if_pos fits, if_pos fits]
    cases list : mcastUnion dev meshDev with
    | nil =>
        refine ⟨_, List.forall_mem_cons.mpr ⟨.clear _ rfl,
          List.forall_mem_singleton.mpr (.clear _ rfl)⟩, rfl, fun s => ?_, ?_⟩
        · apply mcastSent_changes
          exact List.forall_mem_cons.mpr
            ⟨⟨_, .inr rfl⟩, List.forall_mem_singleton.mpr ⟨_, .inr rfl⟩⟩
        · exact fun word => Bits.clear_clear rfl
    | cons addr rest =>
        refine ⟨_, List.forall_mem_cons.mpr ⟨.sendAddrs _, opens _ _ rfl rfl⟩, rfl,
          fun s => quiet _ _ (s.lbsCmdAsync (multicastAdrRequest (addr :: rest))), ?_⟩
        exact fun word => Bits.set_clear rfl rfl rfl
  · rw [if_neg fits, if_neg fits, if_neg (by omega)]
    exact ⟨_, opens _ _ rfl rfl, rfl, quiet _ _, allmulti⟩

/-- A list that fits is sent if there are a card and a free node, and is lost otherwise. -/
theorem sending_iff (s : MacSys) {maclist : List (List UInt8)}
    (fits : maclist.length ≤ maxMulticastListSize) :
    s.sending (some maclist) = mcastCommand maclist :: s.mcastSent ↔
      s.priv.surpriseremoved = false ∧ s.priv.cmdfreeq ≠ [] := by
  constructor
  · intro sent
    by_contra missing
    rw [MacSys.sending, lbsCmdAsync_of_missing missing] at sent
    exact List.cons_ne_self _ _ sent.symm
  · rintro ⟨present, free⟩
    have other : (multicastAdrRequest maclist).cmdNo ≠ cmd80211PsMode := by
      show cmdMacMulticastAdr ≠ cmd80211PsMode
      decide
    have content : (multicastAdrRequest maclist).content = some (mcastCommand maclist) := rfl
    have sized : UInt16.ofNat (12 + 6 * maclist.length) ≠ 0 := by
      have most : maclist.length ≤ 32 := fits
      intro zero
      have value : (UInt16.ofNat (12 + 6 * maclist.length)).toNat = 12 + 6 * maclist.length :=
        UInt16.toNat_ofNat_of_lt' (show 12 + 6 * maclist.length < 65536 by omega)
      rw [zero] at value
      have none : (0 : UInt16).toNat = 0 := rfl
      omega
    obtain ⟨priv, queued⟩ := lbsCmdAsync_of_free present free other content sized
    rw [MacSys.sending, queued]
    exact List.filterMap_cons_some (if_pos rfl)

/-- No device opens the filter. -/
theorem mcastResult_of_closed (closed : dev.opensFilter = false)
    (closedMesh : ∀ mesh ∈ meshDev, mesh.opensFilter = false) :
    mcastResult dev meshDev =
      if (mcastUnion dev meshDev).length = 0 then (none, 0)
      else if (mcastUnion dev meshDev).length ≤ maxMulticastListSize then
        (some (mcastUnion dev meshDev), actMacMulticastEnable)
      else (none, actMacAllMulticastEnable) := by
  obtain ⟨promisc, allmulti⟩ := Bool.or_eq_false_iff.mp closed
  cases meshDev with
  | none => simp [mcastResult, promisc, allmulti]
  | some mesh =>
      obtain ⟨promiscMesh, allmultiMesh⟩ := Bool.or_eq_false_iff.mp (closedMesh mesh rfl)
      simp [mcastResult, promisc, allmulti, promiscMesh, allmultiMesh]

theorem mcastResult_bits : (mcastResult dev meshDev).2 ∈
    [0, actMacPromiscuousEnable, actMacAllMulticastEnable, actMacMulticastEnable] := by
  rw [mcastResult]
  split_ifs <;> simp

theorem nodup_mcastUnion (nodup : dev.mcList.Nodup)
    (nodupMesh : ∀ mesh ∈ meshDev, mesh.mcList.Nodup) : (mcastUnion dev meshDev).Nodup := by
  have active : ∀ dev : McastDev, dev.mcList.Nodup → dev.active.Nodup := by
    intro dev nodup
    rw [McastDev.active]
    split
    · exact nodup
    · exact List.nodup_nil
  apply nodup_merged (active dev nodup)
  cases meshDev with
  | none => exact List.nodup_nil
  | some mesh => exact active mesh (nodupMesh mesh rfl)

end Filter

/-- `lbs_set_mcast_worker` comes to an end in one state, from whatever state it starts. It keeps to
the law of the filter unless there is a list to send and no card or no free node for it. -/
theorem multicast_filter_iff (dev : McastDev) (meshDev : Option McastDev)
    (nodup : dev.mcList.Nodup) (nodupMesh : ∀ mesh ∈ meshDev, mesh.mcList.Nodup) (s : MacSys)
    (idle : s.mcast = []) :
    ∃ t, (∀ u, McastRun dev meshDev s u ↔ u = t) ∧
      (FilterLaw dev meshDev s t ↔
        (FilterClosed dev meshDev → mcastUnion dev meshDev ≠ [] →
          (mcastUnion dev meshDev).length ≤ maxMulticastListSize →
            s.priv.surpriseremoved = false ∧ s.priv.cmdfreeq ≠ [])) := by
  obtain ⟨updates, each, ops, sends, bits⟩ := lbsSetMcastWorker_result dev meshDev s.macControl
  obtain ⟨t, turn, word, sent⟩ := mcastTurn_updates each
    (s := { s with mcast := lbsSetMcastWorker dev meshDev s.macControl }) ops
  rw [through_mcast _ _ each] at word sent
  have changed : t.macControl = updates.foldl MacOp.apply s.macControl :=
    word.trans (through_macControl each s)
  have result : t.macControl &&& mcastMask = (mcastResult dev meshDev).2 := by
    rw [changed]
    exact bits _
  have queued : t.mcastSent = s.sending (mcastResult dev meshDev).1 := sent.trans (sends s)
  have started : macController.step s (.multicast dev meshDev) =
      some { s with mcast := lbsSetMcastWorker dev meshDev s.macControl } := by
    show s.step (.multicast dev meshDev) = _
    rw [MacSys.step, idle]
  refine ⟨t, fun u => ?_, fun law closed filled fits => ?_, fun able => ?_⟩
  · rw [McastRun, started]
    simp [turn]
  · have list := law.sent closed filled fits
    rw [queued, mcastResult_of_closed closed.1 closed.2, if_neg (by simpa using filled),
      if_pos fits] at list
    exact (sending_iff s fits).mp list
  · refine ⟨nodup_mcastUnion nodup nodupMesh, fun closed filled fits => ?_, fun closed empty => ?_,
      fun closed long => ?_, ?_, ?_⟩
    · rw [queued, mcastResult_of_closed closed.1 closed.2, if_neg (by simpa using filled),
        if_pos fits]
      exact (sending_iff s fits).mpr (able closed filled fits)
    · rw [queued, mcastResult_of_closed closed.1 closed.2, if_pos (by simpa using empty)]
      rfl
    · rw [queued, result, mcastResult_of_closed closed.1 closed.2, if_neg (by omega),
        if_neg (by omega)]
      exact ⟨rfl, rfl⟩
    · rw [result]
      exact mcastResult_bits
    · rw [changed]
      exact same_updates each _

/-- Two devices listen to one address, and the second one to another one. -/
def sharedAddress : McastDev × McastDev :=
  (⟨true, true, false, false, [[1, 0, 0x5e, 0, 0, 1]]⟩,
    ⟨true, true, false, false, [[1, 0, 0x5e, 0, 0, 1], [1, 0, 0x5e, 0, 0, 2]]⟩)

theorem multicast_filter_shared :
    ∃ t, (∀ u, McastRun sharedAddress.1 (some sharedAddress.2) MacSys.init u ↔ u = t) ∧
      FilterLaw sharedAddress.1 (some sharedAddress.2) MacSys.init t ∧
      t.mcastSent = [(24, [1, 0, 2, 0, 1, 0, 0x5e, 0, 0, 1, 1, 0, 0x5e, 0, 0, 2])] := by
  obtain ⟨t, run, law⟩ := multicast_filter_iff sharedAddress.1 (some sharedAddress.2) (by decide)
    (by decide) MacSys.init (by decide +kernel)
  have kept := law.mpr fun _ _ _ => by decide +kernel
  refine ⟨t, run, kept, (kept.sent ?_ (by decide) (by decide)).trans (by decide +kernel)⟩
  exact ⟨rfl, by decide⟩

theorem mcastTurn_of_run {s t : MacSys} {steps : Nat}
    (ran : macController.run s (List.replicate steps .mcastStep) = some t)
    (done : t.mcast = []) : McastTurn s t := by
  induction steps generalizing s with
  | zero =>
      cases ran
      exact .ends done
  | succ steps ih =>
      rw [List.replicate_succ] at ran
      obtain ⟨next, stepped, ran⟩ := Machine.run_cons_eq_some.mp ran
      refine .step ?_ rfl stepped (ih ran)
      intro idle
      have none : s.step .mcastStep = none := by rw [MacSys.step, idle]
      exact Option.some_ne_none next (stepped.symm.trans none)

/-- The promiscuous mode is switched on and off until all nodes are taken. Then the list of a
device is lost. -/
theorem multicast_list_lost : ∃ s t, macController.Reachable s ∧ s.mcast = [] ∧
    McastRun sharedAddress.1 none s t ∧ ¬ FilterLaw sharedAddress.1 none s t := by
  have holds : ((macController.run .init
      ((List.range 9).flatMap fun i => setPromiscuous (i % 2 = 0))).bind fun s =>
        (s.step (.multicast sharedAddress.1 none)).bind fun started =>
          (macController.run started (List.replicate 8 .mcastStep)).map fun t =>
            decide (s.mcast = [] ∧ t.mcast = [] ∧ t.mcastSent = s.mcastSent)) = some true := by
    decide +kernel
  obtain ⟨s, before, holds⟩ := Option.bind_eq_some_iff.mp holds
  obtain ⟨started, start, holds⟩ := Option.bind_eq_some_iff.mp holds
  obtain ⟨t, ran, holds⟩ := Option.map_eq_some_iff.mp holds
  obtain ⟨idle, done, same⟩ := of_decide_eq_true holds
  refine ⟨s, t, Machine.reachable_of_run rfl before, idle,
    ⟨started, start, mcastTurn_of_run ran done⟩, fun law => ?_⟩
  have sent := law.sent ⟨rfl, nofun⟩ (by decide) (by decide)
  exact List.cons_ne_self _ _ (sent.symm.trans same)

end Libertas
