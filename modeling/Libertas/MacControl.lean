import Libertas.Bits
import Libertas.Cmd.Prepare
import Libertas.Transition.Basic

/-!
# The MAC control word

`priv->mac_control` is changed by `lbs_set_mcast_worker`, on the system work
queue, and by the association worker, on the queue of the driver. Both send the
word with `lbs_set_mac_control`, that is, with a command nobody waits for. What
a function still has to do is a list of operations, one for each access of the
word and one for each command. A bit is changed by reading the word and writing it
back, and the other function may come in between.

`commands` is not in the source: the buffers of the commands that were put behind
those in `cmdpendingq`, newest first.
-/

namespace Libertas

/-- `CMD_MAC_CONTROL` and `CMD_MAC_MULTICAST_ADR`. -/
def cmdMacControl : UInt16 := 0x0028
def cmdMacMulticastAdr : UInt16 := 0x0010

/-- The `CMD_ACT_MAC_*` bits. -/
def actMacRxOn : UInt16 := 0x0001
def actMacTxOn : UInt16 := 0x0002
def actMacWepEnable : UInt16 := 0x0008
def actMacMulticastEnable : UInt16 := 0x0020
def actMacPromiscuousEnable : UInt16 := 0x0080
def actMacAllMulticastEnable : UInt16 := 0x0100

/-- `MRVDRV_MAX_MULTICAST_LIST_SIZE`. -/
def maxMulticastListSize : Nat := 32

/-- The flags and the multicast addresses of a net device. -/
structure McastDev where
  /-- `IFF_UP`, `IFF_MULTICAST`, `IFF_PROMISC` and `IFF_ALLMULTI`. -/
  up : Bool
  multicast : Bool
  promisc : Bool
  allmulti : Bool
  mcList : List (List UInt8)
deriving DecidableEq, Repr

/-- `lbs_add_mcast_addrs`: the addresses of the filter with those of a device, as far as they
are not among the first ones; `none` when they are too many. -/
def lbsAddMcastAddrs (maclist : List (List UInt8)) (dev : McastDev) :
    Option (List (List UInt8)) :=
  if !(dev.up && dev.multicast) then some maclist
  else
    dev.mcList.foldlM (fun added addr =>
      if addr ∈ maclist then some added
      else if added.length = maxMulticastListSize then none
      else some (added ++ [addr])) maclist

/-- What a function does with the word, an operation at a time. -/
inductive MacOp
  /-- `lbs_cmd_async` with the multicast addresses. -/
  | sendAddrs (maclist : List (List UInt8))
  /-- `priv->mac_control |= bits`, before the word is read. -/
  | set (bits : UInt16)
  /-- `priv->mac_control &= ~bits`, before the word is read. -/
  | clear (bits : UInt16)
  /-- The word that was read is written back with its change. -/
  | store (old new : UInt16)
  /-- Return if the word is the old one. -/
  | compare (old : UInt16)
  /-- `lbs_set_mac_control` copies the word into its command. -/
  | read
  /-- `lbs_set_mac_control` calls `lbs_cmd_async`. -/
  | queue (action : UInt16)
deriving DecidableEq, Repr

/-- `lbs_set_mac_control`. -/
def lbsSetMacControl : List MacOp :=
  [.read]

/-- The end of `lbs_set_mcast_worker`, at `out_set_mac_control`. -/
def outSetMacControl (old : UInt16) : List MacOp :=
  .compare old :: lbsSetMacControl

/-- `do_allmulti` in `lbs_set_mcast_worker`. -/
def doAllmulti (old : UInt16) : List MacOp :=
  [.set actMacAllMulticastEnable,
    .clear (actMacPromiscuousEnable ||| actMacMulticastEnable)] ++ outSetMacControl old

/-- `lbs_set_mcast_worker`, for the devices as they are and the word it starts with. -/
def lbsSetMcastWorker (dev : McastDev) (meshDev : Option McastDev) (old : UInt16) : List MacOp :=
  if dev.promisc || meshDev.any (·.promisc) then
    [.set actMacPromiscuousEnable,
      .clear (actMacAllMulticastEnable ||| actMacMulticastEnable)] ++ outSetMacControl old
  else if dev.allmulti || meshDev.any (·.allmulti) then doAllmulti old
  else
    match (lbsAddMcastAddrs [] dev).bind fun maclist =>
        meshDev.elim (some maclist) (lbsAddMcastAddrs maclist) with
    | none => doAllmulti old
    | some [] =>
        [.clear actMacMulticastEnable,
          .clear (actMacPromiscuousEnable ||| actMacAllMulticastEnable)] ++ outSetMacControl old
    | some maclist =>
        [.sendAddrs maclist, .set actMacMulticastEnable,
          .clear (actMacPromiscuousEnable ||| actMacAllMulticastEnable)] ++ outSetMacControl old

/-- `assoc_helper_wep_keys`, when the firmware has taken the keys. -/
def assocHelperWepKeys (wepEnabled : Bool) : List MacOp :=
  (if wepEnabled then .set actMacWepEnable else .clear actMacWepEnable) :: lbsSetMacControl

/-- `assoc_helper_secinfo`. -/
def assocHelperSecinfo : List MacOp :=
  lbsSetMacControl

/-- The command of `lbs_set_mac_control`. -/
def macControlRequest (action : UInt16) : Request :=
  { kind := .cmdAsync, cmdNo := cmdMacControl, cmdAction := 0
    content := some (12, ByteOrder.le16Bytes action ++ [0, 0]), buffer := none }

/-- The multicast addresses of `lbs_set_mcast_worker`. -/
def multicastAdrRequest (maclist : List (List UInt8)) : Request :=
  { kind := .cmdAsync, cmdNo := cmdMacMulticastAdr, cmdAction := 0
    content := some (UInt16.ofNat (12 + 6 * maclist.length),
      ByteOrder.le16Bytes cmdActSet ++ ByteOrder.le16Bytes (UInt16.ofNat maclist.length) ++
        maclist.flatten)
    buffer := none }

/-- `__lbs_cmd_async` with the callback of `lbs_cmd_async`, run without interruption. -/
def lbsCmdAsync (priv : Priv) (call : CallId) (req : Request) : Except Int Priv :=
  if priv.surpriseremoved then .error (-eNoEnt)
  else
    match priv.lbsGetCmdCtrlNode call with
    | none => .error (-eNoBufs)
    | some (n, cs) =>
        let cs := cs.initNode n req.callback none
        let (size, body) := req.content.getD (0, [])
        .ok { priv with
          toCommandState := (cs.stampNode n req.cmdNo size body).lbsQueueCmd n priv.psstate }

/-- The commands behind those that were in `cmdpendingq` before. -/
def appended (before after : Priv) : List CmdBuf :=
  (after.cmdpendingq.drop before.cmdpendingq.length).map fun n => (after.cmdArray n).cmdbuf

/-- The word of a `CMD_MAC_CONTROL` command. -/
def CmdBuf.macControl (buf : CmdBuf) : Option UInt16 :=
  if buf.command = cmdMacControl then some (ByteOrder.le16At buf.body 0) else none

/-- The word, the functions that are about to change or send it, and the rest of the driver. -/
structure MacSys where
  priv : Priv
  macControl : UInt16
  /-- The rest of `lbs_set_mcast_worker`, when it runs. -/
  mcast : List MacOp
  /-- The rest of what the association worker does with the word. -/
  assoc : List MacOp
  commands : List CmdBuf

/-- What can happen. -/
inductive MacAction
  /-- `lbs_set_mcast_worker` starts. -/
  | multicast (dev : McastDev) (meshDev : Option McastDev)
  /-- `assoc_helper_wep_keys` goes on after its command. -/
  | wepKeys (enabled : Bool)
  /-- `assoc_helper_secinfo` starts. -/
  | secinfo
  | mcastStep
  | assocStep
  /-- Other parts of the driver take and free command nodes, or the card is removed. -/
  | rest (priv : Priv)

namespace MacSys

/-- The call of `lbs_cmd_async`, which ignores its outcome. -/
def lbsCmdAsync (s : MacSys) (req : Request) : MacSys :=
  match Libertas.lbsCmdAsync s.priv 0 req with
  | .error _ => s
  | .ok priv => { s with priv := priv, commands := appended s.priv priv ++ s.commands }

/-- The words of the commands that were queued, newest first. -/
def queued (s : MacSys) : List UInt16 :=
  s.commands.filterMap CmdBuf.macControl

/-- An operation, and the operations that follow it. -/
def perform (s : MacSys) (op : MacOp) (rest : List MacOp) : MacSys × List MacOp :=
  match op with
  | .sendAddrs maclist => (s.lbsCmdAsync (multicastAdrRequest maclist), rest)
  | .set bits => (s, .store s.macControl (s.macControl ||| bits) :: rest)
  | .clear bits => (s, .store s.macControl (s.macControl &&& ~~~bits) :: rest)
  | .store _ new => ({ s with macControl := new }, rest)
  | .compare old => (s, if s.macControl ≠ old then rest else [])
  | .read => (s, .queue s.macControl :: rest)
  | .queue action => (s.lbsCmdAsync (macControlRequest action), rest)

/-- One step of the system. Both work queues run one item at a time. -/
def step (s : MacSys) : MacAction → Option MacSys
  | .multicast dev meshDev =>
      match s.mcast with
      | [] => some { s with mcast := lbsSetMcastWorker dev meshDev s.macControl }
      | _ :: _ => none
  | .wepKeys enabled =>
      match s.assoc with
      | [] => some { s with assoc := assocHelperWepKeys enabled }
      | _ :: _ => none
  | .secinfo =>
      match s.assoc with
      | [] => some { s with assoc := assocHelperSecinfo }
      | _ :: _ => none
  | .mcastStep =>
      match s.mcast with
      | [] => none
      | op :: rest =>
          let (t, rest) := s.perform op rest
          some { t with mcast := rest }
  | .assocStep =>
      match s.assoc with
      | [] => none
      | op :: rest =>
          let (t, rest) := s.perform op rest
          some { t with assoc := rest }
  | .rest priv => some { s with priv := priv }

/-- The adapter is initialised. -/
def adapter : MacSys :=
  { priv := initAdapter, macControl := actMacRxOn ||| actMacTxOn, mcast := [], assoc := []
    commands := [] }

/-- `lbs_setup_firmware` has sent the word. -/
def init : MacSys :=
  adapter.lbsCmdAsync (macControlRequest adapter.macControl)

end MacSys

/-- The functions that change and send the word. -/
def macController : Machine MacSys MacAction where
  initial s := s = .init
  step := MacSys.step

/-- A command with a size goes behind the commands that wait. -/
theorem lbsQueueCmd_stamped (cs : CommandState) (n : NodeId) {command size : UInt16}
    {body : List UInt8} {psstate : PsState} (plain : command ≠ cmd80211PsMode)
    (sized : size ≠ 0) :
    ((cs.stampNode n command size body).lbsQueueCmd n psstate).cmdpendingq =
        cs.cmdpendingq ++ [n] ∧
      (((cs.stampNode n command size body).lbsQueueCmd n psstate).cmdArray n).cmdbuf =
        { command := command, size := size, seqnum := cs.seqnum, result := 0, body := body } := by
  constructor
  · simp [CommandState.lbsQueueCmd, CommandState.stampNode, CommandState.clearResult,
      CommandState.addtail, CommandState.insertPending, sized, plain]
  · simp [CommandState.lbsQueueCmd, CommandState.stampNode, CommandState.clearResult, sized]

/-- A command without a size is dropped. -/
theorem lbsQueueCmd_unsized (cs : CommandState) (n : NodeId) {command : UInt16}
    {body : List UInt8} {psstate : PsState} :
    (cs.stampNode n command 0 body).lbsQueueCmd n psstate = cs.stampNode n command 0 body := by
  simp [CommandState.lbsQueueCmd, CommandState.stampNode]

/-- What is behind the commands that waited is the new one. -/
theorem command_of_appended {cs : CommandState} {n : NodeId} {before : List NodeId}
    {command size : UInt16} {body : List UInt8} {psstate : PsState}
    (waiting : cs.cmdpendingq = before) (plain : command ≠ cmd80211PsMode) :
    ∀ buf ∈ ((((cs.stampNode n command size body).lbsQueueCmd n psstate).cmdpendingq.drop
        before.length).map fun m =>
          (((cs.stampNode n command size body).lbsQueueCmd n psstate).cmdArray m).cmdbuf),
      buf.command = command := by
  by_cases sized : size = 0
  · rw [sized, lbsQueueCmd_unsized, CommandState.stampNode_cmdpendingq, waiting, List.drop_length]
    exact nofun
  · intro buf member
    obtain ⟨behind, buffer⟩ := lbsQueueCmd_stamped cs n plain sized
    rw [behind, waiting, List.drop_left, List.map_singleton, List.mem_singleton] at member
    rw [member, buffer]

/-- A command with a size gets the first free node. -/
theorem lbsCmdAsync_of_free {s : MacSys} {req : Request} {size : UInt16} {body : List UInt8}
    (present : s.priv.surpriseremoved = false) (free : s.priv.cmdfreeq ≠ [])
    (plain : req.cmdNo ≠ cmd80211PsMode) (content : req.content = some (size, body))
    (sized : size ≠ 0) :
    ∃ priv, s.lbsCmdAsync req = { s with
      priv := priv
      commands :=
        { command := req.cmdNo, size := size, seqnum := s.priv.seqnum + 1, result := 0
          body := body } :: s.commands } := by
  cases nodes : s.priv.cmdfreeq with
  | nil => exact absurd nodes free
  | cons n rest =>
      have queues : ∃ priv, Libertas.lbsCmdAsync s.priv 0 req = .ok priv ∧
          priv.cmdpendingq = s.priv.cmdpendingq ++ [n] ∧
          (priv.cmdArray n).cmdbuf =
            { command := req.cmdNo, size := size, seqnum := s.priv.seqnum + 1, result := 0
              body := body } := by
        rw [Libertas.lbsCmdAsync, if_neg (by rw [present]; nofun)]
        simp only [CommandState.lbsGetCmdCtrlNode, nodes, content, Option.getD_some]
        exact ⟨_, rfl, lbsQueueCmd_stamped _ n plain sized⟩
      obtain ⟨priv, queued, behind, buffer⟩ := queues
      refine ⟨priv, ?_⟩
      rw [MacSys.lbsCmdAsync, queued]
      dsimp only
      rw [appended, behind, List.drop_left, List.map_singleton, buffer, List.singleton_append]

/-- Whatever is queued is the command of the request. -/
theorem lbsCmdAsync_frame (s : MacSys) {req : Request} (plain : req.cmdNo ≠ cmd80211PsMode) :
    ∃ priv new, s.lbsCmdAsync req = { s with priv := priv, commands := new ++ s.commands } ∧
      ∀ buf ∈ new, buf.command = req.cmdNo := by
  rw [MacSys.lbsCmdAsync]
  cases queued : Libertas.lbsCmdAsync s.priv 0 req with
  | error _ => exact ⟨s.priv, [], rfl, nofun⟩
  | ok priv =>
      refine ⟨priv, appended s.priv priv, rfl, ?_⟩
      rw [Libertas.lbsCmdAsync] at queued
      split at queued
      · cases queued
      · split at queued
        · cases queued
        · rename_i n cs taken
          obtain ⟨rest, _, rfl⟩ := CommandState.lbsGetCmdCtrlNode_eq_some taken
          cases queued
          exact command_of_appended rfl plain

/-- Without a card or a free node there is no command. -/
theorem lbsCmdAsync_of_missing {s : MacSys} {req : Request}
    (missing : ¬ (s.priv.surpriseremoved = false ∧ s.priv.cmdfreeq ≠ [])) :
    s.lbsCmdAsync req = s := by
  have failed : ∃ error, Libertas.lbsCmdAsync s.priv 0 req = .error error := by
    rw [Libertas.lbsCmdAsync]
    split
    · exact ⟨_, rfl⟩
    · rename_i present
      cases nodes : s.priv.cmdfreeq with
      | nil => exact ⟨-eNoBufs, by simp only [CommandState.lbsGetCmdCtrlNode, nodes]⟩
      | cons n rest =>
          refine absurd ⟨by simpa using present, ?_⟩ missing
          rw [nodes]
          exact List.cons_ne_nil n rest
  obtain ⟨error, failed⟩ := failed
  rw [MacSys.lbsCmdAsync, failed]

/-- The bits that `lbs_set_mcast_worker` changes. -/
def mcastMask : UInt16 :=
  actMacPromiscuousEnable ||| actMacAllMulticastEnable ||| actMacMulticastEnable

/-- The bits that an operation changes. -/
def MacOp.touches : MacOp → UInt16
  | .set bits | .clear bits => bits
  | .sendAddrs _ | .store _ _ | .compare _ | .read | .queue _ => 0

/-- An operation of `lbs_set_mcast_worker` before its end. -/
inductive McastUpdate : MacOp → Prop
  | sendAddrs (maclist : List (List UInt8)) : McastUpdate (.sendAddrs maclist)
  | set (bits : UInt16) : bits &&& mcastMask = bits → McastUpdate (.set bits)
  | clear (bits : UInt16) : bits &&& mcastMask = bits → McastUpdate (.clear bits)

/-- Each operation changes bits of its own. -/
structure McastUpdates (updates : List MacOp) : Prop where
  each : ∀ op ∈ updates, McastUpdate op
  apart : updates.Pairwise fun first second => second.touches &&& first.touches = 0

/-- The association worker is going to send the word. -/
inductive AssocOwes : List MacOp → Prop
  | set : AssocOwes [.set actMacWepEnable, .read]
  | clear : AssocOwes [.clear actMacWepEnable, .read]
  | read : AssocOwes [.read]
  | queue (action : UInt16) : AssocOwes [.queue action]

/-- The multicast worker is going to send the word: some of its bits have changed, and do not
change back. -/
inductive McastOwes (word : UInt16) : List MacOp → Prop
  | changed (updates : List MacOp) (old mask : UInt16) (shape : McastUpdates updates)
      (filter : actMacWepEnable &&& mask = 0)
      (untouched : ∀ op ∈ updates, op.touches &&& mask = 0)
      (differs : ¬ Bits.Same mask word old) : McastOwes word (updates ++ outSetMacControl old)
  | read : McastOwes word [.read]
  | queue (action : UInt16) : McastOwes word [.queue action]

/-- The multicast worker has changed nothing. -/
inductive McastQuiet (word : UInt16) : List MacOp → Prop
  | done : McastQuiet word []
  | unchanged (updates : List MacOp) (old : UInt16) (shape : McastUpdates updates)
      (same : Bits.Same mcastMask word old) : McastQuiet word (updates ++ outSetMacControl old)

/-- Who changed the word is going to send it, or it was sent. -/
structure MacAgreement (s : MacSys) (mcastOps assocOps : List MacOp) : Prop where
  assoc : assocOps = [] ∨ AssocOwes assocOps
  mcast : McastOwes s.macControl mcastOps ∨
    McastQuiet s.macControl mcastOps ∧ (assocOps = [] → s.queued.head? = some s.macControl)

/-- What a function still has to do, with a change of the word taken as not begun before it is
written back. -/
inductive Loaded : List MacOp → List MacOp → Prop
  | whole (ops : List MacOp) : Loaded ops ops
  | set (word bits : UInt16) (rest : List MacOp) :
      Loaded (.store word (word ||| bits) :: rest) (.set bits :: rest)
  | clear (word bits : UInt16) (rest : List MacOp) :
      Loaded (.store word (word &&& ~~~bits) :: rest) (.clear bits :: rest)

/-- The word with an operation. -/
def MacOp.apply (word : UInt16) : MacOp → UInt16
  | .set bits => word ||| bits
  | .clear bits => word &&& ~~~bits
  | .sendAddrs _ | .store _ _ | .compare _ | .read | .queue _ => word

/-- An operation, when a change of the word is not interrupted. -/
def MacSys.carryOut (s : MacSys) (op : MacOp) (rest : List MacOp) : MacSys × List MacOp :=
  match op with
  | .set _ | .clear _ => ({ s with macControl := op.apply s.macControl }, rest)
  | .sendAddrs _ | .store _ _ | .compare _ | .read | .queue _ => s.perform op rest

section Agreement

variable {s t : MacSys} {op : MacOp} {rest updates : List MacOp} {word : UInt16}

theorem mcastUpdates_cons (shape : McastUpdates (op :: updates)) :
    McastUpdate op ∧ McastUpdates updates ∧
      ∀ later ∈ updates, later.touches &&& op.touches = 0 :=
  ⟨shape.each op List.mem_cons_self,
    ⟨fun later member => shape.each later (List.mem_cons_of_mem _ member),
      (List.pairwise_cons.mp shape.apart).2⟩,
    (List.pairwise_cons.mp shape.apart).1⟩

/-- What `lbs_set_mcast_worker` does. -/
theorem lbsSetMcastWorker_updates (dev : McastDev) (meshDev : Option McastDev) (old : UInt16) :
    ∃ updates, McastUpdates updates ∧
      lbsSetMcastWorker dev meshDev old = updates ++ outSetMacControl old := by
  have allmulti : McastUpdates [.set actMacAllMulticastEnable,
      .clear (actMacPromiscuousEnable ||| actMacMulticastEnable)] :=
    ⟨List.forall_mem_cons.mpr ⟨.set _ rfl, List.forall_mem_singleton.mpr (.clear _ rfl)⟩,
      by decide⟩
  rw [lbsSetMcastWorker]
  split
  · exact ⟨_, ⟨List.forall_mem_cons.mpr ⟨.set _ rfl,
      List.forall_mem_singleton.mpr (.clear _ rfl)⟩, by decide⟩, rfl⟩
  · split
    · exact ⟨_, allmulti, rfl⟩
    · split
      · exact ⟨_, allmulti, rfl⟩
      · exact ⟨_, ⟨List.forall_mem_cons.mpr ⟨.clear _ rfl,
          List.forall_mem_singleton.mpr (.clear _ rfl)⟩, by decide⟩, rfl⟩
      · rename_i maclist _ _
        refine ⟨_, ⟨List.forall_mem_cons.mpr ⟨.sendAddrs maclist, List.forall_mem_cons.mpr
          ⟨.set _ rfl, List.forall_mem_singleton.mpr (.clear _ rfl)⟩⟩, ?_⟩, rfl⟩
        simp only [List.pairwise_cons, MacOp.touches, UInt16.and_zero]
        decide

/-- A worker that is done owes nothing. -/
theorem not_mcastOwes_nil : ¬ McastOwes word [] := by
  intro owes
  generalize none : ([] : List MacOp) = ops at owes
  cases owes with
  | changed updates => cases updates <;> cases none
  | read => cases none
  | queue => cases none

/-- A change of other bits does not make up for a change. -/
theorem McastOwes.of_same {ops : List MacOp} {new : UInt16} (owes : McastOwes word ops)
    (same : ∀ mask, actMacWepEnable &&& mask = 0 → Bits.Same mask new word) :
    McastOwes new ops := by
  cases owes with
  | changed updates old mask shape filter untouched differs =>
      exact .changed updates old mask shape filter untouched fun undone =>
        differs ((same mask filter).symm.trans undone)
  | read => exact .read
  | queue action => exact .queue action

theorem McastQuiet.of_same {ops : List MacOp} {new : UInt16} (quiet : McastQuiet word ops)
    (same : Bits.Same mcastMask new word) : McastQuiet new ops := by
  cases quiet with
  | done => exact .done
  | unchanged updates old shape unchanged =>
      exact .unchanged updates old shape (same.trans unchanged)

/-- The command with the addresses is not one with the word. -/
theorem sendAddrs_frame (s : MacSys) (maclist : List (List UInt8)) :
    (s.lbsCmdAsync (multicastAdrRequest maclist)).macControl = s.macControl ∧
      (s.lbsCmdAsync (multicastAdrRequest maclist)).queued = s.queued := by
  have other : (multicastAdrRequest maclist).cmdNo ≠ cmd80211PsMode := by
    show cmdMacMulticastAdr ≠ cmd80211PsMode
    decide
  obtain ⟨priv, new, sent, each⟩ := lbsCmdAsync_frame s other
  rw [sent]
  refine ⟨rfl, ?_⟩
  show List.filterMap _ (new ++ s.commands) = _
  have none : new.filterMap CmdBuf.macControl = [] := by
    rw [List.filterMap_eq_nil_iff]
    intro buf member
    rw [CmdBuf.macControl, each buf member]
    show (if cmdMacMulticastAdr = cmdMacControl then _ else none) = none
    exact if_neg (by decide)
  rw [List.filterMap_append, none, List.nil_append]
  rfl

/-- An update of the multicast worker: no change, or one that stays. -/
theorem quiet_update {old : UInt16} (shape : McastUpdates (op :: updates))
    (same : Bits.Same mcastMask s.macControl old) :
    (s.carryOut op (updates ++ outSetMacControl old)).2 = updates ++ outSetMacControl old ∧
      ((s.carryOut op (updates ++ outSetMacControl old)).1.macControl = s.macControl ∧
        (s.carryOut op (updates ++ outSetMacControl old)).1.queued = s.queued ∨
        McastOwes (s.carryOut op (updates ++ outSetMacControl old)).1.macControl
          (updates ++ outSetMacControl old)) := by
  obtain ⟨update, rest, apart⟩ := mcastUpdates_cons shape
  have filter : ∀ bits : UInt16, bits &&& mcastMask = bits → actMacWepEnable &&& bits = 0 := by
    intro bits within
    rw [← within, UInt16.and_comm bits, ← UInt16.and_assoc]
    exact UInt16.zero_and
  cases update with
  | sendAddrs maclist => exact ⟨rfl, .inl (sendAddrs_frame s maclist)⟩
  | set bits within =>
      refine ⟨rfl, ?_⟩
      by_cases kept : Bits.Same bits (s.macControl ||| bits) s.macControl
      · exact .inl ⟨Bits.set_eq_self kept, rfl⟩
      · exact .inr (.changed updates old bits rest (filter bits within) apart fun undone =>
          kept (undone.trans (same.mono within).symm))
  | clear bits within =>
      refine ⟨rfl, ?_⟩
      by_cases kept : Bits.Same bits (s.macControl &&& ~~~bits) s.macControl
      · exact .inl ⟨Bits.clear_eq_self kept, rfl⟩
      · exact .inr (.changed updates old bits rest (filter bits within) apart fun undone =>
          kept (undone.trans (same.mono within).symm))

/-- An update after a change keeps the changed bits. -/
theorem changed_update (s : MacSys) {mask : UInt16} (rest : List MacOp) (update : McastUpdate op)
    (untouched : op.touches &&& mask = 0) :
    (s.carryOut op rest).2 = rest ∧
      Bits.Same mask (s.carryOut op rest).1.macControl s.macControl := by
  cases update with
  | sendAddrs maclist =>
      refine ⟨rfl, ?_⟩
      show Bits.Same mask (s.lbsCmdAsync _).macControl s.macControl
      rw [(sendAddrs_frame s maclist).1]
      rfl
  | set bits _ => exact ⟨rfl, Bits.same_set untouched⟩
  | clear bits _ => exact ⟨rfl, Bits.same_clear untouched⟩

/-- What is left to do never begins with the end of a change. -/
theorem MacAgreement.not_store {mcast assoc : List MacOp} (agreement : MacAgreement s mcast assoc)
    (old new : UInt16) :
    mcast ≠ .store old new :: rest ∧ assoc ≠ .store old new :: rest := by
  have updates : ∀ {updates : List MacOp} {word : UInt16}, McastUpdates updates →
      updates ++ outSetMacControl word ≠ .store old new :: rest := by
    intro updates word shape starts
    cases updates with
    | nil => cases starts
    | cons first others =>
        obtain ⟨rfl, _⟩ := List.cons.inj starts
        cases (mcastUpdates_cons shape).1
  constructor
  · rintro rfl
    rcases agreement.mcast with owes | ⟨quiet, _⟩
    · generalize starts : MacOp.store old new :: rest = ops at owes
      cases owes with
      | changed others word mask shape => exact updates shape starts.symm
      | read => cases starts
      | queue action => cases starts
    · generalize starts : MacOp.store old new :: rest = ops at quiet
      cases quiet with
      | done => cases starts
      | unchanged others word shape => exact updates shape starts.symm
  · rintro rfl
    rcases agreement.assoc with none | owes
    · cases none
    · cases owes

end Agreement

/-- The next operation does not write the word back or queue a command. Otherwise the word is as
it was read, and the command gets a node. -/
def Current (s : MacSys) : List MacOp → Prop
  | .store old _ :: _ => s.macControl = old
  | .queue action :: _ =>
      action = s.macControl ∧ s.priv.surpriseremoved = false ∧ s.priv.cmdfreeq ≠ []
  | _ => True

instance (s : MacSys) (ops : List MacOp) : Decidable (Current s ops) := by
  unfold Current
  split <;> infer_instance

/-- No function is overtaken between reading the word and writing it back, or between copying the
word and queueing its command, and no command is dropped. -/
def Delivers (s : MacSys) : MacAction → Prop
  | .mcastStep => Current s s.mcast
  | .assocStep => Current s s.assoc
  | _ => True

instance (s : MacSys) (action : MacAction) : Decidable (Delivers s action) := by
  unfold Delivers
  split <;> infer_instance

section Steps

variable {s t : MacSys} {op : MacOp} {rest mcast assoc : List MacOp}

/-- The last operation of a function that delivers its command. -/
theorem carryOut_queue {action : UInt16} (current : Current s (.queue action :: rest)) :
    ∃ priv buf, s.carryOut (.queue action) rest =
        ({ s with priv := priv, commands := buf :: s.commands }, rest) ∧
      (buf :: s.commands).filterMap CmdBuf.macControl = s.macControl :: s.queued := by
  obtain ⟨rfl, present, free⟩ := current
  have content : (macControlRequest s.macControl).content =
      some (12, ByteOrder.le16Bytes s.macControl ++ [0, 0]) := rfl
  have other : (macControlRequest s.macControl).cmdNo ≠ cmd80211PsMode := by
    show cmdMacControl ≠ cmd80211PsMode
    decide
  obtain ⟨priv, sent⟩ := lbsCmdAsync_of_free present free other content (by decide)
  refine ⟨priv, _, congrArg (·, rest) sent, List.filterMap_cons_some ?_⟩
  show (if cmdMacControl = cmdMacControl then some (ByteOrder.le16At _ 0) else none) = _
  rw [if_pos rfl]
  exact congrArg some (ByteOrder.le16At_le16Bytes s.macControl [0, 0])

theorem perform_compare (s : MacSys) (old : UInt16) (rest : List MacOp) :
    s.perform (.compare old) rest = (s, if s.macControl ≠ old then rest else []) := rfl

theorem carryOut_compare (s : MacSys) (old : UInt16) (rest : List MacOp) :
    s.carryOut (.compare old) rest = (s, if s.macControl ≠ old then rest else []) := rfl

/-- What is left to send after an operation of the multicast worker, when the word changed. -/
theorem mcastOwes_carryOut (owes : McastOwes s.macControl (op :: rest))
    (current : Current s (op :: rest)) :
    McastOwes (s.carryOut op rest).1.macControl (s.carryOut op rest).2 ∨
      (s.carryOut op rest).2 = [] ∧
        (s.carryOut op rest).1.queued.head? = some (s.carryOut op rest).1.macControl := by
  generalize ops : op :: rest = todo at owes
  cases owes with
  | read =>
      cases ops
      exact .inl (.queue _)
  | queue action =>
      cases ops
      obtain ⟨priv, buf, performed, words⟩ := carryOut_queue current
      rw [performed]
      refine .inr ⟨rfl, ?_⟩
      show (List.filterMap _ (buf :: s.commands)).head? = _
      rw [words]
      rfl
  | changed updates old mask shape filter untouched differs =>
      cases updates with
      | nil =>
          cases ops
          have changed : s.macControl ≠ old := by
            rintro rfl
            exact differs rfl
          rw [carryOut_compare, if_pos changed]
          exact .inl .read
      | cons first updates =>
          obtain ⟨rfl, rfl⟩ := List.cons.inj ops
          obtain ⟨update, shape, _⟩ := mcastUpdates_cons shape
          obtain ⟨goesOn, kept⟩ := changed_update s (updates ++ outSetMacControl old) update
            (untouched op List.mem_cons_self)
          left
          rw [List.append_eq, goesOn]
          exact .changed updates old mask shape filter
            (fun later member => untouched later (List.mem_cons_of_mem _ member))
            fun undone => differs (kept.symm.trans undone)

/-- An operation of the multicast worker, when the word has not changed. -/
theorem mcastQuiet_carryOut (quiet : McastQuiet s.macControl (op :: rest)) :
    McastOwes (s.carryOut op rest).1.macControl (s.carryOut op rest).2 ∨
      McastQuiet s.macControl (s.carryOut op rest).2 ∧
        (s.carryOut op rest).1.macControl = s.macControl ∧
        (s.carryOut op rest).1.queued = s.queued := by
  generalize ops : op :: rest = todo at quiet
  cases quiet with
  | done => cases ops
  | unchanged updates old shape same =>
      cases updates with
      | nil =>
          cases ops
          rw [carryOut_compare]
          split
          · exact .inl .read
          · exact .inr ⟨.done, rfl, rfl⟩
      | cons first updates =>
          obtain ⟨rfl, rfl⟩ := List.cons.inj ops
          obtain ⟨_, later, _⟩ := mcastUpdates_cons shape
          obtain ⟨goesOn, kept | owes⟩ := quiet_update shape same
          · right
            rw [List.append_eq, goesOn]
            exact ⟨.unchanged updates old later same, kept⟩
          · left
            rw [List.append_eq, goesOn]
            exact owes

/-- An operation of the multicast worker that is not interrupted. -/
theorem mcast_agrees (agreement : MacAgreement s (op :: rest) assoc)
    (current : Current s (op :: rest)) :
    MacAgreement (s.carryOut op rest).1 (s.carryOut op rest).2 assoc := by
  refine ⟨agreement.assoc, ?_⟩
  rcases agreement.mcast with owes | ⟨quiet, sent⟩
  · rcases mcastOwes_carryOut owes current with owes | ⟨done, last⟩
    · exact .inl owes
    · right
      rw [done]
      exact ⟨.done, fun _ => last⟩
  · rcases mcastQuiet_carryOut quiet with owes | ⟨quiet, word, queued⟩
    · exact .inl owes
    · right
      rw [word, queued]
      exact ⟨quiet, sent⟩

/-- An operation of the association worker that is not interrupted. -/
theorem assoc_agrees (agreement : MacAgreement s mcast (op :: rest))
    (current : Current s (op :: rest)) :
    MacAgreement (s.carryOut op rest).1 mcast (s.carryOut op rest).2 := by
  have wep : ∀ {word : UInt16}, (∀ mask, actMacWepEnable &&& mask = 0 →
      Bits.Same mask word s.macControl) →
      MacAgreement { s with macControl := word } mcast [.read] := by
    intro word same
    refine ⟨.inr .read, ?_⟩
    rcases agreement.mcast with owes | ⟨quiet, _⟩
    · exact .inl (owes.of_same same)
    · exact .inr ⟨quiet.of_same (same mcastMask (by decide)), nofun⟩
  have owes : AssocOwes (op :: rest) := by
    rcases agreement.assoc with idle | owes
    · cases idle
    · exact owes
  cases owes with
  | set => exact wep fun mask apart => Bits.same_set apart
  | clear => exact wep fun mask apart => Bits.same_clear apart
  | read =>
      refine ⟨.inr (.queue _), ?_⟩
      rcases agreement.mcast with owes | ⟨quiet, _⟩
      · exact .inl owes
      · exact .inr ⟨quiet, nofun⟩
  | queue action =>
      obtain ⟨priv, buf, performed, words⟩ := carryOut_queue current
      rw [performed]
      refine ⟨.inl rfl, ?_⟩
      rcases agreement.mcast with owes | ⟨quiet, _⟩
      · exact .inl owes
      · refine .inr ⟨quiet, fun _ => ?_⟩
        show (List.filterMap _ (buf :: s.commands)).head? = _
        rw [words]
        rfl

/-- The association worker starts to send the word. -/
theorem assocStart_agrees (agreement : MacAgreement s mcast assoc) {ops : List MacOp}
    (owes : AssocOwes ops) : MacAgreement s mcast ops := by
  refine ⟨.inr owes, ?_⟩
  rcases agreement.mcast with owed | ⟨quiet, _⟩
  · exact .inl owed
  · refine .inr ⟨quiet, fun idle => ?_⟩
    cases owes <;> cases idle

theorem mcastStart_agrees (agreement : MacAgreement s [] assoc) (dev : McastDev)
    (meshDev : Option McastDev) :
    MacAgreement s (lbsSetMcastWorker dev meshDev s.macControl) assoc := by
  refine ⟨agreement.assoc, ?_⟩
  obtain ⟨updates, shape, does⟩ := lbsSetMcastWorker_updates dev meshDev s.macControl
  rcases agreement.mcast with owes | ⟨_, sent⟩
  · exact absurd owes not_mcastOwes_nil
  · refine .inr ⟨?_, sent⟩
    rw [does]
    exact .unchanged updates s.macControl shape rfl

theorem loaded_nil {todo : List MacOp} (loaded : Loaded [] todo) : todo = [] := by
  cases loaded
  rfl

/-- An operation begins a change of the word, or it is carried out as if the change had begun
with it. -/
theorem perform_loaded {todo : List MacOp} (loaded : Loaded (op :: rest) todo)
    (current : Current s (op :: rest)) (begins : ∀ old new, todo ≠ .store old new :: rest) :
    (s.perform op rest).1 = s ∧ Loaded (s.perform op rest).2 todo ∨
      ∃ first, todo = first :: rest ∧ Current s (first :: rest) ∧
        s.perform op rest = s.carryOut first rest := by
  cases loaded with
  | whole =>
      cases op with
      | set bits => exact .inl ⟨rfl, .set _ _ _⟩
      | clear bits => exact .inl ⟨rfl, .clear _ _ _⟩
      | store old new => exact absurd rfl (begins old new)
      | sendAddrs _ | compare _ | read | queue _ => exact .inr ⟨_, rfl, current, rfl⟩
  | set word bits =>
      cases current
      exact .inr ⟨_, rfl, trivial, rfl⟩
  | clear word bits =>
      cases current
      exact .inr ⟨_, rfl, trivial, rfl⟩

/-- An operation does not touch what the functions still have to do. -/
theorem perform_frame (s : MacSys) (op : MacOp) (rest : List MacOp) :
    (s.perform op rest).1.mcast = s.mcast ∧ (s.perform op rest).1.assoc = s.assoc := by
  have sends : ∀ {req : Request}, req.cmdNo ≠ cmd80211PsMode →
      (s.lbsCmdAsync req).mcast = s.mcast ∧ (s.lbsCmdAsync req).assoc = s.assoc := by
    intro req plain
    obtain ⟨priv, new, sent, _⟩ := lbsCmdAsync_frame s plain
    rw [sent]
    exact ⟨rfl, rfl⟩
  cases op with
  | sendAddrs maclist =>
      apply sends
      show cmdMacMulticastAdr ≠ cmd80211PsMode
      decide
  | queue action =>
      apply sends
      show cmdMacControl ≠ cmd80211PsMode
      decide
  | set _ | clear _ | store _ _ | compare _ | read => exact ⟨rfl, rfl⟩

end Steps

/-- The functions agree, whatever they are in the middle of. -/
def Agreed (s : MacSys) : Prop :=
  ∃ mcast assoc, Loaded s.mcast mcast ∧ Loaded s.assoc assoc ∧ MacAgreement s mcast assoc

section Runs

variable {s t : MacSys} {op : MacOp} {rest : List MacOp}

/-- A step of the multicast worker. -/
theorem mcastStep_agrees (agreed : Agreed s) (running : s.mcast = op :: rest)
    (current : Current s (op :: rest)) :
    Agreed { (s.perform op rest).1 with mcast := (s.perform op rest).2 } := by
  obtain ⟨mcast, assoc, loaded, loadedAssoc, agreement⟩ := agreed
  rw [running] at loaded
  have aside : Loaded (s.perform op rest).1.assoc assoc := by
    rw [(perform_frame s op rest).2]
    exact loadedAssoc
  rcases perform_loaded loaded current fun old new => (agreement.not_store old new).1 with
    ⟨same, loaded⟩ | ⟨first, rfl, current, performed⟩
  · exact ⟨mcast, assoc, loaded, aside, by rw [same]; exact ⟨agreement.assoc, agreement.mcast⟩⟩
  · have agrees := mcast_agrees agreement current
    rw [← performed] at agrees
    exact ⟨_, assoc, .whole _, aside, agrees.assoc, agrees.mcast⟩

/-- A step of the association worker. -/
theorem assocStep_agrees (agreed : Agreed s) (running : s.assoc = op :: rest)
    (current : Current s (op :: rest)) :
    Agreed { (s.perform op rest).1 with assoc := (s.perform op rest).2 } := by
  obtain ⟨mcast, assoc, loadedMcast, loaded, agreement⟩ := agreed
  rw [running] at loaded
  have aside : Loaded (s.perform op rest).1.mcast mcast := by
    rw [(perform_frame s op rest).1]
    exact loadedMcast
  rcases perform_loaded loaded current fun old new => (agreement.not_store old new).2 with
    ⟨same, loaded⟩ | ⟨first, rfl, current, performed⟩
  · exact ⟨mcast, assoc, aside, loaded, by rw [same]; exact ⟨agreement.assoc, agreement.mcast⟩⟩
  · have agrees := assoc_agrees agreement current
    rw [← performed] at agrees
    exact ⟨mcast, _, aside, .whole _, agrees.assoc, agrees.mcast⟩

/-- Every step that delivers its command and writes the word back in time keeps the agreement. -/
theorem macAgreement_step {action : MacAction} (agreed : Agreed s)
    (delivers : Delivers s action) (stepped : s.step action = some t) : Agreed t := by
  have starts : ∀ {ops : List MacOp}, AssocOwes ops → Agreed { s with assoc := ops } := by
    intro ops owes
    obtain ⟨mcast, assoc, loaded, _, agreement⟩ := agreed
    have agrees := assocStart_agrees agreement owes
    exact ⟨mcast, ops, loaded, .whole _, agrees.assoc, agrees.mcast⟩
  cases action with
  | multicast dev meshDev =>
      simp only [MacSys.step] at stepped
      split at stepped <;> cases stepped
      rename_i idle
      obtain ⟨mcast, assoc, loaded, aside, agreement⟩ := agreed
      rw [idle] at loaded
      cases loaded_nil loaded
      have agrees := mcastStart_agrees agreement dev meshDev
      exact ⟨_, assoc, .whole _, aside, agrees.assoc, agrees.mcast⟩
  | wepKeys enabled =>
      simp only [MacSys.step] at stepped
      split at stepped <;> cases stepped
      apply starts
      cases enabled with
      | true => exact .set
      | false => exact .clear
  | secinfo =>
      simp only [MacSys.step] at stepped
      split at stepped <;> cases stepped
      exact starts .read
  | mcastStep =>
      simp only [MacSys.step] at stepped
      split at stepped <;> cases stepped
      rename_i op rest running
      exact mcastStep_agrees agreed running (running ▸ delivers)
  | assocStep =>
      simp only [MacSys.step] at stepped
      split at stepped <;> cases stepped
      rename_i op rest running
      exact assocStep_agrees agreed running (running ▸ delivers)
  | rest priv =>
      cases stepped
      obtain ⟨mcast, assoc, loaded, aside, agreement⟩ := agreed
      exact ⟨mcast, assoc, loaded, aside, agreement.assoc, agreement.mcast⟩

end Runs

theorem macAgreement_init : MacAgreement .init [] [] :=
  ⟨.inl rfl, .inr ⟨.done, fun _ => by decide +kernel⟩⟩

/-- When no function is about to change or send the word, the last command carried it, in every
run that drops no command and overtakes none. -/
theorem mac_control_agrees {s : MacSys} (reached : macController.ReachableUnder Delivers s)
    (mcastDone : s.mcast = []) (assocDone : s.assoc = []) :
    s.queued.head? = some s.macControl := by
  have agreed : Agreed s := by
    refine reached.invariant Agreed ?_ fun _ _ _ _ agreed delivers stepped =>
      macAgreement_step agreed delivers stepped
    rintro _ rfl
    exact ⟨[], [], .whole _, .whole _, macAgreement_init⟩
  obtain ⟨mcast, assoc, loaded, aside, agreement⟩ := agreed
  rw [mcastDone] at loaded
  rw [assocDone] at aside
  cases loaded_nil loaded
  cases loaded_nil aside
  rcases agreement.mcast with owes | ⟨_, sent⟩
  · exact absurd owes not_mcastOwes_nil
  · exact sent rfl

/-- `lbs_set_mcast_worker` runs from its start to its end. -/
def setPromiscuous (promisc : Bool) : List MacAction :=
  .multicast { up := true, multicast := true, promisc := promisc, allmulti := false, mcList := [] }
    none :: List.replicate 7 .mcastStep

/-- WEP is enabled while the multicast worker runs. -/
theorem mac_control_agrees_wep : ∃ s, macController.ReachableUnder Delivers s ∧
    s.queued.length = 3 ∧ s.queued.head? = some s.macControl := by
  obtain ⟨s, executed, mcastDone, assocDone, sent⟩ := Machine.exists_of_map
    (fun s : MacSys => s.mcast = [] ∧ s.assoc = [] ∧ s.queued.length = 3)
    (show (macController.runUnder Delivers .init
      (.wepKeys true :: setPromiscuous true ++ List.replicate 4 .assocStep)).map _ = some true by
      decide +kernel)
  have reached := Machine.ReachableUnder.run (.initial rfl) executed
  exact ⟨s, reached, sent, mac_control_agrees reached mcastDone assocDone⟩

/-- All nodes are taken when the device leaves the promiscuous mode, and the command is
dropped. -/
theorem mac_control_dropped : ∃ s, macController.Reachable s ∧ s.mcast = [] ∧ s.assoc = [] ∧
    s.queued.head? ≠ some s.macControl := by
  obtain ⟨s, executed, stale⟩ := Machine.exists_of_map
    (fun s : MacSys => s.mcast = [] ∧ s.assoc = [] ∧ s.queued.head? ≠ some s.macControl)
    (show (macController.run .init
      ((List.range 10).flatMap fun i => setPromiscuous (i % 2 = 0))).map _ = some true by
      decide +kernel)
  exact ⟨s, Machine.reachable_of_run rfl executed, stale⟩

end Libertas
