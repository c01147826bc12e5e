import Libertas.Driver.Live
import Libertas.Driver.Mailbox

/-!
# Results of synchronous commands

To its caller a call of `__lbs_cmd` is an exchange: the command is issued under a
sequence number, a response with this number is accepted or the retries are
spent, and the callback runs on the accepted response. `Exchange` says how far an
exchange has come, what of it shows in the trace and in the caller's buffer, and
which result it has. The invariant ties every call to an exchange, over the node
that carries its command and the response that the main thread is working on.
-/

namespace Libertas

open ByteOrder

/-- How far the exchange behind a call of `__lbs_cmd` has come. -/
inductive Exchange
  /-- The command was not issued. -/
  | fresh
  | issued (seqnum : UInt16)
  /-- A response was accepted, and no callback ran. -/
  | accepted (seqnum : UInt16) (resp : List UInt8)
  /-- A response was accepted, and the callback ran on it. -/
  | handled (seqnum : UInt16) (resp : List UInt8)
  /-- The retries were spent. -/
  | timedOut (seqnum : UInt16)
deriving DecidableEq, Repr

namespace Exchange

/-- The events of the exchange, oldest first. -/
def story (c : CallId) (callback : Option Callback) : Exchange → List Event
  | fresh => []
  | issued q => [.issued c q]
  | accepted q resp => [.issued c q, .accepted c resp]
  | handled q resp =>
      [.issued c q, .accepted c resp] ++ (callback.map fun cb => .callback c cb resp).toList
  | timedOut q => [.issued c q, .timedOut c]

/-- The result that the caller gets. -/
def result : Exchange → Option Int
  | fresh | issued _ => none
  | accepted _ resp | handled _ resp => some (respResult resp).toNat
  | timedOut _ => some (-eTimedOut)

/-- The response answers the command. -/
def Valid : Exchange → Prop
  | fresh | issued _ | timedOut _ => True
  | accepted q resp | handled q resp => respSeqnum resp = q

/-- The accepted response. -/
def response : Exchange → Option (List UInt8)
  | fresh | issued _ | timedOut _ => none
  | accepted _ resp | handled _ resp => some resp

/-- The caller's buffer, given what it held at the start of the call. -/
def buffer (req : Request) (stored : List UInt8) : Exchange → List UInt8
  | handled _ resp =>
      if req.kind = .cmd .lbsCmdCopyback then overwrite (lbsCmdCopyback stored resp) stored
      else stored
  | fresh | issued _ | accepted _ _ | timedOut _ => stored

/-- The size that `lbs_cmd_with_response` stores is that of the caller's structure. -/
theorem respSize_storedBuffer {req : Request} {bytes : List UInt8}
    (kind : req.kind = .cmd .lbsCmdCopyback) (header : sDsGen ≤ bytes.length) :
    respSize (req.storedBuffer bytes) = UInt16.ofNat bytes.length := by
  have front : (bytes.take 2).length = 2 := by
    rw [List.length_take]
    exact Nat.min_eq_left (Nat.le_trans (by decide) header)
  have read := le16At_append (bytes.take 2) (bytes.drop 4) (UInt16.ofNat bytes.length)
  rw [front] at read
  rw [respSize, Request.storedBuffer, if_pos kind]
  exact read

/-- Behind the shorter of the caller's structure and the accepted response nothing is written. -/
theorem byteAt_buffer {req : Request} {bytes : List UInt8} (header : sDsGen ≤ bytes.length)
    (x : Exchange) (i : Nat)
    (behind : ∀ resp, x.response = some resp → min bytes.length (respSize resp).toNat ≤ i) :
    byteAt (x.buffer req (req.storedBuffer bytes)) i = byteAt (req.storedBuffer bytes) i := by
  cases x with
  | fresh | issued _ | accepted _ _ | timedOut _ => rfl
  | handled q resp =>
      by_cases kind : req.kind = .cmd .lbsCmdCopyback
      · rw [buffer, if_pos kind]
        apply byteAt_overwrite_of_le
        have fits : (UInt16.ofNat bytes.length).toNat ≤ bytes.length :=
          Nat.mod_le bytes.length (2 ^ 16)
        rw [lbsCmdCopyback, slice_length, respSize_storedBuffer kind header, UInt16.toNat_min]
        exact Nat.le_trans (by omega) (behind resp rfl)
      · rw [buffer, if_neg kind]

end Exchange

/-- The event belongs to the exchange of a call. -/
def Event.about (c : CallId) : Event → Bool
  | .issued d _ | .accepted d _ | .callback d _ _ | .timedOut d => d = c
  | _ => false

theorem Event.not_about {c : CallId} {e : Event} (neutral : e.neutral = true) :
    e.about c = false := by
  cases e <;> first | rfl | cases neutral

/-- The node whose ignored power-save command the main thread is about to complete. -/
def MainPc.ignored : MainPc → Option NodeId
  | .ignore n _ => some n
  | _ => none

/-- The node carries the command of a call. -/
structure CmdCtrlNode.Carries (node : CmdCtrlNode) (req : Request) (c : CallId)
    (seqnum : UInt16) : Prop where
  callback : node.callback = req.callback
  callbackArg : node.callbackArg = req.pointer c
  seqnum : node.cmdbuf.seqnum = seqnum
  command : node.cmdbuf.command = req.cmdNo

theorem CmdCtrlNode.Carries.sync {node : CmdCtrlNode} {req : Request} {c : CallId} {q : UInt16}
    (carries : node.Carries req c q) (isCmd : req.isCmd = true) : node.isAsync = false := by
  obtain ⟨cb, callback⟩ := Request.callback_of_isCmd isCmd
  simp [CmdCtrlNode.isAsync, carries.callback, callback]

theorem MainPc.ignored_of_answer {pc : MainPc} {result : UInt16}
    (answer : pc.answer = some result) : pc.ignored = none := by
  cases pc <;> first | rfl | cases answer

theorem MainPc.ignored_of_transit {pc : MainPc} (transit : pc.transit = none) :
    pc.ignored = none := by
  cases pc <;> first | rfl | cases transit

namespace Sys

/-- What the trace tells about the exchange of a call. -/
def story (s : Sys) (c : CallId) : List Event :=
  s.trace.filter (Event.about c)

/-- The accepted response for a node in flight: its result and, as long as no callback or handler
ran, the response itself. -/
def reply (s : Sys) (n : NodeId) : Option (UInt16 × Option (List UInt8)) :=
  if s.priv.curCmd = some n then
    s.main.answer.map fun result => (result, s.main.unhandled.map s.priv.respBuf)
  else none

/-- The command of a call is under way, and its exchange has come this far. -/
def Awaits (s : Sys) (c : CallId) (n : NodeId) : Exchange → Prop
  | .fresh | .timedOut _ => False
  | .issued q => (s.priv.cmdArray n).Carries (s.client c).req c q ∧ s.reply n = none
  | .accepted q resp =>
      (s.priv.cmdArray n).Carries (s.client c).req c q ∧
        (s.reply n = some (respResult resp, none) ∨
          s.reply n = some (respResult resp, some resp))
  | .handled q resp =>
      (s.priv.cmdArray n).Carries (s.client c).req c q ∧
        s.reply n = some (respResult resp, none)

/-- Where a call is fits how far its exchange has come. -/
def Agrees (s : Sys) (c : CallId) (x : Exchange) : Prop :=
  match (s.client c).phase with
  | .idle | .start | .alloc | .fill _ => x = .fresh
  | .stamp n =>
      x = .fresh ∧ (s.priv.cmdArray n).callback = (s.client c).req.callback ∧
        (s.priv.cmdArray n).callbackArg = (s.client c).req.pointer c
  | .abort _ => False
  | .queue n | .insert n _ =>
      ∃ q, x = .issued q ∧ (s.priv.cmdArray n).Carries (s.client c).req c q
  | .unqueued n => (∃ q, x = .issued q) ∧ (s.priv.cmdArray n).cmdwaitqwoken = false
  | .wait n =>
      if (s.priv.cmdArray n).cmdwaitqwoken then x.result = some (s.priv.cmdArray n).result
      else s.Awaits c n x
  | .finish n => x.result = some (s.priv.cmdArray n).result
  | .returned ret =>
      x = .fresh ∧ (ret = (s.client c).req.removedRet ∨ ret = (s.client c).req.exhaustedRet) ∨
        x.result = some ret

/-- The exchange of a call as the driver state shows it. -/
structure Follows (s : Sys) (c : CallId) (x : Exchange) : Prop where
  story : s.story c = x.story c (s.client c).req.callback
  valid : x.Valid
  buffer : ∀ bytes, (s.client c).req.buffer = some bytes →
    s.memory c = x.buffer (s.client c).req ((s.client c).req.storedBuffer bytes)
  agrees : s.Agrees c x

/-- A call of `__lbs_cmd` with a command other than `CMD_802_11_PS_MODE`. -/
def Synchronous (s : Sys) (c : CallId) : Prop :=
  (s.client c).req.isCmd = true ∧ (s.client c).req.cmdNo ≠ cmd80211PsMode

instance (s : Sys) (c : CallId) : Decidable (s.Synchronous c) :=
  inferInstanceAs (Decidable (_ ∧ _))

/-- The slot that the main thread works on is full. -/
def Occupied (s : Sys) : Prop :=
  ∀ idx, s.main.slot = some idx → s.priv.respLen idx ≠ 0

/-- Every synchronous call follows an exchange. -/
structure Sound (s : Sys) : Prop where
  live : s.Live
  untold : ∀ c, (s.client c).phase = .idle → s.story c = []
  ignoring : ∀ n, s.main.ignored = some n →
    (s.priv.cmdArray n).cmdbuf.command = cmd80211PsMode
  follows : ∀ c, s.Synchronous c → ∃ x, s.Follows c x

section Frames

variable {s t : Sys} {c : CallId} {n : NodeId} {x : Exchange}

/-- A step that leaves a call, its node and the response for its node alone, up to signals. -/
theorem Follows.keep (follows : s.Follows c x) (phase : (t.client c).phase = (s.client c).phase)
    (req : (t.client c).req = (s.client c).req) (story : t.story c = s.story c)
    (memory : t.memory c = s.memory c)
    (array : ∀ n, (s.client c).phase.node = some n → t.priv.cmdArray n = s.priv.cmdArray n)
    (reply : ∀ n, (s.client c).phase.node = some n → t.reply n = s.reply n) :
    t.Follows c x := by
  refine ⟨?_, follows.valid, ?_, ?_⟩
  · rw [story, req]
    exact follows.story
  · rw [memory, req]
    exact follows.buffer
  · have agrees := follows.agrees
    rw [Agrees] at agrees ⊢
    rw [phase, req]
    cases now : (s.client c).phase <;> simp only [now] at agrees array reply ⊢
    case wait n =>
      have awaits : t.Awaits c n x ↔ s.Awaits c n x := by
        unfold Awaits
        rw [req, array n rfl, reply n rfl]
      rw [array n rfl, awaits]
      exact agrees
    all_goals first | exact agrees | (rw [array _ rfl]; exact agrees)

/-- A node that a call prepares is the call's own. -/
theorem Held.prepared_mine (held : s.Held) (preparing : (s.client c).phase.preparing = some n) :
    s.owner n = c := by
  have fits := held.fits c
  rw [Client.Fits] at fits
  cases phase : (s.client c).phase <;> simp only [phase, Phase.preparing, reduceCtorEq,
    Option.some.injEq] at fits preparing <;> subst preparing
  case fill | abort => exact fits
  all_goals exact fits.1

/-- A call takes a step, and its exchange stays as it is. -/
theorem Follows.go {phase : Phase} (follows : s.Follows c x)
    (client : t.client c = { s.client c with phase := phase }) (trace : t.trace = s.trace)
    (memory : t.memory = s.memory) (agrees : t.Agrees c x) : t.Follows c x := by
  refine ⟨?_, follows.valid, ?_, agrees⟩
  · rw [Sys.story, trace, client]
    exact follows.story
  · rw [memory, client]
    exact follows.buffer

/-- The node of a call that frees it is the call's own and not free. -/
theorem Held.mine (held : s.Held) (isCmd : (s.client c).req.isCmd = true)
    (node : (s.client c).phase.node = some n) : s.owner n = c ∧ n ∉ s.priv.cmdfreeq := by
  rcases Phase.node_cases node with preparing | awaiting
  · exact ⟨held.prepared_mine preparing, (held.prepared_elsewhere preparing).1⟩
  · obtain ⟨owner, _, notFree, _⟩ := (Client.Fits.awaiting_iff awaiting).mp (held.fits c) isCmd
    exact ⟨owner, notFree⟩

/-- No step of another call touches the node of a call that frees it. -/
theorem Held.unshared {d : CallId} (held : s.Held) (isCmd : (s.client c).req.isCmd = true)
    (node : (s.client c).phase.node = some n) (other : d ≠ c) : ¬ s.Touches d n := by
  obtain ⟨owner, notFree⟩ := held.mine isCmd node
  rintro (preparing | free | ⟨cmd, finish⟩)
  · exact other ((held.prepared_mine preparing).symm.trans owner)
  · exact notFree free
  · have theirs := (held.mine (c := d) cmd (by rw [finish]; rfl)).1
    exact other (theirs.symm.trans owner)

theorem SameClients.synchronous (clients : SameClients s t) (sync : t.Synchronous c) :
    t.client c = s.client c ∧ s.Synchronous c := by
  rcases clients with same | ⟨d, req, _, notCmd, _, began⟩
  · rw [Synchronous] at sync ⊢
    rw [same] at sync ⊢
    exact ⟨rfl, sync⟩
  · by_cases mine : c = d
    · subst mine
      have isCmd := sync.1
      simp [began, notCmd] at isCmd
    · have same : t.client c = s.client c := by
        rw [began]
        exact if_neg mine
      rw [Synchronous] at sync ⊢
      rw [same] at sync
      exact ⟨same, sync⟩

theorem SameClients.idle (clients : SameClients s t) (idle : (t.client c).phase = .idle) :
    (s.client c).phase = .idle := by
  rcases clients with same | ⟨d, req, _, _, _, began⟩
  · rwa [same] at idle
  · by_cases mine : c = d
    · simp [began, mine] at idle
    · simpa [began, mine] using idle

/-- A step of the main thread that tells nothing about any exchange. -/
theorem Sound.silent (sound : s.Sound) (live : t.Live) (clients : SameClients s t)
    (story : t.story = s.story) (memory : t.memory = s.memory)
    (array : ∀ c, s.Synchronous c → ∀ n, (s.client c).phase.node = some n →
      t.priv.cmdArray n = s.priv.cmdArray n)
    (reply : t.reply = s.reply)
    (ignoring : ∀ n, t.main.ignored = some n →
      (t.priv.cmdArray n).cmdbuf.command = cmd80211PsMode) : t.Sound where
  live := live
  untold c idle := by
    rw [story]
    exact sound.untold c (clients.idle idle)
  ignoring := ignoring
  follows c sync := by
    obtain ⟨client, before⟩ := clients.synchronous sync
    obtain ⟨x, follows⟩ := sound.follows c before
    exact ⟨x, follows.keep (by rw [client]) (by rw [client]) (by rw [story]) (by rw [memory])
      (array c before)
      fun n _ => by rw [reply]⟩

/-- A step of the main thread on a command that is under way. -/
theorem Sound.advance (sound : s.Sound) (live : t.Live) (inHand : s.InHand n)
    (clients : SameClients s t) (story : ∀ c, c ≠ s.owner n → t.story c = s.story c)
    (memory : ∀ c, c ≠ s.owner n → t.memory c = s.memory c)
    (array : ∀ m, m ≠ n → t.priv.cmdArray m = s.priv.cmdArray m)
    (reply : ∀ m, m ≠ n → t.reply m = s.reply m) (ignored : t.main.ignored = none)
    (mine : s.Synchronous (s.owner n) → t.client (s.owner n) = s.client (s.owner n) →
      (s.client (s.owner n)).phase = .wait n → ∀ x, s.Follows (s.owner n) x →
        s.Awaits (s.owner n) n x → ∃ y, t.Follows (s.owner n) y) : t.Sound where
  live := live
  untold c idle := by
    have before := clients.idle idle
    have other : c ≠ s.owner n := fun same => (sound.live.waited n inHand).1 (same ▸ before)
    rw [story c other]
    exact sound.untold c before
  ignoring m same := by
    rw [ignored] at same
    cases same
  follows c sync := by
    obtain ⟨client, before⟩ := clients.synchronous sync
    obtain ⟨x, follows⟩ := sound.follows c before
    by_cases owned : c = s.owner n
    · subst owned
      obtain ⟨phase, unwoken⟩ := (sound.live.waited n inHand).2 before.1
      apply mine before client phase x follows
      have agrees := follows.agrees
      simpa [Agrees, phase, unwoken] using agrees
    · have elsewhere : ∀ m, (s.client c).phase.node = some m → m ≠ n := fun m node same =>
        owned ((sound.live.held.mine before.1 node).1.symm.trans (congrArg s.owner same))
      exact ⟨x, follows.keep (by rw [client]) (by rw [client]) (story c owned) (memory c owned)
        (fun m node => array m (elsewhere m node)) fun m node => reply m (elsewhere m node)⟩

/-- The command of a call is completed with the result of its exchange. -/
theorem Follows.complete {y : Exchange} (follows : s.Follows c x)
    (phase : (s.client c).phase = .wait n) (client : t.client c = s.client c)
    (story : t.story c = y.story c (s.client c).req.callback) (valid : y.Valid)
    (memory : t.memory c = s.memory c)
    (buffer : ∀ stored, y.buffer (s.client c).req stored = x.buffer (s.client c).req stored)
    (woken : (t.priv.cmdArray n).cmdwaitqwoken = true)
    (result : y.result = some (t.priv.cmdArray n).result) : t.Follows c y := by
  refine ⟨by rw [client]; exact story, valid, ?_, ?_⟩
  · rw [memory, client]
    simpa only [buffer] using follows.buffer
  · rw [Agrees]
    rw [client, phase]
    simp [woken, result]

/-- The response is accepted for the command of a call. -/
theorem Follows.accept {q : UInt16} {resp : List UInt8} (follows : s.Follows c (.issued q))
    (client : t.client c = s.client c) (story : t.story c = s.story c ++ [.accepted c resp])
    (memory : t.memory c = s.memory c) (seqnum : respSeqnum resp = q)
    (agrees : t.Agrees c (.accepted q resp)) : t.Follows c (.accepted q resp) := by
  refine ⟨?_, seqnum, ?_, agrees⟩
  · rw [story, follows.story]
    rfl
  · rw [memory, client]
    exact follows.buffer

/-- Without an accepted response the command was only issued. -/
theorem Awaits.issued (awaits : s.Awaits c n x) (unanswered : s.reply n = none) :
    ∃ q, x = .issued q ∧ (s.priv.cmdArray n).Carries (s.client c).req c q := by
  cases x with
  | fresh | timedOut => exact awaits.elim
  | issued q => exact ⟨q, rfl, awaits.1⟩
  | accepted q resp => rcases awaits.2 with answered | answered <;> simp [unanswered] at answered
  | handled q resp =>
      have answered := awaits.2
      simp [unanswered] at answered

theorem Awaits.carries (awaits : s.Awaits c n x) :
    ∃ q, (s.priv.cmdArray n).Carries (s.client c).req c q := by
  cases x with
  | fresh | timedOut => exact awaits.elim
  | issued q | accepted q _ | handled q _ => exact ⟨q, awaits.1⟩

/-- After the callback or handler ran, the exchange has the result that the main thread holds. -/
theorem Awaits.answered {result : UInt16} (awaits : s.Awaits c n x)
    (reply : s.reply n = some (result, none)) : x.result = some (result.toNat : Int) := by
  cases x with
  | fresh | timedOut => exact awaits.elim
  | issued q => simpa [reply] using awaits.2
  | accepted q resp =>
      rcases awaits.2 with same | same <;> rw [reply] at same <;> cases same
      rfl
  | handled q resp =>
      have same := awaits.2
      rw [reply] at same
      cases same
      rfl

theorem reply_congr (current : t.priv.curCmd = s.priv.curCmd) (main : t.main = s.main)
    (buf : s.main.unhandled.map t.priv.respBuf = s.main.unhandled.map s.priv.respBuf) :
    t.reply = s.reply := by
  funext n
  rw [reply, current, main, buf, reply]

theorem reply_of_unanswered (unanswered : s.main.answer = none) : s.reply = fun _ => none := by
  funext n
  simp [reply, unanswered]

theorem reply_of_ne (current : s.priv.curCmd = some n) {m : NodeId} (other : m ≠ n) :
    s.reply m = none := by
  simp [reply, current, Ne.symm other]

end Frames

section Story

variable (s : Sys) (c : CallId) (e : Event)

theorem story_append (events : List Event) {t : Sys} (appended : t.trace = s.trace ++ events) :
    t.story c = s.story c ++ events.filter (Event.about c) := by
  simp [story, appended]

end Story

section Occupied

variable {s t : Sys}

theorem SameMail.occupied (same : SameMail s t) (occupied : s.Occupied) : t.Occupied := by
  intro idx working
  rw [same.slot] at working
  rw [congrArg ResponseSlots.respLen same.slots]
  exact occupied idx working

theorem Occupied.main {success : Bool} {c : CallId} (occupied : s.Occupied)
    (moved : s.mainStep success c = some t) : t.Occupied := by
  by_cases elsewhere : s.main ≠ .response ∧ (∀ idx, s.main ≠ .process idx) ∧
      ∀ idx, s.main ≠ .clear idx
  · exact (mainStep_sameMail elsewhere moved).occupied occupied
  cases pc : s.main
  case response =>
    simp only [Sys.mainStep, pc] at moved
    split at moved <;> cases moved
    · rename_i full
      intro idx working
      obtain rfl : s.priv.respIdx = idx := Option.some.inj working
      exact full
    · intro idx working
      cases working
  case process idx =>
    simp only [Sys.mainStep, pc] at moved
    have passes := process_passes moved
    intro jdx working
    obtain rfl : idx = jdx := Option.some.inj (passes.slot.symm.trans working)
    rw [congrArg ResponseSlots.respLen passes.slots]
    exact occupied idx (by rw [pc]; rfl)
  case clear idx =>
    simp only [Sys.mainStep, pc] at moved
    cases moved
    intro idx working
    cases working
  all_goals exact absurd ⟨by simp [pc], by simp [pc], by simp [pc]⟩ elsewhere

theorem Occupied.deliver (occupied : s.Occupied) (data : List UInt8) :
    (s.deliverStep data).Occupied := by
  rw [deliverStep]
  split
  · exact occupied
  dsimp only
  split
  · exact occupied
  · rename_i full
    intro idx working
    have other : idx ≠ otherSlot s.priv.respIdx := fun same => by
      apply occupied idx working
      rw [same]
      exact not_not.mp full
    simpa [Function.update_of_ne other] using occupied idx working

/-- No party empties or steals the slot that the main thread works on. -/
theorem Occupied.step {action : Action} (occupied : s.Occupied)
    (stepped : s.step action = some t) : t.Occupied := by
  unfold Sys.step at stepped
  split at stepped
  · cases stepped
  cases action with
  | client c => exact (clientStep_frame stepped).sameMail.occupied occupied
  | main success c => exact occupied.main stepped
  | deliver data =>
      cases stepped
      exact occupied.deliver data
  | call _ _ | timerExpire | commandTimerFn | stopCard =>
      dsimp only at stepped
      split at stepped <;> cases stepped
      exact occupied
  | signal _ | queueEvent _ | hostToCardDone | remove | kthreadStop | setFwReady | configure _
    | transmit _ _ =>
      cases stepped
      exact occupied

theorem Occupied.of_reachable {allowed : Sys → Action → Prop}
    (reached : driver.ReachableUnder allowed s) : s.Occupied :=
  reached.invariant Occupied (fun _ start => start ▸ nofun)
    fun _ _ _ _ occupied _ stepped => occupied.step stepped

end Occupied

/-- Completing a node with a waiter that frees it records the result and wakes the waiter. -/
theorem completed_node (cs : CommandState) {n : NodeId} (result : Int)
    (sync : (cs.cmdArray n).isAsync = false) :
    (cs.lbsCompleteCommand n result).cmdArray n =
      { cs.cmdArray n with result := result, cmdwaitqwoken := true } := by
  rw [CommandState.lbsCompleteCommand_of_sync sync]
  exact CommandState.recordResult_self

namespace Sound

variable {s t : Sys} {c : CallId} {n : NodeId} {x : Exchange}

/-- Another party leaves the calls, the nodes and the response in the main thread's hands alone. -/
theorem aside (sound : s.Sound) (live : t.Live) (client : t.client = s.client)
    (main : t.main = s.main) (story : t.story = s.story) (memory : t.memory = s.memory)
    (array : t.priv.cmdArray = s.priv.cmdArray) (reply : t.reply = s.reply) : t.Sound := by
  apply sound.silent live (.inl client) story memory (fun _ _ _ _ => by rw [array]) reply
  rw [main, array]
  exact sound.ignoring

/-- The main thread goes on without a response in its hands and leaves the nodes alone. -/
theorem pass (sound : s.Sound) (live : t.Live) (client : t.client = s.client)
    (trace : t.trace = s.trace) (memory : t.memory = s.memory) (before : s.main.answer = none)
    (after : t.main.answer = none) (array : t.priv.cmdArray = s.priv.cmdArray)
    (ignored : t.main.ignored = none) : t.Sound := by
  refine sound.silent live (.inl client) ?_ memory (fun _ _ _ _ => by rw [array]) ?_
    (by simp [ignored])
  · funext d
    rw [story, trace, story]
  · rw [reply_of_unanswered before, reply_of_unanswered after]

/-- The number of an accepted response is that of the command. -/
theorem seqnum_of_accepted {priv : Priv} {resp : List UInt8} {req : Request} {q : UInt16}
    (accepted : Accepted priv resp n) (carries : (priv.cmdArray n).Carries req c q) :
    respSeqnum resp = q := by
  have passed := accepted.accepted
  simp only [rejects, Bool.or_eq_false_iff, decide_eq_false_iff_not, ne_eq, not_not] at passed
  exact passed.1.1.trans carries.seqnum

theorem accepts {idx : Fin 2} (sound : s.Sound) (live : t.Live) (pc : s.main = .process idx)
    (accepts : Accepts idx n s t) : t.Sound := by
  have unanswered : s.reply = fun _ => none := reply_of_unanswered (by rw [pc]; rfl)
  have inHand : s.InHand n := .inr (.inr ⟨by rw [pc]; rfl, accepts.accepted.current⟩)
  rcases accepts.outcome with ⟨cmd, main, trace⟩ | ⟨cmd, slots, task, unhandled, trace⟩
  · have array : t.priv.cmdArray = ((acceptResponse s.priv (s.priv.respBuf idx)).lbsCompleteCommand
        n (respResult (s.priv.respBuf idx)).toNat).cmdArray := by rw [cmd]
    have told : t.reply = fun _ => none := reply_of_unanswered (by rw [main]; rfl)
    refine sound.advance live inHand accepts.clients (fun d other => ?_)
      (fun d other => by rw [accepts.memory]) (fun m other => ?_)
      (fun m other => by rw [told, unanswered]) (by rw [main]; rfl) ?_
    · rw [story_append s d _ trace]
      simp [Event.about, Ne.symm other]
    · rw [array]
      exact CommandState.lbsCompleteCommand_of_ne other
    · intro sync client phase x follows awaits
      obtain ⟨q, rfl, carries⟩ := awaits.issued (by rw [unanswered])
      have node := completed_node (acceptResponse s.priv
        (s.priv.respBuf idx)).toCommandState (respResult (s.priv.respBuf idx)).toNat
        (carries.sync sync.1)
      rw [← array] at node
      refine ⟨.accepted q (s.priv.respBuf idx), follows.accept client ?_
        (by rw [accepts.memory]) (seqnum_of_accepted accepts.accepted carries) ?_⟩
      · rw [story_append s _ _ trace]
        simp [Event.about]
      · rw [Agrees]
        rw [client, phase]
        simp [node, Exchange.result]
  · have nodes : t.priv.toNodeState = s.priv.toNodeState := by rw [cmd]; rfl
    have current : t.priv.curCmd = some n :=
      (congrArg NodeState.curCmd nodes).trans accepts.accepted.current
    have array : t.priv.cmdArray = s.priv.cmdArray := congrArg NodeState.cmdArray nodes
    simp only [MainPc.task, Prod.mk.injEq] at task
    refine sound.advance live inHand accepts.clients (fun d other => ?_)
      (fun d other => by rw [accepts.memory]) (fun m other => by rw [array])
      (fun m other => by rw [reply_of_ne current other, unanswered]) ?_ ?_
    · rw [story_append s d _ trace]
      simp [Event.about, Ne.symm other]
    · exact MainPc.ignored_of_answer task.1
    · intro sync client phase x follows awaits
      obtain ⟨q, rfl, carries⟩ := awaits.issued (by rw [unanswered])
      have buf : t.priv.respBuf = s.priv.respBuf := congrArg ResponseSlots.respBuf slots
      have reply : t.reply n = some (respResult (s.priv.respBuf idx), none) ∨
          t.reply n = some (respResult (s.priv.respBuf idx), some (s.priv.respBuf idx)) := by
        rw [Sys.reply]
        rw [if_pos current, task.1, buf]
        rcases unhandled with none | some
        · exact .inl (by rw [none]; rfl)
        · exact .inr (by rw [some]; rfl)
      refine ⟨.accepted q (s.priv.respBuf idx), follows.accept client ?_
        (by rw [accepts.memory]) (seqnum_of_accepted accepts.accepted carries) ?_⟩
      · rw [story_append s _ _ trace]
        simp [Event.about]
      · have unwoken := ((sound.live.waited n inHand).2 sync.1).2
        rw [Agrees]
        rw [client, phase, array]
        simp only [unwoken, Bool.false_eq_true, if_false]
        exact ⟨by rw [client, array]; exact carries, reply⟩

theorem process {success : Bool} {idx : Fin 2} (sound : s.Sound) (pc : s.main = .process idx)
    (moved : s.mainStep success c = some t) : t.Sound := by
  have live := sound.live.main moved
  simp only [Sys.mainStep, pc] at moved
  rcases processResponse_cases moved with rfl | ⟨n, accepts⟩
  · refine sound.silent live (.inl rfl) ?_ rfl (fun _ _ _ _ => rfl) ?_ fun n here => by cases here
    · funext c
      rw [story_append s c [.passed (s.stored idx)] rfl]
      simp [Event.about]
    · rw [reply_of_unanswered (s := s) (by rw [pc]; rfl)]
      exact reply_of_unanswered rfl
  · exact sound.accepts live pc accepts

/-- The response that is about to be handled is the one the exchange has accepted. -/
theorem unhandled_response {idx : Fin 2} {result : UInt16} (pc : s.main = .dispatch idx result)
    (current : s.priv.curCmd = some n) (awaits : s.Awaits c n x) :
    ∃ q, x = .accepted q (s.priv.respBuf idx) ∧ result = respResult (s.priv.respBuf idx) := by
  have reply : s.reply n = some (result, some (s.priv.respBuf idx)) := by
    simp [reply, current, pc, MainPc.answer, MainPc.unhandled]
  cases x with
  | fresh | timedOut => exact awaits.elim
  | issued q => simpa [reply] using awaits.2
  | handled q resp => simpa [reply] using awaits.2
  | accepted q resp =>
      rcases awaits.2 with same | same <;> rw [reply] at same <;> cases same
      exact ⟨q, rfl, rfl⟩

/-- What the callback of a synchronous call writes. -/
theorem callback_memory {resp stored : List UInt8} {req : Request} {q : UInt16}
    (current : s.priv.curCmd = some n) (isCmd : req.isCmd = true)
    (carries : (s.priv.cmdArray n).Carries req c q) {bytes : List UInt8}
    (buffer : req.buffer = some bytes) (content : s.memory c = stored) :
    applyWrite s.memory (dispatchResponse s.memory s.priv resp).write c =
      (Exchange.handled q resp).buffer req stored := by
  obtain ⟨cb, kind⟩ : ∃ cb, req.kind = .cmd cb := by
    cases kind : req.kind <;> simp_all [Request.isCmd]
  have callback : (s.priv.cmdArray n).callback = some (.sync cb) := by
    rw [carries.callback, Request.callback, kind]
  have arg : (s.priv.cmdArray n).callbackArg = some c := by
    rw [carries.callbackArg, Request.pointer, buffer]
    rfl
  have found : (s.priv.curCmd.bind fun n =>
      (s.priv.cmdArray n).callback.map fun cb => (n, cb)) = some (n, .sync cb) := by
    simp [current, callback]
  rw [dispatchResponse]
  rw [found]
  cases cb with
  | lbsCmdCopyback => simp [runCallback, arg, applyWrite, Exchange.buffer, kind, content]
  | lbsRet80211Scan | lbsSuspendCallback =>
      simp [runCallback, Handled.of, applyWrite, Exchange.buffer, kind, content]

/-- The callback or handler of an accepted response runs. -/
theorem dispatch {success : Bool} {idx : Fin 2} {result : UInt16} (sound : s.Sound)
    (pc : s.main = .dispatch idx result) (moved : s.mainStep success c = some t) : t.Sound := by
  have live := sound.live.main moved
  simp only [Sys.mainStep, pc] at moved
  have step := dispatchStep_frame moved
  have task := step.task
  simp only [MainPc.task, Prod.mk.injEq] at task
  have nodes := congrArg CommandState.toNodeState step.cmd
  have array : t.priv.cmdArray = s.priv.cmdArray := congrArg NodeState.cmdArray nodes
  have curCmd : t.priv.curCmd = s.priv.curCmd := congrArg NodeState.curCmd nodes
  have ignored := MainPc.ignored_of_answer task.1
  cases current : s.priv.curCmd with
  | none =>
      have memory : t.memory = s.memory := by
        funext p
        rw [step.memory]
        refine applyWrite_of_ne fun q bytes wrote => ?_
        obtain ⟨n, running, _⟩ := dispatchResponse_write wrote
        rw [current] at running
        cases running
      refine sound.silent live step.clients ?_ memory (fun _ _ _ _ => by rw [array]) ?_
        (by simp [ignored])
      · funext c
        rw [story, step.trace]
        simp [logCallback, current, story]
      · funext n
        simp [reply, curCmd, current]
  | some n =>
      have inHand : s.InHand n := .inr (.inr ⟨by rw [pc]; rfl, current⟩)
      refine sound.advance live inHand step.clients (fun d other => ?_) (fun d other => ?_)
        (fun m other => by rw [array]) (fun m other => ?_) ignored ?_
      · rw [story, step.trace]
        unfold logCallback
        split
        · rfl
        · rename_i m callback found
          obtain rfl : n = m := by
            cases called : (s.priv.cmdArray n).callback <;> simp_all
          simp [story, Event.about, Ne.symm other]
      · rw [step.memory]
        refine applyWrite_of_ne fun p bytes wrote => ?_
        obtain ⟨m, running, arg⟩ := dispatchResponse_write wrote
        obtain rfl : n = m := Option.some.inj (current.symm.trans running)
        exact fun same => other (same.trans (sound.live.tagged n p arg).1)
      · rw [reply_of_ne (curCmd.trans current) other, reply_of_ne current other]
      · intro sync client phase x follows awaits
        obtain ⟨q, rfl, rfl⟩ := unhandled_response pc current awaits
        have carries := awaits.1
        obtain ⟨cb, callback⟩ := Request.callback_of_isCmd sync.1
        have called : (s.priv.cmdArray n).callback = some (.sync cb) :=
          carries.callback.trans callback
        have told : t.story (s.owner n) = s.story (s.owner n) ++
            [.callback (s.owner n) (.sync cb) (s.priv.respBuf idx)] := by
          rw [story, step.trace]
          simp [logCallback, current, called, story, Event.about]
        refine ⟨.handled q (s.priv.respBuf idx), ?_, follows.valid, fun bytes buffer => ?_, ?_⟩
        · rw [told, follows.story, client]
          simp [Exchange.story, callback]
        · rw [client] at buffer ⊢
          rw [step.memory]
          exact callback_memory current sync.1 carries buffer (follows.buffer bytes buffer)
        · have unwoken := ((sound.live.waited n inHand).2 sync.1).2
          have reply : t.reply n = some (respResult (s.priv.respBuf idx), none) := by
            simp [reply, curCmd, current, task.1, task.2.2.2]
          rw [Agrees]
          rw [client, phase, array]
          simp only [unwoken, Bool.false_eq_true, if_false]
          exact ⟨by rw [client, array]; exact carries, reply⟩

/-- The command in flight is completed after its callback or handler ran. -/
theorem complete {success : Bool} {idx : Fin 2} {result : UInt16} (sound : s.Sound)
    (pc : s.main = .complete idx result) (moved : s.mainStep success c = some t) : t.Sound := by
  have live := sound.live.main moved
  have kept : s.main.givingUp = none := by rw [pc]; rfl
  simp only [Sys.mainStep, pc] at moved
  cases current : s.priv.curCmd with
  | none =>
      cases moved
      refine sound.silent live (.inl (by simp)) ?_ (by simp) (fun _ _ _ _ => ?_) ?_
        fun n here => by cases here
      · simp [logCompleted, current]
        rfl
      · simp [completeCurCmd, current]
      · rw [reply_of_unanswered (by rfl)]
        funext n
        simp [reply, current]
  | some n =>
      cases moved
      have inHand : s.InHand n := .inr (.inr ⟨kept, current⟩)
      rw [completeCurCmd_of_current _ current] at live ⊢
      refine sound.advance live inHand (.inl (by simp)) (fun d other => ?_)
        (fun d other => by simp) (fun m other => CommandState.lbsCompleteCommand_of_ne other)
        (fun m other => ?_) rfl ?_
      · rw [story, show _ = _ from logCompleted_trace current]
        simp [story, Event.about]
      · rw [reply_of_unanswered (by rfl), reply_of_ne current other]
      · intro sync client phase x follows awaits
        have answered : x.result = some (result.toNat : Int) := awaits.answered (by
          simp [reply, current, pc, MainPc.answer, MainPc.unhandled])
        obtain ⟨q, carries⟩ := awaits.carries
        have node := completed_node s.priv.toCommandState result.toNat
          (carries.sync sync.1)
        refine ⟨x, follows.complete phase client ?_ follows.valid (by simp) (fun _ => rfl) ?_ ?_⟩
        · refine Eq.trans ?_ follows.story
          rw [story, show _ = _ from logCompleted_trace current]
          simp [story, Event.about]
        · simp
        · simp [answered, node]

/-- The test for a timed out command. -/
theorem timeout {success : Bool} (sound : s.Sound) (pc : s.main = .timeout)
    (moved : s.mainStep success c = some t) : t.Sound := by
  have live := sound.live.main moved
  have kept : s.main.givingUp = none := by rw [pc]; rfl
  have unanswered : s.reply = fun _ => none := reply_of_unanswered (by rw [pc]; rfl)
  simp only [Sys.mainStep, pc] at moved
  cases moved
  rw [timeoutStep] at live ⊢
  split at live
  · rename_i n timedOut current
    dsimp only at live ⊢
    have inHand : s.InHand n := .inr (.inr ⟨kept, current⟩)
    split at live
    · rename_i spent
      rw [if_pos spent]
      refine sound.advance live inHand (.inl rfl) (fun d other => ?_) (fun _ _ => rfl)
        (fun m other => CommandState.recordResult_of_ne other)
        (fun m other => by rw [unanswered, reply_of_unanswered (by rfl)]) rfl ?_
      · simp [story, Event.about, Ne.symm other]
      · intro sync client phase x follows awaits
        obtain ⟨q, rfl, carries⟩ := awaits.issued (by rw [unanswered])
        refine ⟨.timedOut q, follows.complete phase client ?_ trivial rfl (fun _ => rfl) ?_ ?_⟩
        · have told := follows.story
          simp only [story, Exchange.story] at told ⊢
          simp [List.filter_append, told, Event.about]
        · simp [CommandState.recordResult]
        · simp [Exchange.result, CommandState.recordResult]
    · rename_i unspent
      rw [if_neg unspent]
      exact sound.pass live rfl rfl rfl (by rw [pc]; rfl) rfl rfl rfl
  · exact sound.pass live rfl rfl rfl (by rw [pc]; rfl) rfl rfl rfl

/-- The main thread is in the middle of giving up a command, and may free its node. -/
theorem giveUpFree {success : Bool} (sound : s.Sound) (pc : s.main = .giveUpFree n)
    (moved : s.mainStep success c = some t) : t.Sound := by
  have live := sound.live.main moved
  have unanswered : s.reply = fun _ => none := reply_of_unanswered (by rw [pc]; rfl)
  have current : s.curView = some n := by
    apply sound.live.held.givingUp n
    simp [mainView, pc, MainPc.givingUp]
  simp only [Sys.mainStep, pc] at moved
  cases moved
  refine sound.silent live (.inl rfl) rfl rfl (fun d sync m node => ?_) ?_
    fun n here => by cases here
  · by_cases same : m = n
    · subst same
      have waits : (s.client d).phase.awaiting = some m :=
        (Phase.node_cases node).resolve_left fun prepared =>
          (sound.live.held.prepared_elsewhere prepared).2.2.1 current
      obtain ⟨_, unfreed, _⟩ :=
        (Client.Fits.awaiting_iff waits).mp (sound.live.held.fits d) sync.1
      exact congrArg (fun cs : CommandState => cs.cmdArray m)
        (CommandState.releaseAsync_of_sync unfreed)
    · exact CommandState.releaseAsync_of_ne same
  · rw [unanswered, reply_of_unanswered (by rfl)]

/-- An ignored power-save command is not that of a synchronous call. -/
theorem ignore {success wake : Bool} (sound : s.Sound) (pc : s.main = .ignore n wake)
    (moved : s.mainStep success c = some t) : t.Sound := by
  have live := sound.live.main moved
  have unanswered : s.reply = fun _ => none := reply_of_unanswered (by rw [pc]; rfl)
  have inHand : s.InHand n := .inr (.inl (by rw [pc]; rfl))
  have command := sound.ignoring n (by rw [pc]; rfl)
  simp only [Sys.mainStep, pc] at moved
  cases moved
  refine sound.silent live (.inl rfl) ?_ rfl (fun d sync m node => ?_) ?_
    fun n here => by cases here
  · funext d
    simp [story, Event.about]
  · refine CommandState.lbsCompleteCommand_of_ne fun same => ?_
    subst same
    obtain rfl := (sound.live.held.mine sync.1 node).1
    obtain ⟨phase, unwoken⟩ := (sound.live.waited m inHand).2 sync.1
    obtain ⟨x, follows⟩ := sound.follows _ sync
    have awaits := follows.agrees
    simp only [Agrees, phase, unwoken, Bool.false_eq_true, if_false] at awaits
    obtain ⟨q, carries⟩ := awaits.carries
    exact sync.2 (carries.command.symm.trans command)
  · rw [unanswered, reply_of_unanswered (by rfl)]

/-- The main thread decides about the head of `cmdpendingq`. -/
theorem head {success : Bool} (sound : s.Sound) (pc : s.main = .head n)
    (moved : s.mainStep success c = some t) : t.Sound := by
  have live := sound.live.main moved
  have unanswered : s.reply = fun _ => none := reply_of_unanswered (by rw [pc]; rfl)
  simp only [Sys.mainStep, pc] at moved
  rw [headStep] at moved
  split at moved
  · cases moved
    exact sound.pass live rfl rfl rfl (by rw [pc]; rfl) rfl rfl rfl
  · cases moved
    exact sound.pass live rfl rfl rfl (by rw [pc]; rfl) rfl rfl rfl
  · obtain ⟨idle, rfl⟩ := beginCall_eq_some moved
    refine sound.silent live (.inr ⟨c, psWakeupRequest, idle, rfl, rfl, rfl⟩) rfl rfl
      (fun _ _ _ _ => rfl) ?_ fun n here => by cases here
    rw [unanswered, reply_of_unanswered (by rfl)]
  · rename_i wake ignored
    cases moved
    refine sound.silent live (.inl rfl) rfl rfl (fun _ _ _ _ => rfl) ?_ fun m same => ?_
    · rw [unanswered, reply_of_unanswered (by rfl)]
    · obtain rfl : n = m := Option.some.inj same
      exact command_of_ignore ignored
  · cases moved
    exact sound.pass live rfl rfl rfl (by rw [pc]; rfl) rfl rfl rfl

theorem main {success : Bool} (sound : s.Sound) (moved : s.mainStep success c = some t) :
    t.Sound := by
  have live := sound.live.main moved
  by_cases quiet : s.main.quiet = true
  · have step := mainStep_quiet quiet moved
    obtain ⟨events, appended, neutral⟩ := step.trace
    have task := step.task
    simp only [MainPc.task, Prod.mk.injEq] at task
    refine sound.silent live step.clients ?_ step.memory
      (fun _ _ _ _ => by rw [step.priv.nodes]) ?_
      (by simp [MainPc.ignored_of_transit step.plain.transit])
    · funext d
      have none : events.filter (Event.about d) = [] :=
        List.filter_eq_nil_iff.mpr fun e member => by simp [Event.not_about (neutral e member)]
      rw [story_append s d _ appended, none, List.append_nil]
    · funext n
      rw [reply, task.1, task.2.2.2, step.priv.nodes,
        congrArg ResponseSlots.respBuf step.priv.slots]
      rfl
  cases pc : s.main
  case process idx => exact sound.process pc moved
  case dispatch idx result => exact sound.dispatch pc moved
  case complete idx result => exact sound.complete pc moved
  case timeout => exact sound.timeout pc moved
  case giveUpFree n => exact sound.giveUpFree pc moved
  case ignore n wake => exact sound.ignore pc moved
  case head n => exact sound.head pc moved
  case calling d next => exact absurd (congrArg MainPc.quiet pc) quiet
  all_goals
    simp only [Sys.mainStep, pc] at moved
    have unanswered : s.main.answer = none := by rw [pc]; rfl
  case response =>
    split at moved <;> cases moved
    · exact sound.pass live rfl rfl rfl unanswered rfl rfl rfl
    · exact sound.pass live rfl rfl rfl unanswered rfl rfl rfl
  case clear idx =>
    cases moved
    exact sound.pass live rfl rfl rfl unanswered rfl rfl rfl
  case giveUpDrop n =>
    cases moved
    exact sound.pass live rfl rfl rfl unanswered rfl rfl rfl
  case requeue n =>
    cases moved
    exact sound.pass live rfl rfl rfl unanswered rfl rfl rfl
  case execute =>
    split at moved
    · split at moved <;> cases moved
      · exact sound.pass live rfl rfl rfl unanswered rfl rfl rfl
      · exact sound.pass live rfl rfl rfl unanswered rfl rfl rfl
    · cases moved
      exact sound.pass live rfl rfl rfl unanswered rfl rfl rfl
  case submit n =>
    cases moved
    refine sound.silent live (.inl rfl) ?_ rfl (fun _ _ _ _ => rfl) ?_ fun n here => by cases here
    · funext d
      simp [story, Event.about]
    · rw [reply_of_unanswered unanswered, reply_of_unanswered (by rfl)]
  case send n =>
    cases moved
    refine sound.silent live (.inl rfl) ?_ rfl (fun _ _ _ _ => ?_) ?_ fun n here => by cases here
    · funext d
      simp [story, Event.about]
    · simp
    · rw [reply_of_unanswered unanswered, reply_of_unanswered (by rfl)]
  all_goals exact absurd (congrArg MainPc.quiet pc) quiet

theorem client_own (sound : s.Sound) (safe : s.ResultsSafe (.client c)) (sync : s.Synchronous c)
    (stepped : s.clientStep c = some t) : ∃ y, t.Follows c y := by
  have fits := sound.live.held.fits c
  obtain ⟨x, follows⟩ := sound.follows c sync
  have agrees := follows.agrees
  obtain ⟨patient, woken⟩ := safe
  rw [Client.Fits] at fits
  rw [Agrees] at agrees
  cases phase : (s.client c).phase <;>
    simp only [Sys.clientStep, phase, reduceCtorEq] at stepped fits agrees
  case start =>
    subst agrees
    split at stepped <;> cases stepped
    · exact ⟨_, follows.go (setPhase_client_self _ c _) rfl rfl (by simp [Agrees])⟩
    · exact ⟨_, follows.go (setPhase_client_self _ c _) rfl rfl (by simp [Agrees])⟩
  case alloc =>
    subst agrees
    split at stepped <;> cases stepped
    · exact ⟨_, follows.go (setPhase_client_self _ c _) rfl rfl (by simp [Agrees])⟩
    · exact ⟨_, follows.go (setPhase_client_self _ c _) rfl rfl (by simp [Agrees])⟩
  case fill n =>
    subst agrees
    cases stepped
    exact ⟨_, follows.go (setPhase_client_self _ c _) rfl rfl
      (by simp [Agrees, CommandState.initNode])⟩
  case stamp n =>
    obtain ⟨rfl, callback, arg⟩ := agrees
    have ready : (s.client c).req.assemble =
        .ready (s.client c).req.cmdNo ((s.client c).req.content.getD (0, [])).1
          ((s.client c).req.content.getD (0, [])).2 := by
      have isCmd := sync.1
      rw [Request.assemble]
      cases kind : (s.client c).req.kind <;> simp_all [Request.isCmd, Request.copied]
    rw [ready] at stepped
    cases stepped
    refine ⟨.issued s.priv.seqnum, ?_, trivial, ?_, ?_⟩
    · rw [story_append s c [.issued c s.priv.seqnum] rfl, follows.story]
      simp [Event.about, Exchange.story]
    · simpa [Exchange.buffer] using follows.buffer
    · simp only [Agrees, log_client, setPhase_client_self]
      refine ⟨_, rfl, ?_⟩
      constructor <;> simp [CommandState.stampNode, callback, arg]
  case queue n =>
    obtain ⟨q, rfl, carries⟩ := agrees
    have unwoken : (s.priv.cmdArray n).cmdwaitqwoken = false := fits.2.1
    split at stepped <;> cases stepped
    · exact ⟨_, follows.go (setPhase_client_self _ c _) rfl rfl (by simp [Agrees, unwoken])⟩
    · refine ⟨_, follows.go (setPhase_client_self _ c _) rfl rfl ?_⟩
      simp only [Agrees, setPhase_client_self]
      refine ⟨q, rfl, ?_⟩
      obtain ⟨callback, arg, seqnum, command⟩ := carries
      constructor <;> simp [CommandState.clearResult, callback, arg, seqnum, command]
  case insert n tail =>
    obtain ⟨q, rfl, carries⟩ := agrees
    cases stepped
    have prepared : (s.client c).phase.preparing = some n := by rw [phase]; rfl
    have unwoken : (s.priv.cmdArray n).cmdwaitqwoken = false := fits.2.1
    have unanswered : s.reply n = none := by
      by_cases elsewhere : ∀ m, s.main ≠ .giveUpDrop m
      · have unheld : s.curView ≠ some n :=
          (sound.live.held.prepared_elsewhere prepared).2.2.1
        rw [curView_of_ne elsewhere] at unheld
        simp [reply, unheld]
      · obtain ⟨m, pc⟩ := not_forall_not.mp elsewhere
        rw [reply_of_unanswered (by rw [pc]; rfl)]
    refine ⟨_, follows.go (setPhase_client_self _ c _) rfl rfl ?_⟩
    simp only [Agrees, setPhase_client_self, withCmd_client, Request.waits_of_isCmd sync.1,
      if_true, setPhase_priv, withCmd_cmd, CommandState.insertPending_cmdArray]
    rw [if_neg (by simp [unwoken])]
    exact ⟨by simpa using carries, unanswered⟩
  case unqueued n =>
    have unwoken := woken sync.1 n phase
    rw [agrees.2] at unwoken
    cases unwoken
  case wait n =>
    have done := (patient sync.1).1 n phase
    split at stepped <;> cases stepped
    rw [if_pos done] at agrees
    exact ⟨_, follows.go (setPhase_client_self _ c _) rfl rfl (by simpa [Agrees] using agrees)⟩
  case finish n =>
    rw [if_pos sync.1] at stepped
    cases stepped
    exact ⟨_, follows.go (setPhase_client_self _ c _) rfl rfl (by simp [Agrees, agrees])⟩

theorem client (sound : s.Sound) (safe : s.ResultsSafe (.client c))
    (stepped : s.clientStep c = some t) : t.Sound := by
  have frame := clientStep_frame stepped
  obtain ⟨phase, started, clients⟩ := frame.client
  have others : ∀ d, d ≠ c → t.client d = s.client d := fun d other => by
    rw [clients, setPhase_client_of_ne other]
  have told : ∀ d, d ≠ c → t.story d = s.story d := by
    intro d other
    rcases frame.trace with same | fetched | issued
    · rw [Sys.story, same, Sys.story]
    · rw [story_append s d _ fetched]
      simp [Event.about]
    · rw [story_append s d _ issued]
      simp [Event.about, Ne.symm other]
  have reply : t.reply = s.reply := by
    funext n
    rw [Sys.reply, frame.curCmd, frame.main, frame.priv, Sys.reply]
  refine
    { live := sound.live.client safe.1 stepped
      untold := fun d idle => ?_
      ignoring := fun n ignored => ?_
      follows := fun d sync => ?_ }
  · by_cases mine : d = c
    · rw [mine, clients, setPhase_client_self] at idle
      exact absurd idle started
    · rw [others d mine] at idle
      rw [told d mine]
      exact sound.untold d idle
  · rw [frame.main] at ignored
    have inHand : s.InHand n := by
      refine .inr (.inl ?_)
      cases pc : s.main <;> simp_all [MainPc.ignored, MainPc.transit]
    rw [frame.array n (sound.live.held.untouched inHand c)]
    exact sound.ignoring n ignored
  · by_cases mine : d = c
    · subst mine
      refine sound.client_own safe ?_ stepped
      rw [Synchronous, clients, setPhase_client_self] at sync
      exact sync
    · rw [Synchronous, others d mine] at sync
      obtain ⟨x, follows⟩ := sound.follows d sync
      refine ⟨x, follows.keep (by rw [others d mine]) (by rw [others d mine]) (told d mine)
        (by rw [frame.memory])
        (fun n node => frame.array n ?_) fun n _ => by rw [reply]⟩
      exact sound.live.held.unshared sync.1 node (Ne.symm mine)

/-- The card stores a response in a slot that the main thread is not working on. -/
theorem deliver (sound : s.Sound) (occupied : s.Occupied) (data : List UInt8) :
    (s.deliverStep data).Sound := by
  have clients : ∀ {u : Sys}, u.client = s.client → ∀ d, (s.client d).phase ≠ .idle →
      (u.client d).phase = (s.client d).phase ∧ (u.client d).req = (s.client d).req :=
    fun client d _ => by rw [client]; exact ⟨rfl, rfl⟩
  rw [deliverStep]
  split
  · exact sound
  dsimp only
  split
  · exact sound.aside (sound.live.bystander (sound.live.held.bystander rfl rfl rfl) rfl rfl
      (clients rfl)) rfl rfl rfl rfl rfl rfl
  · rename_i full
    refine sound.aside (sound.live.bystander (sound.live.held.bystander rfl rfl rfl) rfl rfl
      (clients rfl)) rfl rfl ?_ rfl rfl ?_
    · funext d
      rw [story_append s d [.delivered data] rfl]
      simp [Event.about]
    · have kept : s.main.unhandled.map (Function.update s.priv.respBuf
          (otherSlot s.priv.respIdx) (overwrite data (s.priv.respBuf
            (otherSlot s.priv.respIdx)))) = s.main.unhandled.map s.priv.respBuf := by
        cases unhandled : s.main.unhandled with
        | none => rfl
        | some idx =>
            have working : s.main.slot = some idx := by
              cases pc : s.main <;> simp_all [MainPc.unhandled, MainPc.slot]
            have other : idx ≠ otherSlot s.priv.respIdx := fun same => by
              apply occupied idx working
              rw [same]
              exact not_not.mp full
            simp [Function.update_of_ne other]
      exact reply_congr rfl rfl kept

theorem step {action : Action} (sound : s.Sound) (occupied : s.Occupied)
    (safe : s.ResultsSafe action) (stepped : s.step action = some t) : t.Sound := by
  have live := sound.live.step safe.live stepped
  unfold Sys.step at stepped
  split at stepped
  · cases stepped
  cases action with
  | call c req =>
      dsimp only at stepped
      split at stepped <;> cases stepped
      rename_i idle
      refine
        { live := live
          untold := fun d idle => ?_
          ignoring := sound.ignoring
          follows := fun d sync => ?_ }
      · dsimp only at idle
        split at idle
        · cases idle
        · exact sound.untold d idle
      · by_cases mine : d = c
        · subst mine
          refine ⟨.fresh, sound.untold d idle, trivial, fun bytes buffer => ?_, ?_⟩
          · have passed : req.buffer = some bytes := by simpa using buffer
            simp [passed, Exchange.buffer]
          · simp [Agrees]
        · simp only [Synchronous, if_neg mine] at sync
          obtain ⟨x, follows⟩ := sound.follows d sync
          refine ⟨x, follows.keep (by simp [mine]) (by simp [mine]) rfl ?_
            (fun _ _ => rfl) fun _ _ => rfl⟩
          cases req.buffer with
          | none => rfl
          | some bytes => exact Function.update_of_ne mine _ _
  | client c => exact sound.client safe stepped
  | signal c =>
      cases stepped
      refine
        { live := live
          untold := fun d idle => sound.untold d ?_
          ignoring := sound.ignoring
          follows := fun d sync => ?_ }
      · dsimp only at idle
        split at idle
        · rename_i mine
          exact mine ▸ idle
        · exact idle
      · have same : ∀ {u : Client}, (if d = c then { s.client c with signalled := true } else
            s.client d) = u → u.phase = (s.client d).phase ∧ u.req = (s.client d).req := by
          rintro u rfl
          split
          · rename_i mine
            exact ⟨by rw [mine], by rw [mine]⟩
          · exact ⟨rfl, rfl⟩
        obtain ⟨phase, req⟩ := same rfl
        have before : s.Synchronous d := by
          rw [Synchronous] at sync ⊢
          rwa [req] at sync
        obtain ⟨x, follows⟩ := sound.follows d before
        exact ⟨x, follows.keep phase req rfl rfl (fun _ _ => rfl) fun _ _ => rfl⟩
  | main success c => exact sound.main stepped
  | deliver data =>
      cases stepped
      exact sound.deliver occupied data
  | stopCard => exact safe.elim
  | timerExpire | commandTimerFn =>
      dsimp only at stepped
      split at stepped <;> cases stepped
      exact sound.aside live rfl rfl rfl rfl rfl rfl
  | queueEvent _ | hostToCardDone | remove | kthreadStop | setFwReady | configure _
    | transmit _ _ =>
      cases stepped
      exact sound.aside live rfl rfl rfl rfl rfl rfl

theorem init : Sys.init.Sound where
  live := .init
  untold _ _ := rfl
  ignoring _ := nofun
  follows _ sync := absurd sync.1
    (by simp [Sys.init, Client.unused, psWakeupRequest, Request.isCmd])

/-- In every safe run the invariant holds. -/
theorem of_reachable (reached : driver.ReachableUnder ResultsSafe s) : s.Sound :=
  reached.invariant Sound (fun _ start => start ▸ init)
    fun _ _ _ before sound safe stepped =>
      sound.step (Occupied.of_reachable before) safe stepped

end Sound

end Sys

/-- In a safe run, in which no other party works on a queue in the middle of an unlocked list
operation of the main thread, the exchange of every `__lbs_cmd` call is told in order and once in
the trace: the command is issued, a response with its sequence number is accepted or the retries are
spent, and the callback runs at most once, on that response. A call that returned gives the result
of its exchange, unless it got no node. The buffer of the caller is written by the callback alone,
and behind the shorter of the caller's structure and the response it is not written at all. -/
theorem results_isolated {l : Linking}
    (reached : linking.ReachableUnder (Linking.Apart Sys.ResultsSafe) l) {c : CallId}
    (sync : l.sys.Synchronous c) :
    ∃ x : Exchange, l.sys.story c = x.story c (l.sys.client c).req.callback ∧ x.Valid ∧
      (∀ ret, (l.sys.client c).phase = .returned ret →
        (x = .fresh ∧ (ret = (l.sys.client c).req.removedRet ∨
          ret = (l.sys.client c).req.exhaustedRet)) ∨ x.result = some ret) ∧
      ∀ bytes, (l.sys.client c).req.buffer = some bytes →
        l.sys.memory c =
          x.buffer (l.sys.client c).req ((l.sys.client c).req.storedBuffer bytes) ∧
        (sDsGen ≤ bytes.length → ∀ i,
          (∀ resp, x.response = some resp → min bytes.length (respSize resp).toNat ≤ i) →
          byteAt (l.sys.memory c) i =
            byteAt ((l.sys.client c).req.storedBuffer bytes) i) := by
  have before := (Linking.driver_reachable reached).2
  obtain ⟨x, follows⟩ := (Sys.Sound.of_reachable before).follows c sync
  refine ⟨x, follows.story, follows.valid, fun ret returned => ?_, fun bytes buffer => ?_⟩
  · have agrees := follows.agrees
    simpa only [Sys.Agrees, returned] using agrees
  · have content := follows.buffer bytes buffer
    refine ⟨content, fun header i behind => ?_⟩
    rw [content]
    exact x.byteAt_buffer header i behind

instance (s : Sys) : (action : Action) → Decidable (s.ResultsSafe action)
  | .client c =>
      inferInstanceAs (Decidable (s.Patient s.mainView c ∧
        ((s.client c).req.isCmd = true → ∀ n, (s.client c).phase = .unqueued n →
          (s.priv.cmdArray n).cmdwaitqwoken = true)))
  | .stopCard => .isFalse id
  | .call _ _ | .main _ _ | .signal _ | .deliver _ | .queueEvent _ | .hostToCardDone
  | .timerExpire | .commandTimerFn | .remove | .kthreadStop | .setFwReady | .configure _
  | .transmit _ _ => .isTrue trivial

/-- The reply to the command with the given sequence number. -/
def hwSpecReply (seqnum result : UInt8) : List UInt8 :=
  [0x03, 0x80, 10, 0, seqnum, 0, result, 0, 7, 7]

/-- The card answers and the call returns. -/
def hwSpecAnswered : List Action :=
  hwSpecSent ++ [.hostToCardDone, .deliver (hwSpecReply 1 0)] ++
    List.replicate 6 (.main true 1000) ++ List.replicate 2 (.client 0)

/-- The same, with the end of the list operation of the main thread. -/
def hwSpecAnsweredLinked : List LinkingAction :=
  (hwSpecAnswered.take 19).map .act ++ .linked :: (hwSpecAnswered.drop 19).map .act

/-- A call that is answered returns the result of the response and has its first ten bytes. -/
theorem results_isolated_answered : ∃ l,
    linking.runUnder (Linking.Apart Sys.ResultsSafe) Linking.init hwSpecAnsweredLinked = some l ∧
      ((l.sys.client 0).phase = .returned 0 ∧ l.sys.Synchronous 0) ∧
      ∃ x : Exchange, l.sys.story 0 = x.story 0 (l.sys.client 0).req.callback ∧ x.Valid ∧
        (∀ ret, (l.sys.client 0).phase = .returned ret →
          (x = .fresh ∧ (ret = (l.sys.client 0).req.removedRet ∨
            ret = (l.sys.client 0).req.exhaustedRet)) ∨ x.result = some ret) ∧
        ∀ bytes, (l.sys.client 0).req.buffer = some bytes →
          l.sys.memory 0 =
            x.buffer (l.sys.client 0).req ((l.sys.client 0).req.storedBuffer bytes) ∧
          (sDsGen ≤ bytes.length → ∀ i,
            (∀ resp, x.response = some resp → min bytes.length (respSize resp).toNat ≤ i) →
            byteAt (l.sys.memory 0) i =
              byteAt ((l.sys.client 0).req.storedBuffer bytes) i) := by
  obtain ⟨l, executed, returned, sync⟩ := Machine.exists_of_map
    (fun l : Linking => (l.sys.client 0).phase = .returned 0 ∧ l.sys.Synchronous 0)
    (show (linking.runUnder (Linking.Apart Sys.ResultsSafe) Linking.init
      hwSpecAnsweredLinked).map _ = some true by decide +kernel)
  exact ⟨l, executed, ⟨returned, sync⟩, results_isolated (.run (.initial rfl) executed) sync⟩

/-- The result that an accepted response carries. -/
def Event.acceptedResult : Event → Option UInt16
  | .accepted _ resp => some (respResult resp)
  | _ => none

/-- A wait may end without a completion. -/
def Action.interrupts : Action → Bool
  | .signal _ | .stopCard => true
  | _ => false

/-- A command times out in flight. -/
def timedOutInFlight : List Action :=
  [.hostToCardDone, .timerExpire, .commandTimerFn]

/-- Calls 1 to 9 take the other nodes while the main thread gives up the command of call 0. Call 0
frees its node between the wake-up and the main thread's look at the callback, and call 10 takes
the node. The main thread frees it a second time, and call 11 takes it as well. Both write their
commands, call 10 last, and queues it. The card answers with result 5. Before call 10 looks at the
result, call 11 goes into `lbs_queue_cmd`. The node is never in two queues. -/
def lostResultRun : List Action :=
  hwSpecSent ++
    (List.replicate 3 (timedOutInFlight ++ List.replicate 16 (.main true 1000))).flatten ++
    timedOutInFlight ++ List.replicate 4 (.main true 1000) ++
    (List.range' 1 9).flatMap (fun c => [.call c hwSpecRequest, .client c, .client c]) ++
    List.replicate 2 (.client 0) ++
    [.call 10 hwSpecRequest, .client 10, .client 10] ++ List.replicate 2 (.main true 1000) ++
    [.call 11 hwSpecRequest] ++ List.replicate 4 (.client 11) ++ List.replicate 4 (.client 10) ++
    List.replicate 11 (.main true 1000) ++
    [.hostToCardDone, .deliver (hwSpecReply 3 5)] ++ List.replicate 4 (.main true 1000) ++
    [.client 10, .client 11, .client 10]

/-- Call 10 returns 0 because call 11, which shares its node, has cleared the result. No wait was
interrupted, and every accepted response has another result. -/
theorem shared_node_loses_result : ∃ s, driver.run Sys.init lostResultRun = some s ∧
    driver.Reachable s ∧ s.Synchronous 10 ∧ (s.client 10).phase = .returned 0 ∧
    .issued 10 3 ∈ s.trace ∧ (∀ action ∈ lostResultRun, action.interrupts = false) ∧
    ∀ d resp, .accepted d resp ∈ s.trace → respResult resp ≠ 0 := by
  obtain ⟨s, executed, sync, returned, issued, others⟩ := Machine.exists_of_map
    (fun s : Sys => s.Synchronous 10 ∧ (s.client 10).phase = .returned 0 ∧
      .issued 10 3 ∈ s.trace ∧ ∀ e ∈ s.trace, e.acceptedResult ≠ some 0)
    (show (driver.run Sys.init lostResultRun).map _ = some true by decide +kernel)
  exact ⟨s, executed, Machine.reachable_of_run rfl executed, sync, returned, issued,
    by decide +kernel, fun d resp member zero => others _ member (congrArg some zero)⟩

end Libertas
