import Libertas.Scan.Coverage
import Libertas.Transition.Turn

/-!
# The chunk loop

`lbs_scan_networks` takes `scan_channel` off the number of channels on a list
that it makes anew in every run. The list of a connected station can be shorter
than the one for the first scan, so `scan_channel` may lie behind its end. In
runs where it does not, every command gets channels of the list, and the loop is
left.
-/

namespace Libertas

namespace ScanRun

/-- A command for the next chunk gets between one and four channels of the list. -/
structure Handed (run : ScanRun) : Prop where
  some_channel : 1 ≤ run.toScan
  at_most : run.toScan ≤ mrvdrvChannelsPerScanCmd
  inside : (run.currChans : Int) + run.toScan ≤ run.chanList.length

/-- The rest of the list is what is left to scan. -/
structure Inside (run : ScanRun) : Prop where
  nonneg : 0 ≤ run.chanCount
  counted : (run.currChans : Int) + run.chanCount = run.chanList.length

theorem Inside.handed {run : ScanRun} (inside : run.Inside) (more : run.chanCount ≠ 0) :
    run.Handed := by
  obtain ⟨nonneg, counted⟩ := inside
  constructor <;> unfold toScan mrvdrvChannelsPerScanCmd <;> omega

theorem Inside.advance {run : ScanRun} (inside : run.Inside) : run.advance.Inside := by
  obtain ⟨nonneg, counted⟩ := inside
  have taken : 0 ≤ run.toScan ∧ run.toScan ≤ run.chanCount := by
    rw [toScan, mrvdrvChannelsPerScanCmd]
    omega
  constructor
  · show 0 ≤ run.chanCount - run.toScan
    omega
  · show ((run.currChans + run.toScan.toNat : Nat) : Int) + (run.chanCount - run.toScan) =
      run.chanList.length
    omega

/-- A command brings the scan nearer to its end. -/
theorem Inside.advance_lt {run : ScanRun} (inside : run.Inside) (more : run.chanCount ≠ 0) :
    run.advance.chanCount.toNat < run.chanCount.toNat := by
  have some_channel := (inside.handed more).some_channel
  have nonneg := inside.nonneg
  show (run.chanCount - run.toScan).toNat < run.chanCount.toNat
  omega

end ScanRun

namespace ScanPc

/-- A scan in the loop has its place inside the list. -/
def Placed : ScanPc → Prop
  | .looping run => run.Inside
  | .commanded run _ => run.Inside ∧ run.chanCount ≠ 0
  | .scanned run _ => run.Inside
  | _ => True

/-- The number of steps in the loop. -/
def loopRank : ScanPc → Nat
  | .looping run => 3 * run.chanCount.toNat + 1
  | .commanded run _ => 3 * run.chanCount.toNat
  | .scanned run _ => 3 * run.chanCount.toNat + 2
  | _ => 0

end ScanPc

/-- The step is one of `lbs_scan_networks`. -/
def ScannerAction.ofWorker : ScannerAction → Bool
  | .worker _ => true
  | _ => false

/-- When it is read, `scan_channel` does not lie behind the end of the new list. -/
def ScanSys.CursorFits (s : ScanSys) : ScanPc → Prop
  | .listed _ chanList => s.scanChannel ≤ chanList.length
  | _ => True

/-- The step does not read a `scan_channel` behind the end of the new list. -/
def CursorInside (s : ScanSys) : ScannerAction → Prop
  | .worker _ => s.CursorFits s.worker
  | _ => True

instance (s : ScanSys) : (pc : ScanPc) → Decidable (s.CursorFits pc)
  | .listed _ chanList => inferInstanceAs (Decidable (s.scanChannel ≤ chanList.length))
  | .idle | .asked | .entered _ | .looping _ | .commanded _ _ | .scanned _ _ | .marked
  | .ending _ _ => .isTrue trivial

instance (s : ScanSys) : (action : ScannerAction) → Decidable (CursorInside s action)
  | .worker _ => inferInstanceAs (Decidable (s.CursorFits s.worker))
  | .regulate _ | .remove | .timer | .set _ _ | .setScan | .work | .full _ => .isTrue trivial

namespace ScanSys

variable {s t : ScanSys} {action : ScannerAction} {ok : Bool}

/-- Nobody else moves the worker out of the loop, nor its place in it. -/
theorem worker_eq_of_other (other : action.ofWorker = false) (stepped : s.step action = some t) :
    t.worker = s.worker ∨ s.worker = .idle ∧ (t.worker = .asked ∨ t.worker = .entered false) := by
  cases action with
  | regulate regions =>
      cases stepped
      exact .inl rfl
  | remove =>
      cases stepped
      exact .inl rfl
  | timer =>
      simp only [step] at stepped
      split at stepped <;> cases stepped
      exact .inl rfl
  | set running req =>
      simp only [step] at stepped
      split at stepped
      · cases running <;> cases stepped <;> exact .inl rfl
      · cases stepped
  | setScan =>
      simp only [step, setScanStep] at stepped
      split at stepped <;> cases stepped <;> exact .inl rfl
  | work =>
      simp only [step] at stepped
      split at stepped <;> cases stepped
      rename_i idle _
      exact .inr ⟨idle, .inr rfl⟩
  | full scan =>
      simp only [step] at stepped
      split at stepped <;> cases stepped
      rename_i idle
      cases scan with
      | best => exact .inr ⟨idle, .inl rfl⟩
      | specific ssid =>
          cases ssid with
          | nil => exact .inl rfl
          | cons byte rest => exact .inr ⟨idle, .inl rfl⟩
  | worker ok => cases other

/-- The list is new, and the scan starts behind the channels that `scan_channel` counts. -/
theorem inside_start {fullScan : Bool} {chanList : List ChanScanParamSet}
    (fits : s.scanChannel ≤ chanList.length) :
    ScanRun.Inside { fullScan := fullScan, chanList := chanList, currChans := s.scanChannel.toNat
                     chanCount := chanList.length - s.scanChannel.toNat } := by
  constructor
  · show 0 ≤ (chanList.length : Int) - s.scanChannel.toNat
    omega
  · show (s.scanChannel.toNat : Int) + (chanList.length - s.scanChannel.toNat) = chanList.length
    omega

/-- A step of the worker keeps its place inside the list, and takes it nearer to the end of the
loop. -/
theorem placed_worker (placed : s.worker.Placed) (fits : s.CursorFits s.worker)
    (stepped : s.lbsScanNetworks ok = some t) :
    t.worker.Placed ∧ (s.worker.reading = true →
      t.worker.reading = false ∨ t.worker.loopRank < s.worker.loopRank) := by
  rw [lbsScanNetworks] at stepped
  cases pc : s.worker with
  | idle => simp [pc] at stepped
  | asked =>
      simp only [pc, Option.some.injEq] at stepped
      subst stepped
      exact ⟨trivial, nofun⟩
  | entered fullScan =>
      simp only [pc] at stepped
      split at stepped <;> cases stepped <;> exact ⟨trivial, nofun⟩
  | listed fullScan chanList =>
      simp only [pc, Option.some.injEq] at stepped
      subst stepped
      rw [pc] at fits
      exact ⟨inside_start fits, nofun⟩
  | looping run =>
      rw [pc] at placed
      simp only [pc] at stepped
      split at stepped
      · cases stepped
        exact ⟨trivial, fun _ => .inl rfl⟩
      · rename_i more
        split at stepped <;> cases stepped
        exact ⟨⟨placed, more⟩, fun _ => .inr (Nat.lt_succ_self _)⟩
  | commanded run ssid =>
      rw [pc] at placed
      simp only [pc] at stepped
      split at stepped
      · cases stepped
        have nearer := placed.1.advance_lt placed.2
        refine ⟨placed.1.advance, fun _ => .inr ?_⟩
        show 3 * run.advance.chanCount.toNat + 2 < 3 * run.chanCount.toNat
        omega
      · cases stepped
        exact ⟨trivial, fun _ => .inl rfl⟩
  | scanned run toScan =>
      rw [pc] at placed
      simp only [pc] at stepped
      split at stepped
      · cases stepped
        exact ⟨trivial, fun _ => .inl rfl⟩
      · cases stepped
        exact ⟨placed, fun _ => .inr (Nat.lt_succ_self _)⟩
  | marked =>
      simp only [pc, Option.some.injEq] at stepped
      subst stepped
      exact ⟨trivial, nofun⟩
  | ending fullScan channels =>
      simp only [pc, Option.some.injEq] at stepped
      subst stepped
      exact ⟨trivial, nofun⟩

/-- In the loop, the worker can always take a step. -/
theorem worker_steps (placed : s.worker.Placed) (inside : s.worker.reading = true) (ok : Bool) :
    ∃ t, s.step (.worker ok) = some t := by
  show ∃ t, s.lbsScanNetworks ok = some t
  rw [lbsScanNetworks]
  cases pc : s.worker with
  | looping run =>
      rw [pc] at placed
      have nonneg : ¬run.chanCount < 0 := Int.not_lt.mpr placed.nonneg
      simp only [if_neg nonneg]
      split <;> exact ⟨_, rfl⟩
  | commanded run ssid => cases ok <;> exact ⟨_, rfl⟩
  | scanned run toScan =>
      simp only
      split <;> exact ⟨_, rfl⟩
  | idle => simp [pc, ScanPc.reading] at inside
  | asked => simp [pc, ScanPc.reading] at inside
  | entered fullScan => simp [pc, ScanPc.reading] at inside
  | listed fullScan chanList => simp [pc, ScanPc.reading] at inside
  | marked => simp [pc, ScanPc.reading] at inside
  | ending fullScan channels => simp [pc, ScanPc.reading] at inside

theorem placed_step (placed : s.worker.Placed) (fits : CursorInside s action)
    (stepped : s.step action = some t) : t.worker.Placed := by
  cases mine : action.ofWorker with
  | true =>
      cases action <;> cases mine
      exact (placed_worker placed fits stepped).1
  | false =>
      rcases worker_eq_of_other mine stepped with same | ⟨-, started | started⟩
      · rw [same]
        exact placed
      · rw [started]
        trivial
      · rw [started]
        trivial

/-- The loop is left before the worker has taken more steps than its rank, whatever the others do
between them. -/
theorem leaves_loop (placed : s.worker.Placed) {actions : List ScannerAction}
    (inside : s.worker.reading = true) (executed : scanner.run s actions = some t)
    (many : s.worker.loopRank < actions.countP ScannerAction.ofWorker) :
    ∃ first later u, actions = first ++ later ∧ scanner.run s first = some u ∧
      u.worker.reading = false := by
  refine Machine.outside_of_variant (fun s => s.worker.Placed ∧ s.worker.reading = true)
    (fun s => s.worker.reading = false) (fun s => s.worker.loopRank)
    ?_ ⟨placed, inside⟩ executed many
  rintro s action t ⟨placed, inside⟩ stepped
  cases mine : action.ofWorker with
  | true =>
      cases action <;> cases mine
      have fits : s.CursorFits s.worker := by
        cases pc : s.worker <;> first | trivial | simp [pc, ScanPc.reading] at inside
      obtain ⟨placed', nearer⟩ := placed_worker placed fits stepped
      cases within : t.worker.reading with
      | false => exact .inl rfl
      | true =>
          have lower : t.worker.loopRank < s.worker.loopRank := by
            simpa [within] using nearer inside
          exact .inr ⟨⟨placed', rfl⟩, lower⟩
  | false =>
      have same : t.worker = s.worker := by
        rcases worker_eq_of_other mine stepped with same | ⟨idle, -⟩
        · exact same
        · simp [idle, ScanPc.reading] at inside
      rw [same]
      exact .inr ⟨⟨placed, inside⟩, Nat.le_refl _⟩

end ScanSys

/-- The loop of `lbs_scan_networks`: the worker can take its next step, and after so many of its
steps it has left the loop. -/
structure ChunkLoopEnds (s : ScanSys) : Prop where
  proceeds : ∀ ok, ∃ t, s.step (.worker ok) = some t
  ends : ∃ bound, ∀ actions t, scanner.run s actions = some t →
    bound < actions.countP ScannerAction.ofWorker →
    ∃ first later u, actions = first ++ later ∧ scanner.run s first = some u ∧
      u.worker.reading = false

/-- In a run that never reads a `scan_channel` behind the end of the list, every command gets
channels of the list, and the loop is left. -/
theorem chunk_loop_safe {s : ScanSys} (reached : scanner.ReachableUnder CursorInside s) :
    (∀ run, s.worker = .looping run → run.chanCount ≠ 0 → run.Handed) ∧
    (∀ run ssid, s.worker = .commanded run ssid → run.Handed) ∧
    (s.worker.reading = true → ChunkLoopEnds s) := by
  have placed : s.worker.Placed := by
    refine reached.invariant (fun s => s.worker.Placed) ?_ fun _ _ _ _ placed fits stepped =>
      ScanSys.placed_step placed fits stepped
    rintro _ ⟨regions, rfl⟩
    trivial
  refine ⟨?_, ?_, ?_⟩
  · intro run pc more
    rw [pc] at placed
    exact placed.handed more
  · intro run ssid pc
    rw [pc] at placed
    exact placed.1.handed placed.2
  · intro inside
    exact ⟨ScanSys.worker_steps placed inside, s.worker.loopRank, fun _ _ executed many =>
      ScanSys.leaves_loop placed inside executed many⟩

/-- The channels of the first scan, and those of the region of a connected station. -/
def elevenOfFourteen (connected : Bool) : ScanRegions :=
  { enable11d := true, connected := connected
    regionChannel := [{ valid := true, band := 0, cfp := fourteen.take 11 }]
    universalChannel := [{ valid := true, band := 0, cfp := fourteen }], parsedRegionChan := [] }
where
  fourteen : List ChanFreqPower :=
    [⟨1, 2412⟩, ⟨2, 2417⟩, ⟨3, 2422⟩, ⟨4, 2427⟩, ⟨5, 2432⟩, ⟨6, 2437⟩, ⟨7, 2442⟩, ⟨8, 2447⟩,
      ⟨9, 2452⟩, ⟨10, 2457⟩, ⟨11, 2462⟩, ⟨12, 2467⟩, ⟨13, 2472⟩, ⟨14, 2484⟩]

/-- At the head of the loop, the length of the list, the place in it and what is left. -/
def ScanPc.atHead : ScanPc → Option (Nat × Nat × Int)
  | .looping run => some (run.chanList.length, run.currChans, run.chanCount)
  | _ => none

theorem ScanPc.eq_of_atHead {pc : ScanPc} {len curr : Nat} {count : Int}
    (place : pc.atHead = some (len, curr, count)) : ∃ run, pc = .looping run ∧
      run.chanList.length = len ∧ run.currChans = curr ∧ run.chanCount = count := by
  cases pc with
  | looping run =>
      cases place
      exact ⟨run, rfl, rfl, rfl, rfl⟩
  | _ => cases place

/-- A station that is connected between two chunks goes on with the shorter list. -/
theorem chunk_loop_safe_shorter_list : ∃ s, scanner.ReachableUnder CursorInside s ∧
    (∃ run, s.worker = .looping run ∧ run.chanList.length = 11 ∧ run.currChans = 8) ∧
    (∀ run, s.worker = .looping run → run.chanCount ≠ 0 → run.Handed) ∧
    (∀ run ssid, s.worker = .commanded run ssid → run.Handed) ∧
    (s.worker.reading = true → ChunkLoopEnds s) := by
  obtain ⟨s, executed, place⟩ := Machine.exists_of_map
    (fun s : ScanSys => s.worker.atHead = some (11, 8, 3))
    (show (scanner.runUnder CursorInside (.init (elevenOfFourteen false))
      (scanRequest [] ++ workerSteps 6 ++ workerSteps 6 ++ [.regulate (elevenOfFourteen true)] ++
        workerSteps 2)).map _ = some true by decide +kernel)
  have start : scanner.initial (.init (elevenOfFourteen false)) := ⟨_, rfl⟩
  have reached := Machine.ReachableUnder.run (.initial start) executed
  obtain ⟨run, pc, length, curr, -⟩ := ScanPc.eq_of_atHead place
  exact ⟨s, reached, ⟨run, pc, length, curr⟩, chunk_loop_safe reached⟩

/-- One chunk later the rest of the shorter list has a negative length, and so has the next
command. -/
theorem chunk_behind_list : ∃ s run, scanner.Reachable s ∧ s.worker = .looping run ∧
    run.chanCount ≠ 0 ∧ ¬run.Handed ∧ s.step (.worker true) = none := by
  obtain ⟨s, executed, place⟩ := Machine.exists_of_map
    (fun s : ScanSys => s.worker.atHead = some (11, 12, -1))
    (show (scanner.run (.init (elevenOfFourteen false))
      (scanRequest [] ++ workerSteps 6 ++ workerSteps 6 ++ workerSteps 6 ++
        [.regulate (elevenOfFourteen true)] ++ workerSteps 2)).map _ = some true by decide +kernel)
  have start : scanner.initial (.init (elevenOfFourteen false)) := ⟨_, rfl⟩
  obtain ⟨run, pc, -, -, count⟩ := ScanPc.eq_of_atHead place
  refine ⟨s, run, Machine.reachable_of_run start executed, pc, ?_, ?_, ?_⟩
  · rw [count]
    decide
  · intro handed
    have some_channel := handed.some_channel
    rw [ScanRun.toScan, mrvdrvChannelsPerScanCmd] at some_channel
    omega
  · show s.lbsScanNetworks true = none
    simp [ScanSys.lbsScanNetworks, pc, count]

end Libertas
