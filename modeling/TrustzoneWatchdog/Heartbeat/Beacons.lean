/-
**What Linux reads about the monitor** (`pmufw/swdt_monitor.c`, read by `layer3_test`).

Every poll writes its number to `0xFF13003C` and its reading to `0xFF130040`. `0xFF130044` is
written on the branch that counts a miss, and `MissedCount` is cleared on two branches that do not
write it: when the heartbeat advances, and in `TriggerReset`.

* `dbgMiss_eq_iff`: once `0xFF130044` has been written, it is right exactly after the polls that
  miss.
* `missesAt_succ_iff`: which polls miss, by their readings, as long as nothing was triggered.
* `beaconsReport_iff`: the beacons report the state of the monitor exactly when the first stall of
  the heartbeat lasts to the end of the run.
* `beaconsReport_refuted`: one missed beat, and a recovery that leaves the register at one.
-/

import TrustzoneWatchdog.Heartbeat.Trigger

namespace TrustzoneWatchdog.Heartbeat

open TrustzoneWatchdog.Lib.Clocked

/-! ### The beacons after one poll -/

section Poll

variable (s : Sys) (reading : BitVec 32)

theorem pollReading_beacons :
    (pollReading s reading).1.ttc2.dbgHbSeen = reading ∧
    (pollReading s reading).1.ttc2.dbgCbCount = s.monitor.cbCount + 1#32 ∧
    (pollReading s reading).1.monitor.cbCount = s.monitor.cbCount + 1#32 := by
  unfold pollReading swdtMonitorCallback
  dsimp only
  split_ifs <;> exact ⟨rfl, rfl, rfl⟩

/-- The register of the misses is written by a poll that misses, and by no other. -/
theorem pollReading_dbgMiss :
    (pollReading s reading).1.ttc2.dbgMiss =
      if s.monitor.armed = true ∧ reading = s.monitor.prevHbVal then s.monitor.missedCount + 1#32
      else s.ttc2.dbgMiss := by
  unfold pollReading swdtMonitorCallback
  dsimp only
  cases armed : s.monitor.armed with
  | false => by_cases zero : reading = 0#32 <;> simp [zero]
  | true =>
    by_cases same : reading = s.monitor.prevHbVal
    · by_cases reached : missThreshold ≤ s.monitor.missedCount + 1#32 <;>
        simp [same, reached, triggerReset]
    · simp [same]

end Poll

/-! ### A run of polls -/

section Polls

variable (s : Sys) (reading : Nat → BitVec 32)

/-- Poll `n` counts a miss, and writes `0xFF130044`. -/
def MissesAt (n : Nat) : Prop :=
  (polled s reading n).monitor.armed = true ∧ reading n = (polled s reading n).monitor.prevHbVal

/-- **The beacons report the state of the monitor** after each of `count` polls that does not
trigger. -/
structure BeaconsReport (count : Nat) : Prop where
  /-- `0xFF130044`, from the first time on that it is written. -/
  miss : ∀ n < count, ¬ TriggersAt s reading n → (∃ j ≤ n, MissesAt s reading j) →
    (polled s reading (n + 1)).ttc2.dbgMiss = (polled s reading (n + 1)).monitor.missedCount
  /-- `0xFF130040`. -/
  seen : ∀ n < count, ¬ TriggersAt s reading n →
    (polled s reading (n + 1)).ttc2.dbgHbSeen = reading n
  /-- `0xFF13003C`. -/
  polls : ∀ n < count, ¬ TriggersAt s reading n →
    (polled s reading (n + 1)).ttc2.dbgCbCount = BitVec.ofNat 32 (n + 1)

variable {s reading}

theorem cbCount_polled (fresh : s.monitor.cbCount = 0#32) (n : Nat) :
    (polled s reading n).monitor.cbCount = BitVec.ofNat 32 n := by
  induction n with
  | zero => exact fresh
  | succ n ih =>
    have step := (pollReading_beacons (polled s reading n) (reading n)).2.2
    rw [ih] at step
    exact step.trans (BitVec.ofNat_add_ofNat n 1)

theorem missesAt_of_triggersAt {n : Nat} (triggers : TriggersAt s reading n) :
    MissesAt s reading n := by
  obtain ⟨armed, same, _⟩ := triggers_pollReading.mp triggers
  exact ⟨armed, same⟩

section Step

variable {n : Nat}

theorem MissesAt.dbgMiss_succ (misses : MissesAt s reading n) :
    (polled s reading (n + 1)).ttc2.dbgMiss = (polled s reading n).monitor.missedCount + 1#32 :=
  (pollReading_dbgMiss (polled s reading n) (reading n)).trans (if_pos misses)

theorem MissesAt.missedCount_succ (misses : MissesAt s reading n)
    (untriggered : ¬ TriggersAt s reading n) :
    (polled s reading (n + 1)).monitor.missedCount =
      (polled s reading n).monitor.missedCount + 1#32 :=
  (pollReading_armed misses.1 untriggered).2.2.trans (if_pos misses.2)

/-- A poll that does not miss leaves the register alone, and the count at zero. -/
theorem dbgMiss_succ_of_not (idle : ¬ MissesAt s reading n) :
    (polled s reading (n + 1)).ttc2.dbgMiss = (polled s reading n).ttc2.dbgMiss :=
  (pollReading_dbgMiss (polled s reading n) (reading n)).trans (if_neg idle)

theorem missedCount_succ_of_not (idle : ¬ MissesAt s reading n) :
    (polled s reading (n + 1)).monitor.missedCount = 0#32 := by
  have untriggered : ¬ TriggersAt s reading n := fun triggers =>
    idle (missesAt_of_triggersAt triggers)
  rcases disarmed_or_watching s reading n with disarmed | ⟨m, last, count, rfl, watching⟩
  · exact (pollReading_disarmed (reading n) disarmed.armed).1.trans disarmed.missed
  · exact (pollReading_armed watching.armed untriggered).2.2.trans
      (if_neg fun same => idle ⟨watching.armed, same⟩)

/-- A poll behind a trigger finds the monitor disarmed. -/
theorem not_missesAt_succ (triggers : TriggersAt s reading n) : ¬ MissesAt s reading (n + 1) :=
  fun misses => absurd ((disarmed_of_triggers triggers).armed.symm.trans misses.1) (by decide)

end Step

/-- Once written, the register of the misses is not zero. -/
theorem dbgMiss_ne_zero {n : Nat} (written : ∃ j < n, MissesAt s reading j) :
    (polled s reading n).ttc2.dbgMiss ≠ 0#32 := by
  induction n with
  | zero =>
    obtain ⟨j, below, _⟩ := written
    exact absurd below (Nat.not_lt_zero j)
  | succ n ih =>
    by_cases misses : MissesAt s reading n
    · have small := missedCount_polled_le s reading n
      rw [misses.dbgMiss_succ]
      intro zero
      have sum := congrArg BitVec.toNat zero
      rw [BitVec.toNat_add] at sum
      change (_ + 1) % 2 ^ 32 = 0 at sum
      omega
    · obtain ⟨j, below, earlier⟩ := written
      rw [dbgMiss_succ_of_not misses]
      rcases Nat.lt_succ_iff_lt_or_eq.mp below with less | rfl
      · exact ih ⟨j, less, earlier⟩
      · exact absurd earlier misses

/-- **The register of the misses is right** exactly after the polls that miss. -/
theorem dbgMiss_eq_iff {n : Nat} (untriggered : ¬ TriggersAt s reading n)
    (written : ∃ j ≤ n, MissesAt s reading j) :
    (polled s reading (n + 1)).ttc2.dbgMiss = (polled s reading (n + 1)).monitor.missedCount ↔
      MissesAt s reading n := by
  constructor
  · intro same
    by_contra idle
    rw [missedCount_succ_of_not idle] at same
    obtain ⟨j, atMost, misses⟩ := written
    exact dbgMiss_ne_zero ⟨j, Nat.lt_succ_of_le atMost, misses⟩ same
  · intro misses
    rw [misses.dbgMiss_succ, misses.missedCount_succ untriggered]

/-! ### Which polls miss -/

/-- **A poll misses** when its reading repeats the one before and any so far was not zero, as long
as nothing was triggered. -/
theorem missesAt_succ_iff {n : Nat} (quiet : Undisturbed s reading 0 (n + 1)) :
    MissesAt s reading (n + 1) ↔ (∃ m ≤ n, reading m ≠ 0#32) ∧ reading (n + 1) = reading n := by
  rcases disarmed_or_watching s reading (n + 1) with disarmed | ⟨m, last, count, same, watching⟩
  · constructor
    · intro misses
      exact absurd (disarmed.armed.symm.trans misses.1) (by decide)
    · rintro ⟨⟨m, atMost, nonzero⟩, _⟩
      exact absurd (disarmed.zeros m (by omega) fun k _ below => quiet k (Nat.zero_le k) below)
        nonzero
  · obtain rfl : n = last := Nat.succ.inj same
    have within := watching.within
    rw [MissesAt, watching.prev]
    exact and_congr_left fun _ =>
      ⟨fun _ => ⟨m, by omega, watching.arming.1⟩, fun _ => watching.armed⟩

theorem not_missesAt_zero : ¬ MissesAt s reading 0 :=
  fun misses => Bool.false_ne_true misses.1

/-- A trigger comes with seven misses counted. -/
theorem missedCount_of_triggersAt {n : Nat} (triggers : TriggersAt s reading n) :
    (polled s reading n).monitor.missedCount.toNat = 7 := by
  have small := missedCount_polled_le s reading n
  have reached := BitVec.le_def.mp (triggers_pollReading.mp triggers).2.2
  rw [BitVec.toNat_add] at reached
  change 8 ≤ (_ + 1) % 2 ^ 32 at reached
  omega

/-- **A stall**: `i` misses in a row count `i`. -/
theorem missedCount_stall {p i : Nat} (misses : ∀ k < i, MissesAt s reading (p + k))
    (quiet : Undisturbed s reading p (p + i)) :
    (polled s reading (p + i)).monitor.missedCount.toNat =
      (polled s reading p).monitor.missedCount.toNat + i := by
  induction i with
  | zero => rfl
  | succ i ih =>
    have small := missedCount_polled_le s reading (p + i)
    have counted := ih (fun k below => misses k (by omega)) (quiet.mono (by omega))
    have untriggered := quiet (p + i) (by omega) (by omega)
    rw [counted] at small
    rw [← Nat.add_assoc, (misses i (by omega)).missedCount_succ untriggered, BitVec.toNat_add,
      counted]
    change (_ + 1) % 2 ^ 32 = _
    omega

/-! ### The runs with faithful beacons -/

variable (s reading) in
/-- From the first miss on, every one of the `count` polls misses. -/
def MissesOnwards (count : Nat) : Prop :=
  ∀ j n, j ≤ n → n < count → MissesAt s reading j → MissesAt s reading n

/-- After two equal readings, one not zero before them, the heartbeat stands to the end of the run,
which ends by the eighth miss. -/
def StallsToEnd (reading : Nat → BitVec 32) (count : Nat) : Prop :=
  ∀ n, n + 1 < count → (∃ m ≤ n, reading m ≠ 0#32) → reading (n + 1) = reading n →
    count ≤ n + 9 ∧ ∀ k, n + 1 < k → k < count → reading k = reading n

/-- The register is right as long as every poll misses from the first miss on. -/
theorem miss_iff_missesOnwards {count : Nat} :
    (∀ n < count, ¬ TriggersAt s reading n → (∃ j ≤ n, MissesAt s reading j) →
      (polled s reading (n + 1)).ttc2.dbgMiss = (polled s reading (n + 1)).monitor.missedCount) ↔
    MissesOnwards s reading count := by
  constructor
  · intro right j n atMost below earlier
    by_cases triggers : TriggersAt s reading n
    · exact missesAt_of_triggersAt triggers
    · exact (dbgMiss_eq_iff triggers ⟨j, atMost, earlier⟩).mp
        (right n below triggers ⟨j, atMost, earlier⟩)
  · rintro onwards n below untriggered ⟨j, atMost, earlier⟩
    exact (dbgMiss_eq_iff untriggered ⟨j, atMost, earlier⟩).mpr (onwards j n atMost below earlier)

/-- Only the last poll can trigger: the one after it does not miss. -/
theorem MissesOnwards.undisturbed {count n : Nat} (onwards : MissesOnwards s reading count)
    (below : n < count) : Undisturbed s reading 0 n := by
  intro k _ earlier triggers
  exact not_missesAt_succ triggers (onwards k (k + 1) (by omega) (by omega)
    (missesAt_of_triggersAt triggers))

theorem MissesOnwards.stallsToEnd {count : Nat} (onwards : MissesOnwards s reading count) :
    StallsToEnd reading count := by
  intro n below nonzero same
  have first : MissesAt s reading (n + 1) :=
    (missesAt_succ_iff (onwards.undisturbed below)).mpr ⟨nonzero, same⟩
  constructor
  · -- nine misses in a row cannot be counted
    by_contra longer
    have counted := missedCount_stall (p := n + 1) (i := 8)
      (fun k _ => onwards (n + 1) (n + 1 + k) (by omega) (by omega) first)
      (fun k _ before => onwards.undisturbed (n := n + 9) (by omega) k (Nat.zero_le k) before)
    have small := missedCount_polled_le s reading (n + 1 + 8)
    omega
  · intro k above
    induction k, above using Nat.le_induction with
    | base =>
      intro last
      have misses := onwards (n + 1) (n + 2) (by omega) last first
      exact ((missesAt_succ_iff (onwards.undisturbed last)).mp misses).2.trans same
    | succ k above ih =>
      intro last
      have misses := onwards (n + 1) (k + 1) (by omega) last first
      exact ((missesAt_succ_iff (onwards.undisturbed last)).mp misses).2.trans (ih (by omega))

/-- From the first miss `p` of a heartbeat that stands to the end, nothing triggers before the last
poll. -/
theorem StallsToEnd.misses {count p : Nat} (stalls : StallsToEnd reading count)
    (first : MissesAt s reading p) (noneBefore : ∀ k < p, ¬ MissesAt s reading k) (i : Nat)
    (below : p + i < count) :
    Undisturbed s reading 0 (p + i) ∧ ∀ k ≤ i, MissesAt s reading (p + k) := by
  have quiet : Undisturbed s reading 0 p := fun k _ before triggers =>
    noneBefore k before (missesAt_of_triggersAt triggers)
  obtain _ | n := p
  · exact absurd first not_missesAt_zero
  obtain ⟨⟨m, early, nonzero⟩, same⟩ := (missesAt_succ_iff quiet).mp first
  obtain ⟨short, stands⟩ := stalls n (by omega) ⟨m, early, nonzero⟩ same
  have zero := missedCount_succ_of_not (noneBefore n (by omega))
  induction i with
  | zero => exact ⟨quiet, fun k atMost => by rwa [Nat.le_zero.mp atMost]⟩
  | succ i ih =>
    obtain ⟨before, misses⟩ := ih (by omega)
    have counted := missedCount_stall (fun k below => misses k (by omega))
      (fun k _ => before k (Nat.zero_le k))
    rw [zero] at counted
    have untriggered : ¬ TriggersAt s reading (n + 1 + i) := by
      intro triggers
      rw [missedCount_of_triggersAt triggers] at counted
      change 7 = 0 + i at counted
      omega
    have next := before.succ untriggered
    refine ⟨next, fun k atMost => ?_⟩
    rcases Nat.le_succ_iff.mp atMost with earlier | rfl
    · exact misses k earlier
    · refine (missesAt_succ_iff next).mpr ⟨⟨m, by omega, nonzero⟩, ?_⟩
      rw [stands (n + 1 + i + 1) (by omega) below]
      rcases Nat.eq_zero_or_pos i with rfl | positive
      · exact same.symm
      · exact (stands _ (by omega) (by omega)).symm

theorem StallsToEnd.missesOnwards {count : Nat} (stalls : StallsToEnd reading count) :
    MissesOnwards s reading count := by
  classical
  intro j n atMost below misses
  have any : ∃ p, MissesAt s reading p := ⟨j, misses⟩
  have least : Nat.find any ≤ n := (Nat.find_min' any misses).trans atMost
  obtain ⟨i, rfl⟩ := Nat.exists_eq_add_of_le least
  exact (stalls.misses (Nat.find_spec any) (fun k => Nat.find_min any) i below).2 i le_rfl

/-- **When the beacons can be trusted**: as long as a heartbeat that stands still once does not
move again, and the run stops at the trigger. -/
theorem beaconsReport_iff (s : Sys) (reading : Nat → BitVec 32) (count : Nat)
    (fresh : s.monitor.cbCount = 0#32) :
    BeaconsReport s reading count ↔ StallsToEnd reading count := by
  constructor
  · intro report
    exact (miss_iff_missesOnwards.mp report.miss).stallsToEnd
  · intro stalls
    refine ⟨miss_iff_missesOnwards.mpr stalls.missesOnwards, fun n _ _ => ?_,
      fun n _ _ => ?_⟩
    · exact (pollReading_beacons (polled s reading n) (reading n)).1
    · have written := (pollReading_beacons (polled s reading n) (reading n)).2.1
      rw [cbCount_polled fresh n] at written
      exact written.trans (BitVec.ofNat_add_ofNat n 1)

/-- A heartbeat that advances with every poll. -/
theorem beaconsReport_advancing :
    Sys.init.monitor.cbCount = 0#32 ∧
    BeaconsReport Sys.init (fun n => BitVec.ofNat 32 (n + 1)) 1000 := by
  refine ⟨rfl, (beaconsReport_iff Sys.init _ 1000 rfl).mpr fun n below _ same => ?_⟩
  have values := congrArg BitVec.toNat same
  simp only [BitVec.toNat_ofNat] at values
  omega

/-- **One missed beat and a recovery**: the heartbeat reads 1, 1, 2. The third poll clears
`MissedCount`, and Linux still reads one miss. -/
theorem beaconsReport_refuted :
    ¬ BeaconsReport Sys.init (fun n => if n < 2 then 1#32 else 2#32) 3 := by
  intro report
  have untriggered : ¬ TriggersAt Sys.init (fun n => if n < 2 then 1#32 else 2#32) 2 := by
    unfold TriggersAt
    decide
  have misses : MissesAt Sys.init (fun n => if n < 2 then 1#32 else 2#32) 1 := by
    unfold MissesAt
    decide
  exact absurd (report.miss 2 (by decide) untriggered ⟨1, by decide, misses⟩) (by decide)

end Polls

end TrustzoneWatchdog.Heartbeat
