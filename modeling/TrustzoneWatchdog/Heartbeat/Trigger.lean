/-
**Exactly when the PMU resets the system** (`pmufw/swdt_monitor.c`).

The polls after `SwdtMonitorInit` see some sequence of readings, whatever wrote them. Poll `n` reads
`reading n`, and `TriggerReset` is taken to return after it has cleared the monitor.

* `Arming`: a poll with the first reading that is not zero, since the start or the last trigger.
* `Disarmed`, `Watching`: what the three variables of the monitor say about the readings so far.
  Every state is one or the other (`disarmed_or_watching`); `Watching` counts how far back the last
  reading goes, and not further.
* `triggerLaw`: poll `n` triggers exactly when there is an arming poll eight polls back or more, no
  trigger since, and nine equal readings up to poll `n`.
-/

import TrustzoneWatchdog.Heartbeat.Monitor
import TrustzoneWatchdog.Lib.Clocked

namespace TrustzoneWatchdog.Heartbeat

open TrustzoneWatchdog.Lib.Clocked

/-- `SwdtMonitorInit`: without a module nothing is touched and no poll is scheduled. -/
def swdtMonitorInit (created : Bool) (s : Sys) : Sys × Bool :=
  if !created then (s, false)
  else ({ s with
    monitor := { s.monitor with prevHbVal := 0#32, missedCount := 0#32, armed := false } }, true)

/-- A poll that finds `reading` in the heartbeat register. -/
def pollReading (s : Sys) (reading : BitVec 32) : Sys × Bool :=
  swdtMonitorCallback { s with ttc2 := { s.ttc2 with heartbeat := reading } }

/-! ### One poll -/

section Poll

variable {s : Sys} {reading : BitVec 32}

theorem monitor_callback (s : Sys) :
    (swdtMonitorCallback s).1.monitor = (s.step .poll).monitor := by
  unfold Sys.step
  dsimp only
  split <;> rfl

theorem triggers_pollReading : (pollReading s reading).2 = true ↔
    s.monitor.armed = true ∧ reading = s.monitor.prevHbVal ∧
      missThreshold ≤ s.monitor.missedCount + 1#32 :=
  triggers_poll_iff (s := { s with ttc2 := { s.ttc2 with heartbeat := reading } })

theorem pollReading_disarmed (reading : BitVec 32) (disarmed : s.monitor.armed = false) :
    (pollReading s reading).1.monitor.missedCount = s.monitor.missedCount ∧
    (pollReading s reading).1.monitor.armed = (reading != 0#32) ∧
    (pollReading s reading).1.monitor.prevHbVal =
      if reading = 0#32 then s.monitor.prevHbVal else reading := by
  rw [pollReading, monitor_callback]
  exact (poll_disarmed (s := { s with ttc2 := { s.ttc2 with heartbeat := reading } }) disarmed).2.2

theorem pollReading_armed (armed : s.monitor.armed = true)
    (untriggered : ¬ (pollReading s reading).2 = true) :
    (pollReading s reading).1.monitor.armed = true ∧
    (pollReading s reading).1.monitor.prevHbVal = reading ∧
    (pollReading s reading).1.monitor.missedCount =
      if reading = s.monitor.prevHbVal then s.monitor.missedCount + 1#32 else 0#32 := by
  have untriggered : (pollReading s reading).2 = false := Bool.eq_false_iff.mpr untriggered
  rw [pollReading, monitor_callback]
  exact (poll_armed (s := { s with ttc2 := { s.ttc2 with heartbeat := reading } }) armed
    untriggered).2.2

theorem pollReading_triggered (triggered : (pollReading s reading).2 = true) :
    (pollReading s reading).1.monitor.armed = false ∧
    (pollReading s reading).1.monitor.missedCount = 0#32 ∧
    (pollReading s reading).1.monitor.prevHbVal = 0#32 := by
  obtain ⟨armed, same, reached⟩ := triggers_pollReading.mp triggered
  unfold pollReading swdtMonitorCallback
  simp [armed, same, reached, triggerReset]

end Poll

/-! ### A sequence of polls -/

section Polls

variable (s : Sys) (reading : Nat → BitVec 32)

/-- The system before poll `n`. -/
def polled (n : Nat) : Sys :=
  stateAt (fun s reading => (pollReading s reading).1) (swdtMonitorInit true s).1 reading n

/-- Poll `n` invokes `TriggerReset`. -/
def TriggersAt (n : Nat) : Prop := (pollReading (polled s reading n) (reading n)).2 = true

/-- None of the polls from `first` up to `n` triggers. -/
def Undisturbed (first n : Nat) : Prop := ∀ k, first ≤ k → k < n → ¬ TriggersAt s reading k

/-- Poll `m` has the first reading that is not zero, since the start or the last trigger. -/
def Arming (m : Nat) : Prop :=
  reading m ≠ 0#32 ∧ ∀ j < m, Undisturbed s reading j m → reading j = 0#32

/-- The monitor waits for a first reading. -/
structure Disarmed (n : Nat) : Prop where
  armed : (polled s reading n).monitor.armed = false
  missed : (polled s reading n).monitor.missedCount = 0#32
  prev : (polled s reading n).monitor.prevHbVal = 0#32
  zeros : ∀ j < n, Undisturbed s reading j n → reading j = 0#32

/-- Armed by poll `m`, the monitor remembers the reading of poll `last`, the one before, and that
`count` readings before it were the same, and no more. -/
structure Watching (m last count : Nat) : Prop where
  armed : (polled s reading (last + 1)).monitor.armed = true
  prev : (polled s reading (last + 1)).monitor.prevHbVal = reading last
  missed : (polled s reading (last + 1)).monitor.missedCount.toNat = count
  small : count ≤ 7
  arming : Arming s reading m
  undisturbed : Undisturbed s reading m (last + 1)
  within : m + count ≤ last
  equal : ∀ j, last ≤ j + count → j ≤ last → reading j = reading last
  noMore : m + count = last ∨ ∃ p, p + count + 1 = last ∧ reading p ≠ reading last

variable {s reading}

theorem Undisturbed.mono {first n n' : Nat} (quiet : Undisturbed s reading first n)
    (shorter : n' ≤ n) : Undisturbed s reading first n' :=
  fun k atLeast below => quiet k atLeast (lt_of_lt_of_le below shorter)

theorem Undisturbed.succ {first n : Nat} (quiet : Undisturbed s reading first n)
    (untriggered : ¬ TriggersAt s reading n) : Undisturbed s reading first (n + 1) := by
  intro k atLeast below
  rcases Nat.lt_succ_iff_lt_or_eq.mp below with earlier | rfl
  · exact quiet k atLeast earlier
  · exact untriggered

/-- Two arming polls with no trigger in between are one. -/
theorem Arming.unique {m m' n : Nat} (arming : Arming s reading m) (arming' : Arming s reading m')
    (quiet : Undisturbed s reading m n) (quiet' : Undisturbed s reading m' n) (before : m < n)
    (before' : m' < n) : m = m' := by
  rcases Nat.lt_trichotomy m m' with less | same | more
  · exact absurd (arming'.2 m less (quiet.mono before'.le)) arming.1
  · exact same
  · exact absurd (arming.2 m' more (quiet'.mono before.le)) arming'.1

theorem disarmed_zero : Disarmed s reading 0 where
  armed := rfl
  missed := rfl
  prev := rfl
  zeros _ below := absurd below (Nat.not_lt_zero _)

/-- A trigger clears the monitor, and nothing read before counts any more. -/
theorem disarmed_of_triggers {n : Nat} (triggers : TriggersAt s reading n) :
    Disarmed s reading (n + 1) := by
  obtain ⟨armed, missed, prev⟩ := pollReading_triggered triggers
  exact ⟨armed, missed, prev,
    fun j below quiet => absurd triggers (quiet n (by omega) (Nat.lt_succ_self n))⟩

/-- A disarmed monitor waits at zero and arms on anything else. -/
theorem Disarmed.poll {n : Nat} (disarmed : Disarmed s reading n) :
    Disarmed s reading (n + 1) ∨ Watching s reading n n 0 := by
  have untriggered : ¬ TriggersAt s reading n := fun triggers =>
    absurd (disarmed.armed.symm.trans (triggers_pollReading.mp triggers).1) (by decide)
  obtain ⟨missed, armed, prev⟩ := pollReading_disarmed (reading n) disarmed.armed
  rw [disarmed.missed] at missed
  by_cases zero : reading n = 0#32
  · left
    rw [if_pos zero, disarmed.prev] at prev
    refine ⟨armed.trans (by rw [zero]; rfl), missed, prev, fun j below quiet => ?_⟩
    rcases Nat.lt_succ_iff_lt_or_eq.mp below with earlier | rfl
    · exact disarmed.zeros j earlier (quiet.mono (Nat.le_succ n))
    · exact zero
  · right
    rw [if_neg zero] at prev
    exact {
      armed := armed.trans (bne_iff_ne.mpr zero)
      prev := prev
      missed := congrArg BitVec.toNat missed
      small := Nat.zero_le 7
      arming := ⟨zero, disarmed.zeros⟩
      undisturbed := Undisturbed.succ (fun k atLeast below => absurd below (by omega)) untriggered
      within := le_rfl
      equal := fun j atLeast atMost => by rw [le_antisymm atMost atLeast]
      noMore := Or.inl rfl }

/-- A watching monitor that does not trigger counts an equal reading and starts over at another. -/
theorem Watching.poll {m last count : Nat} (watching : Watching s reading m last count)
    (untriggered : ¬ TriggersAt s reading (last + 1)) :
    ∃ count', Watching s reading m (last + 1) count' := by
  obtain ⟨armed, prev, missed⟩ := pollReading_armed watching.armed untriggered
  have undisturbed := watching.undisturbed.succ untriggered
  have within := watching.within
  have small := watching.small
  by_cases same : reading (last + 1) = reading last
  · have next : ((polled s reading (last + 1)).monitor.missedCount + 1#32).toNat = count + 1 := by
      rw [BitVec.toNat_add, watching.missed]
      show (count + 1) % 2 ^ 32 = count + 1
      omega
    have below : count + 1 ≤ 7 := by
      by_contra reached
      refine untriggered (triggers_pollReading.mpr ⟨watching.armed, ?_, ?_⟩)
      · rw [watching.prev, same]
      · rw [BitVec.le_def, next]
        show 8 ≤ count + 1
        omega
    rw [watching.prev, if_pos same] at missed
    refine ⟨count + 1, armed, prev, (congrArg BitVec.toNat missed).trans next, below,
      watching.arming, undisturbed, by omega, fun j atLeast atMost => ?_, ?_⟩
    · rcases Nat.le_succ_iff.mp atMost with earlier | rfl
      · rw [same, watching.equal j (by omega) earlier]
      · rfl
    · rcases watching.noMore with all | ⟨p, position, differs⟩
      · exact Or.inl (by omega)
      · exact Or.inr ⟨p, by omega, by rwa [same]⟩
  · rw [watching.prev, if_neg same] at missed
    refine ⟨0, armed, prev, congrArg BitVec.toNat missed, Nat.zero_le 7, watching.arming,
      undisturbed, by omega, fun j atLeast atMost => ?_, Or.inr ⟨last, rfl, Ne.symm same⟩⟩
    rw [le_antisymm atMost atLeast]

/-- **The invariant of the monitor**: before every poll it waits or it watches. -/
theorem disarmed_or_watching (s : Sys) (reading : Nat → BitVec 32) (n : Nat) :
    Disarmed s reading n ∨ ∃ m last count, n = last + 1 ∧ Watching s reading m last count := by
  induction n with
  | zero => exact Or.inl disarmed_zero
  | succ n ih =>
    by_cases triggers : TriggersAt s reading n
    · exact Or.inl (disarmed_of_triggers triggers)
    · rcases ih with disarmed | ⟨m, last, count, rfl, watching⟩
      · rcases disarmed.poll with still | armed
        · exact Or.inl still
        · exact Or.inr ⟨n, n, 0, rfl, armed⟩
      · obtain ⟨count', next⟩ := watching.poll triggers
        exact Or.inr ⟨m, last + 1, count', rfl, next⟩

theorem missedCount_polled_le (s : Sys) (reading : Nat → BitVec 32) (n : Nat) :
    (polled s reading n).monitor.missedCount.toNat ≤ 7 := by
  rcases disarmed_or_watching s reading n with disarmed | ⟨m, last, count, rfl, watching⟩
  · rw [disarmed.missed]
    decide
  · rw [watching.missed]
    exact watching.small

/-- A watching monitor triggers on the eighth reading that repeats the one before. -/
theorem Watching.triggers_iff {m last count : Nat} (watching : Watching s reading m last count) :
    TriggersAt s reading (last + 1) ↔ reading (last + 1) = reading last ∧ count = 7 := by
  have small := watching.small
  have reached : missThreshold ≤ (polled s reading (last + 1)).monitor.missedCount + 1#32 ↔
      count = 7 := by
    rw [BitVec.le_def, BitVec.toNat_add, watching.missed]
    show 8 ≤ (count + 1) % 2 ^ 32 ↔ count = 7
    omega
  rw [TriggersAt, triggers_pollReading, watching.prev, reached]
  exact and_iff_right watching.armed

/-- Nine equal readings, not all before the arming poll, make the count seven. -/
theorem Watching.count_eq {m last count : Nat} (watching : Watching s reading m last count)
    (early : m + 7 ≤ last) (equal : ∀ j, last ≤ j + 7 → j ≤ last → reading j = reading last) :
    count = 7 := by
  have small := watching.small
  rcases watching.noMore with all | ⟨p, position, differs⟩
  · omega
  · by_contra fewer
    exact differs (equal p (by omega) (by omega))

variable (s reading) in
/-- **When the monitor triggers**, and what its variables can be. -/
structure TriggerLaw : Prop where
  triggers : ∀ n, TriggersAt s reading n ↔ ∃ m, m + 8 ≤ n ∧ Arming s reading m ∧
    Undisturbed s reading m n ∧ ∀ j, n ≤ j + 8 → j ≤ n → reading j = reading n
  missed : ∀ n, (polled s reading n).monitor.missedCount.toNat ≤ 7
  disarmed : ∀ n, (polled s reading n).monitor.armed = false →
    (polled s reading n).monitor.missedCount = 0#32 ∧ (polled s reading n).monitor.prevHbVal = 0#32

/-- **The trigger law holds for every sequence of readings**, from whatever state the monitor was
initialised in. -/
theorem triggerLaw (s : Sys) (reading : Nat → BitVec 32) : TriggerLaw s reading := by
  refine ⟨fun n => ?_, missedCount_polled_le s reading, fun n unarmed => ?_⟩
  · rcases disarmed_or_watching s reading n with disarmed | ⟨m, last, count, rfl, watching⟩
    · constructor
      · intro triggers
        have armed := (triggers_pollReading.mp triggers).1
        exact absurd (disarmed.armed.symm.trans armed) (by decide)
      · rintro ⟨m, early, arming, quiet, _⟩
        exact absurd (disarmed.zeros m (by omega) quiet) arming.1
    · rw [watching.triggers_iff]
      constructor
      · rintro ⟨same, rfl⟩
        have within := watching.within
        refine ⟨m, by omega, watching.arming, watching.undisturbed, fun j atLeast atMost => ?_⟩
        rcases Nat.le_succ_iff.mp atMost with earlier | rfl
        · rw [same, watching.equal j (by omega) earlier]
        · rfl
      · rintro ⟨m', early, arming, quiet, equal⟩
        have within := watching.within
        have sameStart := arming.unique watching.arming quiet watching.undisturbed (by omega)
          (by omega)
        have same : reading last = reading (last + 1) := equal last (by omega) (by omega)
        refine ⟨same.symm, watching.count_eq (by omega) fun j atLeast atMost => ?_⟩
        rw [equal j (by omega) (by omega), same]
  · rcases disarmed_or_watching s reading n with disarmed | ⟨m, last, count, rfl, watching⟩
    · exact ⟨disarmed.missed, disarmed.prev⟩
    · exact absurd (unarmed.symm.trans watching.armed) (by decide)

end Polls

end TrustzoneWatchdog.Heartbeat
