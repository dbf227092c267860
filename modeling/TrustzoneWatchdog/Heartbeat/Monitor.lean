/-
**TF-A's heartbeat and the PMU's monitor** (`plat/xilinx/zynqmp/zynqmp_swdt.c`,
`pmufw/swdt_monitor.c`).

TF-A counts in `ttc2_hb_seq` and writes every value to a spare TTC2 register; the PMU polls that
register, and when it has stood still for `MISS_THRESHOLD` polls resets the system. `Sys` holds what
the two parties share and keep: TF-A's counter, the TTC2 scratch registers, and the PMU's static
variables. `ttc2FiqHandler`, `swdtMonitorCallback` and `triggerReset` are the three functions of the
source; the interrupt acknowledgements of the handler, and the PL wipe, power-down and reset
requests of `TriggerReset`, touch none of this state.

`Sys.step` is the system: TF-A's beats, the PMU's polls and restarts of TF-A asked for by somebody
else, in any order. The PMU is not reset by any of them. After `TriggerReset` the APU is forced down
and comes back with its counter and the register at zero, as after any other restart.
-/

import TrustzoneWatchdog.Lib.AlarmRun
import Mathlib.Data.BitVec

namespace TrustzoneWatchdog.Heartbeat

open TrustzoneWatchdog.Lib.AlarmRun

/-- The TTC2 scratch registers: TF-A's two and the three the PMU writes for Linux to read. -/
structure Ttc2 where
  /-- `0xFF130048`. -/
  heartbeat : BitVec 32
  /-- `0xFF130030`. -/
  fiqBeacon : BitVec 32
  /-- `0xFF13003C`. -/
  dbgCbCount : BitVec 32
  /-- `0xFF130040`. -/
  dbgHbSeen : BitVec 32
  /-- `0xFF130044`. -/
  dbgMiss : BitVec 32
  deriving DecidableEq, Repr

/-- The static variables of `swdt_monitor.c`. -/
structure Monitor where
  prevHbVal : BitVec 32
  missedCount : BitVec 32
  armed : Bool
  cbCount : BitVec 32
  deriving DecidableEq, Repr

/-- TF-A's counter, the registers in between, and the monitor. -/
structure Sys where
  ttc2HbSeq : BitVec 32
  ttc2 : Ttc2
  monitor : Monitor
  deriving DecidableEq, Repr

def missThreshold : BitVec 32 := 8#32

/-- One TTC2 interrupt in TF-A. -/
def ttc2FiqHandler (s : Sys) : Sys :=
  let seq := s.ttc2HbSeq + 1#32
  { s with ttc2HbSeq := seq, ttc2 := { s.ttc2 with heartbeat := seq, fiqBeacon := seq } }

/-- What `TriggerReset` leaves behind: the register and the monitor cleared for the next boot. -/
def triggerReset (s : Sys) : Sys :=
  { s with
    ttc2 := { s.ttc2 with heartbeat := 0#32 }
    monitor := { s.monitor with prevHbVal := 0#32, missedCount := 0#32, armed := false } }

/-- One poll of the PMU, and whether it invoked `TriggerReset`. -/
def swdtMonitorCallback (s : Sys) : Sys × Bool :=
  let currentHb := s.ttc2.heartbeat
  let cbCount := s.monitor.cbCount + 1#32
  let s := { s with
    ttc2 := { s.ttc2 with dbgCbCount := cbCount, dbgHbSeen := currentHb }
    monitor := { s.monitor with cbCount := cbCount } }
  if !s.monitor.armed then
    if currentHb ≠ 0#32 then
      ({ s with monitor := { s.monitor with armed := true, prevHbVal := currentHb } }, false)
    else (s, false)
  else if currentHb ≠ s.monitor.prevHbVal then
    ({ s with monitor := { s.monitor with prevHbVal := currentHb, missedCount := 0#32 } }, false)
  else
    let missed := s.monitor.missedCount + 1#32
    let s := { s with
      ttc2 := { s.ttc2 with dbgMiss := missed }
      monitor := { s.monitor with missedCount := missed } }
    if missThreshold ≤ missed then (triggerReset s, true) else (s, false)

/-- `SwdtMonitorInit` with TF-A's counter and the heartbeat register at zero. -/
def Sys.init : Sys where
  ttc2HbSeq := 0
  ttc2 := ⟨0, 0, 0, 0, 0⟩
  monitor := ⟨0, 0, false, 0⟩

/-- TF-A comes up again. -/
def Sys.reboot (s : Sys) : Sys :=
  { s with ttc2HbSeq := 0#32, ttc2 := { s.ttc2 with heartbeat := 0#32 } }

/-- What can happen next. -/
inductive Event
  | beat
  | poll
  | restart
  deriving DecidableEq, Repr

/-- One event of the system. -/
def Sys.step (s : Sys) : Event → Sys
  | .beat => ttc2FiqHandler s
  | .poll =>
    let (polled, triggered) := swdtMonitorCallback s
    if triggered then polled.reboot else polled
  | .restart => s.reboot

/-- Whether the event invokes `TriggerReset`. -/
def Sys.triggers (s : Sys) : Event → Bool
  | .poll => (swdtMonitorCallback s).2
  | _ => false

/-- The system after a list of events. -/
def Sys.after (events : List Event) : Sys := run Sys.step Sys.init events

@[simp] theorem Sys.after_concat (events : List Event) (e : Event) :
    Sys.after (events ++ [e]) = (Sys.after events).step e :=
  run_append ..

theorem Sys.after_append (first second : List Event) :
    Sys.after (first ++ second) = run Sys.step (Sys.after first) second :=
  run_append ..

/-- `TriggerReset` is not invoked in the run. -/
def Untriggered (events : List Event) : Prop := Silent Sys.step Sys.triggers Sys.init events

theorem untriggered_append (first second : List Event) :
    Untriggered (first ++ second) ↔
      Untriggered first ∧ Silent Sys.step Sys.triggers (Sys.after first) second :=
  silent_append ..

@[simp] theorem untriggered_concat (events : List Event) (e : Event) :
    Untriggered (events ++ [e]) ↔ Untriggered events ∧ (Sys.after events).triggers e = false := by
  rw [untriggered_append, silent_cons]
  simp

/-- The invariant rule for the runs that have not triggered. -/
theorem untriggered_invariant (holds : List Event → Sys → Prop) (first : holds [] Sys.init)
    (keeps : ∀ before e, holds before (Sys.after before) →
      (Sys.after before).triggers e = false → holds (before ++ [e]) ((Sys.after before).step e))
    (events : List Event) (untriggered : Untriggered events) : holds events (Sys.after events) :=
  silent_run_invariant holds first keeps events untriggered

/-! ### What one poll does -/

section Poll

variable {s : Sys}

/-- **The poll in one table.** It triggers exactly when the monitor is armed, reads what it read
before, and this is the miss that reaches the threshold. -/
theorem triggers_poll_iff :
    s.triggers .poll = true ↔ s.monitor.armed = true ∧ s.ttc2.heartbeat = s.monitor.prevHbVal ∧
      missThreshold ≤ s.monitor.missedCount + 1#32 := by
  unfold Sys.triggers swdtMonitorCallback
  dsimp only
  cases armed : s.monitor.armed with
  | false => by_cases zero : s.ttc2.heartbeat = 0#32 <;> simp [zero]
  | true =>
    by_cases same : s.ttc2.heartbeat = s.monitor.prevHbVal
    · by_cases reached : missThreshold ≤ s.monitor.missedCount + 1#32 <;> simp [same, reached]
    · simp [same]

/-- A disarmed monitor arms on the first reading that is not zero. -/
theorem poll_disarmed (disarmed : s.monitor.armed = false) :
    (s.step .poll).ttc2HbSeq = s.ttc2HbSeq ∧
    (s.step .poll).ttc2.heartbeat = s.ttc2.heartbeat ∧
    (s.step .poll).monitor.missedCount = s.monitor.missedCount ∧
    (s.step .poll).monitor.armed = (s.ttc2.heartbeat != 0#32) ∧
    (s.step .poll).monitor.prevHbVal =
      if s.ttc2.heartbeat = 0#32 then s.monitor.prevHbVal else s.ttc2.heartbeat := by
  unfold Sys.step swdtMonitorCallback
  dsimp only
  by_cases zero : s.ttc2.heartbeat = 0#32 <;> simp [disarmed, zero]

/-- An armed monitor that does not trigger remembers the reading and counts or clears its misses. -/
theorem poll_armed (armed : s.monitor.armed = true) (untriggered : s.triggers .poll = false) :
    (s.step .poll).ttc2HbSeq = s.ttc2HbSeq ∧
    (s.step .poll).ttc2.heartbeat = s.ttc2.heartbeat ∧
    (s.step .poll).monitor.armed = true ∧
    (s.step .poll).monitor.prevHbVal = s.ttc2.heartbeat ∧
    (s.step .poll).monitor.missedCount =
      if s.ttc2.heartbeat = s.monitor.prevHbVal then s.monitor.missedCount + 1#32 else 0#32 := by
  by_cases same : s.ttc2.heartbeat = s.monitor.prevHbVal
  · have below : ¬ missThreshold ≤ s.monitor.missedCount + 1#32 := fun reached =>
      absurd (untriggered.symm.trans (triggers_poll_iff.mpr ⟨armed, same, reached⟩)) (by decide)
    unfold Sys.step swdtMonitorCallback
    simp [armed, same, below]
  · unfold Sys.step swdtMonitorCallback
    simp [armed, same]

/-- A poll that triggers leaves the register at zero and the monitor disarmed. -/
theorem poll_triggered (triggered : s.triggers .poll = true) :
    (s.step .poll).ttc2.heartbeat = 0#32 ∧ (s.step .poll).monitor.armed = false ∧
    (s.step .poll).monitor.missedCount = 0#32 := by
  obtain ⟨armed, same, reached⟩ := triggers_poll_iff.mp triggered
  unfold Sys.step swdtMonitorCallback
  simp [armed, same, reached, triggerReset, Sys.reboot]

/-- The misses stay below the threshold. -/
theorem missedCount_poll (small : s.monitor.missedCount.toNat ≤ 7) :
    (s.step .poll).monitor.missedCount.toNat ≤ 7 := by
  cases triggered : s.triggers .poll with
  | true =>
    rw [(poll_triggered triggered).2.2]
    decide
  | false =>
    cases armed : s.monitor.armed with
    | false =>
      rw [(poll_disarmed armed).2.2.1]
      exact small
    | true =>
      rw [(poll_armed armed triggered).2.2.2.2]
      split
      · rename_i same
        have below : ¬ missThreshold ≤ s.monitor.missedCount + 1#32 := fun reached =>
          absurd (triggered.symm.trans (triggers_poll_iff.mpr ⟨armed, same, reached⟩)) (by decide)
        rw [BitVec.not_le, BitVec.lt_def] at below
        exact Nat.lt_succ_iff.mp below
      · decide

end Poll

/-- **The misses stay below the threshold**, in every run. -/
theorem missedCount_le (events : List Event) :
    (Sys.after events).monitor.missedCount.toNat ≤ 7 := by
  refine run_invariant (fun s : Sys => s.monitor.missedCount.toNat ≤ 7) (by decide) ?_ events
  intro s e small
  cases e with
  | beat => exact small
  | restart => exact small
  | poll => exact missedCount_poll small

/-! ### What the monitor remembers -/

/-- **The monitor's memory.** Disarmed it has no misses; armed, the value it remembers was read by
the last poll, and first by the poll `MissedCount` polls before that one. `reading` is what a poll
finds in the register after the events. -/
structure Remembers {ε : Type*} [DecidableEq ε] (poll : ε) (reading : List ε → BitVec 32)
    (events : List ε) (m : Monitor) : Prop where
  small : m.missedCount.toNat ≤ 7
  disarmed : m.armed = false → m.missedCount = 0#32
  first : m.armed = true → ∃ before between, events = before ++ poll :: between ∧
    between.count poll = m.missedCount.toNat ∧ reading before = m.prevHbVal
  last : m.armed = true → ∃ before between, events = before ++ poll :: between ∧
    poll ∉ between ∧ reading before = m.prevHbVal

namespace Remembers

variable {ε : Type*} [DecidableEq ε] {poll : ε} {reading : List ε → BitVec 32} {events : List ε}
  {m : Monitor} {s : Sys}

theorem init : Remembers poll reading [] Sys.init.monitor :=
  ⟨by decide, fun _ => rfl, fun armed => absurd armed (by decide),
    fun armed => absurd armed (by decide)⟩

/-- An event that is no poll is one more event since the polls remembered. -/
theorem push (known : Remembers poll reading events m) (e : ε) (quiet : e ≠ poll) :
    Remembers poll reading (events ++ [e]) m := by
  refine ⟨known.small, known.disarmed, fun armed => ?_, fun armed => ?_⟩
  · obtain ⟨before, between, split, misses, value⟩ := known.first armed
    refine ⟨before, between ++ [e], ?_, ?_, value⟩
    · rw [split, List.append_assoc, List.cons_append]
    · rw [← misses, List.count_append, List.count_singleton]
      simp [quiet]
  · obtain ⟨before, between, split, unpolled, value⟩ := known.last armed
    refine ⟨before, between ++ [e], ?_, ?_, value⟩
    · rw [split, List.append_assoc, List.cons_append]
    · rw [List.mem_append, List.mem_singleton, not_or]
      exact ⟨unpolled, fun here => quiet here.symm⟩

/-- A poll that sets the remembered value and clears the misses is the one remembered. -/
theorem fresh (armed : m.armed = true) (misses : m.missedCount = 0#32)
    (value : m.prevHbVal = reading events) : Remembers poll reading (events ++ [poll]) m where
  small := by
    rw [misses]
    decide
  disarmed low := absurd (low.symm.trans armed) (by decide)
  first _ := ⟨events, [], rfl, by rw [misses]; rfl, value.symm⟩
  last _ := ⟨events, [], rfl, List.not_mem_nil, value.symm⟩

/-- One poll that does not trigger. -/
theorem step (known : Remembers poll reading events s.monitor)
    (reads : reading events = s.ttc2.heartbeat) (silent : s.triggers .poll = false) :
    Remembers poll reading (events ++ [poll]) (s.step .poll).monitor := by
  cases armed : s.monitor.armed with
  | false =>
    obtain ⟨_, _, misses, arms, value⟩ := poll_disarmed armed
    by_cases zero : s.ttc2.heartbeat = 0#32
    · have still : (s.step .poll).monitor.armed = false := by rw [arms, zero]; rfl
      exact ⟨missedCount_poll known.small, fun _ => misses.trans (known.disarmed armed),
        fun armed' => absurd (still.symm.trans armed') (by decide),
        fun armed' => absurd (still.symm.trans armed') (by decide)⟩
    · rw [if_neg zero] at value
      exact .fresh (arms.trans (bne_iff_ne.mpr zero)) (misses.trans (known.disarmed armed))
        (value.trans reads.symm)
  | true =>
    obtain ⟨_, _, armed', value, misses⟩ := poll_armed armed silent
    by_cases same : s.ttc2.heartbeat = s.monitor.prevHbVal
    · rw [if_pos same] at misses
      refine ⟨missedCount_poll known.small, fun low => absurd (low.symm.trans armed') (by decide),
        fun _ => ?_, fun _ => ⟨events, [], rfl, List.not_mem_nil, reads.trans value.symm⟩⟩
      -- one more miss: the poll that first read the value is one poll further back
      obtain ⟨early, between, split, count, read⟩ := known.first armed
      have small := known.small
      refine ⟨early, between ++ [poll], ?_, ?_, ?_⟩
      · rw [split, List.append_assoc, List.cons_append]
      · rw [List.count_append, count, misses, BitVec.toNat_add]
        simp only [List.count_singleton_self, BitVec.toNat_ofNat]
        omega
      · rw [read, value, same]
    · rw [if_neg same] at misses
      exact .fresh armed' misses (value.trans reads.symm)

/-- A trigger is nine polls that read the same. -/
theorem nine_readings (known : Remembers poll reading events s.monitor)
    (triggered : s.triggers .poll = true) :
    ∃ before between, events = before ++ poll :: between ∧ between.count poll = 7 ∧
      s.ttc2.heartbeat = reading before := by
  obtain ⟨armed, same, reached⟩ := triggers_poll_iff.mp triggered
  obtain ⟨before, between, split, count, read⟩ := known.first armed
  refine ⟨before, between, split, ?_, same.trans read.symm⟩
  have small := known.small
  rw [missThreshold, BitVec.le_def, BitVec.toNat_add] at reached
  simp only [BitVec.toNat_ofNat] at reached
  omega

end Remembers

end TrustzoneWatchdog.Heartbeat
