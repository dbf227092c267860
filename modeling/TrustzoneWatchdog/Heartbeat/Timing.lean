/-
**The heartbeat in time** (`plat/xilinx/zynqmp/zynqmp_swdt.c`, `include/zynqmp_def.h`,
`pmufw/swdt_monitor.c`).

`ttc2_hw_init` sets an interval of 3052 ticks of a clock that it divides by `2^16`, which is two
seconds if the clock runs at 100 MHz; `SwdtMonitorInit` has the PMU poll every 2000 ms of its own
time. The two clocks are not tied to each other, handlers may be late, and polls may be late. Times
are cycles of the timer's clock here, and `perMs` of them are a millisecond of the PMU.

* `interval_ttc2HwInit`: what the timer is set to, whatever was in its registers.
* `timed_untriggered`: as long as a heartbeat, its delay and the jitter of the polls fit into eight
  periods of the monitor, no reset is triggered. At 100 MHz that leaves almost 14 seconds.
* `timed_triggers`: when the beats stop, eight periods later the reset has been triggered.
-/

import TrustzoneWatchdog.Heartbeat.Protocol
import TrustzoneWatchdog.Lib.Timed

namespace TrustzoneWatchdog.Heartbeat

open TrustzoneWatchdog.Lib.AlarmRun TrustzoneWatchdog.Lib.Timed Event

/-! ### The timer -/

def ttcCntrlDis : BitVec 32 := 1 <<< 0

def ttcCntrlIntMode : BitVec 32 := 1 <<< 1

def ttcCntrlRst : BitVec 32 := 1 <<< 4

def ttcClkPsEn : BitVec 32 := 1 <<< 0

def ttcClkPsValShift : Nat := 1

def ttc2ClkPsVal : BitVec 32 := 15

def ttc2IntervalTicks : BitVec 32 := 3052

/-- The registers of counter 0 that `ttc2_hw_init` writes. -/
structure Ttc where
  clkCntrl : BitVec 32
  cntCntrl : BitVec 32
  intervalVal : BitVec 32
  ier : BitVec 32
  deriving DecidableEq, Repr

def ttc2HwInit (r : Ttc) : Ttc :=
  let r := { r with cntCntrl := ttcCntrlDis }
  let r := { r with clkCntrl := ttcClkPsEn ||| ttc2ClkPsVal <<< ttcClkPsValShift }
  let r := { r with cntCntrl := ttcCntrlDis ||| ttcCntrlRst }
  let r := { r with intervalVal := ttc2IntervalTicks }
  -- the read that clears the interrupt status stands here
  let r := { r with ier := 1 }
  { r with cntCntrl := ttcCntrlIntMode }

/-- The cycles from one interrupt to the next, if there are any: the counter runs, in interval mode
and with its interrupt enabled, from zero to the interval. -/
def Ttc.interval (r : Ttc) : Option Nat :=
  if r.cntCntrl &&& ttcCntrlDis = 0 ∧ r.cntCntrl &&& ttcCntrlIntMode ≠ 0 ∧ r.ier &&& 1 ≠ 0 then
    let prescaler := if r.clkCntrl &&& ttcClkPsEn = 0 then 1
      else 2 ^ ((r.clkCntrl >>> ttcClkPsValShift &&& 0xF#32).toNat + 1)
    some ((r.intervalVal.toNat + 1) * prescaler)
  else none

theorem ttc2HwInit_eq (r : Ttc) : ttc2HwInit r = ⟨0x1F#32, 0x2#32, 3052#32, 1#32⟩ := rfl

theorem interval_ttc2HwInit (r : Ttc) : (ttc2HwInit r).interval = some (3053 * 2 ^ 16) := by
  rw [ttc2HwInit_eq]
  decide

/-- `MONITOR_PERIOD_MS`. -/
def monitorPeriodMs : Nat := 2000

/-! ### Without times -/

/-- An armed monitor has seen a beat. -/
theorem beat_of_armed {events : List Event} (unrestarted : restart ∉ events)
    (untriggered : Untriggered events) (armed : (Sys.after events).monitor.armed = true) :
    beat ∈ events := by
  induction events using List.reverseRecOn with
  | nil => exact absurd armed (by decide)
  | append_singleton before e ih =>
    obtain ⟨earlier, -⟩ := (untriggered_concat before e).mp untriggered
    have calm : restart ∉ before := fun here => unrestarted (List.mem_append_left _ here)
    cases e with
    | beat => simp
    | restart => exact absurd (by simp) unrestarted
    | poll =>
      refine List.mem_append_left _ ?_
      rw [Sys.after_concat] at armed
      cases known : (Sys.after before).monitor.armed with
      | true => exact ih calm earlier known
      | false =>
        -- a poll arms the monitor only where it reads something, and the reading is the count
        rw [(poll_disarmed known).2.2.2.1, (heartbeat_eq_count before calm earlier).2] at armed
        by_contra none
        rw [List.count_eq_zero.mpr none] at armed
        exact absurd armed (by decide)

/-- The ninth poll after a last beat triggers. -/
theorem nine_polls_trigger {before : List Event} (unrestarted : restart ∉ before)
    (few : before.count beat + 1 < 2 ^ 32) :
    ¬ Untriggered (before ++ beat :: List.replicate 9 poll) := by
  intro untriggered
  have earlier := ((untriggered_append before _).mp untriggered).1
  have counted : (before ++ [beat]).count beat = before.count beat + 1 := by simp
  have unlapped : Unlapped (before ++ [beat, poll]) := fun early between late split _ => by
    have total := congrArg (List.count beat) split
    simp [List.count_append] at total
    omega
  have visible : (Sys.after (before ++ [beat])).ttc2.heartbeat ≠ 0#32 := by
    rw [(heartbeat_eq_count (before ++ [beat]) (by simpa using unrestarted)
      ((untriggered_concat _ _).mpr ⟨earlier, rfl⟩)).2, counted]
    intro zero
    have := congrArg BitVec.toNat zero
    simp only [BitVec.toNat_ofNat] at this
    omega
  have waiting := (waiting_after_first_poll unrestarted earlier unlapped (.inr visible)).2
  have eighth := (waiting.polls 7 (Nat.le_refl 7)).triggers_iff (Nat.le_refl 7)
  rw [show before ++ beat :: List.replicate 9 poll =
    (before ++ [beat, poll] ++ List.replicate 7 poll) ++ [poll] by simp [List.replicate],
    untriggered_concat, Sys.after_append] at untriggered
  exact absurd (eighth.mpr rfl) (by rw [untriggered.2]; nofun)

/-- No more than eight polls follow a last beat without a trigger. -/
theorem length_le_of_untriggered {before rest : List Event}
    (unrestarted : restart ∉ before ++ beat :: rest) (last : beat ∉ rest)
    (few : before.count beat + 1 < 2 ^ 32) (untriggered : Untriggered (before ++ beat :: rest)) :
    rest.length ≤ 8 := by
  have allPolls : rest = List.replicate rest.length poll := by
    refine List.eq_replicate_of_mem fun e here => ?_
    cases e with
    | beat => exact absurd here last
    | restart => exact absurd (by simp [here]) unrestarted
    | poll => rfl
  by_contra more
  refine nine_polls_trigger (fun here => unrestarted (List.mem_append_left _ here)) few ?_
  rw [allPolls, show rest.length = 9 + (rest.length - 9) by omega,
    ← List.replicate_append_replicate, ← List.cons_append, ← List.append_assoc,
    untriggered_append] at untriggered
  exact untriggered.1

/-! ### With times -/

/-- What lies behind a trigger: a last beat, then nine polls of which the trigger is the last. -/
theorem silence_of_triggers {record : List (Nat × Event)} (unrestarted : restart ∉ events record)
    (few : (events record).count beat < 2 ^ 32) (untriggered : Untriggered (events record))
    (triggered : (Sys.after (events record)).triggers poll = true) :
    ∃ front t₀ quiet t₁ between,
      record = front ++ (t₀, beat) :: quiet ++ (t₁, poll) :: between ∧
      beat ∉ events quiet ∧ beat ∉ events between ∧ (events between).count poll = 7 := by
  obtain ⟨armed, -, -⟩ := triggers_poll_iff.mp triggered
  have seen := beat_of_armed unrestarted untriggered armed
  obtain ⟨before, between, split, seven, equal⟩ :=
    (remembers_after _ untriggered).nine_readings triggered
  obtain ⟨front, t₁, rest, rfl, rfl, rfl⟩ := split_of_events split
  have still : beat ∉ events rest := fun here => by
    rw [split] at unrestarted untriggered few equal
    have beats : 0 < (poll :: events rest).count beat := List.count_pos_iff.mpr (by simp [here])
    rw [List.count_append] at few
    exact reading_ne unrestarted untriggered beats (by omega) equal
  have early : beat ∈ events front := by simpa [still] using seen
  obtain ⟨front, t₀, quiet, rfl, none⟩ := exists_last early
  exact ⟨front, t₀, quiet, t₁, rest, by simp, none, still, seven⟩

/-- **A heartbeat in time triggers no reset**: from the first beat on, the timer's interrupts are
served with a delay of `late` at most, and the polls are late by `jitter` at most. -/
theorem timed_untriggered (timer : Ttc) (perMs late jitter : Nat) (record : List (Nat × Event))
    (ordered : Ordered record)
    (beats : ∀ cycles ∈ (ttc2HwInit timer).interval, Recurs beat (cycles + late) record)
    (polls : Spaced poll (monitorPeriodMs * perMs) jitter record)
    (unrestarted : restart ∉ events record) (few : (events record).count beat < 2 ^ 32)
    (margin : 3053 * 2 ^ 16 + late + jitter < 8 * (monitorPeriodMs * perMs)) :
    Untriggered (events record) := by
  replace beats := beats _ (interval_ttc2HwInit timer)
  induction record using List.reverseRecOn with
  | nil => trivial
  | append_singleton record last ih =>
    obtain ⟨t, e⟩ := last
    have calm : restart ∉ events record := fun here => unrestarted (by simp [here])
    have fewer : (events record).count beat < 2 ^ 32 := by
      rw [events_append, List.count_append] at few
      omega
    have earlier := ih (List.pairwise_append.mp ordered).1 polls.concat calm fewer beats.concat
    rw [events_append, events_cons, events_nil, untriggered_concat]
    refine ⟨earlier, ?_⟩
    by_contra triggered
    rw [Bool.not_eq_false] at triggered
    cases e with
    | beat => exact absurd triggered (by simp [Sys.triggers])
    | restart => exact absurd triggered (by simp [Sys.triggers])
    | poll =>
      obtain ⟨front, t₀, quiet, t₁, between, rfl, none, still, seven⟩ :=
        silence_of_triggers calm fewer earlier triggered
      -- the last beat is no later than the first of the nine polls
      have first : t₀ ≤ t₁ := ordered.le front (t₀, beat) quiet (t₁, poll) (between ++ [(t, poll)])
        (by simp)
      have recent : t ≤ t₀ + (3053 * 2 ^ 16 + late) :=
        beats front t₀ (quiet ++ (t₁, poll) :: between) (t, poll) [] (by simp)
          (by simp [none, still])
      have eight := polls (front ++ (t₀, beat) :: quiet) t₁ between t [] (by simp)
      rw [seven] at eight
      omega

/-- At 100 MHz, eight polls in a row that see no beat. -/
def lateBeat : List (Nat × Event) :=
  (0, beat) :: (List.range 8).map (fun k => (200000000 * k + 1, poll)) ++
    [(1500000000, beat), (1600000001, poll)]

theorem timed_untriggered_lateBeat : Untriggered (events lateBeat) := by
  refine timed_untriggered ⟨0, 0, 0, 0⟩ 100000 1399000000 0 lateBeat (by decide +kernel)
    (fun cycles set => ?_) (by decide +kernel) (by decide) (by decide) (by decide)
  obtain rfl := Option.some.inj ((interval_ttc2HwInit _).symm.trans set)
  decide +kernel

/-- **A heartbeat that stops triggers the reset**: a record that goes on for more than eight periods
after the last beat contains a trigger. -/
theorem timed_triggers (perMs jitter t : Nat) (before rest : List (Nat × Event))
    (ordered : Ordered (before ++ (t, beat) :: rest)) (seen : poll ∈ events before)
    (polls : Recurs poll (monitorPeriodMs * perMs + jitter) (before ++ (t, beat) :: rest))
    (unrestarted : restart ∉ events (before ++ (t, beat) :: rest)) (last : beat ∉ events rest)
    (few : (events before).count beat + 1 < 2 ^ 32)
    (goesOn : ∃ x ∈ rest, t + 8 * (monitorPeriodMs * perMs + jitter) < x.1) :
    ¬ Untriggered (events (before ++ (t, beat) :: rest)) := by
  intro untriggered
  rw [events_append, events_cons] at unrestarted untriggered
  have short := length_le_of_untriggered unrestarted last few untriggered
  obtain ⟨x, inside, beyond⟩ := goesOn
  obtain ⟨first, second, rfl⟩ := List.append_of_mem inside
  have recurs : Recurs poll (monitorPeriodMs * perMs + jitter)
      ((before ++ [(t, beat)]) ++ (first ++ x :: second)) := by
    simpa using polls
  have early : ∀ y ∈ before ++ [(t, beat)], y.1 ≤ t := fun y here => by
    rcases List.mem_append.mp here with here | here
    · exact (List.pairwise_append.mp ordered).2.2 y here (t, beat) (by simp)
    · rw [List.mem_singleton.mp here]
  have reach := recurs.reach (by simp [seen]) early first x second rfl
  have atMost : (events first).count poll + 1 ≤ 8 := by
    have counted : (events first).count poll ≤ (events first).length := List.count_le_length
    simp only [events_append, events_cons, List.length_append, List.length_cons] at short
    omega
  have bound := Nat.mul_le_mul_right (monitorPeriodMs * perMs + jitter) atMost
  omega

/-- At 100 MHz, a last beat and polls that go on. -/
def polledOn : List (Nat × Event) := (List.range 9).map fun k => (200000000 * (k + 1), poll)

theorem timed_triggers_polledOn : ¬ Untriggered (events ([(0, poll)] ++ (1, beat) :: polledOn)) :=
  timed_triggers 100000 0 1 [(0, poll)] polledOn (by decide +kernel) (by decide) (by decide +kernel)
    (by decide) (by decide) (by decide) ⟨(1800000000, poll), by decide, by decide⟩

end TrustzoneWatchdog.Heartbeat
