/-
**The countdown law of the core** (`pl/tmr_wdt_core.v`).

What a counter shows is decided by two numbers: the value last loaded, which is `reload_val` in the
load clock, and the clocks since. Before the first load they are the counter found at the start and
all the clocks of the run.

* `Since` — the two numbers of a dog in a clock; there always are such (`exists_since`).
* `Since.counter_eq`: the counter is their truncated difference.
* `Since.timedOut_iff`: the timeout is up exactly when the core is enabled and the value is used up.
* `countdownLaw`: the law for every run of the core.
-/

import TrustzoneWatchdog.Pl.Core

namespace TrustzoneWatchdog.Pl

open TrustzoneWatchdog.Lib.Clocked TrustzoneWatchdog.Lib.Countdown

variable {w : Nat}

/-- A clock in which the dog's counter is loaded. -/
def CoreInput.LoadClock (input : CoreInput w) (dog : Dog) : Prop :=
  input.rstn = false ∨ input.enable = false ∨ input.kick dog = true

theorem CoreInput.load_of_loadClock {input : CoreInput w} {dog : Dog}
    (loads : input.LoadClock dog) : input.load dog = some input.reloadVal := by
  apply if_pos
  rcases loads with reset | disabled | kicked
  · simp [reset]
  · simp [disabled]
  · simp [kicked]

theorem CoreInput.load_of_not_loadClock {input : CoreInput w} {dog : Dog}
    (quiet : ¬ input.LoadClock dog) : input.load dog = none := by
  simpa [CoreInput.LoadClock, CoreInput.load_eq_none] using quiet

section Law

variable (start : Core w) (input : Nat → CoreInput w)

/-- In clock `n` the dog was last loaded with `value`, `clocks` clocks ago. -/
inductive Since (dog : Dog) (n : Nat) : (value : BitVec w) → (clocks : Nat) → Prop
  | load (m : Nat) (before : m < n) (loads : (input m).LoadClock dog)
      (last : ∀ j, m < j → j < n → ¬ (input j).LoadClock dog) :
      Since dog n (input m).reloadVal (n - (m + 1))
  | start (never : ∀ j < n, ¬ (input j).LoadClock dog) : Since dog n (start.counter dog) n

theorem exists_since (dog : Dog) (n : Nat) :
    ∃ value clocks, Since start input dog n value clocks := by
  by_cases once : ∃ m < n, (input m).LoadClock dog
  · obtain ⟨m, before, loads, last⟩ := exists_last (fun m => (input m).LoadClock dog) once
    exact ⟨_, _, .load m before loads last⟩
  · exact ⟨_, _, .start fun j below loads => once ⟨j, below, loads⟩⟩

variable {start input}

namespace Since

variable {dog : Dog} {n clocks : Nat} {value : BitVec w}

/-- **The counter is the truncated difference.** -/
theorem counter_eq (since : Since start input dog n value clocks) :
    ((stateAt Core.clock start input n).counter dog).toNat = value.toNat - clocks := by
  have runs := runsDown_stateAt start input dog
  cases since with
  | load m before loads last =>
    have left := runs.since_load (CoreInput.load_of_loadClock loads) (n - (m + 1))
      fun j after below => CoreInput.load_of_not_loadClock (last j after (by omega))
    rwa [show m + 1 + (n - (m + 1)) = n by omega] at left
  | start never =>
    have left := runs.quiet 0 n fun j _ below =>
      CoreInput.load_of_not_loadClock (never j (by omega))
    rwa [Nat.zero_add] at left

theorem timedOut_iff (since : Since start input dog n value clocks) :
    (stateAt Core.clock start input n).timedOut (input n) dog = true ↔
      (input n).enable = true ∧ value.toNat ≤ clocks := by
  have zero : (stateAt Core.clock start input n).counter dog = 0 ↔ value.toNat ≤ clocks := by
    rw [← BitVec.toNat_inj, since.counter_eq]
    show value.toNat - clocks = 0 % 2 ^ w ↔ value.toNat ≤ clocks
    rw [Nat.zero_mod, Nat.sub_eq_zero_iff_le]
  rw [Core.timedOut_iff, zero]

end Since

/-- Two runs that load the same values in the same clocks show the same counters. -/
theorem counter_congr {other : Nat → CoreInput w} {dog : Dog} {n : Nat}
    (clocks : ∀ j < n, (input j).LoadClock dog ↔ (other j).LoadClock dog)
    (values : ∀ j < n, (input j).LoadClock dog → (input j).reloadVal = (other j).reloadVal) :
    (stateAt Core.clock start input n).counter dog =
      (stateAt Core.clock start other n).counter dog := by
  induction n with
  | zero => rfl
  | succ n ih =>
    have before := ih (fun j below => clocks j (by omega)) fun j below => values j (by omega)
    have load : (input n).load dog = (other n).load dog := by
      by_cases loads : (input n).LoadClock dog
      · rw [CoreInput.load_of_loadClock loads, values n (by omega) loads,
          CoreInput.load_of_loadClock ((clocks n (by omega)).mp loads)]
      · rw [CoreInput.load_of_not_loadClock loads,
          CoreInput.load_of_not_loadClock fun also => loads ((clocks n (by omega)).mpr also)]
    rw [stateAt_succ, stateAt_succ, Core.clock_counter, Core.clock_counter, before, load]

/-- While nothing is loaded, `all_3` waits for the largest counter. -/
theorem all3_of_quiet {n : Nat} (quiet : ∀ dog, ∀ j ≤ n, ¬ (input j).LoadClock dog) :
    (stateAt Core.clock start input n).all3 (input n) = true ↔
      max (max start.counterA.toNat start.counterB.toNat) start.counterC.toNat ≤ n := by
  have enabled : (input n).enable = true := by
    by_contra disabled
    exact quiet .a n le_rfl (Or.inr (Or.inl (Bool.eq_false_iff.mpr disabled)))
  have timeout (dog : Dog) : (stateAt Core.clock start input n).timedOut (input n) dog = true ↔
      (start.counter dog).toNat ≤ n := by
    rw [(Since.start fun j below => quiet dog j (le_of_lt below)).timedOut_iff, enabled]
    simp
  rw [all3_iff, max_le_iff, max_le_iff]
  constructor
  · intro up
    exact ⟨⟨(timeout .a).mp (up .a), (timeout .b).mp (up .b)⟩, (timeout .c).mp (up .c)⟩
  · rintro ⟨⟨a, b⟩, c⟩ dog
    rw [timeout]
    cases dog
    · exact a
    · exact b
    · exact c

variable (start input) in
/-- **The countdown law** of a run. -/
structure CountdownLaw : Prop where
  /-- The counter is what was last loaded less the clocks since, truncated. -/
  counter : ∀ dog n value clocks, Since start input dog n value clocks →
    ((stateAt Core.clock start input n).counter dog).toNat = value.toNat - clocks
  /-- There always is such a value. -/
  defined : ∀ dog n, ∃ value clocks, Since start input dog n value clocks
  /-- Between loads the counter never goes up, so it does not wrap. -/
  noWrap : ∀ dog n, ¬ (input n).LoadClock dog →
    (stateAt Core.clock start input (n + 1)).counter dog ≤
      (stateAt Core.clock start input n).counter dog
  /-- What `reload_val` is between loads has no effect. -/
  reloadVal : ∀ (other : Nat → CoreInput w) dog n,
    (∀ j < n, (input j).LoadClock dog ↔ (other j).LoadClock dog) →
    (∀ j < n, (input j).LoadClock dog → (input j).reloadVal = (other j).reloadVal) →
      (stateAt Core.clock start input n).counter dog =
        (stateAt Core.clock start other n).counter dog
  timedOut : ∀ dog n value clocks, Since start input dog n value clocks →
    ((stateAt Core.clock start input n).timedOut (input n) dog = true ↔
      (input n).enable = true ∧ value.toNat ≤ clocks)
  /-- With no load, `all_3` is up from clock `max(cnt_a, cnt_b, cnt_c)` on, and not before. -/
  all3 : ∀ n, (∀ dog, ∀ j ≤ n, ¬ (input j).LoadClock dog) →
    ((stateAt Core.clock start input n).all3 (input n) = true ↔
      max (max start.counterA.toNat start.counterB.toNat) start.counterC.toNat ≤ n)

/-- **Every run of the core obeys the countdown law**, from any counters and under any inputs. -/
theorem countdownLaw (start : Core w) (input : Nat → CoreInput w) : CountdownLaw start input where
  counter _ _ _ _ since := since.counter_eq
  defined := exists_since start input
  noWrap dog n quiet := by
    rw [BitVec.le_def, stateAt_succ, Core.clock_counter, CoreInput.load_of_not_loadClock quiet,
      toNat_tick_none]
    exact Nat.sub_le _ _
  reloadVal _ _ _ clocks values := counter_congr clocks values
  timedOut _ _ _ _ since := since.timedOut_iff
  all3 _ quiet := all3_of_quiet quiet

end Law

end TrustzoneWatchdog.Pl
