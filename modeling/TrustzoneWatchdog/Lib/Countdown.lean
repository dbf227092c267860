/-
**Down-counters that stop at zero.**

A `w`-bit count is replaced by a value in a load clock and runs down by one, stopping at zero, in
every other. `RunsDown count load` says that a sequence of counts does this; which machine the
counts are read from does not matter.

* `RunsDown.quiet`: `k` clocks without a load take `k` off the count, truncated at zero.
* `RunsDown.since_load`: the count is the value last loaded less the clocks since, truncated.
* `RunsDown.zero_elim`: a count found at zero was last loaded with a value that all the clocks
  since have used up.
* `RunsDown.fed_ne_zero`: loads of `r` at most `r` clocks apart never let the count reach zero.
* `RunsDown.starved_eq_zero`: `r` clocks without a load empty a count that is at most `r`, which it
  is when nothing above `r` was ever loaded (`RunsDown.le_of_loads_le`).
-/

import TrustzoneWatchdog.Lib.Clocked
import Mathlib.Data.BitVec

namespace TrustzoneWatchdog.Lib.Countdown

open TrustzoneWatchdog.Lib.Clocked

variable {w : Nat}

/-- One clock: a load replaces the count, otherwise it runs down and stops at zero. -/
def tick (count : BitVec w) : Option (BitVec w) → BitVec w
  | some value => value
  | none => if count ≠ 0 then count - 1 else count

theorem toNat_tick_none (count : BitVec w) : (tick count none).toNat = count.toNat - 1 := by
  unfold tick
  by_cases zero : count = 0
  · simp [zero]
  · rw [if_pos zero]
    have positive : 0 < count.toNat := by
      rw [Nat.pos_iff_ne_zero]
      exact fun empty => zero (BitVec.eq_of_toNat_eq (by simpa using empty))
    have width : 1 < 2 ^ w := lt_of_le_of_lt positive count.isLt
    have one : (1 : BitVec w).toNat = 1 := by simp [Nat.mod_eq_of_lt width]
    rw [BitVec.toNat_sub_of_le (by rw [BitVec.le_def, one]; exact positive), one]

/-- A sequence of counts that is loaded where `load` says and runs down elsewhere. -/
def RunsDown (count : Nat → BitVec w) (load : Nat → Option (BitVec w)) : Prop :=
  ∀ n, count (n + 1) = tick (count n) (load n)

/-- The pulses come at most `r` clocks apart, the first within `r` clocks of the start. -/
def PulsesWithin (r : Nat) (pulse : Nat → Prop) : Prop :=
  (∃ n < r, pulse n) ∧ ∀ n, pulse n → ∃ k, 0 < k ∧ k ≤ r ∧ pulse (n + k)

namespace RunsDown

variable {count : Nat → BitVec w} {load : Nat → Option (BitVec w)}

/-- `k` clocks without a load take `k` off the count. -/
theorem quiet (runs : RunsDown count load) (m k : Nat)
    (unloaded : ∀ j, m ≤ j → j < m + k → load j = none) :
    (count (m + k)).toNat = (count m).toNat - k := by
  induction k with
  | zero => simp
  | succ k ih =>
    have last : load (m + k) = none := unloaded (m + k) (by omega) (by omega)
    have before := ih fun j atLeast below => unloaded j atLeast (by omega)
    rw [← Nat.add_assoc, runs (m + k), last, toNat_tick_none, before]
    omega

/-- The clock after a load holds the loaded value. -/
theorem loaded (runs : RunsDown count load) {m : Nat} {value : BitVec w}
    (here : load m = some value) : count (m + 1) = value := by
  rw [runs m, here, tick]

/-- **The count is what was last loaded less the clocks since.** -/
theorem since_load (runs : RunsDown count load) {m : Nat} {value : BitVec w}
    (here : load m = some value) (k : Nat)
    (unloaded : ∀ j, m < j → j < m + 1 + k → load j = none) :
    (count (m + 1 + k)).toNat = value.toNat - k := by
  rw [runs.quiet (m + 1) k fun j atLeast below => unloaded j (by omega) below, runs.loaded here]

/-- **A count at zero has used up what it was last loaded with.** -/
theorem zero_elim (runs : RunsDown count load) {n : Nat} (zero : count n = 0)
    (once : ∃ m < n, load m ≠ none) :
    ∃ m value, load m = some value ∧ m + 1 + value.toNat ≤ n ∧
      ∀ j, m < j → j < n → load j = none := by
  obtain ⟨m, before, here, last⟩ := exists_last (fun m => load m ≠ none) once
  obtain ⟨value, isValue⟩ := Option.ne_none_iff_exists'.mp here
  have unloaded : ∀ j, m < j → j < n → load j = none :=
    fun j after below => not_not.mp (last j after below)
  have left := runs.since_load isValue (n - (m + 1)) fun j after below =>
    unloaded j after (by omega)
  rw [show m + 1 + (n - (m + 1)) = n by omega, zero] at left
  simp only [BitVec.ofNat_eq_ofNat, BitVec.toNat_ofNat, Nat.zero_mod] at left
  exact ⟨m, value, isValue, by omega, unloaded⟩

/-- **Fed in time, the count never reaches zero.** -/
theorem fed_ne_zero (runs : RunsDown count load) {value : BitVec w} (fresh : count 0 = value)
    (loads : ∀ n, load n = none ∨ load n = some value)
    (fed : PulsesWithin value.toNat fun n => load n ≠ none) (n : Nat) : count n ≠ 0 := by
  intro zero
  obtain ⟨⟨first, soon, firstLoad⟩, again⟩ := fed
  by_cases once : ∃ m < n, load m ≠ none
  · obtain ⟨m, loadedValue, isValue, used, unloaded⟩ := runs.zero_elim zero once
    have here : load m ≠ none := by rw [isValue]; simp
    have same : loadedValue = value := by
      rcases loads m with absent | present
      · exact absurd absent here
      · exact Option.some.inj (isValue.symm.trans present)
    subst same
    -- the next load is at most `value` clocks later, which is before clock `n`
    obtain ⟨k, positive, within, next⟩ := again m here
    exact next (unloaded (m + k) (by omega) (by omega))
  · have unloaded : ∀ j, 0 ≤ j → j < 0 + n → load j = none := fun j _ below =>
      not_not.mp fun loads => once ⟨j, by omega, loads⟩
    have left := runs.quiet 0 n unloaded
    rw [Nat.zero_add, zero, fresh] at left
    simp only [BitVec.ofNat_eq_ofNat, BitVec.toNat_ofNat, Nat.zero_mod] at left
    exact firstLoad (unloaded first (by omega) (by omega))

/-- **Starved for `r` clocks, a count of at most `r` is empty.** -/
theorem starved_eq_zero (runs : RunsDown count load) {r m n : Nat} (small : (count m).toNat ≤ r)
    (long : m + r ≤ n) (unloaded : ∀ j, m ≤ j → j < n → load j = none) : count n = 0 := by
  have left := runs.quiet m (n - m) fun j atLeast below => unloaded j atLeast (by omega)
  rw [show m + (n - m) = n by omega] at left
  apply BitVec.eq_of_toNat_eq
  simp only [BitVec.ofNat_eq_ofNat, BitVec.toNat_ofNat, Nat.zero_mod]
  omega

/-- A count that starts at most at `r` and was only loaded with as much is at most `r`. -/
theorem le_of_loads_le (runs : RunsDown count load) {r n : Nat} (start : (count 0).toNat ≤ r)
    (loads : ∀ m < n, ∀ value, load m = some value → value.toNat ≤ r) :
    (count n).toNat ≤ r := by
  induction n with
  | zero => exact start
  | succ n ih =>
    have before := ih fun m below => loads m (by omega)
    cases here : load n with
    | none =>
      rw [runs n, here, toNat_tick_none]
      omega
    | some value =>
      rw [runs.loaded here]
      exact loads n (by omega) value here

end RunsDown

end TrustzoneWatchdog.Lib.Countdown
