/-
**No timeout without a full countdown.**

Whatever the bus does, and however often the slave is reset, a dog's counter is loaded with the
effective reload value in every clock with reset, `EN = 0` or its own kick, and runs down in every
other. The first clock after a reset has `EN = 0`, so a timeout always has a load before it
(`load_before`), and the effective reload value is never zero (`reloadEff_pos`): the clocks from the
last load to the timeout are a countdown of exactly the value then in force
(`countdown_of_timedOut`).
-/

import TrustzoneWatchdog.Pl.AxiSlave

namespace TrustzoneWatchdog.Pl

open TrustzoneWatchdog.Lib.Clocked TrustzoneWatchdog.Lib.Countdown

namespace AxiSlave

/-- In this clock the dog counts: enabled, not in reset, not kicked. -/
def Counts (s : AxiSlave) (i : AxiInput) (dog : Dog) : Prop :=
  s.enable = true ∧ i.aresetn = true ∧ s.kick i dog = false

theorem counts_iff (s : AxiSlave) (i : AxiInput) (dog : Dog) :
    s.Counts i dog ↔ (s.coreInput i).load dog = none := by
  rw [CoreInput.load_eq_none]
  constructor
  · rintro ⟨enabled, active, unkicked⟩
    exact ⟨active, enabled, unkicked⟩
  · rintro ⟨active, enabled, unkicked⟩
    exact ⟨enabled, active, unkicked⟩

/-- The last clock before `n` in which the dog was loaded. -/
def LastLoad (run : Nat → AxiSlave) (input : Nat → AxiInput) (dog : Dog) (loaded n : Nat) : Prop :=
  loaded < n ∧ ¬ (run loaded).Counts (input loaded) dog ∧
    ∀ k, loaded < k → k < n → (run k).Counts (input k) dog

/-- A full countdown of the reload value in force at the last load lies just before clock `n`. -/
def FullCountdown (run : Nat → AxiSlave) (input : Nat → AxiInput) (dog : Dog) (loaded n : Nat) :
    Prop :=
  LastLoad run input dog loaded n ∧ 1 ≤ (run loaded).reloadEff.toNat ∧
    loaded + (run loaded).reloadEff.toNat < n ∧
    ∀ k, n - (run loaded).reloadEff.toNat ≤ k → k < n → (run k).Counts (input k) dog

/-- A dog that has not timed out shows in none of the `STATUS` bits. -/
theorem exists_timedOut_of_status {s : AxiSlave} {i : AxiInput} (raised : s.status i ≠ 0) :
    ∃ dog, s.timedOut i dog = true := by
  by_contra quiet
  push Not at quiet
  have each : ∀ dog, s.timedOut i dog = false := fun dog => Bool.eq_false_iff.mpr (quiet dog)
  have majority : s.maj2of3 i = false := by
    rw [← Bool.not_eq_true, maj2of3, maj2of3_iff]
    rintro ⟨y, _, _, first, _⟩
    exact quiet y first
  have all : s.all3 i = false := by
    rw [← Bool.not_eq_true, all3, all3_iff]
    exact fun up => quiet .a (up .a)
  apply raised
  unfold status
  rw [each .a, each .b, each .c, majority, all]
  decide

section Run

variable {start : AxiSlave} {input : Nat → AxiInput}

/-- The first clock after a reset is a load clock of every dog. -/
theorem load_before (reset : start.AfterReset) (dog : Dog) :
    ¬ (stateAt clock start input 0).Counts (input 0) dog := by
  rintro ⟨enabled, _⟩
  exact absurd (enabled.symm.trans reset.disabled) (by decide)

/-- **A dog with a load behind it times out only after a full countdown.** -/
theorem countdown_of_timedOut {dog : Dog} {n : Nat}
    (raised : (stateAt clock start input n).timedOut (input n) dog = true)
    (once : ∃ m < n, ¬ (stateAt clock start input m).Counts (input m) dog) :
    ∃ loaded, FullCountdown (stateAt clock start input) input dog loaded n := by
  have zero := ((Core.timedOut_iff _ _ _).mp raised).2
  have loadedOnce : ∃ m < n,
      ((stateAt clock start input m).coreInput (input m)).load dog ≠ none := by
    obtain ⟨m, before, loads⟩ := once
    exact ⟨m, before, fun idle => loads ((counts_iff _ _ _).mpr idle)⟩
  obtain ⟨m, value, loads, used, unloaded⟩ :=
    (runsDown_counter start input dog).zero_elim zero loadedOnce
  have inForce : value = (stateAt clock start input m).reloadEff :=
    CoreInput.load_eq_some _ dog loads
  subst inForce
  have counts : ∀ k, m < k → k < n → (stateAt clock start input k).Counts (input k) dog :=
    fun k after below => (counts_iff _ _ _).mpr (unloaded k after below)
  refine ⟨m, ⟨by omega, ?_, counts⟩, reloadEff_pos _, by omega,
    fun k atLeast below => counts k (by omega) below⟩
  rw [counts_iff, loads]
  simp

/-- **No premature timeout**, for every run from the state a reset clock leaves, under any bus
activity and any further resets. A timeout is preceded by a full countdown of the effective reload
value in force at the dog's last load; and once `EN` has risen, no `STATUS` bit is up before such a
countdown, begun no earlier than the last clock with `EN = 0`, has run. -/
theorem no_premature_timeout (reset : start.AfterReset) :
    (∀ n dog, (stateAt clock start input n).timedOut (input n) dog = true →
      ∃ loaded, FullCountdown (stateAt clock start input) input dog loaded n) ∧
    (∀ t, (stateAt clock start input t).enable = false →
      (stateAt clock start input (t + 1)).enable = true →
      ∀ n, t < n → (stateAt clock start input n).status (input n) ≠ 0 →
      ∃ dog loaded, t ≤ loaded ∧
        FullCountdown (stateAt clock start input) input dog loaded n) := by
  constructor
  · intro n dog raised
    have later : 0 < n := by
      rcases Nat.eq_zero_or_pos n with rfl | positive
      · have enabled := ((Core.timedOut_iff _ _ _).mp raised).1
        exact absurd (enabled.symm.trans reset.disabled) (by decide)
      · exact positive
    exact countdown_of_timedOut raised ⟨0, later, load_before reset dog⟩
  · intro t disabled _ n later raised
    obtain ⟨dog, timedOut⟩ := exists_timedOut_of_status raised
    have loads : ¬ (stateAt clock start input t).Counts (input t) dog :=
      fun counts => absurd (counts.1.symm.trans disabled) (by decide)
    obtain ⟨loaded, countdown⟩ := countdown_of_timedOut timedOut ⟨t, later, loads⟩
    refine ⟨dog, loaded, ?_, countdown⟩
    by_contra earlier
    exact loads (countdown.1.2.2 t (by omega) later)

end Run

/-- `RELOAD = 1` and then `EN = 1` are written after a reset clock: dog A has timed out in clock 6,
and the countdown before it is there. -/
theorem no_premature_timeout_reload_one :
    let start := clock
      ⟨0, false, false, 0, false, 0, false, 0, 0, false, false, fun _ => 5, ⟨0, 0, 0⟩⟩
      ⟨false, 0, false, 0, 0, false, false, 0, false, false⟩
    let input : Nat → AxiInput := fun n =>
      ⟨true, if n < 3 then 0x04 else 0x00, n < 5, 1, 0xF, n < 5, true, 0, false, false⟩
    (stateAt clock start input 6).timedOut (input 6) .a = true ∧
      ∃ loaded, FullCountdown (stateAt clock start input) input .a loaded 6 := by
  intro start input
  have raised : (stateAt clock start input 6).timedOut (input 6) .a = true := by decide
  exact ⟨raised, (no_premature_timeout ⟨_, _, rfl, rfl⟩).1 6 .a raised⟩

end AxiSlave

end TrustzoneWatchdog.Pl
