/-
**One faulty dog does not move the voter.**

A run in which the counter of one dog `x` may be overwritten with any value before every clock, and
whose kick is anything, is the core's run with `struckClock x`. The two healthy counters are the
same down-counters as in a run without faults (`runsDown_healthy`), whatever is written over the
third, and the voter needs two timeouts: fed in time the healthy two are never at zero, starved for
`r` clocks both are. The value the struck counter shows in a clock is left free in the conclusions,
so the outputs are right before and after the overwrite.
-/

import TrustzoneWatchdog.Pl.Core

namespace TrustzoneWatchdog.Pl

open TrustzoneWatchdog.Lib.Clocked TrustzoneWatchdog.Lib.Countdown

variable {w : Nat}

/-- Overwrite one dog's counter. -/
def Core.strike (core : Core w) (dog : Dog) (value : BitVec w) : Core w :=
  match dog with
  | .a => { core with counterA := value }
  | .b => { core with counterB := value }
  | .c => { core with counterC := value }

theorem Core.strike_counter_of_ne (core : Core w) {x y : Dog} (other : y ≠ x) (value : BitVec w) :
    (core.strike x value).counter y = core.counter y := by
  cases x <;> cases y <;> first | rfl | exact absurd rfl other

/-- One clock of a core whose dog `x` may be struck just before the edge. -/
def struckClock (x : Dog) (core : Core w) (input : CoreInput w × Option (BitVec w)) : Core w :=
  match input.2 with
  | some value => (core.strike x value).clock input.1
  | none => core.clock input.1

/-- The run of a core whose dog `x` is struck by `strikes`. -/
def faultyRun (x : Dog) (start : Core w) (input : Nat → CoreInput w)
    (strikes : Nat → Option (BitVec w)) : Nat → Core w :=
  stateAt (struckClock x) start fun n => (input n, strikes n)

/-- The core is out of reset, enabled, and its reload value is `r`. -/
def Held (r : BitVec w) (input : CoreInput w) : Prop :=
  input.rstn = true ∧ input.enable = true ∧ input.reloadVal = r

theorem struckClock_counter {x y : Dog} (other : y ≠ x) (core : Core w)
    (input : CoreInput w × Option (BitVec w)) :
    (struckClock x core input).counter y = tick (core.counter y) (input.1.load y) := by
  unfold struckClock
  split
  · rw [Core.clock_counter, Core.strike_counter_of_ne _ other]
  · rw [Core.clock_counter]

/-- **A healthy dog runs as if nothing were struck.** -/
theorem runsDown_healthy {x y : Dog} (other : y ≠ x) (start : Core w) (input : Nat → CoreInput w)
    (strikes : Nat → Option (BitVec w)) :
    RunsDown (fun n => (faultyRun x start input strikes n).counter y)
      (fun n => (input n).load y) := by
  intro n
  exact struckClock_counter other _ _

theorem Held.load_none {r : BitVec w} {input : CoreInput w} (held : Held r input) {dog : Dog} :
    input.load dog = none ↔ input.kick dog = false := by
  rw [CoreInput.load_eq_none]
  simp [held.1, held.2.1]

theorem Held.load_ne_none {r : BitVec w} {input : CoreInput w} (held : Held r input) {dog : Dog} :
    input.load dog ≠ none ↔ input.kick dog = true := by
  rw [ne_eq, held.load_none, Bool.not_eq_false]

theorem Held.load_value {r : BitVec w} {input : CoreInput w} (held : Held r input) (dog : Dog) :
    input.load dog = none ∨ input.load dog = some r := by
  cases loads : input.load dog with
  | none => exact Or.inl rfl
  | some value => rw [input.load_eq_some dog loads, held.2.2]; exact Or.inr rfl

/-- A healthy dog kicked at most `r` clocks apart never reaches zero. -/
theorem healthy_ne_zero {x y : Dog} (other : y ≠ x) {start : Core w} {input : Nat → CoreInput w}
    {strikes : Nat → Option (BitVec w)} {r : BitVec w} (fresh : start.counter y = r)
    (held : ∀ n, Held r (input n))
    (fed : PulsesWithin r.toNat fun n => (input n).kick y = true) (n : Nat) :
    (faultyRun x start input strikes n).counter y ≠ 0 := by
  have loads : PulsesWithin r.toNat fun m => (input m).load y ≠ none := by
    simpa only [(held _).load_ne_none] using fed
  exact (runsDown_healthy other start input strikes).fed_ne_zero fresh
    (fun m => (held m).load_value y) loads n

/-- A healthy dog left alone for `r` clocks is at zero, and stays there until it is kicked. -/
theorem healthy_eq_zero {x y : Dog} (other : y ≠ x) {start : Core w} {input : Nat → CoreInput w}
    {strikes : Nat → Option (BitVec w)} {r : BitVec w} (fresh : start.counter y = r) {m n : Nat}
    (held : ∀ k ≤ n, Held r (input k)) (long : m + r.toNat ≤ n)
    (alone : ∀ k, m ≤ k → k < n → (input k).kick y = false) :
    (faultyRun x start input strikes n).counter y = 0 := by
  have runs := runsDown_healthy other start input strikes
  have unloaded : ∀ j, m ≤ j → j < n → (input j).load y = none :=
    fun j atLeast below => (held j (by omega)).load_none.mpr (alone j atLeast below)
  -- up to clock `m` the inputs are held, so nothing above `r` was ever loaded
  have small : ((faultyRun x start input strikes m).counter y).toNat ≤ r.toNat := by
    refine runs.le_of_loads_le (congrArg BitVec.toNat fresh).le fun k before value loads => ?_
    rw [(input k).load_eq_some y loads, (held k (by omega)).2.2]
  exact runs.starved_eq_zero small long unloaded

/-- Two healthy dogs that are not at zero keep the voter down, whatever the third shows. -/
theorem voter_down {x : Dog} (core : Core w) (input : CoreInput w)
    (healthy : ∀ y, y ≠ x → core.counter y ≠ 0) (value : BitVec w) :
    (core.strike x value).maj2of3 input = false ∧ (core.strike x value).all3 input = false := by
  have quorumless : (core.strike x value).maj2of3 input = false := by
    rw [← Bool.not_eq_true, maj2of3_iff]
    rintro ⟨y, z, different, first, second⟩
    rw [Core.timedOut_iff] at first second
    by_cases atX : y = x
    · have other : z ≠ x := fun same => different (atX.trans same.symm)
      exact healthy z other (by rw [← core.strike_counter_of_ne other value]; exact second.2)
    · exact healthy y atX (by rw [← core.strike_counter_of_ne atX value]; exact first.2)
  refine ⟨quorumless, ?_⟩
  rw [← Bool.not_eq_true] at quorumless ⊢
  exact fun up => quorumless (maj2of3_of_all3 _ _ up)

/-- Two healthy dogs at zero raise the voter, whatever the third shows. -/
theorem voter_up {x : Dog} (core : Core w) (input : CoreInput w) (enabled : input.enable = true)
    (healthy : ∀ y, y ≠ x → core.counter y = 0) (value : BitVec w) :
    (core.strike x value).maj2of3 input = true := by
  have pair : ∃ y z : Dog, y ≠ x ∧ z ≠ x ∧ y ≠ z := by
    cases x
    · exact ⟨.b, .c, by decide⟩
    · exact ⟨.a, .c, by decide⟩
    · exact ⟨.a, .b, by decide⟩
  obtain ⟨y, z, first, second, different⟩ := pair
  rw [maj2of3_iff]
  refine ⟨y, z, different, ?_, ?_⟩
  · rw [Core.timedOut_iff, Core.strike_counter_of_ne _ first]
    exact ⟨enabled, healthy y first⟩
  · rw [Core.timedOut_iff, Core.strike_counter_of_ne _ second]
    exact ⟨enabled, healthy z second⟩

/-- **The voter tolerates any fault of one dog.** With the healthy dogs freshly loaded with
`r` and the core held enabled at reload value `r`: kicked at most `r` clocks apart they keep
both outputs down in every clock, and from `r` full clocks without a kick of either on `maj_2of3`
is up in every clock until one of them is kicked, for every sequence of strikes on `x`. -/
theorem voter_tolerates_one_fault (x : Dog) (start : Core w) (input : Nat → CoreInput w)
    (strikes : Nat → Option (BitVec w)) (r : BitVec w)
    (fresh : ∀ y, y ≠ x → start.counter y = r) :
    ((∀ n, Held r (input n)) →
      (∀ y, y ≠ x → PulsesWithin r.toNat fun n => (input n).kick y = true) →
      ∀ n value,
        ((faultyRun x start input strikes n).strike x value).maj2of3 (input n) = false ∧
        ((faultyRun x start input strikes n).strike x value).all3 (input n) = false) ∧
    (∀ m n, (∀ k ≤ n, Held r (input k)) → m + r.toNat ≤ n →
      (∀ y, y ≠ x → ∀ k, m ≤ k → k < n → (input k).kick y = false) →
      ∀ value, ((faultyRun x start input strikes n).strike x value).maj2of3 (input n) = true) := by
  constructor
  · intro held fed n value
    exact voter_down _ _ (fun y other => healthy_ne_zero other (fresh y other) held (fed y other) n)
      value
  · intro m n held long alone value
    exact voter_up _ _ (held n le_rfl).2.1
      (fun y other => healthy_eq_zero other (fresh y other) held long (alone y other)) value

/-- Dog A stuck at zero, reload value `2`: the voter stays down while B and C are kicked in every
second clock, and is up from the second clock on when they are not kicked at all. -/
theorem voter_tolerates_one_fault_at_two :
    (∀ n value,
      ((faultyRun .a (⟨0, 2, 2⟩ : Core 32)
          (fun n => ⟨true, true, 2, false, n % 2 == 1, n % 2 == 1⟩) (fun _ => some 0) n).strike
        .a value).maj2of3 ⟨true, true, 2, false, n % 2 == 1, n % 2 == 1⟩ = false) ∧
    (∀ n, 2 ≤ n → ∀ value,
      ((faultyRun .a (⟨0, 2, 2⟩ : Core 32)
          (fun _ => ⟨true, true, 2, false, false, false⟩) (fun _ => some 7) n).strike
        .a value).maj2of3 ⟨true, true, 2, false, false, false⟩ = true) := by
  have fresh : ∀ y : Dog, y ≠ .a → (⟨0, 2, 2⟩ : Core 32).counter y = 2 := by
    intro y other
    cases y
    · exact absurd rfl other
    · rfl
    · rfl
  constructor
  · intro n value
    refine ((voter_tolerates_one_fault .a ⟨0, 2, 2⟩ _ (fun _ => some 0) 2 fresh).1
      (fun n => ⟨rfl, rfl, rfl⟩) ?_ n value).1
    intro y other
    have odd : PulsesWithin 2 fun n => (n % 2 == 1) = true :=
      ⟨⟨1, by decide, by decide⟩, fun n here => ⟨2, by decide, by decide, by simpa using here⟩⟩
    cases y
    · exact absurd rfl other
    · exact odd
    · exact odd
  · intro n late value
    refine (voter_tolerates_one_fault .a ⟨0, 2, 2⟩ _ (fun _ => some 7) 2 fresh).2 0 n
      (fun k _ => ⟨rfl, rfl, rfl⟩) (by simpa using late) ?_ value
    intro y other k _ _
    cases y <;> rfl

end TrustzoneWatchdog.Pl
