/-
**The watchdog core** (`pl/tmr_wdt_core.v`).

Three down-counters, written out one by one in the source, and a majority voter over their
timeouts. `CNT_WIDTH` stays a parameter. The wires are `Bool`, the counters `BitVec w`; one
application of `Core.clock` is one rising edge of `clk`, all three `always` blocks at once, and the
outputs are read from the registers and the inputs of the same clock.

* `Core.clock_counter`, `runsDown_stateAt`: each dog's counter is a down-counter that stops at zero
  and is loaded with `reload_val` in the clocks with `rstn = 0`, `enable = 0` or its own kick.
* `maj2of3_iff`, `all3_iff`: the voter counts the dogs that have timed out.
-/

import TrustzoneWatchdog.Lib.Countdown

namespace TrustzoneWatchdog.Pl

open TrustzoneWatchdog.Lib.Clocked TrustzoneWatchdog.Lib.Countdown

variable {w : Nat}

/-- The three watchdogs. -/
inductive Dog
  | a
  | b
  | c
  deriving DecidableEq, Repr

/-- The inputs of `tmr_wdt_core` in one clock. -/
structure CoreInput (w : Nat) where
  rstn : Bool
  enable : Bool
  reloadVal : BitVec w
  kickA : Bool
  kickB : Bool
  kickC : Bool
  deriving DecidableEq, Repr

/-- The kick wire of a dog. -/
def CoreInput.kick (input : CoreInput w) : Dog → Bool
  | .a => input.kickA
  | .b => input.kickB
  | .c => input.kickC

/-- The registers of `tmr_wdt_core`. -/
structure Core (w : Nat) where
  counterA : BitVec w
  counterB : BitVec w
  counterC : BitVec w
  deriving DecidableEq, Repr

/-- The counter of a dog, which is also its `cnt_a`, `cnt_b` or `cnt_c` output. -/
def Core.counter (core : Core w) : Dog → BitVec w
  | .a => core.counterA
  | .b => core.counterB
  | .c => core.counterC

/-- One `always` block: the value a counter takes at the clock edge. -/
def counterNext (input : CoreInput w) (kick : Bool) (counter : BitVec w) : BitVec w :=
  if !input.rstn then input.reloadVal
  else if !input.enable then input.reloadVal
  else if kick then input.reloadVal
  else if counter ≠ 0 then counter - 1
  else counter

/-- One rising edge of `clk`. -/
def Core.clock (core : Core w) (input : CoreInput w) : Core w where
  counterA := counterNext input input.kickA core.counterA
  counterB := counterNext input input.kickB core.counterB
  counterC := counterNext input input.kickC core.counterC

/-- A dog's timeout: enabled, and the counter at zero. -/
def timeout (input : CoreInput w) (counter : BitVec w) : Bool :=
  input.enable && counter == 0

def Core.toA (core : Core w) (input : CoreInput w) : Bool := timeout input core.counterA

def Core.toB (core : Core w) (input : CoreInput w) : Bool := timeout input core.counterB

def Core.toC (core : Core w) (input : CoreInput w) : Bool := timeout input core.counterC

/-- At least two dogs have timed out. -/
def Core.maj2of3 (core : Core w) (input : CoreInput w) : Bool :=
  (core.toA input && core.toB input) || (core.toB input && core.toC input) ||
    (core.toA input && core.toC input)

/-- All three dogs have timed out. -/
def Core.all3 (core : Core w) (input : CoreInput w) : Bool :=
  core.toA input && core.toB input && core.toC input

/-- The timeout wire of a dog. -/
def Core.timedOut (core : Core w) (input : CoreInput w) : Dog → Bool
  | .a => core.toA input
  | .b => core.toB input
  | .c => core.toC input

theorem Core.timedOut_eq_timeout (core : Core w) (input : CoreInput w) (dog : Dog) :
    core.timedOut input dog = timeout input (core.counter dog) := by
  cases dog <;> rfl

theorem Core.timedOut_iff (core : Core w) (input : CoreInput w) (dog : Dog) :
    core.timedOut input dog = true ↔ input.enable = true ∧ core.counter dog = 0 := by
  rw [Core.timedOut_eq_timeout, timeout, Bool.and_eq_true, beq_iff_eq]

/-! ### Each counter is a down-counter -/

/-- The load of a dog's counter in one clock, if there is one. -/
def CoreInput.load (input : CoreInput w) (dog : Dog) : Option (BitVec w) :=
  if !input.rstn || !input.enable || input.kick dog then some input.reloadVal else none

theorem CoreInput.load_eq_none (input : CoreInput w) (dog : Dog) :
    input.load dog = none ↔
      input.rstn = true ∧ input.enable = true ∧ input.kick dog = false := by
  unfold CoreInput.load
  cases input.rstn <;> cases input.enable <;> cases input.kick dog <;> simp

theorem CoreInput.load_eq_some (input : CoreInput w) (dog : Dog) {value : BitVec w}
    (loads : input.load dog = some value) : value = input.reloadVal := by
  unfold CoreInput.load at loads
  split at loads
  · exact (Option.some.inj loads).symm
  · cases loads

/-- **The four prioritised rules are a load or a tick.** -/
theorem Core.clock_counter (core : Core w) (input : CoreInput w) (dog : Dog) :
    (core.clock input).counter dog = tick (core.counter dog) (input.load dog) := by
  have same : (core.clock input).counter dog =
      counterNext input (input.kick dog) (core.counter dog) := by cases dog <;> rfl
  rw [same]
  unfold counterNext CoreInput.load
  cases input.rstn <;> cases input.enable <;> cases input.kick dog <;> simp [tick]

/-- In every run of the core each counter runs down between its loads. -/
theorem runsDown_stateAt (start : Core w) (input : Nat → CoreInput w) (dog : Dog) :
    RunsDown (fun n => (stateAt Core.clock start input n).counter dog)
      (fun n => (input n).load dog) := by
  intro n
  exact Core.clock_counter _ _ dog

/-! ### The voter counts timeouts -/

/-- `maj_2of3` is up exactly when two different dogs have timed out. -/
theorem maj2of3_iff (core : Core w) (input : CoreInput w) :
    core.maj2of3 input = true ↔
      ∃ y z, y ≠ z ∧ core.timedOut input y = true ∧ core.timedOut input z = true := by
  unfold Core.maj2of3
  constructor
  · intro up
    simp only [Bool.or_eq_true, Bool.and_eq_true] at up
    rcases up with (⟨first, second⟩ | ⟨first, second⟩) | ⟨first, second⟩
    · exact ⟨.a, .b, by decide, first, second⟩
    · exact ⟨.b, .c, by decide, first, second⟩
    · exact ⟨.a, .c, by decide, first, second⟩
  · rintro ⟨y, z, different, first, second⟩
    cases y <;> cases z <;> simp_all [Core.timedOut]

/-- `all_3` is up exactly when every dog has timed out. -/
theorem all3_iff (core : Core w) (input : CoreInput w) :
    core.all3 input = true ↔ ∀ dog, core.timedOut input dog = true := by
  unfold Core.all3
  constructor
  · intro up dog
    simp only [Bool.and_eq_true] at up
    cases dog
    · exact up.1.1
    · exact up.1.2
    · exact up.2
  · intro up
    simp only [Bool.and_eq_true]
    exact ⟨⟨up .a, up .b⟩, up .c⟩

theorem maj2of3_of_all3 (core : Core w) (input : CoreInput w) (up : core.all3 input = true) :
    core.maj2of3 input = true := by
  rw [all3_iff] at up
  rw [maj2of3_iff]
  exact ⟨.a, .b, by decide, up .a, up .b⟩

end TrustzoneWatchdog.Pl
