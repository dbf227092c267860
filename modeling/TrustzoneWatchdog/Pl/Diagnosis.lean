/-
**What `STATUS` tells about who is fed** (`pl/tmr_wdt_test`).

The board test disables the watchdog, loads it, enables it, and then writes one and the same mask to
`KICK` every second, or nothing at all. After five or seven seconds it compares `STATUS` with a
constant. `FeedingSession` is such a session without the test's figures: any reload value, any
mask, any times of the kicks as long as no window of a full countdown is without one.

* `FeedingSession.controls_eq`, `FeedingSession.load_eq`: the reload value stays in force, and only
  the fed dogs are loaded again.
* `FeedingSession.out_eq`: the dogs that are out.
* `status_diagnosis`: `STATUS` is zero for one full countdown, and from then on names exactly the
  dogs that are not fed.
-/

import TrustzoneWatchdog.Pl.RegisterFile

namespace TrustzoneWatchdog.Pl

open TrustzoneWatchdog.Lib.Clocked TrustzoneWatchdog.Lib.Countdown

/-- The watchdog is enabled in clock `m`, and up to clock `n` its registers see no write but kicks
of the dogs in `fed`. -/
structure FeedingSession (device : Nat → Wdt) (event : Nat → BusEvent) (fed : Dog → Bool)
    (m n : Nat) : Prop where
  disabled : (device m).enable = false
  enabled : (device (m + 1)).enable = true
  /-- Nothing but kicks, all with the same mask. -/
  kicks : ∀ k, m < k → k < n → event k = .idle ∨
    ∃ data strobe, event k = .write 2 data strobe ∧ ∀ dog : Dog, data.getLsbD dog.bit = fed dog
  /-- If any dog is fed, there is a kick in every window of a full countdown. -/
  often : (∃ dog, fed dog = true) → ∀ k, m < k → k + (device (m + 1)).reload.toNat ≤ n →
    ∃ j, k ≤ j ∧ j < k + (device (m + 1)).reload.toNat ∧ event j ≠ .idle

namespace FeedingSession

variable {start : Wdt} {event : Nat → BusEvent} {fed : Dog → Bool} {m n : Nat}

/-- The write that enables the watchdog leaves the reload value alone. -/
theorem reload_enabling {d : Wdt} {e : BusEvent} (disabled : d.enable = false)
    (enabled : (d.clock e).enable = true) : e ≠ .reset ∧ (d.clock e).reload = d.reload := by
  cases e with
  | reset =>
    have cleared : (d.clock .reset).enable = false := by
      simp [Wdt.clock, Wdt.store, Wdt.enable, ofLanes, BusEvent.puts]
    exact absurd (cleared.symm.trans enabled) (by decide)
  | idle =>
    rw [Wdt.enable, Wdt.clock, Wdt.store_idle] at enabled
    exact absurd (disabled.symm.trans enabled) (by decide)
  | write word data strobe =>
    refine ⟨by simp, ?_⟩
    by_cases control : word = 0
    · subst control
      have same : (d.clock (.write 0 data strobe)).regs 1 = d.regs 1 :=
        d.store_other (by decide) data strobe
      rw [Wdt.reload, same, Wdt.reload]
    · have same : (d.clock (.write word data strobe)).regs 0 = d.regs 0 :=
        d.store_other control data strobe
      rw [Wdt.enable, same] at enabled
      exact absurd (disabled.symm.trans enabled) (by decide)

/-- A clock of the session changes neither `CTRL` nor `RELOAD`. -/
theorem controls_clock {d : Wdt} {e : BusEvent}
    (kick : e = .idle ∨ ∃ data strobe, e = .write 2 data strobe ∧
      ∀ dog : Dog, data.getLsbD dog.bit = fed dog) :
    (d.clock e).enable = d.enable ∧ (d.clock e).reload = d.reload := by
  have same : ∀ word : BitVec 3, word ≠ 2 → (d.clock e).regs word = d.regs word := by
    intro word other
    rcases kick with rfl | ⟨data, strobe, rfl, _⟩
    · exact congrFun d.store_idle word
    · exact d.store_other (Ne.symm other) data strobe
  rw [Wdt.enable, Wdt.reload, same 0 (by decide), same 1 (by decide)]
  exact ⟨rfl, rfl⟩

section Session

variable (session : FeedingSession (stateAt Wdt.clock start event) event fed m n)

include session

/-- The watchdog stays enabled, under the same reload value. -/
theorem controls_eq {k : Nat} (after : m < k) (within : k ≤ n) :
    (stateAt Wdt.clock start event k).enable = true ∧
      (stateAt Wdt.clock start event k).reload =
        (stateAt Wdt.clock start event (m + 1)).reload := by
  induction k, after using Nat.le_induction with
  | base => exact ⟨session.enabled, rfl⟩
  | succ k after ih =>
    obtain ⟨enabled, reload⟩ := ih (by omega)
    obtain ⟨enable', reload'⟩ := controls_clock (d := stateAt Wdt.clock start event k)
      (session.kicks k after (by omega))
    exact ⟨enable'.trans enabled, reload'.trans reload⟩

/-- In the clock that enables the watchdog every counter is loaded. -/
theorem load_first (dog : Dog) :
    (stateAt Wdt.clock start event m).load (event m) dog =
      some (stateAt Wdt.clock start event (m + 1)).reload := by
  obtain ⟨_, reload⟩ := reload_enabling session.disabled session.enabled
  rw [Wdt.load, session.disabled, stateAt_succ, reload]
  simp

/-- From then on a dog is loaded in the clocks with a kick, if it is fed. -/
theorem load_eq {k : Nat} (after : m < k) (within : k < n) (dog : Dog) :
    (stateAt Wdt.clock start event k).load (event k) dog =
      if fed dog = true ∧ event k ≠ .idle then
        some (stateAt Wdt.clock start event (m + 1)).reload else none := by
  obtain ⟨enabled, reload⟩ := session.controls_eq after within.le
  rw [Wdt.load, enabled, reload]
  rcases session.kicks k after within with idle | ⟨data, strobe, written, mask⟩
  · simp [idle, BusEvent.kicks]
  · simp [written, BusEvent.kicks, mask]

/-- A counter at zero was loaded a full countdown ago, in the session. -/
theorem countdown_of_zero {dog : Dog} (later : m < n)
    (zero : (stateAt Wdt.clock start event n).counter dog = 0) :
    ∃ j, m ≤ j ∧ j + 1 + (stateAt Wdt.clock start event (m + 1)).reload.toNat ≤ n ∧
      ∀ k, j < k → k < n → (stateAt Wdt.clock start event k).load (event k) dog = none := by
  have runs : RunsDown (fun k => (stateAt Wdt.clock start event k).counter dog)
      (fun k => (stateAt Wdt.clock start event k).load (event k) dog) := fun _ => rfl
  have first := session.load_first dog
  obtain ⟨j, value, isValue, used, quiet⟩ := runs.zero_elim zero ⟨m, later, by rw [first]; simp⟩
  have since : m ≤ j := by
    by_contra before
    exact absurd (first.symm.trans (quiet m (by omega) later)) (by simp)
  refine ⟨j, since, ?_, quiet⟩
  suffices value = (stateAt Wdt.clock start event (m + 1)).reload by rwa [← this]
  rcases Nat.eq_or_lt_of_le since with rfl | after
  · exact (Option.some.inj (first.symm.trans isValue)).symm
  · rw [session.load_eq after (by omega)] at isValue
    split at isValue
    · exact (Option.some.inj isValue).symm
    · cases isValue

/-- **The dogs that are out**: none for a full countdown, then those that are not fed. -/
theorem out_eq (later : m < n) (dog : Dog) :
    (stateAt Wdt.clock start event n).out dog =
      (!fed dog && decide (m + (stateAt Wdt.clock start event (m + 1)).reload.toNat < n)) := by
  obtain ⟨enabled, _⟩ := session.controls_eq later le_rfl
  rw [Wdt.out, enabled, Bool.true_and, Bool.eq_iff_iff, beq_iff_eq, Bool.and_eq_true,
    Bool.not_eq_true', decide_eq_true_iff]
  constructor
  · intro zero
    obtain ⟨j, since, used, quiet⟩ := session.countdown_of_zero later zero
    refine ⟨?_, by omega⟩
    -- a fed dog would have been kicked in the countdown that follows its last load
    by_contra isFed
    rw [Bool.not_eq_false] at isFed
    obtain ⟨k, atLeast, below, kicked⟩ := session.often ⟨dog, isFed⟩ (j + 1) (by omega) used
    have loaded := quiet k (by omega) (by omega)
    rw [session.load_eq (by omega) (by omega), if_pos ⟨isFed, kicked⟩] at loaded
    cases loaded
  · rintro ⟨starved, long⟩
    have runs : RunsDown (fun k => (stateAt Wdt.clock start event k).counter dog)
        (fun k => (stateAt Wdt.clock start event k).load (event k) dog) := fun _ => rfl
    have full := runs.loaded (session.load_first dog)
    refine runs.starved_eq_zero (m := m + 1) (le_of_eq (congrArg BitVec.toNat full)) (by omega) ?_
    intro k atLeast below
    rw [session.load_eq (by omega) below, if_neg (by simp [starved])]

end Session

end FeedingSession

namespace AxiSlave

/-- **`STATUS` is the diagnosis.** In a feeding session on the bus it is zero for a full countdown
after the watchdog was enabled, and after that it shows exactly the dogs that are not fed, with the
majority and unanimity bits that go with their number. -/
theorem status_diagnosis {start : AxiSlave} {input : Nat → AxiInput} (reset : start.AfterReset)
    (keeps : KeepsAddress (stateAt clock start input) input) {fed : Dog → Bool} {m n : Nat}
    (session : FeedingSession (fun k => (stateAt clock start input k).device)
      (fun k => (stateAt clock start input k).bus (input k)) fed m n) (later : m < n) :
    (stateAt clock start input n).status (input n) = statusWord fun dog =>
      !fed dog && decide (m + (stateAt clock start input (m + 1)).reloadEff.toNat < n) := by
  have same : (fun k => (stateAt clock start input k).device) =
      stateAt Wdt.clock start.device fun k => (stateAt clock start input k).bus (input k) :=
    funext (device_stateAt reset keeps)
  rw [same] at session
  rw [status_eq_statusWord, ← out_device, device_stateAt reset keeps]
  congr 1
  funext dog
  have reload : (stateAt clock start input (m + 1)).reloadEff =
      (deviceAt start input (m + 1)).reload := by
    rw [← device_stateAt reset keeps]
    rfl
  rw [reload]
  exact session.out_eq later dog

/-- The test in small: `RELOAD` 3, `CTRL` 1, then `KICK` 6 over and over, so dog A starves. -/
def starvingA (k : Nat) : AxiInput :=
  if k < 2 then ⟨true, 0x04, true, 3, 0xF, true, true, 0, false, false⟩
  else if k < 5 then ⟨true, 0x00, true, 1, 0xF, true, true, 0, false, false⟩
  else ⟨true, 0x08, true, 6, 0xF, true, true, 0, false, false⟩

theorem keepsAddress_starvingA :
    KeepsAddress (stateAt clock resetState starvingA) starvingA := by
  intro k _ low _
  -- the address only changes in the clocks after an acceptance
  by_cases first : k = 1
  · subst first
    exact absurd low (by decide)
  by_cases second : k = 4
  · subst second
    exact absurd low (by decide)
  unfold starvingA
  split_ifs <;> first | rfl | omega

theorem feedingSession_starvingA :
    FeedingSession (fun k => (stateAt clock resetState starvingA k).device)
      (fun k => (stateAt clock resetState starvingA k).bus (starvingA k))
      (fun dog => decide (dog ≠ .a)) 4 9 where
  disabled := by decide
  enabled := by decide
  kicks := by
    intro k after within
    obtain rfl | rfl | rfl | rfl : k = 5 ∨ k = 6 ∨ k = 7 ∨ k = 8 := by omega
    · exact .inl (by decide)
    · exact .inl (by decide)
    · exact .inr ⟨6, 0xF, by decide, fun dog => by cases dog <;> decide⟩
    · exact .inl (by decide)
  often := by
    have three : (stateAt clock resetState starvingA 5).device.reload.toNat = 3 := by decide
    intro _ k after within
    rw [three] at within ⊢
    exact ⟨7, by omega, by omega, by decide⟩

theorem status_diagnosis_starvingA :
    (stateAt clock resetState starvingA 9).status (starvingA 9) = 1 :=
  (status_diagnosis afterReset_resetState keepsAddress_starvingA feedingSession_starvingA
    (by decide)).trans (by decide)

-- the constants the board test compares with: all fed, each dog starved alone, none fed
example : statusWord (fun _ => false) = 0 := by decide
example : [Dog.a, .b, .c].map (fun x => statusWord fun dog => decide (dog = x)) = [1, 2, 4] := by
  decide
example : statusWord (fun _ => true) = 31 := by decide

end AxiSlave

end TrustzoneWatchdog.Pl
