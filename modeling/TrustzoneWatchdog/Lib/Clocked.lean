/-
**Synchronous machines.**

A machine is a function from the state and the inputs of one clock to the next state; a run is the
machine driven by one input per clock, without end.

* `stateAt` — the state in each clock of a run, before the clock edge that ends it.
* `stateAt_invariant` — what the first state has and every clock keeps, every state has. The step
  may look at the clock number, so an assumption on the inputs of the whole run can be used.
* `stateAt_related` — what relates two first states and is kept by every pair of clocks relates the
  states of two runs.
* `exists_last` — of the clocks before `n` with a property, one is the last.
* `count_succ_toNat` — a signal is counted up by the wire's own value.
* `emitted_append_pending` — a buffer that loses nothing in any clock loses nothing in a run: what
  went in is what came out, in order, and then what is still inside.
* `register_eq_last` — a register holds the last value brought to it.
-/

import Mathlib.Data.Nat.Count
import Mathlib.Data.Nat.Find

namespace TrustzoneWatchdog.Lib.Clocked

variable {σ ι : Type*}

/-- The state in clock `n` of the run from `start` under the inputs `input`. -/
def stateAt (clock : σ → ι → σ) (start : σ) (input : Nat → ι) : Nat → σ
  | 0 => start
  | n + 1 => clock (stateAt clock start input n) (input n)

@[simp] theorem stateAt_zero (clock : σ → ι → σ) (start : σ) (input : Nat → ι) :
    stateAt clock start input 0 = start := rfl

theorem stateAt_succ (clock : σ → ι → σ) (start : σ) (input : Nat → ι) (n : Nat) :
    stateAt clock start input (n + 1) = clock (stateAt clock start input n) (input n) := rfl

/-- **The invariant rule**: one clock at a time, from the first state on. -/
theorem stateAt_invariant {clock : σ → ι → σ} {start : σ} {input : Nat → ι}
    (holds : Nat → σ → Prop) (first : holds 0 start)
    (keeps : ∀ n, holds n (stateAt clock start input n) →
      holds (n + 1) (clock (stateAt clock start input n) (input n))) (n : Nat) :
    holds n (stateAt clock start input n) := by
  induction n with
  | zero => exact first
  | succ n ih => exact keeps n ih

/-- **The two-run rule**: two runs side by side, under inputs of their own. -/
theorem stateAt_related {clock : σ → ι → σ} {start start' : σ} {input input' : Nat → ι}
    (related : σ → σ → Prop) (first : related start start')
    (keeps : ∀ n, related (stateAt clock start input n) (stateAt clock start' input' n) →
      related (clock (stateAt clock start input n) (input n))
        (clock (stateAt clock start' input' n) (input' n))) (n : Nat) :
    related (stateAt clock start input n) (stateAt clock start' input' n) := by
  induction n with
  | zero => exact first
  | succ n ih => exact keeps n ih

/-- Of the clocks before `n` with a property, one is the last. -/
theorem exists_last (holds : Nat → Prop) {n : Nat} (once : ∃ m < n, holds m) :
    ∃ m < n, holds m ∧ ∀ k, m < k → k < n → ¬ holds k := by
  classical
  obtain ⟨m, before, here⟩ := once
  refine ⟨Nat.findGreatest holds (n - 1), ?_, ?_, ?_⟩
  · have := Nat.findGreatest_le (P := holds) (n - 1)
    omega
  · exact Nat.findGreatest_spec (m := m) (by omega) here
  · intro k after below holdsK
    exact Nat.findGreatest_is_greatest after (by omega) holdsK

/-- The clocks in which a wire is up, one clock later. -/
theorem count_succ_toNat (wire : Nat → Bool) (n : Nat) :
    Nat.count (fun k => wire k = true) (n + 1) =
      Nat.count (fun k => wire k = true) n + (wire n).toNat := by
  rw [Nat.count_succ]
  cases wire n <;> rfl

/-! ### What passes through a machine -/

section Streams

variable {α : Type*}

/-- The values of the clocks before `n` that have one, in order. -/
def emitted (value : Nat → Option α) (n : Nat) : List α := (List.range n).filterMap value

theorem emitted_succ (value : Nat → Option α) (n : Nat) :
    emitted value (n + 1) = emitted value n ++ (value n).toList := by
  rw [emitted, List.range_succ, List.filterMap_append]
  cases here : value n <;> simp [emitted, here]

theorem length_emitted (value : Nat → Option α) (n : Nat) :
    (emitted value n).length = Nat.count (fun k => (value k).isSome = true) n := by
  induction n with
  | zero => rfl
  | succ n ih =>
    rw [emitted_succ, List.length_append, ih, count_succ_toNat fun k => (value k).isSome]
    cases value n <;> rfl

/-- **The conservation rule**: nothing is lost, doubled or reordered in a clock, so nothing is in
a run. -/
theorem emitted_append_pending {accepted delivered : Nat → Option α} (pending : Nat → List α)
    (empty : pending 0 = []) (n : Nat)
    (conserves : ∀ k < n, pending k ++ (accepted k).toList =
      (delivered k).toList ++ pending (k + 1)) :
    emitted delivered n ++ pending n = emitted accepted n := by
  induction n with
  | zero => exact empty
  | succ n ih =>
    have before := ih fun k below => conserves k (by omega)
    rw [emitted_succ, emitted_succ, ← before, List.append_assoc, List.append_assoc,
      conserves n (by omega)]

/-- **The register rule**: what a clock replaces by the value it brings, if it brings one, holds
the last value brought. -/
theorem register_eq_last {brings : Nat → Option α} (held : Nat → α)
    (keeps : ∀ k, held (k + 1) = (brings k).getD (held k)) (n : Nat) :
    held n = (emitted brings n).getLast?.getD (held 0) := by
  induction n with
  | zero => rfl
  | succ n ih =>
    rw [keeps n, emitted_succ, List.getLast?_append]
    cases brings n with
    | none => exact ih
    | some value => rfl

end Streams

end TrustzoneWatchdog.Lib.Clocked
