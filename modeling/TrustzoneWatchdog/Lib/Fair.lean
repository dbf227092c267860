/-
**Machines that finish under fair scheduling.**

A machine takes one event at a time. Every event leaves the state alone or makes a measure smaller,
so what can go wrong is only that nothing moves. A round is a list of events in which, whatever the
state is, some event moves a machine that has not finished; a scheduler that lets every agent act
once in a while produces such rounds.

* `run_eq_or_lt` — a list of events that each did nothing, or a smaller measure.
* `finished_of_rounds` — with more rounds than the measure, the machine has finished.
-/

import TrustzoneWatchdog.Lib.AlarmRun

namespace TrustzoneWatchdog.Lib.Fair

open TrustzoneWatchdog.Lib.AlarmRun

variable {σ ε : Type*}

/-- What every event does: it keeps the invariant, and it does nothing or shrinks the measure. -/
structure Shrinking (step : σ → ε → σ) (holds : σ → Prop) (left : σ → Nat) : Prop where
  keeps : ∀ s e, holds s → holds (step s e)
  shrinks : ∀ s e, holds s → step s e = s ∨ left (step s e) < left s

/-- In every state that has not finished, some event of the round moves. -/
def Moves (step : σ → ε → σ) (holds finished : σ → Prop) (round : List ε) : Prop :=
  ∀ s, holds s → ¬ finished s → ∃ e ∈ round, step s e ≠ s

variable {step : σ → ε → σ} {holds finished : σ → Prop} {left : σ → Nat}

theorem Shrinking.run (machine : Shrinking step holds left) {s : σ} (first : holds s)
    (events : List ε) : holds (run step s events) :=
  run_invariant holds first machine.keeps events

/-- A list of events does nothing at all, or makes the measure smaller. -/
theorem run_eq_or_lt (machine : Shrinking step holds left) {s : σ} (first : holds s)
    (events : List ε) :
    (run step s events = s ∧ ∀ e ∈ events, step s e = s) ∨ left (run step s events) < left s := by
  induction events generalizing s with
  | nil => exact Or.inl ⟨rfl, fun e none => absurd none List.not_mem_nil⟩
  | cons e rest ih =>
    rcases machine.shrinks s e first with still | smaller
    · rw [run_cons, still]
      rcases ih first with ⟨same, each⟩ | smaller
      · exact Or.inl ⟨same, List.forall_mem_cons.mpr ⟨still, each⟩⟩
      · exact Or.inr smaller
    · right
      rcases ih (machine.keeps s e first) with ⟨same, _⟩ | smaller'
      · rw [run_cons, same]
        exact smaller
      · exact Nat.lt_trans smaller' smaller

/-- **Fair rounds finish**: more of them than the measure leave a finished machine. -/
theorem finished_of_rounds (machine : Shrinking step holds left)
    (stays : ∀ s e, holds s → finished s → finished (step s e)) {s : σ} (first : holds s)
    (rounds : List (List ε)) (fair : ∀ round ∈ rounds, Moves step holds finished round)
    (enough : left s < rounds.length) : finished (run step s rounds.flatten) := by
  have done (s : σ) (first : holds s) (finish : finished s) (events : List ε) :
      finished (run step s events) :=
    (run_invariant (fun s => holds s ∧ finished s) ⟨first, finish⟩
      (fun s e both => ⟨machine.keeps s e both.1, stays s e both.1 both.2⟩) events).2
  induction rounds generalizing s with
  | nil => exact absurd enough (Nat.not_lt_zero _)
  | cons round rest ih =>
    by_cases finish : finished s
    · exact done s first finish _
    · rw [List.flatten_cons, run_append]
      refine ih (machine.run first round) (fun round' later => fair round'
        (List.mem_cons_of_mem _ later)) ?_
      obtain ⟨e, member, moves⟩ := fair round List.mem_cons_self s first finish
      rcases run_eq_or_lt machine first round with ⟨_, each⟩ | smaller
      · exact absurd (each e member) moves
      · exact Nat.lt_of_lt_of_le smaller (Nat.lt_succ_iff.mp enough)

end TrustzoneWatchdog.Lib.Fair
