/-
**Programs that run in step.**

Two programs on two kinds of state simulate each other through a relation if from related states
they return the same result and leave related states. The rules follow the ways programs are put
together.

* `Simulates.andThen` — a step, and what its result decides on.
* `Simulates.after` — a change on one side that keeps the states related.
* `rounds_related` — loops with related bodies, both still going round or both left.
-/

import TrustzoneWatchdog.Lib.Loop

namespace TrustzoneWatchdog.Lib.Simulation

open Loop

variable {σ τ α β ρ π : Type*} {R : σ → τ → Prop}

/-- From related states the programs return the same result and leave related states. -/
def Simulates (R : σ → τ → Prop) (f : σ → σ × α) (g : τ → τ × α) : Prop :=
  ∀ s t, R s t → R (f s).1 (g t).1 ∧ (f s).2 = (g t).2

theorem Simulates.result (a : α) : Simulates R (fun s => (s, a)) (fun t => (t, a)) :=
  fun _ _ related => ⟨related, rfl⟩

/-- A step, and what its result decides on. -/
theorem Simulates.andThen {f : σ → σ × α} {g : τ → τ × α} {next : α → σ → σ × β}
    {next' : α → τ → τ × β} (first : Simulates R f g) (rest : ∀ a, Simulates R (next a) (next' a)) :
    Simulates R (fun s => next (f s).2 (f s).1) (fun t => next' (g t).2 (g t).1) := by
  intro s t related
  obtain ⟨states, results⟩ := first s t related
  simpa only [results] using rest (g t).2 _ _ states

/-- A change on one side that keeps the states related. -/
theorem Simulates.after (change : σ → σ) {f : σ → σ × α} {g : τ → τ × α}
    (kept : ∀ s t, R s t → R (change s) t) (rest : Simulates R f g) :
    Simulates R (fun s => f (change s)) g :=
  fun s t related => rest _ _ (kept s t related)

/-- Both go round again, or both leave. -/
inductive RoundRelated (R : σ → τ → Prop) (Q : ρ → π → Prop) : Round σ ρ → Round τ π → Prop
  | again {s : σ} {t : τ} (related : R s t) : RoundRelated R Q (.again s) (.again t)
  | leave {r : ρ} {p : π} (related : Q r p) : RoundRelated R Q (.leave r) (.leave p)

/-- **Loops with related bodies** are both still going round or have both left. -/
theorem rounds_related {Q : ρ → π → Prop} {body : σ → Round σ ρ} {body' : τ → Round τ π}
    (bodies : ∀ s t, R s t → RoundRelated R Q (body s) (body' t)) (n : Nat) {s : σ} {t : τ}
    (related : R s t) : RoundRelated R Q (rounds body n s) (rounds body' n t) := by
  induction n generalizing s t with
  | zero => exact .again related
  | succ n ih =>
    have here := bodies s t related
    rw [rounds, rounds]
    generalize body s = first at here ⊢
    generalize body' t = second at here ⊢
    cases here with
    | again related' => exact ih related'
    | leave related' => exact .leave related'

end TrustzoneWatchdog.Lib.Simulation
