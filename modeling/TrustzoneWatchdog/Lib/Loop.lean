/-
**Loops that may not end.**

The body of a loop either goes round again with a new state or leaves with a result.
`rounds body n s` runs it at most `n` times; a loop that does not end is still going round for
every `n`.

* `rounds_of_path`: along a known sequence of states the loop is where the sequence says.
* `rounds_leave`: once it has left it stays left, with the same result.
* `rounds_cases`: after `n` rounds the loop is still on its way or left in one definite round.
-/

import Mathlib.Order.Basic

namespace TrustzoneWatchdog.Lib.Loop

variable {σ ρ : Type*}

/-- What one round of a loop does. -/
inductive Round (σ ρ : Type*)
  | again (s : σ)
  | leave (r : ρ)
  deriving DecidableEq

/-- At most `n` rounds of the loop. -/
def rounds (body : σ → Round σ ρ) : Nat → σ → Round σ ρ
  | 0, s => .again s
  | n + 1, s =>
    match body s with
    | .again s' => rounds body n s'
    | .leave r => .leave r

variable {body : σ → Round σ ρ}

theorem rounds_again {s s' : σ} (here : body s = .again s') (n : Nat) :
    rounds body (n + 1) s = rounds body n s' := by
  rw [rounds, here]

theorem rounds_left {s : σ} {r : ρ} (here : body s = .leave r) (n : Nat) :
    rounds body (n + 1) s = .leave r := by
  rw [rounds, here]

/-- The loop follows a sequence of states as long as each round leads to the next of them. -/
theorem rounds_of_path (path : Nat → σ) {n : Nat}
    (follows : ∀ k < n, body (path k) = .again (path (k + 1))) (m : Nat) :
    rounds body (n + m) (path 0) = rounds body m (path n) := by
  induction n generalizing m with
  | zero => rw [Nat.zero_add]
  | succ n ih =>
    have earlier := ih (fun k below => follows k (by omega)) (m + 1)
    rw [show n + 1 + m = n + (m + 1) by omega, earlier,
      rounds_again (follows n (Nat.lt_succ_self n))]

/-- A loop that follows a sequence to round `n` and leaves there has left for good. -/
theorem rounds_leave (path : Nat → σ) {n : Nat} {r : ρ}
    (follows : ∀ k < n, body (path k) = .again (path (k + 1))) (leaves : body (path n) = .leave r)
    {m : Nat} (later : n < m) : rounds body m (path 0) = .leave r := by
  rw [show m = n + ((m - n - 1) + 1) by omega, rounds_of_path path follows, rounds_left leaves]

/-- **After `n` rounds** a loop along a sequence of states is still on it, or has left it in one
definite round before. -/
theorem rounds_cases (path : Nat → σ) (goesOn : Nat → Prop)
    (follows : ∀ k, (∀ j < k, goesOn j) → goesOn k → body (path k) = .again (path (k + 1)))
    (result : Nat → ρ)
    (leaves : ∀ k, (∀ j < k, goesOn j) → ¬ goesOn k → body (path k) = .leave (result k)) (n : Nat) :
    ((∀ j < n, goesOn j) ∧ rounds body n (path 0) = .again (path n)) ∨
      ∃ k < n, (∀ j < k, goesOn j) ∧ ¬ goesOn k ∧ rounds body n (path 0) = .leave (result k) := by
  induction n with
  | zero => exact Or.inl ⟨fun j below => absurd below (Nat.not_lt_zero j), rfl⟩
  | succ n ih =>
    rcases ih with ⟨all, _⟩ | ⟨k, before, all, stop, _⟩
    · have path' : ∀ k < n, body (path k) = .again (path (k + 1)) := fun k below =>
        follows k (fun j earlier => all j (by omega)) (all k below)
      by_cases here : goesOn n
      · left
        have longer : ∀ k < n + 1, body (path k) = .again (path (k + 1)) :=
          Nat.forall_lt_succ_right.mpr ⟨path', follows n all here⟩
        exact ⟨Nat.forall_lt_succ_right.mpr ⟨all, here⟩, rounds_of_path path longer 0⟩
      · exact Or.inr ⟨n, Nat.lt_succ_self n, all, here,
          rounds_leave path path' (leaves n all here) (Nat.lt_succ_self n)⟩
    · have path' : ∀ j < k, body (path j) = .again (path (j + 1)) := fun j below =>
        follows j (fun i earlier => all i (by omega)) (all j below)
      exact Or.inr ⟨k, by omega, all, stop, rounds_leave path path' (leaves k all stop) (by omega)⟩

end TrustzoneWatchdog.Lib.Loop
