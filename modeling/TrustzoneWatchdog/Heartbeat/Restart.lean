/-
**Restarts of TF-A: when the monitor fires before the new boot's first beat.**

`TriggerReset` clears the monitor so that the next boot starts with a clean slate; a restart asked
for by somebody else does not. From a restart to the first beat the register reads zero:

* a disarmed monitor stays disarmed, however many polls there are (`silent_disarmed`);
* an armed monitor counts the zeros. It has `slack` polls left: eight when it remembers a value that
  is not zero (the first zero is a change), and otherwise the misses that are still missing
  (`silent_armed_iff`).

`noPrematureTrigger_iff` puts the two together for whole runs.
-/

import TrustzoneWatchdog.Heartbeat.Monitor
import Mathlib.Data.List.TakeWhile

namespace TrustzoneWatchdog.Heartbeat

open TrustzoneWatchdog.Lib.AlarmRun Event

/-- The run ends with a restart of TF-A, asked for by the monitor or by somebody else. -/
def Restarted (events : List Event) : Prop :=
  (∃ before, events = before ++ [restart]) ∨
    ∃ before, events = before ++ [poll] ∧ (Sys.after before).triggers poll = true

/-- **No premature trigger**: between a restart and the first beat of the new boot no poll invokes
`TriggerReset`. -/
def NoPrematureTrigger (events : List Event) : Prop :=
  ∀ before between after, events = before ++ between ++ poll :: after → Restarted before →
    beat ∉ between → (Sys.after (before ++ between)).triggers poll = false

/-- How many polls of a silent register an armed monitor lets pass. -/
def slack (s : Sys) : Nat :=
  if s.monitor.prevHbVal = 0#32 then 7 - s.monitor.missedCount.toNat else 8

theorem slack_restart (s : Sys) : slack (s.step restart) = slack s := rfl

/-- The polls before the next beat. -/
def pollsBeforeBeat (events : List Event) : Nat :=
  (events.takeWhile (· != beat)).count poll

/-! ### Polls of a register at zero -/

/-- A beat-free stretch does not arm a disarmed monitor. -/
theorem silent_disarmed {s : Sys} {events : List Event} (unbeaten : beat ∉ events)
    (zero : s.ttc2.heartbeat = 0#32) (disarmed : s.monitor.armed = false) :
    Silent Sys.step Sys.triggers s events := by
  induction events generalizing s with
  | nil => trivial
  | cons e rest ih =>
    have others : beat ∉ rest := fun here => unbeaten (List.mem_cons_of_mem _ here)
    cases e with
    | beat => exact absurd List.mem_cons_self unbeaten
    | restart => exact ⟨rfl, ih others rfl disarmed⟩
    | poll =>
      obtain ⟨_, reg, _, arms, _⟩ := poll_disarmed disarmed
      refine ⟨?_, ih others (reg.trans zero) (by rw [arms, zero]; rfl)⟩
      rw [← Bool.not_eq_true, triggers_poll_iff, disarmed]
      simp

/-- An armed monitor with no slack left triggers at the next poll of a register at zero. -/
theorem triggers_of_slack_zero {s : Sys} (zero : s.ttc2.heartbeat = 0#32)
    (armed : s.monitor.armed = true) (few : s.monitor.missedCount.toNat ≤ 7) :
    s.triggers poll = true ↔ slack s = 0 := by
  rw [triggers_poll_iff, missThreshold, BitVec.le_def, BitVec.toNat_add, zero]
  unfold slack
  simp only [armed, true_and, BitVec.toNat_ofNat]
  split
  · rename_i remembered
    rw [remembered]
    simp only [true_and]
    omega
  · rename_i remembered
    simp [eq_comm, remembered]

/-- A poll of a register at zero that does not trigger uses up one unit of slack. -/
theorem slack_poll {s : Sys} (zero : s.ttc2.heartbeat = 0#32) (armed : s.monitor.armed = true)
    (few : s.monitor.missedCount.toNat ≤ 7) (untriggered : s.triggers poll = false) :
    slack s = slack (s.step poll) + 1 ∧ (s.step poll).monitor.missedCount.toNat ≤ 7 := by
  obtain ⟨_, _, _, value, misses⟩ := poll_armed armed untriggered
  have left : slack s ≠ 0 := by
    rw [ne_eq, ← triggers_of_slack_zero zero armed few, untriggered]
    decide
  unfold slack at left ⊢
  rw [value, misses, zero]
  by_cases remembered : s.monitor.prevHbVal = 0#32
  · rw [if_pos remembered] at left ⊢
    rw [if_pos rfl, if_pos remembered.symm, BitVec.toNat_add]
    simp only [BitVec.toNat_ofNat]
    omega
  · rw [if_neg remembered, if_pos rfl, if_neg fun same => remembered same.symm]
    decide

/-- **An armed monitor stays silent exactly as long as its slack lasts.** -/
theorem silent_armed_iff {s : Sys} {events : List Event} (unbeaten : beat ∉ events)
    (zero : s.ttc2.heartbeat = 0#32) (armed : s.monitor.armed = true)
    (few : s.monitor.missedCount.toNat ≤ 7) :
    Silent Sys.step Sys.triggers s events ↔ events.count poll ≤ slack s := by
  induction events generalizing s with
  | nil => simp
  | cons e rest ih =>
    have others : beat ∉ rest := fun here => unbeaten (List.mem_cons_of_mem _ here)
    cases e with
    | beat => exact absurd List.mem_cons_self unbeaten
    | restart =>
      have next := ih others (s := s.step restart) rfl armed few
      rw [silent_cons, next, slack_restart]
      simp [Sys.triggers]
    | poll =>
      rw [silent_cons, List.count_cons_self]
      cases triggered : s.triggers poll with
      | true =>
        have spent := (triggers_of_slack_zero zero armed few).mp triggered
        simp [spent]
      | false =>
        obtain ⟨_, reg, armed', _, _⟩ := poll_armed armed triggered
        obtain ⟨used, few'⟩ := slack_poll zero armed few triggered
        rw [ih others (reg.trans zero) armed' few', used]
        simp

/-! ### Whole runs -/

/-- After its own trigger the monitor is disarmed, and silent until a beat. -/
theorem silent_after_trigger {before between : List Event}
    (triggered : (Sys.after before).triggers poll = true) (unbeaten : beat ∉ between) :
    Silent Sys.step Sys.triggers (Sys.after (before ++ [poll])) between := by
  obtain ⟨zero, disarmed, _⟩ := poll_triggered triggered
  rw [Sys.after_concat]
  exact silent_disarmed unbeaten zero disarmed

/-- After somebody else's restart the monitor is silent until the first beat exactly when it was
disarmed or the polls fit into its slack. -/
theorem silent_after_restart_iff (before : List Event) {between : List Event}
    (unbeaten : beat ∉ between) :
    Silent Sys.step Sys.triggers (Sys.after (before ++ [restart])) between ↔
      (Sys.after before).monitor.armed = false ∨ between.count poll ≤ slack (Sys.after before) := by
  rw [Sys.after_concat]
  cases armed : (Sys.after before).monitor.armed with
  | false =>
    have quiet := silent_disarmed (s := (Sys.after before).step restart) unbeaten rfl armed
    simp [quiet]
  | true =>
    have counted := silent_armed_iff (s := (Sys.after before).step restart) unbeaten rfl armed
      (missedCount_le before)
    rw [counted, slack_restart]
    simp

/-- The stretch before the next beat, and what follows it. -/
theorem takeWhile_unbeaten (events : List Event) : beat ∉ events.takeWhile (· != beat) := by
  intro here
  have := List.mem_takeWhile_imp here
  simp at this

theorem takeWhile_append_poll {between : List Event} (after : List Event)
    (unbeaten : beat ∉ between) :
    between.count poll + 1 ≤ pollsBeforeBeat (between ++ poll :: after) := by
  unfold pollsBeforeBeat
  have all : ∀ e ∈ between, (e != beat) = true := fun e here =>
    bne_iff_ne.mpr fun same => unbeaten (same ▸ here)
  rw [List.takeWhile_append_of_pos all, List.takeWhile_cons_of_pos (by decide), List.count_append,
    List.count_cons_self]
  omega

/-- **Exactly when no restart is followed by a premature trigger**: at every restart asked for by
somebody else the monitor is disarmed, or the polls before the next beat fit into the slack it has
at that moment. -/
theorem noPrematureTrigger_iff (events : List Event) :
    NoPrematureTrigger events ↔
      ∀ before after, events = before ++ restart :: after →
        (Sys.after before).monitor.armed = false ∨
          pollsBeforeBeat after ≤ slack (Sys.after before) := by
  constructor
  · intro safe before after split
    have unbeaten := takeWhile_unbeaten after
    refine (silent_after_restart_iff before unbeaten).mp ((silent_iff _ _).mpr ?_)
    intro early e late inside
    rw [← Sys.after_append]
    cases e with
    | beat => exact rfl
    | restart => exact rfl
    | poll =>
      -- the poll lies in the beat-free stretch after the restart, so the run has it there
      refine safe (before ++ [restart]) early (late ++ after.dropWhile (· != beat)) ?_
        (Or.inl ⟨before, rfl⟩) fun here =>
          unbeaten (by rw [inside]; exact List.mem_append_left _ here)
      have whole := List.takeWhile_append_dropWhile (p := (· != beat)) (l := after)
      rw [inside] at whole
      rw [split]
      conv_lhs => rw [← whole]
      simp
  · intro disarmed before between after split restarted unbeaten
    rw [Sys.after_append]
    rcases restarted with ⟨early, rfl⟩ | ⟨early, rfl, triggered⟩
    · have rest : events = early ++ restart :: (between ++ poll :: after) := by rw [split]; simp
      have long := takeWhile_append_poll after unbeaten
      have unbeaten' : beat ∉ between ++ [poll] := by simpa using unbeaten
      have silent := (silent_after_restart_iff early unbeaten').mpr (by
        rcases disarmed early _ rest with low | fits
        · exact Or.inl low
        · right
          rw [List.count_append, List.count_singleton_self]
          omega)
      rw [silent_append, silent_cons] at silent
      exact silent.2.1
    · have unbeaten' : beat ∉ between ++ [poll] := by simpa using unbeaten
      have silent := silent_after_trigger triggered unbeaten'
      rw [silent_append, silent_cons] at silent
      exact silent.2.1

/-- One beat, one poll that arms the monitor, a restart, and a boot that takes nine polls: the ninth
poll resets the system again. -/
theorem premature_trigger :
    ¬ NoPrematureTrigger ([beat, poll, restart] ++ List.replicate 8 poll ++ poll :: []) := by
  intro safe
  have quiet := safe [beat, poll, restart] (List.replicate 8 poll) [] rfl
    (Or.inl ⟨[beat, poll], rfl⟩) (by decide)
  exact absurd quiet (by decide)

end TrustzoneWatchdog.Heartbeat
