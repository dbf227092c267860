/-
**The heartbeat when several cores take the same tick** (`plat/xilinx/zynqmp/zynqmp_swdt.c`).

The TTC2 interrupt is routed to any core, and the dispatcher only looks at the pending interrupt; it
does not acknowledge it. Until the first core has read `TTC2_ISR_0`, every core that takes the FIQ
runs `ttc2_fiq_handler`, and `++ttc2_hb_seq` is a load and a store without a lock. Here each access
to something shared is a step of its own, and the cores, the ticks and the polls of the PMU come in
any order; only the ticks are so far apart that the handlers of one are over before the next
(`Paced`).

A core that runs alone does what `ttc2FiqHandler` does in one go (`alone_eq`). With several of them
increments get lost, and a late core can even turn the counter back, so that a tick may leave the
register as it was. Still, with `N` cores:

* `Tracks`: within a tick all values lie between the counter before it and `N` above.
* `tracks_run`: a tick moves the counter on by at least one and at most `N`.
* `reading_differs`: after more than `N` ticks the register is not what it was.
* `race_untriggered`: so nine consecutive polls that see more than `N` ticks do not reset.
-/

import TrustzoneWatchdog.Heartbeat.Monitor
import Mathlib.Data.Fintype.Card
import Mathlib.Tactic.Push

set_option linter.unusedSectionVars false

namespace TrustzoneWatchdog.Heartbeat

open TrustzoneWatchdog.Lib.AlarmRun

/-- Where a core is in `ttc2_fiq_handler`. -/
inductive Beat
  | idle
  /-- The dispatcher has seen the interrupt pending. -/
  | dispatched
  /-- `TTC2_ISR_0` has been read, which clears the interrupt. -/
  | acknowledged
  | loaded (seq : BitVec 32)
  | stored (seq : BitVec 32)
  /-- The heartbeat register has been written. -/
  | written
  /-- `ttc2_hb_seq` has been read again, for the beacon. -/
  | reread (seq : BitVec 32)
  deriving DecidableEq, Repr

/-- The system of `Sys` with the interrupt line and the cores. -/
structure Race (Core : Type) where
  sys : Sys
  line : Bool
  place : Core → Beat

inductive RaceEvent (Core : Type)
  /-- TTC2 reaches the end of its interval. -/
  | tick
  /-- A core makes its next step. -/
  | core (c : Core)
  /-- The PMU polls. -/
  | poll
  deriving DecidableEq, Repr

variable {Core : Type} [DecidableEq Core]

def Race.goto (s : Race Core) (c : Core) (p : Beat) : Race Core :=
  { s with place := Function.update s.place c p }

def Sys.setSeq (s : Sys) (seq : BitVec 32) : Sys := { s with ttc2HbSeq := seq }

def Sys.setHeartbeat (s : Sys) (value : BitVec 32) : Sys :=
  { s with ttc2 := { s.ttc2 with heartbeat := value } }

def Sys.setBeacon (s : Sys) (value : BitVec 32) : Sys :=
  { s with ttc2 := { s.ttc2 with fiqBeacon := value } }

/-- The next step of core `c`. -/
def Race.coreStep (s : Race Core) (c : Core) : Race Core :=
  match s.place c with
  | .idle => if s.line then s.goto c .dispatched else s
  | .dispatched => { s.goto c .acknowledged with line := false }
  | .acknowledged => s.goto c (.loaded s.sys.ttc2HbSeq)
  | .loaded seq => { s.goto c (.stored (seq + 1#32)) with sys := s.sys.setSeq (seq + 1#32) }
  | .stored seq => { s.goto c .written with sys := s.sys.setHeartbeat seq }
  | .written => s.goto c (.reread s.sys.ttc2HbSeq)
  | .reread seq => { s.goto c .idle with sys := s.sys.setBeacon seq }

def Race.step (s : Race Core) : RaceEvent Core → Race Core
  | .tick => { s with line := true }
  | .core c => s.coreStep c
  | .poll => { s with sys := s.sys.step .poll }

def Race.init : Race Core where
  sys := Sys.init
  line := false
  place := fun _ => .idle

/-- The system after a list of events. -/
def Race.after (events : List (RaceEvent Core)) : Race Core := run Race.step Race.init events

/-- Whether the event invokes `TriggerReset`. -/
def Race.triggers (s : Race Core) : RaceEvent Core → Bool
  | .poll => s.sys.triggers .poll
  | _ => false

/-- The interrupt has been taken and every handler is over. -/
def Race.Quiet (s : Race Core) : Prop := s.line = false ∧ ∀ c, s.place c = .idle

/-- A core on its own, from the tick on: `ttc2_fiq_handler` in one go. -/
theorem alone_eq {s : Race Core} (quiet : s.Quiet) (c : Core) :
    run Race.step s (.tick :: List.replicate 7 (.core c)) =
      { s with sys := ttc2FiqHandler s.sys } := by
  obtain ⟨line, idle⟩ := quiet
  simp [List.replicate, Race.step, Race.coreStep, idle c, Race.goto, Sys.setSeq, Sys.setHeartbeat,
    Sys.setBeacon, ttc2FiqHandler, line]

/-! ### The values within one tick -/

/-- In the handler, and the counter has not been stored. -/
def Beat.early : Beat → Bool
  | .dispatched | .acknowledged | .loaded _ => true
  | .idle | .stored _ | .written | .reread _ => false

/-- In the handler, and the counter has been stored. -/
def Beat.late : Beat → Bool
  | .stored _ | .written | .reread _ => true
  | .idle | .dispatched | .acknowledged | .loaded _ => false

section Goto

variable (s : Race Core) (c c' : Core) (p : Beat)

@[simp, grind =] theorem Race.goto_place :
    (s.goto c p).place c' = if c' = c then p else s.place c' := by
  simp [Race.goto, Function.update_apply]

@[simp, grind =] theorem Race.goto_sys : (s.goto c p).sys = s.sys := rfl

@[simp, grind =] theorem Race.goto_line : (s.goto c p).line = s.line := rfl

end Goto

section Fields

variable (s : Sys) (v : BitVec 32)

@[simp, grind =] theorem Sys.setSeq_seq : (s.setSeq v).ttc2HbSeq = v := rfl

@[simp, grind =] theorem Sys.setSeq_heartbeat :
    (s.setSeq v).ttc2.heartbeat = s.ttc2.heartbeat := rfl

@[simp, grind =] theorem Sys.setHeartbeat_seq : (s.setHeartbeat v).ttc2HbSeq = s.ttc2HbSeq := rfl

@[simp, grind =] theorem Sys.setHeartbeat_heartbeat : (s.setHeartbeat v).ttc2.heartbeat = v := rfl

@[simp, grind =] theorem Sys.setBeacon_seq : (s.setBeacon v).ttc2HbSeq = s.ttc2HbSeq := rfl

@[simp, grind =] theorem Sys.setBeacon_heartbeat :
    (s.setBeacon v).ttc2.heartbeat = s.ttc2.heartbeat := rfl

end Fields

/-- A 32-bit value that counts between two bounds, before it wraps. -/
def Within (v : BitVec 32) (low high : Nat) : Prop :=
  ∃ x, v = BitVec.ofNat 32 x ∧ low ≤ x ∧ x ≤ high

theorem Within.mono {v : BitVec 32} {low high low' high' : Nat} (within : Within v low high)
    (lower : low' ≤ low) (higher : high ≤ high') : Within v low' high' := by
  obtain ⟨x, rfl, atLeast, atMost⟩ := within
  exact ⟨x, rfl, lower.trans atLeast, atMost.trans higher⟩

theorem Within.succ {v : BitVec 32} {low high : Nat} (within : Within v low high) :
    Within (v + 1#32) (low + 1) (high + 1) := by
  obtain ⟨x, rfl, atLeast, atMost⟩ := within
  exact ⟨x + 1, (BitVec.ofNat_add x 1).symm, Nat.succ_le_succ atLeast, Nat.succ_le_succ atMost⟩

/-! ### What one step of a core can do -/

section Moves

/-- What a step of core `c` can do, with the cores that have stored before and after it. -/
inductive CoreMove (s : Race Core) (c : Core) (done : Finset Core) :
    Race Core → Finset Core → Prop
  | dispatch (here : s.place c = .idle) (pending : s.line = true) :
      CoreMove s c done (s.goto c .dispatched) done
  | acknowledge (here : s.place c = .dispatched) :
      CoreMove s c done { s.goto c .acknowledged with line := false } done
  | load (here : s.place c = .acknowledged) :
      CoreMove s c done (s.goto c (.loaded s.sys.ttc2HbSeq)) done
  | store (seq : BitVec 32) (here : s.place c = .loaded seq) :
      CoreMove s c done
        { s.goto c (.stored (seq + 1#32)) with sys := s.sys.setSeq (seq + 1#32) } (insert c done)
  | write (seq : BitVec 32) (here : s.place c = .stored seq) :
      CoreMove s c done { s.goto c .written with sys := s.sys.setHeartbeat seq } done
  | reread (here : s.place c = .written) :
      CoreMove s c done (s.goto c (.reread s.sys.ttc2HbSeq)) done
  | finish (seq : BitVec 32) (here : s.place c = .reread seq) :
      CoreMove s c done { s.goto c .idle with sys := s.sys.setBeacon seq } done

theorem coreStep_cases (s : Race Core) (c : Core) (done : Finset Core) :
    s.coreStep c = s ∨ ∃ done', CoreMove s c done (s.coreStep c) done' := by
  unfold Race.coreStep
  cases here : s.place c with
  | idle =>
    dsimp only
    split
    · rename_i pending
      exact Or.inr ⟨_, .dispatch here pending⟩
    · exact Or.inl rfl
  | dispatched => exact Or.inr ⟨_, .acknowledge here⟩
  | acknowledged => exact Or.inr ⟨_, .load here⟩
  | loaded seq => exact Or.inr ⟨_, .store seq here⟩
  | stored seq => exact Or.inr ⟨_, .write seq here⟩
  | written => exact Or.inr ⟨_, .reread here⟩
  | reread seq => exact Or.inr ⟨_, .finish seq here⟩

variable {s s' : Race Core} {c : Core} {done done' : Finset Core}

theorem CoreMove.subset (move : CoreMove s c done s' done') : done ⊆ done' := by
  cases move with
  | store => exact Finset.subset_insert c done
  | _ => exact Finset.Subset.refl done

theorem CoreMove.place_other (move : CoreMove s c done s' done') {c' : Core} (other : c' ≠ c) :
    s'.place c' = s.place c' := by
  cases move <;> simp [other]

/-- Only the core that moves can be new among those that have stored. -/
theorem CoreMove.mem_other (move : CoreMove s c done s' done') {c' : Core} (other : c' ≠ c) :
    c' ∈ done' ↔ c' ∈ done := by
  cases move <;> simp [other]

theorem CoreMove.line (move : CoreMove s c done s' done') (low : s.line = false) :
    s'.line = false := by
  cases move <;> simp_all

end Moves

/-! ### What a tick has done so far -/

variable [Fintype Core]

/-- **What a tick has done so far.** Before it the counter stood at `base`; the cores in `done` have
stored theirs; the register is at least `low`, and above `base` once somebody has written it. There
was no tick yet if `t` is zero, and at least one if it is one. -/
structure Tracks (t low base : Nat) (done : Finset Core) (s : Race Core) : Prop where
  seq : Within s.sys.ttc2HbSeq (base + if done.Nonempty then 1 else 0) (base + done.card)
  heartbeat : Within s.sys.ttc2.heartbeat low (base + t * Fintype.card Core)
  renewed : ∀ c ∈ done, (∀ seq, s.place c ≠ .stored seq) →
    Within s.sys.ttc2.heartbeat (base + 1) (base + t * Fintype.card Core)
  loaded : ∀ c seq, s.place c = .loaded seq → Within seq base (base + done.card)
  stored : ∀ c seq, s.place c = .stored seq → Within seq (base + 1) (base + done.card)
  early : ∀ c, (s.place c).early = true → c ∉ done
  late : ∀ c, (s.place c).late = true → c ∈ done
  cleared : ∀ c, s.place c ≠ .idle → s.place c ≠ .dispatched → s.line = false
  served : done.Nonempty → s.line = false
  untouched : t = 0 → done = ∅ ∧ s.Quiet
  handled : t ≠ 0 → s.line = true ∨ done.Nonempty ∨ ∃ c, (s.place c).early = true
  spread : base ≤ low + t * Fintype.card Core
  lowest : low ≤ base + 1
  once : t ≤ 1

theorem tracks_init : Tracks 0 0 0 ∅ (Race.init : Race Core) where
  seq := ⟨0, rfl, le_rfl, le_rfl⟩
  heartbeat := ⟨0, rfl, le_rfl, by omega⟩
  renewed c member := absurd member (Finset.notMem_empty c)
  loaded c seq here := by cases here
  stored c seq here := by cases here
  early c here := by cases here
  late c here := by cases here
  cleared c inside := absurd rfl inside
  served some := absurd some Finset.not_nonempty_empty
  untouched _ := ⟨rfl, rfl, fun _ => rfl⟩
  handled ticked := absurd rfl ticked
  spread := by omega
  lowest := by omega
  once := by omega

variable {t low base : Nat} {done : Finset Core} {s : Race Core}

section Core

variable {c : Core} {s' : Race Core} {done' : Finset Core}

/-- A core moves only while a tick is being handled. -/
theorem Tracks.ticked (tracks : Tracks t low base done s) (move : CoreMove s c done s' done') :
    t = 1 := by
  have once := tracks.once
  have none : t ≠ 0 := by
    intro zero
    obtain ⟨_, line, idle⟩ := tracks.untouched zero
    cases move <;> simp_all
  omega

theorem Tracks.seq_core (tracks : Tracks t low base done s)
    (move : CoreMove s c done s' done') :
    Within s'.sys.ttc2HbSeq (base + if done'.Nonempty then 1 else 0) (base + done'.card) := by
  have before := tracks.seq
  cases move with
  | store seq here =>
    have fresh := tracks.early c (by rw [here]; rfl)
    rw [if_pos (Finset.insert_nonempty c done), Finset.card_insert_of_notMem fresh]
    exact (tracks.loaded c seq here).succ
  | _ => exact before

theorem Tracks.loaded_core (tracks : Tracks t low base done s)
    (move : CoreMove s c done s' done') (c' : Core) (seq : BitVec 32)
    (here' : s'.place c' = .loaded seq) : Within seq base (base + done'.card) := by
  have more := Nat.add_le_add_left (Finset.card_le_card move.subset) base
  by_cases same : c' = c
  · have now := tracks.seq.mono (Nat.le_add_right base _) more
    subst same
    cases move <;> simp_all
  · rw [move.place_other same] at here'
    exact (tracks.loaded c' seq here').mono le_rfl more

theorem Tracks.stored_core (tracks : Tracks t low base done s)
    (move : CoreMove s c done s' done') (c' : Core) (seq : BitVec 32)
    (here' : s'.place c' = .stored seq) : Within seq (base + 1) (base + done'.card) := by
  have more := Nat.add_le_add_left (Finset.card_le_card move.subset) base
  by_cases same : c' = c
  · subst same
    have next := tracks.seq_core move
    cases move <;> simp_all
  · rw [move.place_other same] at here'
    exact (tracks.stored c' seq here').mono le_rfl more

theorem Tracks.heartbeat_core (tracks : Tracks t low base done s)
    (move : CoreMove s c done s' done') :
    Within s'.sys.ttc2.heartbeat low (base + t * Fintype.card Core) := by
  have few := Finset.card_le_univ done
  have ticked := tracks.ticked move
  cases move with
  | write seq here =>
    exact (tracks.stored c seq here).mono tracks.lowest (by rw [ticked]; omega)
  | _ => exact tracks.heartbeat

theorem Tracks.renewed_core (tracks : Tracks t low base done s)
    (move : CoreMove s c done s' done') (c' : Core) (member : c' ∈ done')
    (past : ∀ seq, s'.place c' ≠ .stored seq) :
    Within s'.sys.ttc2.heartbeat (base + 1) (base + t * Fintype.card Core) := by
  have few := Finset.card_le_univ done
  have ticked := tracks.ticked move
  by_cases same : c' = c
  · subst same
    have before := tracks.renewed c'
    cases move with
    | write seq here => exact (tracks.stored c' seq here).mono le_rfl (by rw [ticked]; omega)
    | _ => simp_all
  · rw [move.place_other same] at past
    have before := tracks.renewed c' ((move.mem_other same).mp member) past
    cases move with
    | write seq here => exact (tracks.stored c seq here).mono le_rfl (by rw [ticked]; omega)
    | _ => exact before

/-- A step of a core. -/
theorem Tracks.core (tracks : Tracks t low base done s)
    (move : CoreMove s c done s' done') : Tracks t low base done' s' := by
  have ticked := tracks.ticked move
  refine ⟨tracks.seq_core move, tracks.heartbeat_core move, tracks.renewed_core move,
    tracks.loaded_core move, tracks.stored_core move, ?_, ?_, ?_, ?_, by omega, ?_, tracks.spread,
    tracks.lowest, tracks.once⟩
  · intro c' early
    by_cases same : c' = c
    · subst same
      have before := tracks.early c'
      have served := tracks.served
      cases move with
      | dispatch here pending =>
        intro member
        rw [served ⟨c', member⟩] at pending
        cases pending
      | acknowledge here => exact before (by rw [here]; rfl)
      | load here => exact before (by rw [here]; rfl)
      | store seq here => simp [Beat.early] at early
      | write seq here => simp [Beat.early] at early
      | reread here => simp [Beat.early] at early
      | finish seq here => simp [Beat.early] at early
    · rw [move.place_other same] at early
      exact fun member => tracks.early c' early ((move.mem_other same).mp member)
  · intro c' late
    by_cases same : c' = c
    · subst same
      have before := tracks.late c'
      cases move with
      | dispatch here pending => simp [Beat.late] at late
      | acknowledge here => simp [Beat.late] at late
      | load here => simp [Beat.late] at late
      | store seq here => exact Finset.mem_insert_self c' done
      | write seq here => exact before (by rw [here]; rfl)
      | reread here => exact before (by rw [here]; rfl)
      | finish seq here => simp [Beat.late] at late
    · rw [move.place_other same] at late
      exact (move.mem_other same).mpr (tracks.late c' late)
  · intro c' inside taken
    by_cases same : c' = c
    · subst same
      have before := tracks.cleared c'
      cases move <;> simp_all
    · rw [move.place_other same] at inside taken
      exact move.line (tracks.cleared c' inside taken)
  · intro some
    by_cases old : done.Nonempty
    · exact move.line (tracks.served old)
    · have before := tracks.cleared c
      cases move <;> simp_all
  · intro _
    have before := tracks.late c
    cases move with
    | dispatch here pending => exact Or.inr (Or.inr ⟨c, by simp [Beat.early]⟩)
    | acknowledge here => exact Or.inr (Or.inr ⟨c, by simp [Beat.early]⟩)
    | load here => exact Or.inr (Or.inr ⟨c, by simp [Beat.early]⟩)
    | store seq here => exact Or.inr (Or.inl (Finset.insert_nonempty c done))
    | write seq here => exact Or.inr (Or.inl ⟨c, before (by rw [here]; rfl)⟩)
    | reread here => exact Or.inr (Or.inl ⟨c, before (by rw [here]; rfl)⟩)
    | finish seq here => exact Or.inr (Or.inl ⟨c, before (by rw [here]; rfl)⟩)

end Core

/-- A poll that does not trigger touches neither the counter nor the register. -/
theorem poll_untouched {s : Sys} (untriggered : s.triggers .poll = false) :
    (s.step .poll).ttc2HbSeq = s.ttc2HbSeq ∧ (s.step .poll).ttc2.heartbeat = s.ttc2.heartbeat := by
  cases armed : s.monitor.armed with
  | false => exact ⟨(poll_disarmed armed).1, (poll_disarmed armed).2.1⟩
  | true => exact ⟨(poll_armed armed untriggered).1, (poll_armed armed untriggered).2.1⟩

theorem Tracks.poll (tracks : Tracks t low base done s)
    (untriggered : s.sys.triggers .poll = false) : Tracks t low base done (s.step .poll) := by
  obtain ⟨seq, heartbeat⟩ := poll_untouched untriggered
  exact {
    seq := by
      show Within (s.sys.step .poll).ttc2HbSeq _ _
      rw [seq]
      exact tracks.seq
    heartbeat := by
      show Within (s.sys.step .poll).ttc2.heartbeat _ _
      rw [heartbeat]
      exact tracks.heartbeat
    renewed := fun c member past => by
      show Within (s.sys.step .poll).ttc2.heartbeat _ _
      rw [heartbeat]
      exact tracks.renewed c member past
    loaded := tracks.loaded
    stored := tracks.stored
    early := tracks.early
    late := tracks.late
    cleared := tracks.cleared
    served := tracks.served
    untouched := tracks.untouched
    handled := tracks.handled
    spread := tracks.spread
    lowest := tracks.lowest
    once := tracks.once }

/-- When all handlers of a tick are over, some core has stored. -/
theorem Tracks.nonempty_of_quiet (tracks : Tracks t low base done s) (quiet : s.Quiet)
    (ticked : t ≠ 0) : done.Nonempty := by
  rcases tracks.handled ticked with high | some | ⟨c, early⟩
  · rw [quiet.1] at high
    cases high
  · exact some
  · rw [quiet.2 c] at early
    cases early

/-- **A tick on quiet cores** starts from what the one before it has left: a counter that has moved
on by at least one, unless this is the first tick, and by at most the number of cores. -/
theorem Tracks.tick (tracks : Tracks t low base done s) (quiet : s.Quiet) :
    ∃ low' base', Tracks 1 low' base' ∅ (s.step .tick) ∧ base + t ≤ low' ∧ base + t ≤ base' ∧
      base' ≤ base + t * Fintype.card Core := by
  have few := Finset.card_le_univ done
  have once := tracks.once
  have idle := quiet.2
  obtain ⟨base', value, atLeast, atMost⟩ := tracks.seq
  obtain ⟨low', register, further, above, narrow, spread, most⟩ : ∃ low',
      Within s.sys.ttc2.heartbeat low' (base + t * Fintype.card Core) ∧ base + t ≤ base' ∧
      base + t ≤ low' ∧ low' ≤ base' + 1 ∧ base' ≤ low' + Fintype.card Core ∧
      base' ≤ base + t * Fintype.card Core := by
    rcases Nat.eq_zero_or_pos t with rfl | ticked
    · have spread := tracks.spread
      have lowest := tracks.lowest
      rw [(tracks.untouched rfl).1, Finset.card_empty] at atMost
      exact ⟨low, tracks.heartbeat, by omega, by omega, by omega, by omega, by omega⟩
    · obtain ⟨c, member⟩ := tracks.nonempty_of_quiet quiet (by omega)
      rw [if_pos ⟨c, member⟩] at atLeast
      have cores : t * Fintype.card Core = Fintype.card Core := by
        rw [show t = 1 by omega, Nat.one_mul]
      exact ⟨base + 1, tracks.renewed c member (by simp [idle c]), by omega, by omega, by omega,
        by omega, by omega⟩
  have cores : t * Fintype.card Core ≤ Fintype.card Core := by
    simpa using Nat.mul_le_mul_right (Fintype.card Core) once
  refine ⟨low', base', ?_, above, further, most⟩
  exact {
    seq := ⟨base', value, by simp, by simp⟩
    heartbeat := register.mono le_rfl (by omega)
    renewed := fun c member => absurd member (Finset.notMem_empty c)
    loaded := fun c seq here => absurd ((idle c).symm.trans here) nofun
    stored := fun c seq here => absurd ((idle c).symm.trans here) nofun
    early := fun c _ => Finset.notMem_empty c
    late := fun c late => absurd (show (s.place c).late = true from late) (by rw [idle c]; nofun)
    cleared := fun c inside => absurd (idle c) inside
    served := fun some => absurd some Finset.not_nonempty_empty
    untouched := nofun
    handled := fun _ => Or.inl rfl
    spread := by omega
    lowest := by omega
    once := le_rfl }

/-! ### Whole runs -/

instance (s : Race Core) : Decidable s.Quiet := inferInstanceAs (Decidable (_ ∧ _))

/-- A tick that comes before the handlers of the one before it are over. -/
def Race.hurries (s : Race Core) : RaceEvent Core → Bool
  | .tick => !s.Quiet
  | _ => false

/-- Every tick finds the cores done with the one before. -/
def Paced (events : List (RaceEvent Core)) : Prop :=
  Silent Race.step Race.hurries Race.init events

instance (events : List (RaceEvent Core)) : Decidable (Paced events) :=
  decidableSilent _ _ _ events

/-- `TriggerReset` is not invoked in the run. -/
def RaceUntriggered (events : List (RaceEvent Core)) : Prop :=
  Silent Race.step Race.triggers Race.init events

/-- How far a run gets: it stays within a tick, or every tick of it moves the counter on. -/
structure Advances (ticks t low base t' low' base' : Nat) (cores : Nat) : Prop where
  still : ticks = 0 → t' = t ∧ low' = low ∧ base' = base
  ticked : 0 < ticks → t' = 1
  above : 0 < ticks → base + t + ticks ≤ low' + 1
  further : 0 < ticks → base + t + ticks ≤ base' + 1
  most : 0 < ticks → base' + cores ≤ base + (t + ticks) * cores

/-- **Every tick moves the counter on** by at least one and at most the number of cores. -/
theorem tracks_run (tracks : Tracks t low base done s) (events : List (RaceEvent Core))
    (paced : Silent Race.step Race.hurries s events)
    (untriggered : Silent Race.step Race.triggers s events) :
    ∃ t' low' base' done', Tracks t' low' base' done' (run Race.step s events) ∧
      Advances (events.count .tick) t low base t' low' base' (Fintype.card Core) := by
  induction events using List.reverseRecOn with
  | nil =>
    exact ⟨t, low, base, done, tracks, fun _ => ⟨rfl, rfl, rfl⟩, nofun, nofun, nofun, nofun⟩
  | append_singleton events e ih =>
    rw [silent_append] at paced untriggered
    obtain ⟨t', low', base', done', tracks', advances⟩ := ih paced.1 untriggered.1
    rw [run_append, run_cons, run_nil]
    cases e with
    | poll =>
      have same : List.count .tick (events ++ [RaceEvent.poll]) = events.count .tick := by simp
      rw [same]
      exact ⟨t', low', base', done', tracks'.poll untriggered.2.1, advances⟩
    | core c =>
      have same : List.count .tick (events ++ [RaceEvent.core c]) = events.count .tick := by simp
      rw [same]
      rcases coreStep_cases (run Race.step s events) c done' with still | ⟨done'', move⟩
      · refine ⟨t', low', base', done', ?_, advances⟩
        show Tracks t' low' base' done' ((run Race.step s events).coreStep c)
        rw [still]
        exact tracks'
      · exact ⟨t', low', base', done'', tracks'.core move, advances⟩
    | tick =>
      have quiet : (run Race.step s events).Quiet := by
        simpa [Race.hurries] using paced.2.1
      obtain ⟨low'', base'', tracks'', above, further, atMost⟩ := tracks'.tick quiet
      refine ⟨1, low'', base'', ∅, tracks'', ?_⟩
      have one : List.count .tick (events ++ [RaceEvent.tick]) = events.count .tick + 1 := by simp
      rw [one]
      rcases Nat.eq_zero_or_pos (events.count RaceEvent.tick) with none | some
      · obtain ⟨rfl, rfl, rfl⟩ := advances.still none
        refine ⟨nofun, fun _ => rfl, fun _ => by omega, fun _ => by omega, fun _ => ?_⟩
        rw [none, Nat.zero_add, Nat.succ_mul]
        omega
      · have before := advances.further some
        have most := advances.most some
        obtain rfl := advances.ticked some
        refine ⟨nofun, fun _ => rfl, fun _ => by omega, fun _ => by omega, fun _ => ?_⟩
        rw [← Nat.add_assoc, Nat.succ_mul]
        omega

/-- **After more ticks than cores the register is not what it was**, also when it wraps. -/
theorem reading_differs [Nonempty Core] (tracks : Tracks t low base done s)
    (events : List (RaceEvent Core)) (paced : Silent Race.step Race.hurries s events)
    (untriggered : Silent Race.step Race.triggers s events)
    (enough : Fintype.card Core < events.count .tick)
    (few : (events.count .tick + 2) * Fintype.card Core < 2 ^ 32) :
    (run Race.step s events).sys.ttc2.heartbeat ≠ s.sys.ttc2.heartbeat := by
  obtain ⟨t', low', base', done', tracks', advances⟩ := tracks_run tracks events paced untriggered
  have cores : 0 < Fintype.card Core := Fintype.card_pos
  obtain ⟨earlier, atFirst, firstLow, firstHigh⟩ := tracks.heartbeat
  obtain ⟨later, atLast, lastLow, lastHigh⟩ := tracks'.heartbeat
  have above := advances.above (by omega)
  have most := advances.most (by omega)
  have spread := tracks.spread
  have once := tracks.once
  rw [advances.ticked (by omega), Nat.one_mul] at lastHigh
  rw [Nat.add_mul] at few most
  have grown : earlier < later := by
    rcases Nat.eq_zero_or_pos t with rfl | ticked
    · omega
    · have first : t * Fintype.card Core = Fintype.card Core := by
        rw [show t = 1 by omega, Nat.one_mul]
      omega
  have bounded : later < earlier + 2 ^ 32 := by
    have first : t * Fintype.card Core ≤ Fintype.card Core := by
      simpa using Nat.mul_le_mul_right (Fintype.card Core) once
    omega
  rw [atFirst, atLast]
  intro equal
  have values := congrArg BitVec.toNat equal
  simp only [BitVec.toNat_ofNat] at values
  omega

/-- **The counter does not fall behind the ticks.** When the handlers of the last of `n` ticks are
over, the counter and the register stand between `n` and `n` times the number of cores, before they
wrap. -/
theorem race_counts (events : List (RaceEvent Core)) (paced : Paced events)
    (untriggered : RaceUntriggered events) (quiet : (Race.after events).Quiet) :
    Within (Race.after events).sys.ttc2HbSeq (events.count .tick)
        (events.count .tick * Fintype.card Core) ∧
      Within (Race.after events).sys.ttc2.heartbeat (events.count .tick)
        (events.count .tick * Fintype.card Core) := by
  obtain ⟨t, low, base, done, tracks, advances⟩ := tracks_run tracks_init events paced untriggered
  rcases Nat.eq_zero_or_pos (events.count RaceEvent.tick) with none | some
  · obtain ⟨rfl, rfl, rfl⟩ := advances.still none
    have seq := tracks.seq
    have heartbeat := tracks.heartbeat
    rw [(tracks.untouched rfl).1] at seq
    rw [none]
    exact ⟨seq.mono (by omega) (by simp), heartbeat.mono (by omega) (by omega)⟩
  · obtain rfl := advances.ticked some
    have further := advances.further some
    have most := advances.most some
    have few := Finset.card_le_univ done
    obtain ⟨c, member⟩ := tracks.nonempty_of_quiet quiet (by decide)
    have seq := tracks.seq
    rw [if_pos ⟨c, member⟩] at seq
    have idle : (run Race.step Race.init events).place c = .idle := quiet.2 c
    have heartbeat := tracks.renewed c member (by simp [idle])
    rw [Nat.zero_add, Nat.zero_add] at most
    exact ⟨seq.mono (by omega) (by omega), heartbeat.mono (by omega) (by omega)⟩

theorem coreStep_monitor (s : Race Core) (c : Core) :
    (s.coreStep c).sys.monitor = s.sys.monitor := by
  unfold Race.coreStep
  cases s.place c with
  | idle =>
    dsimp only
    split <;> rfl
  | _ => rfl

theorem race_remembers (events : List (RaceEvent Core)) (untriggered : RaceUntriggered events) :
    Remembers .poll (fun events => (Race.after events).sys.ttc2.heartbeat) events
      (Race.after events).sys.monitor := by
  refine silent_run_invariant (fun events s => Remembers .poll _ events s.sys.monitor) .init ?_
    events untriggered
  intro before e known silent
  cases e with
  | tick => exact known.push .tick (by simp)
  | core c =>
    have same : ((run Race.step Race.init before).step (.core c)).sys.monitor =
        (run Race.step Race.init before).sys.monitor := coreStep_monitor _ c
    rw [same]
    exact known.push (.core c) (by simp)
  | poll => exact known.step rfl silent

/-- Between a poll and the eighth poll after it there are more ticks than cores, and not so many
that the counter could go round. -/
def RaceFed (events : List (RaceEvent Core)) : Prop :=
  ∀ before between after, events = before ++ .poll :: between ++ .poll :: after →
    between.count .poll = 7 → Fintype.card Core < between.count .tick ∧
      (between.count .tick + 2) * Fintype.card Core < 2 ^ 32

theorem raceFed_iff {events : List (RaceEvent Core)} :
    RaceFed events ↔ ∀ before e between e' after, events = before ++ e :: between ++ e' :: after →
      e = .poll → e' = .poll → between.count .poll = 7 →
        Fintype.card Core < between.count .tick ∧
          (between.count .tick + 2) * Fintype.card Core < 2 ^ 32 := by
  constructor
  · rintro fed before _ between _ after split rfl rfl
    exact fed before between after split
  · intro each before between after split
    exact each before .poll between .poll after split rfl rfl

instance (events : List (RaceEvent Core)) : Decidable (RaceFed events) :=
  decidable_of_iff' _ (raceFed_iff.trans forall_window)

/-- **Racing cores do not cause a reset**: whatever the cores lose of the counter among themselves,
nine consecutive polls that see more ticks than there are cores do not trigger. -/
theorem race_untriggered [Nonempty Core] (events : List (RaceEvent Core)) (paced : Paced events)
    (fed : RaceFed events) : RaceUntriggered events := by
  induction events using List.reverseRecOn with
  | nil => trivial
  | append_singleton events e ih =>
    obtain ⟨pacedEarlier, _⟩ := (silent_append _ _ _).mp paced
    have earlier := ih pacedEarlier fun before between after split =>
      fed before between (after ++ [e]) (by rw [split]; simp)
    refine (silent_append _ _ _).mpr ⟨earlier, ?_, trivial⟩
    cases e with
    | tick => rfl
    | core c => rfl
    | poll =>
      by_contra triggered
      have triggered : (Race.after events).sys.triggers .poll = true :=
        Bool.not_eq_false _ ▸ triggered
      obtain ⟨before, between, rfl, seven, same⟩ :=
        (race_remembers events earlier).nine_readings triggered
      obtain ⟨enough, few⟩ := fed before between [] (by simp) seven
      have ticks : List.count .tick (.poll :: between) = between.count .tick := by simp
      obtain ⟨_, _, _, _, tracks, _⟩ := tracks_run tracks_init before
        ((silent_append _ _ _).mp pacedEarlier).1 ((silent_append _ _ _).mp earlier).1
      have differs := reading_differs tracks (.poll :: between)
        ((silent_append _ _ _).mp pacedEarlier).2 ((silent_append _ _ _).mp earlier).2
        (by rw [ticks]; exact enough) (by rw [ticks]; exact few)
      rw [← run_append] at differs
      exact differs same

/-- Three cores take one tick: core 0 loads before core 1, which stores before core 2 loads; core 0
is the last to store, core 2 the last to write the register. -/
def crowdedTick : List (RaceEvent (Fin 3)) :=
  .tick :: [0, 1, 2, 0, 1, 2, 0, 1, 1, 2, 2, 0, 0, 1, 2, 0, 0, 1, 1, 2, 2].map .core

/-- Three cores bring the counter to one and the register to two: both are in bounds. -/
theorem race_counts_crowdedTick :
    Within (Race.after crowdedTick).sys.ttc2HbSeq 1 3 ∧
      Within (Race.after crowdedTick).sys.ttc2.heartbeat 1 3 :=
  race_counts crowdedTick (by decide +kernel)
    (show Silent Race.step Race.triggers Race.init crowdedTick by decide +kernel)
    (by decide +kernel)

-- The next tick, with one core, then leaves the register as it is.
example : Paced (crowdedTick ++ .tick :: List.replicate 7 (.core 0)) ∧
    (Race.after crowdedTick).sys.ttc2.heartbeat = 2#32 ∧
    (Race.after (crowdedTick ++ .tick :: List.replicate 7 (.core 0))).sys.ttc2.heartbeat =
      2#32 := by
  decide +kernel

/-- Two ticks that one core handles, between the first two of nine polls. -/
def twoTicks : List (RaceEvent (Fin 1)) :=
  .poll :: (List.replicate 2 (.tick :: List.replicate 7 (.core 0))).flatten ++
    List.replicate 8 .poll

theorem race_untriggered_twoTicks : RaceUntriggered twoTicks :=
  race_untriggered twoTicks
    (show Silent Race.step Race.hurries Race.init twoTicks by decide +kernel) (by decide +kernel)

end TrustzoneWatchdog.Heartbeat
