/-
**The warm restart of the APU** (`plat/xilinx/zynqmp/pm_service/pm_svc_main.c`).

When the PMU sees a watchdog event it lets a TTC3 interrupt fire. `trigger_wdt_restart` asks the PMU
which cores are on, stores their number in `active_cores` and raises SGI7 at each of them. In
`zynqmp_sgi7_irq` every core takes `inc_lock`, counts itself off, clears its pending SGIs, gives the
lock back, and then looks at `active_cores` once more, *without* the lock: at zero it asks the PMU
for the restart scope and requests the restart. No core comes back from there.

Each step below is one access to something the cores share, so an interleaving of the cores is a
list of events. A core that is switched off, or never gets scheduled, takes no steps. The TTC3
interrupt goes to one core and is disabled by its handler, so `trigger_wdt_restart` runs once.

* `Move`, `step_cases`: what one step can do.
* `Inv`: the lock, the counter and the places of the cores, kept by every step (`inv_step`).
* `warmRestart_safe`: a restart is requested only when every core that was counted has counted
  itself off, by each core at most once, and at least once by the time they are all parked.
* `warmRestart_completes`: every fair schedule gets there.
-/

import TrustzoneWatchdog.Lib.Fair
import Mathlib.Algebra.Order.BigOperators.Group.Finset
import Mathlib.Data.BitVec
import Mathlib.Data.Fintype.Card

namespace TrustzoneWatchdog.Firmware

open TrustzoneWatchdog.Lib.AlarmRun TrustzoneWatchdog.Lib.Fair

/-- `PLATFORM_CORE_COUNT` is four. -/
abbrev Core := Fin 4

/-- The core the board boots on. -/
def Core.boot : Core := 0

/-- Another core. -/
def Core.second : Core := 1

/-- How far `trigger_wdt_restart` is. -/
inductive Trigger
  /-- The TTC3 interrupt has not come yet. -/
  | armed
  /-- The nodes below this one have been asked for their status. -/
  | asking (node : Nat)
  | acquiring
  | writing
  | unlocking
  /-- The cores from this one on have been sent their SGI. -/
  | raising (core : Nat)
  | returned
  deriving DecidableEq, Repr

/-- Where a core is in `zynqmp_sgi7_irq`. -/
inductive Place
  | outside
  | entered
  | locked
  | decremented
  | cleared
  | released
  /-- It has read `active_cores` and found zero. -/
  | zeroSeen
  /-- It has the scope of the restart. -/
  | scoped (value : BitVec 32)
  /-- In `wfi` for good. -/
  | parked
  deriving DecidableEq, Repr

/-- What the cores share, and where each of them is. -/
structure WarmRestart where
  trigger : Trigger
  triggerCore : Core
  coreCount : Nat
  targetCpuList : Finset Core
  incLock : Option Core
  activeCores : Int
  /-- The cores at which SGI7 is pending. -/
  sgi7 : Finset Core
  place : Core → Place
  /-- The calls of `pm_system_shutdown(PMF_SHUTDOWN_TYPE_RESET, scope)`. -/
  requests : List (Core × BitVec 32)

def WarmRestart.init : WarmRestart where
  trigger := .armed
  triggerCore := 0
  coreCount := 0
  targetCpuList := ∅
  incLock := none
  activeCores := 0
  sgi7 := ∅
  place := fun _ => .outside
  requests := []

def WarmRestart.goto (s : WarmRestart) (c : Core) (p : Place) : WarmRestart :=
  { s with place := Function.update s.place c p }

/-- `(value & RESTART_SCOPE_MASK) >> RESTART_SCOPE_SHIFT`. -/
def restartScope (value : BitVec 32) : BitVec 32 := (value &&& (0x3#32 <<< 3)) >>> 3

/-- The next step of `trigger_wdt_restart`; `word` is `core_status[0]` if the PMU is asked. -/
def WarmRestart.triggerStep (s : WarmRestart) (word : BitVec 32) : WarmRestart :=
  match s.trigger with
  | .armed => s
  | .asking i =>
    if h : i < 4 then
      if word = 1#32 then
        { s with
          trigger := .asking (i + 1)
          coreCount := s.coreCount + 1
          targetCpuList := insert ⟨i, h⟩ s.targetCpuList }
      else { s with trigger := .asking (i + 1) }
    else { s with trigger := .acquiring }
  | .acquiring =>
    if s.incLock = none then { s with incLock := some s.triggerCore, trigger := .writing } else s
  | .writing => { s with activeCores := s.coreCount, trigger := .unlocking }
  | .unlocking => { s with incLock := none, trigger := .raising 4 }
  | .raising 0 => { s with trigger := .returned }
  | .raising (i + 1) =>
    if h : i < 4 then
      if ⟨i, h⟩ ∈ s.targetCpuList then
        { s with trigger := .raising i, sgi7 := insert ⟨i, h⟩ s.sgi7 }
      else { s with trigger := .raising i }
    else { s with trigger := .raising i }
  | .returned => s

/-- The next step of core `c` towards and in `zynqmp_sgi7_irq`; `word` is what `pm_mmio_read` leaves
in `value` if the PMU is asked for the scope. -/
def WarmRestart.handlerStep (s : WarmRestart) (c : Core) (word : BitVec 32) : WarmRestart :=
  match s.place c with
  | .outside => if c ∈ s.sgi7 then s.goto c .entered else s
  | .entered =>
    if s.incLock = none then { s.goto c .locked with incLock := some c } else s
  | .locked => { s.goto c .decremented with activeCores := s.activeCores - 1 }
  | .decremented => { s.goto c .cleared with sgi7 := s.sgi7.erase c }
  | .cleared => { s.goto c .released with incLock := none }
  | .released => if s.activeCores = 0 then s.goto c .zeroSeen else s.goto c .parked
  | .zeroSeen => s.goto c (.scoped (restartScope word))
  | .scoped value => { s.goto c .parked with requests := s.requests ++ [(c, value)] }
  | .parked => s

/-- Core `c` is in `trigger_wdt_restart`, with interrupts masked. -/
def WarmRestart.runsTrigger (s : WarmRestart) (c : Core) : Bool :=
  s.triggerCore = c && s.trigger ≠ .armed && s.trigger ≠ .returned

inductive Event
  /-- Core `c` takes the TTC3 interrupt. -/
  | ttc3 (c : Core)
  /-- Core `c` makes its next step. -/
  | step (c : Core) (word : BitVec 32)
  deriving DecidableEq, Repr

/-- One step of the system. A core that waits for the lock, or for its SGI, stays where it is. -/
def WarmRestart.step (s : WarmRestart) : Event → WarmRestart
  | .ttc3 c =>
    if s.trigger = .armed then { s with trigger := .asking 0, triggerCore := c } else s
  | .step c word => if s.runsTrigger c then s.triggerStep word else s.handlerStep c word

/-- The system after a list of events. -/
def WarmRestart.after (events : List Event) : WarmRestart :=
  run WarmRestart.step WarmRestart.init events

/-! ### What one step can do -/

/-- A step of `trigger_wdt_restart`. -/
inductive TriggerMove (s : WarmRestart) : WarmRestart → Prop
  | take (c : Core) (here : s.trigger = .armed) :
      TriggerMove s { s with trigger := .asking 0, triggerCore := c }
  | count (i : Nat) (small : i < 4) (here : s.trigger = .asking i) :
      TriggerMove s
        { s with
          trigger := .asking (i + 1)
          coreCount := s.coreCount + 1
          targetCpuList := insert ⟨i, small⟩ s.targetCpuList }
  | skip (i : Nat) (here : s.trigger = .asking i) (small : i < 4) :
      TriggerMove s { s with trigger := .asking (i + 1) }
  | asked (i : Nat) (here : s.trigger = .asking i) (all : 4 ≤ i) :
      TriggerMove s { s with trigger := .acquiring }
  | acquire (here : s.trigger = .acquiring) (free : s.incLock = none) :
      TriggerMove s { s with incLock := some s.triggerCore, trigger := .writing }
  | publish (here : s.trigger = .writing) :
      TriggerMove s { s with activeCores := s.coreCount, trigger := .unlocking }
  | unlock (here : s.trigger = .unlocking) :
      TriggerMove s { s with incLock := none, trigger := .raising 4 }
  | raise (i : Nat) (small : i < 4) (here : s.trigger = .raising (i + 1))
      (target : ⟨i, small⟩ ∈ s.targetCpuList) :
      TriggerMove s { s with trigger := .raising i, sgi7 := insert ⟨i, small⟩ s.sgi7 }
  | pass (i : Nat) (here : s.trigger = .raising (i + 1))
      (other : ∀ c ∈ s.targetCpuList, c.val ≠ i) :
      TriggerMove s { s with trigger := .raising i }
  | back (here : s.trigger = .raising 0) : TriggerMove s { s with trigger := .returned }

/-- A step of core `c` towards or in `zynqmp_sgi7_irq`. -/
inductive HandlerMove (s : WarmRestart) (c : Core) : WarmRestart → Prop
  | enter (here : s.place c = .outside) (pending : c ∈ s.sgi7) :
      HandlerMove s c (s.goto c .entered)
  | lock (here : s.place c = .entered) (free : s.incLock = none) :
      HandlerMove s c { s.goto c .locked with incLock := some c }
  | decrement (here : s.place c = .locked) :
      HandlerMove s c { s.goto c .decremented with activeCores := s.activeCores - 1 }
  | clear (here : s.place c = .decremented) :
      HandlerMove s c { s.goto c .cleared with sgi7 := s.sgi7.erase c }
  | release (here : s.place c = .cleared) :
      HandlerMove s c { s.goto c .released with incLock := none }
  | last (here : s.place c = .released) (zero : s.activeCores = 0) :
      HandlerMove s c (s.goto c .zeroSeen)
  | park (here : s.place c = .released) (others : s.activeCores ≠ 0) :
      HandlerMove s c (s.goto c .parked)
  | scope (here : s.place c = .zeroSeen) (word : BitVec 32) :
      HandlerMove s c (s.goto c (.scoped (restartScope word)))
  | request (value : BitVec 32) (here : s.place c = .scoped value) :
      HandlerMove s c { s.goto c .parked with requests := s.requests ++ [(c, value)] }

theorem triggerStep_cases (s : WarmRestart) (word : BitVec 32) :
    s.triggerStep word = s ∨ TriggerMove s (s.triggerStep word) := by
  unfold WarmRestart.triggerStep
  split
  · exact Or.inl rfl
  · rename_i i here
    split
    · rename_i small
      split
      · exact Or.inr (.count i small here)
      · exact Or.inr (.skip i here small)
    · rename_i large
      exact Or.inr (.asked i here (Nat.not_lt.mp large))
  · rename_i here
    split
    · rename_i free
      exact Or.inr (.acquire here free)
    · exact Or.inl rfl
  · rename_i here
    exact Or.inr (.publish here)
  · rename_i here
    exact Or.inr (.unlock here)
  · rename_i here
    exact Or.inr (.back here)
  · rename_i i here
    split
    · rename_i small
      split
      · rename_i target
        exact Or.inr (.raise i small here target)
      · rename_i other
        exact Or.inr (.pass i here fun c target same => other (by
          rwa [show (⟨i, small⟩ : Core) = c from Fin.ext same.symm]))
    · rename_i large
      exact Or.inr (.pass i here fun c _ same => large (same ▸ c.isLt))
  · exact Or.inl rfl

theorem handlerStep_cases (s : WarmRestart) (c : Core) (word : BitVec 32) :
    s.handlerStep c word = s ∨ HandlerMove s c (s.handlerStep c word) := by
  unfold WarmRestart.handlerStep
  split
  · rename_i here
    split
    · rename_i pending
      exact Or.inr (.enter here pending)
    · exact Or.inl rfl
  · rename_i here
    split
    · rename_i free
      exact Or.inr (.lock here free)
    · exact Or.inl rfl
  · rename_i here
    exact Or.inr (.decrement here)
  · rename_i here
    exact Or.inr (.clear here)
  · rename_i here
    exact Or.inr (.release here)
  · rename_i here
    split
    · rename_i zero
      exact Or.inr (.last here zero)
    · rename_i others
      exact Or.inr (.park here others)
  · rename_i here
    exact Or.inr (.scope here word)
  · rename_i value here
    exact Or.inr (.request value here)
  · exact Or.inl rfl

/-- **What one step can do.** -/
theorem step_cases (s : WarmRestart) (e : Event) :
    s.step e = s ∨ TriggerMove s (s.step e) ∨ ∃ c, HandlerMove s c (s.step e) := by
  cases e with
  | ttc3 c =>
    unfold WarmRestart.step
    dsimp only
    split
    · rename_i here
      exact Or.inr (Or.inl (.take c here))
    · exact Or.inl rfl
  | step c word =>
    unfold WarmRestart.step
    dsimp only
    split
    · exact (triggerStep_cases s word).imp_right Or.inl
    · exact (handlerStep_cases s c word).imp_right fun move => Or.inr ⟨c, move⟩

/-! ### The invariant -/

/-- `trigger_wdt_restart` holds `inc_lock`. -/
def Trigger.holds : Trigger → Bool
  | .writing | .unlocking => true
  | _ => false

/-- No SGI has been raised yet. -/
def Trigger.early : Trigger → Bool
  | .raising _ | .returned => false
  | _ => true

/-- `active_cores` has been written. -/
def Trigger.published : Trigger → Bool
  | .unlocking | .raising _ | .returned => true
  | _ => false

/-- The first core whose SGI has been raised if it is a target. -/
def Trigger.raisedFrom : Trigger → Nat
  | .raising i => i
  | .returned => 0
  | _ => 4

/-- The core holds `inc_lock`. -/
def Place.holds : Place → Bool
  | .locked | .decremented | .cleared => true
  | _ => false

/-- The core has counted itself off. -/
def Place.counted : Place → Bool
  | .outside | .entered | .locked => false
  | _ => true

/-- The core has counted itself off and may still request the restart. -/
def Place.deciding : Place → Bool
  | .decremented | .cleared | .released | .zeroSeen | .scoped _ => true
  | _ => false

/-- The core is going to request the restart. -/
def Place.sawZero : Place → Bool
  | .zeroSeen | .scoped _ => true
  | _ => false

/-- The cores that have counted themselves off. -/
def WarmRestart.counted (s : WarmRestart) : Finset Core :=
  Finset.univ.filter fun c => (s.place c).counted = true

/-- What holds in every reachable state. -/
structure Inv (s : WarmRestart) : Prop where
  held : ∀ c, s.incLock = some c ↔
    (s.place c).holds = true ∨ (s.trigger.holds = true ∧ s.triggerCore = c)
  quiet : s.trigger.early = true → (∀ c, s.place c = .outside) ∧ s.sgi7 = ∅ ∧ s.requests = []
  asked : ∀ i, s.trigger = .asking i → ∀ c ∈ s.targetCpuList, c.val < i
  unasked : s.trigger = .armed → s.targetCpuList = ∅
  size : s.coreCount = s.targetCpuList.card
  counter : s.trigger.published = true →
    s.activeCores = (s.targetCpuList.card : Int) - s.counted.card
  targeted : ∀ c, s.place c ≠ .outside ∨ c ∈ s.sgi7 → c ∈ s.targetCpuList
  reached : ∀ c ∈ s.targetCpuList, s.trigger.raisedFrom ≤ c.val → s.place c = .outside →
    c ∈ s.sgi7
  complete : (∃ c, (s.place c).sawZero = true) ∨ s.requests ≠ [] →
    ∀ c ∈ s.targetCpuList, (s.place c).counted = true
  deciding : s.targetCpuList.Nonempty → (∀ c ∈ s.targetCpuList, (s.place c).counted = true) →
    (∃ c, (s.place c).deciding = true) ∨ s.requests ≠ []
  once : (s.requests.map Prod.fst).Nodup ∧ ∀ r ∈ s.requests, s.place r.1 = .parked

theorem inv_init : Inv WarmRestart.init where
  held c := by simp [WarmRestart.init, Place.holds, Trigger.holds]
  quiet _ := ⟨fun _ => rfl, rfl, rfl⟩
  asked i here := by cases here
  unasked _ := rfl
  size := rfl
  counter early := by cases early
  targeted c := by simp [WarmRestart.init]
  reached c target := by simp [WarmRestart.init] at target
  complete := by simp [WarmRestart.init, Place.sawZero]
  deciding := by simp [WarmRestart.init]
  once := by simp [WarmRestart.init]

variable {s s' : WarmRestart} {c : Core}

section Goto

variable (s : WarmRestart) (c c' : Core) (p : Place)

@[simp, grind =] theorem goto_place :
    (s.goto c p).place c' = if c' = c then p else s.place c' := by
  simp [WarmRestart.goto, Function.update_apply]

@[simp, grind =] theorem goto_trigger : (s.goto c p).trigger = s.trigger := rfl

@[simp, grind =] theorem goto_triggerCore : (s.goto c p).triggerCore = s.triggerCore := rfl

@[simp, grind =] theorem goto_coreCount : (s.goto c p).coreCount = s.coreCount := rfl

@[simp, grind =] theorem goto_targetCpuList : (s.goto c p).targetCpuList = s.targetCpuList := rfl

@[simp, grind =] theorem goto_incLock : (s.goto c p).incLock = s.incLock := rfl

@[simp, grind =] theorem goto_activeCores : (s.goto c p).activeCores = s.activeCores := rfl

@[simp, grind =] theorem goto_sgi7 : (s.goto c p).sgi7 = s.sgi7 := rfl

@[simp, grind =] theorem goto_requests : (s.goto c p).requests = s.requests := rfl

end Goto

theorem published_of_late {t : Trigger} (late : t.early = false) : t.published = true := by
  cases t <;> simp_all [Trigger.early, Trigger.published]

theorem early_of_holds {t : Trigger} (holds : t.holds = true) : t.early = true := by
  cases t <;> simp_all [Trigger.early, Trigger.holds]

theorem Inv.late (inv : Inv s) (inside : s.place c ≠ .outside ∨ c ∈ s.sgi7) :
    s.trigger.early = false := by
  by_contra early
  obtain ⟨outside, none, _⟩ := inv.quiet (Bool.not_eq_false _ ▸ early)
  rcases inside with inside | pending
  · exact inside (outside c)
  · simp [none] at pending

theorem HandlerMove.inside (move : HandlerMove s c s') : s.place c ≠ .outside ∨ c ∈ s.sgi7 := by
  cases move <;> simp_all

theorem held_handler (inv : Inv s) (move : HandlerMove s c s') (c' : Core) : s'.incLock = some c' ↔
    (s'.place c').holds = true ∨ (s'.trigger.holds = true ∧ s'.triggerCore = c') := by
  have late := inv.late move.inside
  have unheld : s.trigger.holds = false := by
    by_contra holds
    rw [early_of_holds (by simpa using holds)] at late
    cases late
  have mine := inv.held c
  have theirs := inv.held c'
  cases move <;> grind [Place.holds]

theorem HandlerMove.counted (move : HandlerMove s c s') {c' : Core}
    (before : (s.place c').counted = true) : (s'.place c').counted = true := by
  cases move <;> grind [Place.counted]

theorem HandlerMove.same (move : HandlerMove s c s') :
    s'.trigger = s.trigger ∧ s'.targetCpuList = s.targetCpuList ∧ s'.coreCount = s.coreCount := by
  cases move <;> exact ⟨rfl, rfl, rfl⟩

theorem mem_counted {c : Core} : c ∈ s.counted ↔ (s.place c).counted = true := by
  simp [WarmRestart.counted]

theorem Inv.counted_subset (inv : Inv s) : s.counted ⊆ s.targetCpuList := by
  intro c counted
  refine inv.targeted c (Or.inl fun outside => ?_)
  rw [mem_counted, outside] at counted
  cases counted

/-- At zero every target has counted itself off, and only then. -/
theorem Inv.zero_iff (inv : Inv s) (published : s.trigger.published = true) :
    s.activeCores = 0 ↔ ∀ c ∈ s.targetCpuList, (s.place c).counted = true := by
  rw [inv.counter published]
  constructor
  · intro zero c target
    have all : s.counted = s.targetCpuList :=
      Finset.eq_of_subset_of_card_le inv.counted_subset (by omega)
    exact mem_counted.mp (all ▸ target)
  · intro all
    have same : s.counted = s.targetCpuList :=
      Finset.Subset.antisymm inv.counted_subset fun c target => mem_counted.mpr (all c target)
    rw [same]
    omega

/-- Counting off a core makes the set of counted cores larger by one. -/
theorem card_counted_handler (move : HandlerMove s c s') :
    s'.activeCores + s'.counted.card = s.activeCores + s.counted.card := by
  have frame (c' : Core) (other : c' ≠ c) : c' ∈ s'.counted ↔ c' ∈ s.counted := by
    rw [mem_counted, mem_counted]
    cases move <;> simp [other]
  by_cases entering : s.place c = .locked
  · have next : s'.counted = insert c s.counted := by
      ext c'
      by_cases same : c' = c
      · subst same
        rw [mem_counted, Finset.mem_insert]
        cases move <;> simp_all [Place.counted]
      · rw [frame c' same]
        simp [same]
    have fresh : c ∉ s.counted := by
      rw [mem_counted, entering]
      decide
    rw [next, Finset.card_insert_of_notMem fresh]
    cases move <;> simp_all
  · have next : s'.counted = s.counted := by
      ext c'
      by_cases same : c' = c
      · subst same
        rw [mem_counted, mem_counted]
        cases move <;> simp_all [Place.counted]
      · exact frame c' same
    rw [next]
    cases move <;> simp_all

theorem targeted_handler (inv : Inv s) (move : HandlerMove s c s') (c' : Core)
    (inside : s'.place c' ≠ .outside ∨ c' ∈ s'.sgi7) : c' ∈ s.targetCpuList := by
  have mine := inv.targeted c
  have theirs := inv.targeted c'
  cases move <;> grind

theorem reached_handler (inv : Inv s) (move : HandlerMove s c s') {c' : Core}
    (target : c' ∈ s.targetCpuList) (raised : s.trigger.raisedFrom ≤ c'.val)
    (outside : s'.place c' = .outside) : c' ∈ s'.sgi7 := by
  have theirs := inv.reached c' target raised
  cases move <;> grind

theorem complete_handler (inv : Inv s) (move : HandlerMove s c s')
    (asking : (∃ c, (s'.place c).sawZero = true) ∨ s'.requests ≠ []) :
    ∀ c ∈ s.targetCpuList, (s.place c).counted = true := by
  have zero := inv.zero_iff (published_of_late (inv.late move.inside))
  have before := inv.complete
  cases move <;> grind [Place.sawZero]

theorem deciding_handler (inv : Inv s) (move : HandlerMove s c s')
    (some : s.targetCpuList.Nonempty)
    (all : ∀ c ∈ s.targetCpuList, (s'.place c).counted = true) :
    (∃ c, (s'.place c).deciding = true) ∨ s'.requests ≠ [] := by
  have zero := inv.zero_iff (published_of_late (inv.late move.inside))
  have before := inv.deciding some
  have target := inv.targeted c
  cases move with
  | request value here => exact Or.inr (by simp)
  | _ => grind [Place.deciding, Place.counted]

theorem once_handler (inv : Inv s) (move : HandlerMove s c s') :
    (s'.requests.map Prod.fst).Nodup ∧ ∀ r ∈ s'.requests, s'.place r.1 = .parked := by
  obtain ⟨nodup, parked⟩ := inv.once
  cases move with
  | request value here =>
    have fresh : ∀ r ∈ s.requests, r.1 ≠ c := by
      intro r asked same
      have place := parked r asked
      rw [same, here] at place
      cases place
    refine ⟨?_, ?_⟩
    · simp only [List.map_append, List.map_cons, List.map_nil, List.nodup_append]
      grind
    · simp only [goto_place, List.mem_append, List.mem_singleton]
      grind
  | _ => grind

/-- A step of a handler keeps the invariant. -/
theorem inv_handler (inv : Inv s) (move : HandlerMove s c s') : Inv s' := by
  obtain ⟨trigger, targets, count⟩ := move.same
  have late := inv.late move.inside
  refine ⟨held_handler inv move, ?_, ?_, ?_, ?_, ?_, ?_, ?_, ?_, ?_, once_handler inv move⟩
  · rw [trigger, late]
    exact fun early => absurd early Bool.false_ne_true
  · rw [trigger, targets]
    exact inv.asked
  · rw [trigger, targets]
    exact inv.unasked
  · rw [count, targets]
    exact inv.size
  · have counter := inv.counter (published_of_late late)
    have moved := card_counted_handler move
    rw [targets]
    omega
  · rw [targets]
    exact targeted_handler inv move
  · rw [trigger, targets]
    exact fun c' target raised outside => reached_handler inv move target raised outside
  · rw [targets]
    exact fun asking c' target => move.counted (complete_handler inv move asking c' target)
  · rw [targets]
    exact deciding_handler inv move

/-- Before the first SGI only the lock, the list of targets and the counter matter. -/
theorem inv_of_quiet (outside : ∀ c, s.place c = .outside) (none : s.sgi7 = ∅)
    (silent : s.requests = []) (unraised : s.trigger.raisedFrom = 4)
    (held : ∀ c, s.incLock = some c ↔ s.trigger.holds = true ∧ s.triggerCore = c)
    (asked : ∀ i, s.trigger = .asking i → ∀ c ∈ s.targetCpuList, c.val < i)
    (unasked : s.trigger = .armed → s.targetCpuList = ∅)
    (size : s.coreCount = s.targetCpuList.card)
    (counter : s.trigger.published = true → s.activeCores = s.targetCpuList.card) : Inv s where
  held c := by
    rw [held c, outside c]
    simp [Place.holds]
  quiet _ := ⟨outside, none, silent⟩
  asked := asked
  unasked := unasked
  size := size
  counter published := by
    have nobody : s.counted = ∅ := by
      ext c
      simp [mem_counted, outside c, Place.counted]
    rw [counter published, nobody]
    simp
  targeted c inside := by simp [outside c, none] at inside
  reached c target raised := by
    have := c.isLt
    omega
  complete asking := by simp [outside, silent, Place.sawZero] at asking
  deciding some all := by
    obtain ⟨c, target⟩ := some
    have counted := all c target
    rw [outside c] at counted
    cases counted
  once := by simp [silent]

theorem Inv.held_quiet (inv : Inv s) (early : s.trigger.early = true) (c : Core) :
    s.incLock = some c ↔ s.trigger.holds = true ∧ s.triggerCore = c := by
  rw [inv.held c, (inv.quiet early).1 c]
  simp [Place.holds]

/-- A step of `trigger_wdt_restart` keeps the invariant. -/
theorem inv_trigger (inv : Inv s) (move : TriggerMove s s') : Inv s' := by
  cases move with
  | take c here =>
    have early : s.trigger.early = true := by rw [here]; rfl
    obtain ⟨outside, none, silent⟩ := inv.quiet early
    have nobody := inv.unasked here
    refine inv_of_quiet outside none silent rfl (fun c' => ?_) ?_ nofun inv.size nofun
    · rw [inv.held_quiet early c', here]
      simp [Trigger.holds]
    · intro i _ c' target
      simp [nobody] at target
  | count i small here =>
    have early : s.trigger.early = true := by rw [here]; rfl
    obtain ⟨outside, none, silent⟩ := inv.quiet early
    have below := inv.asked i here
    refine inv_of_quiet outside none silent rfl (fun c' => ?_) ?_ nofun ?_ nofun
    · rw [inv.held_quiet early c', here]
      simp [Trigger.holds]
    · rintro _ ⟨⟩ c' target
      rcases Finset.mem_insert.mp target with rfl | before
      · exact Nat.lt_succ_self i
      · exact Nat.lt_succ_of_lt (below c' before)
    · have fresh : (⟨i, small⟩ : Core) ∉ s.targetCpuList := fun before =>
        absurd (below _ before) (Nat.lt_irrefl i)
      show s.coreCount + 1 = (insert (⟨i, small⟩ : Core) s.targetCpuList).card
      rw [Finset.card_insert_of_notMem fresh, inv.size]
  | skip i here small =>
    have early : s.trigger.early = true := by rw [here]; rfl
    obtain ⟨outside, none, silent⟩ := inv.quiet early
    refine inv_of_quiet outside none silent rfl (fun c' => ?_) ?_ nofun inv.size nofun
    · rw [inv.held_quiet early c', here]
      simp [Trigger.holds]
    · rintro _ ⟨⟩ c' target
      exact Nat.lt_succ_of_lt (inv.asked i here c' target)
  | asked i here all =>
    have early : s.trigger.early = true := by rw [here]; rfl
    obtain ⟨outside, none, silent⟩ := inv.quiet early
    refine inv_of_quiet outside none silent rfl (fun c' => ?_) nofun nofun inv.size nofun
    rw [inv.held_quiet early c', here]
    simp [Trigger.holds]
  | acquire here free =>
    obtain ⟨outside, none, silent⟩ := inv.quiet (by rw [here]; rfl)
    refine inv_of_quiet outside none silent rfl (fun c' => ?_) nofun nofun inv.size nofun
    simp [Trigger.holds]
  | publish here =>
    have early : s.trigger.early = true := by rw [here]; rfl
    obtain ⟨outside, none, silent⟩ := inv.quiet early
    refine inv_of_quiet outside none silent rfl (fun c' => ?_) nofun nofun inv.size fun _ => ?_
    · rw [inv.held_quiet early c', here]
      simp [Trigger.holds]
    · show (s.coreCount : Int) = s.targetCpuList.card
      rw [inv.size]
  | unlock here =>
    obtain ⟨outside, none, silent⟩ := inv.quiet (by rw [here]; rfl)
    have nobody : s.counted = ∅ := by
      ext c
      simp [mem_counted, outside c, Place.counted]
    have counter := inv.counter (by rw [here]; rfl)
    refine inv_of_quiet outside none silent rfl (fun c' => ?_) nofun nofun inv.size fun _ => ?_
    · simp [Trigger.holds]
    · rw [counter, nobody]
      simp
  | raise i small here target =>
    have held (c : Core) := here ▸ inv.held c
    have reached := here ▸ inv.reached
    refine ⟨held, nofun, nofun, nofun, inv.size, fun _ => inv.counter (by rw [here]; rfl), ?_, ?_,
      inv.complete, inv.deciding, inv.once⟩
    · intro c inside
      rcases inside with inside | pending
      · exact inv.targeted c (Or.inl inside)
      · rcases Finset.mem_insert.mp pending with rfl | before
        · exact target
        · exact inv.targeted c (Or.inr before)
    · intro c target raised outside
      rcases Nat.eq_or_lt_of_le raised with same | later
      · exact Finset.mem_insert.mpr (Or.inl (Fin.ext same.symm))
      · exact Finset.mem_insert_of_mem (reached c target later outside)
  | pass i here other =>
    have held (c : Core) := here ▸ inv.held c
    have reached := here ▸ inv.reached
    refine ⟨held, nofun, nofun, nofun, inv.size, fun _ => inv.counter (by rw [here]; rfl),
      inv.targeted, ?_, inv.complete, inv.deciding, inv.once⟩
    intro c target raised outside
    exact reached c target (lt_of_le_of_ne raised (Ne.symm (other c target))) outside
  | back here =>
    have held (c : Core) := here ▸ inv.held c
    have reached := here ▸ inv.reached
    exact ⟨held, nofun, nofun, nofun, inv.size, fun _ => inv.counter (by rw [here]; rfl),
      inv.targeted, reached, inv.complete, inv.deciding, inv.once⟩

theorem inv_step (s : WarmRestart) (e : Event) (inv : Inv s) : Inv (s.step e) := by
  rcases step_cases s e with still | move | ⟨c, move⟩
  · rw [still]
    exact inv
  · exact inv_trigger inv move
  · exact inv_handler inv move

theorem inv_after (events : List Event) : Inv (WarmRestart.after events) :=
  Lib.AlarmRun.run_invariant Inv inv_init inv_step events

/-! ### Safety -/

/-- Core `c` holds `inc_lock`, in `zynqmp_sgi7_irq` or in `trigger_wdt_restart`. -/
def WarmRestart.Holds (s : WarmRestart) (c : Core) : Prop :=
  (s.place c).holds = true ∨ s.trigger.holds = true ∧ s.triggerCore = c

/-- **What the protocol guarantees** in a state. -/
structure RestartSafe (s : WarmRestart) : Prop where
  /-- `inc_lock` keeps the cores apart, and the handlers from `trigger_wdt_restart`. -/
  exclusive : (∀ c c', s.Holds c → s.Holds c' → c = c') ∧
    (s.trigger.holds = true → ∀ c, (s.place c).holds = false)
  /-- `active_cores` is the number of counted cores that have not counted themselves off. -/
  counter : s.trigger.published = true → s.activeCores = (s.targetCpuList \ s.counted).card
  /-- A restart is requested only after every counted core has counted itself off. -/
  afterAll : s.requests ≠ [] → s.targetCpuList ⊆ s.counted
  /-- No core requests it twice, and no core that was not counted does. -/
  once : (s.requests.map Prod.fst).Nodup ∧ ∀ r ∈ s.requests, r.1 ∈ s.targetCpuList
  /-- When all of them are parked, one of them has. -/
  made : s.targetCpuList.Nonempty → (∀ c ∈ s.targetCpuList, s.place c = .parked) →
    s.requests ≠ []

theorem restartSafe_of_inv (inv : Inv s) : RestartSafe s := by
  refine ⟨⟨fun c c' mine theirs => ?_, fun holds c => ?_⟩, fun published => ?_,
    fun asked c target => ?_, ⟨inv.once.1, fun r asked => ?_⟩, fun some parked => ?_⟩
  · have first := (inv.held c).mpr mine
    have second := (inv.held c').mpr theirs
    exact Option.some.inj (first.symm.trans second)
  · rw [(inv.quiet (early_of_holds holds)).1 c]
    rfl
  · have fewer := Finset.card_le_card inv.counted_subset
    rw [inv.counter published, Finset.card_sdiff_of_subset inv.counted_subset]
    omega
  · exact mem_counted.mpr (inv.complete (Or.inr asked) c target)
  · refine inv.targeted r.1 (Or.inl ?_)
    rw [inv.once.2 r asked]
    nofun
  · have counted : ∀ c ∈ s.targetCpuList, (s.place c).counted = true := fun c target => by
      rw [parked c target]
      rfl
    refine (inv.deciding some counted).resolve_left ?_
    rintro ⟨c, deciding⟩
    have target : c ∈ s.targetCpuList := by
      refine inv.targeted c (Or.inl fun outside => ?_)
      rw [outside] at deciding
      cases deciding
    rw [parked c target] at deciding
    cases deciding

/-- **The warm restart is safe in every interleaving.** -/
theorem warmRestart_safe (events : List Event) : RestartSafe (WarmRestart.after events) :=
  restartSafe_of_inv (inv_after events)

-- The core that counts itself off last is not the only one to find zero: the other one looks after
-- it has given the lock back, and both of them request the restart.
example :
    let on := Event.step 0 1#32
    let off := Event.step 0 0#32
    let other := Event.step 1 0#32
    (WarmRestart.after (.ttc3 0 :: on :: on :: List.replicate 16 off ++ List.replicate 5 other ++
      List.replicate 3 off ++ List.replicate 3 other)).requests.map Prod.fst = [0, 1] := by
  decide +kernel

/-! ### Progress -/

def Trigger.left : Trigger → Nat
  | .armed => 15
  | .asking i => 10 + (4 - i)
  | .acquiring => 9
  | .writing => 8
  | .unlocking => 7
  | .raising i => i + 2
  | .returned => 1

def Place.left : Place → Nat
  | .outside => 8
  | .entered => 7
  | .locked => 6
  | .decremented => 5
  | .cleared => 4
  | .released => 3
  | .zeroSeen => 2
  | .scoped _ => 1
  | .parked => 0

/-- A bound on the steps that are left. -/
def WarmRestart.left (s : WarmRestart) : Nat := s.trigger.left + ∑ c, (s.place c).left

/-- `trigger_wdt_restart` has returned and every counted core is parked. -/
def WarmRestart.Finished (s : WarmRestart) : Prop :=
  s.trigger = .returned ∧ ∀ c ∈ s.targetCpuList, s.place c = .parked

theorem left_trigger (move : TriggerMove s s') : s'.left < s.left := by
  have shrinks : s'.trigger.left < s.trigger.left := by
    cases move <;> simp_all [Trigger.left] <;> omega
  have same : s'.place = s.place := by cases move <;> rfl
  unfold WarmRestart.left
  rw [same]
  omega

theorem left_handler (move : HandlerMove s c s') : s'.left < s.left := by
  have mine : (s'.place c).left < (s.place c).left := by
    cases move <;> simp_all [Place.left]
  have theirs (c' : Core) : (s'.place c').left ≤ (s.place c').left := by
    by_cases same : c' = c
    · rw [same]
      exact mine.le
    · cases move <;> simp [same]
  have sum := Finset.sum_lt_sum (fun c' _ => theirs c') ⟨c, Finset.mem_univ c, mine⟩
  unfold WarmRestart.left
  rw [move.same.1]
  omega

/-- A step changes nothing or comes closer to the end, once the interrupt is taken. -/
theorem shrinking : Shrinking WarmRestart.step (fun s => Inv s ∧ s.trigger ≠ .armed)
    WarmRestart.left where
  keeps s e holds := by
    refine ⟨inv_step s e holds.1, ?_⟩
    rcases step_cases s e with still | move | ⟨c, move⟩
    · rw [still]
      exact holds.2
    · generalize s.step e = s' at move
      cases move <;> nofun
    · rw [move.same.1]
      exact holds.2
  shrinks s e holds := by
    rcases step_cases s e with still | move | ⟨c, move⟩
    · exact Or.inl still
    · exact Or.inr (left_trigger move)
    · exact Or.inr (left_handler move)

theorem finished_stays (s : WarmRestart) (e : Event) (finished : s.Finished) :
    (s.step e).Finished := by
  obtain ⟨returned, parked⟩ := finished
  rcases step_cases s e with still | move | ⟨c, move⟩
  · rw [still]
    exact ⟨returned, parked⟩
  · generalize s.step e = s' at move
    cases move <;> simp_all
  · refine ⟨move.same.1.trans returned, fun c' target => ?_⟩
    have before := parked c' (move.same.2.1 ▸ target)
    generalize s.step e = s' at move
    cases move <;> grind

theorem triggerStep_ne (inv : Inv s) (word : BitVec 32) (taken : s.trigger ≠ .armed)
    (going : s.trigger ≠ .returned) : s.triggerStep word ≠ s := by
  intro same
  have still := congrArg WarmRestart.trigger same
  unfold WarmRestart.triggerStep at still
  cases here : s.trigger with
  | armed => exact taken here
  | returned => exact going here
  | asking i =>
    simp only [here] at still
    split_ifs at still <;> simp at still
  | acquiring =>
    have free : s.incLock = none := by
      refine Option.eq_none_iff_forall_ne_some.mpr fun c held => ?_
      have holds := ((inv.held_quiet (by rw [here]; rfl) c).mp held).1
      rw [here] at holds
      cases holds
    simp [here, free] at still
  | writing => simp [here] at still
  | unlocking => simp [here] at still
  | raising i =>
    cases i with
    | zero => simp [here] at still
    | succ i =>
      simp only [here] at still
      split_ifs at still <;> simp at still

theorem handlerStep_ne (word : BitVec 32) (pending : s.place c = .outside → c ∈ s.sgi7)
    (free : s.place c = .entered → s.incLock = none) (awake : s.place c ≠ .parked) :
    s.handlerStep c word ≠ s := by
  intro same
  have still := congrArg (fun s => s.place c) same
  unfold WarmRestart.handlerStep at still
  cases here : s.place c with
  | outside => simp [here, pending here] at still
  | entered => simp [here, free here] at still
  | parked => exact awake here
  | released =>
    simp only [here] at still
    split_ifs at still <;> simp at still
  | _ => simp [here] at still

/-- **Somebody can always move** until the restart is through. -/
theorem exists_moving (inv : Inv s) (taken : s.trigger ≠ .armed) (unfinished : ¬ s.Finished) :
    ∃ c, ∀ word, s.step (.step c word) ≠ s := by
  by_cases returned : s.trigger = .returned
  · have idle (c : Core) : s.runsTrigger c = false := by simp [WarmRestart.runsTrigger, returned]
    have handled (c : Core) (word : BitVec 32) : s.step (.step c word) = s.handlerStep c word := by
      simp [WarmRestart.step, idle c]
    cases lock : s.incLock with
    | some c =>
      -- the holder of the lock is in the critical section, where nothing waits
      have holds : (s.place c).holds = true := by
        simpa [returned, Trigger.holds] using (inv.held c).mp lock
      refine ⟨c, fun word => ?_⟩
      rw [handled]
      apply handlerStep_ne <;> intro here <;> rw [here] at holds <;> cases holds
    | none =>
      obtain ⟨c, target, awake⟩ : ∃ c ∈ s.targetCpuList, s.place c ≠ .parked := by
        by_contra all
        push Not at all
        exact unfinished ⟨returned, all⟩
      refine ⟨c, fun word => ?_⟩
      rw [handled]
      exact handlerStep_ne word (inv.reached c target (by simp [returned, Trigger.raisedFrom]))
        (fun _ => lock) awake
  · refine ⟨s.triggerCore, fun word => ?_⟩
    have active : s.runsTrigger s.triggerCore = true := by
      simp [WarmRestart.runsTrigger, taken, returned]
    rw [WarmRestart.step, if_pos active]
    exact triggerStep_ne inv word taken returned

/-- Every core makes a step in the round, whatever the PMU answers. -/
def EachCoreSteps (round : List Event) : Prop := ∀ c, ∃ word, Event.step c word ∈ round

theorem moves_of_eachCoreSteps {round : List Event} (each : EachCoreSteps round) :
    Moves WarmRestart.step (fun s => Inv s ∧ s.trigger ≠ .armed) WarmRestart.Finished round := by
  intro s holds unfinished
  obtain ⟨c, moving⟩ := exists_moving holds.1 holds.2 unfinished
  obtain ⟨word, member⟩ := each c
  exact ⟨_, member, moving word⟩

theorem left_after (events : List Event) : (WarmRestart.after events).left ≤ 47 := by
  refine run_invariant (fun s : WarmRestart => s.left ≤ 47) (by decide) ?_ events
  intro s e small
  rcases step_cases s e with still | move | ⟨c, move⟩
  · rw [still]
    exact small
  · exact (left_trigger move).le.trans small
  · exact (left_handler move).le.trans small

/-- **Every fair schedule completes the restart**: once the interrupt has been taken, 48 rounds in
which every core makes a step park all counted cores, and one of them has requested the restart. -/
theorem warmRestart_completes (events : List Event) (rounds : List (List Event))
    (taken : (WarmRestart.after events).trigger ≠ .armed)
    (fair : ∀ round ∈ rounds, EachCoreSteps round) (enough : 48 ≤ rounds.length) :
    (WarmRestart.after (events ++ rounds.flatten)).Finished ∧
      ((WarmRestart.after (events ++ rounds.flatten)).targetCpuList.Nonempty →
        (WarmRestart.after (events ++ rounds.flatten)).requests ≠ []) := by
  have finished : (WarmRestart.after (events ++ rounds.flatten)).Finished := by
    rw [WarmRestart.after, run_append]
    refine finished_of_rounds shrinking (fun s e _ => finished_stays s e) ⟨inv_after events, taken⟩
      rounds (fun round member => moves_of_eachCoreSteps (fair round member)) ?_
    exact (left_after events).trans_lt enough
  exact ⟨finished, fun some => (restartSafe_of_inv (inv_after _)).made some finished.2⟩

/-- All four cores in turn, all of them on. -/
def roundRobin : List Event := [.step 0 1#32, .step 1 1#32, .step 2 1#32, .step 3 1#32]

theorem warmRestart_completes_roundRobin :
    (WarmRestart.after ([.ttc3 0] ++ (List.replicate 48 roundRobin).flatten)).Finished := by
  have each : EachCoreSteps roundRobin := fun c => ⟨1#32, by revert c; decide⟩
  exact (warmRestart_completes [.ttc3 0] (List.replicate 48 roundRobin) nofun
    (fun round member => List.eq_of_mem_replicate member ▸ each) (by simp)).1

end TrustzoneWatchdog.Firmware
