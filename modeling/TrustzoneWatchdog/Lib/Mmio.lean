/-
**Memory-mapped devices.**

A device keeps what is written to its registers. One of them is a doorbell: a write to it starts an
operation, and the device takes the registers as they are at that moment.

* `writes` — a straight line of register writes; `log_writes` keeps them all.
* `regs_writes` — a register holds what the last write to it brought.
* `regs_writes_of_notMem`, `started_writes_of_notMem` — a line that does not name a register, or the
  doorbell, leaves it alone.
* `started_writes_doorbell` — a line that ends at the doorbell starts one operation.
* `Holds` — some registers hold given values; kept by lines that do not name them, brought about by
  lines that end with those values.
-/

import Mathlib.Logic.Function.Basic

namespace TrustzoneWatchdog.Lib.Mmio

variable {α β : Type*}

/-- The registers, what they were each time the doorbell was rung, and all that was written. -/
structure Device (α β : Type*) where
  regs : α → β
  started : List (α → β)
  log : List (α × β)

namespace Device

variable [DecidableEq α] (doorbell : α)

def write (dev : Device α β) (w : α × β) : Device α β where
  regs := Function.update dev.regs w.1 w.2
  started :=
    if w.1 = doorbell then dev.started ++ [Function.update dev.regs w.1 w.2] else dev.started
  log := dev.log ++ [w]

/-- A straight line of writes. -/
def writes (dev : Device α β) (ws : List (α × β)) : Device α β := ws.foldl (write doorbell) dev

/-- What the last write to a register brings. -/
def lastWrite : List (α × β) → α → Option β
  | [], _ => none
  | w :: ws, a => (lastWrite ws a).or (if w.1 = a then some w.2 else none)

variable {doorbell}

@[simp] theorem writes_nil (dev : Device α β) : dev.writes doorbell [] = dev := rfl

@[simp] theorem writes_cons (dev : Device α β) (w : α × β) (ws : List (α × β)) :
    dev.writes doorbell (w :: ws) = (dev.write doorbell w).writes doorbell ws := rfl

theorem writes_append (dev : Device α β) (first second : List (α × β)) :
    dev.writes doorbell (first ++ second) = (dev.writes doorbell first).writes doorbell second :=
  List.foldl_append

theorem log_writes (dev : Device α β) (ws : List (α × β)) :
    (dev.writes doorbell ws).log = dev.log ++ ws := by
  induction ws generalizing dev with
  | nil => exact (List.append_nil _).symm
  | cons w ws ih => rw [writes_cons, ih, write, List.append_assoc, List.singleton_append]

/-- **A register holds the last write to it.** -/
theorem regs_writes (dev : Device α β) (ws : List (α × β)) (a : α) :
    (dev.writes doorbell ws).regs a = (lastWrite ws a).getD (dev.regs a) := by
  induction ws generalizing dev with
  | nil => rfl
  | cons w ws ih =>
    rw [writes_cons, ih, lastWrite]
    cases lastWrite ws a with
    | some v => rfl
    | none =>
      by_cases here : w.1 = a
      · simp [write, here]
      · simp [write, here, Function.update_of_ne (Ne.symm here)]

theorem regs_writes_of_notMem {ws : List (α × β)} {a : α} (unnamed : a ∉ ws.map Prod.fst)
    (dev : Device α β) : (dev.writes doorbell ws).regs a = dev.regs a := by
  induction ws generalizing dev with
  | nil => rfl
  | cons w ws ih =>
    simp only [List.map_cons, List.mem_cons, not_or] at unnamed
    rw [writes_cons, ih unnamed.2]
    exact Function.update_of_ne unnamed.1 _ _

theorem started_writes_of_notMem {ws : List (α × β)} (silent : doorbell ∉ ws.map Prod.fst)
    (dev : Device α β) : (dev.writes doorbell ws).started = dev.started := by
  induction ws generalizing dev with
  | nil => rfl
  | cons w ws ih =>
    simp only [List.map_cons, List.mem_cons, not_or] at silent
    rw [writes_cons, ih silent.2]
    exact if_neg (Ne.symm silent.1)

/-- What was started stays started. -/
theorem started_writes_prefix (ws : List (α × β)) (dev : Device α β) :
    dev.started <+: (dev.writes doorbell ws).started := by
  induction ws generalizing dev with
  | nil => exact List.prefix_rfl
  | cons w ws ih =>
    refine List.IsPrefix.trans ?_ (ih (dev.write doorbell w))
    unfold write
    dsimp only
    split
    · exact List.prefix_append ..
    · exact List.prefix_rfl

/-- A line that ends at the doorbell starts one operation, on the registers it leaves. -/
theorem started_writes_doorbell (ws : List (α × β)) (silent : doorbell ∉ ws.map Prod.fst)
    (dev : Device α β) (v : β) :
    (dev.writes doorbell (ws ++ [(doorbell, v)])).started =
      dev.started ++ [(dev.writes doorbell (ws ++ [(doorbell, v)])).regs] := by
  simp [writes_append, write, started_writes_of_notMem silent]

end Device

/-- The registers named hold the values given. -/
def Holds (settings : List (α × β)) (regs : α → β) : Prop := ∀ w ∈ settings, regs w.1 = w.2

theorem Holds.mono {settings more : List (α × β)} {regs : α → β} (holds : Holds more regs)
    (fewer : settings ⊆ more) : Holds settings regs :=
  fun w inside => holds w (fewer inside)

section Holds

variable [DecidableEq α] {doorbell : α} {settings ws : List (α × β)} {dev : Device α β}

theorem Holds.writes (holds : Holds settings dev.regs)
    (apart : ∀ a ∈ settings.map Prod.fst, a ∉ ws.map Prod.fst) :
    Holds settings (dev.writes doorbell ws).regs := by
  intro w inside
  rw [Device.regs_writes_of_notMem (apart _ (List.mem_map_of_mem inside))]
  exact holds w inside

theorem holds_writes (brought : ∀ w ∈ settings, Device.lastWrite ws w.1 = some w.2) :
    Holds settings (dev.writes doorbell ws).regs := by
  intro w inside
  rw [Device.regs_writes, brought w inside]
  rfl

end Holds

end TrustzoneWatchdog.Lib.Mmio
