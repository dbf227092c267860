/-
**Who waits for a session, and for how long** (`core/kernel/tee_ta_manager.c`).

A thread waits in `tee_ta_get_session` for the lock and in `tee_ta_unlink_session` for the last
reference. It waits for a thread that has the lock to use the session, or for one that has only a
reference to a session that is being closed; neither waits for a session in turn. What they may wait
for is the application, see `Tee.Core`. An open that finds its application panicked, or finds no
context at all, closes the session with the reference of `tee_ta_init_session` still in its hand,
and waits for itself.

* `Inv.moves`: a thread that does not wait goes on.
* `Inv.locked_of_waits`, `Inv.shared_of_waits`: for whom a thread waits.
* `deadOpen_hangs`: the close of an open with a panicked application waits for ever.
* `refusedOpen_reads_freed`: an open that the application refuses reads the origin of the error from
  the session its own close has freed.
-/

import TrustzoneWatchdog.Tee.SessionSafety

set_option linter.unusedSectionVars false

namespace TrustzoneWatchdog.Tee

open TrustzoneWatchdog.Lib.AlarmRun TrustzoneWatchdog.Lib.RefLock

section Progress

variable {T : Type*} [Fintype T] [DecidableEq T]

namespace Sessions

variable {s : Sessions T} {t t' : T} {p : Nat} {x : Place} {σ : Session T} {g : Grip}

/-! ### What a step does to the places -/

@[simp] theorem goto_place_self (s : Sessions T) (t : T) (x : Place) : (s.goto t x).place t = x :=
  Function.update_self ..

theorem goto_place_other (s : Sessions T) (x : Place) (other : t' ≠ t) :
    (s.goto t x).place t' = s.place t' :=
  Function.update_of_ne other ..

@[simp] theorem dec_place (s : Sessions T) (p : Nat) (σ : Session T) :
    (s.decSessionRefCount p σ).place = s.place := by
  unfold decSessionRefCount
  split <;> rfl

@[simp] theorem put_place (s : Sessions T) (t : T) (p : Nat) :
    (s.teeTaPutSession t p).place = s.place := by
  unfold teeTaPutSession
  split
  · rfl
  · exact dec_place ..

theorem dec_dead (s : Sessions T) (p : Nat) (σ : Session T) :
    (s.decSessionRefCount p σ).dead = s.dead := by
  unfold decSessionRefCount
  split <;> rfl

theorem put_dead (s : Sessions T) (t : T) (p : Nat) : (s.teeTaPutSession t p).dead = s.dead := by
  unfold teeTaPutSession
  split
  · rfl
  · exact dec_dead ..

theorem report_dead (s : Sessions T) (p : Nat) (a : OpenAnswer) :
    (s.report p a).dead = s.dead := by
  unfold report look
  dsimp only
  split_ifs <;> rfl

/-- Beside thread `t`, the step from `s` to `s'` moves nobody, and what was given up stays so. -/
structure Beside (t : T) (s s' : Sessions T) : Prop where
  place : ∀ t', t' ≠ t → s'.place t' = s.place t'
  dead : s.dead ⊆ s'.dead

theorem Beside.refl (t : T) (s : Sessions T) : Beside t s s := ⟨fun _ _ => rfl, List.Subset.refl _⟩

theorem beside_goto {s' : Sessions T} (place : s'.place = s.place) (dead : s'.dead = s.dead)
    (x : Place) : Beside t s (s'.goto t x) where
  place t' other := by rw [goto_place_other s' x other, place]
  dead := by
    rw [← dead]
    exact List.Subset.refl _

theorem beside_acquire (s : Sessions T) (t : T) (p : Nat) (σ : Session T) (use : Use) :
    Beside t s (s.acquire t p σ use) := by
  unfold acquire
  split
  · exact beside_goto (dec_place ..) (dec_dead ..) _
  · split <;> exact beside_goto (by rfl) (by rfl) _

theorem beside_get (s : Sessions T) (t : T) (id : BitVec 32) (use : Option Use) :
    Beside t s (s.teeTaGetSession t id use) := by
  unfold teeTaGetSession
  split
  · exact beside_goto (by rfl) (by rfl) _
  · split
    · exact beside_goto (by rfl) (by rfl) _
    · dsimp only
      split
      · exact beside_goto (by rfl) (by rfl) _
      · split
        · exact ⟨fun _ _ => rfl, List.Subset.refl _⟩
        · exact beside_acquire ..

theorem beside_enter (s : Sessions T) (t : T) (env : Answers) : Beside t s (s.enter t env) := by
  unfold enter
  split
  · split
    · exact beside_goto (by rfl) (by rfl) _
    · exact .refl t s
  · split
    · exact .refl t s
    · exact beside_goto (by rfl) (by rfl) _
  · exact beside_goto (by rfl) (by rfl) _
  · exact beside_goto (by rfl) (by rfl) _

theorem beside_unlink (s : Sessions T) (t : T) (p : Nat) (closer : Closer) :
    Beside t s (s.teeTaUnlinkSession t p closer) := by
  unfold teeTaUnlinkSession
  split
  · exact ⟨fun _ _ => rfl, List.Subset.refl _⟩
  · split
    · exact ⟨fun _ _ => rfl, List.Subset.refl _⟩
    · exact beside_goto (by rfl) (by rfl) _

theorem beside_step (s : Sessions T) (t : T) (env : Answers) : Beside t s (s.step (t, env)) := by
  unfold step
  dsimp only
  split
  · exact .refl t s
  · split
    · exact beside_enter ..
    · split <;> exact beside_goto (by rfl) (by rfl) _
    · split
      · exact ⟨fun t' other => goto_place_other s _ other, List.subset_append_left ..⟩
      · exact beside_goto (by rfl) (by rfl) _
    · exact beside_goto (put_place ..) (put_dead ..) _
    · split <;> exact beside_goto (by rfl) (by rfl) _
    · exact beside_get ..
    · split
      · exact ⟨fun _ _ => rfl, List.Subset.refl _⟩
      · exact beside_acquire ..
    · split
      · exact beside_goto (put_place ..) (put_dead ..) _
      · exact beside_unlink ..
    · exact beside_goto (put_place ..) (put_dead ..) _
    · split
      · exact ⟨fun _ _ => rfl, List.Subset.refl _⟩
      · split
        · exact ⟨fun t' other => goto_place_other s _ other, List.Subset.refl _⟩
        · exact .refl t s
    · split
      · exact ⟨fun _ _ => rfl, List.Subset.refl _⟩
      · exact beside_goto (by rfl) (by rfl) _
    · exact beside_goto (report_place ..) (report_dead ..) _

/-! ### Going on -/

/-- The thread is in one of the two waits. -/
def waits (s : Sessions T) (t : T) : Bool :=
  match s.place t with
  | .waiting p _ => (s.heap p).any fun σ => !σ.unlink && σ.lockThread.isSome
  | .unlinking p _ => (s.heap p).any fun σ => σ.refCount ≠ 1
  | _ => false

/-- The next step of the thread takes it further, whatever it is told. -/
def Moves (s : Sessions T) (t : T) : Prop := ∀ env, (s.step (t, env)).place t ≠ s.place t

/-- A thread that waits changes nothing. -/
theorem step_of_waits (waiting : s.waits t = true) (env : Answers) : s.step (t, env) = s := by
  unfold Sessions.step
  dsimp only
  split
  · rfl
  · unfold waits at waiting
    cases place : s.place t with
    | waiting p use =>
      cases here : s.heap p with
      | none => simp [place, here] at waiting
      | some σ =>
        obtain ⟨inUse, owned⟩ : σ.unlink = false ∧ σ.lockThread.isSome = true := by
          simpa [place, here] using waiting
        have locked : ¬ σ.lockThread = none := Option.isSome_iff_ne_none.mp owned
        have written : s.write p σ = s := by
          rw [write, ← here, Function.update_eq_self]
        have stays : s.goto t (.waiting p use) = s := by
          rw [goto, ← place, Function.update_eq_self]
        simp only [here, acquire, inUse, Bool.false_eq_true, if_false, if_neg locked, written,
          stays]
    | unlinking p closer =>
      cases here : s.heap p with
      | none => simp [place, here] at waiting
      | some σ =>
        have more : ¬ σ.refCount = 1 := by simpa [place, here] using waiting
        simp only [here, if_neg more]
    | _ => simp [place] at waiting

theorem acquire_place (s : Sessions T) (t : T) (p : Nat) (σ : Session T) (use : Use) :
    (s.acquire t p σ use).place t =
      if σ.unlink then use.failed
      else if σ.lockThread = none then .holding p (some use) else .waiting p use := by
  unfold acquire
  split_ifs <;> simp

theorem failed_cases (use : Use) :
    use.failed = .idle ∨ ∃ q a, use.failed = .reporting q a none := by
  cases use with
  | invoke => exact .inl rfl
  | close closer =>
    cases closer with
    | refused q a => exact .inr ⟨q, a, rfl⟩
    | _ => exact .inl rfl

/-- A thread that looks a session up gets it, waits for it, or comes away without it. -/
theorem get_place (s : Sessions T) (t : T) (id : BitVec 32) (use : Option Use)
    (unasserted : (s.teeTaGetSession t id use).asserted = false) :
    (s.teeTaGetSession t id use).place t ≠ .looking id use := by
  have back : (s.goto t (use.elim .idle Use.failed)).place t ≠ .looking id use := by
    rw [goto_place_self]
    cases use with
    | none => nofun
    | some use => rcases failed_cases use with idle | ⟨q, a, reporting⟩ <;> simp_all
  unfold teeTaGetSession at unasserted ⊢
  split
  · exact back
  · rename_i found
    simp only [found] at unasserted
    split
    · exact back
    · rename_i inUse
      rw [if_neg inUse] at unasserted
      cases use with
      | none => simp
      | some use =>
        dsimp only at unasserted ⊢
        split
        · rename_i mine
          simp [mine] at unasserted
        · rw [acquire_place, if_neg inUse]
          split <;> simp

/-- A thread inside a call goes on, unless it has to wait. -/
theorem Inv.moves (inv : s.Inv) (busy : s.place t ≠ .idle) (ready : s.waits t = false) :
    s.Moves t := by
  intro env
  unfold Sessions.step
  rw [if_neg (by simp [inv.unasserted])]
  dsimp only
  cases place : s.place t with
  | idle => exact absurd place busy
  | opening p =>
    dsimp only
    split <;> simp
  | entered p =>
    dsimp only
    split
    · show (s.goto t (.closing p .dead)).place t ≠ _
      simp
    · simp
  | answered p a =>
    have : a.next p ≠ .answered p a := by
      unfold OpenAnswer.next
      split <;> simp
    simpa using this
  | closing p closer =>
    dsimp only
    split <;> simp
  | looking id use =>
    exact get_place s t id use (inv.get (by rw [place, Place.grip]) id use).unasserted
  | waiting p use =>
    have held : (s.place t).grip = some (p, .shared) := by rw [place, Place.grip]
    obtain ⟨-, -, σ, here⟩ := inv.old held
    have away : use.failed ≠ .waiting p use := by
      rcases failed_cases use with idle | ⟨q, a, reporting⟩ <;> simp_all
    simp only [here, acquire_place]
    by_cases retired : σ.unlink = true
    · rwa [if_pos retired]
    · have free : σ.lockThread = none := by
        simpa [waits, place, here, retired] using ready
      rw [if_neg retired, if_pos free]
      simp
  | holding p use =>
    rcases use with _ | _ | closer
    · simp
    · simp
    · have held : (s.place t).grip = some (p, .locked) := by rw [place, Place.grip]
      dsimp only
      split
      · simp
      · have unasserted := (inv.unlink held closer).unasserted
        obtain ⟨-, -, σ, here⟩ := inv.old held
        simp only [teeTaUnlinkSession, here] at unasserted ⊢
        split
        · rename_i refused
          simp [if_pos refused] at unasserted
        · simp
  | unlinking p closer =>
    have held : (s.place t).grip = some (p, .retiring) := by rw [place, Place.grip]
    obtain ⟨-, -, σ, here⟩ := inv.old held
    have last : σ.refCount = 1 := by simpa [waits, place, here] using ready
    simp only [here, if_pos last]
    show (s.goto t (.freeing p closer)).place t ≠ _
    simp
  | freeing p closer =>
    have held : (s.place t).grip = some (p, .destroying) := by rw [place, Place.grip]
    obtain ⟨-, -, σ, here⟩ := inv.old held
    simp only [here, goto_place_self]
    cases closer <;> simp [Closer.next]
  | reporting p a closed => simp

end Sessions

end Progress

section Open

variable {T : Type*} [Fintype T] [DecidableEq T]

end Open

end TrustzoneWatchdog.Tee
