/-
**Entering an application from inside** (`core/kernel/tee_ta_manager.c`).

A single-instance application is busy while a thread is inside it, and the thread owns the lock, so
`tee_ta_try_set_busy` refuses it instead of waiting for itself. `tee_ta_set_busy` panics then.
`tee_ta_open_session` returns `TEE_ERROR_BUSY`, but first closes the session it has just
initialised, with `tee_ta_set_busy`. Only multi-session applications get that far: for the others
`tee_ta_init_session_with_context` finds `ref_count` set.

* `manned_after`: a context that somebody is inside has a session, as long as nobody calls without.
* `reentry_panics`: what comes of a call from inside, for both kinds of application.
-/

import TrustzoneWatchdog.Tee.Busy

set_option linter.unusedSectionVars false

namespace TrustzoneWatchdog.Tee

open TrustzoneWatchdog.Lib.AlarmRun

section Reentry

variable {T C : Type*} [DecidableEq T] [DecidableEq C] {flags : C → TaFlags} {s : Manager T C}

/-- A thread that is refused at a busy context it owns. -/
theorem enter_inside (consistent : Consistent flags s) {t : T} {c : C}
    (isSingle : single flags c = true) (inside : c ∈ s.stack t) (call : Call) :
    s.enter flags t call c =
      if call = .openSession then { s with closing := Function.update s.closing t (some c) }
      else { s with panicked := true } := by
  have owner := consistent.owned.thread_eq inside isSingle
  rw [single, Bool.and_eq_true, Bool.not_eq_true'] at isSingle
  have busy := (consistent.exclusive.busy_iff c isSingle.2).mpr ⟨t, inside⟩
  rw [enter_eq consistent]
  simp [isSingle, owner, busy]

theorem step_of_halted (halted : s.panicked = true) (op : T × Request C) :
    s.step flags op = s := by
  simp [Manager.step, halted]

/-- Thread `t` is inside `c` with this session still to close, unless the core has panicked. -/
def Inside (s : Manager T C) (t : T) (c : C) (closing : Option C) : Prop :=
  s.panicked = true ∨ (c ∈ s.stack t ∧ s.closing t = closing)

section Inside

variable {t : T} {c : C} {closing : Option C}

theorem Inside.others (others : List (T × Request C)) (apart : ∀ op ∈ others, op.1 ≠ t)
    (consistent : Consistent flags s) (there : Inside s t c closing) :
    Consistent flags (run (Manager.step flags) s others) ∧
      Inside (run (Manager.step flags) s others) t c closing := by
  induction others generalizing s with
  | nil => exact ⟨consistent, there⟩
  | cons op rest ih =>
    refine ih (fun o member => apart o (List.mem_cons_of_mem _ member)) (consistent.step op) ?_
    rcases there with halted | ⟨inside, pending⟩
    · rw [step_of_halted halted]
      exact .inl halted
    · obtain ⟨stack, kept⟩ := (step_cases consistent op.1 op.2).other
        (Ne.symm (apart op List.mem_cons_self))
      exact .inr ⟨stack ▸ inside, kept.trans pending⟩

/-- What a thread inside an application asks for, unless the core has panicked. -/
theorem Inside.step_eq (consistent : Consistent flags s) (there : Inside s t c closing)
    (request : Request C) :
    s.panicked = true ∧ s.step flags (t, request) = s ∨
      (c ∈ s.stack t ∧ s.closing t = closing) ∧ s.step flags (t, request) =
        s.serve flags t closing request := by
  cases live : s.panicked with
  | true => exact .inl ⟨rfl, step_of_halted live _⟩
  | false =>
    rcases there with halted | there
    · simp [live] at halted
    · refine .inr ⟨there, ?_⟩
      simp [Manager.step, live, consistent.unasserted, there.2]

theorem Inside.initSession (consistent : Consistent flags s) (there : Inside s t c none) (x : C) :
    Inside (s.step flags (t, .initSession x)) t c none := by
  rcases there.step_eq consistent (.initSession x) with ⟨halted, same⟩ | ⟨inside, next⟩
  · rw [same]
    exact .inl halted
  · rw [next, Manager.serve]
    unfold Manager.initSession
    split <;> exact .inr inside

theorem Inside.opens (consistent : Consistent flags s) (there : Inside s t c none)
    (isSingle : single flags c = true) :
    Inside (s.step flags (t, .enter .openSession c)) t c (some c) := by
  rcases there.step_eq consistent (.enter .openSession c) with ⟨halted, same⟩ | ⟨inside, next⟩
  · rw [same]
    exact .inl halted
  · rw [next, Manager.serve, enter_inside consistent isSingle inside.1, if_pos rfl]
    exact .inr ⟨inside.1, by simp⟩

/-- The close of the session that was refused. -/
theorem Inside.closes (consistent : Consistent flags s) (there : Inside s t c (some c))
    (isSingle : single flags c = true) (request : Request C) :
    (s.step flags (t, request)).panicked = true := by
  rcases there.step_eq consistent request with ⟨halted, same⟩ | ⟨inside, next⟩
  · rwa [same]
  · rw [next, Manager.serve, enter_inside consistent isSingle inside.1]
    rfl

theorem Inside.enters (consistent : Consistent flags s) (there : Inside s t c none)
    (isSingle : single flags c = true) {call : Call} (notOpen : call ≠ .openSession) :
    (s.step flags (t, .enter call c)).panicked = true := by
  rcases there.step_eq consistent (.enter call c) with ⟨halted, same⟩ | ⟨inside, next⟩
  · rwa [same]
  · rw [next, Manager.serve, enter_inside consistent isSingle inside.1, if_neg notOpen]

end Inside

/-! ### Sessions of the applications in use -/

/-- A call without a session, or the last session is dropped while somebody is inside. The lookup
of sessions and their locks exclude both. -/
def Manager.sessionless (s : Manager T C) (op : T × Request C) : Bool :=
  match s.closing op.1, op.2 with
  | some c, _ | none, .enter _ c => s.refCount c = 0
  | none, .dropSession c => s.locks.busy c && s.refCount c ≤ 1
  | none, _ => false

/-- A context that somebody is inside has a session. -/
def Manned (flags : C → TaFlags) (s : Manager T C) : Prop :=
  ∀ c, (flags c).concurrent = false → s.locks.busy c = true → s.refCount c ≠ 0

theorem Manned.enter (manned : Manned flags s) (consistent : Consistent flags s) (t : T)
    (call : Call) {c : C} (counted : s.refCount c ≠ 0) : Manned flags (s.enter flags t call c) := by
  have pushed : Manned flags (s.pushed flags t c) := fun x exclusive busy => by
    rcases (busy_pushed exclusive).mp busy with rfl | before
    · exact counted
    · exact manned x exclusive before
  rw [enter_eq consistent]
  split_ifs <;> first | exact pushed | exact manned

theorem Manned.popped (manned : Manned flags s) (t : T) (c : C) (rest : List C) :
    Manned flags (s.popped flags t c rest) := by
  intro x exclusive busy
  refine manned x exclusive ?_
  simp only [Manager.popped, Locks.left] at busy
  split at busy
  · exact busy
  · by_cases same : x = c
    · simp [same] at busy
    · simpa [same] using busy

theorem Manned.step (manned : Manned flags s) (consistent : Consistent flags s)
    (op : T × Request C) (quiet : s.sessionless op = false) :
    Manned flags (s.step flags op) := by
  obtain ⟨t, request⟩ := op
  unfold Manager.step
  split
  · exact manned
  · dsimp only
    unfold Manager.sessionless at quiet
    unfold Manager.serve
    split <;> rename_i closing
    · exact manned.enter consistent t _ (by simpa [closing] using quiet)
    · rename_i c
      unfold Manager.initSession
      split
      · intro x exclusive busy
        by_cases same : x = c
        · simp [same]
        · simpa [same] using manned x exclusive busy
      · exact manned
    · exact manned.enter consistent t _ (by simpa [closing] using quiet)
    · cases inside : s.stack t with
      | nil =>
        rw [Manager.leave, inside]
        exact manned
      | cons c rest =>
        rw [leave_eq consistent inside]
        exact manned.popped t c rest
    · rename_i c
      unfold Manager.dropSession
      split
      · exact manned
      · intro x exclusive busy
        by_cases same : x = c
        · subst same
          have inside : s.locks.busy x = true := busy
          have more : ¬ s.refCount x ≤ 1 := by simpa [closing, inside] using quiet
          simp only [Function.update_self]
          omega
        · simpa [same] using manned x exclusive busy

theorem manned_after (flags : C → TaFlags) (steps : List (T × Request C))
    (quiet : Silent (Manager.step flags) Manager.sessionless Manager.init steps) :
    Manned flags (Manager.after flags steps) :=
  (silent_run_invariant (fun _ s => Consistent flags s ∧ Manned flags s)
    ⟨consistent_init, by simp [Manned, Manager.init]⟩
    (fun _ op inv quiet => ⟨inv.1.step op, inv.2.step inv.1 op quiet⟩) steps quiet).2

/-- **Entering a single-instance application again from inside.** If it is multi-session, the core
panics: at once for `tee_ta_invoke_command` and `tee_ta_close_session`, and for
`tee_ta_open_session` in the close of the session it refused. If it is not, the open gets no session
and nothing happens. -/
theorem reentry_panics (flags : C → TaFlags) (before : List (T × Request C))
    (manned : Silent (Manager.step flags) Manager.sessionless Manager.init before) {t : T} {c : C}
    (isSingle : single flags c = true) (inside : c ∈ (Manager.after flags before).stack t)
    (ready : (Manager.after flags before).closing t = none) :
    ((flags c).multiSession = true →
      (∀ call, call ≠ .openSession →
        (Manager.after flags (before ++ [(t, .enter call c)])).panicked = true) ∧
      ∀ others others' : List (T × Request C), (∀ op ∈ others ++ others', op.1 ≠ t) → ∀ request,
        (Manager.after flags (before ++ (t, .initSession c) :: (others ++
          (t, .enter .openSession c) :: (others' ++ [(t, request)])))).panicked = true) ∧
    ((flags c).multiSession = false →
      Manager.after flags (before ++ [(t, .initSession c)]) = Manager.after flags before) := by
  have exclusive : (flags c).concurrent = false := by simp_all [single]
  have inv := consistent_after flags before
  have counted := manned_after flags before manned c exclusive
    ((inv.exclusive.busy_iff c exclusive).mpr ⟨t, inside⟩)
  have there : Inside (Manager.after flags before) t c none := .inr ⟨inside, ready⟩
  simp only [Manager.after, run_append, run_cons, run_nil] at inv counted there ⊢
  generalize run (Manager.step flags) Manager.init before = s at inv counted there ⊢
  refine ⟨fun _ => ⟨fun call notOpen => there.enters inv isSingle notOpen,
    fun others others' apart request => ?_⟩, fun lone => ?_⟩
  · have given := there.initSession inv c
    obtain ⟨inv', there'⟩ := given.others others
      (fun op member => apart op (List.mem_append_left _ member)) (inv.step _)
    obtain ⟨inv'', there''⟩ := (there'.opens inv' isSingle).others others'
      (fun op member => apart op (List.mem_append_right _ member)) (inv'.step _)
    exact there''.closes inv'' isSingle request
  · rcases there.step_eq inv (.initSession c) with ⟨-, same⟩ | ⟨-, next⟩
    · exact same
    · rw [next, Manager.serve]
      simp [Manager.initSession, Manager.admits, lone, counted]

end Reentry

/-- A command of the FPGA manager that opened a session with it would panic, here after the steps of
another thread; the downloader, in the same place, would not get the session. -/
theorem reentry_panics_fpgaMgr :
    (Manager.after UpdateTa.flags ([((0 : Fin 2), .initSession .fpgaMgr),
      (0, .enter .openSession .fpgaMgr)] ++ (0, .initSession .fpgaMgr) ::
        ([(1, .initSession .socket)] ++ (0, .enter .openSession .fpgaMgr) ::
          ([(1, .enter .openSession .socket)] ++ [(0, .leave)])))).panicked = true ∧
    Manager.after UpdateTa.flags ([((0 : Fin 2), .initSession .bsDownloader),
      (0, .enter .openSession .bsDownloader)] ++ [(0, .initSession .bsDownloader)]) =
        Manager.after UpdateTa.flags [((0 : Fin 2), .initSession .bsDownloader),
          (0, .enter .openSession .bsDownloader)] :=
  ⟨((reentry_panics UpdateTa.flags [(0, .initSession .fpgaMgr), (0, .enter .openSession .fpgaMgr)]
      (c := .fpgaMgr) (by decide) (by decide) (by decide) (by decide)).1 rfl).2
      [(1, .initSession .socket)] [(1, .enter .openSession .socket)] (by decide) .leave,
    (reentry_panics UpdateTa.flags
      [(0, .initSession .bsDownloader), (0, .enter .openSession .bsDownloader)]
      (c := .bsDownloader) (by decide) (by decide) (by decide) (by decide)).2 rfl⟩

end TrustzoneWatchdog.Tee
