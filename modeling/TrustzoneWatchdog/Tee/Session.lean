/-
**The sessions of the normal world** (`core/kernel/tee_ta_manager.c`, `core/tee/entry_std.c`).

The normal world names its sessions by number. A call looks the number up in `tee_open_sessions`,
takes a reference, and the lock too unless it is a cancellation; a close retires the session, waits
until the reference it holds is the only one, takes the session off the list and frees it. All of
this happens under `tee_ta_mutex`, so what lies between two waits is one step; a thread that waits
on a condition variable goes on when its condition holds. Threads call in any order and with any
numbers. What happens inside an application is not part of this model, only how it answers, and
neither is the wait to get in: the runs of `Tee.Core`, which has both, are runs of this model.

A session that was freed may still be looked at: such an access is recorded with its place in the
source, and reads anything. `check_params` is the one without `CFG_SECURE_DATA_PATH`, which accepts
everything.

* `Place`, `Sessions.step`: where a thread is, and its next step.
* `newSessionId_notMem`: a number that is given to a session is not in use.
* `Sessions.pulls`: the step in which a session that could not be opened is freed while somebody has
  a reference to it.
-/

import TrustzoneWatchdog.Lib.AlarmRun
import TrustzoneWatchdog.Lib.RefLock

set_option linter.unusedSectionVars false

namespace TrustzoneWatchdog.Tee

open TrustzoneWatchdog.Lib.AlarmRun TrustzoneWatchdog.Lib.RefLock

/-- `struct tee_ta_session`, as far as threads share it. -/
structure Session (T : Type*) where
  id : BitVec 32
  refCount : Nat
  /-- `THREAD_ID_INVALID` is `none`. -/
  lockThread : Option T
  unlink : Bool

/-- What `tee_ta_open_session` has when the application has answered, or was busy. -/
structure OpenAnswer where
  panicked : Bool
  wasBusy : Bool
  success : Bool
  deriving DecidableEq, Repr

/-- `res == TEE_SUCCESS`. -/
def OpenAnswer.succeeds (a : OpenAnswer) : Bool := a.success && !a.wasBusy

/-- Who calls `tee_ta_close_session`. -/
inductive Closer
  | client
  /-- `tee_ta_open_session`, with the session `s` and the answer of the application. -/
  | refused (s : Nat) (a : OpenAnswer)
  /-- `tee_ta_open_session`, which has found no context, or a panicked one. -/
  | dead
  deriving DecidableEq, Repr

/-- What a session is looked up for, if with the lock. -/
inductive Use
  | invoke
  | close (closer : Closer)
  deriving DecidableEq, Repr

/-- Where a thread is; sessions are given by their addresses. A cancellation, the one call that is
not `exclusive`, has no `use`. -/
inductive Place
  | idle
  /-- In `tee_ta_init_session`, behind the insertion into the list. -/
  | opening (s : Nat)
  | entered (s : Nat)
  /-- Before `tee_ta_put_session` in `tee_ta_open_session`. -/
  | answered (s : Nat) (a : OpenAnswer)
  /-- At the beginning of `tee_ta_close_session`. -/
  | closing (csess : Nat) (closer : Closer)
  /-- Before `tee_ta_get_session`. -/
  | looking (id : BitVec 32) (use : Option Use)
  /-- In the wait of `tee_ta_get_session`. -/
  | waiting (s : Nat) (use : Use)
  | holding (s : Nat) (use : Option Use)
  /-- In the wait of `tee_ta_unlink_session`. -/
  | unlinking (s : Nat) (closer : Closer)
  | freeing (s : Nat) (closer : Closer)
  /-- At the end of `tee_ta_open_session`; which session was closed. -/
  | reporting (s : Nat) (a : OpenAnswer) (closed : Option Nat)
  deriving DecidableEq, Repr

/-- Where a session is looked at. -/
inductive Site
  /-- `csess->id` in `tee_ta_close_session`. -/
  | closeId
  /-- `s->err_origin` in `tee_ta_open_session`. -/
  | errOrigin
  /-- `s->id` in `entry_open_session`. -/
  | openId
  /-- By a thread that has a reference. -/
  | held
  /-- `free(s)`. -/
  | free
  deriving DecidableEq, Repr

structure Sessions (T : Type*) where
  heap : Nat → Option (Session T)
  /-- The next address to be allocated; none is used twice. -/
  next : Nat
  /-- `tee_open_sessions`. -/
  openSessions : List Nat
  place : T → Place
  /-- Accesses to sessions that were freed. -/
  faults : List (Site × Nat)
  asserted : Bool
  /-- The sessions that were opened with a panicked application. -/
  dead : List Nat

/-- The calls of the normal world. -/
inductive EntryCall
  | openSession
  | closeSession (id : BitVec 32)
  | invokeCommand (id : BitVec 32)
  | cancel (id : BitVec 32)
  deriving DecidableEq, Repr

/-- What a step may ask for. -/
structure Answers where
  call : EntryCall
  /-- `calloc`. -/
  allocated : Bool
  /-- `tee_ta_init_session` finds or loads the application. -/
  loaded : Bool
  /-- How it answers; `none` without a context, or with a panicked one. -/
  answer : Option OpenAnswer
  /-- `check_client`. -/
  clientOk : Bool
  /-- What a freed session reads as. -/
  garbage : BitVec 32
  deriving DecidableEq, Repr

/-! ### The numbers of sessions -/

/-- `id++; if (!id) id++`. -/
def idAfter (id : BitVec 32) : BitVec 32 := if id + 1 = 0 then 1 else id + 1

/-- The loop of `new_session_id`, with a bound that it does not reach. -/
def searchId (used : List (BitVec 32)) (saved : BitVec 32) : Nat → BitVec 32 → BitVec 32
  | 0, _ => 0
  | rounds + 1, id =>
    if id ∉ used then id
    else if idAfter id = saved then 0
    else searchId used saved rounds (idAfter id)

def newSessionId (used : List (BitVec 32)) : BitVec 32 :=
  let saved := match used.getLast? with
    | none => 1
    | some last => idAfter last
  searchId used saved (2 ^ 32) saved

theorem searchId_notMem (used : List (BitVec 32)) (saved : BitVec 32) (rounds : Nat)
    (id : BitVec 32) (found : searchId used saved rounds id ≠ 0) :
    searchId used saved rounds id ∉ used := by
  fun_induction searchId with
  | case1 => exact absurd rfl found
  | case2 rounds id free => exact free
  | case3 => exact absurd rfl found
  | case4 rounds id _ _ ih => exact ih found

/-- A number that is given to a session is not in use. -/
theorem newSessionId_notMem {used : List (BitVec 32)} (found : newSessionId used ≠ 0) :
    newSessionId used ∉ used :=
  searchId_notMem used _ _ _ found

/-! ### The functions -/

section Functions

variable {T : Type*} [DecidableEq T]

namespace Sessions

def goto (s : Sessions T) (t : T) (x : Place) : Sessions T :=
  { s with place := Function.update s.place t x }

def write (s : Sessions T) (p : Nat) (σ : Session T) : Sessions T :=
  { s with heap := Function.update s.heap p (some σ) }

def fault (s : Sessions T) (site : Site) (p : Nat) : Sessions T :=
  { s with faults := s.faults ++ [(site, p)] }

/-- A read that does not depend on a reference. -/
def look (s : Sessions T) (site : Site) (p : Nat) : Sessions T :=
  if (s.heap p).isSome then s else s.fault site p

/-- `tee_ta_find_session_nolock`, with the contents of the session. -/
def find (s : Sessions T) (id : BitVec 32) : Option (Nat × Session T) :=
  s.openSessions.findSome? fun p => (s.heap p).bind fun σ => if σ.id = id then some (p, σ) else none

/-- The numbers in use, in the order of the list. -/
def ids (s : Sessions T) : List (BitVec 32) :=
  s.openSessions.filterMap fun p => (s.heap p).map Session.id

end Sessions

/-- What comes after `tee_ta_close_session`. -/
def Closer.next (closed : Option Nat) : Closer → Place
  | .client | .dead => .idle
  | .refused s a => .reporting s a closed

/-- What comes after a `tee_ta_get_session` that returns `NULL`. -/
def Use.failed : Use → Place
  | .invoke => .idle
  | .close closer => closer.next none

/-- What comes after the `tee_ta_put_session` of an open. -/
def OpenAnswer.next (a : OpenAnswer) (s : Nat) : Place :=
  if a.panicked || !a.succeeds then .closing s (.refused s a) else .reporting s a none

namespace Sessions

variable (s : Sessions T) (t : T)

/-- `dec_session_ref_count`. -/
def decSessionRefCount (p : Nat) (σ : Session T) : Sessions T :=
  if σ.refCount = 0 then { s with asserted := true }
  else s.write p { σ with refCount := σ.refCount - 1 }

def teeTaPutSession (p : Nat) : Sessions T :=
  match s.heap p with
  | none => s.fault .held p
  | some σ =>
    let lockThread := if σ.lockThread = some t then none else σ.lockThread
    s.decSessionRefCount p { σ with lockThread := lockThread }

/-- `tee_ta_get_session` from its wait on. -/
def acquire (p : Nat) (σ : Session T) (use : Use) : Sessions T :=
  if σ.unlink then (s.decSessionRefCount p σ).goto t use.failed
  else if σ.lockThread = none then
    (s.write p { σ with lockThread := some t }).goto t (.holding p (some use))
  else (s.write p σ).goto t (.waiting p use)

def teeTaGetSession (id : BitVec 32) (use : Option Use) : Sessions T :=
  match s.find id with
  | none => s.goto t (use.elim .idle Use.failed)
  | some (p, σ) =>
    if σ.unlink then s.goto t (use.elim .idle Use.failed)
    else
      let σ := { σ with refCount := σ.refCount + 1 }
      match use with
      | none => (s.write p σ).goto t (.holding p none)
      | some use =>
        if σ.lockThread = some t then { s with asserted := true } else s.acquire t p σ use

/-- `tee_ta_unlink_session` up to its wait. -/
def teeTaUnlinkSession (p : Nat) (closer : Closer) : Sessions T :=
  match s.heap p with
  | none => s.fault .held p
  | some σ =>
    if σ.refCount = 0 ∨ σ.lockThread ≠ some t ∨ σ.unlink = true then { s with asserted := true }
    else (s.write p { σ with unlink := true }).goto t (.unlinking p closer)

/-- `TAILQ_INSERT_TAIL` of a session that was allocated. -/
def insert (σ : Session T) : Sessions T :=
  { s with
    heap := Function.update s.heap s.next (some σ)
    next := s.next + 1
    openSessions := s.openSessions ++ [s.next] }

/-- The beginning of a call; `calloc`, `new_session_id` and the insertion into the list are one
step, as nobody else sees the session before. -/
def enter (env : Answers) : Sessions T :=
  match env.call with
  | .openSession =>
    if env.allocated ∧ newSessionId s.ids ≠ 0 then
      (s.insert ⟨newSessionId s.ids, 1, none, false⟩).goto t (.opening s.next)
    else s
  | .closeSession id =>
    match s.find id with
    | none => s
    | some (p, _) => s.goto t (.closing p .client)
  | .invokeCommand id => s.goto t (.looking id (some .invoke))
  | .cancel id => s.goto t (.looking id none)

/-- `TAILQ_REMOVE` and `free`. -/
def destroy (p : Nat) : Sessions T :=
  { s with openSessions := s.openSessions.erase p, heap := Function.update s.heap p none }

/-- The last reads of `tee_ta_open_session` and `entry_open_session`. -/
def report (p : Nat) (a : OpenAnswer) : Sessions T :=
  let s := if a.panicked || a.wasBusy then s else s.look .errOrigin p
  if a.succeeds then s.look .openId p else s

/-- One step of thread `t`. -/
def step (e : T × Answers) : Sessions T :=
  let t := e.1
  let env := e.2
  if s.asserted then s
  else
    match s.place t with
    | .idle => s.enter t env
    | .opening p => if env.loaded then s.goto t (.entered p) else (s.destroy p).goto t .idle
    | .entered p =>
      match env.answer with
      | none => { s.goto t (.closing p .dead) with dead := s.dead ++ [p] }
      | some a => s.goto t (.answered p a)
    | .answered p a => (s.teeTaPutSession t p).goto t (a.next p)
    | .closing p closer =>
      match s.heap p with
      | some σ => s.goto t (.looking σ.id (some (.close closer)))
      | none => (s.fault .closeId p).goto t (.looking env.garbage (some (.close closer)))
    | .looking id use => s.teeTaGetSession t id use
    | .waiting p use =>
      match s.heap p with
      | none => s.fault .held p
      | some σ => s.acquire t p σ use
    | .holding p (some (.close closer)) =>
      -- `KERN_IDENTITY` always passes `check_client`
      if closer = .client ∧ env.clientOk = false then (s.teeTaPutSession t p).goto t .idle
      else s.teeTaUnlinkSession t p closer
    | .holding p _ => (s.teeTaPutSession t p).goto t .idle
    | .unlinking p closer =>
      match s.heap p with
      | none => s.fault .held p
      | some σ =>
        if σ.refCount = 1 then
          { s.goto t (.freeing p closer) with openSessions := s.openSessions.erase p }
        else s
    | .freeing p closer =>
      match s.heap p with
      | none => s.fault .free p
      | some _ => (s.destroy p).goto t (closer.next (some p))
    | .reporting p a _ => (s.report p a).goto t .idle

/-- An open fails to load its application while somebody else has its session. -/
def pulls (e : T × Answers) : Bool :=
  match s.place e.1 with
  | .opening p => !e.2.loaded && (s.heap p).any fun σ => σ.refCount ≠ 1
  | _ => false

end Sessions

def Sessions.init : Sessions T where
  heap _ := none
  next := 0
  openSessions := []
  place _ := .idle
  faults := []
  asserted := false
  dead := []

/-- The sessions after the steps of any threads in any order. -/
def Sessions.after (events : List (T × Answers)) : Sessions T :=
  run Sessions.step Sessions.init events

end Functions

end TrustzoneWatchdog.Tee
