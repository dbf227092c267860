/-
**Is the key confirmed before a block is decrypted?**

The key is loaded before the loop and again at the end of every round that goes on. The two places
wait for `KEY_INIT_DONE` in the same way and differ in what they do with the result: the round
returns an error, the entry logs it, and the variable is overwritten by `zynqmp_csudma_prepare`,
whose own error is logged and overwritten by the first decrypt call.

* `KeyFirst`: every decrypt call has a key load behind the block before it that was confirmed.
* `keyConfirmed_iff`: the loader keeps this exactly when the first key load is confirmed and the
  source channel is prepared. Every later key load is looked at.
* `keyConfirmed_refuted`: the first key load times out, and the image is loaded.
-/

import TrustzoneWatchdog.Loader.FailStop

namespace TrustzoneWatchdog.Loader

/-- Part of the work on a block, its end included. -/
def Event.isBlock : Event → Bool
  | .decrypt => true
  | .transfer _ => true
  | .decrypted _ => true
  | _ => false

/-- Every decrypt call is preceded by a confirmed key load, issued after the previous block. -/
def KeyFirst (events : List Event) : Prop :=
  ∀ before after, events = before ++ .decrypt :: after →
    ∃ earlier between, before = earlier ++ .keyLoad teeSuccess :: between ∧
      ∀ e ∈ between, e.isBlock = false

section KeyLoad

variable (board : Board) (img : Image) (env : CmdEnv)

/-- The call returns an error once it has been given enough rounds. -/
def ReturnsError (st : St) : Prop :=
  ∃ m code, code ≠ teeSuccess ∧
    ∀ later ≥ m, (zynqmpCsuSecurePcapWrite board img env later st).2 = some code

/-- **No block goes through an engine whose key was not confirmed.** -/
structure KeyConfirmed (st : St) : Prop where
  confirmed : ∀ n, KeyFirst (writeEvents board img env n st)
  /-- A key load that times out ends the work, with an error. -/
  timedOut : ∀ n before ret after, writeEvents board img env n st =
    before ++ .keyLoad ret :: after → ret ≠ teeSuccess →
    (∀ e ∈ after, e.isWork = false) ∧ ReturnsError board img env st
  /-- So does a source channel that cannot be prepared before the loop. -/
  unprepared : board.csu = true ∧ board.aes = true → env.prepareVa = false →
    (∀ n, Event.decrypt ∉ writeEvents board img env n st) ∧ ReturnsError board img env st

/-- What the key load before the loop returns. -/
def firstKeyLoad : TeeResult := waitForEvent env.keySts aesStsKeyInitDone aesStsKeyInitDone

variable {board img env}

/-! ### Key loads in the trace -/

/-- A confirmed key load, then a block. -/
theorem KeyFirst.call {events init rest : List Event} (first : KeyFirst events)
    (loaded : events = init ++ [.keyLoad teeSuccess]) (one : Event.decrypt ∉ rest) :
    KeyFirst (events ++ .decrypt :: rest) := by
  have here : ∃ earlier between, events = earlier ++ .keyLoad teeSuccess :: between ∧
      ∀ e ∈ between, e.isBlock = false := ⟨init, [], loaded, by simp⟩
  intro before after split
  rcases List.append_eq_append_iff.mp split with ⟨extra, start, block⟩ | ⟨extra, inside, block⟩
  · cases extra with
    | nil =>
      rw [start, List.append_nil]
      exact here
    | cons e extra =>
      refine absurd ?_ one
      rw [(List.cons.inj block).2]
      simp
  · cases extra with
    | nil =>
      rw [List.append_nil] at inside
      rw [← inside]
      exact here
    | cons e extra =>
      rw [← (List.cons.inj block).1] at inside
      exact first before extra inside

theorem KeyFirst.of_no_call {events : List Event} (none : Event.decrypt ∉ events) :
    KeyFirst events := by
  intro before after split
  refine absurd ?_ none
  rw [split]
  simp

variable (board img env) in
theorem blkEvents_cons (st : St) (k : Nat) :
    ∃ rest, blkEvents board img env st k = .decrypt :: rest ∧ Event.decrypt ∉ rest ∧
      ∀ ret, Event.keyLoad ret ∉ rest := by
  obtain ⟨sent, _, events, _⟩ := blkEvents_eq board img env st k
  refine ⟨_, events, ?_, ?_⟩
  · cases verdict board img env st.bsIv k <;> simp
  · cases verdict board img env st.bsIv k <;> simp

/-- The entry and the blocks that went on: every call has its key, and the last event is a
confirmed key load. -/
theorem keyFirst_before (confirmed : firstKeyLoad env = teeSuccess) (st : St) (k : Nat) :
    KeyFirst (entryEvents img env ++ eventsBefore board img env st k) ∧
      ∃ init, entryEvents img env ++ eventsBefore board img env st k =
        init ++ [.keyLoad teeSuccess] := by
  induction k with
  | zero =>
    have entry : entryEvents img env ++ eventsBefore board img env st 0 =
        [.read headerTableOffset 4, .read (img.headerTable + 0x20) 4,
          .read (img.headerTable + 0x4) 4] ++ [.keyLoad teeSuccess] := by
      rw [← confirmed]
      rfl
    rw [entry]
    exact ⟨KeyFirst.of_no_call (by simp), _, rfl⟩
  | succ k ih =>
    obtain ⟨first, init, loaded⟩ := ih
    obtain ⟨rest, block, one, _⟩ := blkEvents_cons board img env st k
    rw [eventsBefore_succ, ← List.append_assoc, block, List.cons_append]
    refine ⟨first.call loaded (by simp [one]), ?_⟩
    exact ⟨entryEvents img env ++ eventsBefore board img env st k ++ .decrypt :: rest, by simp⟩

theorem keyLoad_mem_entryEvents {ret : TeeResult} :
    Event.keyLoad ret ∈ entryEvents img env ↔ ret = firstKeyLoad env := by
  simp [entryEvents, firstKeyLoad]

/-- A key load among the entry and the blocks that went on was confirmed. -/
theorem keyLoad_before (confirmed : firstKeyLoad env = teeSuccess) {st : St} {k : Nat}
    {ret : TeeResult}
    (here : Event.keyLoad ret ∈ entryEvents img env ++ eventsBefore board img env st k) :
    ret = teeSuccess := by
  rcases List.mem_append.mp here with entry | block
  · exact (keyLoad_mem_entryEvents.mp entry).trans confirmed
  · obtain ⟨j, _, inside⟩ := List.mem_flatMap.mp block
    obtain ⟨rest, events, _, none⟩ := blkEvents_cons board img env st j
    rw [events] at inside
    simpa [none ret] using inside

theorem afterLoop_returned {left : St × Exit} {ret : TeeResult} (exit : left.2 = .returned ret) :
    (afterLoop board env left).2 = some ret := by
  obtain ⟨st, _⟩ := left
  subst exit
  rfl

/-! ### Exactly when -/

theorem KeyConfirmed.first_confirmed {st : St} (keeps : KeyConfirmed board img env st)
    (mapped : board.csu = true ∧ board.aes = true) : firstKeyLoad env = teeSuccess := by
  obtain ⟨tail, events⟩ := writeEvents_reached mapped (reaches_zero board img env st.bsIv)
  obtain ⟨rest, block, _⟩ := blkEvents_cons board img env (entryState img env st) 0
  obtain ⟨earlier, between, loaded, _⟩ := keeps.confirmed 1 (entryEvents img env) (rest ++ tail)
    (by rw [events, block]; simp [eventsBefore])
  have member : Event.keyLoad teeSuccess ∈ entryEvents img env := by
    rw [loaded]
    simp
  exact (keyLoad_mem_entryEvents.mp member).symm

theorem KeyConfirmed.prepared {st : St} (keeps : KeyConfirmed board img env st)
    (mapped : board.csu = true ∧ board.aes = true) : env.prepareVa = true := by
  by_contra unprepared
  have none := (keeps.unprepared mapped (Bool.eq_false_iff.mpr unprepared)).1 1
  obtain ⟨rest, block, _⟩ := blkEvents_cons board img env (entryState img env st) 0
  refine none (mem_writeEvents_of_block mapped Nat.one_pos (reaches_zero board img env st.bsIv) ?_)
  rw [block]
  exact List.mem_cons_self

/-- With the first key confirmed, every call has its key. -/
theorem keyFirst_writeEvents (mapped : board.csu = true ∧ board.aes = true)
    (confirmed : firstKeyLoad env = teeSuccess) (n : Nat) (st : St) :
    KeyFirst (writeEvents board img env n st) := by
  rcases writeEvents_cases mapped n st with ⟨_, events⟩ | ⟨k, _, _, _, tail, short, events⟩
  · rw [events]
    exact (keyFirst_before confirmed _ n).1
  · have first : KeyFirst (entryEvents img env ++
        eventsBefore board img env (entryState img env st) k) ∧ _ :=
      keyFirst_before confirmed (entryState img env st) k
    obtain ⟨before, init, loaded⟩ := first
    obtain ⟨rest, block, one, _⟩ := blkEvents_cons board img env (entryState img env st) k
    have quiet : Event.decrypt ∉ tail := by
      rcases short with rfl | ⟨ret, rfl, _⟩ <;> simp
    rw [events, block, List.append_assoc, List.cons_append]
    exact before.call loaded (by simp [one, quiet])

/-- With the first key confirmed, a key load that timed out is the last event, and the call returns
an error. -/
theorem keyLoad_timedOut (mapped : board.csu = true ∧ board.aes = true)
    (confirmed : firstKeyLoad env = teeSuccess) {n : Nat} {st : St} {before after : List Event}
    {ret : TeeResult} (split : writeEvents board img env n st = before ++ .keyLoad ret :: after)
    (late : ret ≠ teeSuccess) : after = [] ∧ ReturnsError board img env st := by
  have early (k : Nat) : Event.keyLoad ret ∉
      entryEvents img env ++ eventsBefore board img env (entryState img env st) k :=
    fun here => late (keyLoad_before confirmed here)
  rcases writeEvents_cases mapped n st with
    ⟨_, events⟩ | ⟨k, below, reaches, stops, tail, short, events⟩
  · refine absurd ?_ (early n)
    rw [← events, split]
    simp
  · obtain ⟨rest, block, _, none⟩ := blkEvents_cons board img env (entryState img env st) k
    have absent : Event.keyLoad ret ∉ entryEvents img env ++
        eventsBefore board img env (entryState img env st) k ++
          blkEvents board img env (entryState img env st) k := by
      rw [List.mem_append, block]
      rintro (before | inside)
      · exact early k before
      · simp [none ret] at inside
    rw [events] at split
    obtain ⟨between, last⟩ := split_right split absent
    rcases short with rfl | ⟨code, rfl, error⟩
    · simp at last
    · have alone : after = [] := by
        cases between with
        | nil => exact (List.cons.inj last).2.symm
        | cons e between => simp at last
      refine ⟨alone, k + 1, teeErrorGeneric, teeErrorGeneric_ne, fun later enough => ?_⟩
      rw [secureWrite_left mapped reaches stops enough, afterLoop_returned error]

/-- **Exactly when the key is confirmed before every block**: when the key load and the preparation
of the source channel before the loop succeed. -/
theorem keyConfirmed_iff (board : Board) (img : Image) (env : CmdEnv) (st : St) :
    KeyConfirmed board img env st ↔
      (board.csu = true ∧ board.aes = true →
        waitForEvent env.keySts aesStsKeyInitDone aesStsKeyInitDone = teeSuccess ∧
          env.prepareVa = true) := by
  constructor
  · intro keeps mapped
    exact ⟨keeps.first_confirmed mapped, keeps.prepared mapped⟩
  · intro ready
    by_cases mapped : board.csu = true ∧ board.aes = true
    · obtain ⟨confirmed, prepared⟩ := ready mapped
      refine ⟨fun n => keyFirst_writeEvents mapped confirmed n st,
        fun n before ret after split late => ?_, fun _ unprepared => ?_⟩
      · obtain ⟨rfl, error⟩ := keyLoad_timedOut mapped confirmed split late
        exact ⟨by simp, error⟩
      · exact absurd (prepared.symm.trans unprepared) (by decide)
    · -- neither a key load nor a decrypt call
      refine ⟨fun n => ?_, fun n before ret after split _ => ?_, fun both => absurd both mapped⟩
      · rw [writeEvents_unmapped mapped]
        exact KeyFirst.of_no_call (by simp)
      · have here : Event.keyLoad ret ∈ writeEvents board img env n st := by rw [split]; simp
        rw [writeEvents_unmapped mapped] at here
        simp at here

end KeyLoad

/-- The first key load times out, everything else is right. -/
def lateKey : CmdEnv := { oneBlockEngine with keySts := [] }

/-- **An image is loaded with a key that was not confirmed**, and reported as a success. -/
theorem keyConfirmed_refuted :
    (zynqmpCsuSecurePcapWrite Board.mapped oneBlockImage lateKey 2 St.validated).2 =
        some teeSuccess ∧
      ¬ KeyConfirmed Board.mapped oneBlockImage lateKey St.validated := by
  refine ⟨by decide +kernel, fun keeps => ?_⟩
  exact absurd (keeps.first_confirmed ⟨rfl, rfl⟩) (by decide)

end TrustzoneWatchdog.Loader
