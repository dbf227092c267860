/-
**Is a failed block the last one?**

`FailStop` is what the loader owes its caller: after a decrypt call that returned an error nothing
more is decrypted or streamed, the call returns an error, and it returns `TEE_SUCCESS` only if every
tag was accepted. The loop logs the error of a decrypt call and goes on; the variable that holds it
is overwritten by the key load at the end of the round.

* `failStop_iff`: exactly when the loader is fail-stop. A block that fails must be one after which
  the loop ends for another reason.
* `failStop_refuted`: a wrong tag on the first secure header, then a good block: `TEE_SUCCESS`.
-/

import TrustzoneWatchdog.Loader.Blocks

namespace TrustzoneWatchdog.Loader

section FailStop

variable (board : Board) (img : Image) (env : CmdEnv)

/-- Work on a block. -/
def Event.isWork : Event → Bool
  | .decrypt => true
  | .transfer _ => true
  | _ => false

/-- **Authentication is fail-stop.** -/
structure FailStop (st : St) : Prop where
  /-- The first block that fails is the last one processed. -/
  last : ∀ n before ret after, writeEvents board img env n st = before ++ .decrypted ret :: after →
    ret ≠ teeSuccess → ∀ e ∈ after, e.isWork = false
  /-- Its error makes the call return an error. -/
  error : ∀ n ret, .decrypted ret ∈ writeEvents board img env n st → ret ≠ teeSuccess →
    ∃ m code, code ≠ teeSuccess ∧
      ∀ later ≥ m, (zynqmpCsuSecurePcapWrite board img env later st).2 = some code
  /-- Success means that the tag of every block processed was accepted. -/
  verified : ∀ n, (zynqmpCsuSecurePcapWrite board img env n st).2 = some teeSuccess →
    ∀ k < (writeEvents board img env n st).count .decrypt,
      (env.block k).aesSts &&& aesStsGcmTagOk ≠ 0#32

variable {board img env}

/-! ### Where the events of a call come from -/

theorem mem_blkEvents_decrypted {st : St} {k : Nat} {ret : TeeResult} :
    Event.decrypted ret ∈ blkEvents board img env st k ↔
      verdict board img env st.bsIv k = some ret := by
  obtain ⟨sent, _, events, _⟩ := blkEvents_eq board img env st k
  rw [events]
  cases verdict board img env st.bsIv k with
  | none => simp
  | some code => simp [eq_comm]

theorem mem_eventsBefore_decrypted {st : St} {k : Nat} {ret : TeeResult} :
    Event.decrypted ret ∈ eventsBefore board img env st k ↔
      ∃ j < k, verdict board img env st.bsIv j = some ret := by
  simp [eventsBefore, mem_blkEvents_decrypted]

/-! ### Failed blocks -/

variable (board img env) in
/-- The loop does not go on after a block that failed. -/
def FailureEndsLoop (bsIv : Option Ptr) : Prop :=
  ∀ k ret, Reaches board img env bsIv k → verdict board img env bsIv k = some ret →
    ret ≠ teeSuccess → ¬ GoesOn board img env bsIv k

theorem FailureEndsLoop.passed {bsIv : Option Ptr} (ends : FailureEndsLoop board img env bsIv)
    {k : Nat} (reaches : Reaches board img env bsIv k) {j : Nat} (below : j < k) :
    verdict board img env bsIv j = some teeSuccess := by
  have goesOn := reaches j below
  obtain ⟨ret, returned⟩ := Option.ne_none_iff_exists'.mp goesOn.1
  by_contra failed
  refine ends j ret (reaches.mono below.le) returned ?_ goesOn
  exact fun ok => failed (ok ▸ returned)

/-- Behind the entry and the blocks that went on there is no failure. -/
theorem FailureEndsLoop.no_failure {st : St} (ends : FailureEndsLoop board img env st.bsIv)
    {k : Nat} (reaches : Reaches board img env st.bsIv k) {ret : TeeResult}
    (fails : ret ≠ teeSuccess) :
    Event.decrypted ret ∉
      entryEvents img env ++ eventsBefore board img env (entryState img env st) k := by
  intro here
  rcases List.mem_append.mp here with entry | block
  · simp [entryEvents] at entry
  · obtain ⟨j, below, returned⟩ := mem_eventsBefore_decrypted.mp block
    rw [entryState_bsIv, ends.passed reaches below] at returned
    exact fails (Option.some.inj returned).symm

/-- An entry that is not in the first part of a list lies in the second. -/
theorem split_right {α : Type*} {first second before after : List α} {x : α}
    (split : first ++ second = before ++ x :: after) (absent : x ∉ first) :
    ∃ between, second = between ++ x :: after := by
  rcases List.append_eq_append_iff.mp split with ⟨between, _, rest⟩ | ⟨between, inside, _⟩
  · exact ⟨between, rest⟩
  · cases between with
    | nil => exact ⟨[], by simp_all⟩
    | cons y between =>
      refine absurd ?_ absent
      have same : x = y := by simp_all
      rw [inside, same]
      simp

/-- If the loop goes on after a failure, the next block is worked on behind it. -/
theorem FailStop.failureEndsLoop {st : St} (stop : FailStop board img env st)
    (mapped : board.csu = true ∧ board.aes = true) : FailureEndsLoop board img env st.bsIv := by
  intro k ret reaches returned fails goesOn
  obtain ⟨tail, events⟩ := writeEvents_reached mapped (reaches.succ goesOn)
  have failure : Event.decrypted ret ∈ blkEvents board img env (entryState img env st) k := by
    rw [mem_blkEvents_decrypted, entryState_bsIv]
    exact returned
  obtain ⟨early, late, split⟩ := List.append_of_mem failure
  have next : Event.decrypt ∈ blkEvents board img env (entryState img env st) (k + 1) :=
    List.count_pos_iff.mp (by rw [count_blkEvents]; exact Nat.one_pos)
  have idle := stop.last (k + 2)
    (entryEvents img env ++ eventsBefore board img env (entryState img env st) k ++ early) ret
    (late ++ [.keyLoad teeSuccess] ++ blkEvents board img env (entryState img env st) (k + 1) ++
      tail) (by rw [events, eventsBefore_succ, split]; simp) fails .decrypt (by simp [next])
  cases idle

/-- Under the condition a failure lies in the block in which the loop is left. -/
theorem FailureEndsLoop.failed_block {st : St} (ends : FailureEndsLoop board img env st.bsIv)
    (mapped : board.csu = true ∧ board.aes = true) {n : Nat} {ret : TeeResult}
    (here : Event.decrypted ret ∈ writeEvents board img env n st) (fails : ret ≠ teeSuccess) :
    ∃ k < n, Reaches board img env st.bsIv k ∧ ¬ GoesOn board img env st.bsIv k ∧
      verdict board img env st.bsIv k = some ret := by
  rcases writeEvents_cases mapped n st with
    ⟨reaches, events⟩ | ⟨k, below, reaches, stops, tail, short, events⟩
  · rw [events] at here
    exact absurd here (ends.no_failure reaches fails)
  · rw [events, List.mem_append, List.mem_append] at here
    refine ⟨k, below, reaches, stops, ?_⟩
    rcases here with (earlier | block) | late
    · exact absurd earlier (ends.no_failure reaches fails)
    · rw [mem_blkEvents_decrypted, entryState_bsIv] at block
      exact block
    · rcases short with rfl | ⟨code, rfl, _⟩ <;> simp at late

/-- Under the condition nothing but a key load follows a failure. -/
theorem FailureEndsLoop.last {st : St} (ends : FailureEndsLoop board img env st.bsIv)
    (mapped : board.csu = true ∧ board.aes = true) {n : Nat} {before after : List Event}
    {ret : TeeResult} (split : writeEvents board img env n st = before ++ .decrypted ret :: after)
    (fails : ret ≠ teeSuccess) : ∀ e ∈ after, e.isWork = false := by
  have here : Event.decrypted ret ∈ writeEvents board img env n st := by rw [split]; simp
  obtain ⟨k, below, reaches, stops, returned⟩ := ends.failed_block mapped here fails
  obtain ⟨tail, short, events⟩ := writeEvents_left mapped reaches stops below
  obtain ⟨sent, _, block, _⟩ := blkEvents_eq board img env (entryState img env st) k
  rw [entryState_bsIv, returned] at block
  rw [events, block] at split
  have regroup : (entryEvents img env ++ eventsBefore board img env (entryState img env st) k ++
      .decrypt :: sent.map Event.transfer) ++ .decrypted ret :: tail =
        before ++ .decrypted ret :: after := by
    rw [← split]
    simp
  have absent : Event.decrypted ret ∉ entryEvents img env ++
      eventsBefore board img env (entryState img env st) k ++
        .decrypt :: sent.map Event.transfer := by
    rw [List.mem_append]
    rintro (earlier | sending)
    · exact ends.no_failure reaches fails earlier
    · simp at sending
  obtain ⟨between, rest⟩ := split_right regroup absent
  intro e inside
  have inTail : e ∈ tail := by
    cases between with
    | nil => rw [(List.cons.inj rest).2]; exact inside
    | cons y between => rw [(List.cons.inj rest).2]; simp [inside]
  rcases short with rfl | ⟨code, rfl, _⟩
  · simp at inTail
  · rw [List.mem_singleton.mp inTail]
    rfl

/-- Under the condition success means that every block processed passed. -/
theorem FailureEndsLoop.verified {st : St} (ends : FailureEndsLoop board img env st.bsIv)
    (mapped : board.csu = true ∧ board.aes = true) {n : Nat}
    (success : (zynqmpCsuSecurePcapWrite board img env n st).2 = some teeSuccess) {k : Nat}
    (below : k < (writeEvents board img env n st).count .decrypt) :
    verdict board img env st.bsIv k = some teeSuccess := by
  rcases secureWrite_cases mapped n st with ⟨_, running⟩ | ⟨j, earlier, reaches, stops, left⟩
  · rw [running] at success
    cases success
  · rw [left, exit_success_iff, entryState_bsIv] at success
    rw [count_writeEvents_left mapped reaches stops earlier] at below
    rcases Nat.lt_succ_iff_lt_or_eq.mp below with less | rfl
    · exact ends.passed reaches less
    · exact success.1

/-- **Exactly when the loader is fail-stop**: when its registers are mapped, no block that fails is
one after which the loop goes on. -/
theorem failStop_iff (board : Board) (img : Image) (env : CmdEnv) (st : St) :
    FailStop board img env st ↔
      (board.csu = true ∧ board.aes = true → FailureEndsLoop board img env st.bsIv) := by
  constructor
  · exact fun stop mapped => stop.failureEndsLoop mapped
  · intro condition
    by_cases mapped : board.csu = true ∧ board.aes = true
    · have ends := condition mapped
      refine ⟨fun n before ret after split fails => ends.last mapped split fails, ?_,
        fun n success k below => tagOk_of_verdict (ends.verified mapped success below)⟩
      intro n ret here fails
      obtain ⟨k, _, reaches, stops, returned⟩ := ends.failed_block mapped here fails
      rw [← entryState_bsIv] at returned
      obtain ⟨code, error, returns⟩ := exit_error returned fails
      refine ⟨k + 1, code, error, fun later enough => ?_⟩
      rw [secureWrite_left mapped reaches stops enough, returns]
    · -- nothing is decrypted at all
      have quiet (n : Nat) (ret : TeeResult) :
          Event.decrypted ret ∉ writeEvents board img env n st := by
        rw [writeEvents_unmapped mapped]
        simp
      refine ⟨fun n before ret after split _ => absurd ?_ (quiet n ret),
        fun n ret here _ => absurd here (quiet n ret), fun n success => ?_⟩
      · rw [split]
        simp
      · rw [secureWrite_unmapped mapped] at success
        exact absurd (Option.some.inj success) teeErrorGeneric_ne

/-- The tag of the first secure header is wrong, everything else is right. -/
def wrongFirstTag : CmdEnv := CmdEnv.passing fun
  | 0 => { BlockEnv.passing 0x02000000#32 with aesSts := 0#32 }
  | _ => BlockEnv.passing 0#32

/-- **A wrong tag on the first secure header is reported as success**, with a data block streamed
behind it. -/
theorem failStop_refuted :
    ¬ FailStop Board.mapped oneBlockImage wrongFirstTag
      { St.init with bsIv := some ⟨.ivArr, 0⟩ } := by
  intro stop
  have success : (zynqmpCsuSecurePcapWrite Board.mapped oneBlockImage wrongFirstTag 2
      { St.init with bsIv := some ⟨.ivArr, 0⟩ }).2 = some teeSuccess := by decide +kernel
  have processed : 0 < (writeEvents Board.mapped oneBlockImage wrongFirstTag 2
      { St.init with bsIv := some ⟨.ivArr, 0⟩ }).count .decrypt := by decide +kernel
  exact stop.verified 2 success 0 processed (by decide)

end FailStop

end TrustzoneWatchdog.Loader
