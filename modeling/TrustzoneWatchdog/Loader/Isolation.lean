/-
**Are the partitions isolated while they are reconfigured?**

A run is a sequence of write commands. A command that never returns keeps the FPGA manager busy, so
nothing runs after it. `Isolated` asks that image data is streamed only while both decouplers hold
`DFX_DECOUPLE`, and that the partitions are connected after a command only if the last command that
streamed any image data returned `TEE_SUCCESS`.

* `Streams`, `Loads`, `Returns`: what a command does, from its parameters and the answers of the
  hardware.
* `ptaWrite_streams`, `ptaWrite_dfx`, `ptaWrite_loads`: that the code does it.
* `isolated_iff`: exactly when a run is isolated.
* `isolated_refuted`: one command whose second block is refused connects a half-programmed
  partition.
-/

import TrustzoneWatchdog.Lib.AlarmRun
import TrustzoneWatchdog.Loader.FpgaMgr

namespace TrustzoneWatchdog.Loader

open Lib.AlarmRun

/-- A write command, the answers it gets, and how many rounds of its loop have been run. -/
structure Cmd where
  params : Params
  env : CmdEnv
  rounds : Nat

/-- Some decoupler connects its partition. -/
def Dfx.Connects (dfx : Dfx) : Prop := dfx.decoupler1 = dfxCouple ∨ dfx.decoupler0 = dfxCouple

def Event.isImage : Event → Bool
  | .transfer t => t.src.base == .image
  | _ => false

/-! ### Runs -/

/-- The FPGA manager after some commands. -/
structure Run where
  st : St
  /-- What the last command that streamed image data returned. -/
  last : Option TeeResult
  /-- Every command has returned. -/
  returned : Bool

def Run.init : Run where
  st := St.init
  last := none
  returned := true

section Run

variable (board : Board)

def Cmd.events (c : Cmd) (st : St) : List Event := ptaEvents board c.params c.env c.rounds st

def Run.step (r : Run) (c : Cmd) : Run :=
  if !r.returned then r
  else
    let written := ptaZynqmpFpgaWrite board c.params c.env c.rounds r.st
    match written.2 with
    | none => { r with st := written.1, returned := false }
    | some ret =>
      { r with
        st := written.1
        last := if (c.events board r.st).any Event.isImage then some ret else r.last }

def Run.after (cmds : List Cmd) : Run := run (Run.step board) Run.init cmds

/-- The last command that streamed image data completed, or there was none. -/
def Run.Clean (r : Run) : Prop := ∀ ret, r.last = some ret → ret = teeSuccess

/-- **The partitions are isolated over a whole run.** -/
structure Isolated (cmds : List Cmd) : Prop where
  /-- Image data is streamed only between decoupled partitions. -/
  streaming : ∀ t, Event.transfer t ∈ (Run.after board cmds).st.trace → t.src.base = .image →
    t.dfx = Dfx.decoupled
  /-- After a command returned, only a completed load is connected. -/
  connecting : ∀ before, before <+: cmds → (Run.after board before).returned = true →
    (Run.after board before).st.dfx.Connects → (Run.after board before).Clean

/-! ### What a command does -/

/-- The IV pointer that validation leaves. -/
def imageIv : Option Ptr := some ⟨.ivArr, 0⟩

/-- The command streams some image data. -/
def Cmd.Streams (c : Cmd) : Prop :=
  ∃ img, Admits board c.params c.env img ∧ (board.csu = true ∧ board.aes = true) ∧
    ∃ k < c.rounds, Reaches board img c.env imageIv k ∧ streamsAt board img c.env imageIv k = true

/-- The loop of the command ends, and every decrypt call in it returned. -/
def Cmd.Returns (c : Cmd) : Prop :=
  ∀ img, Admits board c.params c.env img → board.csu = true ∧ board.aes = true →
    ∃ k < c.rounds, Reaches board img c.env imageIv k ∧ ¬ GoesOn board img c.env imageIv k ∧
      verdict board img c.env imageIv k ≠ none

/-- The command loads its image: the last block passes, the lengths add up, the PCAP is done. -/
def Cmd.Loads (c : Cmd) : Prop :=
  ∃ img, Admits board c.params c.env img ∧ (board.csu = true ∧ board.aes = true) ∧
    ∃ k < c.rounds, Reaches board img c.env imageIv k ∧
      verdict board img c.env imageIv k = some teeSuccess ∧ nextBlkLen c.env k = 0#32 ∧
      announced c.env (k + 1) = img.unEncDataLen ∧ pcapWaitForDone board c.env = teeSuccess ∧
      pcapWaitForPLDone board c.env = teeSuccess

/-- The command gets as far as the decouplers. -/
def Cmd.Admitted (c : Cmd) : Prop := ∃ img, Admits board c.params c.env img

/-- **What a command needs** in the state it finds: if it streams, that its `DFX_DECOUPLE` arrives
or the partitions are still decoupled; and if the partitions are connected when it returns, that the
last load that streamed is complete. -/
structure SafeCmd (r : Run) (c : Cmd) : Prop where
  streaming : c.Streams board → c.env.decoupleVa = true ∨ r.st.dfx = Dfx.decoupled
  connecting : c.Admitted board → c.Returns board →
    c.env.coupleVa = true ∨ c.env.decoupleVa = false ∧ r.st.dfx.Connects →
    (c.Streams board → c.Loads board) ∧ (¬ c.Streams board → r.Clean)

variable {board}

/-! ### The code does it -/

theorem isolatedState_dfx (img : Image) (env : CmdEnv) (st : St) :
    (isolatedState board img env st).dfx = if env.decoupleVa then Dfx.decoupled else st.dfx := by
  unfold isolatedState zynqmpDfxDecouple
  cases env.decoupleVa with
  | false => exact validate_dfx board.build img st
  | true => rfl

def Event.isRead : Event → Bool
  | .read _ _ => true
  | _ => false

theorem isRead_of_mem_validateReads {build : Build} {img : Image} {e : Event}
    (here : e ∈ validateReads build img) : e.isRead = true := by
  rcases List.mem_append.mp here with magic | header
  · obtain ⟨access, _, rfl⟩ := List.mem_map.mp magic
    rfl
  · unfold fieldReads at header
    split_ifs at header <;> simp only [List.mem_cons, List.not_mem_nil, or_false] at header <;>
      rcases header with rfl | rfl | rfl | rfl <;> rfl

/-- Two images cannot both be the command's. -/
theorem Admits.unique {params : Params} {env : CmdEnv} {img img' : Image}
    (first : Admits board params env img) (second : Admits board params env img') : img = img' :=
  Option.some.inj (first.1.2.1.symm.trans second.1.2.1)

/-- A command that is not admitted fails, only reads, and does not touch the decouplers. -/
theorem ptaWrite_unadmitted {c : Cmd} (refused : ¬ c.Admitted board) (st : St) :
    (∃ ret, ret ≠ teeSuccess ∧
      (ptaZynqmpFpgaWrite board c.params c.env c.rounds st).2 = some ret) ∧
    (ptaZynqmpFpgaWrite board c.params c.env c.rounds st).1.dfx = st.dfx ∧
    ∀ e ∈ c.events board st, e.isRead = true := by
  rcases admits_cases board c.params c.env with admitted | ⟨img, offers, rejected⟩ | nothing
  · exact absurd admitted refused
  · obtain ⟨ret, error, written⟩ := ptaWrite_rejected offers rejected c.rounds st
    refine ⟨⟨ret, error, by rw [written]⟩, by rw [written]; exact validate_dfx board.build img st,
      fun e here => ?_⟩
    rw [Cmd.events, ptaEvents_rejected offers rejected] at here
    exact isRead_of_mem_validateReads here
  · refine ⟨⟨_, teeErrorBadParameters_ne, by rw [ptaWrite_unoffered nothing]⟩,
      by rw [ptaWrite_unoffered nothing], fun e here => ?_⟩
    rw [Cmd.events, ptaEvents_unoffered nothing] at here
    cases here

/-- **A command streams** exactly when its parameters and the hardware say so. -/
theorem ptaWrite_streams (c : Cmd) (st : St) :
    (∃ t, Event.transfer t ∈ c.events board st ∧ t.src.base = .image) ↔ c.Streams board := by
  constructor
  · rintro ⟨t, here, image⟩
    by_cases admitted : c.Admitted board
    · obtain ⟨img, admits⟩ := admitted
      rw [Cmd.events, ptaEvents_admitted admits, List.mem_append] at here
      rcases here with read | write
      · cases isRead_of_mem_validateReads read
      · have iv : (isolatedState board img c.env st).bsIv = imageIv :=
          isolatedState_bsIv admits.2.1 st
        have mapped : board.csu = true ∧ board.aes = true := by
          by_contra unmapped
          rw [writeEvents_unmapped unmapped] at write
          simp at write
        rcases mem_writeEvents write with read | ⟨ret, key⟩ | ⟨k, below, reaches, block⟩
        · simp at read
        · cases key
        · have streams :=
            (image_mem_blkEvents ((entryState_bsIv _).trans iv) k).mp ⟨t, block, image⟩
          rw [entryState_bsIv, iv] at streams
          rw [iv] at reaches
          exact ⟨img, admits, mapped, k, below, reaches, streams⟩
    · cases (ptaWrite_unadmitted admitted st).2.2 _ here
  · rintro ⟨img, admits, mapped, k, below, reaches, streams⟩
    have iv : (isolatedState board img c.env st).bsIv = imageIv := isolatedState_bsIv admits.2.1 st
    have entryIv : (entryState img c.env (isolatedState board img c.env st)).bsIv = imageIv :=
      (entryState_bsIv _).trans iv
    rw [← entryIv] at streams
    obtain ⟨t, block, image⟩ := (image_mem_blkEvents entryIv k).mpr streams
    rw [← iv] at reaches
    refine ⟨t, ?_, image⟩
    rw [Cmd.events, ptaEvents_admitted admits]
    exact List.mem_append_right _ (mem_writeEvents_of_block mapped below reaches block)

/-- Every transfer of a command sees the decouplers as its `DFX_DECOUPLE` left them. -/
theorem dfx_of_mem_events {c : Cmd} {st : St} {t : Transfer}
    (here : Event.transfer t ∈ c.events board st) :
    t.dfx = if c.env.decoupleVa then Dfx.decoupled else st.dfx := by
  by_cases admitted : c.Admitted board
  · obtain ⟨img, admits⟩ := admitted
    rw [Cmd.events, ptaEvents_admitted admits, List.mem_append] at here
    rcases here with read | write
    · cases isRead_of_mem_validateReads read
    · rcases mem_writeEvents write with read | ⟨ret, key⟩ | ⟨k, _, _, block⟩
      · simp at read
      · cases key
      · rw [(frame_of_mem_blkTransfers (transfer_of_mem_blkEvents block).1).1,
          (entryState_frame _).1, isolatedState_dfx]
  · cases (ptaWrite_unadmitted admitted st).2.2 _ here

/-- The decouplers after a command that returned. -/
theorem ptaWrite_dfx {c : Cmd} {st : St} (admitted : c.Admitted board)
    (returned : (ptaZynqmpFpgaWrite board c.params c.env c.rounds st).2 ≠ none) :
    (ptaZynqmpFpgaWrite board c.params c.env c.rounds st).1.dfx =
      if c.env.coupleVa then Dfx.coupled
      else if c.env.decoupleVa then Dfx.decoupled else st.dfx := by
  obtain ⟨img, admits⟩ := admitted
  have frame := secureWrite_frame board img c.env c.rounds (isolatedState board img c.env st)
  have kept := frame.1.trans (isolatedState_dfx img c.env st)
  rw [ptaWrite_admitted admits] at returned ⊢
  simp only at returned ⊢
  split
  · rename_i stuck
    rw [stuck] at returned
    exact absurd stuck returned
  · unfold zynqmpDfxDecouple
    cases c.env.coupleVa with
    | false => exact kept
    | true => rfl

theorem ptaWrite_ret {c : Cmd} {img : Image} (admits : Admits board c.params c.env img) (st : St) :
    (ptaZynqmpFpgaWrite board c.params c.env c.rounds st).2 =
      (zynqmpCsuSecurePcapWrite board img c.env c.rounds (isolatedState board img c.env st)).2 := by
  rw [ptaWrite_admitted admits]
  simp only
  split
  · rfl
  · rename_i result returned
    exact returned.symm

/-- A command returns exactly when its loop does. -/
theorem ptaWrite_returns (c : Cmd) (st : St) :
    (ptaZynqmpFpgaWrite board c.params c.env c.rounds st).2 ≠ none ↔ c.Returns board := by
  by_cases admitted : c.Admitted board
  · obtain ⟨img, admits⟩ := admitted
    have iv : (isolatedState board img c.env st).bsIv = imageIv := isolatedState_bsIv admits.2.1 st
    rw [ptaWrite_ret admits]
    by_cases mapped : board.csu = true ∧ board.aes = true
    · rw [secureWrite_returns_iff mapped, iv]
      constructor
      · intro ends img' admits' _
        rw [← admits.unique admits']
        exact ends
      · exact fun returns => returns img admits mapped
    · rw [secureWrite_unmapped mapped]
      exact ⟨fun _ _ _ both => absurd both mapped, fun _ => Option.some_ne_none _⟩
  · obtain ⟨ret, _, returned⟩ := (ptaWrite_unadmitted admitted st).1
    rw [returned]
    exact ⟨fun _ img admits => absurd ⟨img, admits⟩ admitted, fun _ => Option.some_ne_none _⟩

/-- A command succeeds exactly when it loads its image. -/
theorem ptaWrite_loads (c : Cmd) (st : St) :
    (ptaZynqmpFpgaWrite board c.params c.env c.rounds st).2 = some teeSuccess ↔ c.Loads board := by
  by_cases admitted : c.Admitted board
  · obtain ⟨img, admits⟩ := admitted
    have iv : (isolatedState board img c.env st).bsIv = imageIv := isolatedState_bsIv admits.2.1 st
    rw [ptaWrite_ret admits]
    by_cases mapped : board.csu = true ∧ board.aes = true
    · rw [secureWrite_success_iff mapped, iv]
      constructor
      · exact fun ends => ⟨img, admits, mapped, ends⟩
      · rintro ⟨img', admits', _, ends⟩
        rw [admits.unique admits']
        exact ends
    · rw [secureWrite_unmapped mapped]
      constructor
      · exact fun success => absurd (Option.some.inj success) teeErrorGeneric_ne
      · rintro ⟨_, _, both, _⟩
        exact absurd both mapped
  · obtain ⟨ret, error, returned⟩ := (ptaWrite_unadmitted admitted st).1
    rw [returned]
    constructor
    · exact fun success => absurd (Option.some.inj success) error
    · rintro ⟨img, admits, _⟩
      exact absurd ⟨img, admits⟩ admitted

/-! ### One more command -/

theorem any_isImage {events : List Event} :
    events.any Event.isImage = true ↔ ∃ t, Event.transfer t ∈ events ∧ t.src.base = .image := by
  rw [List.any_eq_true]
  constructor
  · rintro ⟨e, here, image⟩
    cases e with
    | transfer t => exact ⟨t, here, eq_of_beq image⟩
    | _ => cases image
  · rintro ⟨t, here, image⟩
    exact ⟨_, here, beq_iff_eq.mpr image⟩

theorem Run.step_stuck {r : Run} (stuck : r.returned = false) (c : Cmd) : r.step board c = r := by
  simp [Run.step, stuck]

theorem Run.step_st {r : Run} (live : r.returned = true) (c : Cmd) :
    (r.step board c).st = (ptaZynqmpFpgaWrite board c.params c.env c.rounds r.st).1 := by
  simp only [Run.step, live, Bool.not_true, Bool.false_eq_true, if_false]
  split <;> rfl

theorem Run.step_returned {r : Run} (live : r.returned = true) (c : Cmd) :
    (r.step board c).returned = true ↔ c.Returns board := by
  rw [← ptaWrite_returns c r.st]
  simp only [Run.step, live, Bool.not_true, Bool.false_eq_true, if_false]
  split
  · rename_i stuck
    simp [stuck]
  · rename_i ret returned
    simp [returned]

theorem Run.step_trace {r : Run} (live : r.returned = true) (c : Cmd) :
    (r.step board c).st.trace = r.st.trace ++ c.events board r.st := by
  rw [Run.step_st live]
  rcases admits_cases board c.params c.env with
    ⟨img, admits⟩ | ⟨img, offers, rejected⟩ | nothing
  · rw [ptaWrite_trace admits, Cmd.events, ptaEvents_admitted admits, List.append_assoc]
  · obtain ⟨ret, _, written⟩ := ptaWrite_rejected offers rejected c.rounds r.st
    rw [written, validate_trace, Cmd.events, ptaEvents_rejected offers rejected]
  · rw [ptaWrite_unoffered nothing, Cmd.events, ptaEvents_unoffered nothing, List.append_nil]

/-- What the last streaming command returned, after one more command that returned. -/
theorem Run.step_clean {r : Run} (live : r.returned = true) {c : Cmd} (returns : c.Returns board) :
    (r.step board c).Clean ↔ (c.Streams board → c.Loads board) ∧ (¬ c.Streams board → r.Clean) := by
  obtain ⟨ret, returned⟩ := Option.ne_none_iff_exists'.mp ((ptaWrite_returns c r.st).mpr returns)
  have loads : (ptaZynqmpFpgaWrite board c.params c.env c.rounds r.st).2 = some teeSuccess ↔ _ :=
    ptaWrite_loads c r.st
  rw [returned, Option.some_inj] at loads
  have last : (r.step board c).last =
      if (c.events board r.st).any Event.isImage then some ret else r.last := by
    simp only [Run.step, live, Bool.not_true, Bool.false_eq_true, if_false, returned]
  by_cases streams : c.Streams board
  · rw [if_pos (any_isImage.mpr ((ptaWrite_streams c r.st).mpr streams))] at last
    simp only [Run.Clean, last, streams, true_implies, not_true_eq_false, false_implies, and_true,
      ← loads]
    exact ⟨fun clean => clean ret rfl, fun ok code same => (Option.some.inj same) ▸ ok⟩
  · have quiet : ¬ (c.events board r.st).any Event.isImage = true := fun some =>
      streams ((ptaWrite_streams c r.st).mp (any_isImage.mp some))
    rw [if_neg quiet] at last
    simp [Run.Clean, last, streams]

/-- The decouplers after one more command that was admitted and returned. -/
theorem Run.step_connects {r : Run} (live : r.returned = true) {c : Cmd}
    (admitted : c.Admitted board) (returns : c.Returns board) :
    (r.step board c).st.dfx.Connects ↔
      c.env.coupleVa = true ∨ c.env.decoupleVa = false ∧ r.st.dfx.Connects := by
  rw [Run.step_st live, ptaWrite_dfx admitted ((ptaWrite_returns c r.st).mpr returns)]
  have coupled : Dfx.coupled.Connects := Or.inl rfl
  have decoupled : ¬ Dfx.decoupled.Connects := by
    unfold Dfx.Connects
    decide
  cases c.env.coupleVa with
  | true => simp [coupled]
  | false =>
    cases c.env.decoupleVa with
    | true => simp [decoupled]
    | false => simp

theorem Run.after_concat (board : Board) (cmds : List Cmd) (c : Cmd) :
    Run.after board (cmds ++ [c]) = (Run.after board cmds).step board c := by
  simp [Run.after]

/-- The streaming half, one command further. -/
theorem streaming_step (r : Run) (c : Cmd) :
    (∀ t, Event.transfer t ∈ c.events board r.st → t.src.base = .image → t.dfx = Dfx.decoupled) ↔
      (c.Streams board → c.env.decoupleVa = true ∨ r.st.dfx = Dfx.decoupled) := by
  constructor
  · intro safe streams
    obtain ⟨t, here, image⟩ := (ptaWrite_streams c r.st).mpr streams
    have isolated := safe t here image
    rw [dfx_of_mem_events here] at isolated
    cases mapped : c.env.decoupleVa with
    | true => exact Or.inl rfl
    | false =>
      rw [mapped] at isolated
      exact Or.inr isolated
  · intro safe t here image
    rw [dfx_of_mem_events here]
    rcases safe ((ptaWrite_streams c r.st).mp ⟨t, here, image⟩) with mapped | isolated
    · rw [if_pos mapped]
    · rw [isolated, ite_self]

/-- The connecting half, one command further. -/
theorem connecting_step {r : Run} (live : r.returned = true)
    (now : r.st.dfx.Connects → r.Clean) (c : Cmd) :
    ((r.step board c).returned = true → (r.step board c).st.dfx.Connects → (r.step board c).Clean) ↔
      (c.Admitted board → c.Returns board →
        c.env.coupleVa = true ∨ c.env.decoupleVa = false ∧ r.st.dfx.Connects →
        (c.Streams board → c.Loads board) ∧ (¬ c.Streams board → r.Clean)) := by
  rw [Run.step_returned live]
  by_cases admitted : c.Admitted board
  · simp only [admitted, true_implies]
    refine imp_congr_right fun returns => ?_
    rw [Run.step_connects live admitted returns, Run.step_clean live returns]
  · -- nothing changes
    have silent : ¬ c.Streams board := fun ⟨img, admits, _⟩ => admitted ⟨img, admits⟩
    simp only [admitted, false_implies, iff_true]
    intro returns connects
    rw [Run.step_clean live returns]
    rw [Run.step_st live, (ptaWrite_unadmitted admitted r.st).2.1] at connects
    exact ⟨fun streams => absurd streams silent, fun _ => now connects⟩

/-- **One more command** keeps a run isolated exactly when it is safe in the state it finds. -/
theorem isolated_concat (cmds : List Cmd) (c : Cmd) :
    Isolated board (cmds ++ [c]) ↔ Isolated board cmds ∧
      ((Run.after board cmds).returned = true → SafeCmd board (Run.after board cmds) c) := by
  have next := Run.after_concat board cmds c
  cases live : (Run.after board cmds).returned with
  | false =>
    -- the command is never run
    rw [Run.step_stuck live] at next
    simp only [Bool.false_eq_true, false_implies, and_true]
    constructor
    · intro isolated
      refine ⟨fun t here => isolated.streaming t (by rw [next]; exact here),
        fun before initial => ?_⟩
      exact isolated.connecting before (initial.trans (List.prefix_append cmds [c]))
    · intro isolated
      refine ⟨fun t here => isolated.streaming t (by rw [← next]; exact here), ?_⟩
      intro before initial returned
      rcases List.prefix_concat_iff.mp initial with rfl | shorter
      · rw [next, live] at returned
        cases returned
      · exact isolated.connecting before shorter returned
  | true =>
    simp only [true_implies]
    have trace : ((Run.after board cmds).step board c).st.trace = _ := Run.step_trace live c
    rw [← next] at trace
    constructor
    · intro isolated
      have streaming : ∀ t, Event.transfer t ∈ (Run.after board cmds).st.trace →
          t.src.base = .image → t.dfx = Dfx.decoupled := fun t here =>
        isolated.streaming t (by rw [trace]; exact List.mem_append_left _ here)
      have connecting := fun before (initial : before <+: cmds) =>
        isolated.connecting before (initial.trans (List.prefix_append cmds [c]))
      refine ⟨⟨streaming, connecting⟩, ?_, ?_⟩
      · rw [← streaming_step]
        exact fun t here => isolated.streaming t (by rw [trace]; exact List.mem_append_right _ here)
      · rw [← connecting_step live (connecting cmds List.prefix_rfl live), ← next]
        exact isolated.connecting (cmds ++ [c]) List.prefix_rfl
    · rintro ⟨isolated, safe⟩
      refine ⟨fun t here => ?_, fun before initial => ?_⟩
      · rw [trace, List.mem_append] at here
        rcases here with earlier | now
        · exact isolated.streaming t earlier
        · exact (streaming_step _ c).mpr safe.streaming t now
      · rcases List.prefix_concat_iff.mp initial with rfl | shorter
        · rw [next]
          exact (connecting_step live (isolated.connecting cmds List.prefix_rfl live) c).mpr
            safe.connecting
        · exact isolated.connecting before shorter

theorem isolated_nil (board : Board) : Isolated board [] where
  streaming := fun t here => by cases here
  connecting := by
    intro before initial _ _
    rw [List.prefix_nil.mp initial]
    exact fun ret streamed => by cases streamed

/-- **Exactly when a run is isolated**: when every command that is run is safe in the state it
finds. -/
theorem isolated_iff (board : Board) (cmds : List Cmd) :
    Isolated board cmds ↔ ∀ before c after, cmds = before ++ c :: after →
      (Run.after board before).returned = true → SafeCmd board (Run.after board before) c := by
  induction cmds using List.reverseRecOn with
  | nil =>
    refine ⟨fun _ before c after split => ?_, fun _ => isolated_nil board⟩
    simp at split
  | append_singleton cmds c ih => rw [isolated_concat, ih, forall_split_concat]

/-- A command whose data block has a wrong tag. -/
def wrongLastTag : Cmd where
  params := ⟨teeParamTypes teeParamTypeMemrefInout teeParamTypeNone teeParamTypeNone
    teeParamTypeNone, some oneBlockImage⟩
  env := CmdEnv.passing fun
    | 0 => BlockEnv.passing 0x02000000#32
    | _ => { BlockEnv.passing 0#32 with aesSts := 0#32 }
  rounds := 2

/-- **A load that failed is connected**: the data block has been streamed, its tag is wrong, the
command returns an error, and both decouplers hold `DFX_COUPLE`. -/
theorem isolated_refuted : ¬ Isolated Board.mapped [wrongLastTag] := by
  intro isolated
  have returned : (Run.after Board.mapped [wrongLastTag]).returned = true := by decide +kernel
  have connected : (Run.after Board.mapped [wrongLastTag]).st.dfx = Dfx.coupled := by decide +kernel
  have failed : (Run.after Board.mapped [wrongLastTag]).last = some teeErrorGeneric := by
    decide +kernel
  have clean := isolated.connecting [wrongLastTag] List.prefix_rfl returned
    (by rw [connected]; exact Or.inl rfl)
  exact teeErrorGeneric_ne (clean _ failed)

end Run

end TrustzoneWatchdog.Loader
