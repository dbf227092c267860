/-
**The secure loader and its registers, run by run.**

The block loop, the FPGA manager and runs of commands at the two levels, in step: `Linked` inside
the loop, `Idle` around it, `Together` after any list of commands.

* `registers_refine`: the registers show the driver after every run, and the DMA was told to make
  the transfers the driver recorded, in their order, and no other.
* `engine_configured`: nothing is launched before the stream switch, the AES engine and the PCAP are
  set up, and the driver writes nothing but the key into the key registers.
* `key_window`: as long as no decrypt call fails, the key and IV registers are open for the secure
  headers and for nothing else.
-/

import TrustzoneWatchdog.Loader.KupWindow

namespace TrustzoneWatchdog.Loader.Mmio

open Lib.Loop Lib.Mmio Lib.Simulation

/-! ### Failures open the window -/

def isFailure : Event → Bool
  | .decrypted ret => ret != teeSuccess
  | _ => false

/-- Some decrypt call has failed. -/
def Failed (st : St) : Prop := st.trace.any isFailure = true

/-- Unless a decrypt call has failed, the window is shut and was right at every launch; `initially`
tells whether it was shut at the start. -/
def Guarded (initially : Prop) (dev : Csu) (st : St) : Prop :=
  initially → Failed st ∨ Window 0#32 dev

section Guarded

variable {initially : Prop} {dev : Csu} {st : St}

theorem Failed.grow {st' : St} {events : List Event} (failed : Failed st)
    (grown : st'.trace = st.trace ++ events) : Failed st' := by
  rw [Failed, grown, List.any_append, show st.trace.any isFailure = true from failed, Bool.true_or]

theorem failed_emit {ret : TeeResult} (error : ret ≠ teeSuccess) (st : St) :
    Failed (st.emit (.decrypted ret)) := by
  simp [Failed, St.emit, isFailure, error]

theorem Guarded.emit (guarded : Guarded initially dev st) (e : Event) :
    Guarded initially dev (st.emit e) :=
  fun start => (guarded start).imp_left fun failed => failed.grow rfl

theorem Guarded.writes {ws : List (Nat × Word)} (guarded : Guarded initially dev st)
    (apart : ∀ a ∈ [aesKupWr, Channel.src.size], a ∉ ws.map Prod.fst) :
    Guarded initially (dev.ioWrites32 ws) st :=
  fun start => (guarded start).imp_right fun shut => shut.writes apart

theorem Guarded.prepare (guarded : Guarded initially dev st) (va : Bool) :
    Guarded initially (zynqmpCsudmaPrepare va .src dev).1 (Loader.zynqmpCsudmaPrepare va st).1 := by
  intro start
  refine (guarded start).imp (fun failed => ?_) fun shut => shut.prepare va
  unfold Loader.zynqmpCsudmaPrepare
  split
  · exact failed
  · exact failed

end Guarded

section Decrypt

variable {board : Board} {img : Image} {env : BlockEnv} {iv : Option Ptr} {ivArr : Vector Byte 16}
  {before : List Descriptor} {trace : List Event} {initially : Prop} {dev : Csu} {st : St}

/-- The registers show the driver from any point on. -/
theorem Ready.rebase (ready : Ready board img iv ivArr before trace dev st) :
    Ready board img iv ivArr (dev.started.map Regs.descriptor) st.trace dev st where
  toTracks := { ready.toTracks with launched := ⟨[], by simp, by simp [descriptors, transfersOf]⟩ }
  engine := ready.engine

theorem decryptData_guarded (ready : Ready board img iv ivArr before trace dev st)
    (guarded : Guarded initially dev st) (src : Ptr) (len : Nat) (tag : Ptr) (pushed : Option Ptr)
    (blockType : BlockType) :
    Guarded initially
      (zynqmpCsuAesDecryptData board img env (some src) len (some tag) pushed blockType dev).1
      (Loader.zynqmpCsuAesDecryptData board img env (some src) len (some tag) pushed blockType
        st).1 := by
  intro start
  rcases guarded start with failed | shut
  · have call : Simulates (Ready board img iv ivArr (dev.started.map Regs.descriptor) st.trace)
        (zynqmpCsuAesDecryptData board img env (some src) len (some tag) pushed blockType) _ :=
      decryptData_simulates (some src) len (some tag) pushed blockType
    obtain ⟨events, grown, _⟩ := (call dev st ready.rebase).1.launched
    exact .inl (failed.grow grown)
  · cases pushed with
    | none => exact .inl (failed_emit (by decide) _)
    | some pushed =>
      have call : Simulates (Ready board img iv ivArr before trace)
          (aesTransferDec board img env src len tag pushed blockType) _ :=
        dec_simulates src len tag pushed blockType
      obtain ⟨_, results⟩ := call dev (st.emit .decrypt) (ready.emit rfl)
      have kept : _ →
          Window 0#32 (aesTransferDec board img env src len tag pushed blockType dev).1 :=
        keepsShut_dec src len tag pushed blockType dev shut
      rw [results] at kept
      cases outcome : (Loader.aesTransferDec board img env src len tag pushed blockType
          (st.emit .decrypt)).2 with
      | none =>
        simp only [zynqmpCsuAesDecryptData, Loader.zynqmpCsuAesDecryptData, results, outcome]
        exact .inr (kept fun ret returned => by simp [outcome] at returned)
      | some ret =>
        simp only [zynqmpCsuAesDecryptData, Loader.zynqmpCsuAesDecryptData, results, outcome]
        by_cases success : ret = teeSuccess
        · exact .inr (kept fun ret' returned => by
            rw [outcome] at returned
            exact (Option.some.inj returned).symm.trans success)
        · rw [if_pos success]
          exact .inl (failed_emit success _)

variable (board img iv ivArr before trace initially) in
/-- The registers show the driver, on a board set up for it, with the window guarded. -/
structure Linked (dev : Csu) (st : St) : Prop extends
    Ready board img iv ivArr before trace dev st where
  guarded : Guarded initially dev st

theorem Linked.emit {e : Event}
    (linked : Linked board img iv ivArr before trace initially dev st)
    (silent : transfersOf [e] = []) :
    Linked board img iv ivArr before trace initially dev (st.emit e) :=
  ⟨linked.toReady.emit silent, linked.guarded.emit e⟩

/-- A write to a register that is not looked at. -/
theorem Linked.keyLoad (linked : Linked board img iv ivArr before trace initially dev st) :
    Linked board img iv ivArr before trace initially (dev.ioWrite32 aesKeyLoad 1#32) st :=
  ⟨linked.toReady.write (by decide) _, linked.guarded.writes (by decide)⟩

theorem decryptData_linked (src : Ptr) (len : Nat) (tag : Ptr) (pushed : Option Ptr)
    (blockType : BlockType) :
    Simulates (Linked board img iv ivArr before trace initially)
      (zynqmpCsuAesDecryptData board img env (some src) len (some tag) pushed blockType)
      (Loader.zynqmpCsuAesDecryptData board img env (some src) len (some tag) pushed
        blockType) := by
  intro dev st linked
  obtain ⟨ready, results⟩ := decryptData_simulates (some src) len (some tag) pushed blockType dev st
    linked.toReady
  exact ⟨⟨ready, decryptData_guarded linked.toReady linked.guarded src len tag pushed blockType⟩,
    results⟩

end Decrypt

/-! ### The loader, in step -/

section Write

variable {board : Board} {img : Image} {env : CmdEnv} {ivArr : Vector Byte 16}
  {before : List Descriptor} {trace : List Event} {initially : Prop}

variable (board img ivArr before trace initially) in
/-- The two loops are at the same place. -/
structure SameCursor (c : Cursor) (d : Loader.Cursor) : Prop where
  linked : Linked board img c.bsIv ivArr before trace initially c.dev d.st
  encStartAddr : d.encStartAddr = c.encStartAddr
  tagAddr : d.tagAddr = c.tagAddr
  nextBlkLen : d.nextBlkLen = c.nextBlkLen
  currentImgLen : d.currentImgLen = c.currentImgLen
  blockType : d.blockType = c.blockType
  block : d.block = c.block

variable (board img ivArr before trace initially) in
/-- The registers and `bs_iv` show the driver. -/
def SameLeft (left : Left) (st : St) : Prop :=
  Linked board img left.bsIv ivArr before trace initially left.dev st

theorem blockRound_related (c : Cursor) (d : Loader.Cursor)
    (same : SameCursor board img ivArr before trace initially c d) :
    RoundRelated (SameCursor board img ivArr before trace initially)
      (fun left left' => SameLeft board img ivArr before trace initially left.1 left'.1 ∧
        left.2 = left'.2)
      (blockRound board img env c) (Loader.blockRound board img env d) := by
  have call : Simulates (Linked board img c.bsIv ivArr before trace initially)
      (zynqmpCsuAesDecryptData board img (env.block c.block) (some c.encStartAddr)
        c.nextBlkLen.toNat (some c.tagAddr) c.bsIv c.blockType) _ :=
    decryptData_linked c.encStartAddr c.nextBlkLen.toNat c.tagAddr c.bsIv c.blockType
  obtain ⟨linked, results⟩ := call c.dev d.st same.linked
  unfold blockRound Loader.blockRound
  rw [same.encStartAddr, same.tagAddr, same.nextBlkLen, same.currentImgLen, same.blockType,
    same.block, same.linked.bsIv]
  dsimp only
  generalize zynqmpCsuAesDecryptData board img (env.block c.block) (some c.encStartAddr)
    c.nextBlkLen.toNat (some c.tagAddr) c.bsIv c.blockType c.dev = made at linked results ⊢
  generalize Loader.zynqmpCsuAesDecryptData board img (env.block c.block) (some c.encStartAddr)
    c.nextBlkLen.toNat (some c.tagAddr) c.bsIv c.blockType d.st = made' at linked results ⊢
  obtain ⟨dev, ret⟩ := made
  obtain ⟨st, ret'⟩ := made'
  obtain rfl : ret = ret' := results
  cases ret with
  | none => exact .leave ⟨linked, rfl⟩
  | some ret =>
    dsimp only
    split_ifs
    · exact .leave ⟨linked, rfl⟩
    · exact .leave ⟨linked, rfl⟩
    · exact .leave ⟨linked, rfl⟩
    · exact .leave ⟨(linked.emit rfl).keyLoad, rfl⟩
    · have next := (linked.emit (e := .keyLoad (keyLoad (env.block c.block))) rfl).keyLoad
      exact .again ⟨⟨⟨{ next.toTracks with bsIv := rfl }, next.engine⟩, next.guarded⟩, rfl, rfl,
        rfl, rfl, rfl, rfl⟩

variable (board img ivArr before trace initially) in
/-- **Between two commands**: the registers show the driver, the window is guarded, and once
anything was launched the key is what was written last to its registers. -/
structure Idle (left : Left) (st : St) : Prop extends
    Tracks board img left.bsIv ivArr before trace left.dev st where
  guarded : Guarded initially left.dev st
  key : left.dev.started ≠ [] → Holds keyWrites left.dev.regs

section Idle

variable {left : Left} {st : St}

theorem Linked.idle
    (linked : Linked board img left.bsIv ivArr before trace initially left.dev st) :
    Idle board img ivArr before trace initially left st where
  toTracks := linked.toTracks
  guarded := linked.guarded
  key _ := linked.engine.engine.mono (List.subset_append_right _ _)

theorem Idle.emit {e : Event} (idle : Idle board img ivArr before trace initially left st)
    (silent : transfersOf [e] = []) :
    Idle board img ivArr before trace initially left (st.emit e) :=
  ⟨idle.toTracks.emit silent, idle.guarded.emit e, idle.key⟩

theorem key_writes {dev : Csu} {ws : List (Nat × Word)}
    (key : dev.started ≠ [] → Holds keyWrites dev.regs)
    (silent : Channel.src.size ∉ ws.map Prod.fst)
    (apart : ∀ a ∈ keyWrites.map Prod.fst, a ∉ ws.map Prod.fst)
    (launched : (dev.ioWrites32 ws).started ≠ []) : Holds keyWrites (dev.ioWrites32 ws).regs := by
  rw [Csu.ioWrites32, Device.started_writes_of_notMem silent] at launched
  exact (key launched).writes apart

/-- The registers that matter between two commands. -/
def idleRegs : List Nat := driverRegs ++ aesKupWr :: keyRegs

theorem Idle.writes {ws : List (Nat × Word)}
    (idle : Idle board img ivArr before trace initially left st)
    (apart : ∀ a ∈ idleRegs, a ∉ ws.map Prod.fst) :
    Idle board img ivArr before trace initially { left with dev := left.dev.ioWrites32 ws } st where
  toTracks := idle.toTracks.writes (fun a inside => apart a (List.mem_append_left _ inside))
    (keepsKey_of_apart fun a inside =>
      apart a (List.mem_append_right _ (List.mem_cons_of_mem _ inside)))
  guarded := idle.guarded.writes fun a inside => apart a (by
    simp only [List.mem_cons, List.not_mem_nil, or_false] at inside
    rcases inside with rfl | rfl <;> simp [idleRegs, driverRegs])
  key := key_writes idle.key (apart _ (by decide)) fun a inside =>
    apart a (List.mem_append_right _ (List.mem_cons_of_mem _ (List.mem_cons_of_mem _ inside)))

theorem headerReads_idle (idle : Idle board img ivArr before trace initially left st) :
    Idle board img ivArr before trace initially left (headerReads img st) :=
  ((idle.emit rfl).emit rfl).emit rfl

/-- The setup leaves the board ready for the first block. -/
theorem firstCursor_same (idle : Idle board img ivArr before trace initially left st)
    (pcap : Holds pcapSettings left.dev.regs)
    (clock : left.dev.regs pcapClkCtrl &&& pcapClkEnMask = pcapClkEnMask) :
    SameCursor board img ivArr before trace initially (firstCursor img env left)
      (Loader.firstCursor img (loopEntry env st)) := by
  have tracks :
      Tracks board img left.bsIv ivArr before trace (left.dev.ioWrites32 setupWrites) st :=
    idle.toTracks.writes (by decide) (by decide)
  have guarded : Guarded initially (left.dev.ioWrites32 setupWrites) st :=
    idle.guarded.writes (by decide)
  have configured : Configured (left.dev.ioWrites32 setupWrites).regs := by
    refine ⟨pcap.writes (by decide), holds_writes (by decide), ?_⟩
    rw [Csu.ioWrites32, Device.regs_writes_of_notMem (by decide)]
    exact clock
  exact ⟨⟨(prepare_simulates env.prepareVa _ _ ⟨tracks.emit rfl, configured⟩).1,
    (guarded.emit _).prepare env.prepareVa⟩, rfl, rfl, rfl, rfl, rfl, rfl⟩

theorem afterLoop_idle {exit : Exit}
    (linked : Linked board img left.bsIv ivArr before trace initially left.dev st) :
    Idle board img ivArr before trace initially (afterLoop board env (left, exit)).1
        (Loader.afterLoop board env (st, exit)).1 ∧
      (afterLoop board env (left, exit)).2 = (Loader.afterLoop board env (st, exit)).2 := by
  unfold afterLoop Loader.afterLoop
  cases exit with
  | stuck => exact ⟨linked.idle, rfl⟩
  | returned ret => exact ⟨linked.idle, rfl⟩
  | broke ret =>
    dsimp only
    split_ifs
    · exact ⟨linked.idle, rfl⟩
    · exact ⟨linked.idle, rfl⟩
    · unfold pcapWaitForPLDone
      dsimp only
      split
      · exact ⟨linked.idle, rfl⟩
      · exact ⟨linked.idle.writes (by decide), rfl⟩

/-- **The secure loader and its registers**. -/
theorem secureWrite_idle (idle : Idle board img ivArr before trace initially left st)
    (pcap : Holds pcapSettings left.dev.regs)
    (clock : left.dev.regs pcapClkCtrl &&& pcapClkEnMask = pcapClkEnMask) (n : Nat) :
    Idle board img ivArr before trace initially (zynqmpCsuSecurePcapWrite board img env n left).1
        (Loader.zynqmpCsuSecurePcapWrite board img env n st).1 ∧
      (zynqmpCsuSecurePcapWrite board img env n left).2 =
        (Loader.zynqmpCsuSecurePcapWrite board img env n st).2 := by
  have read := headerReads_idle idle
  unfold zynqmpCsuSecurePcapWrite Loader.zynqmpCsuSecurePcapWrite
  dsimp only
  split
  · exact ⟨read, rfl⟩
  · have same : SameCursor board img ivArr before trace initially (firstCursor img env left) _ :=
      firstCursor_same read pcap clock
    have loops : RoundRelated _ _ (rounds (blockRound board img env) n _) _ :=
      rounds_related blockRound_related n same
    generalize rounds (blockRound board img env) n (firstCursor img env left) = first at loops ⊢
    generalize rounds (Loader.blockRound board img env) n
      (Loader.firstCursor img (loopEntry env (headerReads img st))) = second at loops ⊢
    cases loops with
    | again same => exact ⟨same.linked.idle, rfl⟩
    | leave same =>
      rename_i left left'
      obtain ⟨left, exit⟩ := left
      obtain ⟨st', exit'⟩ := left'
      obtain ⟨linked, rfl⟩ :
          SameLeft board img ivArr before trace initially left st' ∧ exit = exit' := same
      exact afterLoop_idle linked

end Idle

end Write

/-! ### The FPGA manager, in step -/

theorem transfersOf_validateReads (build : Build) (img : Image) :
    transfersOf (validateReads build img) = [] := by
  have magic : transfersOf (magicReads build img) = [] := by
    simp [transfersOf, magicReads]
  have header : transfersOf (fieldReads img) = [] := by
    unfold fieldReads
    split_ifs <;> rfl
  rw [validateReads, transfersOf_append, magic, header, List.append_nil]

theorem or_and_mask (word mask : Word) : (word ||| mask) &&& mask = mask := by
  apply BitVec.eq_of_getLsbD_eq
  intro i _
  rw [BitVec.getLsbD_and, BitVec.getLsbD_or]
  cases mask.getLsbD i <;> simp

section Command

variable {board : Board} {img : Image} {env : CmdEnv} {before : List Descriptor}
  {trace : List Event} {initially : Prop} {hw : Hw} {st : St}

variable (board img before trace initially) in
/-- `Idle` with `iv_arr`. -/
def Paired (hw : Hw) (st : St) : Prop :=
  Idle board img hw.ivArr before trace initially ⟨hw.dev, hw.bsIv⟩ st

theorem validate_paired (paired : Paired board img before trace initially hw st) :
    Paired board img before trace initially (validateSecureBitstream board.build img hw).1
        (Loader.validateSecureBitstream board.build img st).1 ∧
      (validateSecureBitstream board.build img hw).2 =
        (Loader.validateSecureBitstream board.build img st).2 := by
  obtain ⟨events, grown, launched⟩ := paired.launched
  have read : ∃ events, st.trace ++ validateReads board.build img = trace ++ events ∧
      hw.dev.started.map Regs.descriptor = before ++ descriptors board img events := by
    refine ⟨events ++ validateReads board.build img, by rw [grown, List.append_assoc], ?_⟩
    have silent := descriptors_of_silent board img (transfersOf_validateReads board.build img)
    rw [descriptors_append, silent, List.append_nil]
    exact launched
  have guarded (st' : St) (grown : st'.trace = st.trace ++ validateReads board.build img) :
      Guarded initially hw.dev st' :=
    fun start => (paired.guarded start).imp_left fun failed => failed.grow grown
  unfold validateSecureBitstream
  rw [validate_eq, validate_eq]
  split
  · have loaded : loadIv img st.ivArr = loadIv img hw.ivArr := by rw [paired.ivArr]
    exact ⟨⟨⟨rfl, loaded, paired.endian, paired.dfx, read, paired.configured, paired.kept⟩,
      guarded _ rfl, paired.key⟩, rfl⟩
  · exact ⟨⟨⟨paired.bsIv, paired.ivArr, paired.endian, paired.dfx, read, paired.configured,
      paired.kept⟩, guarded _ rfl, paired.key⟩, rfl⟩

/-- `zynqmp_csu_pcap_init` returns what it returned above, and sets up the PCAP if that is
`TEE_SUCCESS`. -/
theorem pcapInit_paired (paired : Paired board img before trace initially hw st) :
    Paired board img before trace initially
        { hw with dev := (zynqmpCsuPcapInit board env hw.dev).1 } st ∧
      (zynqmpCsuPcapInit board env hw.dev).2 = Loader.zynqmpCsuPcapInit board env ∧
      (Loader.zynqmpCsuPcapInit board env = teeSuccess →
        Holds pcapSettings (zynqmpCsuPcapInit board env hw.dev).1.regs ∧
        (zynqmpCsuPcapInit board env hw.dev).1.regs pcapClkCtrl &&& pcapClkEnMask =
          pcapClkEnMask) := by
  have clocked : Paired board img before trace initially
      { hw with dev := hw.dev.ioSetbits32 pcapClkCtrl pcapClkEnMask } st :=
    paired.writes (show ∀ a ∈ idleRegs, a ∉ [pcapClkCtrl] by decide)
  unfold zynqmpCsuPcapInit Loader.zynqmpCsuPcapInit
  dsimp only
  split_ifs
  · exact ⟨clocked, rfl, fun success => absurd success (by decide)⟩
  · exact ⟨clocked, rfl, fun success => absurd success (by decide)⟩
  · refine ⟨clocked.writes (by decide), rfl, fun _ => ⟨holds_writes (by decide), ?_⟩⟩
    rw [Csu.ioWrites32, Device.regs_writes_of_notMem (by decide), Csu.ioSetbits32, Csu.ioWrite32,
      Csu.ioWrites32, Device.regs_writes]
    exact or_and_mask _ _

theorem decouple_idle {ivArr : Vector Byte 16} {left : Left}
    (idle : Idle board img ivArr before trace initially left st) (va : Bool) (value : Word) :
    Idle board img ivArr before trace initially
      { left with dev := zynqmpDfxDecouple va value left.dev }
      (Loader.zynqmpDfxDecouple va value st) := by
  unfold zynqmpDfxDecouple Loader.zynqmpDfxDecouple
  split
  · exact idle
  · have endian : Regs.srcEndian (left.dev.ioWrites32
        [(dfxDecoupler1, value), (dfxDecoupler0, value)]).regs = st.srcEndian :=
      (srcEndian_writes [(_, value), (_, value)]
        (show Channel.src.ctrl ∉ [dfxDecoupler1, dfxDecoupler0] by decide)).trans idle.endian
    have dfx : Regs.dfx (left.dev.ioWrites32
        [(dfxDecoupler1, value), (dfxDecoupler0, value)]).regs = ⟨value, value⟩ := by
      rw [Regs.dfx, Csu.ioWrites32, Device.regs_writes, Device.regs_writes]
      rfl
    have kept : ∀ w ∈ (left.dev.ioWrites32
        [(dfxDecoupler1, value), (dfxDecoupler0, value)]).log, KeepsKey w :=
      keepsKey_writes idle.kept
        (keepsKey_of_apart (show ∀ a ∈ keyRegs, a ∉ [dfxDecoupler1, dfxDecoupler0] by decide))
    exact ⟨⟨idle.bsIv, idle.ivArr, endian, dfx, idle.launched, idle.configured, kept⟩,
      idle.guarded.writes (show ∀ a ∈ [aesKupWr, Channel.src.size],
        a ∉ [dfxDecoupler1, dfxDecoupler0] by decide),
      key_writes idle.key (show Channel.src.size ∉ [dfxDecoupler1, dfxDecoupler0] by decide)
        (show ∀ a ∈ keyWrites.map Prod.fst, a ∉ [dfxDecoupler1, dfxDecoupler0] by decide)⟩

theorem regs_decouple {a : Nat} (apart : a ∉ [dfxDecoupler1, dfxDecoupler0]) (va : Bool)
    (value : Word) (dev : Csu) : (zynqmpDfxDecouple va value dev).regs a = dev.regs a := by
  unfold zynqmpDfxDecouple
  split
  · rfl
  · exact Device.regs_writes_of_notMem apart dev

theorem isolatedWrite_idle {ivArr : Vector Byte 16} {left : Left}
    (idle : Idle board img ivArr before trace initially left st)
    (mode : Holds pcapSettings left.dev.regs)
    (clock : left.dev.regs pcapClkCtrl &&& pcapClkEnMask = pcapClkEnMask) (n : Nat) :
    Idle board img ivArr before trace initially
        (zynqmpCsuSecurePcapWrite board img env n
          ⟨zynqmpDfxDecouple env.decoupleVa dfxDecouple left.dev, left.bsIv⟩).1
        (Loader.zynqmpCsuSecurePcapWrite board img env n
          (Loader.zynqmpDfxDecouple env.decoupleVa dfxDecouple st)).1 ∧
      (zynqmpCsuSecurePcapWrite board img env n
          ⟨zynqmpDfxDecouple env.decoupleVa dfxDecouple left.dev, left.bsIv⟩).2 =
        (Loader.zynqmpCsuSecurePcapWrite board img env n
          (Loader.zynqmpDfxDecouple env.decoupleVa dfxDecouple st)).2 := by
  refine secureWrite_idle (decouple_idle idle env.decoupleVa dfxDecouple) (fun w inside => ?_) ?_ n
  · have apart : ∀ w ∈ pcapSettings, w.1 ∉ [dfxDecoupler1, dfxDecoupler0] := by decide
    exact (regs_decouple (apart w inside) ..).trans (mode w inside)
  · exact (congrArg (· &&& pcapClkEnMask) (regs_decouple (by decide) ..)).trans clock

/-- **A command and its registers.** -/
theorem ptaWrite_paired {params : Params} (memref : params.memref = some img)
    (paired : Paired board img before trace initially hw st) (rounds : Nat) :
    Paired board img before trace initially (ptaZynqmpFpgaWrite board params env rounds hw).1
        (Loader.ptaZynqmpFpgaWrite board params env rounds st).1 ∧
      (ptaZynqmpFpgaWrite board params env rounds hw).2 =
        (Loader.ptaZynqmpFpgaWrite board params env rounds st).2 := by
  obtain ⟨checked, valid⟩ := validate_paired paired
  have initialised : _ ∧ (zynqmpCsuPcapInit board env _).2 = _ ∧ _ := pcapInit_paired checked
  obtain ⟨ready, init, pcap⟩ := initialised
  unfold ptaZynqmpFpgaWrite Loader.ptaZynqmpFpgaWrite
  rw [memref]
  dsimp only
  rw [valid, init]
  split_ifs with types size invalid uninitialised
  · exact ⟨paired, rfl⟩
  · exact ⟨paired, rfl⟩
  · exact ⟨checked, rfl⟩
  · exact ⟨ready, rfl⟩
  · obtain ⟨mode, clock⟩ := pcap (not_not.mp uninitialised)
    obtain ⟨done, results⟩ := isolatedWrite_idle ready mode clock rounds
    generalize zynqmpCsuSecurePcapWrite board img env rounds _ = written at done results ⊢
    generalize Loader.zynqmpCsuSecurePcapWrite board img env rounds _ = written' at done results ⊢
    obtain ⟨left, result⟩ := written
    obtain ⟨st', result'⟩ := written'
    obtain rfl : result = result' := results
    cases result with
    | none => exact ⟨done, rfl⟩
    | some result => exact ⟨decouple_idle done env.coupleVa dfxCouple, rfl⟩

end Command

/-! ### Runs -/

/-- The transfers a command asks for, as the DMA knows them. -/
def demand (board : Board) (c : Cmd) (st : St) : List Descriptor :=
  match c.params.memref with
  | none => []
  | some img => descriptors board img (c.events board st)

/-- The transfers of a run, one command after the other. -/
def demands (board : Board) : Loader.Run → List Cmd → List Descriptor
  | _, [] => []
  | r, c :: cmds =>
    (if r.returned then demand board c r.st else []) ++ demands board (r.step board c) cmds

/-- **The registers show a run**: what the driver believes about the board is so, and the DMA was
told to make the transfers in `launched`, in this order, and no other. -/
structure Shows (launched : List Descriptor) (r : Run) (r' : Loader.Run) : Prop where
  returned : r.returned = r'.returned
  bsIv : r.hw.bsIv = r'.st.bsIv
  ivArr : r.hw.ivArr = r'.st.ivArr
  endian : Regs.srcEndian r.hw.dev.regs = r'.st.srcEndian
  dfx : Regs.dfx r.hw.dev.regs = r'.st.dfx
  launched : r.hw.dev.started.map Regs.descriptor = launched

/-- A run and its registers. -/
structure Together (initially : Prop) (launched : List Descriptor) (r : Run) (r' : Loader.Run) :
    Prop extends Shows launched r r' where
  configured : ∀ launch ∈ r.hw.dev.started, Configured launch
  kept : ∀ w ∈ r.hw.dev.log, KeepsKey w
  guarded : Guarded initially r.hw.dev r'.st
  key : r.hw.dev.started ≠ [] → Holds keyWrites r.hw.dev.regs

section Runs

variable {board : Board} {initially : Prop} {launched : List Descriptor} {r : Run}
  {r' : Loader.Run}

theorem Together.paired (together : Together initially launched r r') (img : Image) :
    Paired board img launched r'.st.trace initially r.hw r'.st where
  bsIv := together.bsIv.symm
  ivArr := together.ivArr.symm
  endian := together.endian
  dfx := together.dfx
  launched := ⟨[], (List.append_nil _).symm, by
    rw [descriptors_of_silent board img rfl, List.append_nil]
    exact together.launched⟩
  configured := together.configured
  kept := together.kept
  guarded := together.guarded
  key := together.key

theorem not_offers {params : Params} (memref : params.memref = none) (img : Image) :
    ¬ params.Offers img := by
  intro offers
  have given := offers.2.1
  rw [memref] at given
  cases given

theorem ptaWrite_without {params : Params} (memref : params.memref = none) (env : CmdEnv)
    (rounds : Nat) (hw : Hw) :
    ptaZynqmpFpgaWrite board params env rounds hw = (hw, some teeErrorBadParameters) := by
  unfold ptaZynqmpFpgaWrite
  rw [memref]
  split_ifs <;> rfl

variable (board)

/-- **One more command.** -/
theorem Together.step (together : Together initially launched r r') (c : Cmd) :
    Together initially (launched ++ if r'.returned then demand board c r'.st else [])
      (r.step board c) (r'.step board c) := by
  unfold Run.step Loader.Run.step
  rw [together.returned]
  cases running : r'.returned with
  | false => simpa using together
  | true =>
    cases memref : c.params.memref with
    | none =>
      rw [ptaWrite_without memref, ptaWrite_unoffered (not_offers memref), demand, memref]
      simp only [Bool.not_true, Bool.false_eq_true, if_false, if_true, List.append_nil]
      exact { together with returned := rfl }
    | some img =>
      have written : _ ∧ (ptaZynqmpFpgaWrite board c.params c.env c.rounds r.hw).2 = _ :=
        ptaWrite_paired memref (together.paired img) c.rounds
      obtain ⟨paired, results⟩ := written
      obtain ⟨events, grown, started⟩ := paired.launched
      have asked : demand board c r'.st = descriptors board img events := by
        rw [demand, memref]
        show descriptors board img (ptaEvents board c.params c.env c.rounds r'.st) = _
        rw [ptaEvents, grown, List.drop_left]
      generalize ptaZynqmpFpgaWrite board c.params c.env c.rounds r.hw = written at *
      generalize Loader.ptaZynqmpFpgaWrite board c.params c.env c.rounds r'.st = written' at *
      obtain ⟨hw, ret⟩ := written
      obtain ⟨st, ret'⟩ := written'
      obtain rfl : ret = ret' := results
      rw [asked]
      cases ret with
      | none => exact ⟨⟨rfl, paired.bsIv.symm, paired.ivArr.symm, paired.endian, paired.dfx,
          started⟩, paired.configured, paired.kept, paired.guarded, paired.key⟩
      | some ret => exact ⟨⟨rfl, paired.bsIv.symm, paired.ivArr.symm, paired.endian,
          paired.dfx, started⟩, paired.configured, paired.kept, paired.guarded, paired.key⟩

/-- **Whole runs**: from together on, a run and its registers stay together. -/
theorem Together.run (together : Together initially launched r r') (cmds : List Cmd) :
    Together initially (launched ++ demands board r' cmds)
      (Lib.AlarmRun.run (Run.step board) r cmds)
      (Lib.AlarmRun.run (Loader.Run.step board) r' cmds) := by
  induction cmds generalizing launched r r' with
  | nil => simpa [demands] using together
  | cons c cmds ih =>
    have rest := ih (together.step board c)
    rwa [List.append_assoc] at rest

/-- The run of the driver that starts with the registers as they are at boot. -/
def bootRun (boot : Regs) : Loader.Run :=
  { Loader.Run.init with
    st := { St.init with srcEndian := Regs.srcEndian boot, dfx := Regs.dfx boot } }

theorem together_after (boot : Regs) (cmds : List Cmd) :
    Together (boot aesKupWr = 0#32) (demands board (bootRun boot) cmds)
      (Run.after board boot cmds)
      (Lib.AlarmRun.run (Loader.Run.step board) (bootRun boot) cmds) := by
  have start : Together (boot aesKupWr = 0#32) [] (Run.init boot) (bootRun boot) :=
    ⟨⟨rfl, rfl, rfl, rfl, rfl, rfl⟩, nofun, nofun, fun shut => .inr ⟨shut, nofun⟩,
      fun launched => absurd rfl launched⟩
  exact start.run board cmds

/-- The next command returns the same at both levels. -/
theorem Together.result (together : Together initially launched r r') (c : Cmd) :
    (ptaZynqmpFpgaWrite board c.params c.env c.rounds r.hw).2 =
      (Loader.ptaZynqmpFpgaWrite board c.params c.env c.rounds r'.st).2 := by
  cases memref : c.params.memref with
  | none =>
    rw [ptaWrite_without memref, ptaWrite_unoffered (not_offers memref)]
  | some img => exact (ptaWrite_paired memref (together.paired img) c.rounds).2

/-- **The DMA is told what the driver believes**, and every command returns what it returns there:
in every run, from a boot with the byte order plain and both partitions coupled. -/
theorem registers_refine (boot : Regs) (plain : Regs.srcEndian boot = false)
    (coupled : Regs.dfx boot = Dfx.coupled) (cmds : List Cmd) :
    Shows (demands board Loader.Run.init cmds) (Run.after board boot cmds)
        (Loader.Run.after board cmds) ∧
      ∀ c : Cmd, (ptaZynqmpFpgaWrite board c.params c.env c.rounds
          (Run.after board boot cmds).hw).2 =
        (Loader.ptaZynqmpFpgaWrite board c.params c.env c.rounds
          (Loader.Run.after board cmds).st).2 := by
  have start : bootRun boot = Loader.Run.init := by
    rw [bootRun, plain, coupled]
    rfl
  have together := together_after board boot cmds
  rw [start] at together
  exact ⟨together.toShows, together.result board⟩

/-- **Nothing is launched on a board that is not set up**, and no path of the driver takes the key
out of its registers: it writes nothing else there, and never clears them. -/
theorem engine_configured (boot : Regs) (cmds : List Cmd) :
    (∀ launch ∈ (Run.after board boot cmds).hw.dev.started, Configured launch) ∧
      (∀ w ∈ (Run.after board boot cmds).hw.dev.log, KeepsKey w) ∧
      ((Run.after board boot cmds).hw.dev.started ≠ [] →
        Holds keyWrites (Run.after board boot cmds).hw.dev.regs) :=
  have together := together_after board boot cmds
  ⟨together.configured, together.kept, together.key⟩

/-- **The key and IV registers are open for secure headers only**, as long as no decrypt call
fails. -/
theorem key_window (boot : Regs) (shut : boot aesKupWr = 0#32) (cmds : List Cmd)
    (passed : ¬ Failed (Lib.AlarmRun.run (Loader.Run.step board) (bootRun boot) cmds).st) :
    (∀ launch ∈ (Run.after board boot cmds).hw.dev.started, Disciplined launch) ∧
      (Run.after board boot cmds).hw.dev.regs aesKupWr = 0#32 := by
  have window := ((together_after board boot cmds).guarded shut).resolve_left passed
  exact ⟨window.launches, window.here⟩

/-- A command that loads its one block. -/
def oneBlockLoad : Cmd where
  params := ⟨teeParamTypes teeParamTypeMemrefInout teeParamTypeNone teeParamTypeNone
    teeParamTypeNone, some oneBlockImage⟩
  env := oneBlockEngine
  rounds := 2

theorem registers_refine_oneBlock :
    (demands Board.mapped Loader.Run.init [oneBlockLoad, oneBlockLoad]).length = 14 ∧
      Shows (demands Board.mapped Loader.Run.init [oneBlockLoad, oneBlockLoad])
        (Run.after Board.mapped (fun _ => 0#32) [oneBlockLoad, oneBlockLoad])
        (Loader.Run.after Board.mapped [oneBlockLoad, oneBlockLoad]) :=
  ⟨by decide +kernel, (registers_refine Board.mapped (fun _ => 0#32) rfl rfl _).1⟩

theorem key_window_oneBlock :
    (∀ launch ∈ (Run.after Board.mapped (fun _ => 0#32) [oneBlockLoad]).hw.dev.started,
        Disciplined launch) ∧
      (Run.after Board.mapped (fun _ => 0#32) [oneBlockLoad]).hw.dev.regs aesKupWr = 0#32 := by
  refine key_window Board.mapped (fun _ => 0#32) rfl [oneBlockLoad] ?_
  unfold Failed
  decide +kernel

end Runs

end TrustzoneWatchdog.Loader.Mmio
