/-
**The loader walks the block format.**

An encrypted area is `SH0 | TAG0 | D1 | SH1 | TAG1 | … | Dn | SHn | TAGn`; `walk` is the list of
transfers that reads it once, in order. It is a statement about the format and knows nothing of the
loader's variables.

* `blkStart_layout`, `nextBlkLen_layout`, `announced_layout`: the loader's cursor on a laid-out
  image.
* `verdict_layout`: every block passes when the hardware does its part.
* `secureWrite_walks`: the call succeeds and its transfers are exactly `walk`.
-/

import TrustzoneWatchdog.Loader.Blocks
import Mathlib.Algebra.BigOperators.Group.List.Basic
import Mathlib.Data.List.GetD
import Mathlib.Tactic.IntervalCases

namespace TrustzoneWatchdog.Loader

/-! ### Byte order -/

/-- `endian_swap` without its test for zero. -/
def swapBytes (word : Word) : Word :=
  (word >>> 24) ||| ((word >>> 8) &&& 0x0000FF00#32) ||| ((word <<< 8) &&& 0x00FF0000#32) |||
    (word <<< 24)

theorem endianSwap_eq (word : Word) : endianSwap word = swapBytes word := by
  unfold endianSwap
  split
  · rename_i zero
    subst zero
    decide
  · rfl

theorem swapBytes_getLsbD (word : Word) {i : Nat} (small : i < 32) :
    (swapBytes word).getLsbD i = word.getLsbD (24 - i / 8 * 8 + i % 8) := by
  unfold swapBytes
  interval_cases i <;> simp

theorem endianSwap_endianSwap (word : Word) : endianSwap (endianSwap word) = word := by
  rw [endianSwap_eq, endianSwap_eq]
  apply BitVec.eq_of_getLsbD_eq
  intro i small
  rw [swapBytes_getLsbD _ small, swapBytes_getLsbD _ (by omega)]
  congr 1
  omega

/-! ### The format -/

/-- What a transfer reads, how much, and whether it ends the message. -/
def Transfer.reads (t : Transfer) : Ptr × Nat × Byte := (t.src, t.len, t.notify)

/-- Secure header and tag at an offset of the image. -/
def walkHeader (start : Nat) : List (Ptr × Nat × Byte) :=
  [(⟨.image, start⟩, 48, 1), (⟨.image, start + 48⟩, 16, 0)]

/-- The engine's IV registers, a data block, its secure header and its tag. -/
def walkBlock (start len : Nat) : List (Ptr × Nat × Byte) :=
  (⟨.aesIv, 0⟩, 16, 0) :: (⟨.image, start⟩, len, 0) :: walkHeader (start + len)

/-- The data blocks from an offset on, without a gap. -/
def walkBlocks : Nat → List Nat → List (Ptr × Nat × Byte)
  | _, [] => []
  | start, len :: lens => walkBlock start len ++ walkBlocks (start + len + 64) lens

/-- **The transfers that read an encrypted area once, in order.** -/
def walk (start : Nat) (lens : List Nat) : List (Ptr × Nat × Byte) :=
  (⟨.ivArr, 0⟩, 16, 0) :: walkHeader start ++ walkBlocks (start + 64) lens

/-- The encrypted area of the image has the lengths `lens`. -/
structure Layout (img : Image) (lens : List Nat) : Prop where
  aligned : img.phys img.unEncDataOffset.toNat % 8 = 0
  blocks : ∀ len ∈ lens, 0 < len ∧ len % 8 = 0
  total : lens.sum = img.unEncDataLen.toNat

/-- Everything the driver asks of the hardware in one round goes well. -/
structure BlockEnv.Succeeds (e : BlockEnv) : Prop where
  aesVa : e.aesVa = true
  pcapVa : e.pcapVa = true
  dmaVa : ∀ x, e.dmaVa x = true
  synced : ∀ x, synced e x = true
  prepareVa : e.prepareVa = true
  pcapIdle : e.pcapIdle = true
  tagOk : e.aesSts &&& aesStsGcmTagOk ≠ 0#32
  idle : aesWait e.waitVa e.busySts aesStsAesBusy false = teeSuccess
  keyLoad : keyLoad e = teeSuccess

/-- Everything the driver asks of the hardware for `n` data blocks goes well. -/
structure HardwareSucceeds (board : Board) (env : CmdEnv) (n : Nat) : Prop where
  csu : board.csu = true
  aes : board.aes = true
  block : ∀ i ≤ n, (env.block i).Succeeds
  done : pcapWaitForDone board env = teeSuccess
  plDone : pcapWaitForPLDone board env = teeSuccess

/-- Decrypting the `i`-th secure header shows the number of words of the next block. -/
def ShowsLengths (env : CmdEnv) (lens : List Nat) : Prop :=
  ∀ i ≤ lens.length, (env.block i).iv3 = endianSwap (BitVec.ofNat 32 (lens.getD i 0 / 4))

/-! ### The cursor on a laid-out image -/

section Cursor

variable {board : Board} {img : Image} {env : CmdEnv} {lens : List Nat}

theorem sum_take_succ (lens : List Nat) (i : Nat) :
    (lens.take (i + 1)).sum = (lens.take i).sum + lens.getD i 0 := by
  induction lens generalizing i with
  | nil => simp
  | cons len lens ih =>
    cases i with
    | zero => simp
    | succ i => simp [ih, Nat.add_assoc]

theorem Layout.sum_take_le (layout : Layout img lens) (i : Nat) :
    (lens.take i).sum ≤ img.unEncDataLen.toNat := by
  rw [← layout.total, ← List.sum_take_add_sum_drop lens i]
  exact Nat.le_add_right _ _

theorem Layout.len_lt (layout : Layout img lens) (i : Nat) : lens.getD i 0 < 2 ^ 32 := by
  have part := layout.sum_take_le (i + 1)
  have small := img.unEncDataLen.isLt
  rw [sum_take_succ] at part
  omega

theorem Layout.len_mod (layout : Layout img lens) (i : Nat) : lens.getD i 0 % 8 = 0 := by
  by_cases inside : i < lens.length
  · rw [List.getD_eq_getElem _ _ inside]
    exact (layout.blocks _ (List.getElem_mem inside)).2
  · rw [List.getD_eq_default _ _ (not_lt.mp inside)]

theorem nextBlkLen_layout (layout : Layout img lens) (shown : ShowsLengths env lens) {i : Nat}
    (inside : i ≤ lens.length) : (nextBlkLen env i).toNat = lens.getD i 0 := by
  have small := layout.len_lt i
  have whole := layout.len_mod i
  rw [nextBlkLen, shown i inside, endianSwap_endianSwap]
  rw [BitVec.toNat_mul, BitVec.toNat_ofNat]
  show lens.getD i 0 / 4 % 2 ^ 32 * 4 % 2 ^ 32 = lens.getD i 0
  omega

theorem announced_layout (layout : Layout img lens) (shown : ShowsLengths env lens) {i : Nat}
    (inside : i ≤ lens.length + 1) : (announced env i).toNat = (lens.take i).sum := by
  induction i with
  | zero => rfl
  | succ i ih =>
    have bounded := layout.sum_take_le (i + 1)
    have small := img.unEncDataLen.isLt
    rw [sum_take_succ] at bounded ⊢
    rw [announced, BitVec.toNat_add, ih (by omega), nextBlkLen_layout layout shown (by omega)]
    omega

theorem blkStart_layout (layout : Layout img lens) (shown : ShowsLengths env lens) {i : Nat}
    (inside : i ≤ lens.length) :
    blkStart img env (i + 1) = img.unEncDataOffset.toNat + 64 * (i + 1) + (lens.take i).sum := by
  induction i with
  | zero => simp [blkStart, blkLen, secureHdrSize, zynqmpGcmTagSize]
  | succ i ih =>
    rw [blkStart, ih (by omega), blkLen, nextBlkLen_layout layout shown (by omega), sum_take_succ]
    simp only [secureHdrSize, zynqmpGcmTagSize]
    omega

theorem phys_mod (img : Image) (start n : Nat) (aligned : img.phys start % 8 = 0)
    (whole : n % 8 = 0) :
    img.phys (start + n) % 8 = 0 := by
  have page := img.phys_page start n
  omega

theorem Layout.sum_take_mod (layout : Layout img lens) (i : Nat) : (lens.take i).sum % 8 = 0 := by
  induction i with
  | zero => rfl
  | succ i ih =>
    have whole := layout.len_mod i
    rw [sum_take_succ]
    omega

/-- Every block starts at an address the DMA takes. -/
theorem blkStart_aligned (layout : Layout img lens) (shown : ShowsLengths env lens) {i : Nat}
    (inside : i ≤ lens.length) : img.phys (blkStart img env i) % 8 = 0 := by
  cases i with
  | zero => exact layout.aligned
  | succ i =>
    have whole := layout.sum_take_mod i
    rw [blkStart_layout layout shown (by omega), Nat.add_assoc]
    exact phys_mod img _ _ layout.aligned (by omega)

theorem blkLen_mod (layout : Layout img lens) (shown : ShowsLengths env lens) {i : Nat}
    (inside : i ≤ lens.length) : (blkLen env i).toNat % 8 = 0 := by
  cases i with
  | zero => rfl
  | succ i =>
    rw [blkLen, nextBlkLen_layout layout shown (by omega)]
    exact layout.len_mod i

/-- A transfer the DMA takes gets through. -/
theorem BlockEnv.Succeeds.passes {e : BlockEnv} (good : e.Succeeds) {x : Xfer} {addr : Ptr}
    {len : Nat} (words : len % 4 = 0) (aligned : virtToPhys board img addr % 8 = 0) :
    passes board img e x addr len :=
  ⟨by simp [accepts, good.dmaVa, words, aligned], good.synced x⟩

/-- **Every block passes** on hardware that does its part. -/
theorem verdict_layout (layout : Layout img lens) (shown : ShowsLengths env lens)
    (hardware : HardwareSucceeds board env lens.length) {i : Nat} (inside : i ≤ lens.length) :
    verdict board img env (some ⟨.ivArr, 0⟩) i = some teeSuccess := by
  have good := hardware.block i inside
  have start := blkStart_aligned layout shown inside
  have whole := blkLen_mod layout shown inside
  have header : img.phys (blkStart img env i + (blkLen env i).toNat) % 8 = 0 :=
    phys_mod img _ _ start whole
  obtain ⟨iv, blkIv_eq, ivAligned⟩ : ∃ iv, blkIv (some ⟨.ivArr, 0⟩) i = some iv ∧
      virtToPhys board img iv % 8 = 0 := by
    cases i with
    | zero => exact ⟨_, rfl, board.ivArr_aligned⟩
    | succ i => exact ⟨_, rfl, (by decide : (aesIv0Phys + 0) % 8 = 0)⟩
  unfold verdict blkCall
  rw [blkIv_eq, decryptData_success]
  exact
    { aesVa := good.aesVa
      iv := good.passes rfl ivAligned
      prepared := good.prepareVa
      data := fun _ => ⟨good.passes (by omega) start, by simp [good.pcapVa, good.pcapIdle]⟩
      hdr := good.passes rfl header
      tag := good.passes rfl (phys_mod img _ 48 header rfl)
      tagOk := good.tagOk
      idle := good.idle }

theorem goesOn_layout (layout : Layout img lens) (shown : ShowsLengths env lens)
    (hardware : HardwareSucceeds board env lens.length) {i : Nat} (inside : i < lens.length) :
    GoesOn board img env (some ⟨.ivArr, 0⟩) i := by
  refine ⟨by simp [verdict_layout layout shown hardware inside.le], fun zero => ?_, ?_,
    (hardware.block i inside.le).keyLoad⟩
  · have shown := nextBlkLen_layout layout shown inside.le
    have positive := (layout.blocks _ (List.getElem_mem inside)).1
    rw [zero, List.getD_eq_getElem _ _ inside] at shown
    exact absurd shown (Nat.ne_of_lt positive)
  · rw [BitVec.le_def, announced_layout layout shown (by omega)]
    exact layout.sum_take_le (i + 1)

theorem last_layout (layout : Layout img lens) (shown : ShowsLengths env lens) :
    nextBlkLen env lens.length = 0#32 ∧ announced env (lens.length + 1) = img.unEncDataLen := by
  constructor
  · apply BitVec.eq_of_toNat_eq
    rw [nextBlkLen_layout layout shown le_rfl, List.getD_eq_default _ _ le_rfl]
    rfl
  · apply BitVec.eq_of_toNat_eq
    rw [announced_layout layout shown le_rfl, List.take_of_length_le (Nat.le_succ _), layout.total]

end Cursor

/-! ### The transfers -/

/-- The transfers in a trace. -/
def transfersOf (events : List Event) : List Transfer :=
  events.filterMap fun
    | .transfer t => some t
    | _ => none

section Transfers

variable {board : Board} {img : Image} {env : CmdEnv} {lens : List Nat}

@[simp] theorem transfersOf_append (first second : List Event) :
    transfersOf (first ++ second) = transfersOf first ++ transfersOf second :=
  List.filterMap_append

theorem transfersOf_map (sent : List Transfer) : transfersOf (sent.map Event.transfer) = sent := by
  induction sent with
  | nil => rfl
  | cons t sent ih => exact congrArg (t :: ·) ih

theorem transfersOf_blkEvents {st : St} {k : Nat}
    (passed : verdict board img env st.bsIv k = some teeSuccess) :
    transfersOf (blkEvents board img env st k) = blkTransfers board img env st k := by
  obtain ⟨sent, _, events, _, _, all⟩ := blkEvents_eq board img env st k
  rw [events, passed, transfersOf_append, ← all passed]
  show transfersOf (sent.map Event.transfer) ++ [] = sent
  rw [transfersOf_map, List.append_nil]

theorem transfersOf_eventsBefore {st : St} {k : Nat}
    (passed : ∀ j < k, verdict board img env st.bsIv j = some teeSuccess) :
    transfersOf (eventsBefore board img env st k) =
      (List.range k).flatMap (blkTransfers board img env st) := by
  induction k with
  | zero => rfl
  | succ k ih =>
    rw [eventsBefore_succ, transfersOf_append, transfersOf_append,
      ih fun j below => passed j (by omega),
      transfersOf_blkEvents (passed k (Nat.lt_succ_self k)), List.range_succ, List.flatMap_append]
    simp [transfersOf]

theorem blkTransfers_zero {st : St} (iv : st.bsIv = some ⟨.ivArr, 0⟩) :
    (blkTransfers board img env st 0).map Transfer.reads =
      (⟨.ivArr, 0⟩, 16, 0) :: walkHeader img.unEncDataOffset.toNat := by
  simp [blkTransfers, callTransfers, iv, blkIv, blkType, blkStart, blkLen, blkTag, blockTransfers,
    imageTransfers, headerTransfers, St.transferOf, Transfer.reads, Ptr.add, walkHeader,
    secureHdrSize, zynqmpGcmTagSize, zynqmpCsudmaMinSize]

theorem blkTransfers_succ (st : St) (k : Nat) :
    (blkTransfers board img env st (k + 1)).map Transfer.reads =
      walkBlock (blkStart img env (k + 1)) (blkLen env (k + 1)).toNat := by
  simp [blkTransfers, callTransfers, blkIv, blkType, blkTag, blockTransfers, imageTransfers,
    headerTransfers, St.transferOf, Transfer.reads, Ptr.add, walkHeader, walkBlock, secureHdrSize,
    zynqmpGcmTagSize, zynqmpCsudmaMinSize]

/-- The format, block by block. -/
theorem walkBlocks_eq (start : Nat) (lens : List Nat) :
    walkBlocks start lens = (List.range lens.length).flatMap fun i =>
      walkBlock (start + 64 * i + (lens.take i).sum) (lens.getD i 0) := by
  induction lens generalizing start with
  | nil => rfl
  | cons len lens ih =>
    rw [walkBlocks, ih, List.length_cons, List.range_succ_eq_map, List.flatMap_cons,
      List.flatMap_map]
    congr 1
    refine congrArg (List.flatMap · (List.range lens.length)) (funext fun i => ?_)
    simp only [List.take_succ_cons, List.sum_cons, List.getD_cons_succ]
    congr 1
    omega

theorem transfers_layout {st : St} (layout : Layout img lens) (shown : ShowsLengths env lens)
    (iv : st.bsIv = some ⟨.ivArr, 0⟩) :
    ((List.range (lens.length + 1)).flatMap (blkTransfers board img env st)).map Transfer.reads =
      walk img.unEncDataOffset.toNat lens := by
  rw [List.range_succ_eq_map, List.flatMap_cons, List.map_append, blkTransfers_zero iv,
    List.flatMap_map, List.map_flatMap, walk, walkBlocks_eq]
  congr 1
  refine List.flatMap_congr fun i inside => ?_
  have below := List.mem_range.mp inside
  rw [blkTransfers_succ, blkStart_layout layout shown below.le, blkLen,
    nextBlkLen_layout layout shown below.le]
  congr 1
  omega

/-- **The loader walks the format exactly.** On a laid-out image that passed validation, with an
engine that shows the lengths and hardware that does its part, the call returns `TEE_SUCCESS`, and
its transfers are the walk over the format, the first from an `iv_arr` with the image's IV. -/
theorem secureWrite_walks {st₀ st : St}
    (validated : validateSecureBitstream board.build img st₀ = (st, teeSuccess))
    (layout : Layout img lens) (shown : ShowsLengths env lens)
    (hardware : HardwareSucceeds board env lens.length) {n : Nat} (enough : lens.length < n) :
    (zynqmpCsuSecurePcapWrite board img env n st).2 = some teeSuccess ∧
      (transfersOf (writeEvents board img env n st)).map Transfer.reads =
        walk img.unEncDataOffset.toNat lens ∧
      ∀ t ∈ transfersOf (writeEvents board img env n st), ∀ i : Fin 16, i.val < ivLen →
        t.ivArr.get i = img.byte (ivOffset + i.val) := by
  obtain ⟨iv, ivBytes⟩ := validate_success validated
  have mapped : board.csu = true ∧ board.aes = true := ⟨hardware.csu, hardware.aes⟩
  have entryIv : (entryState img env st).bsIv = some ⟨.ivArr, 0⟩ := (entryState_bsIv st).trans iv
  have passed {i : Nat} (inside : i ≤ lens.length) :
      verdict board img env (entryState img env st).bsIv i = some teeSuccess := by
    rw [entryIv]
    exact verdict_layout layout shown hardware inside
  have reaches : Reaches board img env st.bsIv lens.length := by
    rw [iv]
    exact fun i below => goesOn_layout layout shown hardware below
  have last := last_layout layout shown
  have stops : ¬ GoesOn board img env st.bsIv lens.length := fun goesOn => goesOn.2.1 last.1
  obtain ⟨tail, short, events⟩ := writeEvents_left mapped reaches stops enough
  have sent : transfersOf (writeEvents board img env n st) =
      (List.range (lens.length + 1)).flatMap
        (blkTransfers board img env (entryState img env st)) := by
    have quiet : transfersOf tail = [] := by rcases short with rfl | ⟨code, rfl, _⟩ <;> rfl
    rw [events, transfersOf_append, transfersOf_append, transfersOf_append, quiet,
      transfersOf_blkEvents (passed le_rfl),
      transfersOf_eventsBefore fun j below => passed below.le,
      List.range_succ, List.flatMap_append]
    simp [transfersOf, entryEvents]
  refine ⟨?_, ?_, ?_⟩
  · rw [secureWrite_left mapped reaches stops enough, exit_success_iff]
    exact ⟨passed le_rfl, last.1, last.2, hardware.done, hardware.plDone⟩
  · rw [sent]
    exact transfers_layout layout shown entryIv
  · intro t inside i small
    rw [sent] at inside
    obtain ⟨k, _, block⟩ := List.mem_flatMap.mp inside
    rw [(frame_of_mem_blkTransfers block).2, (entryState_frame st).2]
    exact ivBytes i small

theorem BlockEnv.passing_succeeds (iv3 : Word) : (BlockEnv.passing iv3).Succeeds where
  aesVa := rfl
  pcapVa := rfl
  dmaVa := fun _ => rfl
  synced := fun _ => rfl
  prepareVa := rfl
  pcapIdle := rfl
  tagOk := (by decide : aesStsGcmTagOk &&& aesStsGcmTagOk ≠ 0#32)
  idle := rfl
  keyLoad := rfl

/-- One data block of eight bytes at `0x1C0`. -/
theorem secureWrite_walks_one_block :
    (zynqmpCsuSecurePcapWrite Board.mapped oneBlockImage oneBlockEngine 2
      (validateSecureBitstream Build.forSize oneBlockImage St.init).1).2 = some teeSuccess ∧
    (transfersOf (writeEvents Board.mapped oneBlockImage oneBlockEngine 2
      (validateSecureBitstream Build.forSize oneBlockImage St.init).1)).map Transfer.reads =
        walk 0x180 [8] := by
  have validated : validateSecureBitstream Build.forSize oneBlockImage St.init =
      ((validateSecureBitstream Build.forSize oneBlockImage St.init).1, teeSuccess) :=
    Prod.ext rfl (by decide +kernel)
  have layout : Layout oneBlockImage [8] :=
    ⟨by decide +kernel, by decide, by decide +kernel⟩
  have shown : ShowsLengths oneBlockEngine [8] := by
    intro i inside
    match i, inside with
    | 0, _ => decide
    | 1, _ => decide
  have hardware : HardwareSucceeds Board.mapped oneBlockEngine [8].length := by
    refine ⟨rfl, rfl, fun i _ => ?_, by decide, by decide⟩
    cases i <;> exact BlockEnv.passing_succeeds _
  have walked := secureWrite_walks validated layout shown hardware (Nat.lt_succ_self 1)
  exact ⟨walked.1, walked.2.1.trans (congrArg (walk · [8]) (by decide +kernel))⟩

end Transfers

end TrustzoneWatchdog.Loader
