/-
**The block loop in closed form.**

Block `k` starts at `blkStart k` and is `blkLen k` long; `announced k` is the running length before
it. All three come from the words the engine shows. The loop goes on after block `k` under `GoesOn`,
which asks the decrypt call to return but does not look at what it returns.

* `blockRound_again`, `blockRound_leave`: one round from the closed form.
* `blockLoop_cases`: where the loop is after any number of rounds.
* `loaderAt_trace`: what the first `k` blocks leave in the trace.
-/

import TrustzoneWatchdog.Loader.Pcap

namespace TrustzoneWatchdog.Loader

open Lib.Loop

section Blocks

variable (board : Board) (img : Image) (env : CmdEnv)

/-- The length shown after block `k`, for the next one. -/
def nextBlkLen (k : Nat) : Word := endianSwap (env.block k).iv3 * 4#32

def blkLen : Nat → Word
  | 0 => 0#32
  | k + 1 => nextBlkLen env k

/-- `CurrentImgLen` before block `k`. It is a `uint32_t` and wraps. -/
def announced : Nat → Word
  | 0 => 0#32
  | k + 1 => announced k + nextBlkLen env k

def blkStart : Nat → Nat
  | 0 => img.unEncDataOffset.toNat
  | k + 1 => blkStart k + (blkLen env k).toNat + (secureHdrSize + zynqmpGcmTagSize)

def blkTag (k : Nat) : Nat := blkStart img env k + (blkLen env k).toNat + secureHdrSize

def blkType : Nat → BlockType
  | 0 => .secureHeader
  | _ + 1 => .dataBlock

/-- The IV of block `k`: the image's for the first, the engine's own registers after it. -/
def blkIv (bsIv : Option Ptr) : Nat → Option Ptr
  | 0 => bsIv
  | _ + 1 => some ⟨.aesIv, 0⟩

/-- The decrypt call of block `k`. -/
def blkCall (bsIv : Option Ptr) (k : Nat) (st : St) : St × Option TeeResult :=
  zynqmpCsuAesDecryptData board img (env.block k) (some ⟨.image, blkStart img env k⟩)
    (blkLen env k).toNat (some ⟨.image, blkTag img env k⟩) (blkIv bsIv k) (blkType k) st

/-- **What the decrypt call of block `k` returns**; `none` if it never does. -/
def verdict (bsIv : Option Ptr) (k : Nat) : Option TeeResult :=
  (blkCall board img env bsIv k St.init).2

theorem blkCall_ret (bsIv : Option Ptr) (k : Nat) (st : St) :
    (blkCall board img env bsIv k st).2 = verdict board img env bsIv k :=
  decryptData_ret ..

/-- **The loop goes on after block `k`.** -/
def GoesOn (bsIv : Option Ptr) (k : Nat) : Prop :=
  verdict board img env bsIv k ≠ none ∧ nextBlkLen env k ≠ 0#32 ∧
    announced env (k + 1) ≤ img.unEncDataLen ∧ keyLoad (env.block k) = teeSuccess

instance (bsIv : Option Ptr) (k : Nat) : Decidable (GoesOn board img env bsIv k) := by
  unfold GoesOn
  infer_instance

/-- Block `k` is reached. -/
def Reaches (bsIv : Option Ptr) (k : Nat) : Prop := ∀ j < k, GoesOn board img env bsIv j

theorem reaches_zero (bsIv : Option Ptr) : Reaches board img env bsIv 0 :=
  fun j below => absurd below (Nat.not_lt_zero j)

variable {board img env} in
theorem Reaches.mono {bsIv : Option Ptr} {j k : Nat} (reaches : Reaches board img env bsIv k)
    (earlier : j ≤ k) : Reaches board img env bsIv j :=
  fun i below => reaches i (lt_of_lt_of_le below earlier)

variable {board img env} in
theorem Reaches.succ {bsIv : Option Ptr} {k : Nat} (reaches : Reaches board img env bsIv k)
    (goesOn : GoesOn board img env bsIv k) : Reaches board img env bsIv (k + 1) :=
  Nat.forall_lt_succ_right.mpr ⟨reaches, goesOn⟩

/-- The driver before block `k`. -/
def loaderAt (st : St) : Nat → St
  | 0 => st
  | k + 1 =>
    { (blkCall board img env st.bsIv k (loaderAt st k)).1.emit (.keyLoad teeSuccess) with
      bsIv := some ⟨.aesIv, 0⟩ }

/-- The loop's variables before block `k`. -/
def cursorAt (st : St) (k : Nat) : Cursor where
  st := loaderAt board img env st k
  encStartAddr := ⟨.image, blkStart img env k⟩
  tagAddr := ⟨.image, blkTag img env k⟩
  nextBlkLen := blkLen env k
  currentImgLen := announced env k
  blockType := blkType k
  block := k

/-- How the loop is left in block `k`. -/
def exitAt (st : St) (k : Nat) : St × Exit :=
  let after := (blkCall board img env st.bsIv k (loaderAt board img env st k)).1
  match verdict board img env st.bsIv k with
  | none => (after, .stuck)
  | some ret =>
    if nextBlkLen env k = 0#32 then
      if announced env (k + 1) ≠ img.unEncDataLen then (after, .returned teeErrorGeneric)
      else (after, .broke ret)
    else if img.unEncDataLen < announced env (k + 1) then (after, .returned teeErrorGeneric)
    else (after.emit (.keyLoad (keyLoad (env.block k))), .returned teeErrorGeneric)

variable {board img env}

theorem firstCursor_eq (st : St) : firstCursor img st = cursorAt board img env st 0 := by
  simp [firstCursor, cursorAt, loaderAt, blkStart, blkTag, blkLen, announced, blkType]

theorem blkCall_same (bsIv : Option Ptr) (k : Nat) (st : St) :
    SameDriver st (blkCall board img env bsIv k st).1 :=
  (decryptData_trace ..).1

theorem loaderAt_bsIv (st : St) (k : Nat) :
    (loaderAt board img env st k).bsIv = blkIv st.bsIv k := by
  cases k with
  | zero => rfl
  | succ k => rfl

theorem cursorAt_call (st : St) (k : Nat) :
    zynqmpCsuAesDecryptData board img (env.block (cursorAt board img env st k).block)
      (some (cursorAt board img env st k).encStartAddr)
      (cursorAt board img env st k).nextBlkLen.toNat (some (cursorAt board img env st k).tagAddr)
      (cursorAt board img env st k).st.bsIv (cursorAt board img env st k).blockType
      (cursorAt board img env st k).st =
        blkCall board img env st.bsIv k (loaderAt board img env st k) := by
  show zynqmpCsuAesDecryptData _ _ _ _ _ _ (loaderAt board img env st k).bsIv _ _ = _
  rw [loaderAt_bsIv]
  rfl

/-- One round in the words of the closed form. -/
theorem blockRound_cursorAt (st : St) (k : Nat) :
    blockRound board img env (cursorAt board img env st k) =
      let after := (blkCall board img env st.bsIv k (loaderAt board img env st k)).1
      match verdict board img env st.bsIv k with
      | none => .leave (after, .stuck)
      | some ret =>
        if nextBlkLen env k = 0#32 then
          if announced env (k + 1) ≠ img.unEncDataLen then
            .leave (after, .returned teeErrorGeneric)
          else .leave (after, .broke ret)
        else if img.unEncDataLen < announced env (k + 1) then
          .leave (after, .returned teeErrorGeneric)
        else if keyLoad (env.block k) ≠ teeSuccess then
          .leave (after.emit (.keyLoad (keyLoad (env.block k))), .returned teeErrorGeneric)
        else .again
          { cursorAt board img env st (k + 1) with
            st := { after.emit (.keyLoad (keyLoad (env.block k))) with
              bsIv := some ⟨.aesIv, 0⟩ } } := by
  have tag : (Ptr.mk .image (blkTag img env k)).add zynqmpGcmTagSize =
      ⟨.image, blkStart img env (k + 1)⟩ := by
    simp [Ptr.add, blkTag, blkStart, Nat.add_assoc]
  unfold blockRound
  simp only [cursorAt_call, blkCall_ret]
  simp only [cursorAt, tag]
  rfl

theorem blockRound_again {st : St} {k : Nat} (goesOn : GoesOn board img env st.bsIv k) :
    blockRound board img env (cursorAt board img env st k) =
      .again (cursorAt board img env st (k + 1)) := by
  obtain ⟨returns, more, fits, loaded⟩ := goesOn
  obtain ⟨ret, returned⟩ := Option.ne_none_iff_exists'.mp returns
  rw [blockRound_cursorAt]
  simp only [returned, if_neg more, if_neg (BitVec.not_lt.mpr fits), loaded, ne_eq,
    not_true_eq_false, if_false]
  rfl

theorem blockRound_leave {st : St} {k : Nat} (stops : ¬ GoesOn board img env st.bsIv k) :
    blockRound board img env (cursorAt board img env st k) =
      .leave (exitAt board img env st k) := by
  rw [blockRound_cursorAt, exitAt]
  cases returned : verdict board img env st.bsIv k with
  | none => rfl
  | some ret =>
    simp only
    split
    · split <;> rfl
    · rename_i more
      split
      · rfl
      · rename_i fits
        have unloaded : keyLoad (env.block k) ≠ teeSuccess := fun loaded =>
          stops ⟨by simp [returned], more, BitVec.not_lt.mp fits, loaded⟩
        rw [if_pos unloaded]

variable (board img env) in
/-- **Where the loop is**: after `n` rounds it is before block `n`, or it was left in one earlier
block. -/
theorem blockLoop_cases (st : St) (n : Nat) :
    (Reaches board img env st.bsIv n ∧
      rounds (blockRound board img env) n (firstCursor img st) =
        .again (cursorAt board img env st n)) ∨
    ∃ k < n, Reaches board img env st.bsIv k ∧ ¬ GoesOn board img env st.bsIv k ∧
      rounds (blockRound board img env) n (firstCursor img st) =
        .leave (exitAt board img env st k) := by
  rw [firstCursor_eq st]
  exact rounds_cases (cursorAt board img env st) (GoesOn board img env st.bsIv)
    (fun _ _ => blockRound_again) (exitAt board img env st) (fun _ _ => blockRound_leave) n

theorem blockLoop_reaches {st : St} {n : Nat} (reaches : Reaches board img env st.bsIv n) :
    rounds (blockRound board img env) n (firstCursor img st) =
      .again (cursorAt board img env st n) := by
  rw [firstCursor_eq st]
  exact rounds_of_path (cursorAt board img env st)
    (fun k below => blockRound_again (reaches k below)) 0

theorem blockLoop_left {st : St} {k n : Nat} (reaches : Reaches board img env st.bsIv k)
    (stops : ¬ GoesOn board img env st.bsIv k) (later : k < n) :
    rounds (blockRound board img env) n (firstCursor img st) =
      .leave (exitAt board img env st k) := by
  rw [firstCursor_eq st]
  exact rounds_leave (cursorAt board img env st) (fun j below => blockRound_again (reaches j below))
    (blockRound_leave stops) later

/-! ### The trace -/

variable (board img env) in
/-- What the decrypt call of block `k` adds to the trace. -/
def blkEvents (st : St) (k : Nat) : List Event :=
  (blkCall board img env st.bsIv k (loaderAt board img env st k)).1.trace.drop
    (loaderAt board img env st k).trace.length

/-- The transfers of block `k`, if it gets through. -/
def blkTransfers (board : Board) (img : Image) (env : CmdEnv) (st : St) (k : Nat) : List Transfer :=
  callTransfers ⟨.image, blkStart img env k⟩ (blkLen env k).toNat ⟨.image, blkTag img env k⟩
    (blkIv st.bsIv k) (blkType k) (loaderAt board img env st k)

/-- Block `k` streams some image data. -/
def streamsAt (board : Board) (img : Image) (env : CmdEnv) (bsIv : Option Ptr) (k : Nat) : Bool :=
  streamsCall board img (env.block k) ⟨.image, blkStart img env k⟩ (blkLen env k).toNat
    (blkIv bsIv k) (blkType k)

variable (board img env) in
/-- `decryptData_trace` for the decrypt call of block `k`. -/
theorem blkCall_sends (st : St) (k : Nat) :
    ∃ sent, sent <+: blkTransfers board img env st k ∧
      (blkCall board img env st.bsIv k (loaderAt board img env st k)).1.trace =
        (loaderAt board img env st k).trace ++ Event.decrypt :: sent.map Event.transfer ++
          ((verdict board img env st.bsIv k).map Event.decrypted).toList ∧
      (1 < sent.length ↔ streamsAt board img env st.bsIv k = true) ∧
      (∀ t ∈ sent, virtToPhys board img t.src % 8 = 0) ∧
      (verdict board img env st.bsIv k = some teeSuccess →
        sent = blkTransfers board img env st k) := by
  rw [← blkCall_ret board img env st.bsIv k (loaderAt board img env st k)]
  exact (decryptData_trace ..).2

variable (board img env) in
/-- **One block in the trace.** -/
theorem blkEvents_eq (st : St) (k : Nat) :
    ∃ sent, sent <+: blkTransfers board img env st k ∧
      blkEvents board img env st k = Event.decrypt :: sent.map Event.transfer ++
        ((verdict board img env st.bsIv k).map Event.decrypted).toList ∧
      (1 < sent.length ↔ streamsAt board img env st.bsIv k = true) ∧
      (∀ t ∈ sent, virtToPhys board img t.src % 8 = 0) ∧
      (verdict board img env st.bsIv k = some teeSuccess →
        sent = blkTransfers board img env st k) := by
  obtain ⟨sent, initial, trace, streams, aligned, all⟩ := blkCall_sends board img env st k
  refine ⟨sent, initial, ?_, streams, aligned, all⟩
  rw [blkEvents, trace, List.append_assoc, List.drop_left]

theorem blkCall_trace (st : St) (k : Nat) :
    (blkCall board img env st.bsIv k (loaderAt board img env st k)).1.trace =
      (loaderAt board img env st k).trace ++ blkEvents board img env st k := by
  obtain ⟨sent, _, trace, _⟩ := blkCall_sends board img env st k
  rw [blkEvents, trace, List.append_assoc, List.drop_left]

variable (board img env) in
/-- What the first `k` blocks add to the trace. -/
def eventsBefore (st : St) (k : Nat) : List Event :=
  (List.range k).flatMap fun j => blkEvents board img env st j ++ [.keyLoad teeSuccess]

theorem eventsBefore_succ (st : St) (k : Nat) :
    eventsBefore board img env st (k + 1) =
      eventsBefore board img env st k ++
        (blkEvents board img env st k ++ [.keyLoad teeSuccess]) := by
  simp [eventsBefore, List.range_succ]

theorem loaderAt_trace (st : St) (k : Nat) :
    (loaderAt board img env st k).trace = st.trace ++ eventsBefore board img env st k := by
  induction k with
  | zero => simp [loaderAt, eventsBefore]
  | succ k ih =>
    rw [eventsBefore_succ, loaderAt]
    simp [St.emit, blkCall_trace, ih]

/-- The decouplers and the IV array are not touched by the loop. -/
theorem loaderAt_frame (st : St) (k : Nat) :
    (loaderAt board img env st k).dfx = st.dfx ∧
      (loaderAt board img env st k).ivArr = st.ivArr := by
  induction k with
  | zero => exact ⟨rfl, rfl⟩
  | succ k ih =>
    have same : SameDriver _ (blkCall board img env st.bsIv k (loaderAt board img env st k)).1 :=
      blkCall_same ..
    exact ⟨same.dfx.trans ih.1, same.ivArr.trans ih.2⟩

/-- No transfer of a call sees other decouplers or another `iv_arr` than the call found. -/
theorem frame_of_mem_blkTransfers {st : St} {k : Nat} {t : Transfer}
    (inside : t ∈ blkTransfers board img env st k) : t.dfx = st.dfx ∧ t.ivArr = st.ivArr := by
  have frame : (loaderAt board img env st k).dfx = st.dfx ∧ _ := loaderAt_frame st k
  unfold blkTransfers callTransfers at inside
  split at inside
  · cases inside
  · obtain ⟨dfx, ivArr⟩ := frame_of_mem_blockTransfers inside
    exact ⟨dfx.trans frame.1, ivArr.trans frame.2⟩

variable (board img env) in
/-- What follows the last decrypt call: nothing, or a key load that the call fails with. -/
theorem exitAt_trace (st : St) (k : Nat) :
    ∃ tail, (tail = [] ∨ ∃ ret, tail = [Event.keyLoad ret] ∧
        (exitAt board img env st k).2 = .returned teeErrorGeneric) ∧
      (exitAt board img env st k).1.trace =
        st.trace ++ eventsBefore board img env st k ++ blkEvents board img env st k ++ tail := by
  have trace : (blkCall board img env st.bsIv k (loaderAt board img env st k)).1.trace =
      st.trace ++ eventsBefore board img env st k ++ blkEvents board img env st k := by
    rw [blkCall_trace, loaderAt_trace]
  unfold exitAt
  cases verdict board img env st.bsIv k with
  | none => exact ⟨[], Or.inl rfl, by simp [trace]⟩
  | some ret =>
    simp only
    split
    · split <;> exact ⟨[], Or.inl rfl, by simp [trace]⟩
    · split
      · exact ⟨[], Or.inl rfl, by simp [trace]⟩
      · exact ⟨[_], Or.inr ⟨_, rfl, rfl⟩, by simp [St.emit, trace]; rfl⟩

/-! ### The whole call -/

variable (board img env) in
/-- The state in which the loop is entered. -/
def entryState (st : St) : St := loopEntry env (headerReads img st)

theorem entryState_bsIv (st : St) : (entryState img env st).bsIv = st.bsIv := by
  unfold entryState loopEntry zynqmpCsudmaPrepare
  split <;> rfl

theorem entryState_frame (st : St) :
    (entryState img env st).dfx = st.dfx ∧ (entryState img env st).ivArr = st.ivArr := by
  unfold entryState loopEntry zynqmpCsudmaPrepare
  split <;> exact ⟨rfl, rfl⟩

variable (img env) in
/-- What the call adds to the trace before the loop. -/
def entryEvents : List Event :=
  [.read headerTableOffset 4, .read (img.headerTable + 0x20) 4, .read (img.headerTable + 0x4) 4,
    .keyLoad (waitForEvent env.keySts aesStsKeyInitDone aesStsKeyInitDone)]

theorem entryState_trace (st : St) :
    (entryState img env st).trace = st.trace ++ entryEvents img env := by
  unfold entryState loopEntry zynqmpCsudmaPrepare
  split <;> simp [headerReads, St.emit, entryEvents]

theorem secureWrite_unmapped (unmapped : ¬ (board.csu = true ∧ board.aes = true)) (n : Nat)
    (st : St) :
    zynqmpCsuSecurePcapWrite board img env n st = (headerReads img st, some teeErrorGeneric) := by
  have missing : (!board.csu || !board.aes) = true := by
    cases csu : board.csu <;> cases aes : board.aes <;> simp_all
  simp only [zynqmpCsuSecurePcapWrite, missing, if_true]

theorem secureWrite_mapped (mapped : board.csu = true ∧ board.aes = true) (n : Nat) (st : St) :
    zynqmpCsuSecurePcapWrite board img env n st =
      match rounds (blockRound board img env) n (firstCursor img (entryState img env st)) with
      | .again c => (c.st, none)
      | .leave left => afterLoop board env left := by
  simp only [zynqmpCsuSecurePcapWrite, mapped.1, mapped.2, Bool.not_true, Bool.or_self,
    Bool.false_eq_true, if_false]
  rfl

/-- **The call after any number of rounds**, when the registers are mapped. -/
theorem secureWrite_cases (mapped : board.csu = true ∧ board.aes = true) (n : Nat) (st : St) :
    (Reaches board img env st.bsIv n ∧ zynqmpCsuSecurePcapWrite board img env n st =
      (loaderAt board img env (entryState img env st) n, none)) ∨
    ∃ k < n, Reaches board img env st.bsIv k ∧ ¬ GoesOn board img env st.bsIv k ∧
      zynqmpCsuSecurePcapWrite board img env n st =
        afterLoop board env (exitAt board img env (entryState img env st) k) := by
  have loop := blockLoop_cases board img env (entryState img env st) n
  rw [entryState_bsIv] at loop
  rw [secureWrite_mapped mapped]
  rcases loop with ⟨reaches, running⟩ | ⟨k, below, reaches, stops, left⟩
  · exact Or.inl ⟨reaches, by rw [running]; rfl⟩
  · exact Or.inr ⟨k, below, reaches, stops, by rw [left]⟩

theorem secureWrite_running (mapped : board.csu = true ∧ board.aes = true) {n : Nat} {st : St}
    (reaches : Reaches board img env st.bsIv n) :
    zynqmpCsuSecurePcapWrite board img env n st =
      (loaderAt board img env (entryState img env st) n, none) := by
  rw [← entryState_bsIv] at reaches
  rw [secureWrite_mapped mapped, blockLoop_reaches reaches]
  rfl

theorem secureWrite_left (mapped : board.csu = true ∧ board.aes = true) {k n : Nat} {st : St}
    (reaches : Reaches board img env st.bsIv k) (stops : ¬ GoesOn board img env st.bsIv k)
    (later : k < n) :
    zynqmpCsuSecurePcapWrite board img env n st =
      afterLoop board env (exitAt board img env (entryState img env st) k) := by
  rw [← entryState_bsIv] at reaches stops
  rw [secureWrite_mapped mapped, blockLoop_left reaches stops later]

theorem afterLoop_state (left : St × Exit) : (afterLoop board env left).1 = left.1 := by
  obtain ⟨st, exit⟩ := left
  cases exit with
  | stuck => rfl
  | returned ret => rfl
  | broke ret =>
    simp only [afterLoop]
    split_ifs <;> rfl

/-- **When the call succeeds**: the last block passed, the announced lengths add up to the header's,
and the PCAP reports done. -/
theorem exit_success_iff {st : St} {k : Nat} :
    (afterLoop board env (exitAt board img env st k)).2 = some teeSuccess ↔
      verdict board img env st.bsIv k = some teeSuccess ∧ nextBlkLen env k = 0#32 ∧
        announced env (k + 1) = img.unEncDataLen ∧ pcapWaitForDone board env = teeSuccess ∧
        pcapWaitForPLDone board env = teeSuccess := by
  unfold exitAt
  cases verdict board img env st.bsIv k with
  | none => simp [afterLoop]
  | some ret =>
    simp only
    by_cases last : nextBlkLen env k = 0#32
    · by_cases whole : announced env (k + 1) = img.unEncDataLen
      · by_cases ok : ret = teeSuccess
        · by_cases done : pcapWaitForDone board env = teeSuccess
          · simp [last, whole, ok, done, afterLoop]
          · simp [last, whole, ok, done, afterLoop]
        · simp [last, whole, ok, afterLoop]
      · simp [last, whole, afterLoop]
    · by_cases exceeds : img.unEncDataLen < announced env (k + 1)
      · simp [last, exceeds, afterLoop]
      · simp [last, exceeds, afterLoop]

/-- A block that fails makes the call fail if the loop ends there. -/
theorem exit_error {st : St} {k : Nat} {ret : TeeResult}
    (returned : verdict board img env st.bsIv k = some ret) (fails : ret ≠ teeSuccess) :
    ∃ code, code ≠ teeSuccess ∧
      (afterLoop board env (exitAt board img env st k)).2 = some code := by
  unfold exitAt
  rw [returned]
  simp only
  split
  · split
    · exact ⟨_, teeErrorGeneric_ne, rfl⟩
    · exact ⟨ret, fails, by simp [afterLoop, fails]⟩
  · split
    · exact ⟨_, teeErrorGeneric_ne, rfl⟩
    · exact ⟨_, teeErrorGeneric_ne, rfl⟩

theorem tagOk_of_verdict {bsIv : Option Ptr} {k : Nat}
    (passed : verdict board img env bsIv k = some teeSuccess) :
    (env.block k).aesSts &&& aesStsGcmTagOk ≠ 0#32 := by
  unfold verdict blkCall at passed
  cases iv : blkIv bsIv k with
  | none =>
    rw [iv] at passed
    exact absurd (Option.some.inj passed) teeErrorBadParameters_ne
  | some p =>
    rw [iv] at passed
    exact (decryptData_success.mp passed).tagOk

/-! ### The events of a call -/

variable (board img env) in
/-- What a call of `zynqmp_csu_secure_pcap_write` adds to the trace in `n` rounds. -/
def writeEvents (n : Nat) (st : St) : List Event :=
  (zynqmpCsuSecurePcapWrite board img env n st).1.trace.drop st.trace.length

theorem writeEvents_unmapped (unmapped : ¬ (board.csu = true ∧ board.aes = true)) (n : Nat)
    (st : St) :
    writeEvents board img env n st = [.read headerTableOffset 4, .read (img.headerTable + 0x20) 4,
      .read (img.headerTable + 0x4) 4] := by
  rw [writeEvents, secureWrite_unmapped unmapped]
  simp [headerReads, St.emit]

theorem writeEvents_running (mapped : board.csu = true ∧ board.aes = true) {n : Nat} {st : St}
    (reaches : Reaches board img env st.bsIv n) :
    writeEvents board img env n st =
      entryEvents img env ++ eventsBefore board img env (entryState img env st) n := by
  rw [writeEvents, secureWrite_running mapped reaches, loaderAt_trace, entryState_trace,
    List.append_assoc, List.drop_left]

theorem writeEvents_left (mapped : board.csu = true ∧ board.aes = true) {k n : Nat} {st : St}
    (reaches : Reaches board img env st.bsIv k) (stops : ¬ GoesOn board img env st.bsIv k)
    (later : k < n) :
    ∃ tail, (tail = [] ∨ ∃ ret, tail = [Event.keyLoad ret] ∧
        (exitAt board img env (entryState img env st) k).2 = .returned teeErrorGeneric) ∧
      writeEvents board img env n st =
        entryEvents img env ++ eventsBefore board img env (entryState img env st) k ++
          blkEvents board img env (entryState img env st) k ++ tail := by
  obtain ⟨tail, short, trace⟩ := exitAt_trace board img env (entryState img env st) k
  refine ⟨tail, short, ?_⟩
  rw [writeEvents, secureWrite_left mapped reaches stops later, afterLoop_state, trace,
    entryState_trace]
  simp only [List.append_assoc, List.drop_left]

/-- **The events of a call after any number of rounds**, when the registers are mapped. -/
theorem writeEvents_cases (mapped : board.csu = true ∧ board.aes = true) (n : Nat) (st : St) :
    (Reaches board img env st.bsIv n ∧ writeEvents board img env n st =
      entryEvents img env ++ eventsBefore board img env (entryState img env st) n) ∨
    ∃ k < n, Reaches board img env st.bsIv k ∧ ¬ GoesOn board img env st.bsIv k ∧
      ∃ tail, (tail = [] ∨ ∃ ret, tail = [Event.keyLoad ret] ∧
          (exitAt board img env (entryState img env st) k).2 = .returned teeErrorGeneric) ∧
        writeEvents board img env n st =
          entryEvents img env ++ eventsBefore board img env (entryState img env st) k ++
            blkEvents board img env (entryState img env st) k ++ tail := by
  rcases secureWrite_cases mapped n st with ⟨reaches, _⟩ | ⟨k, below, reaches, stops, _⟩
  · exact Or.inl ⟨reaches, writeEvents_running mapped reaches⟩
  · exact Or.inr ⟨k, below, reaches, stops, writeEvents_left mapped reaches stops below⟩

/-- The trace only grows. -/
theorem secureWrite_trace (board : Board) (img : Image) (env : CmdEnv) (n : Nat) (st : St) :
    (zynqmpCsuSecurePcapWrite board img env n st).1.trace =
      st.trace ++ writeEvents board img env n st := by
  suffices grows : ∃ new, (zynqmpCsuSecurePcapWrite board img env n st).1.trace =
      st.trace ++ new by
    obtain ⟨new, trace⟩ := grows
    rw [writeEvents, trace, List.drop_left]
  by_cases mapped : board.csu = true ∧ board.aes = true
  · rcases secureWrite_cases mapped n st with ⟨_, running⟩ | ⟨k, _, _, _, left⟩
    · refine ⟨entryEvents img env ++ eventsBefore board img env (entryState img env st) n, ?_⟩
      rw [running, loaderAt_trace, entryState_trace, List.append_assoc]
    · obtain ⟨tail, _, trace⟩ := exitAt_trace board img env (entryState img env st) k
      refine ⟨entryEvents img env ++ eventsBefore board img env (entryState img env st) k ++
        blkEvents board img env (entryState img env st) k ++ tail, ?_⟩
      rw [left, afterLoop_state, trace, entryState_trace]
      simp only [List.append_assoc]
  · refine ⟨[.read headerTableOffset 4, .read (img.headerTable + 0x20) 4,
      .read (img.headerTable + 0x4) 4], ?_⟩
    rw [secureWrite_unmapped mapped]
    simp [headerReads, St.emit]

theorem verdict_returns {bsIv : Option Ptr} {k : Nat}
    (alive : ((env.block k).pcapVa && (env.block k).pcapIdle) = true) :
    verdict board img env bsIv k ≠ none :=
  decryptData_returns alive _ _ _ _ _ _

/-- Where an event of a call comes from. -/
theorem mem_writeEvents {n : Nat} {st : St} {e : Event}
    (here : e ∈ writeEvents board img env n st) :
    e ∈ [Event.read headerTableOffset 4, .read (img.headerTable + 0x20) 4,
      .read (img.headerTable + 0x4) 4] ∨ (∃ ret, e = .keyLoad ret) ∨
    ∃ k < n, Reaches board img env st.bsIv k ∧
      e ∈ blkEvents board img env (entryState img env st) k := by
  have entry (inside : e ∈ entryEvents img env) : e ∈ [Event.read headerTableOffset 4,
      .read (img.headerTable + 0x20) 4, .read (img.headerTable + 0x4) 4] ∨
        ∃ ret, e = .keyLoad ret := by
    rcases List.mem_append.mp (show e ∈ [_, _, _] ++ [_] from inside) with read | key
    · exact Or.inl read
    · exact Or.inr ⟨_, List.mem_singleton.mp key⟩
  have before {k : Nat} (reaches : Reaches board img env st.bsIv k)
      (inside : e ∈ eventsBefore board img env (entryState img env st) k) :
      (∃ ret, e = .keyLoad ret) ∨ ∃ j < k, Reaches board img env st.bsIv j ∧
        e ∈ blkEvents board img env (entryState img env st) j := by
    obtain ⟨j, below, inside⟩ := List.mem_flatMap.mp inside
    rcases List.mem_append.mp inside with block | key
    · have below := List.mem_range.mp below
      exact Or.inr ⟨j, below, reaches.mono below.le, block⟩
    · exact Or.inl ⟨_, List.mem_singleton.mp key⟩
  by_cases mapped : board.csu = true ∧ board.aes = true
  · rcases writeEvents_cases mapped n st with
      ⟨reaches, events⟩ | ⟨k, below, reaches, _, tail, short, events⟩
    · rw [events] at here
      rcases List.mem_append.mp here with inside | inside
      · exact (entry inside).imp_right Or.inl
      · exact Or.inr (before reaches inside)
    · rw [events, List.mem_append, List.mem_append, List.mem_append] at here
      rcases here with ((inside | inside) | inside) | inside
      · exact (entry inside).imp_right Or.inl
      · rcases before reaches inside with key | ⟨j, less, block⟩
        · exact Or.inr (Or.inl key)
        · exact Or.inr (Or.inr ⟨j, less.trans below, block⟩)
      · exact Or.inr (Or.inr ⟨k, below, reaches, inside⟩)
      · rcases short with rfl | ⟨ret, rfl, _⟩
        · cases inside
        · exact Or.inr (Or.inl ⟨ret, List.mem_singleton.mp inside⟩)
  · rw [writeEvents_unmapped mapped] at here
    exact Or.inl here

/-- A transfer of a block is one of the block's, and the DMA took its address. -/
theorem transfer_of_mem_blkEvents {st : St} {k : Nat} {t : Transfer}
    (here : Event.transfer t ∈ blkEvents board img env st k) :
    t ∈ blkTransfers board img env st k ∧ virtToPhys board img t.src % 8 = 0 := by
  obtain ⟨sent, initial, events, _, aligned, _⟩ := blkEvents_eq board img env st k
  rw [events] at here
  have inside : t ∈ sent := by
    cases verdict board img env st.bsIv k <;> simpa using here
  exact ⟨initial.subset inside, aligned t inside⟩

/-- A block that is reached is in the trace of a long enough run, behind all earlier ones. -/
theorem writeEvents_reached (mapped : board.csu = true ∧ board.aes = true) {k : Nat} {st : St}
    (reaches : Reaches board img env st.bsIv k) :
    ∃ tail, writeEvents board img env (k + 1) st =
      entryEvents img env ++ eventsBefore board img env (entryState img env st) k ++
        blkEvents board img env (entryState img env st) k ++ tail := by
  by_cases again : GoesOn board img env st.bsIv k
  · refine ⟨[.keyLoad teeSuccess], ?_⟩
    rw [writeEvents_running mapped (reaches.succ again), eventsBefore_succ]
    simp only [List.append_assoc]
  · obtain ⟨tail, _, events⟩ := writeEvents_left mapped reaches again (Nat.lt_succ_self k)
    exact ⟨tail, events⟩

/-- Every block that is reached within the rounds is in the trace. -/
theorem mem_writeEvents_of_block (mapped : board.csu = true ∧ board.aes = true) {k n : Nat}
    {st : St} (below : k < n) (reaches : Reaches board img env st.bsIv k) {e : Event}
    (here : e ∈ blkEvents board img env (entryState img env st) k) :
    e ∈ writeEvents board img env n st := by
  have earlier {j : Nat} (less : k < j) :
      e ∈ eventsBefore board img env (entryState img env st) j :=
    List.mem_flatMap.mpr ⟨k, List.mem_range.mpr less, List.mem_append_left _ here⟩
  rcases writeEvents_cases mapped n st with
    ⟨_, events⟩ | ⟨j, _, _, stops, tail, _, events⟩
  · rw [events]
    exact List.mem_append_right _ (earlier below)
  · rw [events]
    rcases Nat.lt_trichotomy k j with less | rfl | more
    · simp [earlier less]
    · simp [here]
    · exact absurd (reaches j more) stops

/-! ### The number of decrypt calls -/

theorem count_blkEvents (st : St) (k : Nat) :
    (blkEvents board img env st k).count .decrypt = 1 := by
  obtain ⟨sent, _, events, _⟩ := blkEvents_eq board img env st k
  have none : (sent.map Event.transfer).count .decrypt = 0 := List.count_eq_zero.mpr (by simp)
  rw [events]
  cases verdict board img env st.bsIv k with
  | none => simp [none]
  | some code => simp [none]

theorem count_eventsBefore (st : St) (k : Nat) :
    (eventsBefore board img env st k).count .decrypt = k := by
  induction k with
  | zero => rfl
  | succ k ih => simp [eventsBefore_succ, List.count_append, ih, count_blkEvents]

theorem count_entryEvents : (entryEvents img env).count .decrypt = 0 :=
  List.count_eq_zero.mpr (by simp [entryEvents])

theorem count_writeEvents_running (mapped : board.csu = true ∧ board.aes = true) {n : Nat} {st : St}
    (reaches : Reaches board img env st.bsIv n) :
    (writeEvents board img env n st).count .decrypt = n := by
  rw [writeEvents_running mapped reaches, List.count_append, count_entryEvents, count_eventsBefore,
    Nat.zero_add]

theorem count_writeEvents_left (mapped : board.csu = true ∧ board.aes = true) {k n : Nat} {st : St}
    (reaches : Reaches board img env st.bsIv k) (stops : ¬ GoesOn board img env st.bsIv k)
    (later : k < n) : (writeEvents board img env n st).count .decrypt = k + 1 := by
  obtain ⟨tail, short, events⟩ := writeEvents_left mapped reaches stops later
  have none : tail.count .decrypt = 0 := List.count_eq_zero.mpr (by
    rcases short with rfl | ⟨code, rfl, _⟩ <;> simp)
  rw [events, List.count_append, List.count_append, List.count_append, count_entryEvents,
    count_eventsBefore, count_blkEvents, none]
  omega

/-! ### What a call returns, and what it leaves alone -/

theorem exit_none_iff {st : St} {k : Nat} :
    (afterLoop board env (exitAt board img env st k)).2 = none ↔
      verdict board img env st.bsIv k = none := by
  unfold exitAt
  cases verdict board img env st.bsIv k with
  | none => simp [afterLoop]
  | some ret =>
    simp only
    split
    · split
      · simp [afterLoop]
      · simp only [afterLoop]
        split_ifs <;> simp
    · split <;> simp [afterLoop]

/-- **The call returns** when its loop ends in a block whose decrypt call returned. -/
theorem secureWrite_returns_iff (mapped : board.csu = true ∧ board.aes = true) {n : Nat} {st : St} :
    (zynqmpCsuSecurePcapWrite board img env n st).2 ≠ none ↔
      ∃ k < n, Reaches board img env st.bsIv k ∧ ¬ GoesOn board img env st.bsIv k ∧
        verdict board img env st.bsIv k ≠ none := by
  constructor
  · intro returns
    rcases secureWrite_cases mapped n st with ⟨_, running⟩ | ⟨k, below, reaches, stops, left⟩
    · rw [running] at returns
      exact absurd rfl returns
    · rw [left, ne_eq, exit_none_iff, entryState_bsIv] at returns
      exact ⟨k, below, reaches, stops, returns⟩
  · rintro ⟨k, below, reaches, stops, returns⟩
    rw [secureWrite_left mapped reaches stops below, ne_eq, exit_none_iff, entryState_bsIv]
    exact returns

/-- **The call succeeds** when the last block passes, the lengths add up and the PCAP is done. -/
theorem secureWrite_success_iff (mapped : board.csu = true ∧ board.aes = true) {n : Nat} {st : St} :
    (zynqmpCsuSecurePcapWrite board img env n st).2 = some teeSuccess ↔
      ∃ k < n, Reaches board img env st.bsIv k ∧
        verdict board img env st.bsIv k = some teeSuccess ∧ nextBlkLen env k = 0#32 ∧
        announced env (k + 1) = img.unEncDataLen ∧ pcapWaitForDone board env = teeSuccess ∧
        pcapWaitForPLDone board env = teeSuccess := by
  constructor
  · intro success
    rcases secureWrite_cases mapped n st with ⟨_, running⟩ | ⟨k, below, reaches, _, left⟩
    · rw [running] at success
      cases success
    · rw [left, exit_success_iff, entryState_bsIv] at success
      exact ⟨k, below, reaches, success⟩
  · rintro ⟨k, below, reaches, success⟩
    have stops : ¬ GoesOn board img env st.bsIv k := fun goesOn => goesOn.2.1 success.2.1
    rw [secureWrite_left mapped reaches stops below, exit_success_iff, entryState_bsIv]
    exact success

variable (board img env) in
/-- Behind its last decrypt call the loop changes the trace at most. -/
theorem exitAt_state (st : St) (k : Nat) :
    ∃ trace, (exitAt board img env st k).1 =
      { (blkCall board img env st.bsIv k (loaderAt board img env st k)).1 with trace } := by
  unfold exitAt
  cases verdict board img env st.bsIv k with
  | none => exact ⟨_, rfl⟩
  | some ret =>
    simp only
    split_ifs <;> exact ⟨_, rfl⟩

theorem exitAt_frame (st : St) (k : Nat) :
    (exitAt board img env st k).1.dfx = st.dfx ∧
      (exitAt board img env st k).1.ivArr = st.ivArr := by
  have same : SameDriver _ (blkCall board img env st.bsIv k (loaderAt board img env st k)).1 :=
    blkCall_same ..
  have frame : (loaderAt board img env st k).dfx = st.dfx ∧ _ := loaderAt_frame st k
  obtain ⟨trace, state⟩ := exitAt_state board img env st k
  rw [state]
  exact ⟨same.dfx.trans frame.1, same.ivArr.trans frame.2⟩

/-- The loader does not touch the decouplers or the IV array. -/
theorem secureWrite_frame (board : Board) (img : Image) (env : CmdEnv) (n : Nat) (st : St) :
    (zynqmpCsuSecurePcapWrite board img env n st).1.dfx = st.dfx ∧
      (zynqmpCsuSecurePcapWrite board img env n st).1.ivArr = st.ivArr := by
  have entry : (entryState img env st).dfx = st.dfx ∧ _ := entryState_frame st
  by_cases mapped : board.csu = true ∧ board.aes = true
  · rcases secureWrite_cases mapped n st with ⟨_, running⟩ | ⟨k, _, _, _, left⟩
    · rw [running, (loaderAt_frame _ n).1, (loaderAt_frame _ n).2]
      exact entry
    · rw [left, afterLoop_state, (exitAt_frame _ k).1, (exitAt_frame _ k).2]
      exact entry
  · rw [secureWrite_unmapped mapped]
    exact ⟨rfl, rfl⟩

theorem second_mem_of_start {α : Type*} {sent rest : List α} {a b : α}
    (initial : sent <+: a :: b :: rest) (long : 1 < sent.length) : b ∈ sent := by
  match sent, long with
  | x :: y :: sent, _ =>
    have same := (List.cons_prefix_cons.mp (List.cons_prefix_cons.mp initial).2).1
    simp [same]

/-- A block is in the trace with image data exactly when it streams. -/
theorem image_mem_blkEvents {st : St} (iv : st.bsIv = some ⟨.ivArr, 0⟩) (k : Nat) :
    (∃ t, Event.transfer t ∈ blkEvents board img env st k ∧ t.src.base = .image) ↔
      streamsAt board img env st.bsIv k = true := by
  obtain ⟨sent, initial, events, streams, _⟩ := blkEvents_eq board img env st k
  have member (t : Transfer) : Event.transfer t ∈ blkEvents board img env st k ↔ t ∈ sent := by
    rw [events]
    cases verdict board img env st.bsIv k <;> simp
  obtain ⟨first, second, rest, shape, outside, image⟩ : ∃ first second rest,
      blkTransfers board img env st k = first :: second :: rest ∧ first.src.base ≠ .image ∧
        second.src.base = .image := by
    unfold blkTransfers callTransfers
    cases k with
    | zero =>
      rw [show blkIv st.bsIv 0 = some ⟨.ivArr, 0⟩ from iv]
      exact ⟨_, _, _, rfl, Base.noConfusion, rfl⟩
    | succ k => exact ⟨_, _, _, rfl, Base.noConfusion, rfl⟩
  rw [shape] at initial
  rw [← streams]
  constructor
  · rintro ⟨t, here, isImage⟩
    rw [member] at here
    by_contra short
    match sent, short with
    | [], _ => cases here
    | [x], _ =>
      have same := (List.cons_prefix_cons.mp initial).1
      rw [List.mem_singleton.mp here, same] at isImage
      exact outside isImage
    | x :: y :: sent, short => simp at short
  · intro long
    exact ⟨second, (member second).mpr (second_mem_of_start initial long), image⟩

end Blocks

end TrustzoneWatchdog.Loader
