/-
**The byte order of the DMA source channel.**

`zynqmp_csu_secure_pcap_write` sets the byte-swap bit once before its loop. `aes_transfer_dec`
pushes the IV under whatever the bit is, sets it for the image, and clears it at `out`. So the IV of
the first block, which is in memory, goes out swapped, and the IV of every later one, which is in
the registers of the engine, does not.

* `clearsSwap_decryptData`: a decrypt call that returns leaves the bit clear, on whichever path.
* `loaderAt_srcEndian`: the bit before block `k` is set for the first block only.
* `swap_of_mem_blkTransfers`: which transfers of a block are swapped.
* `swapDiscipline`: source and byte order agree in every run of the loader, and the bit is clear
  when it returns.
-/

import TrustzoneWatchdog.Loader.Isolation

namespace TrustzoneWatchdog.Loader

/-! ### A decrypt call clears the bit -/

/-- If this returns, the byte-swap bit is clear. -/
def ClearsSwap (r : St × Option TeeResult) : Prop := r.2 ≠ none → r.1.srcEndian = false

section Call

variable {board : Board} {img : Image} {env : BlockEnv}

theorem clearsSwap_out (unprepared : env.unprepareVa = true) (st : St) (ret : TeeResult) :
    ClearsSwap (aesTransferOut env st ret) := by
  intro _
  simp [aesTransferOut, zynqmpCsudmaUnprepare, unprepared]

theorem clearsSwap_image (unprepared : env.unprepareVa = true) (src : Ptr) (len : Nat) (tag : Ptr)
    (blockType : BlockType) (st : St) :
    ClearsSwap (aesTransferImage board img env src len tag blockType st) := by
  have out := clearsSwap_out unprepared
  cases blockType with
  | secureHeader => exact aesTransferHeader_rule ClearsSwap out st
  | dataBlock =>
    refine pushThen_rule ClearsSwap out (fun st => ?_) st
    split
    · exact aesTransferHeader_rule ClearsSwap out st
    · exact fun returns => absurd rfl returns

theorem clearsSwap_dec (aesVa : env.aesVa = true) (prepared : env.prepareVa = true)
    (unprepared : env.unprepareVa = true) (src : Ptr) (len : Nat) (tag iv : Ptr)
    (blockType : BlockType) (st : St) :
    ClearsSwap (aesTransferDec board img env src len tag iv blockType st) := by
  rw [aesTransferDec, aesVa]
  refine pushThen_rule ClearsSwap (clearsSwap_out unprepared) (fun st => ?_) st
  rw [aesTransferBody_ready prepared]
  exact clearsSwap_image unprepared _ _ _ _ _

/-- **A decrypt call that returns leaves the bit clear.** -/
theorem clearsSwap_decryptData (aesVa : env.aesVa = true) (prepared : env.prepareVa = true)
    (unprepared : env.unprepareVa = true) (src : Ptr) (len : Nat) (tag iv : Ptr)
    (blockType : BlockType) (st : St) :
    ClearsSwap (zynqmpCsuAesDecryptData board img env (some src) len (some tag) (some iv) blockType
      st) := by
  have clears : ClearsSwap (aesTransferDec board img env src len tag iv blockType
      (st.emit .decrypt)) := clearsSwap_dec aesVa prepared unprepared _ _ _ _ _ _
  intro returns
  simp only [zynqmpCsuAesDecryptData] at returns ⊢
  cases ret : (aesTransferDec board img env src len tag iv blockType (st.emit .decrypt)).2 with
  | none => simp [ret] at returns
  | some code => exact clears (by simp [ret])

end Call

/-! ### The bit in the loop -/

/-- The registers of the CSU, the AES engine and the CSU DMA map wherever they are asked for. -/
structure RegistersMapped (board : Board) (env : CmdEnv) : Prop where
  csu : board.csu = true
  aes : board.aes = true
  prepareVa : env.prepareVa = true
  aesVa : ∀ k, (env.block k).aesVa = true
  blockPrepareVa : ∀ k, (env.block k).prepareVa = true
  unprepareVa : ∀ k, (env.block k).unprepareVa = true

section Loop

variable {board : Board} {img : Image} {env : CmdEnv} {st : St}

theorem clearsSwap_blkCall (mapped : RegistersMapped board env) {bsIv : Option Ptr}
    (iv : bsIv = imageIv) (k : Nat) (st : St) : ClearsSwap (blkCall board img env bsIv k st) := by
  obtain ⟨p, isPointer⟩ : ∃ p, blkIv bsIv k = some p := by
    cases k with
    | zero => exact ⟨_, iv⟩
    | succ k => exact ⟨_, rfl⟩
  rw [blkCall, isPointer]
  exact clearsSwap_decryptData (mapped.aesVa k) (mapped.blockPrepareVa k) (mapped.unprepareVa k)
    _ _ _ _ _ _

/-- **The bit before block `k`** is set for the first block, and clear for the others. -/
theorem loaderAt_srcEndian (mapped : RegistersMapped board env) (iv : st.bsIv = imageIv)
    (set : st.srcEndian = true) {k : Nat} (reaches : Reaches board img env st.bsIv k) :
    (loaderAt board img env st k).srcEndian = decide (k = 0) := by
  cases k with
  | zero => exact set
  | succ k =>
    have returned : (blkCall board img env st.bsIv k (loaderAt board img env st k)).2 ≠ none := by
      rw [blkCall_ret]
      exact (reaches k (Nat.lt_succ_self k)).1
    exact clearsSwap_blkCall mapped iv k _ returned

theorem entryState_srcEndian (prepared : env.prepareVa = true) (st : St) :
    (entryState img env st).srcEndian = true := by
  simp [entryState, loopEntry, zynqmpCsudmaPrepare, prepared]

/-- A transfer of a block is the push of its IV, or a swapped one of the image. -/
theorem swap_of_mem_blkTransfers (iv : st.bsIv = imageIv) {k : Nat} {t : Transfer}
    (inside : t ∈ blkTransfers board img env st k) :
    (t.byteSwap = (loaderAt board img env st k).srcEndian ∧
      t.src.base = if k = 0 then .ivArr else .aesIv) ∨
    (t.byteSwap = true ∧ t.src.base = .image) := by
  unfold blkTransfers callTransfers at inside
  cases k with
  | zero =>
    rw [show blkIv st.bsIv 0 = some ⟨.ivArr, 0⟩ from iv] at inside
    simp only [blockTransfers, imageTransfers, blkType, headerTransfers, List.mem_cons,
      List.not_mem_nil, or_false] at inside
    rcases inside with rfl | rfl | rfl
    · exact Or.inl ⟨rfl, rfl⟩
    · exact Or.inr ⟨rfl, rfl⟩
    · exact Or.inr ⟨rfl, rfl⟩
  | succ k =>
    simp only [blkIv, blockTransfers, imageTransfers, blkType, headerTransfers, List.mem_cons,
      List.not_mem_nil, or_false] at inside
    rcases inside with rfl | rfl | rfl | rfl
    · exact Or.inl ⟨rfl, rfl⟩
    · exact Or.inr ⟨rfl, rfl⟩
    · exact Or.inr ⟨rfl, rfl⟩
    · exact Or.inr ⟨rfl, rfl⟩

/-- The byte order of a transfer goes with where it reads. -/
theorem swap_of_mem_writeEvents (mapped : RegistersMapped board env) (iv : st.bsIv = imageIv)
    {n : Nat} {t : Transfer} (here : Event.transfer t ∈ writeEvents board img env n st) :
    t.byteSwap = decide (t.src.base ≠ .aesIv) := by
  rcases mem_writeEvents here with read | ⟨ret, key⟩ | ⟨k, _, reaches, block⟩
  · simp at read
  · cases key
  · have entryIv : (entryState img env st).bsIv = imageIv := (entryState_bsIv st).trans iv
    have sameIv : (entryState img env st).bsIv = st.bsIv := entryState_bsIv st
    rw [← sameIv] at reaches
    have bit := loaderAt_srcEndian mapped entryIv (entryState_srcEndian mapped.prepareVa st) reaches
    rcases swap_of_mem_blkTransfers entryIv (transfer_of_mem_blkEvents block).1 with
      ⟨swap, source⟩ | ⟨swap, source⟩
    · rw [swap, bit, source]
      split <;> simp_all
    · rw [swap, source]
      rfl

variable (board img env st) in
/-- **Source and byte order agree**, and the bit is clear when the loader returns. -/
structure SwapDiscipline : Prop where
  swapped : ∀ n t, Event.transfer t ∈ writeEvents board img env n st →
    t.src.base = .image ∨ t.src.base = .ivArr → t.byteSwap = true
  unswapped : ∀ n t, Event.transfer t ∈ writeEvents board img env n st →
    t.src.base = .aesIv → t.byteSwap = false
  returns : ∀ n ret, (zynqmpCsuSecurePcapWrite board img env n st).2 = some ret →
    (zynqmpCsuSecurePcapWrite board img env n st).1.srcEndian = false

theorem exitAt_srcEndian (mapped : RegistersMapped board env) (iv : st.bsIv = imageIv) {k : Nat}
    (returned : verdict board img env st.bsIv k ≠ none) :
    (exitAt board img env st k).1.srcEndian = false := by
  obtain ⟨trace, state⟩ := exitAt_state board img env st k
  rw [state]
  apply clearsSwap_blkCall mapped iv
  rwa [blkCall_ret]

/-- **The byte order is kept** in every run from a validated image, whatever fails on the way. -/
theorem swapDiscipline (mapped : RegistersMapped board env) (iv : st.bsIv = imageIv) :
    SwapDiscipline board img env st := by
  refine ⟨fun n t here source => ?_, fun n t here source => ?_, fun n ret returns => ?_⟩
  · rw [swap_of_mem_writeEvents mapped iv here]
    rcases source with image | array
    · rw [image]
      rfl
    · rw [array]
      rfl
  · rw [swap_of_mem_writeEvents mapped iv here, source]
    rfl
  · rcases secureWrite_cases ⟨mapped.csu, mapped.aes⟩ n st with ⟨_, running⟩ | ⟨k, _, _, _, left⟩
    · rw [running] at returns
      cases returns
    · rw [left] at returns ⊢
      rw [afterLoop_state]
      apply exitAt_srcEndian mapped ((entryState_bsIv st).trans iv)
      rw [ne_eq, ← exit_none_iff, returns]
      exact Option.some_ne_none ret

end Loop

/-- The one-block image, on hardware that lets it through. -/
theorem swapDiscipline_one_block :
    SwapDiscipline Board.mapped oneBlockImage oneBlockEngine St.validated :=
  swapDiscipline ⟨rfl, rfl, rfl, fun k => by cases k <;> rfl, fun k => by cases k <;> rfl,
    fun k => by cases k <;> rfl⟩ rfl

end TrustzoneWatchdog.Loader
