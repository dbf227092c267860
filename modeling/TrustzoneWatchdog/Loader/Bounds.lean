/-
**Does a write command stay inside its buffer?**

The command compares the size of its buffer with zero and with nothing else. `InBounds` asks every
byte that the CPU reads of the header, and every byte that the DMA takes of the image, to lie in the
buffer, whatever the hardware answers. The DMA starts at the physical address of its first byte and
goes on from there, so for it the pages of the buffer matter too.

* `inBounds_iff`: exactly when that holds. Each offset that is followed must lie inside; and the
  encrypted area is safe only if the DMA takes none of it (the buffer is not word aligned), or if it
  announces no data and its secure header and tag lie inside.
* `holds_of_contiguous`: where the buffer is contiguous in physical memory, its size is all that
  counts.
* An engine that shows the lengths `4, 2³² − 4, 4, …` keeps the wrapping total below any announced
  length and walks arbitrarily far (`hostile_reaches`, `blkStart_hostile`).
* `inBounds_refuted`: a buffer of one byte.
-/

import TrustzoneWatchdog.Loader.FpgaMgr
import TrustzoneWatchdog.Loader.Walk

namespace TrustzoneWatchdog.Loader

open TrustzoneWatchdog.Lib.Memory

/-- The `len` bytes from `offset` on lie in the buffer, and so do the `len` bytes that follow the
physical address of the first. -/
def Image.Holds (img : Image) (offset len : Nat) : Prop :=
  ∀ i < len, offset + i < img.size ∧ ∃ o < img.size, img.phys o = img.phys offset + i

/-- The event stays inside the buffer. -/
def Event.InBounds (img : Image) : Event → Prop
  | .read offset len => ∀ i < len, offset + i < img.size
  | .transfer t => t.src.base = .image → img.Holds t.src.offset t.len
  | _ => True

/-- **Every access of a write command lies in its buffer**, on any board of this build and with any
answers. -/
def InBounds (build : Build) (img : Image) : Prop :=
  ∀ board params env rounds st, board.build = build → params.Offers img →
    ∀ e ∈ ptaEvents board params env rounds st, e.InBounds img

/-- The encrypted area is safe to stream. -/
def Image.AreaFits (img : Image) : Prop :=
  img.phys 0 % 4 ≠ 0 ∨ img.unEncDataLen = 0#32 ∧
    (img.phys img.unEncDataOffset.toNat % 8 = 0 →
      img.Holds img.unEncDataOffset.toNat 48 ∧ img.Holds (img.unEncDataOffset.toNat + 48) 16)

/-- `memcmp` looks at byte `d` of the magic word: those before its access are as they should be. -/
def Image.LooksAtMagic (build : Build) (img : Image) (d : Nat) : Prop :=
  d < secureBootgenBinFormat.length ∧
    ∀ k < accessStart (comparesLongs build.memcmpForSize (img.va + secureSyncWordOffset)
        build.secureFormatVa secureBootgenBinFormat.length) secureBootgenBinFormat.length d,
      img.byte (secureSyncWordOffset + k) = secureBootgenBinFormat.getD k 0#8

/-- Every offset that the checks before it let the command follow lies in the buffer. -/
def Image.FitsBuffer (build : Build) (img : Image) : Prop :=
  (∀ d, img.LooksAtMagic build d → secureSyncWordOffset + d < img.size) ∧
    (img.hasMagic = true → authcertHeaderOffset + 4 ≤ img.size ∧ img.certWord + 4 ≤ img.size ∧
      (img.noCertificate = true → img.keyIsKup = true →
        ivOffset + ivLen ≤ img.size ∧ img.headerTable + 0x24 ≤ img.size ∧ img.AreaFits))

/-- In memory that is physically contiguous, a range is held if it lies in the buffer. -/
theorem Image.holds_of_contiguous {img : Image} (contiguous : ∀ o, img.phys o = img.phys 0 + o)
    {offset len : Nat} (inside : offset + len ≤ img.size) : img.Holds offset len := by
  intro i below
  refine ⟨by omega, offset + i, by omega, ?_⟩
  rw [contiguous (offset + i), contiguous offset, Nat.add_assoc]

section Safe

variable {board : Board} {img : Image} {env : CmdEnv}

/-! ### A buffer that fits -/

/-- The bytes of the magic word that are read. -/
theorem touches_compareMagic (build : Build) (img : Image) (d : Nat) :
    Touches (compareMagic build img).2 d ↔ img.LooksAtMagic build d :=
  touches_memcmp ..

/-- The comparison of the magic word stays inside exactly if the bytes it looks at do. -/
theorem magicReads_inBounds_iff {build : Build} :
    (∀ e ∈ magicReads build img, e.InBounds img) ↔
      ∀ d, img.LooksAtMagic build d → secureSyncWordOffset + d < img.size := by
  constructor
  · intro inside d looks
    obtain ⟨access, here, lower, upper⟩ := (touches_compareMagic build img d).mpr looks
    have byte := inside _ (List.mem_map_of_mem here) (d - access.1) (by omega)
    rwa [Nat.add_assoc, Nat.add_sub_cancel' lower] at byte
  · intro inside e here
    obtain ⟨access, member, rfl⟩ := List.mem_map.mp here
    intro i below
    have touched : Touches (compareMagic build img).2 (access.1 + i) :=
      ⟨access, member, Nat.le_add_right _ _, by omega⟩
    have byte := inside _ ((touches_compareMagic build img _).mp touched)
    rwa [← Nat.add_assoc] at byte

theorem fieldReads_inBounds {build : Build} (fits : img.FitsBuffer build) {e : Event}
    (here : e ∈ fieldReads img) : e.InBounds img := by
  obtain ⟨_, rest⟩ := fits
  unfold fieldReads at here
  split at here
  · rename_i magic
    obtain ⟨certHeader, cert, rest⟩ := rest magic
    simp only [List.mem_cons] at here
    rcases here with rfl | rfl | here
    · intro i below
      omega
    · intro i below
      omega
    · split at here
      · rename_i plain
        simp only [List.mem_cons] at here
        rcases here with rfl | here
        · -- the key source lies before the authentication header offset
          intro i below
          simp only [authcertHeaderOffset, keySourceOffset] at certHeader ⊢
          omega
        · split at here
          · rename_i kup
            have header := (rest plain kup).1
            rw [List.mem_singleton.mp here]
            intro i below
            omega
          · cases here
      · cases here
  · cases here

theorem validateReads_inBounds {build : Build} (fits : img.FitsBuffer build) {e : Event}
    (here : e ∈ validateReads build img) : e.InBounds img := by
  rcases List.mem_append.mp here with magic | field
  · exact magicReads_inBounds_iff.mpr fits.1 e magic
  · exact fieldReads_inBounds fits field

/-- All offsets of the walk are word offsets. -/
theorem nextBlkLen_mod (env : CmdEnv) (k : Nat) : (nextBlkLen env k).toNat % 4 = 0 := by
  rw [nextBlkLen, BitVec.toNat_mul]
  show (endianSwap (env.block k).iv3).toNat * 4 % 2 ^ 32 % 4 = 0
  omega

theorem blkLen_mod_four (env : CmdEnv) (k : Nat) : (blkLen env k).toNat % 4 = 0 := by
  cases k with
  | zero => rfl
  | succ k => exact nextBlkLen_mod env k

theorem unEncDataOffset_mod (img : Image) : img.unEncDataOffset.toNat % 4 = 0 := by
  rw [Image.unEncDataOffset, BitVec.toNat_mul]
  show (img.word (img.headerTable + 0x20)).toNat * 4 % 2 ^ 32 % 4 = 0
  omega

theorem unEncDataLen_mod (img : Image) : img.unEncDataLen.toNat % 4 = 0 := by
  rw [Image.unEncDataLen, BitVec.toNat_mul]
  show (img.word (img.headerTable + 0x4)).toNat * 4 % 2 ^ 32 % 4 = 0
  omega

theorem blkStart_mod (img : Image) (env : CmdEnv) (k : Nat) : blkStart img env k % 4 = 0 := by
  induction k with
  | zero => exact unEncDataOffset_mod img
  | succ k ih =>
    have whole := blkLen_mod_four env k
    rw [blkStart]
    simp only [secureHdrSize, zynqmpGcmTagSize]
    omega

/-- The transfers of image data in block `k`: its data, its secure header and its tag. -/
theorem image_of_mem_blkTransfers {st : St} (iv : st.bsIv = some ⟨.ivArr, 0⟩) {k : Nat}
    {t : Transfer} (inside : t ∈ blkTransfers board img env st k) (image : t.src.base = .image) :
    k ≠ 0 ∧ t.src.offset = blkStart img env k ∧ t.len = (blkLen env k).toNat ∨
      t.src.offset = blkStart img env k + (blkLen env k).toNat ∧ t.len = 48 ∨
      t.src.offset = blkStart img env k + (blkLen env k).toNat + 48 ∧ t.len = 16 := by
  obtain ⟨src, len, notify, swap, dfx, ivArr⟩ := t
  have reads := List.mem_map_of_mem (f := Transfer.reads) inside
  cases k with
  | zero =>
    rw [blkTransfers_zero iv] at reads
    simp only [walkHeader, List.mem_cons, List.not_mem_nil, or_false, Transfer.reads,
      Prod.mk.injEq] at reads
    rcases reads with ⟨rfl, _⟩ | ⟨rfl, rfl, _⟩ | ⟨rfl, rfl, _⟩
    · cases image
    · exact Or.inr (Or.inl ⟨rfl, rfl⟩)
    · exact Or.inr (Or.inr ⟨rfl, rfl⟩)
  | succ k =>
    rw [blkTransfers_succ] at reads
    simp only [walkBlock, walkHeader, List.mem_cons, List.not_mem_nil, or_false, Transfer.reads,
      Prod.mk.injEq] at reads
    rcases reads with ⟨rfl, _⟩ | ⟨rfl, rfl, _⟩ | ⟨rfl, rfl, _⟩ | ⟨rfl, rfl, _⟩
    · cases image
    · exact Or.inl ⟨Nat.succ_ne_zero k, rfl, rfl⟩
    · exact Or.inr (Or.inl ⟨rfl, rfl⟩)
    · exact Or.inr (Or.inr ⟨rfl, rfl⟩)

/-- An area that announces no data has no block behind the first. -/
theorem reaches_zero_of_empty (empty : img.unEncDataLen = 0#32) {bsIv : Option Ptr} {k : Nat}
    (reaches : Reaches board img env bsIv k) : k = 0 := by
  by_contra later
  obtain ⟨_, more, fits, _⟩ := reaches 0 (Nat.pos_of_ne_zero later)
  rw [empty, announced, announced, BitVec.zero_add, BitVec.le_def] at fits
  exact more (BitVec.eq_of_toNat_eq (Nat.le_zero.mp fits))

/-- A transfer that is started stays inside if the area fits. -/
theorem transfer_inBounds (area : img.AreaFits) {st : St} (iv : st.bsIv = some ⟨.ivArr, 0⟩)
    {k : Nat} (reaches : Reaches board img env st.bsIv k) {t : Transfer}
    (here : Event.transfer t ∈ blkEvents board img env st k) :
    (Event.transfer t).InBounds img := by
  intro image
  obtain ⟨inside, aligned⟩ := transfer_of_mem_blkEvents here
  have place := image_of_mem_blkTransfers iv inside image
  have physical : img.phys t.src.offset % 8 = 0 := by
    rw [virtToPhys, image] at aligned
    exact aligned
  have start := blkStart_mod img env k
  have whole := blkLen_mod_four env k
  rcases area with odd | ⟨empty, fits⟩
  · -- the DMA takes no word offset of this buffer
    have page := img.phys_page 0 t.src.offset
    rw [Nat.zero_add] at page
    omega
  · obtain rfl := reaches_zero_of_empty empty reaches
    have page := img.phys_page img.unEncDataOffset.toNat 48
    simp only [blkStart, blkLen, BitVec.toNat_ofNat, Nat.zero_mod, Nat.add_zero] at place
    rcases place with ⟨zero, _⟩ | ⟨starts, len⟩ | ⟨starts, len⟩
    · exact absurd rfl zero
    · rw [starts] at physical
      rw [starts, len]
      exact (fits physical).1
    · rw [starts] at physical
      rw [starts, len]
      exact (fits (by omega)).2

theorem writeEvents_inBounds (table : img.headerTable + 0x24 ≤ img.size)
    (header : ivOffset + ivLen ≤ img.size) (area : img.AreaFits) {st : St}
    (iv : st.bsIv = some ⟨.ivArr, 0⟩) {n : Nat} {e : Event}
    (here : e ∈ writeEvents board img env n st) : e.InBounds img := by
  rcases mem_writeEvents here with read | ⟨ret, rfl⟩ | ⟨k, _, reaches, block⟩
  · simp only [List.mem_cons, List.not_mem_nil, or_false] at read
    simp only [ivOffset, ivLen] at header
    rcases read with rfl | rfl | rfl
    · intro i below
      rw [headerTableOffset]
      omega
    · intro i below
      omega
    · intro i below
      omega
  · trivial
  · have sameIv : (entryState img env st).bsIv = st.bsIv := entryState_bsIv st
    rw [← sameIv] at iv reaches
    cases e with
    | transfer t => exact transfer_inBounds area iv reaches block
    | read offset len =>
      obtain ⟨sent, _, events, _⟩ := blkEvents_eq board img env (entryState img env st) k
      rw [events] at block
      cases verdict board img env (entryState img env st).bsIv k <;> simp at block
    | keyLoad ret => trivial
    | decrypt => trivial
    | decrypted ret => trivial

end Safe

/-! ### A hostile engine -/

/-- An engine that shows the lengths `4, 2³² − 4, 4, …`, on hardware that otherwise does its
part. -/
def hostile : CmdEnv :=
  CmdEnv.passing fun k => BlockEnv.passing (endianSwap (if k % 2 = 0 then 1#32 else 0x3FFFFFFF#32))

section Hostile

variable {build : Build} {img : Image}

theorem nextBlkLen_hostile (k : Nat) :
    nextBlkLen hostile k = if k % 2 = 0 then 4#32 else 0xFFFFFFFC#32 := by
  show endianSwap (endianSwap _) * 4#32 = _
  rw [endianSwap_endianSwap]
  split <;> decide

/-- The running length never passes four. -/
theorem announced_hostile (k : Nat) :
    announced hostile k = if k % 2 = 0 then 0#32 else 4#32 := by
  induction k with
  | zero => rfl
  | succ k ih =>
    rw [announced, ih, nextBlkLen_hostile]
    rcases Nat.mod_two_eq_zero_or_one k with even | odd
    · rw [if_pos even, if_pos even, if_neg (by omega)]
      decide
    · rw [if_neg (by omega), if_neg (by omega), if_pos (by omega)]
      decide

/-- **Every block is reached** if the area announces any data. -/
theorem hostile_reaches (nonempty : img.unEncDataLen ≠ 0#32) (board : Board) (bsIv : Option Ptr)
    (k : Nat) : Reaches board img hostile bsIv k := by
  intro j _
  refine ⟨verdict_returns rfl, ?_, ?_, rfl⟩
  · rw [nextBlkLen_hostile]
    split <;> decide
  · have positive : img.unEncDataLen.toNat ≠ 0 := fun zero => nonempty (BitVec.eq_of_toNat_eq zero)
    have words := unEncDataLen_mod img
    rw [announced_hostile, BitVec.le_def]
    split
    · exact Nat.zero_le _
    · show 4 ≤ _
      omega

/-- Two blocks take the cursor `2³² + 128` bytes further. -/
theorem blkStart_hostile (img : Image) (j : Nat) :
    blkStart img hostile (2 * j + 1) = img.unEncDataOffset.toNat + 64 + j * (2 ^ 32 + 128) ∧
      blkStart img hostile (2 * j + 2) =
        img.unEncDataOffset.toNat + 132 + j * (2 ^ 32 + 128) := by
  have short (j : Nat) : (blkLen hostile (2 * j + 1)).toNat = 4 := by
    rw [blkLen, nextBlkLen_hostile, if_pos (by omega)]
    rfl
  have long (j : Nat) : (blkLen hostile (2 * j + 2)).toNat = 2 ^ 32 - 4 := by
    rw [blkLen, nextBlkLen_hostile, if_neg (by omega)]
    rfl
  have second (j : Nat) : blkStart img hostile (2 * j + 2) =
      blkStart img hostile (2 * j + 1) + 68 := by
    rw [blkStart, short]
    simp only [secureHdrSize, zynqmpGcmTagSize]
  induction j with
  | zero =>
    have first : blkStart img hostile 1 = img.unEncDataOffset.toNat + 64 := rfl
    refine ⟨by rw [first]; omega, ?_⟩
    rw [second 0, first]
    omega
  | succ j ih =>
    have first : blkStart img hostile (2 * (j + 1) + 1) =
        img.unEncDataOffset.toNat + 64 + (j + 1) * (2 ^ 32 + 128) := by
      rw [show 2 * (j + 1) + 1 = (2 * j + 2) + 1 by omega, blkStart, long, ih.2]
      simp only [secureHdrSize, zynqmpGcmTagSize]
      omega
    refine ⟨first, ?_⟩
    rw [second, first]
    omega

/-- A data block at an address the DMA takes is streamed. -/
theorem hostile_streams {k : Nat} (aligned : img.phys (blkStart img hostile (k + 1)) % 8 = 0)
    {st : St} :
    ∃ t, Event.transfer t ∈ blkEvents (Board.mappedOf build) img hostile st (k + 1) ∧
      t.src = ⟨.image, blkStart img hostile (k + 1)⟩ ∧
      t.len = (blkLen hostile (k + 1)).toNat := by
  have good := BlockEnv.passing_succeeds
    (endianSwap (if (k + 1) % 2 = 0 then 1#32 else 0x3FFFFFFF#32))
  have streams : streamsAt (Board.mappedOf build) img hostile st.bsIv (k + 1) = true := by
    have words := blkLen_mod_four hostile (k + 1)
    have data : passes (Board.mappedOf build) img (hostile.block (k + 1)) .data
        ⟨.image, blkStart img hostile (k + 1)⟩ (blkLen hostile (k + 1)).toNat :=
      good.passes words aligned
    have iv : passes (Board.mappedOf build) img (hostile.block (k + 1)) .iv ⟨.aesIv, 0⟩
        zynqmpCsudmaMinSize :=
      good.passes rfl (by decide : (aesIv0Phys + 0) % 8 = 0)
    have mapped : (hostile.block (k + 1)).aesVa = true := rfl
    have prepared : (hostile.block (k + 1)).prepareVa = true := rfl
    simp [streamsAt, streamsCall, blkIv, blkType, streamsBlock, acceptsImage, mapped, prepared,
      iv.1, iv.2, data.1]
  obtain ⟨sent, initial, events, long, _⟩ :=
    blkEvents_eq (Board.mappedOf build) img hostile st (k + 1)
  refine ⟨(loaderAt (Board.mappedOf build) img hostile st (k + 1)).swapped.transferOf
    ⟨.image, blkStart img hostile (k + 1)⟩ (blkLen hostile (k + 1)).toNat 0, ?_, rfl, rfl⟩
  rw [events]
  simp only [List.cons_append, List.mem_cons, List.mem_append, List.mem_map]
  exact Or.inr (Or.inl ⟨_, second_mem_of_start initial (long.mpr streams), rfl⟩)

/-- **The hostile engine leaves any buffer** that is word aligned and announces data. -/
theorem hostile_leaves (words : img.phys 0 % 4 = 0) (nonempty : img.unEncDataLen ≠ 0#32) (st : St) :
    ∃ n, ∃ e ∈ writeEvents (Board.mappedOf build) img hostile n st, ¬ e.InBounds img := by
  have offset := unEncDataOffset_mod img
  have page := img.phys_page 0 img.unEncDataOffset.toNat
  rw [Nat.zero_add] at page
  -- one of two blocks in a row starts at a multiple of eight
  obtain ⟨k, aligned, far⟩ : ∃ k, img.phys (blkStart img hostile (k + 1)) % 8 = 0 ∧
      img.size ≤ blkStart img hostile (k + 1) := by
    obtain ⟨odd, even⟩ := blkStart_hostile img img.size
    by_cases eight : img.phys img.unEncDataOffset.toNat % 8 = 0
    · refine ⟨2 * img.size, ?_, by rw [odd]; omega⟩
      rw [odd, Nat.add_assoc]
      exact phys_mod img _ _ eight (by omega)
    · refine ⟨2 * img.size + 1, ?_, by rw [even]; omega⟩
      have there := img.phys_page img.unEncDataOffset.toNat (132 + img.size * (2 ^ 32 + 128))
      rw [even, Nat.add_assoc]
      omega
  have positive : 0 < (blkLen hostile (k + 1)).toNat := by
    rw [blkLen, nextBlkLen_hostile]
    split <;> decide
  obtain ⟨t, inside, src, len⟩ := hostile_streams aligned
  have reaches := hostile_reaches nonempty (Board.mappedOf build) st.bsIv (k + 1)
  obtain ⟨tail, events⟩ := writeEvents_reached ⟨rfl, rfl⟩ reaches
  refine ⟨k + 2, .transfer t, ?_, fun inBounds => ?_⟩
  · rw [events]
    exact List.mem_append_left _ (List.mem_append_right _ inside)
  · -- its first byte already lies behind the buffer
    have held := inBounds (by rw [src])
    rw [src, len] at held
    have first := (held 0 positive).1
    simp only at first
    omega

end Hostile

/-! ### An empty area -/

/-- An engine that shows no data, on hardware that does its part. -/
def quiet : CmdEnv := CmdEnv.passing fun _ => BlockEnv.passing 0#32

/-- The secure header of an empty area and its tag are streamed if the DMA takes their address. -/
theorem quiet_streams {build : Build} {img : Image} (empty : img.unEncDataLen = 0#32)
    (aligned : img.phys img.unEncDataOffset.toNat % 8 = 0) {st : St}
    (iv : st.bsIv = some ⟨.ivArr, 0⟩) {part : Ptr × Nat × Byte}
    (inside : part ∈ walkHeader img.unEncDataOffset.toNat) :
    ∃ t, Event.transfer t ∈ writeEvents (Board.mappedOf build) img quiet 1 st ∧
      t.reads = part := by
  have layout : Layout img [] := ⟨aligned, by simp, by rw [empty]; rfl⟩
  have shown : ShowsLengths quiet [] := fun _ _ => by simp; rfl
  have hardware : HardwareSucceeds (Board.mappedOf build) quiet 0 :=
    ⟨rfl, rfl, fun _ _ => BlockEnv.passing_succeeds _, rfl, rfl⟩
  have entryIv : (entryState img quiet st).bsIv = some ⟨.ivArr, 0⟩ := (entryState_bsIv st).trans iv
  have passed : verdict (Board.mappedOf build) img quiet (entryState img quiet st).bsIv 0 =
      some teeSuccess := by
    rw [entryIv]
    exact verdict_layout layout shown hardware le_rfl
  obtain ⟨sent, _, block, _, _, all⟩ :=
    blkEvents_eq (Board.mappedOf build) img quiet (entryState img quiet st) 0
  have mapped : (Board.mappedOf build).csu = true ∧ (Board.mappedOf build).aes = true := ⟨rfl, rfl⟩
  obtain ⟨tail, events⟩ := writeEvents_reached mapped
    (reaches_zero (Board.mappedOf build) img quiet st.bsIv)
  have streamed : part ∈ (blkTransfers (Board.mappedOf build) img quiet (entryState img quiet st)
      0).map Transfer.reads := by
    rw [blkTransfers_zero entryIv]
    exact List.mem_cons_of_mem _ inside
  obtain ⟨t, here, reads⟩ := List.mem_map.mp streamed
  refine ⟨t, ?_, reads⟩
  rw [events, block, all passed]
  simp [here]

/-! ### The condition -/

section Exact

variable {build : Build} {img : Image}

/-- The parameters that offer an image. -/
def Params.offering (img : Image) : Params where
  paramTypes :=
    teeParamTypes teeParamTypeMemrefInout teeParamTypeNone teeParamTypeNone teeParamTypeNone
  memref := some img

theorem Params.offering_offers (size : img.size ≠ 0) : (Params.offering img).Offers img :=
  ⟨rfl, rfl, size⟩

/-- Validation reads, whatever comes after it. -/
theorem InBounds.validateReads (safe : InBounds build img) (size : img.size ≠ 0) {e : Event}
    (here : e ∈ Loader.validateReads build img) : e.InBounds img := by
  have offers := Params.offering_offers size
  refine safe (Board.mappedOf build) (Params.offering img) hostile 0 St.init rfl offers e ?_
  by_cases valid : img.Valid
  · rw [ptaEvents_admitted ⟨offers, valid, rfl⟩]
    exact List.mem_append_left _ here
  · rw [ptaEvents_rejected offers fun both => valid both.1]
    exact here

/-- A valid image is loaded when the PCAP lets it. -/
theorem InBounds.writeEvents (safe : InBounds build img) (size : img.size ≠ 0) (valid : img.Valid)
    {env : CmdEnv} (init : zynqmpCsuPcapInit (Board.mappedOf build) env = teeSuccess) {n : Nat}
    {e : Event} (here : e ∈ Loader.writeEvents (Board.mappedOf build) img env n
      (isolatedState (Board.mappedOf build) img env St.init)) :
    e.InBounds img := by
  have offers := Params.offering_offers size
  refine safe (Board.mappedOf build) (Params.offering img) env n St.init rfl offers e ?_
  rw [ptaEvents_admitted ⟨offers, valid, init⟩]
  exact List.mem_append_right _ here

theorem InBounds.areaFits (safe : InBounds build img) (size : img.size ≠ 0) (valid : img.Valid) :
    img.AreaFits := by
  by_cases words : img.phys 0 % 4 = 0
  · right
    have empty : img.unEncDataLen = 0#32 := by
      by_contra nonempty
      obtain ⟨n, e, here, outside⟩ := @hostile_leaves build img words nonempty
        (isolatedState (Board.mappedOf build) img hostile St.init)
      exact outside (safe.writeEvents size valid rfl here)
    refine ⟨empty, fun aligned => ?_⟩
    have holds {start len : Nat} {notify : Byte}
        (part : (⟨.image, start⟩, len, notify) ∈ walkHeader img.unEncDataOffset.toNat) :
        img.Holds start len := by
      obtain ⟨t, here, reads⟩ := quiet_streams empty aligned (isolatedState_bsIv valid St.init) part
      have src : t.src = ⟨.image, start⟩ := congrArg Prod.fst reads
      have lens : t.len = len := congrArg (fun r => r.2.1) reads
      have range := safe.writeEvents size valid rfl here (by rw [src])
      rwa [src, lens] at range
    exact ⟨holds List.mem_cons_self, holds (List.mem_cons_of_mem _ List.mem_cons_self)⟩
  · exact Or.inl words

/-- **Exactly when a write command stays inside its buffer.** -/
theorem inBounds_iff (build : Build) (img : Image) :
    InBounds build img ↔ (img.size ≠ 0 → img.FitsBuffer build) := by
  constructor
  · intro safe size
    have reads {offset len : Nat} (here : Event.read offset (len + 1) ∈ fieldReads img) :
        offset + (len + 1) ≤ img.size :=
      safe.validateReads size (List.mem_append_right _ here) len (Nat.lt_succ_self len)
    refine ⟨magicReads_inBounds_iff.mp fun e here =>
      safe.validateReads size (List.mem_append_left _ here), fun magic =>
      ⟨reads ?_, reads ?_, fun plain kup => ⟨reads ?_, ?_, safe.areaFits size ⟨magic, plain, kup⟩⟩⟩⟩
    · simp [fieldReads, magic]
    · simp [fieldReads, magic]
    · simp [fieldReads, magic, plain, kup, ivLen]
    · have mapped : (Board.mappedOf build).csu = true ∧ (Board.mappedOf build).aes = true :=
        ⟨rfl, rfl⟩
      have read : Event.read (img.headerTable + 0x20) 4 ∈ writeEvents (Board.mappedOf build) img
          quiet 0 (isolatedState (Board.mappedOf build) img quiet St.init) := by
        rw [writeEvents_running mapped (reaches_zero _ _ _ _)]
        simp [entryEvents]
      exact safe.writeEvents size ⟨magic, plain, kup⟩ rfl read 3 (by decide)
  · intro fits board params env rounds st sameBuild offers e here
    have fits := fits offers.2.2
    by_cases admitted : img.Valid ∧ zynqmpCsuPcapInit board env = teeSuccess
    · obtain ⟨valid, init⟩ := admitted
      rw [ptaEvents_admitted ⟨offers, valid, init⟩, List.mem_append, sameBuild] at here
      rcases here with read | write
      · exact validateReads_inBounds fits read
      · obtain ⟨header, table, area⟩ := (fits.2 valid.1).2.2 valid.2.1 valid.2.2
        exact writeEvents_inBounds table header area (isolatedState_bsIv valid st) write
    · rw [ptaEvents_rejected offers admitted, sameBuild] at here
      exact validateReads_inBounds fits here

/-- **A buffer of one byte** is read at offset `0x20`. -/
theorem inBounds_refuted : ¬ InBounds Build.forSize (Image.at (fun _ => 0#8) 1) := by
  intro safe
  have offers : (Params.offering (Image.at (fun _ => 0#8) 1)).Offers (Image.at (fun _ => 0#8) 1) :=
    ⟨rfl, rfl, by decide⟩
  have outside := safe Board.mapped _ quiet 0 St.init rfl offers (.read 0x20 1) (by decide +kernel)
    0 (by decide)
  exact absurd outside (by decide : ¬ 0x20 + 0 < 1)

end Exact

end TrustzoneWatchdog.Loader
