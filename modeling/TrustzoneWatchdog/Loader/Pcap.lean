/-
**The secure loader** (`drivers/zynqmp_csu_pcap.c`).

`zynqmpCsuSecurePcapWrite` runs its block loop at most `rounds` times; `none` means that it has not
returned, because the loop is still going round or because a decrypt call never came back.

The length argument of `validateSecureBitstream` and of `zynqmp_csu_secure_pcap_write` is read by
neither of them and does not appear. Everything the driver reads of the image is recorded.
-/

import TrustzoneWatchdog.Lib.Loop
import TrustzoneWatchdog.Loader.Aes
import TrustzoneWatchdog.Loader.Newlib

namespace TrustzoneWatchdog.Loader

open Lib.Loop

/-! ### Helpers of the driver -/

/-- `endian_swap`. -/
def endianSwap (word : Word) : Word :=
  if word = 0#32 then word
  else (word >>> 24) ||| ((word >>> 8) &&& 0x0000FF00#32) ||| ((word <<< 8) &&& 0x00FF0000#32) |||
    (word <<< 24)

/-- `waitForEvent`, on the words it reads before its timeout. -/
def waitForEvent (sts : List Word) (mask val : Word) : TeeResult :=
  if sts.any fun status => (status &&& mask) == val then teeSuccess else teeErrorBusy

def aesStsKeyInitDone : Word := 0x10#32

def pcapStsPlGpwrdwnB : Word := 0x200#32

def pcapStsPlDone : Word := 0x8#32

def pcapStsPlInit : Word := 0x4#32

def pcapStsWrIdle : Word := 0x1#32

/-- `pcap_waitForDone`. -/
def pcapWaitForDone (board : Board) (env : CmdEnv) : TeeResult :=
  if !board.pcap then teeErrorGeneric else waitForEvent env.doneSts pcapStsWrIdle pcapStsWrIdle

/-- `pcap_waitForPLDone`. -/
def pcapWaitForPLDone (board : Board) (env : CmdEnv) : TeeResult :=
  if !board.pcap then teeErrorGeneric else waitForEvent env.plDoneSts pcapStsPlDone pcapStsPlDone

/-- `zynqmp_csu_pcap_init`. -/
def zynqmpCsuPcapInit (board : Board) (env : CmdEnv) : TeeResult :=
  if !board.pcap then teeErrorGeneric
  else if env.pwrSts &&& pcapStsPlGpwrdwnB = 0#32 then teeErrorBadState
  else waitForEvent env.initSts pcapStsPlInit pcapStsPlInit

/-! ### The header of the image -/

def secureSyncWordOffset : Nat := 0x20

def keySourceOffset : Nat := 0x28

def authcertHeaderOffset : Nat := 0x98

def authcertOffset : Nat := 0x10

def headerTableOffset : Nat := 0x9C

def ivOffset : Nat := 0xA0

def ivLen : Nat := 0x0C

def keySrcKup : Word := 0xA3A5C3C5#32

/-- `SecureBootgenBinFormat`. -/
def secureBootgenBinFormat : List Byte :=
  [0x66#8, 0x55#8, 0x99#8, 0xAA#8, 0x58#8, 0x4E#8, 0x4C#8, 0x58#8]

def Image.bytes (img : Image) (offset len : Nat) : List Byte :=
  (List.range len).map fun i => img.byte (offset + i)

/-- `memcmp(buf + SECURE_SYNC_WORD_OFFSET, SecureBootgenBinFormat, bitHdrSize)`. -/
def compareMagic (build : Build) (img : Image) : Int × List (Nat × Nat) :=
  memcmp (fun k => img.byte (secureSyncWordOffset + k)) (fun k => secureBootgenBinFormat.getD k 0#8)
    build.memcmpForSize (img.va + secureSyncWordOffset) build.secureFormatVa
    secureBootgenBinFormat.length

/-- `validateSecureBitstream`; the length it is given is not used. -/
def validateSecureBitstream (build : Build) (img : Image) (st : St) : St × TeeResult :=
  let (magic, reads) := compareMagic build img
  let st := st.emitReads secureSyncWordOffset reads
  if magic ≠ 0 then (st, teeErrorBadFormat)
  else
    let authHdrOffset := (img.word authcertHeaderOffset).toNat
    let st := (st.emit (.read authcertHeaderOffset 4)).emit
      (.read (authHdrOffset + authcertOffset) 4)
    if img.word (authHdrOffset + authcertOffset) ≠ 0#32 then (st, teeErrorBadFormat)
    else
      let st := st.emit (.read keySourceOffset 4)
      if img.word keySourceOffset ≠ keySrcKup then (st, teeErrorBadFormat)
      else
        let st := st.emit (.read ivOffset ivLen)
        ({ st with
            ivArr := Vector.ofFn fun i : Fin 16 =>
              if i.val < ivLen then img.byte (ivOffset + i.val) else st.ivArr.get i
            bsIv := some ⟨.ivArr, 0⟩ }, teeSuccess)

/-! #### What validation decides and reads -/

def Image.hasMagic (img : Image) : Bool :=
  img.bytes secureSyncWordOffset secureBootgenBinFormat.length == secureBootgenBinFormat

/-- Where the word is that tells whether there is an authentication certificate. -/
def Image.certWord (img : Image) : Nat := (img.word authcertHeaderOffset).toNat + authcertOffset

def Image.noCertificate (img : Image) : Bool := img.word img.certWord == 0#32

def Image.keyIsKup (img : Image) : Bool := img.word keySourceOffset == keySrcKup

/-- The image passes validation. -/
def Image.Valid (img : Image) : Prop :=
  img.hasMagic = true ∧ img.noCertificate = true ∧ img.keyIsKup = true

instance (img : Image) : Decidable img.Valid := by
  unfold Image.Valid
  infer_instance

/-- What the comparison of the magic word reads. -/
def magicReads (build : Build) (img : Image) : List Event :=
  (compareMagic build img).2.map fun access => .read (secureSyncWordOffset + access.1) access.2

/-- What validation reads behind the magic word: each check is behind the ones before it. -/
def fieldReads (img : Image) : List Event :=
  if img.hasMagic then
    .read authcertHeaderOffset 4 :: .read img.certWord 4 ::
      if img.noCertificate then
        .read keySourceOffset 4 :: if img.keyIsKup then [.read ivOffset ivLen] else []
      else []
  else []

/-- What validation reads. -/
def validateReads (build : Build) (img : Image) : List Event :=
  magicReads build img ++ fieldReads img

theorem bytes_eq_iff (img : Image) (offset : Nat) (format : List Byte) :
    img.bytes offset format.length = format ↔
      ∀ k < format.length, img.byte (offset + k) = format.getD k 0#8 := by
  constructor
  · intro same k below
    have here := congrArg (fun bytes => bytes.getD k 0#8) same
    simpa [Image.bytes, below] using here
  · intro same
    refine List.ext_getElem (by simp [Image.bytes]) fun k _ below => ?_
    have here := same k below
    simpa [Image.bytes, below] using here

/-- The comparison finds the magic word. -/
theorem compareMagic_eq_zero (build : Build) (img : Image) :
    (compareMagic build img).1 = 0 ↔ img.hasMagic = true := by
  rw [compareMagic, memcmp_eq_zero, Image.hasMagic, beq_iff_eq, bytes_eq_iff]

/-- `iv_arr` after a successful validation: twelve bytes of the image, the rest as it was. -/
def loadIv (img : Image) (ivArr : Vector Byte 16) : Vector Byte 16 :=
  Vector.ofFn fun i : Fin 16 => if i.val < ivLen then img.byte (ivOffset + i.val) else ivArr.get i

/-- **Validation.** -/
theorem validate_eq (build : Build) (img : Image) (st : St) :
    validateSecureBitstream build img st =
      if img.Valid then
        ({ st with
            ivArr := loadIv img st.ivArr
            bsIv := some ⟨.ivArr, 0⟩
            trace := st.trace ++ validateReads build img }, teeSuccess)
      else ({ st with trace := st.trace ++ validateReads build img }, teeErrorBadFormat) := by
  unfold validateSecureBitstream
  by_cases magic : img.hasMagic = true
  · have magic' := (compareMagic_eq_zero build img).mpr magic
    by_cases plain : img.noCertificate = true
    · have plain' : img.word ((img.word authcertHeaderOffset).toNat + authcertOffset) = 0#32 :=
        eq_of_beq plain
      by_cases kup : img.keyIsKup = true
      · have kup' := eq_of_beq kup
        simp [magic', plain', kup', Image.Valid, magic, plain, kup, validateReads, magicReads,
          fieldReads, St.emit, St.emitReads, Image.certWord, loadIv]
      · have kup' : img.word keySourceOffset ≠ keySrcKup := fun same => kup (beq_iff_eq.mpr same)
        simp [magic', plain', kup', Image.Valid, magic, plain, kup, validateReads, magicReads,
          fieldReads, St.emit, St.emitReads, Image.certWord]
    · have plain' : img.word ((img.word authcertHeaderOffset).toNat + authcertOffset) ≠ 0#32 :=
        fun same => plain (beq_iff_eq.mpr same)
      simp [magic', plain', Image.Valid, magic, plain, validateReads, magicReads, fieldReads,
        St.emit, St.emitReads, Image.certWord]
  · have magic' : (compareMagic build img).1 ≠ 0 := fun zero =>
      magic ((compareMagic_eq_zero build img).mp zero)
    simp [magic', Image.Valid, magic, validateReads, magicReads, fieldReads, St.emitReads]

theorem teeErrorBadFormat_ne : teeErrorBadFormat ≠ teeSuccess := by decide

/-- A successful validation leaves the image's IV in `iv_arr` and `bs_iv` on it. -/
theorem validate_success {build : Build} {img : Image} {st₀ st : St}
    (validated : validateSecureBitstream build img st₀ = (st, teeSuccess)) :
    st.bsIv = some ⟨.ivArr, 0⟩ ∧ ∀ i : Fin 16, i.val < ivLen →
      st.ivArr.get i = img.byte (ivOffset + i.val) := by
  rw [validate_eq] at validated
  split at validated
  · obtain ⟨rfl, _⟩ := Prod.mk.inj validated
    refine ⟨rfl, fun i small => ?_⟩
    show (loadIv img st₀.ivArr)[i.val] = _
    rw [loadIv, Vector.getElem_ofFn, if_pos small]
  · exact absurd (Prod.mk.inj validated).2 teeErrorBadFormat_ne

/-! ### The encrypted area -/

def Image.headerTable (img : Image) : Nat := (img.word headerTableOffset).toNat

def Image.unEncDataOffset (img : Image) : Word := img.word (img.headerTable + 0x20) * 4#32

def Image.unEncDataLen (img : Image) : Word := img.word (img.headerTable + 0x4) * 4#32

/-! ### The block loop -/

/-- The variables of the loop. -/
structure Cursor where
  st : St
  encStartAddr : Ptr
  tagAddr : Ptr
  nextBlkLen : Word
  currentImgLen : Word
  blockType : BlockType
  /-- Which answers of the hardware come next. -/
  block : Nat

/-- How the loop is left. -/
inductive Exit
  | broke (ret : TeeResult)
  | returned (ret : TeeResult)
  | stuck
  deriving DecidableEq

section Write

variable (board : Board) (img : Image) (env : CmdEnv)

/-- The `AES_KEY_LOAD` wait at the end of a round. -/
def keyLoad (e : BlockEnv) : TeeResult := waitForEvent e.keySts aesStsKeyInitDone aesStsKeyInitDone

/-- One round of the loop in `zynqmp_csu_secure_pcap_write`. -/
def blockRound (c : Cursor) : Round Cursor (St × Exit) :=
  let e := env.block c.block
  let call := zynqmpCsuAesDecryptData board img e (some c.encStartAddr) c.nextBlkLen.toNat
    (some c.tagAddr) c.st.bsIv c.blockType c.st
  match call.2 with
  | none => .leave (call.1, .stuck)
  | some ret =>
    let nextBlkLen := endianSwap e.iv3 * 4#32
    let currentImgLen := c.currentImgLen + nextBlkLen
    if nextBlkLen = 0#32 then
      if currentImgLen ≠ img.unEncDataLen then .leave (call.1, .returned teeErrorGeneric)
      else .leave (call.1, .broke ret)
    else if img.unEncDataLen < currentImgLen then .leave (call.1, .returned teeErrorGeneric)
    else
      -- from here on `ret` is the result of the key load
      let st := call.1.emit (.keyLoad (keyLoad e))
      if keyLoad e ≠ teeSuccess then .leave (st, .returned teeErrorGeneric)
      else
        let encStartAddr := c.tagAddr.add zynqmpGcmTagSize
        .again
          { st := { st with bsIv := some ⟨.aesIv, 0⟩ }
            encStartAddr := encStartAddr
            tagAddr := (encStartAddr.add nextBlkLen.toNat).add secureHdrSize
            nextBlkLen := nextBlkLen
            currentImgLen := currentImgLen
            blockType := .dataBlock
            block := c.block + 1 }

/-- The state before the loop: header reads, key load, source channel. -/
def loopEntry (st : St) : St :=
  (zynqmpCsudmaPrepare env.prepareVa (st.emit (.keyLoad
    (waitForEvent env.keySts aesStsKeyInitDone aesStsKeyInitDone)))).1

def headerReads (st : St) : St :=
  ((st.emit (.read headerTableOffset 4)).emit (.read (img.headerTable + 0x20) 4)).emit
    (.read (img.headerTable + 0x4) 4)

/-- The cursor before the first round. -/
def firstCursor (st : St) : Cursor where
  st := st
  encStartAddr := ⟨.image, img.unEncDataOffset.toNat⟩
  tagAddr := ⟨.image, img.unEncDataOffset.toNat + secureHdrSize⟩
  nextBlkLen := 0#32
  currentImgLen := 0#32
  blockType := .secureHeader
  block := 0

/-- `zynqmp_csu_secure_pcap_write` from the end of the loop on. -/
def afterLoop : St × Exit → St × Option TeeResult
  | (st, .stuck) => (st, none)
  | (st, .returned ret) => (st, some ret)
  | (st, .broke ret) =>
    if ret ≠ teeSuccess then (st, some ret)
    else if pcapWaitForDone board env ≠ teeSuccess then (st, some (pcapWaitForDone board env))
    else (st, some (pcapWaitForPLDone board env))

/-- `zynqmp_csu_secure_pcap_write`, with at most `rounds` rounds of its loop. -/
def zynqmpCsuSecurePcapWrite (rounds : Nat) (st : St) : St × Option TeeResult :=
  let st := headerReads img st
  if !board.csu || !board.aes then (st, some teeErrorGeneric)
  else
    match Lib.Loop.rounds (blockRound board img env) rounds
        (firstCursor img (loopEntry env st)) with
    | .again c => (c.st, none)
    | .leave left => afterLoop board env left

end Write

/-! ### A hardware on which everything goes well -/

/-- Everything maps, every wait ends, every tag is right; the engine then shows `iv3`. -/
def BlockEnv.passing (iv3 : Word) : BlockEnv where
  aesVa := true
  pcapVa := true
  dmaVa := fun _ => true
  syncVa := fun _ => true
  iSts := fun _ => [csudmaIxrDoneMask]
  prepareVa := true
  unprepareVa := true
  pcapIdle := true
  aesSts := aesStsGcmTagOk
  waitVa := true
  busySts := [0#32]
  iv3 := iv3
  keySts := [aesStsKeyInitDone]

def CmdEnv.passing (block : Nat → BlockEnv) : CmdEnv where
  pwrSts := pcapStsPlGpwrdwnB
  initSts := [pcapStsPlInit]
  decoupleVa := true
  coupleVa := true
  keySts := [aesStsKeyInitDone]
  prepareVa := true
  block := block
  doneSts := [pcapStsWrIdle]
  plDoneSts := [pcapStsPlDone]

/-- The tree's own build, `CFG_CC_OPT_LEVEL=s`. -/
def Build.forSize : Build := ⟨true, 0⟩

/-- A board on which all registers map. -/
def Board.mappedOf (build : Build) : Board where
  build := build
  pcap := true
  csu := true
  aes := true
  ivArrPhys := 0
  ivArr_aligned := rfl

def Board.mapped : Board := Board.mappedOf Build.forSize

/-- An image in memory that is mapped to itself. -/
def Image.at (byte : Nat → Byte) (size : Nat) : Image where
  byte := byte
  size := size
  va := 0
  frame := id

/-- The bytes of a valid image with one data block of eight bytes at `0x180`. -/
def oneBlockBytes : Nat → Byte
  | 0x20 => 0x66#8
  | 0x21 => 0x55#8
  | 0x22 => 0x99#8
  | 0x23 => 0xAA#8
  | 0x24 => 0x58#8
  | 0x25 => 0x4E#8
  | 0x26 => 0x4C#8
  | 0x27 => 0x58#8
  -- key source
  | 0x28 => 0xC5#8
  | 0x29 => 0xC3#8
  | 0x2A => 0xA5#8
  | 0x2B => 0xA3#8
  -- authentication header at 0x100, header table at 0x120
  | 0x99 => 0x01#8
  | 0x9C => 0x20#8
  | 0x9D => 0x01#8
  -- two words of data at word 0x60
  | 0x124 => 0x02#8
  | 0x140 => 0x60#8
  | _ => 0#8

/-- A valid image that ends with the tag of its one data block. -/
def oneBlockImage : Image := Image.at oneBlockBytes 0x208

/-- An engine that shows two words after the first secure header, and none after the second. -/
def oneBlockEngine : CmdEnv := CmdEnv.passing fun
  | 0 => BlockEnv.passing 0x02000000#32
  | _ => BlockEnv.passing 0#32

/-- The driver after a successful validation, as far as the loader looks at it. -/
def St.validated : St := { St.init with bsIv := some ⟨.ivArr, 0⟩ }

end TrustzoneWatchdog.Loader
