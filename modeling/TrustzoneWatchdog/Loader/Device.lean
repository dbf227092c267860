/-
**The hardware the secure loader drives** (`drivers/zynqmp_csudma.c`, and the file-level state of
`drivers/zynqmp_csu_pcap.c` and `pta/zynqmp/fpga_mgr.c`).

The AES engine, the CSU DMA and the PCAP answer the driver in ways the driver does not control. All
of their answers are inputs of the model: `BlockEnv` holds what one decrypt call and the rest of its
loop round read, site by site. A poll with a timeout sees some finite list of status words before
the time is up, so such a list is its input; the one poll without a timeout (PCAP write idle inside
`aes_transfer_dec`) is told whether the bit ever shows. `core_mmu_get_va` may fail at any call.

`St` is what the driver keeps: the IV pointer and array, the byte-swap bit of the DMA source
channel, the two decoupler registers, and a trace of what it did. A started DMA transfer records
what it reads and the state of those registers. Register writes that configure the engine (key,
stream switch, start of message) are read back by nothing here and are left out; a key load is
recorded with the result of the wait for it.
-/

import Mathlib.Data.BitVec
import Mathlib.Data.Vector.Defs

namespace TrustzoneWatchdog.Loader

abbrev Word := BitVec 32

abbrev Byte := BitVec 8

/-! ### Result codes -/

abbrev TeeResult := BitVec 32

def teeSuccess : TeeResult := 0x00000000#32

def teeErrorGeneric : TeeResult := 0xFFFF0000#32

def teeErrorBadFormat : TeeResult := 0xFFFF0005#32

def teeErrorBadParameters : TeeResult := 0xFFFF0006#32

def teeErrorBadState : TeeResult := 0xFFFF0007#32

def teeErrorBusy : TeeResult := 0xFFFF000D#32

/-! ### Memory -/

/-- What a pointer of the driver can point into. -/
inductive Base
  | image
  | ivArr
  | aesIv
  deriving DecidableEq, Repr

/-- A pointer that is not `NULL`. -/
structure Ptr where
  base : Base
  offset : Nat
  deriving DecidableEq, Repr

def Ptr.add (p : Ptr) (n : Nat) : Ptr := { p with offset := p.offset + n }

/-- `SMALL_PAGE_SIZE`. -/
def smallPageSize : Nat := 4096

/-- The image of a write command: the bytes from its buffer on (past `size` they belong to whatever
lies behind it, which the model takes as mapped), the address of the buffer, and the frame each page
of the address space is mapped to. -/
structure Image where
  byte : Nat → Byte
  size : Nat
  va : Nat
  frame : Nat → Nat

/-- `virt_to_phys` of a byte of the image. Pages that follow each other may lie anywhere. -/
def Image.phys (img : Image) (offset : Nat) : Nat :=
  img.frame ((img.va + offset) / smallPageSize) * smallPageSize + (img.va + offset) % smallPageSize

/-- Translation keeps the place in the page. -/
theorem Image.phys_page (img : Image) (offset n : Nat) :
    img.phys (offset + n) % 4096 = (img.phys offset + n) % 4096 := by
  unfold Image.phys smallPageSize
  omega

/-- `io_read32` of the image. -/
def Image.word (img : Image) (offset : Nat) : Word :=
  img.byte (offset + 3) ++ img.byte (offset + 2) ++ img.byte (offset + 1) ++ img.byte offset

/-- How the secure world was built: whether `memcmp.c` is optimised for size, and where the linker
put `SecureBootgenBinFormat`. -/
structure Build where
  memcmpForSize : Bool
  secureFormatVa : Nat
  deriving DecidableEq, Repr

/-- What is fixed when the driver starts: the build, which registers `csu_pcap_init` could map, and
where the build puts `iv_arr`, which is `__aligned_csudma`. -/
structure Board where
  build : Build
  pcap : Bool
  csu : Bool
  aes : Bool
  ivArrPhys : Nat
  ivArr_aligned : ivArrPhys % 8 = 0

/-- `CSU_BASE + 0x1000 + AES_IV0_OFFSET`. -/
def aesIv0Phys : Nat := 0xFFCA1040

def virtToPhys (board : Board) (img : Image) (p : Ptr) : Nat :=
  match p.base with
  | .image => img.phys p.offset
  | .ivArr => board.ivArrPhys + p.offset
  | .aesIv => aesIv0Phys + p.offset

/-! ### The state of the driver -/

/-- The two decoupler registers, `0xA0020000` and `0xA0030000`. -/
structure Dfx where
  decoupler1 : Word
  decoupler0 : Word
  deriving DecidableEq, Repr

/-- A DMA source transfer that was started, with the registers at that moment. -/
structure Transfer where
  src : Ptr
  len : Nat
  /-- The end-of-message flag. -/
  notify : Byte
  byteSwap : Bool
  dfx : Dfx
  ivArr : Vector Byte 16
  deriving DecidableEq

/-- What the driver does, as the trace records it. -/
inductive Event
  /-- The CPU reads `len` bytes of the image. -/
  | read (offset len : Nat)
  /-- The AES key is loaded and its wait returns. -/
  | keyLoad (ret : TeeResult)
  /-- `zynqmp_csu_aes_decrypt_data` is called. -/
  | decrypt
  | transfer (t : Transfer)
  /-- `zynqmp_csu_aes_decrypt_data` returns. -/
  | decrypted (ret : TeeResult)
  deriving DecidableEq

structure St where
  bsIv : Option Ptr
  ivArr : Vector Byte 16
  /-- `CSUDMA_CTRL_ENDIAN` of the source channel. -/
  srcEndian : Bool
  dfx : Dfx
  trace : List Event
  deriving DecidableEq

/-- Before any command: no IV, both partitions coupled. -/
def St.init : St where
  bsIv := none
  ivArr := Vector.replicate 16 0#8
  srcEndian := false
  dfx := ⟨0#32, 0#32⟩
  trace := []

def St.emit (st : St) (e : Event) : St := { st with trace := st.trace ++ [e] }

/-- The CPU reads a buffer from `base` on. -/
def St.emitReads (st : St) (base : Nat) (reads : List (Nat × Nat)) : St :=
  { st with trace := st.trace ++ reads.map fun access => .read (base + access.1) access.2 }

/-! ### What the hardware answers -/

/-- The four transfers of `aes_transfer_dec`. -/
inductive Xfer
  | iv
  | data
  | hdr
  | tag
  deriving DecidableEq, Repr

/-- The answers in one round of the block loop. -/
structure BlockEnv where
  /-- The AES registers map in `aes_transfer_dec`. -/
  aesVa : Bool
  /-- The PCAP registers map in `aes_transfer_dec`. -/
  pcapVa : Bool
  /-- The CSUDMA registers map in `zynqmp_csudma_transfer` and `zynqmp_csudma_sync`. -/
  dmaVa : Xfer → Bool
  syncVa : Xfer → Bool
  /-- The `I_STS` words each `zynqmp_csudma_sync` sees before its timeout. -/
  iSts : Xfer → List Word
  prepareVa : Bool
  unprepareVa : Bool
  /-- The PCAP shows write idle at some time while it is polled for it. -/
  pcapIdle : Bool
  /-- The AES status after the tag was pushed. -/
  aesSts : Word
  /-- The AES registers map in `aes_wait`, and the status words it sees before its timeout. -/
  waitVa : Bool
  busySts : List Word
  /-- `AES_IV3` after the call. -/
  iv3 : Word
  /-- The AES status words the key-load wait sees before its timeout. -/
  keySts : List Word

/-- The answers in one write command. -/
structure CmdEnv where
  /-- `PCAP_STS` at the power check, and the words the `PL_INIT` wait sees. -/
  pwrSts : Word
  initSts : List Word
  /-- The decoupler registers map for `DFX_DECOUPLE`, and for `DFX_COUPLE`. -/
  decoupleVa : Bool
  coupleVa : Bool
  /-- The first key load and the first `zynqmp_csudma_prepare`. -/
  keySts : List Word
  prepareVa : Bool
  /-- Round `k` of the block loop. -/
  block : Nat → BlockEnv
  /-- The words the waits for write idle and for PL done see. -/
  doneSts : List Word
  plDoneSts : List Word

/-! ### The CSU DMA source channel -/

def csudmaIxrDoneMask : Word := 0x2#32

/-- `zynqmp_csudma_transfer` on the source channel. -/
def zynqmpCsudmaTransfer (va : Bool) (board : Board) (img : Image) (addr : Ptr) (len : Nat)
    (notify : Byte) (st : St) : St × TeeResult :=
  if !va then (st, teeErrorGeneric)
  else if len % 4 ≠ 0 then (st, teeErrorBadParameters)
  else if virtToPhys board img addr % 8 ≠ 0 then (st, teeErrorBadParameters)
  else (st.emit (.transfer ⟨addr, len, notify, st.srcEndian, st.dfx, st.ivArr⟩), teeSuccess)

/-- `zynqmp_csudma_sync` on the source channel. -/
def zynqmpCsudmaSync (va : Bool) (iSts : List Word) : TeeResult :=
  if !va then teeErrorGeneric
  else if iSts.any fun status => status &&& csudmaIxrDoneMask == csudmaIxrDoneMask then teeSuccess
  else teeErrorGeneric

/-- `zynqmp_csudma_prepare` on the source channel: set the byte-swap bit. -/
def zynqmpCsudmaPrepare (va : Bool) (st : St) : St × TeeResult :=
  if !va then (st, teeErrorGeneric) else ({ st with srcEndian := true }, teeSuccess)

/-- `zynqmp_csudma_unprepare` on the source channel: clear the byte-swap bit. -/
def zynqmpCsudmaUnprepare (va : Bool) (st : St) : St × TeeResult :=
  if !va then (st, teeErrorGeneric) else ({ st with srcEndian := false }, teeSuccess)

end TrustzoneWatchdog.Loader
