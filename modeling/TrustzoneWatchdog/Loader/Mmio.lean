/-
**The registers the secure loader writes** (`drivers/zynqmp_csudma.c`, `drivers/zynqmp_csu_pcap.c`,
`drivers/zynqmp_csu_secure.c`, `pta/zynqmp/fpga_mgr.c`).

The same code as in `Device`, `Aes`, `Pcap` and `FpgaMgr`, one level down: the state is the register
file of the board, at the physical addresses of the source, and every `io_write32` is a write to it,
in program order. The size register of the DMA source channel is the doorbell; a snapshot of all
registers is kept each time it is written. The file holds what the driver writes: what the AES
engine itself puts into the key and IV registers while `AES_KUP_WR` is open is not in it. The
hardware answers through the same `CmdEnv` as above.

The two registers that are read, changed and written back (`CSUDMA_CTRL` and the PCAP clock control)
are taken to return what was last written to them. `crl_apb` is used without a test and is taken as
mapped; `csudma_clear_intr` maps the registers once more and is taken to succeed like the
`zynqmp_csudma_sync` that calls it.
-/

import TrustzoneWatchdog.Lib.Mmio
import TrustzoneWatchdog.Loader.Isolation

namespace TrustzoneWatchdog.Loader.Mmio

open Lib.Loop Lib.Mmio

/-! ### Addresses -/

def csudmaBase : Nat := 0xFFC80000

def csuBase : Nat := 0xFFCA0000

def aesBase : Nat := csuBase + 0x1000

def pcapBase : Nat := csuBase + 0x3000

def crlApbBase : Nat := 0xFF5E0000

def dfxDecouplerBase : Nat := 0xA0020000

inductive Channel
  | src
  | dst
  deriving DecidableEq, Repr

/-- The registers of a channel; those of the destination lie `CSUDMA_OFFSET_DIFF` higher. -/
def Channel.base : Channel → Nat
  | .src => csudmaBase
  | .dst => csudmaBase + 0x0800

def Channel.addr (ch : Channel) : Nat := ch.base + 0x00

def Channel.size (ch : Channel) : Nat := ch.base + 0x04

def Channel.ctrl (ch : Channel) : Nat := ch.base + 0x0C

def Channel.crc (ch : Channel) : Nat := ch.base + 0x10

def Channel.iSts (ch : Channel) : Nat := ch.base + 0x14

def Channel.addrMsb (ch : Channel) : Nat := ch.base + 0x28

def sssCfg : Nat := csuBase + 0x08

def aesKeySrc : Nat := aesBase + 0x04

def aesKeyLoad : Nat := aesBase + 0x08

def aesStartMsg : Nat := aesBase + 0x0C

def aesReset : Nat := aesBase + 0x10

def aesKeyClear : Nat := aesBase + 0x14

def aesCfg : Nat := aesBase + 0x18

def aesKupWr : Nat := aesBase + 0x1C

def aesKup0 : Nat := aesBase + 0x20

def pcapRdwr : Nat := pcapBase + 0x04

def pcapCtrl : Nat := pcapBase + 0x08

def pcapReset : Nat := pcapBase + 0x0C

def pcapClkCtrl : Nat := crlApbBase + 0xA4

def dfxDecoupler1 : Nat := dfxDecouplerBase + 0x00000

def dfxDecoupler0 : Nat := dfxDecouplerBase + 0x10000

/-! ### The register file -/

abbrev Regs := Nat → Word

abbrev Csu := Device Nat Word

/-- Several `io_write32` in a row. -/
def Csu.ioWrites32 (dev : Csu) (ws : List (Nat × Word)) : Csu := dev.writes Channel.src.size ws

def Csu.ioWrite32 (dev : Csu) (addr : Nat) (val : Word) : Csu := dev.ioWrites32 [(addr, val)]

def Csu.ioSetbits32 (dev : Csu) (addr : Nat) (mask : Word) : Csu :=
  dev.ioWrite32 addr (dev.regs addr ||| mask)

def Csu.ioClrbits32 (dev : Csu) (addr : Nat) (mask : Word) : Csu :=
  dev.ioWrite32 addr (dev.regs addr &&& ~~~mask)

/-! ### The CSU DMA -/

def csudmaCtrlEndianMask : Word := 0x800000#32

/-- `GENMASK_32(31, 2)`. -/
def csudmaAddrMask : Word := 0xFFFFFFFC#32

def csudmaIxrSrcMask : Word := 0x7F#32

def csudmaIxrDstMask : Word := 0xFE#32

/-- `csudma_clear_intr`. -/
def csudmaClearIntr (ch : Channel) (mask : Word) (dev : Csu) : Csu :=
  dev.ioWrite32 ch.iSts ((match ch with | .src => csudmaIxrSrcMask | .dst => csudmaIxrDstMask) &&&
    mask)

/-- `zynqmp_csudma_sync`. -/
def zynqmpCsudmaSync (va : Bool) (ch : Channel) (iSts : List Word) (dev : Csu) : Csu × TeeResult :=
  if !va then (dev, teeErrorGeneric)
  else if iSts.any fun status => status &&& csudmaIxrDoneMask == csudmaIxrDoneMask then
    (csudmaClearIntr ch csudmaIxrDoneMask dev, teeSuccess)
  else (dev, teeErrorGeneric)

/-- `zynqmp_csudma_prepare`. -/
def zynqmpCsudmaPrepare (va : Bool) (ch : Channel) (dev : Csu) : Csu × TeeResult :=
  if !va then (dev, teeErrorGeneric)
  else (dev.ioSetbits32 ch.ctrl csudmaCtrlEndianMask, teeSuccess)

/-- `zynqmp_csudma_unprepare`. -/
def zynqmpCsudmaUnprepare (va : Bool) (ch : Channel) (dev : Csu) : Csu × TeeResult :=
  if !va then (dev, teeErrorGeneric)
  else (dev.ioClrbits32 ch.ctrl csudmaCtrlEndianMask, teeSuccess)

/-- The writes of `zynqmp_csudma_transfer`. -/
def transferWrites (ch : Channel) (phys len : Nat) (notify : Byte) : List (Nat × Word) :=
  [(ch.crc, 0#32), (ch.addr, BitVec.ofNat 32 phys &&& csudmaAddrMask),
    (ch.addrMsb, BitVec.ofNat 32 (phys >>> 32)),
    (ch.size, BitVec.ofNat 32 len ||| notify.setWidth 32)]

/-- `zynqmp_csudma_transfer`, from the physical address of the buffer. -/
def zynqmpCsudmaTransfer (va : Bool) (ch : Channel) (phys len : Nat) (notify : Byte) (dev : Csu) :
    Csu × TeeResult :=
  if !va then (dev, teeErrorGeneric)
  else if len % 4 ≠ 0 then (dev, teeErrorBadParameters)
  else if phys % 8 ≠ 0 then (dev, teeErrorBadParameters)
  else (dev.ioWrites32 (transferWrites ch phys len notify), teeSuccess)

/-! ### One block through the AES engine -/

def aesKupWrBit : Word := 0x1#32

def aesIvWrBit : Word := 0x2#32

section Block

variable (board : Board) (img : Image) (env : BlockEnv)

def push (x : Xfer) (addr : Ptr) (len : Nat) (notify : Byte) (dev : Csu) : Csu × TeeResult :=
  let sent := zynqmpCsudmaTransfer (env.dmaVa x) .src (virtToPhys board img addr) len notify dev
  if sent.2 ≠ teeSuccess then sent
  else zynqmpCsudmaSync (env.syncVa x) .src (env.iSts x) sent.1

/-- The label `out` of `aes_transfer_dec`. -/
def aesTransferOut (dev : Csu) (ret : TeeResult) : Csu × Option TeeResult :=
  ((zynqmpCsudmaUnprepare env.unprepareVa .src dev).1, some ret)

def pushThen (x : Xfer) (addr : Ptr) (len : Nat) (notify : Byte)
    (next : Csu → Csu × Option TeeResult) (dev : Csu) : Csu × Option TeeResult :=
  let sent := push board img env x addr len notify dev
  if sent.2 ≠ teeSuccess then aesTransferOut env sent.1 sent.2 else next sent.1

/-- The second half of `aes_transfer_dec`: the key and IV registers are open to the engine while the
secure header goes through it. -/
def aesTransferHeader (src : Ptr) (len : Nat) (tag : Ptr) (dev : Csu) : Csu × Option TeeResult :=
  pushThen board img env .hdr (src.add len) secureHdrSize 1
    (fun dev => pushThen board img env .tag tag zynqmpGcmTagSize 0
      (fun dev => aesTransferOut env dev
        (if env.aesSts &&& aesStsGcmTagOk = 0#32 then teeErrorGeneric else teeSuccess))
      (dev.ioWrite32 aesKupWr 0#32))
    (dev.ioWrite32 aesKupWr (aesIvWrBit ||| aesKupWrBit))

def aesTransferImage (src : Ptr) (len : Nat) (tag : Ptr) :
    BlockType → Csu → Csu × Option TeeResult
  | .secureHeader => aesTransferHeader board img env src len tag
  | .dataBlock =>
    pushThen board img env .data src len 0 fun dev =>
      if env.pcapVa && env.pcapIdle then aesTransferHeader board img env src len tag dev
      else (dev, none)

def aesTransferBody (src : Ptr) (len : Nat) (tag : Ptr) (blockType : BlockType) (dev : Csu) :
    Csu × Option TeeResult :=
  let ready := zynqmpCsudmaPrepare env.prepareVa .src dev
  -- the one failure that does not go through `out`
  if ready.2 ≠ teeSuccess then (ready.1, some ready.2)
  else aesTransferImage board img env src len tag blockType ready.1

/-- `aes_transfer_dec`. -/
def aesTransferDec (src : Ptr) (len : Nat) (tag iv : Ptr) (blockType : BlockType) (dev : Csu) :
    Csu × Option TeeResult :=
  if !env.aesVa then (dev, some teeErrorGeneric)
  else pushThen board img env .iv iv zynqmpCsudmaMinSize 0
    (aesTransferBody board img env src len tag blockType) (dev.ioWrite32 aesStartMsg 1#32)

/-- `zynqmp_csu_aes_decrypt_data`. -/
def zynqmpCsuAesDecryptData (src : Option Ptr) (srcLen : Nat) (tag iv : Option Ptr)
    (blockType : BlockType) (dev : Csu) : Csu × Option TeeResult :=
  match src, tag, iv with
  | some src, some tag, some iv =>
    let sent := aesTransferDec board img env src srcLen tag iv blockType dev
    match sent.2 with
    | none => sent
    | some ret =>
      (sent.1, some (if ret ≠ teeSuccess then ret
        else aesWait env.waitVa env.busySts aesStsAesBusy false))
  | _, _, _ => (dev, some teeErrorBadParameters)

end Block

/-! ### The secure loader -/

/-- The variables of the block loop, with the registers and `bs_iv`. -/
structure Cursor where
  dev : Csu
  bsIv : Option Ptr
  encStartAddr : Ptr
  tagAddr : Ptr
  nextBlkLen : Word
  currentImgLen : Word
  blockType : BlockType
  block : Nat

/-- What the loader leaves: the registers and `bs_iv`. -/
structure Left where
  dev : Csu
  bsIv : Option Ptr

/-- `AesKupKey`. -/
def aesKupKey : List Word :=
  [0xAD00C023#32, 0xE238AC90#32, 0x39EA984D#32, 0x49AA8C81#32, 0x9456A98C#32, 0x124AE890#32,
    0xACEF0021#32, 0x00128932#32]

/-- The key registers, written word by word. -/
def keyWrites : List (Nat × Word) :=
  aesKupKey.zipIdx.map fun (word, count) => (aesKup0 + count * 4, word)

/-- `ZYNQMP_CSU_SSS_DMA_STREAM_TO_AES_TO_PCAP`. -/
def sssDmaToAesToPcap : Word := 0x50A#32

def aesCfgDec : Word := 0#32

def aesKeySrcKup : Word := 0#32

/-- The writes of `zynqmp_csu_secure_pcap_write` up to the first wait for the key. -/
def setupWrites : List (Nat × Word) :=
  [(sssCfg, sssDmaToAesToPcap), (aesCfg, aesCfgDec), (aesReset, 1#32), (aesReset, 0#32),
    (aesKeyClear, 0#32)] ++ keyWrites ++ [(aesKeySrc, aesKeySrcKup), (aesKeyLoad, 1#32)]

section Write

variable (board : Board) (img : Image) (env : CmdEnv)

/-- One round of the loop in `zynqmp_csu_secure_pcap_write`. -/
def blockRound (c : Cursor) : Round Cursor (Left × Exit) :=
  let e := env.block c.block
  let call := zynqmpCsuAesDecryptData board img e (some c.encStartAddr) c.nextBlkLen.toNat
    (some c.tagAddr) c.bsIv c.blockType c.dev
  match call.2 with
  | none => .leave (⟨call.1, c.bsIv⟩, .stuck)
  | some ret =>
    let nextBlkLen := endianSwap e.iv3 * 4#32
    let currentImgLen := c.currentImgLen + nextBlkLen
    if nextBlkLen = 0#32 then
      if currentImgLen ≠ img.unEncDataLen then
        .leave (⟨call.1, c.bsIv⟩, .returned teeErrorGeneric)
      else .leave (⟨call.1, c.bsIv⟩, .broke ret)
    else if img.unEncDataLen < currentImgLen then
      .leave (⟨call.1, c.bsIv⟩, .returned teeErrorGeneric)
    else
      let dev := Csu.ioWrite32 call.1 aesKeyLoad 1#32
      if keyLoad e ≠ teeSuccess then .leave (⟨dev, c.bsIv⟩, .returned teeErrorGeneric)
      else
        let encStartAddr := c.tagAddr.add zynqmpGcmTagSize
        .again
          { dev := dev
            bsIv := some ⟨.aesIv, 0⟩
            encStartAddr := encStartAddr
            tagAddr := (encStartAddr.add nextBlkLen.toNat).add secureHdrSize
            nextBlkLen := nextBlkLen
            currentImgLen := currentImgLen
            blockType := .dataBlock
            block := c.block + 1 }

/-- The cursor before the first round. -/
def firstCursor (left : Left) : Cursor where
  dev := (zynqmpCsudmaPrepare env.prepareVa .src (Csu.ioWrites32 left.dev setupWrites)).1
  bsIv := left.bsIv
  encStartAddr := ⟨.image, img.unEncDataOffset.toNat⟩
  tagAddr := ⟨.image, img.unEncDataOffset.toNat + secureHdrSize⟩
  nextBlkLen := 0#32
  currentImgLen := 0#32
  blockType := .secureHeader
  block := 0

/-- `pcap_waitForPLDone`: the PCAP is reset when the PL is done. -/
def pcapWaitForPLDone (dev : Csu) : Csu × TeeResult :=
  let ret := Loader.pcapWaitForPLDone board env
  if ret ≠ teeSuccess then (dev, ret)
  else (dev.ioWrites32 [(pcapReset, 1#32), (pcapReset, 0#32)], ret)

/-- `zynqmp_csu_secure_pcap_write` from the end of the loop on. -/
def afterLoop : Left × Exit → Left × Option TeeResult
  | (left, .stuck) => (left, none)
  | (left, .returned ret) => (left, some ret)
  | (left, .broke ret) =>
    if ret ≠ teeSuccess then (left, some ret)
    else if pcapWaitForDone board env ≠ teeSuccess then (left, some (pcapWaitForDone board env))
    else
      let done := pcapWaitForPLDone board env left.dev
      ({ left with dev := done.1 }, some done.2)

/-- `zynqmp_csu_secure_pcap_write`, with at most `rounds` rounds of its loop. -/
def zynqmpCsuSecurePcapWrite (rounds : Nat) (left : Left) : Left × Option TeeResult :=
  if !board.csu || !board.aes then (left, some teeErrorGeneric)
  else
    match Lib.Loop.rounds (blockRound board img env) rounds (firstCursor img env left) with
    | .again c => (⟨c.dev, c.bsIv⟩, none)
    | .leave left => afterLoop board env left

end Write

/-! ### The FPGA manager -/

def pcapClkEnMask : Word := 0x01000000#32

/-- `zynqmp_csu_pcap_init`. -/
def zynqmpCsuPcapInit (board : Board) (env : CmdEnv) (dev : Csu) : Csu × TeeResult :=
  let dev := dev.ioSetbits32 pcapClkCtrl pcapClkEnMask
  if !board.pcap then (dev, teeErrorGeneric)
  else if env.pwrSts &&& pcapStsPlGpwrdwnB = 0#32 then (dev, teeErrorBadState)
  else
    (Csu.ioWrites32 dev
      [(pcapReset, 1#32), (pcapReset, 0#32), (pcapCtrl, 1#32), (pcapRdwr, 0#32)],
      waitForEvent env.initSts pcapStsPlInit pcapStsPlInit)

/-- `zynqmp_dfx_decouple`. -/
def zynqmpDfxDecouple (va : Bool) (decouple : Word) (dev : Csu) : Csu :=
  if !va then dev
  else dev.ioWrites32 [(dfxDecoupler1, decouple), (dfxDecoupler0, decouple)]

/-- The driver and the board between two commands. -/
structure Hw where
  bsIv : Option Ptr
  ivArr : Vector Byte 16
  dev : Csu

/-- `validateSecureBitstream`, which writes no register. -/
def validateSecureBitstream (build : Build) (img : Image) (hw : Hw) : Hw × TeeResult :=
  let checked := Loader.validateSecureBitstream build img
    { St.init with bsIv := hw.bsIv, ivArr := hw.ivArr }
  ({ hw with bsIv := checked.1.bsIv, ivArr := checked.1.ivArr }, checked.2)

/-- `pta_zynqmp_fpga_write`, with at most `rounds` rounds of the block loop. -/
def ptaZynqmpFpgaWrite (board : Board) (params : Params) (env : CmdEnv) (rounds : Nat) (hw : Hw) :
    Hw × Option TeeResult :=
  if params.paramTypes ≠
      teeParamTypes teeParamTypeMemrefInout teeParamTypeNone teeParamTypeNone teeParamTypeNone then
    (hw, some teeErrorBadParameters)
  else
    match params.memref with
    | none => (hw, some teeErrorBadParameters)
    | some img =>
      if img.size = 0 then (hw, some teeErrorBadParameters)
      else
        let checked := validateSecureBitstream board.build img hw
        if checked.2 ≠ teeSuccess then (checked.1, some checked.2)
        else
          let init := zynqmpCsuPcapInit board env checked.1.dev
          if init.2 ≠ teeSuccess then ({ checked.1 with dev := init.1 }, some teeErrorGeneric)
          else
            let written := zynqmpCsuSecurePcapWrite board img env rounds
              ⟨zynqmpDfxDecouple env.decoupleVa dfxDecouple init.1, checked.1.bsIv⟩
            match written.2 with
            | none => ({ checked.1 with dev := written.1.dev, bsIv := written.1.bsIv }, none)
            | some result =>
              ({ checked.1 with
                  dev := zynqmpDfxDecouple env.coupleVa dfxCouple written.1.dev
                  bsIv := written.1.bsIv }, some result)

/-! ### Runs -/

/-- The FPGA manager and its registers after some commands. -/
structure Run where
  hw : Hw
  returned : Bool

def Run.init (boot : Regs) : Run where
  hw := ⟨none, Vector.replicate 16 0#8, ⟨boot, [], []⟩⟩
  returned := true

/-- A command that never returns keeps the FPGA manager busy. -/
def Run.step (board : Board) (r : Run) (c : Cmd) : Run :=
  if !r.returned then r
  else
    let written := ptaZynqmpFpgaWrite board c.params c.env c.rounds r.hw
    ⟨written.1, written.2.isSome⟩

def Run.after (board : Board) (boot : Regs) (cmds : List Cmd) : Run :=
  Lib.AlarmRun.run (Run.step board) (Run.init boot) cmds

end TrustzoneWatchdog.Loader.Mmio
