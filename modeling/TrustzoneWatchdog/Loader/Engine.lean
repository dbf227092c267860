/-
**One block, in step with its registers.**

`Device` and `Aes` say which transfers the driver starts; `Mmio` says what it writes to the
registers. The DMA knows only the registers: `Regs.descriptor` is the transfer they ask for at the
moment their doorbell is rung. `Ready` relates the two levels while a block goes through: the
registers show the byte order and the decouplers as the driver believes them, every transfer it
started was launched with its own address, length and end-of-message flag, and the stream switch,
the AES engine and the PCAP are set up for a secure load.

* `addr_roundTrip`, `len_roundTrip`, `last_roundTrip`: what is packed into the registers of the
  channel comes out again.
* `Ready.launch`: a transfer is launched as the driver records it.
* `decryptData_simulates`: a whole decrypt call keeps the levels in step, whatever fails in it.
-/

import TrustzoneWatchdog.Lib.Simulation
import TrustzoneWatchdog.Loader.Mmio
import TrustzoneWatchdog.Loader.Walk

namespace TrustzoneWatchdog.Loader.Mmio

open Lib.Loop Lib.Mmio Lib.Simulation

/-! ### What the DMA reads in its registers -/

/-- `CSUDMA_CTRL_ENDIAN` of the source channel. -/
def Regs.srcEndian (regs : Regs) : Bool := (regs Channel.src.ctrl).getLsbD 23

def Regs.dfx (regs : Regs) : Dfx := ⟨regs dfxDecoupler1, regs dfxDecoupler0⟩

/-- A transfer as the hardware knows it. -/
structure Descriptor where
  addr : Nat
  len : Nat
  last : Bool
  byteSwap : Bool
  dfx : Dfx
  deriving DecidableEq, Repr

/-- `GENMASK_32(16, 0)`. -/
def csudmaAddrMsbMask : Word := 0x1FFFF#32

/-- The transfer the source channel is told to make: seventeen bits of address above thirty-two, and
a number of words above two flags. -/
def Regs.descriptor (regs : Regs) : Descriptor where
  addr := (regs Channel.src.addrMsb &&& csudmaAddrMsbMask).toNat * 2 ^ 32 +
    (regs Channel.src.addr).toNat
  len := (regs Channel.src.size >>> 2).toNat * 4
  last := (regs Channel.src.size).getLsbD 0
  byteSwap := regs.srcEndian
  dfx := regs.dfx

/-- A transfer of the driver, cut to what the registers can say. -/
def descriptorOf (board : Board) (img : Image) (t : Transfer) : Descriptor where
  addr := virtToPhys board img t.src % 2 ^ 49
  len := t.len % 2 ^ 32
  last := t.notify.getLsbD 0
  byteSwap := t.byteSwap
  dfx := t.dfx

def descriptors (board : Board) (img : Image) (events : List Event) : List Descriptor :=
  (transfersOf events).map (descriptorOf board img)

theorem descriptors_append (board : Board) (img : Image) (first second : List Event) :
    descriptors board img (first ++ second) =
      descriptors board img first ++ descriptors board img second := by
  simp [descriptors]

theorem descriptors_of_silent (board : Board) (img : Image) {events : List Event}
    (silent : transfersOf events = []) : descriptors board img events = [] := by
  rw [descriptors, silent, List.map_nil]

/-! #### Round trips -/

theorem addrMask_of_aligned {phys : Nat} (aligned : phys % 8 = 0) :
    BitVec.ofNat 32 phys &&& csudmaAddrMask = BitVec.ofNat 32 phys := by
  have mask : ∀ i < 32, csudmaAddrMask.getLsbD i = decide (2 ≤ i) := by decide
  apply BitVec.eq_of_getLsbD_eq
  intro i inside
  rw [BitVec.getLsbD_and, mask i inside]
  by_cases low : 2 ≤ i
  · simp [low]
  · have clear : phys.testBit i = false := by
      have small := Nat.testBit_mod_two_pow phys 3 i
      rw [show phys % 2 ^ 3 = 0 from aligned, Nat.zero_testBit] at small
      simpa [show i < 3 by omega] using small
    rw [BitVec.getLsbD_ofNat, clear, Bool.and_false, Bool.false_and]

theorem addr_roundTrip {phys : Nat} (aligned : phys % 8 = 0) :
    (BitVec.ofNat 32 (phys >>> 32) &&& csudmaAddrMsbMask).toNat * 2 ^ 32 +
      (BitVec.ofNat 32 phys &&& csudmaAddrMask).toNat = phys % 2 ^ 49 := by
  have high : (BitVec.ofNat 32 (phys >>> 32) &&& csudmaAddrMsbMask).toNat =
      phys / 2 ^ 32 % 2 ^ 17 := by
    rw [BitVec.toNat_and, BitVec.toNat_ofNat, Nat.shiftRight_eq_div_pow,
      show csudmaAddrMsbMask.toNat = 2 ^ 17 - 1 from rfl, Nat.and_two_pow_sub_one_eq_mod]
    omega
  rw [high, addrMask_of_aligned aligned, BitVec.toNat_ofNat]
  omega

theorem len_roundTrip {len : Nat} (words : len % 4 = 0) {notify : Byte}
    (flag : notify = 0#8 ∨ notify = 1#8) :
    ((BitVec.ofNat 32 len ||| notify.setWidth 32) >>> 2).toNat * 4 = len % 2 ^ 32 := by
  have gone : (notify.setWidth 32) >>> 2 = 0#32 := by
    rcases flag with rfl | rfl <;> rfl
  rw [BitVec.ushiftRight_or_distrib, gone, BitVec.or_zero, BitVec.toNat_ushiftRight,
    BitVec.toNat_ofNat, Nat.shiftRight_eq_div_pow]
  omega

theorem last_roundTrip {len : Nat} (words : len % 4 = 0) (notify : Byte) :
    (BitVec.ofNat 32 len ||| notify.setWidth 32).getLsbD 0 = notify.getLsbD 0 := by
  have even : len.testBit 0 = false := by
    simp only [Nat.testBit_zero, decide_eq_false_iff_not]
    omega
  rw [BitVec.getLsbD_or, BitVec.getLsbD_ofNat, even, BitVec.getLsbD_setWidth]
  rfl

/-! ### What a launch needs -/

/-- The PCAP out of reset, in PCAP mode, for writing. -/
def pcapSettings : List (Nat × Word) := [(pcapReset, 0#32), (pcapCtrl, 1#32), (pcapRdwr, 0#32)]

/-- The stream goes from the DMA through the AES engine to the PCAP; the engine decrypts, is out of
reset and keeps its keys, and the last thing written to its key registers is the key. -/
def engineSettings : List (Nat × Word) :=
  [(sssCfg, sssDmaToAesToPcap), (aesCfg, aesCfgDec), (aesReset, 0#32), (aesKeyClear, 0#32),
    (aesKeySrc, aesKeySrcKup)] ++ keyWrites

/-- The board is set up for a secure load. -/
structure Configured (regs : Regs) : Prop where
  pcap : Holds pcapSettings regs
  engine : Holds engineSettings regs
  clock : regs pcapClkCtrl &&& pcapClkEnMask = pcapClkEnMask

/-- The key registers, and the one that clears them. -/
def keyRegs : List Nat := aesKeyClear :: keyWrites.map Prod.fst

/-- The write does not put anything but the key into a key register, nor clear them. -/
def KeepsKey (w : Nat × Word) : Prop :=
  (w.1 ∈ keyWrites.map Prod.fst → w ∈ keyWrites) ∧ (w.1 = aesKeyClear → w.2 = 0#32)

instance (w : Nat × Word) : Decidable (KeepsKey w) := inferInstanceAs (Decidable (_ ∧ _))

theorem keepsKey_of_apart {ws : List (Nat × Word)} (apart : ∀ a ∈ keyRegs, a ∉ ws.map Prod.fst) :
    ∀ w ∈ ws, KeepsKey w := by
  intro w inside
  have named := List.mem_map_of_mem (f := Prod.fst) inside
  refine ⟨fun key => absurd named (apart _ (List.mem_cons_of_mem _ key)), fun clears => ?_⟩
  exact absurd named (clears ▸ apart _ List.mem_cons_self)

/-- The registers `Configured` looks at. -/
def configRegs : List Nat := (pcapSettings ++ engineSettings).map Prod.fst ++ [pcapClkCtrl]

/-- The registers that tell the state of the driver. -/
def driverRegs : List Nat :=
  [Channel.src.size, Channel.src.ctrl, dfxDecoupler1, dfxDecoupler0]

theorem Configured.writes {dev : Csu} {ws : List (Nat × Word)} (configured : Configured dev.regs)
    (apart : ∀ a ∈ configRegs, a ∉ ws.map Prod.fst) : Configured (dev.ioWrites32 ws).regs where
  pcap := configured.pcap.writes fun a inside => apart a (by simp_all [configRegs])
  engine := configured.engine.writes fun a inside => apart a (by simp_all [configRegs])
  clock := by
    rw [Csu.ioWrites32, Device.regs_writes_of_notMem (apart _ (by simp [configRegs]))]
    exact configured.clock

/-! ### The driver and its registers -/

section Tracks

variable (board : Board) (img : Image) (iv : Option Ptr) (ivArr : Vector Byte 16)
  (before : List Descriptor) (trace : List Event)

/-- **The registers show the driver**: byte order and decouplers as it believes them, and since
`trace` one launch for every transfer it started, each on a board set up for it. No write so far has
touched the key. -/
structure Tracks (dev : Csu) (st : St) : Prop where
  bsIv : st.bsIv = iv
  ivArr : st.ivArr = ivArr
  endian : Regs.srcEndian dev.regs = st.srcEndian
  dfx : Regs.dfx dev.regs = st.dfx
  launched : ∃ events, st.trace = trace ++ events ∧
    dev.started.map Regs.descriptor = before ++ descriptors board img events
  configured : ∀ launch ∈ dev.started, Configured launch
  kept : ∀ w ∈ dev.log, KeepsKey w

/-- The same, with the board set up now. -/
structure Ready (dev : Csu) (st : St) : Prop extends
    Tracks board img iv ivArr before trace dev st where
  engine : Configured dev.regs

variable {board img iv ivArr before trace} {dev : Csu} {st : St}

theorem srcEndian_writes (ws : List (Nat × Word)) (apart : Channel.src.ctrl ∉ ws.map Prod.fst) :
    Regs.srcEndian (dev.ioWrites32 ws).regs = Regs.srcEndian dev.regs := by
  rw [Regs.srcEndian, Csu.ioWrites32, Device.regs_writes_of_notMem apart, Regs.srcEndian]

theorem dfx_writes (ws : List (Nat × Word)) (apart1 : dfxDecoupler1 ∉ ws.map Prod.fst)
    (apart0 : dfxDecoupler0 ∉ ws.map Prod.fst) :
    Regs.dfx (dev.ioWrites32 ws).regs = Regs.dfx dev.regs := by
  rw [Regs.dfx, Csu.ioWrites32, Device.regs_writes_of_notMem apart1,
    Device.regs_writes_of_notMem apart0, Regs.dfx]

theorem keepsKey_writes {ws : List (Nat × Word)} (kept : ∀ w ∈ dev.log, KeepsKey w)
    (proper : ∀ w ∈ ws, KeepsKey w) : ∀ w ∈ (dev.ioWrites32 ws).log, KeepsKey w := by
  rw [Csu.ioWrites32, Device.log_writes]
  exact List.forall_mem_append.mpr ⟨kept, proper⟩

/-- Writes to other registers. -/
theorem Tracks.writes {ws : List (Nat × Word)}
    (tracks : Tracks board img iv ivArr before trace dev st)
    (apart : ∀ a ∈ driverRegs, a ∉ ws.map Prod.fst) (proper : ∀ w ∈ ws, KeepsKey w) :
    Tracks board img iv ivArr before trace (dev.ioWrites32 ws) st where
  bsIv := tracks.bsIv
  ivArr := tracks.ivArr
  endian := (srcEndian_writes ws (apart _ (by simp [driverRegs]))).trans tracks.endian
  dfx := (dfx_writes ws (apart _ (by simp [driverRegs])) (apart _ (by simp [driverRegs]))).trans
    tracks.dfx
  launched := by
    rw [Csu.ioWrites32, Device.started_writes_of_notMem (apart _ (by simp [driverRegs]))]
    exact tracks.launched
  configured := by
    rw [Csu.ioWrites32, Device.started_writes_of_notMem (apart _ (by simp [driverRegs]))]
    exact tracks.configured
  kept := keepsKey_writes tracks.kept proper

theorem keyRegs_subset : keyRegs ⊆ configRegs := by decide

theorem Ready.writes {ws : List (Nat × Word)} (ready : Ready board img iv ivArr before trace dev st)
    (apart : ∀ a ∈ driverRegs ++ configRegs, a ∉ ws.map Prod.fst) :
    Ready board img iv ivArr before trace (dev.ioWrites32 ws) st where
  toTracks := ready.toTracks.writes (fun a inside => apart a (List.mem_append_left _ inside))
    (keepsKey_of_apart fun a inside => apart a (List.mem_append_right _ (keyRegs_subset inside)))
  engine := ready.engine.writes fun a inside => apart a (List.mem_append_right _ inside)

/-- An event that starts no transfer. -/
theorem Tracks.emit {e : Event} (tracks : Tracks board img iv ivArr before trace dev st)
    (silent : transfersOf [e] = []) :
    Tracks board img iv ivArr before trace dev (st.emit e) where
  bsIv := tracks.bsIv
  ivArr := tracks.ivArr
  endian := tracks.endian
  dfx := tracks.dfx
  launched := by
    obtain ⟨events, grown, launched⟩ := tracks.launched
    refine ⟨events ++ [e], ?_, ?_⟩
    · rw [St.emit, grown, List.append_assoc]
    · rw [descriptors_append, launched, descriptors_of_silent board img silent, List.append_nil]
  configured := tracks.configured
  kept := tracks.kept

theorem Ready.emit {e : Event} (ready : Ready board img iv ivArr before trace dev st)
    (silent : transfersOf [e] = []) : Ready board img iv ivArr before trace dev (st.emit e) :=
  ⟨ready.toTracks.emit silent, ready.engine⟩

/-- The byte-swap bit. -/
theorem Ready.ctrl (ready : Ready board img iv ivArr before trace dev st) (word : Word) :
    Ready board img iv ivArr before trace (dev.ioWrite32 Channel.src.ctrl word)
      { st with srcEndian := word.getLsbD 23 } where
  bsIv := ready.bsIv
  ivArr := ready.ivArr
  endian := by
    rw [Regs.srcEndian, Csu.ioWrite32, Csu.ioWrites32, Device.regs_writes]
    rfl
  dfx := (dfx_writes [(_, word)] (show dfxDecoupler1 ∉ [Channel.src.ctrl] by decide)
    (show dfxDecoupler0 ∉ [Channel.src.ctrl] by decide)).trans ready.dfx
  launched := ready.launched
  configured := ready.configured
  kept := keepsKey_writes ready.kept
    (keepsKey_of_apart (show ∀ a ∈ keyRegs, a ∉ [Channel.src.ctrl] by decide))
  engine := ready.engine.writes (show ∀ a ∈ configRegs, a ∉ [Channel.src.ctrl] by decide)

/-- A write to one register that is not looked at. -/
theorem Ready.write {addr : Nat} (ready : Ready board img iv ivArr before trace dev st)
    (apart : ∀ a ∈ driverRegs ++ configRegs, a ∉ [addr]) (word : Word) :
    Ready board img iv ivArr before trace (dev.ioWrite32 addr word) st :=
  ready.writes apart

/-- The registers a transfer writes. -/
def transferRegs : List Nat :=
  [Channel.src.crc, Channel.src.addr, Channel.src.addrMsb, Channel.src.size]

theorem transferWrites_regs (phys len : Nat) (notify : Byte) :
    (transferWrites .src phys len notify).map Prod.fst = transferRegs := rfl

theorem started_transfer (phys len : Nat) (notify : Byte) :
    (dev.ioWrites32 (transferWrites .src phys len notify)).started =
      dev.started ++ [(dev.ioWrites32 (transferWrites .src phys len notify)).regs] := by
  refine Device.started_writes_doorbell [(_, _), (_, _), (_, _)] ?_ dev _
  show Channel.src.size ∉ [Channel.src.crc, Channel.src.addr, Channel.src.addrMsb]
  decide

theorem last_transfer (phys : Nat) {len : Nat} (words : len % 4 = 0) (notify : Byte) (dev : Csu) :
    (Regs.descriptor (dev.ioWrites32 (transferWrites .src phys len notify)).regs).last =
      notify.getLsbD 0 := by
  rw [← last_roundTrip words notify, Regs.descriptor, Csu.ioWrites32]
  dsimp only
  rw [Device.regs_writes]
  rfl

/-- **A transfer is launched** as the driver records it. -/
theorem Ready.launch (ready : Ready board img iv ivArr before trace dev st) {addr : Ptr} {len : Nat}
    {notify : Byte} (words : len % 4 = 0) (aligned : virtToPhys board img addr % 8 = 0)
    (flag : notify = 0#8 ∨ notify = 1#8) :
    Ready board img iv ivArr before trace
      (dev.ioWrites32 (transferWrites .src (virtToPhys board img addr) len notify))
      (st.emit (.transfer (st.transferOf addr len notify))) := by
  set phys := virtToPhys board img addr
  set dev' := dev.ioWrites32 (transferWrites .src phys len notify)
  have register (a : Nat) : dev'.regs a =
      (Device.lastWrite (transferWrites .src phys len notify) a).getD (dev.regs a) :=
    Device.regs_writes ..
  have names := transferWrites_regs phys len notify
  have endian : Regs.srcEndian dev'.regs = st.srcEndian :=
    (srcEndian_writes _ (by rw [names]; decide)).trans ready.endian
  have dfx : Regs.dfx dev'.regs = st.dfx :=
    (dfx_writes _ (by rw [names]; decide) (by rw [names]; decide)).trans ready.dfx
  have engine : Configured dev'.regs := ready.engine.writes (by rw [names]; decide)
  have started : dev'.started = dev.started ++ [dev'.regs] := started_transfer ..
  have descriptor : Regs.descriptor dev'.regs =
      descriptorOf board img (st.transferOf addr len notify) := by
    simp only [Regs.descriptor, register, endian, dfx]
    simp only [descriptorOf, St.transferOf, Descriptor.mk.injEq, and_true]
    exact ⟨addr_roundTrip aligned, len_roundTrip words flag, last_roundTrip words notify⟩
  have kept : ∀ w ∈ dev'.log, KeepsKey w :=
    keepsKey_writes ready.kept (keepsKey_of_apart (by rw [names]; decide))
  refine ⟨⟨ready.bsIv, ready.ivArr, endian, dfx, ?_, ?_, kept⟩, engine⟩
  · obtain ⟨events, grown, launched⟩ := ready.launched
    refine ⟨events ++ [.transfer (st.transferOf addr len notify)], ?_, ?_⟩
    · rw [St.emit, grown, List.append_assoc]
    · rw [started, List.map_append, launched, descriptors_append, List.append_assoc]
      simp [descriptors, transfersOf, descriptor]
  · intro launch inside
    rw [started, List.mem_append, List.mem_singleton] at inside
    rcases inside with earlier | rfl
    · exact ready.configured launch earlier
    · exact engine

end Tracks

/-! ### One block, in step -/

section Block

variable {board : Board} {img : Image} {env : BlockEnv} {iv : Option Ptr} {ivArr : Vector Byte 16}
  {before : List Descriptor} {trace : List Event}

theorem transfer_simulates (va : Bool) (addr : Ptr) (len : Nat) {notify : Byte}
    (flag : notify = 0#8 ∨ notify = 1#8) :
    Simulates (Ready board img iv ivArr before trace)
      (zynqmpCsudmaTransfer va .src (virtToPhys board img addr) len notify)
      (Loader.zynqmpCsudmaTransfer va board img addr len notify) := by
  intro dev st ready
  unfold zynqmpCsudmaTransfer Loader.zynqmpCsudmaTransfer
  split_ifs with unmapped ragged misaligned
  · exact ⟨ready, rfl⟩
  · exact ⟨ready, rfl⟩
  · exact ⟨ready, rfl⟩
  · exact ⟨ready.launch (not_not.mp ragged) (not_not.mp misaligned) flag, rfl⟩

theorem sync_simulates (va : Bool) (iSts : List Word) :
    Simulates (Ready board img iv ivArr before trace) (zynqmpCsudmaSync va .src iSts)
      (fun st => (st, Loader.zynqmpCsudmaSync va iSts)) := by
  intro dev st ready
  unfold zynqmpCsudmaSync Loader.zynqmpCsudmaSync
  split_ifs
  · exact ⟨ready, rfl⟩
  · exact ⟨ready.write (by decide) _, rfl⟩
  · exact ⟨ready, rfl⟩

theorem push_simulates (x : Xfer) (addr : Ptr) (len : Nat) {notify : Byte}
    (flag : notify = 0#8 ∨ notify = 1#8) :
    Simulates (Ready board img iv ivArr before trace) (push board img env x addr len notify)
      (Loader.push board img env x addr len notify) := by
  have continues (ret : TeeResult) : Simulates (Ready board img iv ivArr before trace)
      (fun dev => if ret ≠ teeSuccess then (dev, ret)
        else zynqmpCsudmaSync (env.syncVa x) .src (env.iSts x) dev)
      (fun st => if ret ≠ teeSuccess then (st, ret)
        else (st, Loader.zynqmpCsudmaSync (env.syncVa x) (env.iSts x))) := by
    split
    · exact Simulates.result ret
    · exact sync_simulates _ _
  exact (transfer_simulates (env.dmaVa x) addr len flag).andThen continues

theorem prepare_simulates (va : Bool) :
    Simulates (Ready board img iv ivArr before trace) (zynqmpCsudmaPrepare va .src)
      (Loader.zynqmpCsudmaPrepare va) := by
  intro dev st ready
  unfold zynqmpCsudmaPrepare Loader.zynqmpCsudmaPrepare
  cases va with
  | false => exact ⟨ready, rfl⟩
  | true =>
    have swapped := ready.ctrl (dev.regs Channel.src.ctrl ||| csudmaCtrlEndianMask)
    rw [BitVec.getLsbD_or, show csudmaCtrlEndianMask.getLsbD 23 = true from rfl,
      Bool.or_true] at swapped
    exact ⟨swapped, rfl⟩

theorem unprepare_simulates (va : Bool) :
    Simulates (Ready board img iv ivArr before trace) (zynqmpCsudmaUnprepare va .src)
      (Loader.zynqmpCsudmaUnprepare va) := by
  intro dev st ready
  unfold zynqmpCsudmaUnprepare Loader.zynqmpCsudmaUnprepare
  cases va with
  | false => exact ⟨ready, rfl⟩
  | true =>
    have plain := ready.ctrl (dev.regs Channel.src.ctrl &&& ~~~csudmaCtrlEndianMask)
    rw [BitVec.getLsbD_and, show (~~~csudmaCtrlEndianMask).getLsbD 23 = false from rfl,
      Bool.and_false] at plain
    exact ⟨plain, rfl⟩

theorem out_simulates (ret : TeeResult) :
    Simulates (Ready board img iv ivArr before trace) (fun dev => aesTransferOut env dev ret)
      (fun st => Loader.aesTransferOut env st ret) :=
  fun dev st ready => ⟨(unprepare_simulates env.unprepareVa dev st ready).1, rfl⟩

theorem pushThen_simulates (x : Xfer) (addr : Ptr) (len : Nat) {notify : Byte}
    (flag : notify = 0#8 ∨ notify = 1#8) {next : Csu → Csu × Option TeeResult}
    {next' : St → St × Option TeeResult}
    (rest : Simulates (Ready board img iv ivArr before trace) next next') :
    Simulates (Ready board img iv ivArr before trace)
      (pushThen board img env x addr len notify next)
      (Loader.pushThen board img env x addr len notify next') := by
  have continues (ret : TeeResult) : Simulates (Ready board img iv ivArr before trace)
      (fun dev => if ret ≠ teeSuccess then aesTransferOut env dev ret else next dev)
      (fun st => if ret ≠ teeSuccess then Loader.aesTransferOut env st ret else next' st) := by
    split
    · exact out_simulates ret
    · exact rest
  exact (push_simulates x addr len flag).andThen continues

/-- A register that is not looked at is written before the rest. -/
theorem write_simulates (addr : Nat) (word : Word)
    (apart : ∀ a ∈ driverRegs ++ configRegs, a ∉ [addr])
    {next : Csu → Csu × Option TeeResult} {next' : St → St × Option TeeResult}
    (rest : Simulates (Ready board img iv ivArr before trace) next next') :
    Simulates (Ready board img iv ivArr before trace) (fun dev => next (dev.ioWrite32 addr word))
      next' :=
  rest.after (fun dev => dev.ioWrite32 addr word) fun _ _ ready => ready.write apart word

theorem header_simulates (src : Ptr) (len : Nat) (tag : Ptr) :
    Simulates (Ready board img iv ivArr before trace) (aesTransferHeader board img env src len tag)
      (Loader.aesTransferHeader board img env src len tag) := by
  refine write_simulates aesKupWr _ (by decide) (pushThen_simulates .hdr _ _ (.inr rfl) ?_)
  refine write_simulates aesKupWr _ (by decide) (pushThen_simulates .tag _ _ (.inl rfl) ?_)
  exact out_simulates _

theorem image_simulates (src : Ptr) (len : Nat) (tag : Ptr) (blockType : BlockType) :
    Simulates (Ready board img iv ivArr before trace)
      (aesTransferImage board img env src len tag blockType)
      (Loader.aesTransferImage board img env src len tag blockType) := by
  cases blockType with
  | secureHeader => exact header_simulates src len tag
  | dataBlock =>
    refine pushThen_simulates .data _ _ (.inl rfl) ?_
    split
    · exact header_simulates src len tag
    · exact Simulates.result none

theorem body_simulates (src : Ptr) (len : Nat) (tag : Ptr) (blockType : BlockType) :
    Simulates (Ready board img iv ivArr before trace)
      (aesTransferBody board img env src len tag blockType)
      (Loader.aesTransferBody board img env src len tag blockType) := by
  have continues (ret : TeeResult) : Simulates (Ready board img iv ivArr before trace)
      (fun dev => if ret ≠ teeSuccess then (dev, some ret)
        else aesTransferImage board img env src len tag blockType dev)
      (fun st => if ret ≠ teeSuccess then (st, some ret)
        else Loader.aesTransferImage board img env src len tag blockType st) := by
    split
    · exact Simulates.result (some ret)
    · exact image_simulates src len tag blockType
  exact (prepare_simulates env.prepareVa).andThen continues

theorem dec_simulates (src : Ptr) (len : Nat) (tag pushed : Ptr) (blockType : BlockType) :
    Simulates (Ready board img iv ivArr before trace)
      (aesTransferDec board img env src len tag pushed blockType)
      (Loader.aesTransferDec board img env src len tag pushed blockType) := by
  unfold aesTransferDec Loader.aesTransferDec
  split
  · exact Simulates.result _
  · exact write_simulates aesStartMsg _ (by decide)
      (pushThen_simulates .iv _ _ (.inl rfl) (body_simulates src len tag blockType))

theorem decryptData_simulates (src : Option Ptr) (len : Nat) (tag pushed : Option Ptr)
    (blockType : BlockType) :
    Simulates (Ready board img iv ivArr before trace)
      (zynqmpCsuAesDecryptData board img env src len tag pushed blockType)
      (Loader.zynqmpCsuAesDecryptData board img env src len tag pushed blockType) := by
  intro dev st ready
  have refused : Ready board img iv ivArr before trace dev
      ((st.emit .decrypt).emit (.decrypted teeErrorBadParameters)) := (ready.emit rfl).emit rfl
  match src, tag, pushed with
  | none, _, _ => exact ⟨refused, rfl⟩
  | some _, none, _ => exact ⟨refused, rfl⟩
  | some _, some _, none => exact ⟨refused, rfl⟩
  | some src, some tag, some pushed =>
    have call : Simulates (Ready board img iv ivArr before trace)
        (aesTransferDec board img env src len tag pushed blockType) _ :=
      dec_simulates src len tag pushed blockType
    obtain ⟨states, results⟩ := call dev (st.emit .decrypt) (ready.emit rfl)
    cases outcome : (Loader.aesTransferDec board img env src len tag pushed blockType
        (st.emit .decrypt)).2 with
    | none =>
      simp only [zynqmpCsuAesDecryptData, Loader.zynqmpCsuAesDecryptData, results, outcome]
      exact ⟨states, trivial⟩
    | some ret =>
      simp only [zynqmpCsuAesDecryptData, Loader.zynqmpCsuAesDecryptData, results, outcome]
      exact ⟨states.emit rfl, trivial⟩

end Block

end TrustzoneWatchdog.Loader.Mmio
