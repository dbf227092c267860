/-
**The window for the key and IV registers** (`AES_KUP_WR`).

`aes_transfer_dec` opens the key and IV registers of the engine before it pushes the secure header
and shuts them behind it. The two ways out of that push on an error go past the line that shuts
them.

* `keepsShut_dec`: a call that finds the window shut and does not fail leaves it shut, and it was
  open for the last transfer of a message only.
* `failedHeader_leaks`: if the push of a secure header fails and the loop goes on all the same, the
  IV of the next block goes out with the window open.
-/

import TrustzoneWatchdog.Loader.Engine

namespace TrustzoneWatchdog.Loader.Mmio

open Lib.Loop Lib.Mmio

/-- The key and IV registers are open to the engine for the last transfer of a message, the secure
header, and for no other. -/
def Disciplined (launch : Regs) : Prop :=
  launch aesKupWr = if (Regs.descriptor launch).last then aesIvWrBit ||| aesKupWrBit else 0#32

/-- The window is as `word` says, and was right at every launch. -/
structure Window (word : Word) (dev : Csu) : Prop where
  here : dev.regs aesKupWr = word
  launches : ∀ launch ∈ dev.started, Disciplined launch

section Window

variable {board : Board} {img : Image} {env : BlockEnv} {dev : Csu} {word : Word}

theorem Window.writes {ws : List (Nat × Word)} (window : Window word dev)
    (apart : ∀ a ∈ [aesKupWr, Channel.src.size], a ∉ ws.map Prod.fst) :
    Window word (dev.ioWrites32 ws) where
  here := by
    rw [Csu.ioWrites32, Device.regs_writes_of_notMem (apart _ (by simp))]
    exact window.here
  launches := by
    rw [Csu.ioWrites32, Device.started_writes_of_notMem (apart _ (by simp))]
    exact window.launches

theorem Window.write {addr : Nat} (window : Window word dev)
    (apart : ∀ a ∈ [aesKupWr, Channel.src.size], a ∉ [addr]) (value : Word) :
    Window word (dev.ioWrite32 addr value) :=
  window.writes apart

/-- The window is set. -/
theorem Window.set (window : Window word dev) (word' : Word) :
    Window word' (dev.ioWrite32 aesKupWr word') where
  here := by
    rw [Csu.ioWrite32, Csu.ioWrites32, Device.regs_writes]
    rfl
  launches := window.launches

theorem Window.launch (window : Window word dev) {phys len : Nat} {notify : Byte}
    (words : len % 4 = 0)
    (fits : word = if notify.getLsbD 0 then aesIvWrBit ||| aesKupWrBit else 0#32) :
    Window word (dev.ioWrites32 (transferWrites .src phys len notify)) := by
  set dev' := dev.ioWrites32 (transferWrites .src phys len notify)
  have names := transferWrites_regs phys len notify
  have here : dev'.regs aesKupWr = word := by
    rw [← window.here]
    exact Device.regs_writes_of_notMem (by rw [names]; decide) dev
  have last : (Regs.descriptor dev'.regs).last = notify.getLsbD 0 :=
    last_transfer phys words notify dev
  refine ⟨here, fun launch inside => ?_⟩
  rw [show dev'.started = _ from started_transfer .., List.mem_append,
    List.mem_singleton] at inside
  rcases inside with earlier | rfl
  · exact window.launches launch earlier
  · rw [Disciplined, here, last, fits]

theorem Window.transfer (window : Window word dev) (va : Bool) (phys len : Nat) {notify : Byte}
    (fits : word = if notify.getLsbD 0 then aesIvWrBit ||| aesKupWrBit else 0#32) :
    Window word (zynqmpCsudmaTransfer va .src phys len notify dev).1 := by
  unfold zynqmpCsudmaTransfer
  split_ifs with unmapped ragged misaligned
  · exact window
  · exact window
  · exact window
  · exact window.launch (not_not.mp ragged) fits

theorem Window.sync (window : Window word dev) (va : Bool) (iSts : List Word) :
    Window word (zynqmpCsudmaSync va .src iSts dev).1 := by
  unfold zynqmpCsudmaSync
  split_ifs
  · exact window
  · exact window.write (by decide) _
  · exact window

theorem Window.pushed (window : Window word dev) (x : Xfer) (addr : Ptr) (len : Nat) {notify : Byte}
    (fits : word = if notify.getLsbD 0 then aesIvWrBit ||| aesKupWrBit else 0#32) :
    Window word (push board img env x addr len notify dev).1 := by
  have sent := window.transfer (env.dmaVa x) (virtToPhys board img addr) len fits
  unfold push
  dsimp only
  split
  · exact sent
  · exact sent.sync _ _

theorem Window.prepare (window : Window word dev) (va : Bool) :
    Window word (zynqmpCsudmaPrepare va .src dev).1 := by
  unfold zynqmpCsudmaPrepare
  split
  · exact window
  · exact window.write (by decide) _

theorem Window.unprepare (window : Window word dev) (va : Bool) :
    Window word (zynqmpCsudmaUnprepare va .src dev).1 := by
  unfold zynqmpCsudmaUnprepare
  split
  · exact window
  · exact window.write (by decide) _

/-- A piece that finds the window shut leaves it so, if it does not fail. -/
def KeepsShut (f : Csu → Csu × Option TeeResult) : Prop :=
  ∀ dev, Window 0#32 dev → (∀ ret, (f dev).2 = some ret → ret = teeSuccess) → Window 0#32 (f dev).1

theorem keepsShut_out (ret : TeeResult) : KeepsShut fun dev => aesTransferOut env dev ret :=
  fun _ shut _ => shut.unprepare env.unprepareVa

theorem keepsShut_pushThen (x : Xfer) (addr : Ptr) (len : Nat)
    {next : Csu → Csu × Option TeeResult} (rest : KeepsShut next) :
    KeepsShut (pushThen board img env x addr len 0 next) := by
  intro dev shut succeeds
  have sent : Window 0#32 (push board img env x addr len 0 dev).1 := shut.pushed x addr len rfl
  unfold pushThen at succeeds ⊢
  dsimp only at succeeds ⊢
  split at succeeds
  · exact absurd (succeeds _ rfl) ‹_›
  · rw [if_neg ‹_›]
    exact rest _ sent succeeds

/-- The window is open while the secure header goes out, and shut again if that succeeds. -/
theorem keepsShut_header (src : Ptr) (len : Nat) (tag : Ptr) :
    KeepsShut (aesTransferHeader board img env src len tag) := by
  intro dev shut succeeds
  have opened : Window (aesIvWrBit ||| aesKupWrBit)
      (dev.ioWrite32 aesKupWr (aesIvWrBit ||| aesKupWrBit)) := shut.set _
  have sent : Window _ (push board img env .hdr (src.add len) secureHdrSize 1 _).1 :=
    opened.pushed .hdr (src.add len) secureHdrSize rfl
  unfold aesTransferHeader pushThen at succeeds ⊢
  dsimp only at succeeds ⊢
  split at succeeds
  · exact absurd (succeeds _ rfl) ‹_›
  · rw [if_neg ‹_›]
    exact keepsShut_pushThen .tag tag zynqmpGcmTagSize (keepsShut_out _) _ (sent.set 0#32) succeeds

theorem keepsShut_image (src : Ptr) (len : Nat) (tag : Ptr) (blockType : BlockType) :
    KeepsShut (aesTransferImage board img env src len tag blockType) := by
  cases blockType with
  | secureHeader => exact keepsShut_header src len tag
  | dataBlock =>
    refine keepsShut_pushThen .data src len ?_
    split
    · exact keepsShut_header src len tag
    · exact fun _ shut _ => shut

theorem keepsShut_dec (src : Ptr) (len : Nat) (tag iv : Ptr) (blockType : BlockType) :
    KeepsShut (aesTransferDec board img env src len tag iv blockType) := by
  have body : KeepsShut (aesTransferBody board img env src len tag blockType) := by
    intro dev shut succeeds
    have ready := shut.prepare env.prepareVa
    unfold aesTransferBody at succeeds ⊢
    dsimp only at succeeds ⊢
    split at succeeds
    · rw [if_pos ‹_›]
      exact ready
    · rw [if_neg ‹_›]
      exact keepsShut_image src len tag blockType _ ready succeeds
  intro dev shut succeeds
  unfold aesTransferDec at succeeds ⊢
  split at succeeds
  · rw [if_pos ‹_›]
    exact shut
  · rw [if_neg ‹_›]
    exact keepsShut_pushThen .iv iv zynqmpCsudmaMinSize body _ (shut.write (by decide) _) succeeds

end Window

/-! ### A push that fails -/

section Leak

variable {board : Board} {img : Image} {env : BlockEnv} {dev : Csu}

theorem push_ret_iff (x : Xfer) (addr : Ptr) (len : Nat) (notify : Byte) (dev : Csu) :
    (push board img env x addr len notify dev).2 = teeSuccess ↔
      passes board img env x addr len := by
  unfold push zynqmpCsudmaTransfer zynqmpCsudmaSync passes accepts synced
  split_ifs <;> simp_all [teeSuccess, teeErrorGeneric, teeErrorBadParameters]

theorem kupWr_write {addr : Nat} (apart : aesKupWr ∉ [addr]) (word : Word) (dev : Csu) :
    (dev.ioWrite32 addr word).regs aesKupWr = dev.regs aesKupWr :=
  Device.regs_writes_of_notMem apart dev

/-- A push leaves the window alone. -/
theorem kupWr_push (x : Xfer) (addr : Ptr) (len : Nat) (notify : Byte) (dev : Csu) :
    (push board img env x addr len notify dev).1.regs aesKupWr = dev.regs aesKupWr := by
  have sent : (zynqmpCsudmaTransfer (env.dmaVa x) .src (virtToPhys board img addr) len notify
      dev).1.regs aesKupWr = dev.regs aesKupWr := by
    unfold zynqmpCsudmaTransfer
    split_ifs
    · rfl
    · rfl
    · rfl
    · exact Device.regs_writes_of_notMem (show aesKupWr ∉ transferRegs by decide) dev
  unfold push
  dsimp only
  split
  · exact sent
  · unfold zynqmpCsudmaSync
    split_ifs
    · exact sent
    · exact (kupWr_write (by decide) _ _).trans sent
    · exact sent

theorem kupWr_unprepare (va : Bool) (dev : Csu) :
    (zynqmpCsudmaUnprepare va .src dev).1.regs aesKupWr = dev.regs aesKupWr := by
  unfold zynqmpCsudmaUnprepare
  split
  · rfl
  · exact kupWr_write (by decide) _ _

theorem pushThen_passed {x : Xfer} {addr : Ptr} {len : Nat}
    (through : passes board img env x addr len) (notify : Byte)
    (next : Csu → Csu × Option TeeResult) (dev : Csu) :
    pushThen board img env x addr len notify next dev =
      next (push board img env x addr len notify dev).1 := by
  unfold pushThen
  exact if_neg (not_not.mpr ((push_ret_iff ..).mpr through))

theorem kupWr_pushThen_failed {x : Xfer} {addr : Ptr} {len : Nat}
    (stopped : ¬ passes board img env x addr len) (notify : Byte)
    (next : Csu → Csu × Option TeeResult) (dev : Csu) :
    (pushThen board img env x addr len notify next dev).1.regs aesKupWr = dev.regs aesKupWr := by
  unfold pushThen
  dsimp only
  rw [if_pos fun ok => stopped ((push_ret_iff ..).mp ok)]
  exact (kupWr_unprepare ..).trans (kupWr_push ..)

/-- **The push of the secure header is reached and fails.** -/
structure HeaderFails (board : Board) (img : Image) (env : BlockEnv) (src : Ptr) (len : Nat)
    (iv : Ptr) (blockType : BlockType) : Prop where
  mapped : env.aesVa = true
  iv : passes board img env .iv iv zynqmpCsudmaMinSize
  prepared : env.prepareVa = true
  data : blockType = .dataBlock →
    passes board img env .data src len ∧ (env.pcapVa && env.pcapIdle) = true
  fails : ¬ passes board img env .hdr (src.add len) secureHdrSize

theorem header_leaves_open {src : Ptr} {len : Nat}
    (fails : ¬ passes board img env .hdr (src.add len) secureHdrSize) (tag : Ptr) (dev : Csu) :
    (aesTransferHeader board img env src len tag dev).1.regs aesKupWr =
      aesIvWrBit ||| aesKupWrBit := by
  unfold aesTransferHeader
  rw [kupWr_pushThen_failed fails, Csu.ioWrite32, Csu.ioWrites32, Device.regs_writes]
  rfl

theorem body_prepared (prepared : env.prepareVa = true) (src : Ptr) (len : Nat) (tag : Ptr)
    (blockType : BlockType) (dev : Csu) :
    aesTransferBody board img env src len tag blockType dev =
      aesTransferImage board img env src len tag blockType
        (dev.ioSetbits32 Channel.src.ctrl csudmaCtrlEndianMask) := by
  simp [aesTransferBody, zynqmpCsudmaPrepare, prepared]

/-- A call whose secure header fails leaves the window open. -/
theorem HeaderFails.leaves_open {src : Ptr} {len : Nat} {iv : Ptr} {blockType : BlockType}
    (fails : HeaderFails board img env src len iv blockType) (tag : Ptr) (dev : Csu) :
    (aesTransferDec board img env src len tag iv blockType dev).1.regs aesKupWr =
      aesIvWrBit ||| aesKupWrBit := by
  unfold aesTransferDec
  rw [fails.mapped, if_neg (by decide), pushThen_passed fails.iv, body_prepared fails.prepared]
  cases blockType with
  | secureHeader => exact header_leaves_open fails.fails tag _
  | dataBlock =>
    obtain ⟨through, idle⟩ := fails.data rfl
    rw [aesTransferImage, pushThen_passed through, if_pos idle]
    exact header_leaves_open fails.fails tag _

/-! #### What is launched stays launched -/

/-- A piece that only adds launches. -/
def Grows {α : Type} (f : Csu → Csu × α) : Prop := ∀ dev, dev.started <+: (f dev).1.started

theorem started_write (addr : Nat) (word : Word) (dev : Csu) :
    dev.started <+: (dev.ioWrite32 addr word).started :=
  Device.started_writes_prefix _ dev

theorem grows_sync (va : Bool) (iSts : List Word) : Grows (zynqmpCsudmaSync va .src iSts) := by
  intro dev
  unfold zynqmpCsudmaSync
  split_ifs
  · exact List.prefix_rfl
  · exact started_write ..
  · exact List.prefix_rfl

theorem grows_push (x : Xfer) (addr : Ptr) (len : Nat) (notify : Byte) :
    Grows (push board img env x addr len notify) := by
  intro dev
  have sent : dev.started <+: (zynqmpCsudmaTransfer (env.dmaVa x) .src (virtToPhys board img addr)
      len notify dev).1.started := by
    unfold zynqmpCsudmaTransfer
    split_ifs
    · exact List.prefix_rfl
    · exact List.prefix_rfl
    · exact List.prefix_rfl
    · exact Device.started_writes_prefix _ dev
  unfold push
  dsimp only
  split
  · exact sent
  · exact sent.trans (grows_sync _ _ _)

theorem grows_out (ret : TeeResult) : Grows fun dev => aesTransferOut env dev ret := by
  intro dev
  unfold aesTransferOut zynqmpCsudmaUnprepare
  dsimp only
  split
  · exact List.prefix_rfl
  · exact started_write ..

theorem started_pushThen (x : Xfer) (addr : Ptr) (len : Nat) (notify : Byte)
    {next : Csu → Csu × Option TeeResult} (rest : Grows next) (dev : Csu) :
    (push board img env x addr len notify dev).1.started <+:
      (pushThen board img env x addr len notify next dev).1.started := by
  unfold pushThen
  dsimp only
  split
  · exact grows_out _ _
  · exact rest _

theorem grows_pushThen (x : Xfer) (addr : Ptr) (len : Nat) (notify : Byte)
    {next : Csu → Csu × Option TeeResult} (rest : Grows next) :
    Grows (pushThen board img env x addr len notify next) := fun dev =>
  (grows_push x addr len notify dev).trans (started_pushThen x addr len notify rest dev)

theorem grows_header (src : Ptr) (len : Nat) (tag : Ptr) :
    Grows (aesTransferHeader board img env src len tag) := by
  intro dev
  have tagged : Grows fun dev : Csu => pushThen board img env .tag tag zynqmpGcmTagSize 0
      (fun dev => aesTransferOut env dev
        (if env.aesSts &&& aesStsGcmTagOk = 0#32 then teeErrorGeneric else teeSuccess))
      (dev.ioWrite32 aesKupWr 0#32) := fun dev =>
    (started_write ..).trans (grows_pushThen .tag tag zynqmpGcmTagSize 0 (grows_out _) _)
  exact (started_write ..).trans (grows_pushThen .hdr (src.add len) secureHdrSize 1 tagged _)

theorem grows_body (src : Ptr) (len : Nat) (tag : Ptr) (blockType : BlockType) :
    Grows (aesTransferBody board img env src len tag blockType) := by
  have image : Grows (aesTransferImage board img env src len tag blockType) := by
    cases blockType with
    | secureHeader => exact grows_header src len tag
    | dataBlock =>
      refine grows_pushThen .data src len 0 fun dev => ?_
      split
      · exact grows_header src len tag dev
      · exact List.prefix_rfl
  intro dev
  have prepared : dev.started <+: (zynqmpCsudmaPrepare env.prepareVa .src dev).1.started := by
    unfold zynqmpCsudmaPrepare
    split
    · exact List.prefix_rfl
    · exact started_write ..
  unfold aesTransferBody
  dsimp only
  split
  · exact prepared
  · exact prepared.trans (image _)

/-- The IV of a block goes out with the window as the call finds it. -/
theorem ivLaunch {iv : Ptr} (mapped : env.aesVa = true)
    (accepted : accepts board img env .iv iv zynqmpCsudmaMinSize = true) (src : Ptr) (len : Nat)
    (tag : Ptr) (blockType : BlockType) (dev : Csu) :
    ∃ launch ∈ (aesTransferDec board img env src len tag iv blockType dev).1.started.drop
      dev.started.length,
      (Regs.descriptor launch).last = false ∧ launch aesKupWr = dev.regs aesKupWr := by
  set started := dev.ioWrite32 aesStartMsg 1#32
  set sent := started.ioWrites32
    (transferWrites .src (virtToPhys board img iv) zynqmpCsudmaMinSize 0)
  have launched : dev.started ++ [sent.regs] <+:
      (push board img env .iv iv zynqmpCsudmaMinSize 0 started).1.started := by
    simp only [accepts, Bool.and_eq_true, beq_iff_eq] at accepted
    have transfer : zynqmpCsudmaTransfer (env.dmaVa .iv) .src (virtToPhys board img iv)
        zynqmpCsudmaMinSize 0 started = (sent, teeSuccess) := by
      simp [zynqmpCsudmaTransfer, accepted, sent]
    have rung : sent.started = dev.started ++ [sent.regs] := started_transfer ..
    unfold push
    rw [transfer, if_neg (not_not.mpr rfl), ← rung]
    exact grows_sync _ _ sent
  have all : dev.started ++ [sent.regs] <+:
      (aesTransferDec board img env src len tag iv blockType dev).1.started := by
    unfold aesTransferDec
    rw [mapped, if_neg (by decide)]
    exact launched.trans (started_pushThen .iv iv zynqmpCsudmaMinSize 0
      (grows_body src len tag blockType) started)
  obtain ⟨rest, all⟩ := all
  refine ⟨sent.regs, ?_, ?_, ?_⟩
  · rw [← all, List.append_assoc, List.drop_left]
    exact List.mem_cons_self
  · exact last_transfer _ (by decide) 0 started
  · exact (Device.regs_writes_of_notMem (show aesKupWr ∉ transferRegs by decide) started).trans
      (kupWr_write (by decide) _ dev)

end Leak

/-! ### The loop goes on -/

section Loop

variable {board : Board} {img : Image} {env : CmdEnv} {c next : Cursor}

variable (board img env) in
/-- The decrypt call of a round. -/
def Cursor.call (c : Cursor) : Csu × Option TeeResult :=
  zynqmpCsuAesDecryptData board img (env.block c.block) (some c.encStartAddr) c.nextBlkLen.toNat
    (some c.tagAddr) c.bsIv c.blockType c.dev

theorem decryptData_state {env : BlockEnv} (src : Ptr) (len : Nat) (tag iv : Ptr)
    (blockType : BlockType) (dev : Csu) :
    (zynqmpCsuAesDecryptData board img env (some src) len (some tag) (some iv) blockType dev).1 =
      (aesTransferDec board img env src len tag iv blockType dev).1 := by
  unfold zynqmpCsuAesDecryptData
  dsimp only
  split <;> rfl

/-- What a round that goes on leaves behind. -/
theorem dev_of_again (goesOn : blockRound board img env c = .again next) :
    next.dev = (c.call board img env).1.ioWrite32 aesKeyLoad 1#32 ∧
      next.bsIv = some ⟨.aesIv, 0⟩ := by
  unfold blockRound at goesOn
  unfold Cursor.call
  dsimp only at goesOn
  generalize zynqmpCsuAesDecryptData board img (env.block c.block) (some c.encStartAddr)
    c.nextBlkLen.toNat (some c.tagAddr) c.bsIv c.blockType c.dev = made at goesOn ⊢
  obtain ⟨dev, ret⟩ := made
  cases ret with
  | none => cases goesOn
  | some ret =>
    dsimp only at goesOn
    split_ifs at goesOn
    cases goesOn
    exact ⟨rfl, rfl⟩

/-- **A failed secure header opens the next block**: the IV of the next block is launched with the
key and IV registers open, although it ends no message. -/
theorem failedHeader_leaks {iv : Ptr} (goesOn : blockRound board img env c = .again next)
    (pushed : c.bsIv = some iv)
    (fails : HeaderFails board img (env.block c.block) c.encStartAddr c.nextBlkLen.toNat iv
      c.blockType)
    (mapped : (env.block next.block).aesVa = true)
    (dma : (env.block next.block).dmaVa .iv = true) :
    ∃ launch ∈ (next.call board img env).1.started.drop next.dev.started.length,
      (Regs.descriptor launch).last = false ∧ launch aesKupWr = aesIvWrBit ||| aesKupWrBit := by
  obtain ⟨left, register⟩ := dev_of_again goesOn
  have opened : next.dev.regs aesKupWr = aesIvWrBit ||| aesKupWrBit := by
    rw [left, kupWr_write (by decide), Cursor.call, pushed, decryptData_state]
    exact fails.leaves_open _ _
  have accepted : accepts board img (env.block next.block) .iv ⟨.aesIv, 0⟩ zynqmpCsudmaMinSize =
      true := by
    simp [accepts, dma, virtToPhys, aesIv0Phys, zynqmpCsudmaMinSize]
  rw [Cursor.call, register, decryptData_state, ← opened]
  exact ivLaunch mapped accepted ..

/-- The DMA never reports the first secure header as done. -/
def lateHeader : CmdEnv := CmdEnv.passing fun
  | 0 => { BlockEnv.passing 0x02000000#32 with
      iSts := fun x => if x = .hdr then [] else [csudmaIxrDoneMask] }
  | _ => BlockEnv.passing 0#32

/-- The first round of a load on it. -/
def lateHeaderRound : Cursor :=
  firstCursor oneBlockImage lateHeader ⟨⟨fun _ => 0#32, [], []⟩, some ⟨.ivArr, 0⟩⟩

theorem failedHeader_leaks_lateHeader :
    ∃ next, blockRound Board.mapped oneBlockImage lateHeader lateHeaderRound = .again next ∧
      ∃ launch ∈ (next.call Board.mapped oneBlockImage lateHeader).1.started.drop
        next.dev.started.length,
        (Regs.descriptor launch).last = false ∧ launch aesKupWr = aesIvWrBit ||| aesKupWrBit := by
  have fails : HeaderFails Board.mapped oneBlockImage (lateHeader.block 0)
      lateHeaderRound.encStartAddr 0 ⟨.ivArr, 0⟩ .secureHeader :=
    ⟨rfl, ⟨rfl, rfl⟩, rfl, nofun, by unfold passes; decide⟩
  exact ⟨_, rfl, failedHeader_leaks (c := lateHeaderRound) rfl rfl fails rfl rfl⟩

end Loop

end TrustzoneWatchdog.Loader.Mmio
