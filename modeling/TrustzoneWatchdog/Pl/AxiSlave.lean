/-
**The register interface of the watchdog** (`pl/tmr_wdt_v1_0_S00_AXI.v`).

The AXI4-Lite slave around the core, with `C_S_AXI_DATA_WIDTH = 32` and `C_S_AXI_ADDR_WIDTH = 5`.
Each `always` block of the source is one function of the registers and the inputs of a clock, and
`AxiSlave.clock` is the rising edge that applies them all. The eight slave registers are one family
indexed by the three address bits the `case` statements decode. `S_AXI_AWPROT` and `S_AXI_ARPROT`
are not read by the source and are left out.

| register | word | |
|---|---|---|
| `CTRL` | 0 | bit 0 is `EN` |
| `RELOAD` | 1 | clocks to a timeout; `0` stands for `100_000_000` |
| `KICK` | 2 | writing bits 0, 1, 2 kicks dogs A, B, C |
| `STATUS` | 3 | read only: `to_A`, `to_B`, `to_C`, `maj_2of3`, `all_3` |
| `CNT_A`, `CNT_B`, `CNT_C` | 4, 5, 6 | read only: the counters |
-/

import TrustzoneWatchdog.Pl.Core

namespace TrustzoneWatchdog.Pl

open TrustzoneWatchdog.Lib.Clocked TrustzoneWatchdog.Lib.Countdown

/-- The inputs of the slave in one clock. -/
structure AxiInput where
  aresetn : Bool
  awaddr : BitVec 5
  awvalid : Bool
  wdata : BitVec 32
  wstrb : BitVec 4
  wvalid : Bool
  bready : Bool
  araddr : BitVec 5
  arvalid : Bool
  rready : Bool
  deriving DecidableEq, Repr

/-- The registers of the slave and of the core inside it. -/
structure AxiSlave where
  axiAwaddr : BitVec 5
  axiAwready : Bool
  axiWready : Bool
  axiBresp : BitVec 2
  axiBvalid : Bool
  axiAraddr : BitVec 5
  axiArready : Bool
  axiRdata : BitVec 32
  axiRresp : BitVec 2
  axiRvalid : Bool
  awEn : Bool
  slvReg : BitVec 3 → BitVec 32
  core : Core 32

/-- The bits of an address that select a register: `[ADDR_LSB+OPT_MEM_ADDR_BITS:ADDR_LSB]`. -/
def select (addr : BitVec 5) : BitVec 3 := addr.extractLsb' 2 3

/-- One byte lane: taken from `data` where its strobe is set, kept from `old` elsewhere. -/
def byteLane (old data : BitVec 32) (strobe : BitVec 4) (byteIndex : Nat) : BitVec 8 :=
  (if strobe.getLsbD byteIndex then data else old).extractLsb' (8 * byteIndex) 8

/-- The byte-strobed write of one slave register. -/
def strobed (old data : BitVec 32) (strobe : BitVec 4) : BitVec 32 :=
  byteLane old data strobe 3 ++ byteLane old data strobe 2 ++ byteLane old data strobe 1 ++
    byteLane old data strobe 0

/-- One byte of a word. -/
def lane (word : BitVec 32) (byteIndex : Nat) : BitVec 8 := word.extractLsb' (8 * byteIndex) 8

/-- The bit of a dog in `KICK`. -/
def Dog.bit : Dog → Nat
  | .a => 0
  | .b => 1
  | .c => 2

/-! ### Bytes of a word -/

/-- The bits of four bytes put together. -/
theorem getLsbD_lanes (lanes : Nat → BitVec 8) {byteIndex bit : Nat} (bound : byteIndex < 4)
    (low : bit < 8) :
    (lanes 3 ++ lanes 2 ++ lanes 1 ++ lanes 0).getLsbD (8 * byteIndex + bit) =
      (lanes byteIndex).getLsbD bit := by
  rw [BitVec.getLsbD_append, BitVec.getLsbD_append, BitVec.getLsbD_append]
  split_ifs with first second third
  · obtain rfl : byteIndex = 0 := by omega
    rw [Nat.mul_zero, Nat.zero_add]
  · obtain rfl : byteIndex = 1 := by omega
    rw [show 8 * 1 + bit - 8 = bit by omega]
  · obtain rfl : byteIndex = 2 := by omega
    rw [show 8 * 2 + bit - 8 - 8 = bit by omega]
  · obtain rfl : byteIndex = 3 := by omega
    rw [show 8 * 3 + bit - 8 - 8 - 8 = bit by omega]

/-- The bytes of four bytes put together. -/
theorem lane_lanes (lanes : Nat → BitVec 8) {byteIndex : Nat} (bound : byteIndex < 4) :
    lane (lanes 3 ++ lanes 2 ++ lanes 1 ++ lanes 0) byteIndex = lanes byteIndex := by
  apply BitVec.eq_of_getLsbD_eq
  intro bit low
  rw [lane, BitVec.getLsbD_extractLsb', getLsbD_lanes lanes bound low]
  simp only [low, decide_true, Bool.true_and]

/-- The lanes of a strobed write are independent. -/
theorem lane_strobed (old data : BitVec 32) (strobe : BitVec 4) {byteIndex : Nat}
    (bound : byteIndex < 4) :
    lane (strobed old data strobe) byteIndex =
      if strobe.getLsbD byteIndex then lane data byteIndex else lane old byteIndex := by
  rw [strobed, lane_lanes (byteLane old data strobe) bound, byteLane]
  split <;> rfl

namespace AxiSlave

/-! ### The user logic -/

/-- `CTRL.EN`. -/
def enable (s : AxiSlave) : Bool := (s.slvReg 0).getLsbD 0

/-- The reload value in force: `RELOAD`, or one second at 100 MHz when it is zero. -/
def reloadEff (s : AxiSlave) : BitVec 32 :=
  if s.slvReg 1 ≠ 0 then s.slvReg 1 else 100_000_000

def slvRegWren (s : AxiSlave) (i : AxiInput) : Bool :=
  s.axiWready && i.wvalid && s.axiAwready && i.awvalid

/-- The clock in which `KICK` is written. -/
def reg2Wr (s : AxiSlave) (i : AxiInput) : Bool :=
  s.slvRegWren i && select s.axiAwaddr == 2

/-- The inputs the core sees. -/
def coreInput (s : AxiSlave) (i : AxiInput) : CoreInput 32 where
  rstn := i.aresetn
  enable := s.enable
  reloadVal := s.reloadEff
  kickA := s.reg2Wr i && i.wdata.getLsbD 0
  kickB := s.reg2Wr i && i.wdata.getLsbD 1
  kickC := s.reg2Wr i && i.wdata.getLsbD 2

/-- The kick wire of a dog. -/
def kick (s : AxiSlave) (i : AxiInput) (dog : Dog) : Bool := (s.coreInput i).kick dog

theorem kick_eq (s : AxiSlave) (i : AxiInput) (dog : Dog) :
    s.kick i dog = (s.reg2Wr i && i.wdata.getLsbD dog.bit) := by
  cases dog <;> rfl

/-- The timeout wire of a dog. -/
def timedOut (s : AxiSlave) (i : AxiInput) (dog : Dog) : Bool :=
  s.core.timedOut (s.coreInput i) dog

def maj2of3 (s : AxiSlave) (i : AxiInput) : Bool := s.core.maj2of3 (s.coreInput i)

def all3 (s : AxiSlave) (i : AxiInput) : Bool := s.core.all3 (s.coreInput i)

/-- The live `STATUS` word `{27'd0, all_3, maj_2of3, to_c, to_b, to_a}`. -/
def status (s : AxiSlave) (i : AxiInput) : BitVec 32 :=
  0#27 ++ BitVec.ofBool (s.all3 i) ++ BitVec.ofBool (s.maj2of3 i) ++
    BitVec.ofBool (s.timedOut i .c) ++ BitVec.ofBool (s.timedOut i .b) ++
      BitVec.ofBool (s.timedOut i .a)

/-! ### The write channel -/

/-- `axi_awready` and `aw_en` after the edge. -/
def awNext (s : AxiSlave) (i : AxiInput) : Bool × Bool :=
  if !i.aresetn then (false, true)
  else if !s.axiAwready && i.awvalid && i.wvalid && s.awEn then (true, false)
  else if i.bready && s.axiBvalid then (false, true)
  else (false, s.awEn)

def awaddrNext (s : AxiSlave) (i : AxiInput) : BitVec 5 :=
  if !i.aresetn then 0
  else if !s.axiAwready && i.awvalid && i.wvalid && s.awEn then i.awaddr
  else s.axiAwaddr

def wreadyNext (s : AxiSlave) (i : AxiInput) : Bool :=
  if !i.aresetn then false
  else !s.axiWready && i.wvalid && i.awvalid && s.awEn

/-- The slave registers after the edge: at most the selected one changes. -/
def slvRegNext (s : AxiSlave) (i : AxiInput) : BitVec 3 → BitVec 32 := fun index =>
  if !i.aresetn then 0
  else if s.slvRegWren i && index == select s.axiAwaddr then
    strobed (s.slvReg index) i.wdata i.wstrb
  else s.slvReg index

/-- `axi_bvalid` and `axi_bresp` after the edge. -/
def bNext (s : AxiSlave) (i : AxiInput) : Bool × BitVec 2 :=
  if !i.aresetn then (false, 0)
  else if s.axiAwready && i.awvalid && !s.axiBvalid && s.axiWready && i.wvalid then (true, 0)
  else if i.bready && s.axiBvalid then (false, s.axiBresp)
  else (s.axiBvalid, s.axiBresp)

/-! ### The read channel -/

/-- `axi_arready` and `axi_araddr` after the edge. -/
def arNext (s : AxiSlave) (i : AxiInput) : Bool × BitVec 5 :=
  if !i.aresetn then (false, 0)
  else if !s.axiArready && i.arvalid then (true, i.araddr)
  else (false, s.axiAraddr)

/-- `axi_rvalid` and `axi_rresp` after the edge. -/
def rNext (s : AxiSlave) (i : AxiInput) : Bool × BitVec 2 :=
  if !i.aresetn then (false, 0)
  else if s.axiArready && i.arvalid && !s.axiRvalid then (true, 0)
  else if s.axiRvalid && i.rready then (false, s.axiRresp)
  else (s.axiRvalid, s.axiRresp)

def slvRegRden (s : AxiSlave) (i : AxiInput) : Bool :=
  s.axiArready && i.arvalid && !s.axiRvalid

/-- The word at the latched read address. -/
def regDataOut (s : AxiSlave) (i : AxiInput) : BitVec 32 :=
  match (select s.axiAraddr).toNat with
  | 0 => s.slvReg 0
  | 1 => s.slvReg 1
  | 2 => s.slvReg 2
  | 3 => s.status i
  | 4 => s.core.counterA
  | 5 => s.core.counterB
  | 6 => s.core.counterC
  | _ => s.slvReg 7

def rdataNext (s : AxiSlave) (i : AxiInput) : BitVec 32 :=
  if !i.aresetn then 0
  else if s.slvRegRden i then s.regDataOut i
  else s.axiRdata

/-! ### One clock -/

/-- One rising edge of `S_AXI_ACLK`. -/
def clock (s : AxiSlave) (i : AxiInput) : AxiSlave where
  axiAwaddr := s.awaddrNext i
  axiAwready := (s.awNext i).1
  axiWready := s.wreadyNext i
  axiBresp := (s.bNext i).2
  axiBvalid := (s.bNext i).1
  axiAraddr := (s.arNext i).2
  axiArready := (s.arNext i).1
  axiRdata := s.rdataNext i
  axiRresp := (s.rNext i).2
  axiRvalid := (s.rNext i).1
  awEn := (s.awNext i).2
  slvReg := s.slvRegNext i
  core := s.core.clock (s.coreInput i)

/-- The states a reset clock can leave behind, whatever was in the registers before it. -/
def AfterReset (s : AxiSlave) : Prop :=
  ∃ before i, i.aresetn = false ∧ s = clock before i

/-- The state a reset clock leaves. -/
def resetState : AxiSlave :=
  clock ⟨0, false, false, 0, false, 0, false, 0, 0, false, false, fun _ => 0, ⟨0, 0, 0⟩⟩
    ⟨false, 0, false, 0, 0, false, false, 0, false, false⟩

theorem afterReset_resetState : resetState.AfterReset := ⟨_, _, rfl, rfl⟩

/-- After a reset clock the write channel is idle and every slave register is zero. -/
theorem AfterReset.cleared {s : AxiSlave} (reset : s.AfterReset) :
    s.axiAwready = false ∧ s.axiWready = false ∧ s.axiBvalid = false ∧ s.awEn = true ∧
      s.slvReg = fun _ => 0 := by
  obtain ⟨before, i, low, rfl⟩ := reset
  refine ⟨?_, ?_, ?_, ?_, ?_⟩
  · simp [clock, awNext, low]
  · simp [clock, wreadyNext, low]
  · simp [clock, bNext, low]
  · simp [clock, awNext, low]
  · funext index
    simp [clock, slvRegNext, low]

/-- After a reset clock the read channel is idle. -/
theorem AfterReset.readIdle {s : AxiSlave} (reset : s.AfterReset) :
    s.axiArready = false ∧ s.axiRvalid = false := by
  obtain ⟨before, i, low, rfl⟩ := reset
  simp [clock, arNext, rNext, low]

theorem AfterReset.disabled {s : AxiSlave} (reset : s.AfterReset) : s.enable = false := by
  obtain ⟨_, _, _, _, cleared⟩ := reset.cleared
  rw [enable, cleared]
  decide

/-- The effective reload value is never zero. -/
theorem reloadEff_pos (s : AxiSlave) : 1 ≤ s.reloadEff.toNat := by
  unfold reloadEff
  split
  · rename_i nonzero
    rw [Nat.one_le_iff_ne_zero]
    exact fun zero => nonzero (BitVec.eq_of_toNat_eq (by simpa using zero))
  · decide

/-- In every run each counter runs down between the loads of its own dog. -/
theorem runsDown_counter (start : AxiSlave) (input : Nat → AxiInput) (dog : Dog) :
    RunsDown (fun n => (stateAt clock start input n).core.counter dog)
      (fun n => ((stateAt clock start input n).coreInput (input n)).load dog) := by
  intro n
  exact Core.clock_counter _ _ dog

end AxiSlave

end TrustzoneWatchdog.Pl
