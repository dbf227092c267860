/-
**Monitoring does not disturb the watchdog.**

Two runs of the slave from one state are compared clock by clock. `AgreeOn regs` says that two
states have the same write channel, the same core, and the same contents in the slave registers
`regs`. The core is controlled by `CTRL`, `RELOAD` and `KICK` alone, so `regs` may leave out any of
the others.

* `AgreeOn.clock`: one clock keeps the agreement, if both inputs make the same write requests and
  carry the same data wherever a register of `regs` is written.
* `agreeOn_stateAt`: so does a run.
* `nonInterference`: reads change nothing but the read channel (all registers agree), and what is
  written to `0x0C` … `0x1C` reaches none of the words from `CTRL` to `CNT_C` (the control registers
  agree).
-/

import TrustzoneWatchdog.Pl.Kick
import TrustzoneWatchdog.Pl.ReadChannel
import Mathlib.Data.Set.Basic

namespace TrustzoneWatchdog.Pl

open TrustzoneWatchdog.Lib.Clocked

/-- The registers that control the core: `CTRL`, `RELOAD` and `KICK`. -/
def controlRegs : Set (BitVec 3) := {index | index < select 0x0C}

/-- Two inputs make the same requests to the write channel, in or out of reset. -/
structure AxiInput.SameRequests (i i' : AxiInput) : Prop where
  aresetn : i.aresetn = i'.aresetn
  awaddr : i.awaddr = i'.awaddr
  awvalid : i.awvalid = i'.awvalid
  wvalid : i.wvalid = i'.wvalid
  bready : i.bready = i'.bready

namespace AxiSlave

/-- Two states with the same write channel and core, and the same contents of some registers. -/
structure AgreeOn (regs : Set (BitVec 3)) (s s' : AxiSlave) : Prop where
  awaddr : s.axiAwaddr = s'.axiAwaddr
  awready : s.axiAwready = s'.axiAwready
  wready : s.axiWready = s'.axiWready
  bresp : s.axiBresp = s'.axiBresp
  bvalid : s.axiBvalid = s'.axiBvalid
  awEn : s.awEn = s'.awEn
  slvReg : ∀ index ∈ regs, s.slvReg index = s'.slvReg index
  core : s.core = s'.core

/-- Where the clock writes a register of `regs`, both inputs carry the same data and strobes. -/
def SameDataOn (regs : Set (BitVec 3)) (s : AxiSlave) (i i' : AxiInput) : Prop :=
  s.acceptsWrite i = true → select s.axiAwaddr ∈ regs → i.wdata = i'.wdata ∧ i.wstrb = i'.wstrb

theorem AgreeOn.refl (regs : Set (BitVec 3)) (s : AxiSlave) : AgreeOn regs s s :=
  ⟨rfl, rfl, rfl, rfl, rfl, rfl, fun _ _ => rfl, rfl⟩

/-! ### What the core makes of a state -/

/-- A timeout depends on the core and on `EN`. -/
theorem timedOut_eq (s : AxiSlave) (i : AxiInput) (dog : Dog) :
    s.timedOut i dog = (s.enable && s.core.counter dog == 0) := by
  cases dog <;> rfl

/-- The words by their address. -/
theorem wordAt_eq (s : AxiSlave) (i : AxiInput) (addr : BitVec 5) :
    s.wordAt i addr =
      match (select addr).toNat with
      | 0 => s.slvReg 0
      | 1 => s.slvReg 1
      | 2 => s.slvReg 2
      | 3 => s.status i
      | 4 => s.core.counterA
      | 5 => s.core.counterB
      | 6 => s.core.counterC
      | _ => s.slvReg 7 := rfl

section Agree

variable {regs : Set (BitVec 3)} {s s' : AxiSlave} {i i' : AxiInput}

theorem AgreeOn.control (agree : AgreeOn regs s s') (controls : controlRegs ⊆ regs) :
    s.slvReg 0 = s'.slvReg 0 ∧ s.slvReg 1 = s'.slvReg 1 ∧ s.slvReg 2 = s'.slvReg 2 :=
  ⟨agree.slvReg 0 (controls (by unfold controlRegs; decide)),
    agree.slvReg 1 (controls (by unfold controlRegs; decide)),
    agree.slvReg 2 (controls (by unfold controlRegs; decide))⟩

theorem AgreeOn.enable (agree : AgreeOn regs s s') (controls : controlRegs ⊆ regs) :
    s.enable = s'.enable := by
  unfold AxiSlave.enable
  rw [(agree.control controls).1]

theorem AgreeOn.timedOut (agree : AgreeOn regs s s') (controls : controlRegs ⊆ regs)
    (i i' : AxiInput) (dog : Dog) : s.timedOut i dog = s'.timedOut i' dog := by
  rw [timedOut_eq, timedOut_eq, agree.enable controls, agree.core]

/-- The alarms of two states that agree are the same, whatever the inputs are. -/
theorem AgreeOn.alarms (agree : AgreeOn regs s s') (controls : controlRegs ⊆ regs)
    (i i' : AxiInput) : s.all3 i = s'.all3 i' ∧ s.maj2of3 i = s'.maj2of3 i' := by
  have timeout := agree.timedOut controls i i'
  have a : s.core.toA (s.coreInput i) = s'.core.toA (s'.coreInput i') := timeout .a
  have b : s.core.toB (s.coreInput i) = s'.core.toB (s'.coreInput i') := timeout .b
  have c : s.core.toC (s.coreInput i) = s'.core.toC (s'.coreInput i') := timeout .c
  unfold AxiSlave.all3 AxiSlave.maj2of3 Core.all3 Core.maj2of3
  rw [a, b, c]
  exact ⟨rfl, rfl⟩

/-- So is every word that can be read, `0x1C` apart. -/
theorem AgreeOn.wordAt (agree : AgreeOn regs s s') (controls : controlRegs ⊆ regs)
    (i i' : AxiInput) {addr : BitVec 5} (below : select addr < select 0x1C) :
    s.wordAt i addr = s'.wordAt i' addr := by
  obtain ⟨ctrl, reload, kick⟩ := agree.control controls
  have status : s.status i = s'.status i' := by
    have alarms := agree.alarms controls i i'
    have timeout := agree.timedOut controls i i'
    unfold AxiSlave.status
    rw [alarms.1, alarms.2, timeout .a, timeout .b, timeout .c]
  have below : (select addr).toNat < 7 := below
  rw [wordAt_eq, wordAt_eq, ctrl, reload, kick, status, agree.core]
  generalize (select addr).toNat = word at below ⊢
  match word, below with
  | 0, _ | 1, _ | 2, _ | 3, _ | 4, _ | 5, _ | 6, _ => rfl
  | word + 7, below => exact absurd below (by omega)

/-! ### One clock -/

theorem AgreeOn.slvRegWren (agree : AgreeOn regs s s') (requests : i.SameRequests i') :
    s.slvRegWren i = s'.slvRegWren i' := by
  unfold AxiSlave.slvRegWren
  rw [agree.wready, requests.wvalid, agree.awready, requests.awvalid]

theorem AgreeOn.reloadEff (agree : AgreeOn regs s s') (controls : controlRegs ⊆ regs) :
    s.reloadEff = s'.reloadEff := by
  unfold AxiSlave.reloadEff
  rw [(agree.control controls).2.1]

/-- A write to a register of `regs` that is performed carries the same data in both runs. -/
theorem SameDataOn.of_wren (data : SameDataOn regs s i i') (active : i.aresetn = true)
    (written : s.slvRegWren i = true) (listed : select s.axiAwaddr ∈ regs) :
    i.wdata = i'.wdata ∧ i.wstrb = i'.wstrb := by
  refine data ?_ listed
  rw [acceptsWrite, Bool.and_assoc, ← slvRegWren_eq, active, written]
  rfl

/-- Out of reset the core sees the same inputs: a kick is a write to `KICK`. -/
theorem AgreeOn.coreInput (agree : AgreeOn regs s s') (controls : controlRegs ⊆ regs)
    (requests : i.SameRequests i') (data : SameDataOn regs s i i') (active : i.aresetn = true) :
    s.coreInput i = s'.coreInput i' := by
  have written : s.reg2Wr i = s'.reg2Wr i' := by
    unfold reg2Wr
    rw [agree.slvRegWren requests, agree.awaddr]
  have kicks (bit : Nat) : (s.reg2Wr i && i.wdata.getLsbD bit) =
      (s'.reg2Wr i' && i'.wdata.getLsbD bit) := by
    rw [← written]
    cases here : s.reg2Wr i with
    | false => rfl
    | true =>
      rw [reg2Wr, Bool.and_eq_true, beq_iff_eq] at here
      have kickReg : select s.axiAwaddr ∈ controlRegs := by
        rw [here.2]
        unfold controlRegs
        decide
      rw [(data.of_wren active here.1 (controls kickReg)).1]
  unfold AxiSlave.coreInput
  rw [requests.aresetn, agree.enable controls, agree.reloadEff controls, kicks 0, kicks 1, kicks 2]

/-- In reset every counter is loaded, kicked or not. -/
theorem clock_core_of_reset (reset : i.aresetn = false) :
    (s.clock i).core = ⟨s.reloadEff, s.reloadEff, s.reloadEff⟩ := by
  simp [AxiSlave.clock, AxiSlave.coreInput, Core.clock, counterNext, reset]

/-- **One clock keeps the agreement.** -/
theorem AgreeOn.clock (agree : AgreeOn regs s s') (controls : controlRegs ⊆ regs)
    (requests : i.SameRequests i') (data : SameDataOn regs s i i') :
    AgreeOn regs (s.clock i) (s'.clock i') := by
  have aw : s.awNext i = s'.awNext i' := by
    unfold awNext
    rw [requests.aresetn, agree.awready, requests.awvalid, requests.wvalid, agree.awEn,
      requests.bready, agree.bvalid]
  have awaddr : s.awaddrNext i = s'.awaddrNext i' := by
    unfold awaddrNext
    rw [requests.aresetn, agree.awready, requests.awvalid, requests.wvalid, agree.awEn,
      requests.awaddr, agree.awaddr]
  have wready : s.wreadyNext i = s'.wreadyNext i' := by
    unfold wreadyNext
    rw [requests.aresetn, agree.wready, requests.awvalid, requests.wvalid, agree.awEn]
  have b : s.bNext i = s'.bNext i' := by
    unfold bNext
    rw [requests.aresetn, agree.awready, requests.awvalid, agree.bvalid, agree.wready,
      requests.wvalid, requests.bready, agree.bresp]
  refine ⟨awaddr, congrArg Prod.fst aw, wready, congrArg Prod.snd b, congrArg Prod.fst b,
    congrArg Prod.snd aw, fun index listed => ?_, ?_⟩
  · show s.slvRegNext i index = s'.slvRegNext i' index
    unfold slvRegNext
    rw [← requests.aresetn, ← agree.slvRegWren requests, ← agree.awaddr, agree.slvReg index listed]
    cases active : i.aresetn with
    | false => rw [Bool.not_false, if_pos rfl, if_pos rfl]
    | true =>
      cases here : s.slvRegWren i && index == select s.axiAwaddr with
      | false => rw [if_neg Bool.false_ne_true, if_neg Bool.false_ne_true]
      | true =>
        rw [Bool.and_eq_true, beq_iff_eq] at here
        have same := data.of_wren active here.1 (here.2 ▸ listed)
        rw [same.1, same.2]
  · cases active : i.aresetn with
    | true =>
      show s.core.clock (s.coreInput i) = s'.core.clock (s'.coreInput i')
      rw [agree.coreInput controls requests data active, agree.core]
    | false =>
      rw [clock_core_of_reset active, clock_core_of_reset (requests.aresetn ▸ active),
        agree.reloadEff controls]

end Agree

/-! ### Two runs -/

/-- Two inputs that differ in the read channel only. -/
def ReadsDiffer (i i' : AxiInput) : Prop :=
  i' = { i with araddr := i'.araddr, arvalid := i'.arvalid, rready := i'.rready }

/-- Two inputs that differ in the write data and strobes only. -/
def DataDiffers (i i' : AxiInput) : Prop := i' = { i with wdata := i'.wdata, wstrb := i'.wstrb }

/-- The core and the alarms are the same. -/
structure SameWatchdog (s s' : AxiSlave) (i i' : AxiInput) : Prop where
  counter : ∀ dog, s.core.counter dog = s'.core.counter dog
  all3 : s.all3 i = s'.all3 i'
  maj2of3 : s.maj2of3 i = s'.maj2of3 i'

/-- The outputs of the write channel are the same. -/
structure SameWriteOutputs (s s' : AxiSlave) : Prop where
  awready : s.axiAwready = s'.axiAwready
  wready : s.axiWready = s'.axiWready
  bvalid : s.axiBvalid = s'.axiBvalid
  bresp : s.axiBresp = s'.axiBresp

/-- The words from `CTRL` to `CNT_C` are the same. -/
def SameWords (s s' : AxiSlave) (i i' : AxiInput) : Prop :=
  ∀ addr, select addr < select 0x1C → s.wordAt i addr = s'.wordAt i' addr

/-- **Monitoring does not disturb the watchdog**, in any two runs from the same state. -/
structure NonInterference (start : AxiSlave) : Prop where
  /-- Reads reach neither the slave registers, nor the core, nor the write channel. -/
  reads : ∀ input input', (∀ n, ReadsDiffer (input n) (input' n)) → ∀ n,
    (stateAt clock start input n).slvReg = (stateAt clock start input' n).slvReg ∧
    SameWatchdog (stateAt clock start input n) (stateAt clock start input' n) (input n)
      (input' n) ∧
    SameWriteOutputs (stateAt clock start input n) (stateAt clock start input' n)
  /-- What is written to `0x0C` … `0x1C` reaches neither the core nor a word below `0x1C`. The
  inputs differ in no clock in which a write to another address is accepted. -/
  strayWrites : ∀ input input', (∀ n, DataDiffers (input n) (input' n)) →
    (∀ n, (stateAt clock start input n).acceptsWrite (input n) = true →
      select (stateAt clock start input n).axiAwaddr < select 0x0C → input' n = input n) → ∀ n,
    SameWatchdog (stateAt clock start input n) (stateAt clock start input' n) (input n)
      (input' n) ∧
    SameWords (stateAt clock start input n) (stateAt clock start input' n) (input n) (input' n)
  /-- The same by the address on the bus, for a master that keeps it until it is accepted. -/
  strayOnBus : start.AfterReset → ∀ input input',
    KeepsAddress (stateAt clock start input) input → (∀ n, DataDiffers (input n) (input' n)) →
    (∀ n, select (input n).awaddr < select 0x0C → input' n = input n) → ∀ n,
    SameWatchdog (stateAt clock start input n) (stateAt clock start input' n) (input n)
      (input' n) ∧
    SameWords (stateAt clock start input n) (stateAt clock start input' n) (input n) (input' n)

section Runs

variable {start : AxiSlave} {input input' : Nat → AxiInput}

/-- **Two runs agree** as long as their inputs do. -/
theorem agreeOn_stateAt {regs : Set (BitVec 3)} (controls : controlRegs ⊆ regs)
    (requests : ∀ n, (input n).SameRequests (input' n))
    (data : ∀ n, SameDataOn regs (stateAt clock start input n) (input n) (input' n)) (n : Nat) :
    AgreeOn regs (stateAt clock start input n) (stateAt clock start input' n) :=
  stateAt_related (AgreeOn regs) (AgreeOn.refl regs start)
    (fun n agree => agree.clock controls (requests n) (data n)) n

theorem AgreeOn.sameWatchdog {regs : Set (BitVec 3)} {s s' : AxiSlave} (agree : AgreeOn regs s s')
    (controls : controlRegs ⊆ regs) (i i' : AxiInput) : SameWatchdog s s' i i' := by
  obtain ⟨all3, maj2of3⟩ := agree.alarms controls i i'
  exact ⟨fun dog => by rw [agree.core], all3, maj2of3⟩

/-- Runs whose stray data differs agree on the control registers. -/
theorem agreeOn_strayData (differ : ∀ n, DataDiffers (input n) (input' n))
    (stray : ∀ n, (stateAt clock start input n).acceptsWrite (input n) = true →
      select (stateAt clock start input n).axiAwaddr < select 0x0C → input' n = input n) (n : Nat) :
    AgreeOn controlRegs (stateAt clock start input n) (stateAt clock start input' n) := by
  refine agreeOn_stateAt subset_rfl (fun n => ?_) (fun n accepted control => ?_) n
  · rw [differ n]
    exact ⟨rfl, rfl, rfl, rfl, rfl⟩
  · rw [stray n accepted control]
    exact ⟨rfl, rfl⟩

/-- What agreement on the control registers shows on the outside. -/
theorem AgreeOn.shows {s s' : AxiSlave} (agree : AgreeOn controlRegs s s') (i i' : AxiInput) :
    SameWatchdog s s' i i' ∧ SameWords s s' i i' :=
  ⟨agree.sameWatchdog subset_rfl i i', fun _ below => agree.wordAt subset_rfl i i' below⟩

end Runs

/-- **The watchdog cannot be disturbed** by reads or by stray writes, from any state on. -/
theorem nonInterference (start : AxiSlave) : NonInterference start := by
  refine ⟨fun input input' differ n => ?_, fun input input' differ stray n => ?_,
    fun reset input input' keeps differ stray n => ?_⟩
  · have agree : AgreeOn Set.univ (stateAt clock start input n) (stateAt clock start input' n) := by
      refine agreeOn_stateAt (Set.subset_univ _) (fun n => ?_) (fun n _ _ => ?_) n
      · rw [differ n]
        exact ⟨rfl, rfl, rfl, rfl, rfl⟩
      · rw [differ n]
        exact ⟨rfl, rfl⟩
    exact ⟨funext fun index => agree.slvReg index (Set.mem_univ index),
      agree.sameWatchdog (Set.subset_univ _) _ _,
      agree.awready, agree.wready, agree.bvalid, agree.bresp⟩
  · exact (agreeOn_strayData differ stray n).shows _ _
  · refine (agreeOn_strayData differ (fun n accepted control => stray n ?_) n).shows _ _
    rw [← latched_awaddr reset keeps accepted]
    exact control

end AxiSlave

end TrustzoneWatchdog.Pl
