/-
**The interrupt controller as TF-A sets it up** (`drivers/arm/gic/v2/gicv2_main.c`,
`gicv2_helpers.c`, `plat/common/plat_gicv2.c`, `plat/xilinx/zynqmp/include/platform_def.h`).

What is kept of the GIC is its configuration: of every interrupt the group, the enable bit, the
priority, the targets and the trigger, and of every core the two bits of `GICC_CTLR` that TF-A
depends on. Interrupts below 32 are banked, each core has its own. Group 0 is signalled as FIQ when
`FIQEn` is set and reported by its number; Group 1 is reported as 1022.

* `distifInit_group1`: the initialisation of the distributor puts every shared interrupt in Group 1
  that is not one of `arm_interrupt_props`, whatever it was before.
* `nonSecureWrite_group0`: Linux cannot change an interrupt of Group 0.
-/

import TrustzoneWatchdog.Firmware.WarmRestart

namespace TrustzoneWatchdog.Firmware

/-- The configuration of one interrupt in the distributor. -/
structure IntrCfg where
  /-- `GICD_IGROUPR`. -/
  group1 : Bool
  /-- `GICD_ISENABLER`. -/
  enabled : Bool
  /-- `GICD_IPRIORITYR`. -/
  priority : BitVec 8
  /-- `GICD_ITARGETSR`, one bit a core. -/
  targets : BitVec 8
  /-- `GICD_ICFGR`. -/
  edge : Bool
  deriving DecidableEq, Repr

structure Gic where
  /-- `GICD_TYPER.ITLinesNumber`. -/
  itLines : Nat
  /-- `GICD_CTLR.EnableGrp0`. -/
  distGrp0 : Bool
  banked : Core → Nat → IntrCfg
  spi : Nat → IntrCfg
  /-- `GICC_CTLR.EnableGrp0`. -/
  cpuGrp0 : Core → Bool
  /-- `GICC_CTLR.FIQEn`. -/
  fiqEn : Core → Bool

/-- The types of `interrupt_mgmt.h`. -/
inductive IntrType
  | sEl1
  | el3
  | ns
  deriving DecidableEq, Repr

def minPpiId : Nat := 16

def minSpiId : Nat := 32

def numInts (g : Gic) : Nat := (g.itLines + 1) * 32

def gicHighestSecPriority : BitVec 8 := 0x00#8

/-- One byte of `GICD_IPRIORITYR_DEF_VAL`. -/
def gicdIpriorityrDefVal : BitVec 8 := 0x80#8

/-- One row of `arm_interrupt_props`; the group is Group 0 and the priority
`GIC_HIGHEST_SEC_PRIORITY` in all of them. -/
structure IntrProp where
  intrNum : Nat
  edge : Bool

def armIrqSecPhyTimer : Nat := 29

def irqTtc31 : Nat := 77

def armIrqSecSgi0 : Nat := 8

def armIrqSecSgi7 : Nat := 15

/-- `PLAT_ARM_G1S_IRQ_PROPS` with `ZYNQMP_WDT_RESTART`. -/
def armInterruptProps : List IntrProp :=
  [⟨armIrqSecPhyTimer, false⟩, ⟨irqTtc31, true⟩] ++
    (List.range' armIrqSecSgi0 8).map fun sgi => ⟨sgi, true⟩

/-- The configuration a core sees. -/
def Gic.intr (g : Gic) (c : Core) (id : Nat) : IntrCfg :=
  if id < minSpiId then g.banked c id else g.spi id

def Gic.setSpi (g : Gic) (id : Nat) (change : IntrCfg → IntrCfg) : Gic :=
  { g with spi := Function.update g.spi id (change (g.spi id)) }

/-! ### The distributor -/

/-- `gicv2_spis_configure_defaults`. -/
def spisConfigureDefaults (g : Gic) : Gic :=
  { g with spi := fun id =>
      if minSpiId ≤ id ∧ id < numInts g then
        { g.spi id with group1 := true, priority := gicdIpriorityrDefVal, edge := false }
      else g.spi id }

/-- `GICD_ITARGETSR0` reads as the core that reads it. -/
def gicv2GetCpuifId (c : Core) : BitVec 8 := 1#8 <<< c.val

/-- `gicv2_secure_spis_configure_props`, run by a core. -/
def secureSpisConfigureProps (c : Core) (props : List IntrProp) (g : Gic) : Gic :=
  props.foldl (fun g prop =>
    if prop.intrNum < minSpiId then g
    else g.setSpi prop.intrNum fun cfg =>
      { cfg with
        group1 := false
        priority := gicHighestSecPriority
        targets := gicv2GetCpuifId c
        edge := prop.edge
        enabled := true }) g

/-- `gicv2_distif_init`, run by a core. -/
def distifInit (c : Core) (g : Gic) : Gic :=
  let g := { g with distGrp0 := false }
  let g := secureSpisConfigureProps c armInterruptProps (spisConfigureDefaults g)
  { g with distGrp0 := true }

/-- `gicv2_secure_ppi_sgi_setup_props`, run by a core. -/
def securePpiSgiSetupProps (c : Core) (props : List IntrProp) (g : Gic) : Gic :=
  { g with banked := Function.update g.banked c fun id =>
      let cfg := g.banked c id
      match props.find? fun prop => prop.intrNum == id with
      | some prop =>
        { cfg with
          group1 := false
          enabled := true
          priority := gicHighestSecPriority
          -- the trigger of an SGI is fixed
          edge := if minPpiId ≤ id then prop.edge else cfg.edge }
      | none => { cfg with group1 := true, enabled := false, priority := gicdIpriorityrDefVal } }

/-- `gicv2_pcpu_distif_init`. -/
def pcpuDistifInit (c : Core) (g : Gic) : Gic :=
  { securePpiSgiSetupProps c armInterruptProps g with distGrp0 := true }

/-! ### The CPU interface -/

def cpuifEnable (c : Core) (g : Gic) : Gic :=
  { g with
    cpuGrp0 := Function.update g.cpuGrp0 c true
    fiqEn := Function.update g.fiqEn c true }

/-- `gicv2_cpuif_disable` leaves `FIQEn` as it is. -/
def cpuifDisable (c : Core) (g : Gic) : Gic :=
  { g with cpuGrp0 := Function.update g.cpuGrp0 c false }

/-- `plat_arm_gic_init`. -/
def platArmGicInit (c : Core) (g : Gic) : Gic :=
  cpuifEnable c (pcpuDistifInit c (distifInit c g))

/-- `plat_arm_gic_pcpu_init`. -/
def platArmGicPcpuInit (c : Core) (g : Gic) : Gic := pcpuDistifInit c g

/-- `plat_ic_set_interrupt_type` on a shared interrupt, with `GICV2_G0_FOR_EL3`; the type of S-EL1
trips an assertion. -/
def platIcSetInterruptType (id : Nat) (type : IntrType) (g : Gic) : Gic :=
  g.setSpi id fun cfg => { cfg with group1 := decide (type = .ns) }

/-- `plat_ic_set_interrupt_priority` on a shared interrupt. -/
def platIcSetInterruptPriority (id : Nat) (priority : BitVec 8) (g : Gic) : Gic :=
  g.setSpi id fun cfg => { cfg with priority := priority }

/-- `plat_ic_set_spi_routing` with `INTR_ROUTING_MODE_ANY`. -/
def platIcSetSpiRoutingAny (id : Nat) (g : Gic) : Gic :=
  g.setSpi id fun cfg => { cfg with targets := 0xff#8 }

/-- `plat_ic_enable_interrupt` on a shared interrupt. -/
def platIcEnableInterrupt (id : Nat) (g : Gic) : Gic :=
  g.setSpi id fun cfg => { cfg with enabled := true }

/-- A write of the non-secure side to the configuration of a shared interrupt: the registers of a
Group 0 interrupt ignore it, and the group itself is not writable. -/
def nonSecureWrite (id : Nat) (enabled edge : Bool) (priority targets : BitVec 8) (g : Gic) : Gic :=
  if (g.spi id).group1 then
    g.setSpi id fun cfg =>
      { cfg with enabled := enabled, edge := edge, priority := priority, targets := targets }
  else g

/-! ### What the functions do to one shared interrupt -/

section Spi

variable (c : Core) (g : Gic) {id : Nat}

theorem Gic.setSpi_self (change : IntrCfg → IntrCfg) :
    (g.setSpi id change).spi id = change (g.spi id) :=
  Function.update_self ..

theorem Gic.setSpi_other (change : IntrCfg → IntrCfg) {other : Nat} (differ : id ≠ other) :
    (g.setSpi other change).spi id = g.spi id :=
  Function.update_of_ne differ ..

theorem spisConfigureDefaults_group1 (shared : minSpiId ≤ id) (here : id < numInts g) :
    ((spisConfigureDefaults g).spi id).group1 = true := by
  simp [spisConfigureDefaults, shared, here]

theorem secureSpisConfigureProps_other (props : List IntrProp)
    (unlisted : ∀ prop ∈ props, prop.intrNum ≠ id) :
    (secureSpisConfigureProps c props g).spi id = g.spi id := by
  unfold secureSpisConfigureProps
  induction props generalizing g with
  | nil => rfl
  | cons prop rest ih =>
    rw [List.foldl_cons, ih _ fun prop' later => unlisted prop' (List.mem_cons_of_mem _ later)]
    split
    · rfl
    · exact g.setSpi_other _ (unlisted prop List.mem_cons_self).symm

/-- **The initialisation of the distributor takes a shared interrupt back to Group 1**, unless it
is one of the platform's own secure interrupts. -/
theorem distifInit_group1 (shared : minSpiId ≤ id) (here : id < numInts g)
    (unlisted : ∀ prop ∈ armInterruptProps, prop.intrNum ≠ id) :
    ((distifInit c g).spi id).group1 = true := by
  change ((secureSpisConfigureProps c armInterruptProps _).spi id).group1 = true
  rw [secureSpisConfigureProps_other c _ _ unlisted]
  exact spisConfigureDefaults_group1 _ shared here

theorem secureSpisConfigureProps_frame (props : List IntrProp) :
    ∃ spi, secureSpisConfigureProps c props g = { g with spi := spi } := by
  unfold secureSpisConfigureProps
  induction props generalizing g with
  | nil => exact ⟨g.spi, rfl⟩
  | cons prop rest ih =>
    rw [List.foldl_cons]
    split
    · exact ih g
    · obtain ⟨spi, same⟩ := ih (g.setSpi prop.intrNum _)
      exact ⟨spi, same⟩

/-- The distributor is initialised without a change to the cores' own registers. -/
theorem distifInit_frame :
    ∃ spi, distifInit c g = { g with spi := spi, distGrp0 := true } := by
  obtain ⟨spi, same⟩ := secureSpisConfigureProps_frame c
    (spisConfigureDefaults { g with distGrp0 := false }) armInterruptProps
  refine ⟨spi, ?_⟩
  unfold distifInit
  dsimp only
  rw [same]
  rfl

/-- The non-secure side cannot change an interrupt of Group 0. -/
theorem nonSecureWrite_group0 (other : Nat) (enabled edge : Bool) (priority targets : BitVec 8)
    (secure : (g.spi id).group1 = false) :
    (nonSecureWrite other enabled edge priority targets g).spi id = g.spi id := by
  unfold nonSecureWrite
  split
  · rename_i writable
    refine g.setSpi_other _ fun same => ?_
    rw [← same, secure] at writable
    exact absurd writable (by decide)
  · rfl

/-- Nor the group of any interrupt. -/
theorem nonSecureWrite_group1 (other : Nat) (enabled edge : Bool) (priority targets : BitVec 8) :
    ((nonSecureWrite other enabled edge priority targets g).spi id).group1 = (g.spi id).group1 := by
  unfold nonSecureWrite
  split
  · by_cases same : id = other
    · rw [same, g.setSpi_self]
    · rw [g.setSpi_other _ same]
  · rfl

end Spi

/-! ### What TF-A reads -/

def pendingG1Intid : BitVec 32 := 1022#32

def gicSpuriousInterrupt : BitVec 32 := 1023#32

def intIdMask : BitVec 32 := 0x3ff#32

def intrIdUnavailable : BitVec 32 := 0xFFFFFFFF#32

/-- `plat_ic_get_pending_interrupt_type` on a reading of `GICC_HPPIR`, with `GICV2_G0_FOR_EL3`;
`none` is `INTR_TYPE_INVAL`. -/
def platIcGetPendingInterruptType (hppir : BitVec 32) : Option IntrType :=
  let id := hppir &&& intIdMask
  if id < pendingG1Intid then some .el3
  else if id = gicSpuriousInterrupt then none
  else some .ns

/-- `plat_ic_get_pending_interrupt_id` on readings of `GICC_HPPIR` and `GICC_AHPPIR`. -/
def platIcGetPendingInterruptId (hppir ahppir : BitVec 32) : BitVec 32 :=
  let id := hppir &&& intIdMask
  let id := if id = pendingG1Intid then ahppir &&& intIdMask else id
  if id = gicSpuriousInterrupt then intrIdUnavailable else id

/-- **The GIC signals a Group 0 interrupt to a core as FIQ.** -/
def Gic.forwards (g : Gic) (c : Core) (id : Nat) : Bool :=
  g.distGrp0 && (g.intr c id).enabled && !(g.intr c id).group1 &&
    (decide (id < minSpiId) || (g.intr c id).targets.getLsbD c.val) && g.cpuGrp0 c && g.fiqEn c

/-- What the interface of a core has pending when it is read. -/
inductive Pending
  | group0 (id : Fin 1020)
  | group1 (id : Fin 1020)
  | nothing
  deriving DecidableEq, Repr

/-- The reading of `GICC_HPPIR`, without the source of an SGI, which TF-A masks out. -/
def Pending.hppir : Pending → BitVec 32
  | .group0 id => BitVec.ofNat 32 id
  | .group1 _ => pendingG1Intid
  | .nothing => gicSpuriousInterrupt

/-- The reading of `GICC_AHPPIR`, which has the numbers of Group 1. -/
def Pending.ahppir : Pending → BitVec 32
  | .group1 id => BitVec.ofNat 32 id
  | _ => gicSpuriousInterrupt

/-- **What the GIC can show to a core**, as it is configured. -/
def Gic.shows (g : Gic) (c : Core) : Pending → Bool
  | .group0 id => g.forwards c id
  | .group1 id => (g.intr c id).group1 && (g.intr c id).enabled &&
    (decide (id.val < minSpiId) || (g.intr c id).targets.getLsbD c.val)
  | .nothing => true

end TrustzoneWatchdog.Firmware
