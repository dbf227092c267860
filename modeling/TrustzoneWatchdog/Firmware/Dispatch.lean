/-
**From the FIQ to the handler** (`plat/xilinx/zynqmp/bl31_zynqmp_setup.c`, `zynqmp_swdt.c`,
`plat_psci.c`, `pm_service/pm_svc_main.c`, `bl31/aarch64/runtime_exceptions.S`, `bl31/bl31_main.c`,
`services/spd/opteed`, `lib/psci`).

The exception vector asks the GIC for the type of the pending interrupt and calls the handler of the
type; for EL3 that is `rdo_el3_interrupt_handler`, which asks the GIC once more for the number and
calls the handler in its own table. `bl31Main` is the cold boot, as far as it sets these things up.
`Op` is what happens afterwards: cores going on, off, to sleep and back, services that try to
register more handlers, Linux writing to the GIC, interrupts. They come in any order.

* `request_cases`, `request_free`: the table is filled once, slot by slot.
* `handle_frame`: up to the call of the handler nothing changes in EL3 but the two beacons.
-/

import TrustzoneWatchdog.Firmware.Routing

namespace TrustzoneWatchdog.Firmware

open TrustzoneWatchdog.Lib.AlarmRun

/-- The handlers of types of interrupts; `service` is one of somebody else. -/
inductive TypeHandler
  | rdoEl3
  | opteedSel1
  | service (name : Nat)
  deriving DecidableEq, Repr

/-- The handlers of single interrupts in EL3. -/
inductive El3Handler
  /-- `zynqmp_sgi7_irq`. -/
  | sgi7
  /-- `ttc_fiq_handler`. -/
  | ttc3
  /-- `ttc2_fiq_handler`. -/
  | ttc2
  | service (name : Nat)
  deriving DecidableEq, Repr

/-- `aff_info_state_t`. -/
inductive AffState
  | on
  | onPending
  | off
  deriving DecidableEq, Repr

def maxIntrEl3 : Nat := 128

def irqTtc20 : Nat := 74

/-- The state of EL3 that decides who is served. -/
structure El3 where
  gic : Gic
  routing : Routing TypeHandler
  /-- `type_el3_interrupt_table`. -/
  table : Fin maxIntrEl3 → Option El3Handler
  aff : Core → AffState
  /-- `ttc2_hw_init` has started the timer. -/
  ttc2Running : Bool
  /-- `dbg_entry_cnt`, and `0xFF130034`. -/
  dbgEntryCnt : BitVec 32
  /-- `0xFF130038`. -/
  dbgIntrId : BitVec 32

/-! ### Registering and dispatching -/

def requestIntrTypeEl3 (id : BitVec 32) (handler : Option El3Handler) (s : El3) : Rc × El3 :=
  match handler with
  | none => (.einval, s)
  | some h =>
    if bound : id.toNat < maxIntrEl3 then
      if (s.table ⟨id.toNat, bound⟩).isSome then (.ealready, s)
      else (.ok, { s with table := Function.update s.table ⟨id.toNat, bound⟩ (some h) })
    else (.einval, s)

/-- `rdo_el3_interrupt_handler` on its readings of the GIC, up to the call: the handler it calls,
and the state it calls it in. -/
def rdoEl3InterruptHandler (hppir ahppir : BitVec 32) (s : El3) : Option El3Handler × El3 :=
  let intrId := platIcGetPendingInterruptId hppir ahppir
  let s := { s with dbgEntryCnt := s.dbgEntryCnt + 1#32, dbgIntrId := intrId }
  if bound : intrId.toNat < maxIntrEl3 then (s.table ⟨intrId.toNat, bound⟩, s) else (none, s)

/-- Who is called in the end. -/
inductive Served
  | nobody
  | el3 (h : El3Handler)
  | opteed
  | service (name : Nat)
  deriving DecidableEq, Repr

/-- `handle_interrupt_exception`, up to the call of the handler. The type comes from the first
reading of `GICC_HPPIR`, the number from a second one, or from `GICC_AHPPIR`. -/
def handleInterruptException (hppir hppir' ahppir : BitVec 32) (s : El3) : Served × El3 :=
  match platIcGetPendingInterruptType hppir with
  | none => (.nobody, s)
  | some type =>
    match (s.routing.descs type).handler with
    | none => (.nobody, s)
    | some .rdoEl3 =>
      let (called, s) := rdoEl3InterruptHandler hppir' ahppir s
      (called.elim .nobody .el3, s)
    | some .opteedSel1 => (.opteed, s)
    | some (.service name) => (.service name, s)

/-! ### The cold boot -/

/-- `opteed_init_optee_ep_state`. -/
def opteeEntryPoint (rw64 : Bool) : EntryPoint := ⟨.secure, rw64, true, false⟩

/-- The entry points of BL33 and of PSCI. -/
def nonSecureEntryPoint (rw64 hyp : Bool) : EntryPoint := ⟨.nonSecure, rw64, false, hyp⟩

/-- What becomes of OP-TEE. -/
inductive OpteeBoot
  /-- There is no image. -/
  | absent
  /-- It comes back without its vector table. -/
  | failed
  | up
  deriving DecidableEq, Repr

/-- What the boot depends on. -/
structure Boot where
  primary : Core
  gic : Gic
  /-- The PMU's API is not older than `PM_VERSION`. -/
  pmVersionOk : Bool
  optee : OpteeBoot
  opteeRw64 : Bool
  bl33Rw64 : Bool
  bl33Hyp : Bool
  /-- `SCR_EL3` when the secure and when the non-secure context is set up. -/
  secureScr : BitVec 64
  nonSecureScr : BitVec 64

/-- The static data of BL31. -/
def El3.bss (g : Gic) : El3 where
  gic := g
  routing := ⟨fun _ => ⟨none, fun _ => 0#64, 0#32⟩, fun _ _ => none⟩
  table _ := none
  aff _ := .off
  ttc2Running := false
  dbgEntryCnt := 0#32
  dbgIntrId := 0#32

def bl31PlatformSetup (c : Core) (s : El3) : El3 := { s with gic := platArmGicInit c s.gic }

/-- `psci_setup`: a non-secure context for every core, and the primary core is on. -/
def psciSetup (c : Core) (s : El3) : El3 :=
  { s with
    routing := { s.routing with
      ctx := fun core w => if w = .nonSecure then some 0#64 else s.routing.ctx core w }
    aff := Function.update (fun _ => .off) c .on }

def pmWdtRestartSetup (s : El3) : Rc × El3 :=
  match requestIntrTypeEl3 (BitVec.ofNat 32 armIrqSecSgi7) (some .sgi7) s with
  | (.ok, s) => requestIntrTypeEl3 (BitVec.ofNat 32 irqTtc31) (some .ttc3) s
  | (rc, s) => (rc, s)

/-- `pm_setup`, as far as it registers handlers. -/
def pmSetup (versionOk : Bool) (s : El3) : El3 :=
  if versionOk then (pmWdtRestartSetup s).2 else s

def opteedSetup (c : Core) (optee : OpteeBoot) (s : El3) : El3 :=
  match optee with
  | .absent => s
  | _ => { s with routing := cmSetContext c .secure s.routing }

/-- `TEESMC_OPTEED_RETURN_ENTRY_DONE` with a vector table; `none` is `panic`. -/
def opteedReturnEntryDone (c : Core) (s : El3) : Option El3 :=
  match registerInterruptTypeHandler c (s.gic.fiqEn c) .sEl1 (some .opteedSel1) 2#32 s.routing with
  | (.ok, r) => some { s with routing := r }
  | _ => none

/-- `opteed_init`. -/
def opteedInit (b : Boot) (s : El3) : Option El3 :=
  let entered := { s with
    routing := cmInitContext b.primary b.secureScr (opteeEntryPoint b.opteeRw64) s.routing }
  match b.optee with
  | .absent => some s
  | .failed => some entered
  | .up => opteedReturnEntryDone b.primary entered

def bl31PrepareNextImageEntry (b : Boot) (s : El3) : El3 :=
  let ep := nonSecureEntryPoint b.bl33Rw64 b.bl33Hyp
  { s with routing := cmInitContext b.primary b.nonSecureScr ep s.routing }

/-- The first calls of `zynqmp_swdt_init`: Group 0, its priority, every core, enabled. -/
def swdtGicInit (g : Gic) : Gic :=
  let g := platIcSetInterruptPriority irqTtc20 0x40#8 (platIcSetInterruptType irqTtc20 .el3 g)
  platIcEnableInterrupt irqTtc20 (platIcSetSpiRoutingAny irqTtc20 g)

/-- The GIC is ready before the handler, and the timer is started only behind both. -/
def zynqmpSwdtInit (s : El3) : El3 :=
  let s := { s with gic := swdtGicInit s.gic }
  match requestIntrTypeEl3 (BitVec.ofNat 32 irqTtc20) (some .ttc2) s with
  | (.ok, s) => { s with ttc2Running := true }
  | (_, s) => s

/-- `bl31_plat_runtime_setup`: routed to EL3 from both states, or `panic`. -/
def bl31PlatRuntimeSetup (c : Core) (s : El3) : Option El3 :=
  match registerInterruptTypeHandler c (s.gic.fiqEn c) .el3 (some .rdoEl3) 3#32 s.routing with
  | (.ok, r) => some (zynqmpSwdtInit { s with routing := r })
  | _ => none

/-- `runtime_svc_init`: PSCI, the power management and the dispatcher of OP-TEE. -/
def runtimeSvcInit (b : Boot) (s : El3) : El3 :=
  opteedSetup b.primary b.optee (pmSetup b.pmVersionOk (psciSetup b.primary s))

def bl31Main (b : Boot) : Option El3 :=
  (opteedInit b (runtimeSvcInit b (bl31PlatformSetup b.primary (El3.bss b.gic)))).bind fun s =>
    bl31PlatRuntimeSetup b.primary (bl31PrepareNextImageEntry b s)

/-! ### Afterwards -/

/-- What happens after the boot. -/
inductive Op
  /-- `psci_cpu_on_start`; whether the PMU wakes the core. -/
  | cpuOn (target : Core) (woken : Bool) (scr : BitVec 64) (rw64 hyp : Bool)
  /-- `psci_cpu_on_finish`, on the core that was woken. -/
  | cpuOnFinish (c : Core) (scr : BitVec 64) (opteeRw64 : Bool)
  | cpuOff (c : Core)
  /-- `psci_suspend_to_pwrdown_start`. -/
  | suspend (c : Core) (scr : BitVec 64) (rw64 hyp : Bool)
  /-- `zynqmp_pwr_domain_suspend_finish`; whether the APU was turned off. -/
  | suspendFinish (c : Core) (apuOff : Bool)
  /-- Another service tries to register a handler. -/
  | register (c : Core) (type : IntrType) (name : Nat) (flags : BitVec 32)
  | request (id : BitVec 32) (name : Nat)
  /-- Linux writes to the distributor. -/
  | nonSecureWrite (id : Nat) (enabled edge : Bool) (priority targets : BitVec 8)
  /-- An interrupt is taken to EL3, with what the GIC then reads. The handlers of the platform leave
  the tables, the contexts and the configuration of the GIC alone; the one of another service does
  what the operations that follow do. -/
  | interrupt (hppir hppir' ahppir : BitVec 32)
  deriving DecidableEq, Repr

/-- One operation. The PSCI functions look at the state of the core first. -/
def El3.step (s : El3) : Op → El3
  | .cpuOn target woken scr rw64 hyp =>
    if s.aff target = .off ∧ woken = true then
      { s with
        aff := Function.update s.aff target .onPending
        routing := cmInitContext target scr (nonSecureEntryPoint rw64 hyp) s.routing }
    else s
  | .cpuOnFinish c scr opteeRw64 =>
    if s.aff c = .onPending then
      { s with
        gic := cpuifEnable c (platArmGicPcpuInit c s.gic)
        routing := cmInitContext c scr (opteeEntryPoint opteeRw64)
          (cmSetContext c .secure s.routing)
        aff := Function.update s.aff c .on }
    else s
  | .cpuOff c =>
    if s.aff c = .on then
      { s with gic := cpuifDisable c s.gic, aff := Function.update s.aff c .off }
    else s
  | .suspend c scr rw64 hyp =>
    if s.aff c = .on then
      { s with routing := cmInitContext c scr (nonSecureEntryPoint rw64 hyp) s.routing }
    else s
  | .suspendFinish c apuOff =>
    if s.aff c = .on then
      let gic := if apuOff then platArmGicInit c s.gic else pcpuDistifInit c (cpuifEnable c s.gic)
      { s with gic := gic }
    else s
  | .register c type name flags =>
    let handler := some (TypeHandler.service name)
    let out := registerInterruptTypeHandler c (s.gic.fiqEn c) type handler flags s.routing
    { s with routing := out.2 }
  | .request id name => (requestIntrTypeEl3 id (some (.service name)) s).2
  | .nonSecureWrite id enabled edge priority targets =>
    { s with gic := nonSecureWrite id enabled edge priority targets s.gic }
  | .interrupt hppir hppir' ahppir => (handleInterruptException hppir hppir' ahppir s).2

def Op.isInterrupt : Op → Bool
  | .interrupt .. => true
  | _ => false

/-- The APU comes back from being switched off. -/
def El3.offResume (s : El3) : Op → Bool
  | .suspendFinish c true => decide (s.aff c = .on)
  | _ => false

/-- EL3 after a list of operations. -/
def El3.after (s : El3) (ops : List Op) : El3 := run El3.step s ops

/-! ### What one call does -/

section Calls

variable (s : El3)

/-- A request is refused and changes nothing, or it fills an empty slot. -/
theorem request_cases (id : BitVec 32) (h : El3Handler) :
    ((requestIntrTypeEl3 id (some h) s).1 ≠ .ok ∧ (requestIntrTypeEl3 id (some h) s).2 = s) ∨
    ∃ bound : id.toNat < maxIntrEl3, s.table ⟨id.toNat, bound⟩ = none ∧
      requestIntrTypeEl3 id (some h) s =
        (.ok, { s with table := Function.update s.table ⟨id.toNat, bound⟩ (some h) }) := by
  unfold requestIntrTypeEl3
  dsimp only
  by_cases bound : id.toNat < maxIntrEl3
  · rw [dif_pos bound]
    cases slot : s.table ⟨id.toNat, bound⟩ with
    | none => exact Or.inr ⟨bound, slot, rfl⟩
    | some _ => exact Or.inl ⟨by simp, rfl⟩
  · rw [dif_neg bound]
    exact Or.inl ⟨by simp, rfl⟩

/-- An empty slot is filled. -/
theorem request_free (id : BitVec 32) (h : El3Handler) (slot : Fin maxIntrEl3)
    (here : id.toNat = slot.val) (free : s.table slot = none) :
    requestIntrTypeEl3 id (some h) s =
      (.ok, { s with table := Function.update s.table slot (some h) }) := by
  have bound : id.toNat < maxIntrEl3 := here ▸ slot.isLt
  have same : (⟨id.toNat, bound⟩ : Fin maxIntrEl3) = slot := Fin.ext here
  unfold requestIntrTypeEl3
  simp [bound, same, free]

/-- The dispatcher changes the two beacons, and nothing else in EL3. -/
theorem handle_frame (hppir hppir' ahppir : BitVec 32) :
    ∃ count id, (handleInterruptException hppir hppir' ahppir s).2 =
      { s with dbgEntryCnt := count, dbgIntrId := id } := by
  unfold handleInterruptException rdoEl3InterruptHandler
  split
  · exact ⟨s.dbgEntryCnt, s.dbgIntrId, rfl⟩
  · split
    · exact ⟨s.dbgEntryCnt, s.dbgIntrId, rfl⟩
    · dsimp only
      split <;> exact ⟨_, _, rfl⟩
    · exact ⟨s.dbgEntryCnt, s.dbgIntrId, rfl⟩
    · exact ⟨s.dbgEntryCnt, s.dbgIntrId, rfl⟩

theorem cmSetContext_takesFiq (c c' : Core) (w w' : World) (r : Routing TypeHandler) :
    (cmSetContext c w r).takesFiq c' w' = r.takesFiq c' w' := by
  unfold Routing.takesFiq cmSetContext
  by_cases core : c' = c
  · subst core
    by_cases world : w' = w
    · subst world
      cases r.ctx c' w' <;> simp
    · simp [world]
  · simp [core]

end Calls

end TrustzoneWatchdog.Firmware
