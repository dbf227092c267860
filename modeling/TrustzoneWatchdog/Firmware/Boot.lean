/-
**EL3 from the cold boot on.**

`Up` is what the cold boot with OP-TEE establishes, and what no operation afterwards undoes: the
routing of FIQs to EL3 in the contexts of every core that is on, the interfaces of these cores, and
the owners of the slots of the table.

* `Up.step`, `bl31Main_up`: every operation keeps it, the boot brings it about without a panic.
* `fiq_routed`: every core that is on takes FIQs to EL3 from both security states.
* `dispatch_exact`: which handler runs, for all readings of the GIC.
-/

import TrustzoneWatchdog.Firmware.Dispatch

namespace TrustzoneWatchdog.Firmware

open TrustzoneWatchdog.Lib.AlarmRun

/-! ### What the boot establishes and every operation keeps -/

/-- The slots of the table that the platform itself has filled, and with what. The power management
fills its two when the PMU's API is recent enough. -/
structure Owns (pm : Bool) (table : Fin maxIntrEl3 → Option El3Handler) : Prop where
  ttc2 : ∀ id, table id = some .ttc2 ↔ id.val = irqTtc20
  ttc3 : ∀ id, table id = some .ttc3 ↔ pm = true ∧ id.val = irqTtc31
  sgi7 : ∀ id, table id = some .sgi7 ↔ pm = true ∧ id.val = armIrqSecSgi7

/-- **EL3 is up.** -/
structure Up (pm : Bool) (s : El3) : Prop where
  routed : FiqRouted .rdoEl3 s.routing
  onlyEl3 : ∀ type, (s.routing.descs type).handler = some .rdoEl3 → type = .el3
  onlySEl1 : ∀ type, (s.routing.descs type).handler = some .opteedSel1 → type = .sEl1
  contexts : ∀ c, (s.routing.ctx c .nonSecure).isSome = true
  on : ∀ c, s.aff c = .on → ∀ w, s.routing.takesFiq c w = true
  pending : ∀ c, s.aff c = .onPending → s.routing.takesFiq c .nonSecure = true
  distributor : s.gic.distGrp0 = true
  interface : ∀ c, s.aff c = .on → s.gic.cpuGrp0 c = true ∧ s.gic.fiqEn c = true
  owns : Owns pm s.table

section Kept

variable {pm : Bool} {s : El3}

/-- Another service takes a free slot only, so the owners stay. -/
theorem owner_update {table : Fin maxIntrEl3 → Option El3Handler} {h : El3Handler}
    {mine : Fin maxIntrEl3 → Prop} (owns : ∀ id, table id = some h ↔ mine id)
    {slot : Fin maxIntrEl3} (free : table slot = none) {other : El3Handler} (differ : other ≠ h)
    (id : Fin maxIntrEl3) : Function.update table slot (some other) id = some h ↔ mine id := by
  by_cases same : id = slot
  · subst same
    rw [Function.update_self, ← owns id, free]
    simp [differ]
  · rw [Function.update_of_ne same, owns id]

theorem Owns.request {table : Fin maxIntrEl3 → Option El3Handler} (owns : Owns pm table)
    {slot : Fin maxIntrEl3} (free : table slot = none) (name : Nat) :
    Owns pm (Function.update table slot (some (.service name))) where
  ttc2 := owner_update owns.ttc2 free (by simp)
  ttc3 := owner_update owns.ttc3 free (by simp)
  sgi7 := owner_update owns.sgi7 free (by simp)

/-- The state of a core after the one of another, or its own, was set. -/
theorem aff_update_cases {aff : Core → AffState} {target c : Core} {new here : AffState}
    (now : Function.update aff target new c = here) :
    (c = target ∧ new = here) ∨ (c ≠ target ∧ aff c = here) := by
  by_cases same : c = target
  · rw [same, Function.update_self] at now
    exact Or.inl ⟨same, now⟩
  · rw [Function.update_of_ne same] at now
    exact Or.inr ⟨same, now⟩

theorem Up.cpuOn (up : Up pm s) (target : Core) (woken : Bool) (scr : BitVec 64)
    (rw64 hyp : Bool) : Up pm (s.step (.cpuOn target woken scr rw64 hyp)) := by
  rw [El3.step]
  split
  · obtain ⟨routed, fresh, kept⟩ := up.routed.init target scr (nonSecureEntryPoint rw64 hyp)
    have before {c : Core} (here : Function.update s.aff target .onPending c = .on) :
        s.aff c = .on := by
      rcases aff_update_cases here with ⟨_, impossible⟩ | ⟨_, before⟩
      · exact absurd impossible (by decide)
      · exact before
    exact {
      routed := routed
      onlyEl3 := up.onlyEl3
      onlySEl1 := up.onlySEl1
      contexts := fun c => (init_contexts ..).trans (up.contexts c)
      on := fun c here w => kept c w (up.on c (before here) w)
      pending := fun c here => by
        rcases aff_update_cases here with ⟨rfl, _⟩ | ⟨_, before⟩
        · exact fresh (up.contexts c)
        · exact kept c _ (up.pending c before)
      distributor := up.distributor
      interface := fun c here => up.interface c (before here)
      owns := up.owns }
  · exact up

theorem Up.cpuOnFinish (up : Up pm s) (c : Core) (scr : BitVec 64) (opteeRw64 : Bool) :
    Up pm (s.step (.cpuOnFinish c scr opteeRw64)) := by
  rw [El3.step]
  split
  · rename_i pending
    have routed : FiqRouted .rdoEl3 (cmSetContext c .secure s.routing) :=
      ⟨up.routed.sEl1, up.routed.el3, up.routed.model⟩
    have contexts (c' : Core) : ((cmSetContext c .secure s.routing).ctx c' .nonSecure).isSome := by
      unfold cmSetContext
      by_cases core : c' = c
      · subst core
        simp [up.contexts c']
      · simp [core, up.contexts c']
    obtain ⟨routed', fresh, kept⟩ := routed.init c scr (opteeEntryPoint opteeRw64)
    have takes (c' : Core) (w : World) (before : s.routing.takesFiq c' w = true) :
        (cmInitContext c scr (opteeEntryPoint opteeRw64)
          (cmSetContext c .secure s.routing)).takesFiq c' w = true :=
      kept c' w (by rw [cmSetContext_takesFiq]; exact before)
    exact {
      routed := routed'
      onlyEl3 := up.onlyEl3
      onlySEl1 := up.onlySEl1
      contexts := fun c' => (init_contexts ..).trans (contexts c')
      on := fun c' here w => by
        rcases aff_update_cases here with ⟨rfl, _⟩ | ⟨_, before⟩
        · cases w with
          | secure => exact fresh (by simp [opteeEntryPoint, cmSetContext])
          -- set up by `psci_cpu_on_start`, on the core that asked for this one
          | nonSecure => exact takes c' _ (up.pending c' pending)
        · exact takes c' w (up.on c' before w)
      pending := fun c' here => by
        rcases aff_update_cases here with ⟨_, impossible⟩ | ⟨_, before⟩
        · exact absurd impossible (by decide)
        · exact takes c' _ (up.pending c' before)
      distributor := rfl
      interface := fun c' here => by
        rcases aff_update_cases here with ⟨rfl, _⟩ | ⟨other, before⟩
        · exact ⟨Function.update_self .., Function.update_self ..⟩
        · exact ⟨(Function.update_of_ne other ..).trans (up.interface c' before).1,
            (Function.update_of_ne other ..).trans (up.interface c' before).2⟩
      owns := up.owns }
  · exact up

theorem Up.cpuOff (up : Up pm s) (c : Core) : Up pm (s.step (.cpuOff c)) := by
  rw [El3.step]
  split
  · exact {
      routed := up.routed
      onlyEl3 := up.onlyEl3
      onlySEl1 := up.onlySEl1
      contexts := up.contexts
      on := fun c' here => by
        rcases aff_update_cases here with ⟨_, impossible⟩ | ⟨_, before⟩
        · exact absurd impossible (by decide)
        · exact up.on c' before
      pending := fun c' here => by
        rcases aff_update_cases here with ⟨_, impossible⟩ | ⟨_, before⟩
        · exact absurd impossible (by decide)
        · exact up.pending c' before
      distributor := up.distributor
      interface := fun c' here => by
        rcases aff_update_cases here with ⟨_, impossible⟩ | ⟨other, before⟩
        · exact absurd impossible (by decide)
        · exact ⟨(Function.update_of_ne other ..).trans (up.interface c' before).1,
            (up.interface c' before).2⟩
      owns := up.owns }
  · exact up

theorem Up.suspend (up : Up pm s) (c : Core) (scr : BitVec 64) (rw64 hyp : Bool) :
    Up pm (s.step (.suspend c scr rw64 hyp)) := by
  rw [El3.step]
  split
  · obtain ⟨routed, _, kept⟩ := up.routed.init c scr (nonSecureEntryPoint rw64 hyp)
    exact { up with
      routed := routed
      contexts := fun c' => (init_contexts ..).trans (up.contexts c')
      on := fun c' here w => kept c' w (up.on c' here w)
      pending := fun c' here => kept c' _ (up.pending c' here) }
  · exact up

/-- Either way the interface of the core is enabled, and the distributor. -/
theorem Up.suspendFinish (up : Up pm s) (c : Core) (apuOff : Bool) :
    Up pm (s.step (.suspendFinish c apuOff)) := by
  rw [El3.step]
  split
  · have enabled (c' : Core) (g : Gic) (before : g.cpuGrp0 c' = true ∧ g.fiqEn c' = true) :
        (cpuifEnable c g).cpuGrp0 c' = true ∧ (cpuifEnable c g).fiqEn c' = true := by
      unfold cpuifEnable
      by_cases same : c' = c
      · subst same
        simp
      · simp [same, before]
    cases apuOff with
    | false =>
      exact { up with
        distributor := rfl
        interface := fun c' here => enabled c' s.gic (up.interface c' here) }
    | true =>
      obtain ⟨spi, same⟩ := distifInit_frame c s.gic
      exact { up with
        distributor := rfl
        interface := fun c' here => enabled c' (pcpuDistifInit c (distifInit c s.gic)) (by
          rw [same]
          exact up.interface c' here) }
  · exact up

theorem Up.register (up : Up pm s) (c : Core) (type : IntrType) (name : Nat) (flags : BitVec 32) :
    Up pm (s.step (.register c type name flags)) := by
  rw [El3.step]
  obtain ⟨routed, takes⟩ :=
    up.routed.register c (s.gic.fiqEn c) type (some (.service name)) flags
  rcases register_cases c (s.gic.fiqEn c) type (some (.service name)) flags s.routing with
    ⟨_, same⟩ | ⟨_, h, isService, done⟩
  · rw [same]
    exact up
  · cases isService
    generalize (registerInterruptTypeHandler c (s.gic.fiqEn c) type
      (some (.service name)) flags s.routing).2 = r at *
    have only {h : TypeHandler} {mine : IntrType} (differ : TypeHandler.service name ≠ h)
        (before : ∀ other, (s.routing.descs other).handler = some h → other = mine)
        (other : IntrType) (here : (r.descs other).handler = some h) : other = mine := by
      by_cases same : other = type
      · rw [same, done.handler] at here
        exact absurd (Option.some.inj here) differ
      · rw [done.others other same] at here
        exact before other here
    exact { up with
      routed := routed
      onlyEl3 := only (by simp) up.onlyEl3
      onlySEl1 := only (by simp) up.onlySEl1
      contexts := fun c' => (done.contexts c' _).trans (up.contexts c')
      on := fun c' here w => (takes c' w).trans (up.on c' here w)
      pending := fun c' here => (takes c' _).trans (up.pending c' here) }

theorem Up.request (up : Up pm s) (id : BitVec 32) (name : Nat) :
    Up pm (s.step (.request id name)) := by
  rw [El3.step]
  rcases request_cases s id (.service name) with ⟨_, same⟩ | ⟨bound, free, done⟩
  · rw [same]
    exact up
  · rw [done]
    exact { up with owns := up.owns.request free name }

/-- **Every operation keeps EL3 up.** -/
theorem Up.step (up : Up pm s) (o : Op) : Up pm (s.step o) := by
  cases o with
  | cpuOn target woken scr rw64 hyp => exact up.cpuOn target woken scr rw64 hyp
  | cpuOnFinish c scr opteeRw64 => exact up.cpuOnFinish c scr opteeRw64
  | cpuOff c => exact up.cpuOff c
  | suspend c scr rw64 hyp => exact up.suspend c scr rw64 hyp
  | suspendFinish c apuOff => exact up.suspendFinish c apuOff
  | register c type name flags => exact up.register c type name flags
  | request id name => exact up.request id name
  | nonSecureWrite id enabled edge priority targets =>
    rw [El3.step]
    unfold nonSecureWrite
    split
    · exact { up with }
    · exact up
  | interrupt hppir hppir' ahppir =>
    obtain ⟨count, id, same⟩ := handle_frame s hppir hppir' ahppir
    rw [El3.step, same]
    exact { up with }

theorem Up.after (up : Up pm s) (ops : List Op) : Up pm (s.after ops) :=
  run_invariant (Up pm) up (fun _ o here => here.step o) ops

end Kept

/-! ### The boot brings EL3 up -/

/-- The interrupt of the heartbeat's timer, as `zynqmp_swdt_init` sets it up: Group 0, enabled, for
every core. -/
structure Aimed (g : Gic) : Prop where
  group0 : (g.spi irqTtc20).group1 = false
  enabled : (g.spi irqTtc20).enabled = true
  everyCore : (g.spi irqTtc20).targets = 0xff#8

section BootUp

/-- The table behind `pm_setup`. -/
def pmTable (versionOk : Bool) : Fin maxIntrEl3 → Option El3Handler :=
  if versionOk then
    Function.update (Function.update (fun _ => none) ⟨armIrqSecSgi7, by decide⟩ (some .sgi7))
      ⟨irqTtc31, by decide⟩ (some .ttc3)
  else fun _ => none

theorem pmSetup_eq (versionOk : Bool) {s : El3} (empty : s.table = fun _ => none) :
    pmSetup versionOk s = { s with table := pmTable versionOk } := by
  cases versionOk with
  | false =>
    cases s
    cases empty
    rfl
  | true =>
    have first := request_free s (BitVec.ofNat 32 armIrqSecSgi7) .sgi7
      ⟨armIrqSecSgi7, by decide⟩ rfl (by rw [empty])
    have second := request_free
      { s with table := Function.update s.table ⟨armIrqSecSgi7, by decide⟩ (some .sgi7) }
      (BitVec.ofNat 32 irqTtc31) .ttc3 ⟨irqTtc31, by decide⟩ rfl (by rw [empty]; rfl)
    unfold pmSetup pmWdtRestartSetup
    rw [if_pos rfl, first]
    dsimp only
    rw [second, empty]
    rfl

theorem owns_boot (versionOk : Bool) :
    Owns versionOk (Function.update (pmTable versionOk) ⟨irqTtc20, by decide⟩ (some .ttc2)) := by
  constructor <;> intro id <;> cases versionOk <;>
    simp only [pmTable, reduceIte, Bool.false_eq_true, Function.update_apply, Fin.ext_iff] <;>
    split_ifs <;>
    simp_all [irqTtc20, irqTtc31, armIrqSecSgi7]

theorem aimed_swdtGicInit (g : Gic) : Aimed (swdtGicInit g) := by
  constructor <;>
    simp [swdtGicInit, platIcEnableInterrupt, platIcSetSpiRoutingAny, platIcSetInterruptPriority,
      platIcSetInterruptType, Gic.setSpi]

/-- EL3 in front of OP-TEE. -/
def beforeOptee (b : Boot) : El3 where
  gic := platArmGicInit b.primary b.gic
  routing := cmSetContext b.primary .secure
    { descs := fun _ => ⟨none, fun _ => 0#64, 0#32⟩
      ctx := fun _ w => if w = .nonSecure then some 0#64 else none }
  table := pmTable b.pmVersionOk
  aff := Function.update (fun _ => .off) b.primary .on
  ttc2Running := false
  dbgEntryCnt := 0#32
  dbgIntrId := 0#32

theorem runtimeSvcInit_eq (b : Boot) (optee : b.optee = .up) :
    runtimeSvcInit b (bl31PlatformSetup b.primary (El3.bss b.gic)) = beforeOptee b := by
  unfold runtimeSvcInit
  rw [pmSetup_eq b.pmVersionOk rfl, optee]
  rfl

theorem beforeOptee_contexts (b : Boot) :
    (∀ c, ((beforeOptee b).routing.ctx c .nonSecure).isSome = true) ∧
      ((beforeOptee b).routing.ctx b.primary .secure).isSome = true := by
  unfold beforeOptee cmSetContext
  constructor
  · intro c
    by_cases same : c = b.primary
    · subst same
      simp
    · simp [same]
  · simp

/-- Only the primary core is on. -/
theorem beforeOptee_aff {b : Boot} {c : Core} {a : AffState} (here : (beforeOptee b).aff c = a) :
    (c = b.primary ∧ a = .on) ∨ a = .off := by
  have now : Function.update (fun _ => AffState.off) b.primary .on c = a := here
  rcases aff_update_cases now with ⟨same, on⟩ | ⟨_, off⟩
  · exact Or.inl ⟨same, on.symm⟩
  · exact Or.inr off.symm

theorem swdtInit_eq {s : El3} (free : s.table ⟨irqTtc20, by decide⟩ = none) :
    zynqmpSwdtInit s =
      { s with
        gic := swdtGicInit s.gic
        table := Function.update s.table ⟨irqTtc20, by decide⟩ (some .ttc2)
        ttc2Running := true } := by
  have filled := request_free { s with gic := swdtGicInit s.gic } (BitVec.ofNat 32 irqTtc20) .ttc2
    ⟨irqTtc20, by decide⟩ rfl free
  unfold zynqmpSwdtInit
  dsimp only
  rw [filled]

theorem opteedReturnEntryDone_eq {c : Core} {s : El3} (fiqEn : s.gic.fiqEn c = true)
    (free : (s.routing.descs .sEl1).handler = none) :
    ∃ r, opteedReturnEntryDone c s = some { s with routing := r } ∧
      Registration c true .sEl1 .opteedSel1 2#32 s.routing r := by
  obtain ⟨r, success, done⟩ :=
    register_ok (c := c) (h := TypeHandler.opteedSel1) free (by decide : 2#32 &&& _ = 0#32)
      (by decide)
  refine ⟨r, ?_, done⟩
  unfold opteedReturnEntryDone
  rw [fiqEn, success]

theorem bl31PlatRuntimeSetup_eq {c : Core} {s : El3} (fiqEn : s.gic.fiqEn c = true)
    (free : (s.routing.descs .el3).handler = none) :
    ∃ r, bl31PlatRuntimeSetup c s = some (zynqmpSwdtInit { s with routing := r }) ∧
      Registration c true .el3 .rdoEl3 3#32 s.routing r := by
  obtain ⟨r, success, done⟩ :=
    register_ok (c := c) (h := TypeHandler.rdoEl3) free (by decide : 3#32 &&& _ = 0#32) (by decide)
  refine ⟨r, ?_, done⟩
  unfold bl31PlatRuntimeSetup
  rw [fiqEn, success]

/-- **The cold boot with OP-TEE does not panic, and EL3 is up behind it**, with the timer running
and its interrupt aimed at every core. -/
theorem bl31Main_up (b : Boot) (optee : b.optee = .up) :
    ∃ s, bl31Main b = some s ∧ Up b.pmVersionOk s ∧ Aimed s.gic ∧ s.ttc2Running = true ∧
      s.gic.itLines = b.gic.itLines := by
  have fiqEn : (platArmGicInit b.primary b.gic).fiqEn b.primary = true := Function.update_self ..
  obtain ⟨nonSecure, secure⟩ := beforeOptee_contexts b
  -- OP-TEE comes back, and its dispatcher registers S-EL1
  let first := cmInitContext b.primary b.secureScr (opteeEntryPoint b.opteeRw64)
    (beforeOptee b).routing
  obtain ⟨r, entered, sEl1⟩ :=
    opteedReturnEntryDone_eq (c := b.primary) (s := { beforeOptee b with routing := first }) fiqEn
      rfl
  -- the context of BL33, and then the platform registers EL3
  obtain ⟨r', setUp, el3⟩ := bl31PlatRuntimeSetup_eq (c := b.primary)
    (s := bl31PrepareNextImageEntry b { beforeOptee b with routing := r }) fiqEn
    (by
      change (r.descs .el3).handler = none
      rw [sEl1.others .el3 (by decide)]
      rfl)
  have there (c : Core) (w : World) (before : ((beforeOptee b).routing.ctx c w).isSome = true) :
      ((bl31PrepareNextImageEntry b { beforeOptee b with routing := r }).routing.ctx c w).isSome =
        true := by
    unfold bl31PrepareNextImageEntry
    rw [init_contexts, sEl1.contexts, init_contexts]
    exact before
  obtain ⟨routed, takes⟩ := el3.el3_routed (by
    change (r.descs .sEl1).handler.isSome = true
    rw [sEl1.handler]
    rfl)
  have handlerSEl1 : (r'.descs .sEl1).handler = some .opteedSel1 := by
    rw [el3.others .sEl1 (by decide)]
    exact sEl1.handler
  have handlerNs : (r'.descs .ns).handler = none := by
    rw [el3.others .ns (by decide)]
    change (r.descs .ns).handler = none
    rw [sEl1.others .ns (by decide)]
    rfl
  have free : (pmTable b.pmVersionOk) ⟨irqTtc20, by decide⟩ = none := by
    cases b.pmVersionOk <;> rfl
  refine ⟨{ beforeOptee b with
    gic := swdtGicInit (platArmGicInit b.primary b.gic)
    routing := r'
    table := Function.update (pmTable b.pmVersionOk) ⟨irqTtc20, by decide⟩ (some .ttc2)
    ttc2Running := true }, ?_, ?_, aimed_swdtGicInit _, rfl, ?_⟩
  · unfold bl31Main opteedInit
    rw [runtimeSvcInit_eq b optee, optee]
    dsimp only
    rw [entered, Option.bind_some, setUp, swdtInit_eq free]
    rfl
  · exact {
      routed := routed
      onlyEl3 := fun type here => by
        cases type with
        | el3 => rfl
        | sEl1 => exact absurd (handlerSEl1.symm.trans here) (by decide)
        | ns => exact absurd (handlerNs.symm.trans here) (by decide)
      onlySEl1 := fun type here => by
        cases type with
        | el3 => exact absurd (el3.handler.symm.trans here) (by decide)
        | sEl1 => rfl
        | ns => exact absurd (handlerNs.symm.trans here) (by decide)
      contexts := fun c => by
        rw [el3.contexts]
        exact there c _ (nonSecure c)
      on := fun c here w => by
        rcases beforeOptee_aff here with ⟨rfl, _⟩ | impossible
        · refine takes w (there _ w ?_)
          cases w with
          | secure => exact secure
          | nonSecure => exact nonSecure _
        · exact absurd impossible (by decide)
      pending := fun c here => by
        rcases beforeOptee_aff here with ⟨_, impossible⟩ | impossible <;>
          exact absurd impossible (by decide)
      distributor := rfl
      interface := fun c here => by
        rcases beforeOptee_aff here with ⟨rfl, _⟩ | impossible
        · exact ⟨Function.update_self .., Function.update_self ..⟩
        · exact absurd impossible (by decide)
      owns := owns_boot b.pmVersionOk }
  · obtain ⟨spi, same⟩ := distifInit_frame b.primary b.gic
    change (distifInit b.primary b.gic).itLines = b.gic.itLines
    rw [same]

end BootUp

/-- **Every core that is on takes FIQs to EL3, from OP-TEE as from Linux**: after a cold boot with
OP-TEE, which does not panic, and whatever happens then. -/
theorem fiq_routed (b : Boot) (optee : b.optee = .up) :
    ∃ s, bl31Main b = some s ∧ ∀ ops c, (s.after ops).aff c = .on →
      ∀ w, (s.after ops).routing.takesFiq c w = true := by
  obtain ⟨s, booted, up, _⟩ := bl31Main_up b optee
  exact ⟨s, booted, fun ops => (up.after ops).on⟩

/-- A ZCU102: the GIC out of reset, and OP-TEE comes up. -/
def zcu102 : Boot where
  primary := Core.boot
  gic :=
    { itLines := 5
      distGrp0 := false
      banked := fun _ _ => ⟨false, false, 0#8, 0#8, false⟩
      spi := fun _ => ⟨false, false, 0#8, 0#8, false⟩
      cpuGrp0 := fun _ => false
      fiqEn := fun _ => false }
  pmVersionOk := true
  optee := .up
  opteeRw64 := true
  bl33Rw64 := true
  bl33Hyp := true
  secureScr := 0x30#64
  nonSecureScr := 0x30#64

/-- Linux switches core 1 on. -/
def secondaryOn : List Op :=
  [.cpuOn Core.second true 0x30#64 true true, .cpuOnFinish Core.second 0x30#64 true]

theorem fiq_routed_secondaryOn :
    (bl31Main zcu102).map (fun s => (s.after secondaryOn).aff 1) = some .on ∧
      ∃ s, bl31Main zcu102 = some s ∧
        ∀ w, (s.after secondaryOn).routing.takesFiq 1 w = true := by
  have on : (bl31Main zcu102).map (fun s => (s.after secondaryOn).aff 1) = some .on := by decide
  obtain ⟨s, booted, routed⟩ := fiq_routed zcu102 rfl
  refine ⟨on, s, booted, routed secondaryOn 1 ?_⟩
  rw [booted] at on
  exact Option.some.inj on

/-! ### Which handler runs -/

section Dispatch

/-- **What the exception handler does**, for every reading of the GIC: it runs a handler of the
platform when the first reading is a number of Group 0 and the second one its own, it never gets to
the handler of S-EL1, and up to the call it changes nothing in EL3 but the two beacons. -/
structure Dispatches (pm : Bool) (s : El3) : Prop where
  ttc2 : ∀ hppir hppir' ahppir,
    (handleInterruptException hppir hppir' ahppir s).1 = .el3 .ttc2 ↔
      hppir &&& intIdMask < pendingG1Intid ∧
        (platIcGetPendingInterruptId hppir' ahppir).toNat = irqTtc20
  ttc3 : ∀ hppir hppir' ahppir,
    (handleInterruptException hppir hppir' ahppir s).1 = .el3 .ttc3 ↔
      hppir &&& intIdMask < pendingG1Intid ∧ pm = true ∧
        (platIcGetPendingInterruptId hppir' ahppir).toNat = irqTtc31
  sgi7 : ∀ hppir hppir' ahppir,
    (handleInterruptException hppir hppir' ahppir s).1 = .el3 .sgi7 ↔
      hppir &&& intIdMask < pendingG1Intid ∧ pm = true ∧
        (platIcGetPendingInterruptId hppir' ahppir).toNat = armIrqSecSgi7
  neverSEl1 : ∀ hppir hppir' ahppir, (handleInterruptException hppir hppir' ahppir s).1 ≠ .opteed
  frame : ∀ hppir hppir' ahppir, ∃ count id,
    (handleInterruptException hppir hppir' ahppir s).2 =
      { s with dbgEntryCnt := count, dbgIntrId := id }

variable {pm : Bool} {s : El3}

/-- With EL3 up, a number of Group 0 goes to the table. -/
theorem Up.handle_group0 (up : Up pm s) {hppir : BitVec 32} (hppir' ahppir : BitVec 32)
    (group0 : hppir &&& intIdMask < pendingG1Intid) :
    (handleInterruptException hppir hppir' ahppir s).1 =
      (rdoEl3InterruptHandler hppir' ahppir s).1.elim .nobody .el3 := by
  unfold handleInterruptException platIcGetPendingInterruptType
  simp only [group0, if_true, up.routed.el3]

/-- Anything else goes to nobody of the platform. -/
theorem Up.handle_other (up : Up pm s) {hppir : BitVec 32} (hppir' ahppir : BitVec 32)
    (other : ¬ hppir &&& intIdMask < pendingG1Intid) :
    (handleInterruptException hppir hppir' ahppir s).1 = .nobody ∨
      ∃ name, (handleInterruptException hppir hppir' ahppir s).1 = .service name := by
  unfold handleInterruptException platIcGetPendingInterruptType
  simp only [other, if_false]
  by_cases spurious : hppir &&& intIdMask = gicSpuriousInterrupt
  · simp [spurious]
  · simp only [spurious, if_false]
    cases registered : (s.routing.descs .ns).handler with
    | none => exact Or.inl rfl
    | some h =>
      cases h with
      | rdoEl3 => exact absurd (up.onlyEl3 .ns registered) (by decide)
      | opteedSel1 => exact absurd (up.onlySEl1 .ns registered) (by decide)
      | service name => exact Or.inr ⟨name, rfl⟩

/-- The handler that is called, from the slot it is in. -/
theorem rdo_eq_some (hppir ahppir : BitVec 32) (h : El3Handler) :
    (rdoEl3InterruptHandler hppir ahppir s).1 = some h ↔
      ∃ bound : (platIcGetPendingInterruptId hppir ahppir).toNat < maxIntrEl3,
        s.table ⟨_, bound⟩ = some h := by
  unfold rdoEl3InterruptHandler
  dsimp only
  split
  · rename_i bound
    exact ⟨fun here => ⟨bound, here⟩, fun ⟨_, here⟩ => here⟩
  · rename_i out
    exact ⟨fun here => absurd here (by simp), fun ⟨bound, _⟩ => absurd bound out⟩

/-- An owner of a slot runs exactly on its number. -/
theorem Up.handle_iff (up : Up pm s) {h : El3Handler} (mine : Prop) (number : Nat)
    (small : number < maxIntrEl3) (owns : ∀ id, s.table id = some h ↔ mine ∧ id.val = number)
    (hppir hppir' ahppir : BitVec 32) :
    (handleInterruptException hppir hppir' ahppir s).1 = .el3 h ↔
      hppir &&& intIdMask < pendingG1Intid ∧ mine ∧
        (platIcGetPendingInterruptId hppir' ahppir).toNat = number := by
  by_cases group0 : hppir &&& intIdMask < pendingG1Intid
  · have called :
        (rdoEl3InterruptHandler hppir' ahppir s).1.elim Served.nobody Served.el3 = .el3 h ↔
          (rdoEl3InterruptHandler hppir' ahppir s).1 = some h := by
      cases (rdoEl3InterruptHandler hppir' ahppir s).1 <;> simp
    rw [up.handle_group0 hppir' ahppir group0, called, rdo_eq_some]
    simp only [owns, group0, true_and]
    exact ⟨fun ⟨_, here⟩ => here, fun here => ⟨here.2 ▸ small, here⟩⟩
  · simp only [group0, false_and, iff_false]
    rcases up.handle_other hppir' ahppir group0 with nobody | ⟨name, service⟩
    · rw [nobody]
      simp
    · rw [service]
      simp

theorem Up.dispatches (up : Up pm s) : Dispatches pm s where
  ttc2 hppir hppir' ahppir := by
    have exactly := up.handle_iff True irqTtc20 (by decide)
      (fun id => by rw [up.owns.ttc2, true_and]) hppir hppir' ahppir
    simpa only [true_and] using exactly
  ttc3 := up.handle_iff (pm = true) irqTtc31 (by decide) up.owns.ttc3
  sgi7 := up.handle_iff (pm = true) armIrqSecSgi7 (by decide) up.owns.sgi7
  neverSEl1 hppir hppir' ahppir := by
    by_cases group0 : hppir &&& intIdMask < pendingG1Intid
    · rw [up.handle_group0 hppir' ahppir group0]
      cases (rdoEl3InterruptHandler hppir' ahppir s).1 <;> simp
    · rcases up.handle_other hppir' ahppir group0 with nobody | ⟨name, service⟩
      · rw [nobody]
        simp
      · rw [service]
        simp
  frame := handle_frame s

end Dispatch

/-- **Exact dispatch**, in every state after the boot. -/
theorem dispatch_exact (b : Boot) (optee : b.optee = .up) :
    ∃ s, bl31Main b = some s ∧ ∀ ops, Dispatches b.pmVersionOk (s.after ops) := by
  obtain ⟨s, booted, up, _⟩ := bl31Main_up b optee
  exact ⟨s, booted, fun ops => (up.after ops).dispatches⟩

/-- An SGI7 that is no longer pending at the second reading runs nothing. -/
theorem dispatch_exact_zcu102 :
    ∃ s, bl31Main zcu102 = some s ∧
      (handleInterruptException 15#32 15#32 1023#32 (s.after secondaryOn)).1 = .el3 .sgi7 ∧
      (handleInterruptException 15#32 1023#32 1023#32 (s.after secondaryOn)).1 ≠ .el3 .sgi7 := by
  obtain ⟨s, booted, dispatches⟩ := dispatch_exact zcu102 rfl
  refine ⟨s, booted, ?_, ?_⟩
  · exact ((dispatches secondaryOn).sgi7 ..).mpr (by decide)
  · intro runs
    exact absurd (((dispatches secondaryOn).sgi7 ..).mp runs) (by decide)

end TrustzoneWatchdog.Firmware
