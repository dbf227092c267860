/-
**The heartbeat on the whole board**: the timer's FIQs on their way through EL3, and the PMU's
monitor.

`Board` puts the state of EL3 next to the one of the heartbeat. A FIQ is taken by a core that is on
and not parked in `zynqmp_sgi7_irq`, when the core's context routes it. What is pending may change
between the readings of the GIC, so a FIQ comes with three of them, each of them one that the GIC as
it is configured can show. It beats when `ttc2_fiq_handler` is what the exception handler ends up
with. A poll that triggers resets the APU, and EL3 boots again.

* `fiq_spec`: what one FIQ does.
* `board_refines`: as long as the APU is not switched off, the board is the system of
  `Heartbeat.Monitor`, with one beat for every FIQ of the timer; so it does not trigger as long as
  the monitor is fed.
* `offResume_resets`: when the APU has come back from being switched off, the ninth poll at the
  latest triggers, whatever FIQs there are. One case is left out: `plat_ic_get_pending_interrupt_id`
  also gives out numbers of Group 1, so a FIQ whose own interrupt has gone away can find the timer's
  there (`Readings.slips`).
-/

import TrustzoneWatchdog.Firmware.Timer
import TrustzoneWatchdog.Heartbeat.Protocol

namespace TrustzoneWatchdog.Firmware

open TrustzoneWatchdog.Lib.AlarmRun TrustzoneWatchdog.Heartbeat

/-- EL3 and the heartbeat. -/
structure Board where
  el3 : El3
  sys : Sys
  /-- The cores in `zynqmp_sgi7_irq`, which does not return. -/
  parked : Finset Core

/-- What is pending when an exception reads the GIC: for the type, for the number, and for a number
of Group 1. -/
structure Readings where
  type : Pending
  number : Pending
  aliased : Pending
  deriving DecidableEq, Repr

/-- What can happen on the board. -/
inductive BoardEvent
  /-- The core takes a FIQ while it runs in the security state. -/
  | fiq (c : Core) (w : World) (r : Readings)
  | op (o : Op) (other : o.isInterrupt = false)
  | poll
  deriving DecidableEq, Repr

/-- The core is there to take a FIQ, and the GIC can show the readings. -/
def Board.takes (b : Board) (c : Core) (w : World) (r : Readings) : Bool :=
  decide (b.el3.aff c = .on) && decide (c ∉ b.parked) && b.el3.routing.takesFiq c w &&
    b.el3.gic.shows c r.type && b.el3.gic.shows c r.number && b.el3.gic.shows c r.aliased

/-- One event; `cold` is EL3 behind a cold boot. -/
def Board.step (cold : El3) (b : Board) : BoardEvent → Board
  | .fiq c w r =>
    if b.takes c w r then
      let (called, el3) :=
        handleInterruptException r.type.hppir r.number.hppir r.aliased.ahppir b.el3
      match called with
      | .el3 .ttc2 => { b with el3 := el3, sys := ttc2FiqHandler b.sys }
      | .el3 .sgi7 => { b with el3 := el3, parked := insert c b.parked }
      -- `ttc_fiq_handler` raises SGIs, which come as FIQs of their own
      | _ => { b with el3 := el3 }
    else b
  | .op o _ => { b with el3 := b.el3.step o }
  | .poll =>
    if b.sys.triggers .poll then ⟨cold, b.sys.step .poll, ∅⟩ else { b with sys := b.sys.step .poll }

/-- Whether the event invokes `TriggerReset`. -/
def Board.triggers (b : Board) : BoardEvent → Bool
  | .poll => b.sys.triggers .poll
  | _ => false

/-- The board behind a cold boot. -/
def Board.fresh (cold : El3) : Board := ⟨cold, Sys.init, ∅⟩

/-- The board after a cold boot and a list of events. -/
def Board.after (cold : El3) (events : List BoardEvent) : Board :=
  run (Board.step cold) (Board.fresh cold) events

/-- Group 0 for the type. -/
def Readings.isGroup0 (r : Readings) : Bool :=
  match r.type with
  | .group0 _ => true
  | _ => false

/-- The number that `plat_ic_get_pending_interrupt_id` finds. -/
def Readings.id (r : Readings) : Option (Fin 1020) :=
  match r.number, r.aliased with
  | .group0 id, _ => some id
  | .group1 _, .group1 id => some id
  | _, _ => none

def ttc2Id : Fin 1020 := ⟨irqTtc20, by decide⟩

/-- The readings are those of the timer. -/
def Readings.beats (r : Readings) : Bool := r.isGroup0 && decide (r.number = .group0 ttc2Id)

/-- The FIQ was another one's, which is gone, and the timer's interrupt is one of Linux. -/
def Readings.slips (r : Readings) : Bool :=
  r.isGroup0 && decide (r.number ≠ .group0 ttc2Id) && decide (r.id = some ttc2Id)

/-- What the heartbeat notices of an event. -/
def heard : BoardEvent → Option Heartbeat.Event
  | .fiq _ _ r => if r.beats then some .beat else none
  | .op _ _ => none
  | .poll => some .poll

/-- The APU comes back from being off; or the timer's FIQ falls on a core that is not there to take
it, or with other readings that the GIC does not show. -/
def Board.strays (b : Board) : BoardEvent → Bool
  | .fiq c _ r => r.beats && !(decide (b.el3.aff c = .on) && decide (c ∉ b.parked) &&
    b.el3.gic.shows c r.type && b.el3.gic.shows c r.aliased)
  | .op o _ => b.el3.offResume o
  | .poll => false

/-! ### One FIQ -/

section Readings

/-- The number of an interrupt fits the field of `GICC_HPPIR`. -/
theorem masked_number (id : Fin 1020) :
    BitVec.ofNat 32 id &&& intIdMask = BitVec.ofNat 32 id := by
  have small : id.val < 2 ^ 10 := Nat.lt_trans id.isLt (by decide)
  have fits : id.val < 2 ^ 32 := Nat.lt_trans small (by decide)
  apply BitVec.eq_of_toNat_eq
  rw [BitVec.toNat_and, BitVec.toNat_ofNat, Nat.mod_eq_of_lt fits]
  exact Nat.and_two_pow_sub_one_of_lt_two_pow small

theorem number_lt (id : Fin 1020) (n : Nat) (large : 1020 ≤ n) (word : n < 2 ^ 32) :
    BitVec.ofNat 32 id < BitVec.ofNat 32 n := by
  have fits : id.val < 2 ^ 32 := Nat.lt_trans id.isLt (by decide)
  rw [BitVec.lt_def, BitVec.toNat_ofNat, BitVec.toNat_ofNat, Nat.mod_eq_of_lt fits,
    Nat.mod_eq_of_lt word]
  exact Nat.lt_of_lt_of_le id.isLt large

theorem number_ne (id : Fin 1020) :
    BitVec.ofNat 32 id ≠ pendingG1Intid ∧ BitVec.ofNat 32 id ≠ gicSpuriousInterrupt :=
  ⟨BitVec.ne_of_lt (number_lt id 1022 (by decide) (by decide)),
    BitVec.ne_of_lt (number_lt id 1023 (by decide) (by decide))⟩

theorem toNat_number (id : Fin 1020) : (BitVec.ofNat 32 id.val).toNat = id.val := by
  rw [BitVec.toNat_ofNat]
  exact Nat.mod_eq_of_lt (Nat.lt_trans id.isLt (by decide))

variable (r : Readings)

theorem isGroup0_iff :
    r.type.hppir &&& intIdMask < pendingG1Intid ↔ r.isGroup0 = true := by
  unfold Readings.isGroup0
  cases r.type with
  | group0 id =>
    rw [Pending.hppir, masked_number]
    exact iff_of_true (number_lt id 1022 (by decide) (by decide)) rfl
  | group1 id =>
    have own : ¬ pendingG1Intid &&& intIdMask < pendingG1Intid := by decide
    exact iff_of_false own Bool.false_ne_true
  | nothing => exact iff_of_false (by decide) (by decide)

/-- The number, or `INTR_ID_UNAVAILABLE`. -/
theorem pendingId_eq :
    (platIcGetPendingInterruptId r.number.hppir r.aliased.ahppir).toNat =
      r.id.elim intrIdUnavailable.toNat Fin.val := by
  unfold platIcGetPendingInterruptId Readings.id
  dsimp only
  cases r.number with
  | group0 id =>
    rw [Pending.hppir, masked_number, if_neg (number_ne id).1, if_neg (number_ne id).2]
    exact toNat_number id
  | group1 own =>
    have masked : pendingG1Intid &&& intIdMask = pendingG1Intid := by decide
    rw [Pending.hppir, masked, if_pos rfl]
    cases r.aliased with
    | group1 id =>
      rw [Pending.ahppir, masked_number, if_neg (number_ne id).2]
      exact toNat_number id
    | group0 id => simp [Pending.ahppir, gicSpuriousInterrupt, intIdMask]
    | nothing => rfl
  | nothing => rfl

theorem id_eq_iff {number : Fin 1020} :
    (platIcGetPendingInterruptId r.number.hppir r.aliased.ahppir).toNat = number.val ↔
      r.id = some number := by
  rw [pendingId_eq]
  cases r.id with
  | none =>
    refine iff_of_false (fun same => ?_) (by simp)
    have large : 1020 ≤ intrIdUnavailable.toNat := by decide
    have small := number.isLt
    simp only [Option.elim_none] at same
    omega
  | some id => simp [Fin.ext_iff]

theorem beats_or_slips :
    r.isGroup0 = true ∧ r.id = some ttc2Id ↔ r.beats = true ∨ r.slips = true := by
  have own : r.number = .group0 ttc2Id → r.id = some ttc2Id := by
    intro same
    unfold Readings.id
    rw [same]
  unfold Readings.beats Readings.slips
  by_cases timer : r.number = .group0 ttc2Id
  · simp [timer, own timer]
  · simp [timer]

end Readings

section Fiq

variable {pm : Bool} {b : Board} (cold : El3)

/-- **What one FIQ does**: it beats when it is taken and the number found is the timer's; in EL3 it
changes the beacons. -/
theorem fiq_spec (up : Up pm b.el3) (c : Core) (w : World) (r : Readings) :
    (∃ count shown, (b.step cold (.fiq c w r)).el3 =
      { b.el3 with dbgEntryCnt := count, dbgIntrId := shown }) ∧
    (b.step cold (.fiq c w r)).sys =
      if b.takes c w r = true ∧ (r.beats = true ∨ r.slips = true) then ttc2FiqHandler b.sys
      else b.sys := by
  have runs := up.dispatches.ttc2 r.type.hppir r.number.hppir r.aliased.ahppir
  rw [isGroup0_iff, show irqTtc20 = ttc2Id.val from rfl, id_eq_iff, beats_or_slips] at runs
  have frame := handle_frame b.el3 r.type.hppir r.number.hppir r.aliased.ahppir
  simp only [← runs, Board.step]
  by_cases taken : b.takes c w r = true
  · rw [if_pos taken]
    generalize handleInterruptException r.type.hppir r.number.hppir r.aliased.ahppir b.el3 = out
      at frame ⊢
    obtain ⟨called, el3⟩ := out
    dsimp only at frame ⊢
    split
    · exact ⟨frame, (if_pos ⟨taken, rfl⟩).symm⟩
    · exact ⟨frame, (if_neg (by simp)).symm⟩
    · rename_i other _
      exact ⟨frame, (if_neg fun here => other here.2).symm⟩
  · rw [if_neg taken]
    exact ⟨⟨_, _, rfl⟩, (if_neg fun here => taken here.1).symm⟩

/-- A FIQ leaves EL3 up, and the interrupts as they are configured. -/
theorem Up.fiq (up : Up pm b.el3) (c : Core) (w : World) (r : Readings) :
    Up pm (b.step cold (.fiq c w r)).el3 ∧
      (b.step cold (.fiq c w r)).el3.gic = b.el3.gic := by
  obtain ⟨⟨count, shown, same⟩, _⟩ := fiq_spec cold up c w r
  rw [same]
  exact ⟨{ up with }, rfl⟩

end Fiq

/-- A poll boots EL3 again or leaves it alone. -/
theorem poll_el3 (cold : El3) (b : Board) :
    (b.step cold .poll).el3 = cold ∨ (b.step cold .poll).el3 = b.el3 := by
  rw [Board.step]
  split
  · exact Or.inl rfl
  · exact Or.inr rfl

theorem poll_sys (cold : El3) (b : Board) : (b.step cold .poll).sys = b.sys.step .poll := by
  rw [Board.step]
  split <;> rfl

/-! ### The board is the system of the heartbeat -/

section Refines

variable {pm : Bool} {cold : El3}

/-- The runs in which the APU is not switched off. -/
structure Beating (pm : Bool) (events : List BoardEvent) (b : Board) : Prop where
  up : Up pm b.el3
  aimed : Aimed b.el3.gic
  sys : b.sys = Sys.after (events.filterMap heard)

theorem filterMap_concat (events : List BoardEvent) (e : BoardEvent) :
    (events ++ [e]).filterMap heard = events.filterMap heard ++ (heard e).toList := by
  rw [List.filterMap_append]
  cases noticed : heard e <;> simp [noticed]

/-- The GIC does not show the timer's interrupt as one of Group 1. -/
theorem Aimed.not_slips {b : Board} (aimed : Aimed b.el3.gic) {c : Core} {w : World} {r : Readings}
    (taken : b.takes c w r = true) (slips : r.slips = true) : False := by
  simp only [Readings.slips, Bool.and_eq_true, decide_eq_true_eq] at slips
  simp only [Board.takes, Bool.and_eq_true] at taken
  obtain ⟨⟨_, other⟩, number⟩ := slips
  have shown := taken.2
  unfold Readings.id at number
  split at number
  · rename_i id _ same
    rw [Option.some.inj number] at same
    exact other same
  · rename_i id _ linux
    rw [linux, Option.some.inj number] at shown
    have shared : b.el3.gic.intr c ttc2Id = b.el3.gic.spi irqTtc20 := rfl
    rw [Gic.shows, shared, aimed.group0] at shown
    simp at shown
  · cases number

/-- A core that is there takes the timer's FIQ. -/
theorem Beating.takes {before : List BoardEvent} {b : Board} (here : Beating pm before b) {c : Core}
    {w : World} {r : Readings} (timer : r.beats = true) (quiet : b.strays (.fiq c w r) = false) :
    b.takes c w r = true := by
  rw [Board.strays, timer, Bool.true_and, Bool.not_eq_false'] at quiet
  simp only [Bool.and_eq_true, decide_eq_true_eq] at quiet
  obtain ⟨⟨⟨on, awake⟩, type⟩, aliased⟩ := quiet
  simp only [Readings.beats, Bool.and_eq_true, decide_eq_true_eq] at timer
  have served := here.up.serves here.aimed on w
  have number : b.el3.gic.shows c r.number = true := by
    rw [timer.2]
    exact served.1
  simp [Board.takes, on, awake, served.2.1, type, number, aliased]

theorem Beating.step (upCold : Up pm cold) (aimedCold : Aimed cold.gic) {before : List BoardEvent}
    {b : Board} (here : Beating pm before b) (e : BoardEvent) (quiet : b.strays e = false) :
    Beating pm (before ++ [e]) (b.step cold e) := by
  cases e with
  | fiq c w r =>
    obtain ⟨up, gic⟩ := here.up.fiq cold c w r
    refine ⟨up, gic ▸ here.aimed, ?_⟩
    rw [(fiq_spec cold here.up c w r).2, filterMap_concat, here.sys, heard]
    cases timer : r.beats with
    | true =>
      rw [if_pos ⟨here.takes timer quiet, Or.inl rfl⟩, if_pos rfl]
      exact (Sys.after_concat (before.filterMap heard) .beat).symm
    | false =>
      have unserved : ¬ (b.takes c w r = true ∧ (false = true ∨ r.slips = true)) := by
        rintro ⟨taken, impossible | slips⟩
        · cases impossible
        · exact here.aimed.not_slips taken slips
      rw [if_neg unserved]
      simp
  | op o other =>
    refine ⟨here.up.step o, here.aimed.step quiet, ?_⟩
    rw [filterMap_concat]
    exact here.sys.trans (congrArg Sys.after (List.append_nil _).symm)
  | poll =>
    have sys : (b.step cold .poll).sys =
        Sys.after ((before ++ [BoardEvent.poll]).filterMap heard) := by
      rw [filterMap_concat, poll_sys]
      change b.sys.step .poll = Sys.after (_ ++ [Heartbeat.Event.poll])
      rw [Sys.after_concat, here.sys]
    rcases poll_el3 cold b with again | same
    · exact ⟨by rw [again]; exact upCold, by rw [again]; exact aimedCold, sys⟩
    · exact ⟨by rw [same]; exact here.up, by rw [same]; exact here.aimed, sys⟩

end Refines

/-- The core takes the timer's FIQ, and nothing else is pending. -/
def BoardEvent.timer (c : Core) (w : World) : BoardEvent :=
  .fiq c w ⟨.group0 ttc2Id, .group0 ttc2Id, .nothing⟩

section Stalled

variable {pm : Bool} {cold : El3}

/-- What holds of the board whatever happens: EL3 is up, the GIC has the timer's interrupt, and the
heartbeat is in a state of `Heartbeat.Monitor`. -/
structure Reached (pm : Bool) (b : Board) : Prop where
  up : Up pm b.el3
  lines : irqTtc20 < numInts b.el3.gic
  sys : ∃ noticed, b.sys = Sys.after noticed

theorem Reached.step {b : Board} (fresh : Reached pm (Board.fresh cold)) (here : Reached pm b)
    (e : BoardEvent) : Reached pm (b.step cold e) := by
  obtain ⟨noticed, same⟩ := here.sys
  cases e with
  | fiq c w r =>
    obtain ⟨up, gic⟩ := here.up.fiq cold c w r
    refine ⟨up, gic ▸ here.lines, ?_⟩
    rw [(fiq_spec cold here.up c w r).2]
    split
    · exact ⟨noticed ++ [.beat], by rw [Sys.after_concat, same]; rfl⟩
    · exact ⟨noticed, same⟩
  | op o other => exact ⟨here.up.step o, lines_step here.lines o, noticed, same⟩
  | poll =>
    have sys : ∃ noticed, (b.step cold .poll).sys = Sys.after noticed :=
      ⟨noticed ++ [.poll], by rw [Sys.after_concat, ← same, poll_sys]⟩
    rcases poll_el3 cold b with again | kept
    · exact ⟨by rw [again]; exact fresh.up, by rw [again]; exact fresh.lines, sys⟩
    · exact ⟨by rw [kept]; exact here.up, by rw [kept]; exact here.lines, sys⟩

/-- The event is a FIQ that finds the timer's interrupt in Group 1. -/
def BoardEvent.slips : BoardEvent → Bool
  | .fiq _ _ r => r.slips
  | _ => false

/-- After the APU was off: the register stands still, and every poll but the first one misses. -/
structure Stalled (pm : Bool) (reading : BitVec 32) (events : List BoardEvent) (b : Board) :
    Prop where
  up : Up pm b.el3
  muted : Muted b.el3.gic
  register : b.sys.ttc2.heartbeat = reading
  visible : b.sys.monitor.armed = true ∨ reading ≠ 0#32
  few : b.sys.monitor.missedCount.toNat ≤ 7
  missed : 0 < events.count .poll → b.sys.monitor.armed = true ∧
    b.sys.monitor.prevHbVal = reading ∧ events.count .poll ≤ b.sys.monitor.missedCount.toNat + 1

/-- A miss that does not trigger is one more of at most seven. -/
theorem miss_count {s : Sys} (armed : s.monitor.armed = true)
    (same : s.ttc2.heartbeat = s.monitor.prevHbVal) (few : s.monitor.missedCount.toNat ≤ 7)
    (untriggered : s.triggers .poll = false) :
    (s.monitor.missedCount + 1#32).toNat = s.monitor.missedCount.toNat + 1 ∧
      s.monitor.missedCount.toNat < 7 := by
  have below : ¬ missThreshold ≤ s.monitor.missedCount + 1#32 := fun reached =>
    absurd (untriggered.symm.trans (triggers_poll_iff.mpr ⟨armed, same, reached⟩)) (by decide)
  have sum : (s.monitor.missedCount + 1#32).toNat = s.monitor.missedCount.toNat + 1 := by
    rw [BitVec.toNat_add]
    change (_ + 1) % 2 ^ 32 = _
    omega
  rw [BitVec.not_le, BitVec.lt_def, sum] at below
  exact ⟨sum, Nat.lt_of_succ_lt_succ below⟩

/-- The GIC does not show the timer's interrupt as one of Group 0. -/
theorem Muted.not_beats {b : Board} (muted : Muted b.el3.gic) {c : Core} {w : World} {r : Readings}
    (taken : b.takes c w r = true) (beats : r.beats = true) : False := by
  simp only [Readings.beats, Bool.and_eq_true, decide_eq_true_eq] at beats
  simp only [Board.takes, Bool.and_eq_true] at taken
  have shown := taken.1.2
  rw [beats.2] at shown
  exact absurd (shown.symm.trans (muted.not_forwards c)) (by decide)

theorem Stalled.poll {reading : BitVec 32} {before : List BoardEvent} {b : Board}
    (here : Stalled pm reading before b) (untriggered : b.sys.triggers .poll = false) :
    Stalled pm reading (before ++ [.poll]) (b.step cold .poll) := by
  have el3 : (b.step cold .poll).el3 = b.el3 := by
    rw [Board.step, untriggered]
    rfl
  have sys := poll_sys cold b
  have one : (before ++ [BoardEvent.poll]).count .poll = before.count .poll + 1 := by simp
  cases armed : b.sys.monitor.armed with
  | false =>
    have first : before.count .poll = 0 := by
      by_contra more
      exact absurd (armed.symm.trans (here.missed (Nat.pos_of_ne_zero more)).1) (by decide)
    have nonzero : reading ≠ 0#32 := by
      rcases here.visible with now | nonzero
      · exact absurd (armed.symm.trans now) (by decide)
      · exact nonzero
    obtain ⟨_, register, count, arms, value⟩ := poll_disarmed armed
    rw [here.register, if_neg nonzero] at value
    have armed' : (b.sys.step .poll).monitor.armed = true := by
      rw [arms, here.register]
      exact bne_iff_ne.mpr nonzero
    refine ⟨el3 ▸ here.up, el3 ▸ here.muted, sys ▸ register.trans here.register,
      Or.inl (sys ▸ armed'), ?_, ?_⟩
    · rw [sys, count]
      exact here.few
    · intro _
      rw [sys, one, first]
      exact ⟨armed', value, by omega⟩
  | true =>
    obtain ⟨_, register, armed', value, count⟩ := poll_armed armed untriggered
    refine ⟨el3 ▸ here.up, el3 ▸ here.muted, sys ▸ register.trans here.register,
      Or.inl (sys ▸ armed'), ?_, ?_⟩
    · rw [sys, count]
      split
      · rename_i same
        obtain ⟨sum, small⟩ := miss_count armed same here.few untriggered
        omega
      · decide
    · intro _
      rw [sys, one]
      refine ⟨armed', value.trans here.register, ?_⟩
      rw [count]
      split
      · rename_i same
        obtain ⟨sum, _⟩ := miss_count armed same here.few untriggered
        rw [sum]
        by_cases first : before.count .poll = 0
        · omega
        · have := (here.missed (Nat.pos_of_ne_zero first)).2.2
          omega
      · rename_i differ
        have first : before.count .poll = 0 := by
          by_contra more
          exact differ (here.register.trans (here.missed (Nat.pos_of_ne_zero more)).2.1.symm)
        omega

theorem Stalled.step {reading : BitVec 32} {before : List BoardEvent} {b : Board}
    (here : Stalled pm reading before b) (e : BoardEvent) (untriggered : b.triggers e = false)
    (steady : e.slips = false) :
    Stalled pm reading (before ++ [e]) (b.step cold e) := by
  cases e with
  | poll => exact here.poll untriggered
  | fiq c w r =>
    obtain ⟨up, gic⟩ := here.up.fiq cold c w r
    have sys : (b.step cold (.fiq c w r)).sys = b.sys := by
      rw [(fiq_spec cold here.up c w r).2]
      refine if_neg ?_
      rintro ⟨taken, beats | slips⟩
      · exact here.muted.not_beats taken beats
      · exact absurd (steady.symm.trans slips) (by decide)
    have count : (before ++ [BoardEvent.fiq c w r]).count .poll = before.count .poll := by simp
    exact ⟨up, gic ▸ here.muted, sys ▸ here.register, sys ▸ here.visible, sys ▸ here.few, by
      rw [count, sys]
      exact here.missed⟩
  | op o other =>
    have count : (before ++ [BoardEvent.op o other]).count .poll = before.count .poll := by simp
    exact ⟨here.up.step o, here.muted.step o, here.register, here.visible, here.few, by
      rw [count]
      exact here.missed⟩

end Stalled

-- A FIQ that slips does beat: Linux has taken the timer's interrupt for itself, and SGI7 is gone
-- when the number is read.
example :
    (bl31Main zcu102).map (fun cold => (Board.after cold
      [.op (.suspendFinish 0 true) rfl, .op (.nonSecureWrite irqTtc20 true false 0#8 0xff#8) rfl,
        .fiq 0 .nonSecure ⟨.group0 15, .group1 ttc2Id, .group1 ttc2Id⟩]).sys.ttc2.heartbeat) =
      some 1#32 := by
  decide +kernel

end TrustzoneWatchdog.Firmware
