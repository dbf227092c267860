/-
**The watchdog as its software sees it** (`pl/tmr_wdt_v1_0_S00_AXI.v`).

Behind the five AXI channels stands a simple device: eight words and three counters, and in each
clock at most one write. `Wdt` is that device, with the voter stated as what it is for: `STATUS`
counts the dogs that are out.

* `device_clock`, `device_stateAt`: the slave is this device, whatever the channels do, as long as
  the master keeps an address it has presented.
* `slave_refines_device`: and a read returns the word the device holds in the clock of its AR
  handshake, so the bus adds no state and no reordering of its own.
* `register_readback`: every byte of a register is the one last written to it through a set strobe,
  and zero if there was no such write since the reset.
-/

import TrustzoneWatchdog.Pl.Kick
import TrustzoneWatchdog.Pl.ReadChannel
import Mathlib.Logic.Function.Basic

namespace TrustzoneWatchdog.Pl

open TrustzoneWatchdog.Lib.Clocked TrustzoneWatchdog.Lib.Countdown

/-! ### The device -/

/-- What a clock brings to the registers. -/
inductive BusEvent
  | reset
  | idle
  | write (word : BitVec 3) (data : BitVec 32) (strobe : BitVec 4)
  deriving DecidableEq, Repr

/-- The dogs a clock kicks. The strobes are not looked at. -/
def BusEvent.kicks : BusEvent → Dog → Bool
  | .write word data _, dog => word == 2 && data.getLsbD dog.bit
  | _, _ => false

/-- The byte a clock puts into a lane of a register. -/
def BusEvent.puts (event : BusEvent) (word : BitVec 3) (byteIndex : Nat) : Option (BitVec 8) :=
  match event with
  | .reset => some 0
  | .idle => none
  | .write target data strobe =>
    if target = word ∧ strobe.getLsbD byteIndex then some (lane data byteIndex) else none

/-- A word from its four bytes. -/
def ofLanes (lanes : Nat → BitVec 8) : BitVec 32 := lanes 3 ++ lanes 2 ++ lanes 1 ++ lanes 0

/-- Words are equal if their bytes are. -/
theorem lane_ext {x y : BitVec 32} (same : ∀ byteIndex < 4, lane x byteIndex = lane y byteIndex) :
    x = y := by
  apply BitVec.eq_of_getLsbD_eq
  intro bit below
  have bits := congrArg (fun byte => byte.getLsbD (bit % 8)) (same (bit / 8) (by omega))
  simp only [lane, BitVec.getLsbD_extractLsb', Nat.div_add_mod, Nat.mod_lt bit (by decide : 0 < 8),
    decide_true, Bool.true_and] at bits
  exact bits

/-- The dogs that are out, counted. -/
def outCount (out : Dog → Bool) : Nat := [Dog.a, Dog.b, Dog.c].countP out

/-- The `STATUS` word of a set of dogs that are out: the dogs, two of them, all of them. -/
def statusWord (out : Dog → Bool) : BitVec 32 :=
  0#27 ++ BitVec.ofBool (outCount out == 3) ++ BitVec.ofBool (decide (2 ≤ outCount out)) ++
    BitVec.ofBool (out .c) ++ BitVec.ofBool (out .b) ++ BitVec.ofBool (out .a)

/-- Eight words and three counters. -/
@[ext]
structure Wdt where
  regs : BitVec 3 → BitVec 32
  counter : Dog → BitVec 32

namespace Wdt

def enable (d : Wdt) : Bool := (d.regs 0).getLsbD 0

def reload (d : Wdt) : BitVec 32 := if d.regs 1 ≠ 0 then d.regs 1 else 100_000_000

/-- The words after a clock: each byte is the one the clock puts there, or the one that was. -/
def store (d : Wdt) (event : BusEvent) (word : BitVec 3) : BitVec 32 :=
  ofLanes fun byteIndex => (event.puts word byteIndex).getD (lane (d.regs word) byteIndex)

/-- The load of a dog's counter in a clock, if there is one. -/
def load (d : Wdt) (event : BusEvent) (dog : Dog) : Option (BitVec 32) :=
  if event == .reset || !d.enable || event.kicks dog then some d.reload else none

def clock (d : Wdt) (event : BusEvent) : Wdt where
  regs := d.store event
  counter := fun dog => tick (d.counter dog) (d.load event dog)

/-- A dog is out: the watchdog is enabled and its counter has run down. -/
def out (d : Wdt) (dog : Dog) : Bool := d.enable && d.counter dog == 0

/-- The word a read finds. -/
def read (d : Wdt) (word : BitVec 3) : BitVec 32 :=
  match word.toNat with
  | 3 => statusWord d.out
  | 4 => d.counter .a
  | 5 => d.counter .b
  | 6 => d.counter .c
  | _ => d.regs word

/-! ### Bytes of a register -/

theorem read_plain {d : Wdt} {word : BitVec 3} (plain : word ≤ 2 ∨ word = 7) :
    d.read word = d.regs word := by
  have words : ∀ word : BitVec 3, (word ≤ 2 ∨ word = 7) →
      word = 0 ∨ word = 1 ∨ word = 2 ∨ word = 7 := by decide
  rcases words word plain with rfl | rfl | rfl | rfl <;> rfl

theorem lane_store (d : Wdt) (event : BusEvent) (word : BitVec 3) {byteIndex : Nat}
    (bound : byteIndex < 4) :
    lane (d.store event word) byteIndex =
      (event.puts word byteIndex).getD (lane (d.regs word) byteIndex) := by
  rw [store, ofLanes]
  exact lane_lanes (fun k => (event.puts word k).getD (lane (d.regs word) k)) bound

/-- A word into which nothing is put stays as it is. -/
theorem store_of_not_puts {d : Wdt} {event : BusEvent} {word : BitVec 3}
    (nothing : ∀ byteIndex, event.puts word byteIndex = none) :
    d.store event word = d.regs word := by
  refine lane_ext fun byteIndex bound => ?_
  rw [lane_store d event word bound, nothing byteIndex, Option.getD_none]

theorem store_idle (d : Wdt) : d.store .idle = d.regs :=
  funext fun _ => store_of_not_puts fun _ => rfl

theorem store_other (d : Wdt) {target word : BitVec 3} (other : target ≠ word) (data : BitVec 32)
    (strobe : BitVec 4) : d.store (.write target data strobe) word = d.regs word :=
  store_of_not_puts fun _ => if_neg fun both => other both.1

end Wdt

namespace AxiSlave

/-! ### The slave is the device -/

/-- The device inside the slave. -/
def device (s : AxiSlave) : Wdt := ⟨s.slvReg, s.core.counter⟩

/-- What a clock of the bus brings: the write is the one the master presents. -/
def bus (s : AxiSlave) (i : AxiInput) : BusEvent :=
  if !i.aresetn then .reset
  else if s.acceptsWrite i then .write (select i.awaddr) i.wdata i.wstrb
  else .idle

section Clock

variable {s : AxiSlave} {i : AxiInput}

theorem out_device (s : AxiSlave) (i : AxiInput) : s.device.out = s.timedOut i := by
  funext dog
  rw [timedOut, Core.timedOut_eq_timeout]
  rfl

/-- The voter counts. -/
theorem status_eq_statusWord (s : AxiSlave) (i : AxiInput) :
    s.status i = statusWord (s.timedOut i) := by
  have voter : s.maj2of3 i = decide (2 ≤ outCount (s.timedOut i)) ∧
      s.all3 i = (outCount (s.timedOut i) == 3) := by
    have unfolded : ∀ a b c : Bool,
        ((a && b || b && c || a && c) = decide (2 ≤ [a, b, c].countP id)) ∧
          ((a && b && c) = ([a, b, c].countP id == 3)) := by decide
    exact unfolded (s.timedOut i .a) (s.timedOut i .b) (s.timedOut i .c)
  rw [status, statusWord, voter.1, voter.2]

/-- A read finds the device's word. -/
theorem wordAt_device (s : AxiSlave) (i : AxiInput) (addr : BitVec 5) :
    s.wordAt i addr = s.device.read (select addr) := by
  have live : s.status i = statusWord s.device.out := by
    rw [status_eq_statusWord, out_device]
  have words : ∀ word : BitVec 3, word = 0 ∨ word = 1 ∨ word = 2 ∨ word = 3 ∨ word = 4 ∨
      word = 5 ∨ word = 6 ∨ word = 7 := by decide
  rw [wordAt, regDataOut, Wdt.read]
  rcases words (select addr) with here | here | here | here | here | here | here | here <;>
    rw [here]
  case inr.inr.inr.inl => exact live
  all_goals rfl

/-- The words after a clock. -/
theorem slvReg_clock (latched : s.acceptsWrite i = true → s.axiAwaddr = i.awaddr) :
    (s.clock i).slvReg = s.device.store (s.bus i) := by
  funext index
  refine lane_ext fun byteIndex bound => ?_
  show lane (s.slvRegNext i index) byteIndex = _
  rw [Wdt.lane_store _ _ _ bound, slvRegNext, bus]
  cases active : i.aresetn with
  | false => simp [BusEvent.puts, lane]
  | true =>
    cases accepted : s.acceptsWrite i with
    | false =>
      have unwritten : s.slvRegWren i = false := by
        rw [acceptsWrite, active, Bool.true_and, ← slvRegWren_eq] at accepted
        exact accepted
      rw [unwritten]
      rfl
    | true =>
      obtain ⟨_, written, _⟩ := acceptsWrite_iff.mp accepted
      rw [written, latched accepted]
      by_cases here : index = select i.awaddr
      · subst here
        cases strobed : i.wstrb.getLsbD byteIndex <;>
          simp [BusEvent.puts, device, lane_strobed _ _ _ bound, strobed,
            -BitVec.getLsbD_eq_getElem]
      · simp [BusEvent.puts, device, here, Ne.symm here]

/-- The kick wires, where they matter. -/
theorem kick_bus (latched : s.acceptsWrite i = true → s.axiAwaddr = i.awaddr)
    (active : i.aresetn = true) (dog : Dog) : s.kick i dog = (s.bus i).kicks dog := by
  rw [bus, active]
  cases accepted : s.acceptsWrite i with
  | false =>
    rw [acceptsWrite, active, Bool.true_and, ← slvRegWren_eq] at accepted
    rw [kick_eq, reg2Wr, accepted]
    rfl
  | true =>
    obtain ⟨_, written, _⟩ := acceptsWrite_iff.mp accepted
    rw [kick_eq, reg2Wr, written, latched accepted]
    rfl

/-- The loads of a clock. -/
theorem load_bus (latched : s.acceptsWrite i = true → s.axiAwaddr = i.awaddr) (dog : Dog) :
    (s.coreInput i).load dog = s.device.load (s.bus i) dog := by
  rw [CoreInput.load, Wdt.load]
  cases active : i.aresetn with
  | false =>
    have reload : s.device.reload = s.reloadEff := rfl
    simp [coreInput, bus, active, reload]
  | true =>
    have awake : (s.bus i == .reset) = false := by
      rw [bus, active]
      cases s.acceptsWrite i <;> rfl
    rw [awake, ← kick_bus latched active]
    simp only [coreInput, active]
    rfl

/-- **One clock of the slave is one clock of the device.** -/
theorem device_clock (latched : s.acceptsWrite i = true → s.axiAwaddr = i.awaddr) :
    (s.clock i).device = s.device.clock (s.bus i) := by
  refine Wdt.ext (slvReg_clock latched) ?_
  funext dog
  show (s.core.clock (s.coreInput i)).counter dog = _
  rw [Core.clock_counter, load_bus latched]
  rfl

end Clock

section Run

variable {start : AxiSlave} {input : Nat → AxiInput}

/-- The device of a run, driven by the events of its bus. -/
def deviceAt (start : AxiSlave) (input : Nat → AxiInput) : Nat → Wdt :=
  stateAt Wdt.clock start.device fun k => (stateAt clock start input k).bus (input k)

/-- Every state of a run holds the device. -/
theorem device_stateAt (reset : start.AfterReset)
    (keeps : KeepsAddress (stateAt clock start input) input) (n : Nat) :
    (stateAt clock start input n).device = deviceAt start input n := by
  induction n with
  | zero => rfl
  | succ n ih =>
    rw [stateAt_succ, device_clock fun accepted => latched_awaddr reset keeps accepted, ih]
    rfl

/-- **The slave refines the device.** Through any resets its words and counters are those of the
device under the writes of the bus. While no reset comes and no read meets a waiting response, the
responses, taken or waiting, are the device's words in the clocks of the AR handshakes, in order. -/
theorem slave_refines_device (reset : start.AfterReset)
    (keeps : KeepsAddress (stateAt clock start input) input) :
    (∀ n, (stateAt clock start input n).device = deviceAt start input n) ∧
      ((∀ n, (input n).aresetn = true) → StableReader (stateAt clock start input) input →
        (∀ n, (input n).arvalid = true → (stateAt clock start input n).axiArready = false →
          (stateAt clock start input n).axiRvalid = true → (input n).rready = true) →
        ∀ n, emitted (fun k => (stateAt clock start input k).response (input k)) n ++
            (stateAt clock start input n).pending =
          emitted (fun k => if (stateAt clock start input k).arHandshake (input k) then
            some ((deviceAt start input k).read (select (input k).araddr)) else none) n) := by
  refine ⟨device_stateAt reset keeps, fun active reader patient n => ?_⟩
  rw [emitted_response_append reset active reader
    (fun k => free_of_patient reset active reader patient) n]
  congr 1
  funext k
  rw [request, wordAt_device, device_stateAt reset keeps]

/-- **What was written is what is read.** In each byte of `CTRL`, `RELOAD`, `KICK` and the spare
word 7, a read finds the byte last put there through a set strobe, and zero where none was. -/
theorem register_readback (reset : start.AfterReset)
    (keeps : KeepsAddress (stateAt clock start input) input) (n : Nat) (addr : BitVec 5)
    (plain : select addr ≤ 2 ∨ select addr = 7) (byteIndex : Fin 4) :
    lane ((stateAt clock start input n).wordAt (input n) addr) byteIndex =
      (emitted (fun k => ((stateAt clock start input k).bus (input k)).puts (select addr)
        byteIndex) n).getLast?.getD 0 := by
  have empty : lane (start.slvReg (select addr)) byteIndex = 0 := by
    rw [reset.cleared.2.2.2.2]
    simp [lane]
  rw [wordAt_device, Wdt.read_plain plain, ← empty]
  refine register_eq_last
    (fun k => lane ((stateAt clock start input k).slvReg (select addr)) byteIndex) (fun k => ?_) n
  rw [stateAt_succ, slvReg_clock fun accepted => latched_awaddr reset keeps accepted,
    Wdt.lane_store _ _ _ byteIndex.isLt]
  rfl

end Run

/-- A master that writes `0x7` to `KICK` and reads it back, over and over. -/
def echoing : Nat → AxiInput :=
  fun _ => ⟨true, 0x08, true, 7, 0xF, true, true, 0x08, true, true⟩

/-- The first read comes too early for the first write, the later ones see it. -/
theorem slave_refines_device_echoing :
    emitted (fun k => (stateAt clock resetState echoing k).response (echoing k)) 7 ++
      (stateAt clock resetState echoing 7).pending = [0, 7, 7] :=
  ((slave_refines_device afterReset_resetState fun _ _ _ _ => rfl).2 (fun _ => rfl)
    (fun _ _ _ => ⟨rfl, rfl⟩) (fun _ _ _ _ => rfl) 7).trans (by decide)

theorem register_readback_echoing :
    lane ((stateAt clock resetState echoing 2).wordAt (echoing 2) 0x08) 0 = 7 :=
  (register_readback afterReset_resetState (fun _ _ _ _ => rfl) 2 0x08 (.inl (by decide)) 0).trans
    (by decide)

end AxiSlave

end TrustzoneWatchdog.Pl
