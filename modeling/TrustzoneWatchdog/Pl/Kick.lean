/-
**Do the kick wires agree with the register file?**

A write to `KICK` is decoded twice: by the register file, lane by lane under `S_AXI_WSTRB`, and by
`reg2_wr` and the three kick wires, which take `S_AXI_WDATA` as it is. `KicksAgree` asks that a dog
is kicked exactly when the write puts a one into its bit of the register.

* `strobed_getLsbD`: what the strobed write leaves in a bit of byte lane 0.
* `awready_clock`: `axi_awready` goes up at the edge that latches the address.
* `latched_awaddr`: an accepted write goes to the address the master presents in the same clock.
* `kicksAgree_iff`: the two agree exactly when no write to `KICK` carries a one in a lane 0 that is
  not strobed.
* `kicksAgree_refuted`: `0x7` written to `KICK` with the strobes `1110` kicks all three dogs.
-/

import TrustzoneWatchdog.Pl.WriteChannel

namespace TrustzoneWatchdog.Pl

open TrustzoneWatchdog.Lib.Clocked TrustzoneWatchdog.Lib.Countdown

theorem Dog.bit_lt (dog : Dog) : dog.bit < 8 := by
  cases dog <;> decide

/-- Byte lane 0 of a strobed write. -/
theorem strobed_getLsbD (old data : BitVec 32) (strobe : BitVec 4) {bit : Nat} (low : bit < 8) :
    (strobed old data strobe).getLsbD bit =
      if strobe.getLsbD 0 then data.getLsbD bit else old.getLsbD bit := by
  unfold strobed byteLane
  rw [BitVec.getLsbD_append, if_pos low, BitVec.getLsbD_extractLsb']
  simp only [low, decide_true, Bool.true_and, Nat.mul_zero, Nat.zero_add]
  split <;> rfl

namespace AxiSlave

/-- A write is accepted in this clock: address and data are taken, and the slave is not in reset. -/
def acceptsWrite (s : AxiSlave) (i : AxiInput) : Bool :=
  i.aresetn && s.awHandshake i && s.wHandshake i

/-- The master does not exchange an address that is still waiting for one it presents in its place;
it may withdraw it. -/
def KeepsAddress (run : Nat → AxiSlave) (input : Nat → AxiInput) : Prop :=
  ∀ n, (input n).awvalid = true → (run n).axiAwready = false → (input (n + 1)).awvalid = true →
    (input (n + 1)).awaddr = (input n).awaddr

/-- **The kick wires agree with the strobed register write.** -/
structure KicksAgree (run : Nat → AxiSlave) (input : Nat → AxiInput) : Prop where
  /-- A dog is kicked exactly when the write selects `KICK`, strobes lane 0 and sets its bit. -/
  decoded : ∀ n dog, (run n).acceptsWrite (input n) = true →
    ((run n).kick (input n) dog = true ↔ select (input n).awaddr = select 0x08 ∧
      (input n).wstrb.getLsbD 0 = true ∧ (input n).wdata.getLsbD dog.bit = true)
  /-- That is: exactly when the register file takes a one into that bit, whatever it held. -/
  transferred : ∀ n dog, (run n).acceptsWrite (input n) = true →
    ((run n).kick (input n) dog = true ↔ select (input n).awaddr = select 0x08 ∧
      ∀ old, (strobed old (input n).wdata (input n).wstrb).getLsbD dog.bit = true)
  /-- A write to `KICK` that does not strobe lane 0 leaves enabled counters counting. -/
  counting : ∀ n, (run n).acceptsWrite (input n) = true →
    select (input n).awaddr = select 0x08 → (input n).wstrb.getLsbD 0 = false →
    (run n).enable = true → ∀ dog,
    ((run (n + 1)).core.counter dog).toNat = ((run n).core.counter dog).toNat - 1

/-! ### One accepted write -/

/-- The register file takes a one exactly from a strobed lane. -/
theorem strobed_one_iff (data : BitVec 32) (strobe : BitVec 4) (dog : Dog) :
    (∀ old, (strobed old data strobe).getLsbD dog.bit = true) ↔
      strobe.getLsbD 0 = true ∧ data.getLsbD dog.bit = true := by
  constructor
  · intro takes
    have fromZero := takes 0
    rw [strobed_getLsbD _ _ _ dog.bit_lt] at fromZero
    cases lane : strobe.getLsbD 0 with
    | false =>
      rw [lane] at fromZero
      simp at fromZero
    | true =>
      rw [lane] at fromZero
      exact ⟨rfl, fromZero⟩
  · rintro ⟨lane, one⟩ old
    rw [strobed_getLsbD _ _ _ dog.bit_lt, lane, if_pos rfl, one]

section Accepted

variable {s : AxiSlave} {i : AxiInput}

theorem acceptsWrite_iff : s.acceptsWrite i = true ↔
    i.aresetn = true ∧ s.slvRegWren i = true ∧ i.awvalid = true ∧ s.axiAwready = true := by
  rw [acceptsWrite, slvRegWren_eq, awHandshake]
  simp only [Bool.and_eq_true]
  tauto

/-- The kick decoder looks at the address and the data only. -/
theorem kick_iff (accepted : s.acceptsWrite i = true) (latched : s.axiAwaddr = i.awaddr)
    (dog : Dog) :
    s.kick i dog = true ↔ select i.awaddr = select 0x08 ∧ i.wdata.getLsbD dog.bit = true := by
  obtain ⟨_, written, _⟩ := acceptsWrite_iff.mp accepted
  have kickWord : select 0x08 = 2 := by decide
  rw [kick_eq, reg2Wr, written, latched, kickWord, Bool.true_and, Bool.and_eq_true, beq_iff_eq]

/-- `axi_awready` goes up at the edge that latches the address. -/
theorem awready_clock (ready : (s.clock i).axiAwready = true) :
    s.axiAwready = false ∧ i.awvalid = true ∧ (s.clock i).axiAwaddr = i.awaddr := by
  simp only [clock, awNext] at ready
  split_ifs at ready with low taken
  have active : i.aresetn = true := by simpa using low
  have address : (s.clock i).axiAwaddr = i.awaddr := by
    simp only [clock, awaddrNext, taken, active, Bool.not_true, Bool.false_eq_true, if_false,
      if_true]
  simp only [Bool.and_eq_true, Bool.not_eq_true'] at taken
  exact ⟨taken.1.1.1, taken.1.1.2, address⟩

end Accepted

/-! ### Runs -/

section Run

variable {start : AxiSlave} {input : Nat → AxiInput}

/-- **The address of an accepted write** is the one presented in the same clock. -/
theorem latched_awaddr (reset : start.AfterReset)
    (keeps : KeepsAddress (stateAt clock start input) input) {n : Nat}
    (accepted : (stateAt clock start input n).acceptsWrite (input n) = true) :
    (stateAt clock start input n).axiAwaddr = (input n).awaddr := by
  obtain ⟨_, _, awvalid, awready⟩ := acceptsWrite_iff.mp accepted
  cases n with
  | zero => exact absurd (awready.symm.trans reset.cleared.1) (by decide)
  | succ n =>
    -- the address was latched at the edge before, and is still presented
    obtain ⟨low, valid, address⟩ := awready_clock awready
    rw [stateAt_succ, address, keeps n valid low awvalid]

/-- **Exactly when the kick wires agree with the register file**: when no accepted write to `KICK`
has a dog's bit set in a lane 0 that is not strobed. -/
theorem kicksAgree_iff (reset : start.AfterReset)
    (keeps : KeepsAddress (stateAt clock start input) input) :
    KicksAgree (stateAt clock start input) input ↔
      ∀ n, (stateAt clock start input n).acceptsWrite (input n) = true →
        select (input n).awaddr = select 0x08 → (input n).wstrb.getLsbD 0 = false →
        ∀ dog : Dog, (input n).wdata.getLsbD dog.bit = false := by
  constructor
  · intro agree n accepted toKick unstrobed dog
    by_contra one
    have kicked := (kick_iff accepted (latched_awaddr reset keeps accepted) dog).mpr
      ⟨toKick, Bool.not_eq_false _ ▸ one⟩
    have strobed := ((agree.decoded n dog accepted).mp kicked).2.1
    exact absurd (unstrobed.symm.trans strobed) (by decide)
  · intro clean
    have decoded : ∀ n dog, (stateAt clock start input n).acceptsWrite (input n) = true →
        ((stateAt clock start input n).kick (input n) dog = true ↔
          select (input n).awaddr = select 0x08 ∧ (input n).wstrb.getLsbD 0 = true ∧
            (input n).wdata.getLsbD dog.bit = true) := by
      intro n dog accepted
      rw [kick_iff accepted (latched_awaddr reset keeps accepted)]
      constructor
      · rintro ⟨toKick, one⟩
        refine ⟨toKick, ?_, one⟩
        by_contra unstrobed
        have none := clean n accepted toKick (Bool.eq_false_iff.mpr unstrobed) dog
        exact absurd (none.symm.trans one) (by decide)
      · rintro ⟨toKick, _, one⟩
        exact ⟨toKick, one⟩
    refine ⟨decoded, fun n dog accepted => ?_, fun n accepted toKick unstrobed enabled dog => ?_⟩
    · rw [strobed_one_iff]
      exact decoded n dog accepted
    · have unkicked : (stateAt clock start input n).kick (input n) dog = false := by
        rw [← Bool.not_eq_true, decoded n dog accepted]
        rintro ⟨_, strobed, _⟩
        exact absurd (unstrobed.symm.trans strobed) (by decide)
      have active := (acceptsWrite_iff.mp accepted).1
      have idle : ((stateAt clock start input n).coreInput (input n)).load dog = none :=
        (CoreInput.load_eq_none _ _).mpr ⟨active, enabled, unkicked⟩
      have step := runsDown_counter start input dog n
      simp only [idle] at step
      rw [step, toNat_tick_none]

end Run

/-- A master that writes `0x7` to `KICK` over and over with the given strobes. -/
def kicking (strobe : BitVec 4) : Nat → AxiInput :=
  fun _ => ⟨true, 0x08, true, 7, strobe, true, true, 0, false, false⟩

/-- With all lanes strobed the wires and the register agree. -/
theorem kicksAgree_full_word :
    KicksAgree (stateAt clock resetState (kicking 0xF)) (kicking 0xF) :=
  (kicksAgree_iff afterReset_resetState fun _ _ _ _ => rfl).mpr
    fun _ _ _ unstrobed => absurd unstrobed (by decide : ¬ (0xF#4).getLsbD 0 = false)

/-- **A write that leaves `KICK` alone kicks the dogs**: with lane 0 not strobed, `0x7` changes
nothing in the register and all three kick wires are up. -/
theorem kicksAgree_refuted :
    ¬ KicksAgree (stateAt clock resetState (kicking 0xE)) (kicking 0xE) := by
  intro agree
  have accepted :
      (stateAt clock resetState (kicking 0xE) 1).acceptsWrite (kicking 0xE 1) = true := by decide
  have kicked : (stateAt clock resetState (kicking 0xE) 1).kick (kicking 0xE 1) .a = true := by
    decide
  exact absurd ((agree.decoded 1 .a accepted).mp kicked).2.1 (by decide)

end AxiSlave

end TrustzoneWatchdog.Pl
