/-
**Every accepted write happens once and is answered once.**

`axi_awready`, `axi_wready`, `aw_en` and `axi_bvalid` are set by separate `always` blocks. After a
reset clock, and with a master that keeps what it presents until it is accepted, they only ever
form three phases:

* `idle`: `aw_en` up, the rest down;
* `accept`: both readies up, and both valids still up, with the address of the same transaction
  latched. This is the single clock of the AW and W handshakes;
* `respond`: `axi_bvalid` up, the rest down, until the response is taken.

`idle_clock`, `accept_clock` and `respond_clock` say what one clock does in each phase,
`writeInv_stateAt` that every state of a run is in one of them, and `write_exactly_once` reads the
transaction laws off the phases.
-/

import TrustzoneWatchdog.Pl.AxiSlave
import Mathlib.Data.Nat.Count

namespace TrustzoneWatchdog.Pl

open TrustzoneWatchdog.Lib.Clocked TrustzoneWatchdog.Lib.Countdown

namespace AxiSlave

/-! ### Handshakes -/

def awHandshake (s : AxiSlave) (i : AxiInput) : Bool := i.awvalid && s.axiAwready

def wHandshake (s : AxiSlave) (i : AxiInput) : Bool := i.wvalid && s.axiWready

def bHandshake (s : AxiSlave) (i : AxiInput) : Bool := s.axiBvalid && i.bready

/-- A master that keeps an address, and data with its strobes, valid and unchanged until they are
accepted. -/
structure StableMaster (run : Nat → AxiSlave) (input : Nat → AxiInput) : Prop where
  address : ∀ n, (input n).awvalid = true → (run n).axiAwready = false →
    (input (n + 1)).awvalid = true ∧ (input (n + 1)).awaddr = (input n).awaddr
  data : ∀ n, (input n).wvalid = true → (run n).axiWready = false →
    (input (n + 1)).wvalid = true ∧ (input (n + 1)).wdata = (input n).wdata ∧
      (input (n + 1)).wstrb = (input n).wstrb

/-! ### The three phases -/

/-- Where the write channel stands. -/
inductive WritePhase
  | idle
  | accept
  | respond

/-- The four control registers in each phase. -/
def InPhase (s : AxiSlave) : WritePhase → Prop
  | .idle => s.awEn = true ∧ s.axiAwready = false ∧ s.axiWready = false ∧ s.axiBvalid = false
  | .accept => s.awEn = false ∧ s.axiAwready = true ∧ s.axiWready = true ∧ s.axiBvalid = false
  | .respond => s.awEn = false ∧ s.axiAwready = false ∧ s.axiWready = false ∧ s.axiBvalid = true

theorem AfterReset.idle {s : AxiSlave} (reset : s.AfterReset) : s.InPhase .idle := by
  obtain ⟨awready, wready, bvalid, awEn, _⟩ := reset.cleared
  exact ⟨awEn, awready, wready, bvalid⟩

/-- An idle channel accepts as soon as it sees an address and data together. -/
theorem idle_clock {s : AxiSlave} {i : AxiInput} (active : i.aresetn = true)
    (idle : s.InPhase .idle) :
    if i.awvalid && i.wvalid then (s.clock i).InPhase .accept ∧ (s.clock i).axiAwaddr = i.awaddr
    else (s.clock i).InPhase .idle := by
  obtain ⟨awEn, awready, wready, bvalid⟩ := idle
  cases aw : i.awvalid <;> cases wv : i.wvalid <;>
    simp [InPhase, clock, awNext, awaddrNext, wreadyNext, bNext, active, awEn, awready, wready,
      bvalid, aw, wv]

/-- The accepting clock raises the response. -/
theorem accept_clock {s : AxiSlave} {i : AxiInput} (active : i.aresetn = true)
    (accept : s.InPhase .accept) (awvalid : i.awvalid = true) (wvalid : i.wvalid = true) :
    (s.clock i).InPhase .respond := by
  obtain ⟨awEn, awready, wready, bvalid⟩ := accept
  simp [InPhase, clock, awNext, wreadyNext, bNext, active, awEn, awready, wready, bvalid, awvalid,
    wvalid]

/-- The response waits until it is taken, and acceptance is enabled again in that clock. -/
theorem respond_clock {s : AxiSlave} {i : AxiInput} (active : i.aresetn = true)
    (respond : s.InPhase .respond) :
    if i.bready then (s.clock i).InPhase .idle else (s.clock i).InPhase .respond := by
  obtain ⟨awEn, awready, wready, bvalid⟩ := respond
  cases ready : i.bready <;>
    simp [InPhase, clock, awNext, wreadyNext, bNext, active, awEn, awready, wready, bvalid, ready]

/-- **The invariant of the write channel.** In the accepting clock both valids are up and the
latched address is the one still presented. -/
def WriteInv (s : AxiSlave) (i : AxiInput) : Prop :=
  s.InPhase .idle ∨
  (s.InPhase .accept ∧ i.awvalid = true ∧ i.wvalid = true ∧ s.axiAwaddr = i.awaddr) ∨
  s.InPhase .respond

section Run

variable {start : AxiSlave} {input : Nat → AxiInput}

theorem writeInv_stateAt (reset : start.AfterReset) (active : ∀ n, (input n).aresetn = true)
    (master : StableMaster (stateAt clock start input) input) (n : Nat) :
    WriteInv (stateAt clock start input n) (input n) := by
  refine stateAt_invariant (fun n s => WriteInv s (input n)) (Or.inl reset.idle) ?_ n
  intro n inv
  rcases inv with idle | ⟨accept, awvalid, wvalid, _⟩ | respond
  · have next := idle_clock (active n) idle
    split at next
    · rename_i both
      rw [Bool.and_eq_true] at both
      -- nothing was accepted in clock `n`, so the master still presents the same transaction
      have address := master.address n both.1 idle.2.1
      have data := master.data n both.2 idle.2.2.1
      exact Or.inr (Or.inl ⟨next.1, address.1, data.1, next.2.trans address.2.symm⟩)
    · exact Or.inl next
  · exact Or.inr (Or.inr (accept_clock (active n) accept awvalid wvalid))
  · have next := respond_clock (active n) respond
    split at next
    · exact Or.inl next
    · exact Or.inr (Or.inr next)

end Run

/-! ### What the phases say about one clock -/

section Clock

variable {s : AxiSlave} {i : AxiInput}

theorem WriteInv.together (inv : s.WriteInv i) : s.awHandshake i = s.wHandshake i := by
  rcases inv with ⟨_, awready, wready, _⟩ | ⟨⟨_, awready, wready, _⟩, awvalid, wvalid, _⟩ |
    ⟨_, awready, wready, _⟩
  · simp [awHandshake, wHandshake, awready, wready]
  · simp [awHandshake, wHandshake, awready, wready, awvalid, wvalid]
  · simp [awHandshake, wHandshake, awready, wready]

/-- The handshake is exactly the accepting phase. -/
theorem WriteInv.handshake_iff (inv : s.WriteInv i) :
    s.awHandshake i = true ↔ s.InPhase .accept := by
  constructor
  · intro shakes
    rw [awHandshake, Bool.and_eq_true] at shakes
    rcases inv with ⟨_, awready, _, _⟩ | ⟨accept, _⟩ | ⟨_, awready, _, _⟩
    · rw [awready] at shakes
      exact absurd shakes.2 (by decide)
    · exact accept
    · rw [awready] at shakes
      exact absurd shakes.2 (by decide)
  · intro accept
    rcases inv with ⟨awEn, _⟩ | ⟨_, awvalid, _, _⟩ | ⟨_, awready, _, _⟩
    · rw [accept.1] at awEn
      exact absurd awEn (by decide)
    · simp [awHandshake, awvalid, accept.2.1]
    · rw [accept.2.1] at awready
      exact absurd awready (by decide)

/-- The register file is written when both handshakes meet. -/
theorem slvRegWren_eq : s.slvRegWren i = (s.awHandshake i && s.wHandshake i) := by
  unfold slvRegWren awHandshake wHandshake
  cases s.axiAwready <;> cases s.axiWready <;> cases i.awvalid <;> cases i.wvalid <;> rfl

theorem WriteInv.wren_eq (inv : s.WriteInv i) : s.slvRegWren i = s.awHandshake i := by
  rw [slvRegWren_eq, ← inv.together, Bool.and_self]

/-- In the clock of a handshake the latched address is the transaction's own. -/
theorem WriteInv.awaddr_eq (inv : s.WriteInv i) (shakes : s.awHandshake i = true) :
    s.axiAwaddr = i.awaddr := by
  have accept := inv.handshake_iff.mp shakes
  rcases inv with ⟨awEn, _⟩ | ⟨_, _, _, address⟩ | ⟨_, awready, _, _⟩
  · rw [accept.1] at awEn
    exact absurd awEn (by decide)
  · exact address
  · rw [accept.2.1] at awready
    exact absurd awready (by decide)

theorem WriteInv.slvReg_clock (inv : s.WriteInv i) (active : i.aresetn = true) :
    (s.clock i).slvReg =
      if s.awHandshake i then
        Function.update s.slvReg (select i.awaddr)
          (strobed (s.slvReg (select i.awaddr)) i.wdata i.wstrb)
      else s.slvReg := by
  funext index
  show s.slvRegNext i index = _
  unfold slvRegNext
  rw [inv.wren_eq]
  cases shakes : s.awHandshake i with
  | false => simp [active]
  | true =>
    rw [inv.awaddr_eq shakes]
    by_cases here : index = select i.awaddr
    · subst here
      simp [active]
    · simp [active, here]

/-- A strobed lane of the selected register takes its byte of the data, the others are kept. -/
theorem WriteInv.lane_clock (inv : s.WriteInv i) (active : i.aresetn = true) (word : BitVec 3)
    {byteIndex : Nat} (bound : byteIndex < 4) :
    lane ((s.clock i).slvReg word) byteIndex =
      if s.awHandshake i = true ∧ word = select i.awaddr ∧ i.wstrb.getLsbD byteIndex = true then
        lane i.wdata byteIndex
      else lane (s.slvReg word) byteIndex := by
  rw [inv.slvReg_clock active]
  cases shakes : s.awHandshake i with
  | false => simp
  | true =>
    by_cases here : word = select i.awaddr
    · subst here
      simp [lane_strobed _ _ _ bound]
    · simp [here]

/-- One clock keeps the balance of accepted writes and responses. -/
theorem WriteInv.bvalid_clock (inv : s.WriteInv i) (active : i.aresetn = true) :
    (s.clock i).axiBvalid.toNat + (s.bHandshake i).toNat =
      s.axiBvalid.toNat + (s.awHandshake i).toNat := by
  have shakes := inv.handshake_iff
  rcases inv with idle | ⟨accept, awvalid, wvalid, _⟩ | respond
  · have next := idle_clock active idle
    have low : (s.clock i).axiBvalid = false := by
      split at next
      · exact next.1.2.2.2
      · exact next.2.2.2
    simp [low, bHandshake, awHandshake, idle.2.1, idle.2.2.2]
  · have next := accept_clock active accept awvalid wvalid
    simp [next.2.2.2, bHandshake, accept.2.2.2, shakes.mpr accept]
  · have next := respond_clock active respond
    cases ready : i.bready with
    | false =>
      rw [ready] at next
      simp [next.2.2.2, bHandshake, awHandshake, ready, respond.2.1, respond.2.2.2]
    | true =>
      rw [ready] at next
      simp [next.2.2.2, bHandshake, awHandshake, ready, respond.2.1, respond.2.2.2]

end Clock

/-! ### The transaction laws of a run -/

/-- What it means that every write is accepted, performed and answered exactly once. -/
structure ExactlyOneWrite (run : Nat → AxiSlave) (input : Nat → AxiInput) : Prop where
  /-- The AW and W handshakes occur in the same clock. -/
  together : ∀ n, (run n).awHandshake (input n) = (run n).wHandshake (input n)
  /-- A handshake puts each strobed byte of its data into the register its own address selects;
  every other byte of every register is kept, and nothing else changes any. -/
  updates : ∀ n word byteIndex, byteIndex < 4 →
    lane ((run (n + 1)).slvReg word) byteIndex =
      if (run n).awHandshake (input n) = true ∧ word = select (input n).awaddr ∧
          (input n).wstrb.getLsbD byteIndex = true then
        lane (input n).wdata byteIndex
      else lane ((run n).slvReg word) byteIndex
  /-- A handshake raises a response in the next clock. -/
  answered : ∀ n, (run n).awHandshake (input n) = true → (run (n + 1)).axiBvalid = true
  /-- The writes accepted so far are the responses taken so far and the one that is pending. -/
  responses : ∀ n, Nat.count (fun k => (run k).awHandshake (input k) = true) n =
    Nat.count (fun k => (run k).bHandshake (input k) = true) n + (run n).axiBvalid.toNat
  /-- Between two handshakes the first one's response is taken. -/
  oneAtATime : ∀ m n, m < n → (run m).awHandshake (input m) = true →
    (run n).awHandshake (input n) = true →
    ∃ k, m < k ∧ k < n ∧ (run k).bHandshake (input k) = true
  /-- Acceptance is disabled only while a write is being accepted or its response is pending. -/
  neverStuck : ∀ n, (run n).awEn = false →
    (run n).awHandshake (input n) = true ∨ (run n).axiBvalid = true
  /-- With acceptance enabled, an address and data presented together are accepted in the next
  clock. -/
  accepted : ∀ n, (run n).awEn = true → (input n).awvalid = true → (input n).wvalid = true →
    (run (n + 1)).awHandshake (input (n + 1)) = true
  /-- A kick wire is up only in the clock of a handshake addressed to `KICK`. -/
  kickPulse : ∀ n dog, (run n).kick (input n) dog = true →
    (run n).awHandshake (input n) = true ∧ select (input n).awaddr = select 0x08

section Laws

variable {start : AxiSlave} {input : Nat → AxiInput}

/-- After an accepted write the channel stays in its response phase until the response is taken. -/
theorem respond_until_taken (active : ∀ n, (input n).aresetn = true)
    (inv : ∀ n, WriteInv (stateAt clock start input n) (input n)) {m n : Nat} (later : m < n)
    (shakes : (stateAt clock start input m).awHandshake (input m) = true)
    (untaken : ∀ k, m < k → k < n → (stateAt clock start input k).bHandshake (input k) = false) :
    (stateAt clock start input n).InPhase .respond := by
  induction n with
  | zero => exact absurd later (Nat.not_lt_zero m)
  | succ n ih =>
    rw [stateAt_succ]
    rcases Nat.lt_succ_iff_lt_or_eq.mp later with before | rfl
    · have respond := ih before fun k after below => untaken k after (by omega)
      have next := respond_clock (active n) respond
      have notTaken := untaken n before (Nat.lt_succ_self n)
      rw [bHandshake, respond.2.2.2, Bool.true_and] at notTaken
      rw [notTaken] at next
      exact next
    · rcases inv m with idle | ⟨accept, awvalid, wvalid, _⟩ | respond
      · simp [awHandshake, idle.2.1] at shakes
      · exact accept_clock (active m) accept awvalid wvalid
      · simp [awHandshake, respond.2.1] at shakes

theorem kick_handshake {s : AxiSlave} {i : AxiInput} (inv : s.WriteInv i) {dog : Dog}
    (kicked : s.kick i dog = true) :
    s.awHandshake i = true ∧ select i.awaddr = select 0x08 := by
  rw [kick_eq, Bool.and_eq_true] at kicked
  have written := kicked.1
  rw [reg2Wr, Bool.and_eq_true, inv.wren_eq, beq_iff_eq] at written
  refine ⟨written.1, ?_⟩
  rw [← inv.awaddr_eq written.1, written.2]
  decide

/-- **Every write is accepted, performed and answered exactly once**, in every run after a reset
clock with reset inactive from then on, for every master that keeps its transaction stable until
it is accepted and every pattern of `BREADY`. -/
theorem write_exactly_once (reset : start.AfterReset) (active : ∀ n, (input n).aresetn = true)
    (master : StableMaster (stateAt clock start input) input) :
    ExactlyOneWrite (stateAt clock start input) input := by
  have inv := writeInv_stateAt reset active master
  refine ⟨fun n => (inv n).together,
    fun n word byteIndex bound => (inv n).lane_clock (active n) word bound, ?_, ?_, ?_, ?_, ?_,
    fun n dog kicked => kick_handshake (inv n) kicked⟩
  · intro n shakes
    have respond := respond_until_taken active inv (Nat.lt_succ_self n) shakes
      fun k after below => absurd below (by omega)
    exact respond.2.2.2
  · intro n
    induction n with
    | zero => simp [reset.idle.2.2.2]
    | succ n ih =>
      have balance := (inv n).bvalid_clock (active n)
      rw [← stateAt_succ clock start input n] at balance
      rw [count_succ_toNat fun k => (stateAt clock start input k).awHandshake (input k),
        count_succ_toNat fun k => (stateAt clock start input k).bHandshake (input k)]
      omega
  · intro m n later first second
    by_contra untaken
    push Not at untaken
    have respond := respond_until_taken active inv later first fun k after below =>
      Bool.eq_false_iff.mpr (untaken k after below)
    rw [awHandshake, respond.2.1, Bool.and_false] at second
    exact absurd second (by decide)
  · intro n disabled
    rcases inv n with idle | ⟨accept, _⟩ | respond
    · exact absurd (disabled.symm.trans idle.1) (by decide)
    · exact Or.inl ((inv n).handshake_iff.mpr accept)
    · exact Or.inr respond.2.2.2
  · intro n enabled awvalid wvalid
    rw [(inv (n + 1)).handshake_iff, stateAt_succ]
    rcases inv n with idle | ⟨accept, _⟩ | respond
    · have next := idle_clock (active n) idle
      rw [awvalid, wvalid] at next
      exact next.1
    · exact absurd (accept.1.symm.trans enabled) (by decide)
    · exact absurd (respond.1.symm.trans enabled) (by decide)

end Laws

/-- A master that kicks all three dogs back to back, from the state a reset clock leaves. -/
theorem write_exactly_once_kicking :
    ExactlyOneWrite
      (stateAt clock
        (clock ⟨0, false, false, 0, false, 0, false, 0, 0, false, false, fun _ => 0, ⟨0, 0, 0⟩⟩
          ⟨false, 0, false, 0, 0, false, false, 0, false, false⟩)
        fun _ => ⟨true, 0x08, true, 7, 0xF, true, true, 0, false, false⟩)
      fun _ => ⟨true, 0x08, true, 7, 0xF, true, true, 0, false, false⟩ :=
  write_exactly_once ⟨_, _, rfl, rfl⟩ (fun _ => rfl)
    ⟨fun _ _ _ => ⟨rfl, rfl⟩, fun _ _ _ => ⟨rfl, rfl, rfl⟩⟩

end AxiSlave

end TrustzoneWatchdog.Pl
