/-
**Is every accepted read answered exactly once?**

`axi_arready` goes up for every address it sees, whether or not an earlier response still waits for
`RREADY`. `axi_rvalid` and `axi_rdata` are only set for a handshake that finds no response waiting.
A read accepted in between is dropped.

* `pending_clock`: one clock loses nothing of the reads that are enabled (`slv_reg_rden`).
* `arready_elim`: in the clock of an AR handshake the latched address is the transaction's own.
* `emitted_response_append`: where no read meets a waiting response, none is lost in a run.
* `readsAnswered_iff`: every read is answered exactly when the master presents no address while a
  response waits, the clock in which the response is taken apart.
* `readsAnswered_refuted`: a master that presents its second address too early waits for ever.
-/

import TrustzoneWatchdog.Pl.AxiSlave

namespace TrustzoneWatchdog.Pl

open TrustzoneWatchdog.Lib.Clocked

namespace AxiSlave

/-! ### Handshakes and what they carry -/

def arHandshake (s : AxiSlave) (i : AxiInput) : Bool := i.arvalid && s.axiArready

def rHandshake (s : AxiSlave) (i : AxiInput) : Bool := s.axiRvalid && i.rready

/-- The word a read of `addr` finds in a clock, `STATUS` and the counters live. -/
def wordAt (s : AxiSlave) (i : AxiInput) (addr : BitVec 5) : BitVec 32 :=
  ({ s with axiAraddr := addr } : AxiSlave).regDataOut i

/-- The read accepted in a clock: the word at its own address. -/
def request (s : AxiSlave) (i : AxiInput) : Option (BitVec 32) :=
  if s.arHandshake i then some (s.wordAt i i.araddr) else none

/-- The response taken in a clock. -/
def response (s : AxiSlave) (i : AxiInput) : Option (BitVec 32) :=
  if s.rHandshake i then some s.axiRdata else none

/-- The response that waits. -/
def pending (s : AxiSlave) : List (BitVec 32) := if s.axiRvalid then [s.axiRdata] else []

theorem isSome_request (s : AxiSlave) (i : AxiInput) :
    (s.request i).isSome = s.arHandshake i := by
  unfold request
  cases s.arHandshake i <;> rfl

theorem isSome_response (s : AxiSlave) (i : AxiInput) :
    (s.response i).isSome = s.rHandshake i := by
  unfold response
  cases s.rHandshake i <;> rfl

theorem length_pending (s : AxiSlave) : s.pending.length = s.axiRvalid.toNat := by
  unfold pending
  cases s.axiRvalid <;> rfl

/-- A master that keeps a read address valid and unchanged until it is accepted. -/
def StableReader (run : Nat → AxiSlave) (input : Nat → AxiInput) : Prop :=
  ∀ n, (input n).arvalid = true → (run n).axiArready = false →
    (input (n + 1)).arvalid = true ∧ (input (n + 1)).araddr = (input n).araddr

/-- What it means that every accepted read is answered exactly once. -/
structure ReadsAnswered (run : Nat → AxiSlave) (input : Nat → AxiInput) : Prop where
  /-- The responses taken and the one that waits are as many as the reads accepted. -/
  count : ∀ n,
    Nat.count (fun k => (run k).rHandshake (input k) = true) n + (run n).axiRvalid.toNat =
      Nat.count (fun k => (run k).arHandshake (input k) = true) n
  /-- They come in order, and each carries what its own address held when it was accepted. -/
  answered : ∀ n, emitted (fun k => (run k).response (input k)) n ++ (run n).pending =
    emitted (fun k => (run k).request (input k)) n
  /-- A response that is not taken waits unchanged. -/
  stable : ∀ n, (run n).axiRvalid = true → (input n).rready = false →
    (run (n + 1)).axiRvalid = true ∧ (run (n + 1)).axiRdata = (run n).axiRdata

/-! ### One clock -/

section Clock

variable {s : AxiSlave} {i : AxiInput}

theorem arready_clock (active : i.aresetn = true) :
    (s.clock i).axiArready = (!s.axiArready && i.arvalid) := by
  cases ready : s.axiArready <;> cases valid : i.arvalid <;>
    simp [clock, arNext, active, ready, valid]

theorem araddr_clock (active : i.aresetn = true) (ready : s.axiArready = false)
    (valid : i.arvalid = true) : (s.clock i).axiAraddr = i.araddr := by
  simp [clock, arNext, active, ready, valid]

theorem rvalid_clock (active : i.aresetn = true) :
    (s.clock i).axiRvalid = (s.slvRegRden i || s.axiRvalid && !i.rready) := by
  show (s.rNext i).1 = _
  unfold rNext slvRegRden
  cases s.axiArready <;> cases i.arvalid <;> cases s.axiRvalid <;> cases i.rready <;> simp [active]

theorem rdata_clock (active : i.aresetn = true) :
    (s.clock i).axiRdata = if s.slvRegRden i then s.regDataOut i else s.axiRdata := by
  simp [clock, rdataNext, active]

/-- A read is enabled only while no response waits. -/
theorem rvalid_of_rden (enabled : s.slvRegRden i = true) : s.axiRvalid = false := by
  rw [slvRegRden, Bool.and_eq_true, Bool.not_eq_true'] at enabled
  exact enabled.2

/-- **One clock loses no enabled read**: it is the response that waits next. -/
theorem pending_clock (active : i.aresetn = true) :
    s.pending ++ (if s.slvRegRden i then some (s.regDataOut i) else none).toList =
      (s.response i).toList ++ (s.clock i).pending := by
  rw [pending, pending, response, rHandshake, rvalid_clock active, rdata_clock active]
  cases enabled : s.slvRegRden i with
  | true => simp [rvalid_of_rden enabled]
  | false => cases s.axiRvalid <;> cases i.rready <;> simp

/-- An accepted read that meets no waiting response is enabled. -/
theorem rden_eq_of_free (free : s.arHandshake i = true → s.axiRvalid = false) :
    s.slvRegRden i = s.arHandshake i := by
  unfold slvRegRden
  rw [Bool.and_comm s.axiArready]
  cases shakes : s.arHandshake i with
  | true =>
    rw [← arHandshake, shakes, free shakes]
    rfl
  | false =>
    rw [← arHandshake, shakes]
    rfl

/-- The responses taken and waiting, counted over one clock. -/
theorem rvalid_balance (active : i.aresetn = true) :
    (s.rHandshake i).toNat + (s.clock i).axiRvalid.toNat =
      s.axiRvalid.toNat + (s.slvRegRden i).toNat := by
  rw [rHandshake, rvalid_clock active]
  cases enabled : s.slvRegRden i with
  | true => simp [rvalid_of_rden enabled]
  | false => cases s.axiRvalid <;> cases i.rready <;> rfl

/-- A response that is not taken waits unchanged. -/
theorem response_waits (active : i.aresetn = true) (waits : s.axiRvalid = true)
    (notReady : i.rready = false) :
    (s.clock i).axiRvalid = true ∧ (s.clock i).axiRdata = s.axiRdata := by
  have disabled : s.slvRegRden i = false := by
    rw [slvRegRden, waits, Bool.not_true, Bool.and_false]
  rw [rvalid_clock active, rdata_clock active, disabled, waits, notReady]
  exact ⟨rfl, rfl⟩

end Clock

/-! ### Runs -/

section Run

variable {start : AxiSlave} {input : Nat → AxiInput}

/-- `axi_arready` goes up at the edge that latches an address, which is then still presented. -/
theorem arready_elim (reset : start.AfterReset) (active : ∀ n, (input n).aresetn = true)
    (reader : StableReader (stateAt clock start input) input) {n : Nat}
    (ready : (stateAt clock start input n).axiArready = true) :
    ∃ m, n = m + 1 ∧ (stateAt clock start input m).axiArready = false ∧
      (input m).arvalid = true ∧ (input n).arvalid = true ∧
        (stateAt clock start input n).axiAraddr = (input n).araddr := by
  cases n with
  | zero => exact absurd (ready.symm.trans reset.readIdle.1) (by decide)
  | succ m =>
    rw [stateAt_succ, arready_clock (active m), Bool.and_eq_true, Bool.not_eq_true'] at ready
    obtain ⟨low, valid⟩ := ready
    obtain ⟨still, same⟩ := reader m valid low
    refine ⟨m, rfl, low, valid, still, ?_⟩
    rw [stateAt_succ, araddr_clock (active m) low valid, same]

/-- Where the count is kept over a clock, no response waits in an AR handshake. -/
theorem free_of_count (active : ∀ n, (input n).aresetn = true)
    (answered : ReadsAnswered (stateAt clock start input) input) {n : Nat}
    (shakes : (stateAt clock start input n).arHandshake (input n) = true) :
    (stateAt clock start input n).axiRvalid = false := by
  have before := answered.count n
  have after := answered.count (n + 1)
  have balance := rvalid_balance (s := stateAt clock start input n) (active n)
  rw [← stateAt_succ clock start input n] at balance
  rw [count_succ_toNat fun k => (stateAt clock start input k).rHandshake (input k),
    count_succ_toNat fun k => (stateAt clock start input k).arHandshake (input k), shakes,
    Bool.toNat_true] at after
  -- the handshake is counted, so the read was enabled
  have enabled : ((stateAt clock start input n).slvRegRden (input n)).toNat = 1 := by omega
  exact rvalid_of_rden (Bool.toNat_eq_one.mp enabled)

/-- A master that leaves a waiting response room meets none in its AR handshakes. -/
theorem free_of_patient (reset : start.AfterReset) (active : ∀ n, (input n).aresetn = true)
    (reader : StableReader (stateAt clock start input) input)
    (patient : ∀ n, (input n).arvalid = true → (stateAt clock start input n).axiArready = false →
      (stateAt clock start input n).axiRvalid = true → (input n).rready = true) {n : Nat}
    (shakes : (stateAt clock start input n).arHandshake (input n) = true) :
    (stateAt clock start input n).axiRvalid = false := by
  rw [arHandshake, Bool.and_eq_true] at shakes
  obtain ⟨m, rfl, low, valid, _, _⟩ := arready_elim reset active reader shakes.2
  rw [stateAt_succ, rvalid_clock (active m), slvRegRden, low]
  cases waits : (stateAt clock start input m).axiRvalid with
  | false => rfl
  | true =>
    rw [patient m valid low waits]
    rfl

/-- **No read is lost** where none meets a waiting response: the words asked for are the words
delivered, in order, and then the one that waits. -/
theorem emitted_response_append (reset : start.AfterReset) (active : ∀ n, (input n).aresetn = true)
    (reader : StableReader (stateAt clock start input) input)
    (free : ∀ n, (stateAt clock start input n).arHandshake (input n) = true →
      (stateAt clock start input n).axiRvalid = false) (n : Nat) :
    emitted (fun k => (stateAt clock start input k).response (input k)) n ++
        (stateAt clock start input n).pending =
      emitted (fun k => (stateAt clock start input k).request (input k)) n := by
  refine emitted_append_pending (fun k => (stateAt clock start input k).pending) ?_ n
    fun k _ => ?_
  · show start.pending = []
    rw [pending, reset.readIdle.2]
    rfl
  · rw [stateAt_succ, ← pending_clock (active k), rden_eq_of_free (free k), request]
    cases shakes : (stateAt clock start input k).arHandshake (input k) with
    | false => rfl
    | true =>
      rw [arHandshake, Bool.and_eq_true] at shakes
      obtain ⟨_, _, _, _, _, latched⟩ := arready_elim reset active reader shakes.2
      rw [if_pos rfl, if_pos rfl, wordAt, ← latched]

/-- **Exactly when every read is answered once**: when the master presents an address that is yet to
be accepted only while no response waits, or in the clock that takes it. -/
theorem readsAnswered_iff (reset : start.AfterReset) (active : ∀ n, (input n).aresetn = true)
    (reader : StableReader (stateAt clock start input) input) :
    ReadsAnswered (stateAt clock start input) input ↔
      ∀ n, (input n).arvalid = true → (stateAt clock start input n).axiArready = false →
        (stateAt clock start input n).axiRvalid = true → (input n).rready = true := by
  constructor
  · intro answered n valid low waits
    by_contra notReady
    -- the address is accepted in the next clock, and the response is still there
    have shakes : (stateAt clock start input (n + 1)).arHandshake (input (n + 1)) = true := by
      rw [arHandshake, (reader n valid low).1, stateAt_succ, arready_clock (active n), low, valid]
      rfl
    have still := (answered.stable n waits (Bool.eq_false_iff.mpr notReady)).1
    exact absurd (still.symm.trans (free_of_count active answered shakes)) (by decide)
  · intro patient
    have answered := emitted_response_append reset active reader fun n =>
      free_of_patient reset active reader patient
    refine ⟨fun n => ?_, answered, fun n => response_waits (active n)⟩
    have lengths := congrArg List.length (answered n)
    rw [List.length_append, length_emitted, length_emitted] at lengths
    simpa only [isSome_response, isSome_request, length_pending] using lengths

end Run

/-- A master that reads `STATUS` over and over, and takes responses at once or not at all. -/
def reading (rready : Bool) : Nat → AxiInput :=
  fun _ => ⟨true, 0, false, 0, 0, false, false, 0x0C, true, rready⟩

/-- With `RREADY` up, back-to-back reads are all answered. -/
theorem readsAnswered_ready :
    ReadsAnswered (stateAt clock resetState (reading true)) (reading true) :=
  (readsAnswered_iff afterReset_resetState (fun _ => rfl) fun _ _ _ => ⟨rfl, rfl⟩).mpr
    fun _ _ _ _ => rfl

/-- **A read is lost**: the second address is accepted in clock 3, while the first response waits,
and no response to it is ever raised. -/
theorem readsAnswered_refuted :
    ¬ ReadsAnswered (stateAt clock resetState (reading false)) (reading false) := by
  intro answered
  have balance := answered.count 4
  exact absurd balance (by decide)

end AxiSlave

end TrustzoneWatchdog.Pl
