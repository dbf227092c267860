/-
**Is the length accounting of the block loop exact?**

`CurrentImgLen` adds up `4 * word` modulo `2³²` and is compared with `UnEncDataLen` after each
addition. `trueLen` is the sum of what was announced, in the natural numbers.

* `announced_toNat`: the loop's sum is the true one modulo `2³²`.
* `calls_le`: while the sums are true, every block that goes on uses up four bytes of the header's
  length, so the loop ends.
* `dataBytes_writeEvents`: the data handed to the DMA, block by block.
* `lengthExact_iff`: exactly when the accounting is exact. No reached sum may pass `2³²`, and on
  success the DMA must have taken the data of every block: the loop also goes on when it did not.
* `lengthExact_refuted`: the lengths `4, 2³² − 4, 4, …` keep the loop going for ever.
-/

import TrustzoneWatchdog.Loader.Bounds
import Mathlib.Algebra.Order.BigOperators.Group.Finset

namespace TrustzoneWatchdog.Loader

open Lib.Loop

/-! ### What is announced, and what is handed over -/

/-- The lengths announced by the first `k` blocks, added up without a bound. -/
def trueLen (env : CmdEnv) : Nat → Nat
  | 0 => 0
  | k + 1 => trueLen env k + (endianSwap (env.block k).iv3).toNat * 4

/-- `CurrentImgLen` after the round that starts with these variables. -/
def Cursor.imgLenAfter (env : CmdEnv) (c : Cursor) : Word :=
  c.currentImgLen + endianSwap (env.block c.block).iv3 * 4#32

/-- The data bytes among some transfers. Data is what follows a push of the IV, unless that is a
secure header, which ends the message. -/
def dataBytes : List Transfer → Nat
  | iv :: t :: rest =>
    (if iv.src.base ≠ .image ∧ t.src.base = .image ∧ t.notify = 0 then t.len else 0) +
      dataBytes (t :: rest)
  | _ => 0

section Lengths

variable (board : Board) (img : Image) (env : CmdEnv)

/-- **The length accounting is exact.** -/
structure LengthExact (st : St) : Prop where
  /-- Four bytes of the header's length for each block but one. -/
  calls : ∀ n, (writeEvents board img env n st).count .decrypt ≤ img.unEncDataLen.toNat / 4 + 1
  ends : ∃ m, ∀ later ≥ m, (zynqmpCsuSecurePcapWrite board img env later st).2 ≠ none
  /-- `CurrentImgLen` after every round is the true sum. -/
  sum : board.csu = true ∧ board.aes = true → ∀ n c,
    rounds (blockRound board img env) n (firstCursor img (entryState img env st)) = .again c →
    (c.imgLenAfter env).toNat = trueLen env (n + 1)
  /-- Success means that as much data was handed to the DMA as the header says. -/
  bytes : ∀ n, (zynqmpCsuSecurePcapWrite board img env n st).2 = some teeSuccess →
    dataBytes (transfersOf (writeEvents board img env n st)) = img.unEncDataLen.toNat

/-- The loop ends in block `k` and the call succeeds. -/
def SucceedsAt (bsIv : Option Ptr) (k : Nat) : Prop :=
  verdict board img env bsIv k = some teeSuccess ∧ nextBlkLen env k = 0#32 ∧
    announced env (k + 1) = img.unEncDataLen ∧ pcapWaitForDone board env = teeSuccess ∧
    pcapWaitForPLDone board env = teeSuccess

/-- No sum of a block that is reached passes `2³²`. -/
def SumsFit (bsIv : Option Ptr) : Prop :=
  ∀ k, Reaches board img env bsIv k → trueLen env (k + 1) < 2 ^ 32

/-- What the announced lengths and the answers of the hardware must satisfy. -/
structure LengthsFit (bsIv : Option Ptr) : Prop where
  sum : SumsFit board img env bsIv
  /-- Before a last block that succeeds the DMA took the data of every block. -/
  streams : ∀ k, Reaches board img env bsIv k → SucceedsAt board img env bsIv k →
    ∀ j, 0 < j → j ≤ k → streamsAt board img env bsIv j = true

variable {board img env}

/-! ### The sums -/

/-- **The loop's sum is the true one modulo `2³²`.** -/
theorem announced_toNat (env : CmdEnv) (k : Nat) :
    (announced env k).toNat = trueLen env k % 2 ^ 32 := by
  induction k with
  | zero => rfl
  | succ k ih =>
    rw [announced, trueLen, BitVec.toNat_add, ih, nextBlkLen, BitVec.toNat_mul]
    show _ = (_ + _ * (4#32).toNat) % 2 ^ 32
    rw [Nat.add_mod (trueLen env k)]

theorem cursorAt_imgLenAfter (st : St) (k : Nat) :
    (cursorAt board img env st k).imgLenAfter env = announced env (k + 1) := rfl

/-- A block that is followed by another announces at least four bytes. -/
theorem four_le_of_goesOn {bsIv : Option Ptr} {k : Nat} (goesOn : GoesOn board img env bsIv k) :
    4 ≤ (endianSwap (env.block k).iv3).toNat * 4 := by
  have nonzero : (endianSwap (env.block k).iv3).toNat ≠ 0 := fun zero => goesOn.2.1 (by
    rw [nextBlkLen, BitVec.eq_of_toNat_eq (y := 0#32) zero]
    rfl)
  omega

/-- With true sums every block that is reached has used up four bytes for each block before. -/
theorem calls_le {bsIv : Option Ptr} (fits : SumsFit board img env bsIv) {k : Nat}
    (reaches : Reaches board img env bsIv k) : 4 * k ≤ trueLen env k ∧
      trueLen env k ≤ img.unEncDataLen.toNat := by
  induction k with
  | zero => exact ⟨Nat.zero_le _, Nat.zero_le _⟩
  | succ k ih =>
    have earlier := reaches.mono (Nat.le_succ k)
    have goesOn := reaches k (Nat.lt_succ_self k)
    have bounded := goesOn.2.2.1
    rw [BitVec.le_def, announced_toNat, Nat.mod_eq_of_lt (fits k earlier)] at bounded
    have used := four_le_of_goesOn goesOn
    refine ⟨?_, bounded⟩
    rw [trueLen]
    have before := (ih earlier).1
    omega

/-! ### The data -/

/-- A list of transfers starts with an IV, or is empty. -/
def StartsWithIv (transfers : List Transfer) : Prop :=
  ∀ t rest, transfers = t :: rest → t.src.base ≠ .image

/-- The IV that starts a block is never counted with what went before. -/
theorem dataBytes_append (first second : List Transfer) (starts : StartsWithIv second) :
    dataBytes (first ++ second) = dataBytes first + dataBytes second := by
  induction first with
  | nil => simp [dataBytes]
  | cons t first ih =>
    cases first with
    | nil =>
      cases second with
      | nil => rfl
      | cons iv rest =>
        have outside := starts iv rest rfl
        simp [dataBytes, outside]
    | cons u first =>
      simp only [List.cons_append, dataBytes] at ih ⊢
      rw [ih]
      omega

/-- Among transfers that all read the image nothing follows an IV. -/
theorem dataBytes_image {transfers : List Transfer}
    (image : ∀ t ∈ transfers, t.src.base = .image) : dataBytes transfers = 0 := by
  induction transfers with
  | nil => rfl
  | cons t transfers ih =>
    have rest := ih fun u inside => image u (List.mem_cons_of_mem _ inside)
    cases transfers with
    | nil => rfl
    | cons u transfers => simp [dataBytes, rest, image t (List.mem_cons_self ..)]

/-- An initial part of an IV and what follows it from the image. -/
theorem dataBytes_block {iv t : Transfer} {rest sent : List Transfer}
    (outside : iv.src.base ≠ .image) (image : ∀ u ∈ t :: rest, u.src.base = .image)
    (initial : sent <+: iv :: t :: rest) : StartsWithIv sent ∧
      dataBytes sent = if 1 < sent.length ∧ t.notify = 0 then t.len else 0 := by
  match sent, initial with
  | [], _ => exact ⟨fun _ _ same => absurd same (by simp), rfl⟩
  | [a], initial =>
    obtain ⟨rfl, _⟩ := List.cons_prefix_cons.mp initial
    refine ⟨fun u _ same => ?_, by simp [dataBytes]⟩
    rw [← (List.cons.inj same).1]
    exact outside
  | a :: b :: sent, whole =>
    obtain ⟨rfl, inner⟩ := List.cons_prefix_cons.mp whole
    obtain ⟨rfl, _⟩ := List.cons_prefix_cons.mp inner
    refine ⟨fun u _ same => ?_, ?_⟩
    · rw [← (List.cons.inj same).1]
      exact outside
    · have tail : dataBytes (b :: sent) = 0 :=
        dataBytes_image fun u inside => image u (inner.subset inside)
      simp [dataBytes, tail, outside, image b (List.mem_cons_self ..)]

/-- The data of block `k` that goes to the DMA. -/
def blkData (board : Board) (img : Image) (env : CmdEnv) (bsIv : Option Ptr) (k : Nat) : Nat :=
  if streamsAt board img env bsIv k then (blkLen env k).toNat else 0

/-- The IV pointer does not point into the image. -/
def IvOutside (bsIv : Option Ptr) : Prop := ∀ p, bsIv = some p → p.base ≠ .image

theorem IvOutside.blkIv {bsIv : Option Ptr} (outside : IvOutside bsIv) (k : Nat) :
    IvOutside (blkIv bsIv k) := by
  cases k with
  | zero => exact outside
  | succ k =>
    rintro p same
    obtain rfl := Option.some.inj same
    exact Base.noConfusion

variable (board img env) in
/-- **The transfers of one block** start with the IV and hand over its data, or nothing. -/
theorem transfersOf_blkEvents_data {st : St} (outside : IvOutside st.bsIv) (k : Nat) :
    StartsWithIv (transfersOf (blkEvents board img env st k)) ∧
      dataBytes (transfersOf (blkEvents board img env st k)) =
        blkData board img env st.bsIv k := by
  obtain ⟨sent, initial, events, streams, _⟩ := blkEvents_eq board img env st k
  have sentAll : transfersOf (blkEvents board img env st k) = sent := by
    rw [events, transfersOf_append]
    show transfersOf (sent.map Event.transfer) ++ _ = sent
    rw [transfersOf_map]
    cases verdict board img env st.bsIv k <;> simp [transfersOf]
  have outside := outside.blkIv k
  have data : blkData board img env st.bsIv k =
      if 1 < sent.length then (blkLen env k).toNat else 0 := by
    unfold blkData
    simp only [← streams]
  rw [sentAll, data]
  unfold blkTransfers callTransfers at initial
  cases iv : blkIv st.bsIv k with
  | none =>
    rw [iv] at initial
    obtain rfl := List.prefix_nil.mp initial
    exact ⟨fun _ _ same => absurd same (by simp), by simp [dataBytes]⟩
  | some p =>
    rw [iv] at initial
    cases k with
    | zero =>
      -- the first block has no data: its secure header follows the IV
      obtain ⟨starts, bytes⟩ := dataBytes_block (outside p iv)
        (by simp [St.transferOf, Ptr.add]) initial
      exact ⟨starts, by rw [bytes]; simp [St.transferOf, blkLen]⟩
    | succ k =>
      obtain ⟨starts, bytes⟩ := dataBytes_block (outside p iv)
        (by simp [St.transferOf, Ptr.add, headerTransfers]) initial
      exact ⟨starts, by rw [bytes]; simp [St.transferOf]⟩

theorem dataBytes_eventsBefore {st : St} (outside : IvOutside st.bsIv) (k : Nat) :
    dataBytes (transfersOf (eventsBefore board img env st k)) =
      ∑ j ∈ Finset.range k, blkData board img env st.bsIv j := by
  induction k with
  | zero => rfl
  | succ k ih =>
    obtain ⟨starts, bytes⟩ := transfersOf_blkEvents_data board img env outside k
    have key : transfersOf [Event.keyLoad teeSuccess] = [] := rfl
    rw [eventsBefore_succ, transfersOf_append, transfersOf_append, key, List.append_nil,
      dataBytes_append _ _ starts, ih, bytes, Finset.sum_range_succ]

/-- **The data handed over by a call** that leaves its loop in block `k`. -/
theorem dataBytes_writeEvents (mapped : board.csu = true ∧ board.aes = true) {k n : Nat} {st : St}
    (outside : IvOutside st.bsIv) (reaches : Reaches board img env st.bsIv k)
    (stops : ¬ GoesOn board img env st.bsIv k) (later : k < n) :
    dataBytes (transfersOf (writeEvents board img env n st)) =
      ∑ j ∈ Finset.range (k + 1), blkData board img env st.bsIv j := by
  obtain ⟨tail, short, events⟩ := writeEvents_left mapped reaches stops later
  have ending : transfersOf tail = [] := by
    rcases short with rfl | ⟨ret, rfl, _⟩ <;> rfl
  have opening : transfersOf (entryEvents img env) = [] := rfl
  have entryOutside : IvOutside (entryState img env st).bsIv := by
    rw [entryState_bsIv]
    exact outside
  obtain ⟨starts, bytes⟩ := transfersOf_blkEvents_data board img env entryOutside k
  rw [events, transfersOf_append, transfersOf_append, transfersOf_append, ending, opening,
    List.append_nil, List.nil_append, dataBytes_append _ _ starts,
    dataBytes_eventsBefore entryOutside, bytes, Finset.sum_range_succ, entryState_bsIv]

/-! ### Data and sums -/

theorem blkData_le (bsIv : Option Ptr) (k : Nat) :
    blkData board img env bsIv k ≤ (blkLen env k).toNat := by
  unfold blkData
  split
  · exact le_rfl
  · exact Nat.zero_le _

/-- Where the sums are true, a reached block announced what it is long. -/
theorem nextBlkLen_toNat {bsIv : Option Ptr} (fits : SumsFit board img env bsIv) {k : Nat}
    (reaches : Reaches board img env bsIv k) :
    (nextBlkLen env k).toNat = (endianSwap (env.block k).iv3).toNat * 4 := by
  have small := fits k reaches
  rw [trueLen] at small
  rw [nextBlkLen, BitVec.toNat_mul]
  exact Nat.mod_eq_of_lt (by simp only [BitVec.toNat_ofNat]; omega)

theorem sum_blkLen {bsIv : Option Ptr} (fits : SumsFit board img env bsIv) {k : Nat}
    (reaches : Reaches board img env bsIv k) :
    ∑ j ∈ Finset.range (k + 1), (blkLen env j).toNat = trueLen env k := by
  induction k with
  | zero => rfl
  | succ k ih =>
    have earlier := reaches.mono (Nat.le_succ k)
    rw [Finset.sum_range_succ, ih earlier, blkLen, nextBlkLen_toNat fits earlier, trueLen]

/-- At a last block that succeeds the announced lengths add up to the header's. -/
theorem trueLen_of_succeeds {bsIv : Option Ptr} (fits : SumsFit board img env bsIv) {k : Nat}
    (reaches : Reaches board img env bsIv k) (success : SucceedsAt board img env bsIv k) :
    trueLen env k = img.unEncDataLen.toNat := by
  have none := nextBlkLen_toNat fits reaches
  rw [success.2.1] at none
  have total := announced_toNat env (k + 1)
  rw [success.2.2.1, Nat.mod_eq_of_lt (fits k reaches), trueLen, ← none] at total
  exact total.symm

/-- **The data handed over is what was announced** exactly when the DMA took every block's. -/
theorem sum_blkData_eq_iff {bsIv : Option Ptr} {k : Nat} (reaches : Reaches board img env bsIv k) :
    ∑ j ∈ Finset.range (k + 1), blkData board img env bsIv j =
        ∑ j ∈ Finset.range (k + 1), (blkLen env j).toNat ↔
      ∀ j, 0 < j → j ≤ k → streamsAt board img env bsIv j = true := by
  rw [Finset.sum_eq_sum_iff_of_le fun j _ => blkData_le bsIv j]
  constructor
  · intro same j positive within
    have here := same j (Finset.mem_range.mpr (by omega))
    by_contra refused
    obtain ⟨i, rfl⟩ := Nat.exists_eq_succ_of_ne_zero positive.ne'
    -- the block before announced a length, so this one has data to hand over
    have announcedSome := (reaches i (by omega)).2.1
    rw [blkData, if_neg refused] at here
    exact announcedSome (BitVec.eq_of_toNat_eq here.symm)
  · intro streams j inside
    have within := Finset.mem_range.mp inside
    rcases Nat.eq_zero_or_pos j with rfl | positive
    · simp [blkData, blkLen]
    · rw [blkData, if_pos (streams j positive (by omega))]

/-! ### The accounting -/

/-- With true sums the loop is left, in a block within the bound. -/
theorem exists_exit {bsIv : Option Ptr} (fits : SumsFit board img env bsIv) :
    ∃ k ≤ img.unEncDataLen.toNat / 4, Reaches board img env bsIv k ∧
      ¬ GoesOn board img env bsIv k := by
  by_contra endless
  push Not at endless
  have always : ∀ k ≤ img.unEncDataLen.toNat / 4 + 1, Reaches board img env bsIv k := by
    intro k
    induction k with
    | zero => exact fun _ => reaches_zero board img env bsIv
    | succ k ih =>
      intro within
      have reaches := ih (by omega)
      exact reaches.succ (endless k (by omega) reaches)
  have used := calls_le fits (always _ le_rfl)
  omega

/-- With true sums the loop makes one call for every four bytes, and one more. -/
theorem count_writeEvents_le (mapped : board.csu = true ∧ board.aes = true) {st : St}
    (fits : SumsFit board img env st.bsIv) (n : Nat) :
    (writeEvents board img env n st).count .decrypt ≤ img.unEncDataLen.toNat / 4 + 1 := by
  rcases secureWrite_cases mapped n st with ⟨reaches, _⟩ | ⟨k, below, reaches, stops, _⟩
  · have used := calls_le fits reaches
    rw [count_writeEvents_running mapped reaches]
    omega
  · have used := calls_le fits reaches
    rw [count_writeEvents_left mapped reaches stops below]
    omega

/-- With true sums `CurrentImgLen` is the true one in every round. -/
theorem imgLenAfter_toNat {st : St} (fits : SumsFit board img env st.bsIv) {n : Nat} {c : Cursor}
    (running : rounds (blockRound board img env) n (firstCursor img (entryState img env st)) =
      .again c) : (c.imgLenAfter env).toNat = trueLen env (n + 1) := by
  rcases blockLoop_cases board img env (entryState img env st) n with
    ⟨reaches, again⟩ | ⟨k, _, _, _, left⟩
  · rw [again] at running
    obtain rfl := Round.again.inj running
    rw [entryState_bsIv] at reaches
    rw [cursorAt_imgLenAfter, announced_toNat, Nat.mod_eq_of_lt (fits n reaches)]
  · rw [left] at running
    cases running

/-- With true sums a call that succeeds has handed over what the header says exactly when the DMA
took every block's data. -/
theorem dataBytes_eq_iff (mapped : board.csu = true ∧ board.aes = true) {st : St}
    (outside : IvOutside st.bsIv) (fits : SumsFit board img env st.bsIv) {k n : Nat}
    (reaches : Reaches board img env st.bsIv k) (success : SucceedsAt board img env st.bsIv k)
    (below : k < n) :
    dataBytes (transfersOf (writeEvents board img env n st)) = img.unEncDataLen.toNat ↔
      ∀ j, 0 < j → j ≤ k → streamsAt board img env st.bsIv j = true := by
  have stops : ¬ GoesOn board img env st.bsIv k := fun goesOn => goesOn.2.1 success.2.1
  rw [dataBytes_writeEvents mapped outside reaches stops below,
    ← trueLen_of_succeeds fits reaches success, ← sum_blkLen fits reaches,
    sum_blkData_eq_iff reaches]

/-- **Exactly when the accounting is exact**, for hardware whose waits all return: no reached sum of
announced lengths passes `2³²`, and where the call succeeds the DMA took the data of every block. -/
theorem lengthExact_iff {st : St} (outside : IvOutside st.bsIv)
    (returns : ∀ k, ((env.block k).pcapVa && (env.block k).pcapIdle) = true) :
    LengthExact board img env st ↔
      (board.csu = true ∧ board.aes = true → LengthsFit board img env st.bsIv) := by
  constructor
  · intro exact mapped
    have sum : SumsFit board img env st.bsIv := by
      intro k reaches
      rw [← entryState_bsIv] at reaches
      have here := exact.sum mapped k _ (blockLoop_reaches reaches)
      rw [← here]
      exact BitVec.isLt _
    refine ⟨sum, fun k reaches success => ?_⟩
    have handed := exact.bytes (k + 1) ((secureWrite_success_iff mapped).mpr
      ⟨k, Nat.lt_succ_self k, reaches, success⟩)
    exact (dataBytes_eq_iff mapped outside sum reaches success (Nat.lt_succ_self k)).mp handed
  · intro condition
    by_cases mapped : board.csu = true ∧ board.aes = true
    · obtain ⟨sum, streams⟩ := condition mapped
      refine ⟨count_writeEvents_le mapped sum, ?_, fun _ n c => imgLenAfter_toNat sum,
        fun n success => ?_⟩
      · obtain ⟨k, _, reaches, stops⟩ := exists_exit sum
        exact ⟨k + 1, fun later enough => (secureWrite_returns_iff mapped).mpr
          ⟨k, enough, reaches, stops, verdict_returns (returns k)⟩⟩
      · obtain ⟨k, below, reaches, success⟩ := (secureWrite_success_iff mapped).mp success
        exact (dataBytes_eq_iff mapped outside sum reaches success below).mpr
          (streams k reaches success)
    · -- the loop is not entered
      refine ⟨fun n => ?_, ⟨0, fun later _ => ?_⟩, fun both => absurd both mapped,
        fun n success => ?_⟩
      · rw [writeEvents_unmapped mapped]
        exact Nat.zero_le _
      · rw [secureWrite_unmapped mapped]
        simp
      · rw [secureWrite_unmapped mapped] at success
        exact absurd (Option.some.inj success) teeErrorGeneric_ne

end Lengths

/-- On the one-block image the accounting is exact, and the loop has two rounds. -/
theorem lengthExact_one_block :
    LengthExact Board.mapped oneBlockImage oneBlockEngine St.validated ∧
      Reaches Board.mapped oneBlockImage oneBlockEngine St.validated.bsIv 1 := by
  have outside : IvOutside St.validated.bsIv := by
    intro p same
    obtain rfl := Option.some.inj same
    exact Base.noConfusion
  have first : GoesOn Board.mapped oneBlockImage oneBlockEngine St.validated.bsIv 0 := by
    decide +kernel
  have second : ¬ GoesOn Board.mapped oneBlockImage oneBlockEngine St.validated.bsIv 1 := by
    decide +kernel
  have within {k : Nat}
      (reaches : Reaches Board.mapped oneBlockImage oneBlockEngine St.validated.bsIv k) :
      k ≤ 1 := by
    by_contra beyond
    exact second (reaches 1 (by omega))
  refine ⟨(lengthExact_iff outside fun k => by cases k <;> rfl).mpr fun _ => ⟨?_, ?_⟩, ?_⟩
  · intro k reaches
    have small := within reaches
    interval_cases k <;> decide +kernel
  · intro k reaches _ j positive below
    have small := within reaches
    obtain rfl : j = 1 := by omega
    decide +kernel
  · intro j below
    obtain rfl : j = 0 := by omega
    exact first

/-- **The loop does not end**: with the lengths `4, 2³² − 4, 4, …` the fourth decrypt call is made
for an image of eight bytes. -/
theorem lengthExact_refuted : ¬ LengthExact Board.mapped oneBlockImage hostile St.validated := by
  intro exact
  have calls := exact.calls 4
  rw [count_writeEvents_running ⟨rfl, rfl⟩ (hostile_reaches (by decide +kernel) _ _ 4)] at calls
  exact absurd calls (by decide +kernel)

end TrustzoneWatchdog.Loader
