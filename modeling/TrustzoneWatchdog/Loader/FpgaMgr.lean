/-
**The FPGA manager** (`pta/zynqmp/fpga_mgr.c`).

A write command is checked, validated, and then loaded between a write of `DFX_DECOUPLE` and one of
`DFX_COUPLE` to the two decouplers. `zynqmp_dfx_decouple` is `void`: when the registers do not map
it logs and returns.

* `ptaWrite_unoffered`, `ptaWrite_rejected`, `ptaWrite_admitted`: a command in terms of its parts.
* `ptaEvents_admitted`: what a command adds to the trace.
-/

import TrustzoneWatchdog.Loader.Blocks

namespace TrustzoneWatchdog.Loader

/-- `TEE_PARAM_TYPES`. -/
def teeParamTypes (t0 t1 t2 t3 : Word) : Word := t0 ||| t1 <<< 4 ||| t2 <<< 8 ||| t3 <<< 12

def teeParamTypeNone : Word := 0#32

def teeParamTypeMemrefInout : Word := 7#32

def dfxDecouple : Word := 0x1#32

def dfxCouple : Word := 0x0#32

/-- Both partitions isolated. -/
def Dfx.decoupled : Dfx := ⟨dfxDecouple, dfxDecouple⟩

/-- Both partitions connected. -/
def Dfx.coupled : Dfx := ⟨dfxCouple, dfxCouple⟩

/-- `zynqmp_dfx_decouple`. -/
def zynqmpDfxDecouple (va : Bool) (decouple : Word) (st : St) : St :=
  if !va then st else { st with dfx := ⟨decouple, decouple⟩ }

/-- The parameters of a command: the types, and `params[0].memref`, whose buffer may be `NULL`. -/
structure Params where
  paramTypes : Word
  memref : Option Image

section Write

variable (board : Board) (params : Params) (env : CmdEnv)

/-- `pta_zynqmp_fpga_write`, with at most `rounds` rounds of the block loop. -/
def ptaZynqmpFpgaWrite (rounds : Nat) (st : St) : St × Option TeeResult :=
  if params.paramTypes ≠
      teeParamTypes teeParamTypeMemrefInout teeParamTypeNone teeParamTypeNone teeParamTypeNone then
    (st, some teeErrorBadParameters)
  else
    match params.memref with
    | none => (st, some teeErrorBadParameters)
    | some img =>
      if img.size = 0 then (st, some teeErrorBadParameters)
      else
        let checked := validateSecureBitstream board.build img st
        if checked.2 ≠ teeSuccess then (checked.1, some checked.2)
        else if zynqmpCsuPcapInit board env ≠ teeSuccess then (checked.1, some teeErrorGeneric)
        else
          let isolated := zynqmpDfxDecouple env.decoupleVa dfxDecouple checked.1
          let written := zynqmpCsuSecurePcapWrite board img env rounds isolated
          match written.2 with
          | none => written
          | some result =>
            -- the partitions are connected again whatever the result
            (zynqmpDfxDecouple env.coupleVa dfxCouple written.1, some result)

def ptaZynqmpFpgaMgrCmdWrite : Word := 0#32

/-- `invoke_command`. -/
def invokeCommand (cmdId : Word) (rounds : Nat) (st : St) : St × Option TeeResult :=
  if cmdId = ptaZynqmpFpgaMgrCmdWrite then ptaZynqmpFpgaWrite board params env rounds st
  else (st, some teeErrorBadParameters)

end Write

/-! ### A command in terms of its parts -/

/-- The parameters get as far as validation, with this image. -/
def Params.Offers (params : Params) (img : Image) : Prop :=
  params.paramTypes =
      teeParamTypes teeParamTypeMemrefInout teeParamTypeNone teeParamTypeNone teeParamTypeNone ∧
    params.memref = some img ∧ img.size ≠ 0

/-- The command gets as far as the secure loader. -/
def Admits (board : Board) (params : Params) (env : CmdEnv) (img : Image) : Prop :=
  params.Offers img ∧ img.Valid ∧ zynqmpCsuPcapInit board env = teeSuccess

/-- The driver when the secure loader is called. -/
def isolatedState (board : Board) (img : Image) (env : CmdEnv) (st : St) : St :=
  zynqmpDfxDecouple env.decoupleVa dfxDecouple (validateSecureBitstream board.build img st).1

section Parts

variable {board : Board} {params : Params} {env : CmdEnv} {img : Image}

variable (board params env) in
/-- How far a command gets: to the loader, to validation or nowhere. -/
theorem admits_cases : (∃ img, Admits board params env img) ∨
    (∃ img, params.Offers img ∧ ¬ (img.Valid ∧ zynqmpCsuPcapInit board env = teeSuccess)) ∨
    ∀ img, ¬ params.Offers img := by
  by_cases offered : ∃ img, params.Offers img
  · obtain ⟨img, offers⟩ := offered
    by_cases admitted : img.Valid ∧ zynqmpCsuPcapInit board env = teeSuccess
    · exact Or.inl ⟨img, offers, admitted⟩
    · exact Or.inr (Or.inl ⟨img, offers, admitted⟩)
  · exact Or.inr (Or.inr fun img offers => offered ⟨img, offers⟩)

theorem validate_ret_iff (build : Build) (img : Image) (st : St) :
    (validateSecureBitstream build img st).2 = teeSuccess ↔ img.Valid := by
  rw [validate_eq]
  split
  · simp_all
  · simp_all [teeErrorBadFormat_ne]

theorem ptaWrite_admitted (admits : Admits board params env img) (rounds : Nat) (st : St) :
    ptaZynqmpFpgaWrite board params env rounds st =
      let written := zynqmpCsuSecurePcapWrite board img env rounds (isolatedState board img env st)
      match written.2 with
      | none => written
      | some result => (zynqmpDfxDecouple env.coupleVa dfxCouple written.1, some result) := by
  obtain ⟨⟨types, memref, size⟩, valid, init⟩ := admits
  have checked := (validate_ret_iff board.build img st).mpr valid
  unfold ptaZynqmpFpgaWrite
  simp only [types, memref, size, checked, init, ne_eq, not_true_eq_false, if_false]
  rfl

/-- Parameters that offer no image are refused at once. -/
theorem ptaWrite_unoffered (nothing : ∀ img, ¬ params.Offers img) (rounds : Nat) (st : St) :
    ptaZynqmpFpgaWrite board params env rounds st = (st, some teeErrorBadParameters) := by
  unfold ptaZynqmpFpgaWrite
  split
  · rfl
  · rename_i types
    split
    · rfl
    · rename_i img memref
      have empty : img.size = 0 := by
        by_contra size
        exact nothing img ⟨not_not.mp types, memref, size⟩
      rw [if_pos empty]

/-- An offered image that does not reach the loader has been read by validation only. -/
theorem ptaWrite_rejected (offers : params.Offers img)
    (rejected : ¬ (img.Valid ∧ zynqmpCsuPcapInit board env = teeSuccess)) (rounds : Nat) (st : St) :
    ∃ ret, ret ≠ teeSuccess ∧ ptaZynqmpFpgaWrite board params env rounds st =
      ((validateSecureBitstream board.build img st).1, some ret) := by
  obtain ⟨types, memref, size⟩ := offers
  unfold ptaZynqmpFpgaWrite
  simp only [types, memref, size, ne_eq, not_true_eq_false, if_false]
  by_cases valid : img.Valid
  · have checked := (validate_ret_iff board.build img st).mpr valid
    have init : zynqmpCsuPcapInit board env ≠ teeSuccess := fun ok => rejected ⟨valid, ok⟩
    exact ⟨_, teeErrorGeneric_ne, by simp [checked, init]⟩
  · have failed : (validateSecureBitstream board.build img st).2 ≠ teeSuccess := fun ok =>
      valid ((validate_ret_iff board.build img st).mp ok)
    exact ⟨_, failed, by simp [failed]⟩

theorem validate_trace (build : Build) (img : Image) (st : St) :
    (validateSecureBitstream build img st).1.trace = st.trace ++ validateReads build img := by
  rw [validate_eq]
  split <;> rfl

theorem validate_dfx (build : Build) (img : Image) (st : St) :
    (validateSecureBitstream build img st).1.dfx = st.dfx := by
  rw [validate_eq]
  split <;> rfl

theorem dfxDecouple_trace (va : Bool) (value : Word) (st : St) :
    (zynqmpDfxDecouple va value st).trace = st.trace := by
  unfold zynqmpDfxDecouple
  split <;> rfl

theorem isolatedState_trace (st : St) :
    (isolatedState board img env st).trace = st.trace ++ validateReads board.build img := by
  rw [isolatedState, dfxDecouple_trace, validate_trace]

theorem isolatedState_bsIv (valid : img.Valid) (st : St) :
    (isolatedState board img env st).bsIv = some ⟨.ivArr, 0⟩ := by
  have checked : (validateSecureBitstream board.build img st).1.bsIv = some ⟨.ivArr, 0⟩ := by
    rw [validate_eq, if_pos valid]
  unfold isolatedState zynqmpDfxDecouple
  split
  · exact checked
  · exact checked

/-- **What a command adds to the trace** when it reaches the loader. -/
theorem ptaWrite_trace (admits : Admits board params env img) (rounds : Nat) (st : St) :
    (ptaZynqmpFpgaWrite board params env rounds st).1.trace =
      st.trace ++ validateReads board.build img ++
        writeEvents board img env rounds (isolatedState board img env st) := by
  have trace := secureWrite_trace board img env rounds (isolatedState board img env st)
  rw [isolatedState_trace] at trace
  rw [ptaWrite_admitted admits]
  simp only
  split
  · exact trace
  · rw [dfxDecouple_trace]
    exact trace

variable (board params env) in
/-- The events of one command. -/
def ptaEvents (rounds : Nat) (st : St) : List Event :=
  (ptaZynqmpFpgaWrite board params env rounds st).1.trace.drop st.trace.length

theorem ptaEvents_admitted (admits : Admits board params env img) (rounds : Nat) (st : St) :
    ptaEvents board params env rounds st = validateReads board.build img ++
      writeEvents board img env rounds (isolatedState board img env st) := by
  rw [ptaEvents, ptaWrite_trace admits, List.append_assoc, List.drop_left]

theorem ptaEvents_rejected (offers : params.Offers img)
    (rejected : ¬ (img.Valid ∧ zynqmpCsuPcapInit board env = teeSuccess)) (rounds : Nat) (st : St) :
    ptaEvents board params env rounds st = validateReads board.build img := by
  obtain ⟨ret, _, refused⟩ := ptaWrite_rejected offers rejected rounds st
  rw [ptaEvents, refused, validate_trace, List.drop_left]

theorem ptaEvents_unoffered (nothing : ∀ img, ¬ params.Offers img) (rounds : Nat) (st : St) :
    ptaEvents board params env rounds st = [] := by
  rw [ptaEvents, ptaWrite_unoffered nothing]
  exact List.drop_length

end Parts

end TrustzoneWatchdog.Loader
