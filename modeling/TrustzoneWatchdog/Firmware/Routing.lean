/-
**Which interrupts come to EL3** (`bl31/interrupt_mgmt.c`, `include/bl31/interrupt_mgmt.h`,
`lib/el3_runtime/aarch64/context_mgmt.c`).

A service registers a handler for a type of interrupt together with a routing model, one bit for
each security state: whether the interrupt is taken to EL3 from there. The bit ends up in `SCR_EL3`
of the contexts of the cores, by two ways that differ. `set_scr_el3_from_rm` *overwrites* the bit in
the contexts of the core that registers; `cm_setup_context` takes the *disjunction* over all types.
With the FIQ line shared by the types S-EL1 and EL3, what a context says depends on the order.

* `FiqRouted`: both types are registered, and the model of EL3 asks for FIQs from both states.
* `FiqRouted.register`: no later registration changes that, nor the FIQ bit of any context.
* `FiqRouted.init`: a context that is set up afterwards has the bit.
* `Registration.el3_routed`: the registration of EL3 gives it to the contexts of the core that
  registers.
-/

import TrustzoneWatchdog.Firmware.Gic

namespace TrustzoneWatchdog.Firmware

/-- What the functions of TF-A return. -/
inductive Rc
  | ok
  | einval
  | ealready
  deriving DecidableEq, Repr

/-- The security state a context belongs to. -/
inductive World
  | secure
  | nonSecure
  deriving DecidableEq, Repr

/-- `SECURE` and `NON_SECURE` as shifts of a routing model. -/
def World.shift : World → Nat
  | .secure => 0
  | .nonSecure => 1

/-- `intr_type_desc_t`, over the type of the handlers. -/
structure IntrTypeDesc (H : Type) where
  handler : Option H
  scrEl3 : World → BitVec 64
  flags : BitVec 32

/-- `intr_type_descs`, and `CTX_SCR_EL3` of the context of every core in each security state;
`none` when there is no context. -/
structure Routing (H : Type) where
  descs : IntrType → IntrTypeDesc H
  ctx : Core → World → Option (BitVec 64)

def scrNsBit : BitVec 64 := 1#64 <<< 0
def scrIrqBit : BitVec 64 := 1#64 <<< 1
def scrFiqBit : BitVec 64 := 1#64 <<< 2
def scrEaBit : BitVec 64 := 1#64 <<< 3
def scrHceBit : BitVec 64 := 1#64 <<< 8
def scrRwBit : BitVec 64 := 1#64 <<< 10
def scrStBit : BitVec 64 := 1#64 <<< 11
def scrApkBit : BitVec 64 := 1#64 <<< 16
def scrApiBit : BitVec 64 := 1#64 <<< 17

section Functions

variable {H : Type}

def getInterruptRmFlag (flags : BitVec 32) (w : World) : BitVec 32 := (flags >>> w.shift) &&& 1#32

/-- `validate_routing_model`, without `EL3_EXCEPTION_HANDLING`. -/
def validateRoutingModel (type : IntrType) (flags : BitVec 32) : Rc :=
  let rmFlags := flags &&& 0x3#32
  match type with
  | .sEl1 => if rmFlags = 2#32 ∨ rmFlags = 3#32 then .ok else .einval
  | .ns => if rmFlags = 0#32 ∨ rmFlags = 1#32 then .ok else .einval
  | .el3 => if rmFlags = 2#32 ∨ rmFlags = 3#32 then .ok else .einval

/-- The position of the bit of `SCR_EL3` that routes the type, given `FIQEn` of the core. -/
def platInterruptTypeToLine (fiqEn : Bool) : IntrType → Nat
  | .ns => 1
  | .sEl1 => if fiqEn then 2 else 1
  | .el3 => if fiqEn then 2 else 1

def getScrEl3FromRoutingModel (r : Routing H) (w : World) : BitVec 64 :=
  (r.descs .ns).scrEl3 w ||| (r.descs .sEl1).scrEl3 w ||| (r.descs .el3).scrEl3 w

/-- `cm_write_scr_el3_bit` on the value of `CTX_SCR_EL3`. -/
def cmWriteScrEl3Bit (bitPos : Nat) (value : BitVec 32) (scr : BitVec 64) : BitVec 64 :=
  (scr &&& ~~~(1#64 <<< bitPos)) ||| (value.setWidth 64 <<< bitPos)

/-- `set_scr_el3_from_rm`, run by a core. -/
def setScrEl3FromRm (c : Core) (fiqEn : Bool) (type : IntrType) (flags : BitVec 32) (w : World)
    (r : Routing H) : Routing H :=
  let flag := getInterruptRmFlag flags w
  let bitPos := platInterruptTypeToLine fiqEn type
  let desc := r.descs type
  { descs := Function.update r.descs type
      { desc with scrEl3 := Function.update desc.scrEl3 w (flag.setWidth 64 <<< bitPos) }
    ctx := Function.update r.ctx c
      (Function.update (r.ctx c) w ((r.ctx c w).map (cmWriteScrEl3Bit bitPos flag))) }

/-- `set_routing_model`, run by a core. -/
def setRoutingModel (c : Core) (fiqEn : Bool) (type : IntrType) (flags : BitVec 32)
    (r : Routing H) : Rc × Routing H :=
  match validateRoutingModel type flags with
  | .ok =>
    let r := { r with
      descs := Function.update r.descs type { r.descs type with flags := flags } }
    (.ok, setScrEl3FromRm c fiqEn type flags .nonSecure
      (setScrEl3FromRm c fiqEn type flags .secure r))
  | rc => (rc, r)

/-- `register_interrupt_type_handler`, run by a core. -/
def registerInterruptTypeHandler (c : Core) (fiqEn : Bool) (type : IntrType) (handler : Option H)
    (flags : BitVec 32) (r : Routing H) : Rc × Routing H :=
  match handler with
  | none => (.einval, r)
  | some h =>
    if flags &&& 0xFFFFFFFC#32 ≠ 0#32 then (.einval, r)
    else if (r.descs type).handler.isSome then (.ealready, r)
    else
      match setRoutingModel c fiqEn type flags r with
      | (.ok, r) => (.ok, { r with
          descs := Function.update r.descs type { r.descs type with handler := some h } })
      | (rc, r) => (rc, r)

/-- The parts of an `entry_point_info` that matter to `SCR_EL3`. -/
structure EntryPoint where
  world : World
  /-- The next exception level runs AArch64. -/
  rw64 : Bool
  /-- `EP_GET_ST`. -/
  secureTimer : Bool
  /-- The next exception level is EL2, or AArch32 in Hyp mode. -/
  hyp : Bool

/-- `SCR_EL3` as `cm_setup_context` builds it, from the value in the register. -/
def cmSetupContext (readScr : BitVec 64) (ep : EntryPoint) (r : Routing H) : BitVec 64 :=
  let scr := readScr &&&
    ~~~(scrNsBit ||| scrRwBit ||| scrFiqBit ||| scrIrqBit ||| scrStBit ||| scrHceBit)
  let scr := if ep.world ≠ .secure then scr ||| scrNsBit else scr
  let scr := if ep.rw64 then scr ||| scrRwBit else scr
  let scr := if ep.secureTimer then scr ||| scrStBit else scr
  let scr := scr &&& ~~~scrEaBit
  let scr := if ep.world = .nonSecure then scr ||| (scrApiBit ||| scrApkBit) else scr
  let scr := scr ||| getScrEl3FromRoutingModel r ep.world
  if ep.hyp then scr ||| scrHceBit else scr

/-- `cm_init_context_by_index`: the context must exist. -/
def cmInitContext (c : Core) (readScr : BitVec 64) (ep : EntryPoint) (r : Routing H) : Routing H :=
  { r with ctx := Function.update r.ctx c (Function.update (r.ctx c) ep.world
      ((r.ctx c ep.world).map fun _ => cmSetupContext readScr ep r)) }

/-- `cm_set_context` with the static context of the core, zero until it is set up. -/
def cmSetContext (c : Core) (w : World) (r : Routing H) : Routing H :=
  { r with ctx := Function.update r.ctx c (Function.update (r.ctx c) w
      (some ((r.ctx c w).getD 0#64))) }

/-- **FIQs are taken to EL3** while the core runs in the security state. -/
def Routing.takesFiq (r : Routing H) (c : Core) (w : World) : Bool :=
  match r.ctx c w with
  | some scr => scr.getLsbD 2
  | none => false

end Functions

/-! ### The FIQ bit -/

section Bits

variable {H : Type}

theorem cmWriteScrEl3Bit_fiq (value : BitVec 32) (scr : BitVec 64) :
    (cmWriteScrEl3Bit 2 value scr).getLsbD 2 = value.getLsbD 0 := by
  simp [cmWriteScrEl3Bit]

theorem cmWriteScrEl3Bit_irq (w : World) (flags : BitVec 32) (scr : BitVec 64) :
    (cmWriteScrEl3Bit 1 (getInterruptRmFlag flags w) scr).getLsbD 2 = scr.getLsbD 2 := by
  simp [cmWriteScrEl3Bit, getInterruptRmFlag]

/-- A context that is set up has the FIQ bit when some type asks for it. -/
theorem cmSetupContext_fiq (readScr : BitVec 64) (ep : EntryPoint) (r : Routing H) :
    (cmSetupContext readScr ep r).getLsbD 2 =
      (getScrEl3FromRoutingModel r ep.world).getLsbD 2 := by
  unfold cmSetupContext
  cases ep with
  | mk world rw64 secureTimer hyp =>
    cases world <;> cases rw64 <;> cases secureTimer <;> cases hyp <;>
      simp [scrNsBit, scrRwBit, scrFiqBit, scrIrqBit, scrStBit, scrHceBit, scrEaBit, scrApiBit,
        scrApkBit]

end Bits

/-! ### What a registration does -/

section Register

variable {H : Type}

/-- **A registration that succeeded**: the type was free, and its descriptor and the contexts of
the core that registered now hold the routing model. -/
structure Registration (c : Core) (fiqEn : Bool) (type : IntrType) (h : H) (flags : BitVec 32)
    (r r' : Routing H) : Prop where
  fresh : (r.descs type).handler = none
  valid : validateRoutingModel type flags = .ok
  handler : (r'.descs type).handler = some h
  scrEl3 : ∀ w, (r'.descs type).scrEl3 w =
    (getInterruptRmFlag flags w).setWidth 64 <<< platInterruptTypeToLine fiqEn type
  others : ∀ other, other ≠ type → r'.descs other = r.descs other
  here : ∀ w, r'.ctx c w = (r.ctx c w).map
    (cmWriteScrEl3Bit (platInterruptTypeToLine fiqEn type) (getInterruptRmFlag flags w))
  elsewhere : ∀ c', c' ≠ c → r'.ctx c' = r.ctx c'

variable {c : Core} {fiqEn : Bool} {type : IntrType} {handler : Option H} {flags : BitVec 32}
  {r : Routing H}

theorem setRoutingModel_ok (valid : validateRoutingModel type flags = .ok) :
    setRoutingModel c fiqEn type flags r =
      (.ok, setScrEl3FromRm c fiqEn type flags .nonSecure
        (setScrEl3FromRm c fiqEn type flags .secure { r with
          descs := Function.update r.descs type { r.descs type with flags := flags } })) := by
  unfold setRoutingModel
  rw [valid]

theorem setRoutingModel_error (invalid : validateRoutingModel type flags ≠ .ok) :
    setRoutingModel c fiqEn type flags r = (validateRoutingModel type flags, r) := by
  unfold setRoutingModel
  split
  · rename_i valid
    exact absurd valid invalid
  · rfl

/-- A call fails and changes nothing, or it is a `Registration`. -/
theorem register_cases (c : Core) (fiqEn : Bool) (type : IntrType) (handler : Option H)
    (flags : BitVec 32) (r : Routing H) :
    ((registerInterruptTypeHandler c fiqEn type handler flags r).1 ≠ .ok ∧
      (registerInterruptTypeHandler c fiqEn type handler flags r).2 = r) ∨
    ((registerInterruptTypeHandler c fiqEn type handler flags r).1 = .ok ∧
      ∃ h, handler = some h ∧ Registration c fiqEn type h flags r
        (registerInterruptTypeHandler c fiqEn type handler flags r).2) := by
  unfold registerInterruptTypeHandler
  cases handler with
  | none => exact Or.inl ⟨by simp, rfl⟩
  | some h =>
    dsimp only
    split
    · exact Or.inl ⟨by simp, rfl⟩
    · split
      · exact Or.inl ⟨by simp, rfl⟩
      · rename_i _ free
        by_cases valid : validateRoutingModel type flags = .ok
        · rw [setRoutingModel_ok valid]
          refine Or.inr ⟨rfl, h, rfl, by simpa using free, valid, ?_, ?_, ?_, ?_, ?_⟩
          · simp
          · intro w
            cases w <;> simp [setScrEl3FromRm]
          · intro other differ
            simp [setScrEl3FromRm, differ]
          · intro w
            cases w <;> simp [setScrEl3FromRm]
          · intro c' differ
            simp [setScrEl3FromRm, differ]
        · rw [setRoutingModel_error valid]
          cases rc : validateRoutingModel type flags with
          | ok => exact absurd rc valid
          | einval => exact Or.inl ⟨by simp, rfl⟩
          | ealready => exact Or.inl ⟨by simp, rfl⟩

/-- A registration with a valid model and a free type succeeds. -/
theorem register_ok {h : H} (free : (r.descs type).handler = none)
    (bits : flags &&& 0xFFFFFFFC#32 = 0#32) (valid : validateRoutingModel type flags = .ok) :
    ∃ r', registerInterruptTypeHandler c fiqEn type (some h) flags r = (.ok, r') ∧
      Registration c fiqEn type h flags r r' := by
  have success : (registerInterruptTypeHandler c fiqEn type (some h) flags r).1 = .ok := by
    unfold registerInterruptTypeHandler
    simp [bits, free, setRoutingModel_ok valid]
  rcases register_cases c fiqEn type (some h) flags r with ⟨failed, _⟩ | ⟨_, h', same, done⟩
  · exact absurd success failed
  · cases same
    exact ⟨_, Prod.ext success rfl, done⟩

/-- A registration makes no context and removes none, -/
theorem Registration.contexts {h : H} {r' : Routing H}
    (done : Registration c fiqEn type h flags r r') (c' : Core) (w : World) :
    (r'.ctx c' w).isSome = (r.ctx c' w).isSome := by
  by_cases same : c' = c
  · rw [same, done.here]
    simp
  · rw [done.elsewhere c' same]

/-- nor does the set-up of one. -/
theorem init_contexts (r : Routing H) (c : Core) (scr : BitVec 64) (ep : EntryPoint) (c' : Core)
    (w : World) : ((cmInitContext c scr ep r).ctx c' w).isSome = (r.ctx c' w).isSome := by
  unfold cmInitContext
  by_cases core : c' = c
  · subst core
    by_cases world : w = ep.world
    · subst world
      simp
    · simp [world]
  · simp [core]

end Register

/-! ### FIQs stay routed to EL3 -/

section Routed

variable {H : Type} {h : H} {r : Routing H} {c : Core}

/-- **FIQs are routed to EL3 for good**: the two types on the FIQ line are registered, and the model
of the type EL3 asks for them from both security states. -/
structure FiqRouted (h : H) (r : Routing H) : Prop where
  sEl1 : (r.descs .sEl1).handler.isSome = true
  el3 : (r.descs .el3).handler = some h
  model : ∀ w, ((r.descs .el3).scrEl3 w).getLsbD 2 = true

theorem takesFiq_some {w : World} {scr : BitVec 64} (here : r.ctx c w = some scr) :
    r.takesFiq c w = scr.getLsbD 2 := by
  unfold Routing.takesFiq
  rw [here]

/-- No later registration changes the routing, or the FIQ bit of any context. -/
theorem FiqRouted.register (routed : FiqRouted h r) (c : Core) (fiqEn : Bool) (type : IntrType)
    (handler : Option H) (flags : BitVec 32) :
    FiqRouted h (registerInterruptTypeHandler c fiqEn type handler flags r).2 ∧
      ∀ c' w, (registerInterruptTypeHandler c fiqEn type handler flags r).2.takesFiq c' w =
        r.takesFiq c' w := by
  rcases register_cases c fiqEn type handler flags r with ⟨_, same⟩ | ⟨_, h', _, done⟩
  · rw [same]
    exact ⟨routed, fun _ _ => rfl⟩
  · generalize (registerInterruptTypeHandler c fiqEn type handler flags r).2 = r' at done
    cases type with
    | sEl1 => exact absurd routed.sEl1 (by simp [done.fresh])
    | el3 => exact absurd (routed.el3.symm.trans done.fresh) (by simp)
    | ns =>
      -- the non-secure type is on the IRQ line
      refine ⟨⟨?_, ?_, ?_⟩, fun c' w => ?_⟩
      · rw [done.others .sEl1 (by decide)]
        exact routed.sEl1
      · rw [done.others .el3 (by decide)]
        exact routed.el3
      · rw [done.others .el3 (by decide)]
        exact routed.model
      · by_cases same : c' = c
        · subst same
          unfold Routing.takesFiq
          rw [done.here w]
          cases r.ctx c' w with
          | none => rfl
          | some scr => exact cmWriteScrEl3Bit_irq w flags scr
        · unfold Routing.takesFiq
          rw [done.elsewhere c' same]

/-- A context that is set up afterwards takes FIQs; the others are as they were. -/
theorem FiqRouted.init (routed : FiqRouted h r) (c : Core) (readScr : BitVec 64)
    (ep : EntryPoint) :
    FiqRouted h (cmInitContext c readScr ep r) ∧
      ((r.ctx c ep.world).isSome = true →
        (cmInitContext c readScr ep r).takesFiq c ep.world = true) ∧
      ∀ c' w, r.takesFiq c' w = true → (cmInitContext c readScr ep r).takesFiq c' w = true := by
  have bit : (cmSetupContext readScr ep r).getLsbD 2 = true := by
    rw [cmSetupContext_fiq]
    unfold getScrEl3FromRoutingModel
    rw [BitVec.getLsbD_or, routed.model, Bool.or_true]
  have fresh : (r.ctx c ep.world).isSome = true →
      (cmInitContext c readScr ep r).takesFiq c ep.world = true := by
    intro there
    obtain ⟨scr, here⟩ := Option.isSome_iff_exists.mp there
    have built : (cmInitContext c readScr ep r).ctx c ep.world =
        some (cmSetupContext readScr ep r) := by
      simp [cmInitContext, here]
    exact (takesFiq_some built).trans bit
  refine ⟨⟨routed.sEl1, routed.el3, routed.model⟩, fresh, fun c' w takes => ?_⟩
  by_cases same : c' = c ∧ w = ep.world
  · obtain ⟨rfl, rfl⟩ := same
    refine fresh ?_
    unfold Routing.takesFiq at takes
    split at takes
    · rename_i here
      rw [here]
      rfl
    · exact absurd takes (by decide)
  · have untouched : (cmInitContext c readScr ep r).ctx c' w = r.ctx c' w := by
      unfold cmInitContext
      by_cases core : c' = c
      · subst core
        have world : w ≠ ep.world := fun world => same ⟨rfl, world⟩
        simp [world]
      · simp [core]
    unfold Routing.takesFiq
    rw [untouched]
    exact takes

/-- **The registration of the type EL3** for both states, on a core whose FIQ line is in use, and
after the one of S-EL1. -/
theorem Registration.el3_routed {r' : Routing H} (done : Registration c true .el3 h 3#32 r r')
    (sEl1 : (r.descs .sEl1).handler.isSome = true) :
    FiqRouted h r' ∧ ∀ w, (r.ctx c w).isSome = true → r'.takesFiq c w = true := by
  refine ⟨⟨?_, done.handler, fun w => ?_⟩, fun w there => ?_⟩
  · rw [done.others .sEl1 (by decide)]
    exact sEl1
  · rw [done.scrEl3 w]
    cases w <;> decide
  · obtain ⟨scr, here⟩ := Option.isSome_iff_exists.mp there
    have written := done.here w
    rw [here, Option.map_some] at written
    rw [takesFiq_some written]
    change (cmWriteScrEl3Bit 2 (getInterruptRmFlag 3#32 w) scr).getLsbD 2 = true
    rw [cmWriteScrEl3Bit_fiq]
    cases w <;> decide

end Routed

end TrustzoneWatchdog.Firmware
