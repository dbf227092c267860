/-
**One block through the AES engine** (`drivers/zynqmp_csu_secure.c`).

`aesTransferDec` pushes the IV, for a data block the data, then the secure header and the tag, and
leaves at the first push that fails. A decrypt call that never gets past the unbounded poll of the
PCAP returns `none`.

* `aesTransferDec_sends`: what it starts is an initial part of `blockTransfers`, all of it when it
  succeeds.
* `decryptData_ret`: the code a decrypt call returns depends on the image and the hardware only.
* `decryptData_trace`: what a decrypt call starts, and whether any image data is among it.
* `decryptData_success`: it succeeds exactly when every wait does and the tag is accepted.
-/

import TrustzoneWatchdog.Loader.Device

namespace TrustzoneWatchdog.Loader

inductive BlockType
  | secureHeader
  | dataBlock
  deriving DecidableEq, Repr

def secureHdrSize : Nat := 48

def zynqmpGcmTagSize : Nat := 16

def zynqmpCsudmaMinSize : Nat := 16

def aesStsAesBusy : Word := 0x1#32

def aesStsGcmTagOk : Word := 0x8#32

/-- `aes_wait`. -/
def aesWait (va : Bool) (sts : List Word) (event : Word) (set : Bool) : TeeResult :=
  if !va then teeErrorGeneric
  else if sts.any fun word =>
      (set && (word &&& event) == event) || (!set && (word &&& event) != event) then teeSuccess
  else teeErrorGeneric

section Block

variable (board : Board) (img : Image) (env : BlockEnv)

/-- A transfer and the wait for it, as `aes_transfer_dec` makes them four times. -/
def push (x : Xfer) (addr : Ptr) (len : Nat) (notify : Byte) (st : St) : St × TeeResult :=
  let sent := zynqmpCsudmaTransfer (env.dmaVa x) board img addr len notify st
  if sent.2 ≠ teeSuccess then sent
  else (sent.1, zynqmpCsudmaSync (env.syncVa x) (env.iSts x))

/-- The label `out` of `aes_transfer_dec`. -/
def aesTransferOut (st : St) (ret : TeeResult) : St × Option TeeResult :=
  ((zynqmpCsudmaUnprepare env.unprepareVa st).1, some ret)

/-- A push with `if (ret) goto out;` after it, and what comes next otherwise. -/
def pushThen (x : Xfer) (addr : Ptr) (len : Nat) (notify : Byte)
    (next : St → St × Option TeeResult) (st : St) : St × Option TeeResult :=
  let sent := push board img env x addr len notify st
  if sent.2 ≠ teeSuccess then aesTransferOut env sent.1 sent.2 else next sent.1

/-- The second half of `aes_transfer_dec`: secure header, tag, and the verdict on the tag. -/
def aesTransferHeader (src : Ptr) (len : Nat) (tag : Ptr) : St → St × Option TeeResult :=
  pushThen board img env .hdr (src.add len) secureHdrSize 1 <|
    pushThen board img env .tag tag zynqmpGcmTagSize 0 fun st =>
      aesTransferOut env st
        (if env.aesSts &&& aesStsGcmTagOk = 0#32 then teeErrorGeneric else teeSuccess)

/-- What `aes_transfer_dec` sends of the image. -/
def aesTransferImage (src : Ptr) (len : Nat) (tag : Ptr) : BlockType → St → St × Option TeeResult
  | .secureHeader => aesTransferHeader board img env src len tag
  | .dataBlock =>
    pushThen board img env .data src len 0 fun st =>
      if env.pcapVa && env.pcapIdle then aesTransferHeader board img env src len tag st
      else (st, none)

/-- `aes_transfer_dec` from the preparation of the source channel on. -/
def aesTransferBody (src : Ptr) (len : Nat) (tag : Ptr) (blockType : BlockType) (st : St) :
    St × Option TeeResult :=
  let ready := zynqmpCsudmaPrepare env.prepareVa st
  -- the one failure that does not go through `out`
  if ready.2 ≠ teeSuccess then (ready.1, some ready.2)
  else aesTransferImage board img env src len tag blockType ready.1

/-- `aes_transfer_dec`. -/
def aesTransferDec (src : Ptr) (len : Nat) (tag iv : Ptr) (blockType : BlockType) (st : St) :
    St × Option TeeResult :=
  if !env.aesVa then (st, some teeErrorGeneric)
  else pushThen board img env .iv iv zynqmpCsudmaMinSize 0
    (aesTransferBody board img env src len tag blockType) st

/-- `zynqmp_csu_aes_decrypt_data`. -/
def zynqmpCsuAesDecryptData (src : Option Ptr) (srcLen : Nat) (tag iv : Option Ptr)
    (blockType : BlockType) (st : St) : St × Option TeeResult :=
  match src, tag, iv with
  | some src, some tag, some iv =>
    let sent := aesTransferDec board img env src srcLen tag iv blockType (st.emit .decrypt)
    match sent.2 with
    | none => sent
    | some ret =>
      let ret := if ret ≠ teeSuccess then ret
        else aesWait env.waitVa env.busySts aesStsAesBusy false
      (sent.1.emit (.decrypted ret), some ret)
  | _, _, _ =>
    ((st.emit .decrypt).emit (.decrypted teeErrorBadParameters), some teeErrorBadParameters)

/-! ### Single pushes -/

/-- `zynqmp_csudma_transfer` starts the transfer. -/
def accepts (x : Xfer) (addr : Ptr) (len : Nat) : Bool :=
  env.dmaVa x && len % 4 == 0 && virtToPhys board img addr % 8 == 0

/-- `zynqmp_csudma_sync` sees it done. -/
def synced (x : Xfer) : Bool :=
  env.syncVa x && (env.iSts x).any fun status => status &&& csudmaIxrDoneMask == csudmaIxrDoneMask

/-- A transfer as it would be recorded in state `st`. -/
def St.transferOf (st : St) (src : Ptr) (len : Nat) (notify : Byte) : Transfer :=
  ⟨src, len, notify, st.srcEndian, st.dfx, st.ivArr⟩

variable {board img env}

theorem push_state (x : Xfer) (addr : Ptr) (len : Nat) (notify : Byte) (st : St) :
    (push board img env x addr len notify st).1 =
      if accepts board img env x addr len then st.emit (.transfer (st.transferOf addr len notify))
      else st := by
  unfold push zynqmpCsudmaTransfer accepts St.transferOf
  split_ifs <;> simp_all [teeSuccess, teeErrorGeneric, teeErrorBadParameters]

theorem push_ret_iff (x : Xfer) (addr : Ptr) (len : Nat) (notify : Byte) (st : St) :
    (push board img env x addr len notify st).2 = teeSuccess ↔
      accepts board img env x addr len = true ∧ synced env x = true := by
  unfold push zynqmpCsudmaTransfer zynqmpCsudmaSync accepts synced
  split_ifs <;> simp_all [teeSuccess, teeErrorGeneric, teeErrorBadParameters]

theorem aligned_of_accepts {x : Xfer} {addr : Ptr} {len : Nat}
    (accepted : accepts board img env x addr len = true) : virtToPhys board img addr % 8 = 0 := by
  simp only [accepts, Bool.and_eq_true, beq_iff_eq] at accepted
  exact accepted.2

/-- The code of a push does not depend on the state of the driver. -/
theorem push_ret (x : Xfer) (addr : Ptr) (len : Nat) (notify : Byte) (st st' : St) :
    (push board img env x addr len notify st).2 = (push board img env x addr len notify st').2 := by
  unfold push zynqmpCsudmaTransfer
  split_ifs <;> simp [teeSuccess, teeErrorGeneric, teeErrorBadParameters]

/-- A push gets through. -/
def passes (board : Board) (img : Image) (env : BlockEnv) (x : Xfer) (addr : Ptr) (len : Nat) :
    Prop :=
  accepts board img env x addr len = true ∧ synced env x = true

theorem pushThen_passed {x : Xfer} {addr : Ptr} {len : Nat}
    (through : passes board img env x addr len)
    (notify : Byte) (next : St → St × Option TeeResult) (st : St) :
    pushThen board img env x addr len notify next st =
      next (st.emit (.transfer (st.transferOf addr len notify))) := by
  show (if _ ≠ teeSuccess then _ else next (push board img env x addr len notify st).1) = _
  rw [if_neg (not_not.mpr ((push_ret_iff ..).mpr through)), push_state, if_pos through.1]

/-- A push that does not get through goes to `out` with one error, whatever the state. -/
theorem pushThen_failed {x : Xfer} {addr : Ptr} {len : Nat}
    (stopped : ¬ passes board img env x addr len) (notify : Byte)
    (next : St → St × Option TeeResult) :
    ∃ ret, ret ≠ teeSuccess ∧ ∀ st, pushThen board img env x addr len notify next st =
      aesTransferOut env (if accepts board img env x addr len then
        st.emit (.transfer (st.transferOf addr len notify)) else st) ret := by
  have error (st : St) : (push board img env x addr len notify st).2 ≠ teeSuccess := fun ok =>
    stopped ((push_ret_iff ..).mp ok)
  refine ⟨_, error St.init, fun st => ?_⟩
  show (if (push board img env x addr len notify st).2 ≠ teeSuccess then
    aesTransferOut env (push board img env x addr len notify st).1 _ else _) = _
  rw [if_pos (error st), push_state, push_ret x addr len notify st St.init]

/-! ### The whole block -/

@[simp] theorem teeErrorGeneric_ne : teeErrorGeneric ≠ teeSuccess := by decide

@[simp] theorem teeErrorBadParameters_ne : teeErrorBadParameters ≠ teeSuccess := by decide

/-- What `st` and `st'` share when only transfers lie between them. -/
structure SameDriver (st st' : St) : Prop where
  bsIv : st'.bsIv = st.bsIv
  ivArr : st'.ivArr = st.ivArr
  dfx : st'.dfx = st.dfx

theorem SameDriver.refl (st : St) : SameDriver st st := ⟨rfl, rfl, rfl⟩

theorem emit_same (st : St) (e : Event) : SameDriver st (st.emit e) := ⟨rfl, rfl, rfl⟩

theorem SameDriver.trans {st st' st'' : St} (first : SameDriver st st')
    (second : SameDriver st' st'') : SameDriver st st'' :=
  ⟨second.bsIv.trans first.bsIv, second.ivArr.trans first.ivArr, second.dfx.trans first.dfx⟩

/-- When the transfers of a push and of what follows it are started. -/
def startedAfter (accepted done : Prop) (rest : Nat → Prop) : Nat → Prop
  | 0 => accepted
  | n + 1 => accepted ∧ done ∧ rest n

/-- A piece of `aes_transfer_dec` that has `full` to send and starts transfer `n` of them if
`started n`; all of them if it succeeds. -/
structure Sends (board : Board) (img : Image) (full : List Transfer) (started : Nat → Prop)
    (st : St) (r : St × Option TeeResult) : Prop where
  same : SameDriver st r.1
  trace : ∃ sent, sent <+: full ∧ r.1.trace = st.trace ++ sent.map Event.transfer ∧
    (∀ n, n < sent.length ↔ started n) ∧ (∀ t ∈ sent, virtToPhys board img t.src % 8 = 0) ∧
    (r.2 = some teeSuccess → sent = full)

theorem unprepare_same (va : Bool) (st : St) : SameDriver st (zynqmpCsudmaUnprepare va st).1 := by
  unfold zynqmpCsudmaUnprepare
  split <;> exact ⟨rfl, rfl, rfl⟩

theorem unprepare_trace (va : Bool) (st : St) :
    (zynqmpCsudmaUnprepare va st).1.trace = st.trace := by
  unfold zynqmpCsudmaUnprepare
  split <;> rfl

/-- A piece that does not touch the trace. -/
theorem Sends.nothing {full : List Transfer} {started : Nat → Prop} {st : St}
    {r : St × Option TeeResult} (same : SameDriver st r.1) (trace : r.1.trace = st.trace)
    (never : ∀ n, ¬ started n) (fails : r.2 = some teeSuccess → full = []) :
    Sends board img full started st r where
  same := same
  trace := ⟨[], List.nil_prefix, by simp [trace], fun n => by simp [never n], by simp,
    fun success => (fails success).symm⟩

/-- A push, with what follows it when it succeeds. -/
theorem Sends.pushThen {x : Xfer} {addr : Ptr} {len : Nat} {notify : Byte} {st : St}
    {t : Transfer} {rest : List Transfer} {started : Nat → Prop}
    {next : St → St × Option TeeResult} (first : t = st.transferOf addr len notify)
    (continues : Sends board img rest started (st.emit (.transfer t))
      (next (st.emit (.transfer t)))) :
    Sends board img (t :: rest)
      (startedAfter (accepts board img env x addr len = true) (synced env x = true) started) st
      (pushThen board img env x addr len notify next st) := by
  subst first
  by_cases through : passes board img env x addr len
  · rw [pushThen_passed through]
    obtain ⟨same, sent, initial, trace, exactly, aligned, all⟩ := continues
    refine ⟨(emit_same _ _).trans same, _ :: sent, (List.prefix_cons_inj _).mpr initial, ?_, ?_,
      List.forall_mem_cons.mpr ⟨aligned_of_accepts through.1, aligned⟩,
      fun success => by rw [all success]⟩
    · rw [trace]
      simp [St.emit]
    · intro n
      cases n with
      | zero => simp [startedAfter, through.1]
      | succ n => simp [startedAfter, through.1, through.2, exactly]
  · obtain ⟨ret, error, leaves⟩ := pushThen_failed through notify next
    have unsuccessful : some ret ≠ some teeSuccess := fun same => error (Option.some.inj same)
    rw [leaves]
    by_cases accepted : accepts board img env x addr len = true
    · rw [if_pos accepted]
      refine ⟨(emit_same _ _).trans (unprepare_same _ _), [_], ⟨rest, rfl⟩, ?_, ?_,
        List.forall_mem_singleton.mpr (aligned_of_accepts accepted),
        fun success => absurd success unsuccessful⟩
      · simp [aesTransferOut, unprepare_trace, St.emit]
      · intro n
        cases n with
        | zero => simp [startedAfter, accepted]
        | succ n =>
          have late : synced env x ≠ true := fun done => through ⟨accepted, done⟩
          simp [startedAfter, late]
    · rw [if_neg accepted]
      refine Sends.nothing (unprepare_same _ _) (unprepare_trace _ _) ?_ fun success =>
        absurd success unsuccessful
      intro n
      cases n <;> simp [startedAfter, accepted]

/-- The two transfers of the second half. -/
def headerTransfers (src : Ptr) (len : Nat) (tag : Ptr) (st : St) : List Transfer :=
  [st.transferOf (src.add len) secureHdrSize 1, st.transferOf tag zynqmpGcmTagSize 0]

theorem aesTransferHeader_sends (src : Ptr) (len : Nat) (tag : Ptr) (st : St) :
    ∃ started : Nat → Prop,
      (started 0 ↔ accepts board img env .hdr (src.add len) secureHdrSize = true) ∧
      Sends board img (headerTransfers src len tag st) started st
        (aesTransferHeader board img env src len tag st) := by
  have last (st : St) (ret : TeeResult) :
      Sends board img [] (fun _ => False) st (aesTransferOut env st ret) :=
    Sends.nothing (unprepare_same _ _) (unprepare_trace _ _) (fun _ => not_false) fun _ => rfl
  exact ⟨_, Iff.rfl, Sends.pushThen rfl (Sends.pushThen rfl (last _ _))⟩

/-- The first transfer of image data in a block. -/
def acceptsImage (board : Board) (img : Image) (env : BlockEnv) (src : Ptr) (len : Nat) :
    BlockType → Bool
  | .secureHeader => accepts board img env .hdr (src.add len) secureHdrSize
  | .dataBlock => accepts board img env .data src len

theorem Sends.of_same {full : List Transfer} {started : Nat → Prop} {st st' : St}
    {r : St × Option TeeResult} (sends : Sends board img full started st' r)
    (same : SameDriver st st') (trace : st'.trace = st.trace) : Sends board img full started st r :=
  ⟨same.trans sends.same, by rw [← trace]; exact sends.trace⟩

/-- The transfers of the image. -/
def imageTransfers (src : Ptr) (len : Nat) (tag : Ptr) (st : St) : BlockType → List Transfer
  | .secureHeader => headerTransfers src len tag st
  | .dataBlock => st.transferOf src len 0 :: headerTransfers src len tag st

theorem aesTransferImage_sends (src : Ptr) (len : Nat) (tag : Ptr) (blockType : BlockType)
    (st : St) :
    ∃ started : Nat → Prop,
      (started 0 ↔ acceptsImage board img env src len blockType = true) ∧
      Sends board img (imageTransfers src len tag st blockType) started st
        (aesTransferImage board img env src len tag blockType st) := by
  cases blockType with
  | secureHeader => exact aesTransferHeader_sends src len tag st
  | dataBlock =>
    have after : ∃ started : Nat → Prop, _ ∧ Sends board img _ started _
        (aesTransferHeader board img env src len tag
          (st.emit (.transfer (st.transferOf src len 0)))) := aesTransferHeader_sends ..
    obtain ⟨started, _, sends⟩ := after
    refine ⟨startedAfter (accepts board img env .data src len = true) (synced env .data = true)
      fun n => (env.pcapVa && env.pcapIdle) = true ∧ started n, Iff.rfl, ?_⟩
    unfold aesTransferImage imageTransfers
    refine Sends.pushThen rfl ?_
    -- the poll between the data and the secure header may never end
    cases idle : env.pcapVa && env.pcapIdle with
    | false => exact Sends.nothing (SameDriver.refl _) rfl (by simp) (by simp)
    | true =>
      simp only [if_true, true_and]
      exact sends

/-- The state under which the image goes out. -/
def St.swapped (st : St) : St := { st with srcEndian := true }

theorem aesTransferBody_ready (ready : env.prepareVa = true) (src : Ptr) (len : Nat) (tag : Ptr)
    (blockType : BlockType) (st : St) :
    aesTransferBody board img env src len tag blockType st =
      aesTransferImage board img env src len tag blockType st.swapped := by
  simp [aesTransferBody, zynqmpCsudmaPrepare, ready, St.swapped]

theorem aesTransferBody_unready (unready : env.prepareVa = false) (src : Ptr) (len : Nat)
    (tag : Ptr) (blockType : BlockType) (st : St) :
    aesTransferBody board img env src len tag blockType st = (st, some teeErrorGeneric) := by
  simp [aesTransferBody, zynqmpCsudmaPrepare, unready, teeSuccess, teeErrorGeneric]

/-- **The transfers of one block**: the IV goes out under the byte-swap setting the call finds, the
rest byte-swapped. -/
def blockTransfers (src : Ptr) (len : Nat) (tag iv : Ptr) (blockType : BlockType) (st : St) :
    List Transfer :=
  st.transferOf iv zynqmpCsudmaMinSize 0 :: imageTransfers src len tag st.swapped blockType

/-- A transfer of a block sees the driver as the call found it. -/
theorem frame_of_mem_blockTransfers {src : Ptr} {len : Nat} {tag iv : Ptr} {blockType : BlockType}
    {st : St} {t : Transfer} (inside : t ∈ blockTransfers src len tag iv blockType st) :
    t.dfx = st.dfx ∧ t.ivArr = st.ivArr := by
  cases blockType with
  | secureHeader =>
    simp only [blockTransfers, imageTransfers, headerTransfers, List.mem_cons, List.not_mem_nil,
      or_false] at inside
    rcases inside with rfl | rfl | rfl <;> exact ⟨rfl, rfl⟩
  | dataBlock =>
    simp only [blockTransfers, imageTransfers, headerTransfers, List.mem_cons, List.not_mem_nil,
      or_false] at inside
    rcases inside with rfl | rfl | rfl | rfl <;> exact ⟨rfl, rfl⟩

theorem aesTransferBody_sends (src : Ptr) (len : Nat) (tag : Ptr) (blockType : BlockType)
    (st : St) :
    ∃ started : Nat → Prop,
      (started 0 ↔ env.prepareVa = true ∧ acceptsImage board img env src len blockType = true) ∧
      Sends board img (imageTransfers src len tag st.swapped blockType) started st
        (aesTransferBody board img env src len tag blockType st) := by
  cases ready : env.prepareVa with
  | false =>
    rw [aesTransferBody_unready ready]
    exact ⟨fun _ => False, by simp, Sends.nothing (SameDriver.refl _) rfl (fun _ => not_false)
      fun success => absurd (Option.some.inj success) teeErrorGeneric_ne⟩
  | true =>
    rw [aesTransferBody_ready ready]
    have image : ∃ started : Nat → Prop, _ ∧ Sends board img _ started _
        (aesTransferImage board img env src len tag blockType st.swapped) :=
      aesTransferImage_sends ..
    obtain ⟨started, first, sends⟩ := image
    exact ⟨started, by simpa using first, sends.of_same ⟨rfl, rfl, rfl⟩ rfl⟩

/-- Some image data of the block is streamed. -/
def streamsBlock (board : Board) (img : Image) (env : BlockEnv) (src : Ptr) (len : Nat) (iv : Ptr)
    (blockType : BlockType) : Bool :=
  env.aesVa && accepts board img env .iv iv zynqmpCsudmaMinSize && synced env .iv &&
    env.prepareVa && acceptsImage board img env src len blockType

/-- **A block call sends an initial part of the block's transfers**, all of them when it succeeds,
and more than the IV exactly when it streams. -/
theorem aesTransferDec_sends (src : Ptr) (len : Nat) (tag iv : Ptr) (blockType : BlockType)
    (st : St) :
    ∃ started : Nat → Prop,
      (started 1 ↔ streamsBlock board img env src len iv blockType = true) ∧
      Sends board img (blockTransfers src len tag iv blockType st) started st
        (aesTransferDec board img env src len tag iv blockType st) := by
  unfold aesTransferDec
  cases mapped : env.aesVa with
  | false =>
    exact ⟨fun _ => False, by simp [streamsBlock, mapped],
      Sends.nothing (SameDriver.refl _) rfl (fun _ => not_false)
        fun success => absurd (Option.some.inj success) teeErrorGeneric_ne⟩
  | true =>
    have body : ∃ started : Nat → Prop, _ ∧ Sends board img _ started _
        (aesTransferBody board img env src len tag blockType
          (st.emit (.transfer (st.transferOf iv zynqmpCsudmaMinSize 0)))) :=
      aesTransferBody_sends ..
    obtain ⟨started, first, sends⟩ := body
    refine ⟨_, ?_, Sends.pushThen rfl sends⟩
    simp [startedAfter, first, streamsBlock, mapped, and_assoc]

/-! ### The code a decrypt call returns -/

theorem pushThen_ret {x : Xfer} {addr : Ptr} {len : Nat} {notify : Byte}
    {next : St → St × Option TeeResult} (blind : ∀ st st', (next st).2 = (next st').2)
    (st st' : St) :
    (pushThen board img env x addr len notify next st).2 =
      (pushThen board img env x addr len notify next st').2 := by
  by_cases through : passes board img env x addr len
  · rw [pushThen_passed through, pushThen_passed through]
    exact blind _ _
  · obtain ⟨ret, _, leaves⟩ := pushThen_failed through notify next
    rw [leaves, leaves]
    rfl

theorem pushThen_success {x : Xfer} {addr : Ptr} {len : Nat} {notify : Byte}
    {next : St → St × Option TeeResult} {st : St} :
    (pushThen board img env x addr len notify next st).2 = some teeSuccess ↔
      passes board img env x addr len ∧
        (next (st.emit (.transfer (st.transferOf addr len notify)))).2 = some teeSuccess := by
  by_cases through : passes board img env x addr len
  · rw [pushThen_passed through]
    simp [through]
  · obtain ⟨ret, error, leaves⟩ := pushThen_failed through notify next
    rw [leaves]
    simp [through, aesTransferOut, error]

theorem aesTransferHeader_ret (src : Ptr) (len : Nat) (tag : Ptr) (st st' : St) :
    (aesTransferHeader board img env src len tag st).2 =
      (aesTransferHeader board img env src len tag st').2 :=
  pushThen_ret (pushThen_ret fun _ _ => rfl) st st'

theorem aesTransferImage_ret (src : Ptr) (len : Nat) (tag : Ptr) (blockType : BlockType)
    (st st' : St) :
    (aesTransferImage board img env src len tag blockType st).2 =
      (aesTransferImage board img env src len tag blockType st').2 := by
  cases blockType with
  | secureHeader => exact aesTransferHeader_ret src len tag st st'
  | dataBlock =>
    refine pushThen_ret (fun a b => ?_) st st'
    split
    · exact aesTransferHeader_ret src len tag a b
    · rfl

theorem aesTransferDec_ret (src : Ptr) (len : Nat) (tag iv : Ptr) (blockType : BlockType)
    (st st' : St) :
    (aesTransferDec board img env src len tag iv blockType st).2 =
      (aesTransferDec board img env src len tag iv blockType st').2 := by
  unfold aesTransferDec
  split
  · rfl
  · refine pushThen_ret (fun a b => ?_) st st'
    cases ready : env.prepareVa with
    | false => rw [aesTransferBody_unready ready, aesTransferBody_unready ready]
    | true =>
      rw [aesTransferBody_ready ready, aesTransferBody_ready ready]
      exact aesTransferImage_ret ..

theorem decryptData_ret (src : Option Ptr) (len : Nat) (tag iv : Option Ptr) (blockType : BlockType)
    (st st' : St) :
    (zynqmpCsuAesDecryptData board img env src len tag iv blockType st).2 =
      (zynqmpCsuAesDecryptData board img env src len tag iv blockType st').2 := by
  unfold zynqmpCsuAesDecryptData
  split
  · rename_i src tag iv
    have ret : (aesTransferDec board img env src len tag iv blockType (st.emit .decrypt)).2 = _ :=
      aesTransferDec_ret src len tag iv blockType _ (st'.emit .decrypt)
    simp only [ret]
    split
    · rename_i stuck
      rw [stuck, ret, stuck]
    · rfl
  · rfl

/-- What holds at `out` and of what follows a push holds of the two together. -/
theorem pushThen_rule {x : Xfer} {addr : Ptr} {len : Nat} {notify : Byte}
    {next : St → St × Option TeeResult} (post : St × Option TeeResult → Prop)
    (out : ∀ st ret, post (aesTransferOut env st ret)) (continues : ∀ st, post (next st))
    (st : St) : post (pushThen board img env x addr len notify next st) := by
  by_cases through : passes board img env x addr len
  · rw [pushThen_passed through]
    exact continues _
  · obtain ⟨ret, _, leaves⟩ := pushThen_failed through notify next
    rw [leaves]
    exact out _ ret

theorem aesTransferHeader_rule {src : Ptr} {len : Nat} {tag : Ptr}
    (post : St × Option TeeResult → Prop) (out : ∀ st ret, post (aesTransferOut env st ret))
    (st : St) : post (aesTransferHeader board img env src len tag st) :=
  pushThen_rule post out (pushThen_rule post out fun st => out st _) st

theorem aesTransferOut_returns (st : St) (ret : TeeResult) :
    (aesTransferOut env st ret).2 ≠ none :=
  Option.some_ne_none ret

/-- A decrypt call comes back if the PCAP does. -/
theorem decryptData_returns (alive : (env.pcapVa && env.pcapIdle) = true) (src : Ptr) (len : Nat)
    (tag : Ptr) (iv : Option Ptr) (blockType : BlockType) (st : St) :
    (zynqmpCsuAesDecryptData board img env (some src) len (some tag) iv blockType st).2 ≠ none := by
  have image (st : St) : (aesTransferImage board img env src len tag blockType st).2 ≠ none := by
    cases blockType with
    | secureHeader => exact aesTransferHeader_rule (·.2 ≠ none) aesTransferOut_returns st
    | dataBlock =>
      refine pushThen_rule (·.2 ≠ none) aesTransferOut_returns (fun st => ?_) st
      rw [if_pos alive]
      exact aesTransferHeader_rule (·.2 ≠ none) aesTransferOut_returns st
  have body (st : St) : (aesTransferBody board img env src len tag blockType st).2 ≠ none := by
    cases ready : env.prepareVa with
    | false =>
      rw [aesTransferBody_unready ready]
      simp
    | true =>
      rw [aesTransferBody_ready ready]
      exact image _
  cases iv with
  | none => simp [zynqmpCsuAesDecryptData]
  | some iv =>
    have transfer (st : St) :
        (aesTransferDec board img env src len tag iv blockType st).2 ≠ none := by
      unfold aesTransferDec
      split
      · simp
      · exact pushThen_rule (·.2 ≠ none) aesTransferOut_returns body st
    obtain ⟨ret, returned⟩ := Option.ne_none_iff_exists'.mp (transfer (st.emit .decrypt))
    simp only [zynqmpCsuAesDecryptData, returned]
    simp

/-- The hardware lets the whole block through: every mapping, transfer, wait and the tag. -/
structure BlockPasses (board : Board) (img : Image) (env : BlockEnv) (src : Ptr) (len : Nat)
    (tag iv : Ptr) (blockType : BlockType) : Prop where
  aesVa : env.aesVa = true
  iv : passes board img env .iv iv zynqmpCsudmaMinSize
  prepared : env.prepareVa = true
  data : blockType = .dataBlock →
    passes board img env .data src len ∧ (env.pcapVa && env.pcapIdle) = true
  hdr : passes board img env .hdr (src.add len) secureHdrSize
  tag : passes board img env .tag tag zynqmpGcmTagSize
  tagOk : env.aesSts &&& aesStsGcmTagOk ≠ 0#32
  idle : aesWait env.waitVa env.busySts aesStsAesBusy false = teeSuccess

theorem aesTransferHeader_success {src : Ptr} {len : Nat} {tag : Ptr} {st : St} :
    (aesTransferHeader board img env src len tag st).2 = some teeSuccess ↔
      passes board img env .hdr (src.add len) secureHdrSize ∧
      passes board img env .tag tag zynqmpGcmTagSize ∧ env.aesSts &&& aesStsGcmTagOk ≠ 0#32 := by
  unfold aesTransferHeader
  rw [pushThen_success, pushThen_success]
  by_cases mismatch : env.aesSts &&& aesStsGcmTagOk = 0#32
  · simp [aesTransferOut, mismatch, teeSuccess, teeErrorGeneric]
  · simp [aesTransferOut, mismatch]

theorem aesTransferImage_success {src : Ptr} {len : Nat} {tag : Ptr} {blockType : BlockType}
    {st : St} :
    (aesTransferImage board img env src len tag blockType st).2 = some teeSuccess ↔
      (blockType = .dataBlock →
        passes board img env .data src len ∧ (env.pcapVa && env.pcapIdle) = true) ∧
      passes board img env .hdr (src.add len) secureHdrSize ∧
      passes board img env .tag tag zynqmpGcmTagSize ∧ env.aesSts &&& aesStsGcmTagOk ≠ 0#32 := by
  cases blockType with
  | secureHeader => simp [aesTransferImage, aesTransferHeader_success]
  | dataBlock =>
    unfold aesTransferImage
    rw [pushThen_success]
    cases idle : env.pcapVa && env.pcapIdle with
    | false => simp
    | true => simp [aesTransferHeader_success]

/-- **A block call succeeds exactly when the hardware lets the block through**, its tag included. -/
theorem decryptData_success {src : Ptr} {len : Nat} {tag iv : Ptr} {blockType : BlockType}
    {st : St} :
    (zynqmpCsuAesDecryptData board img env (some src) len (some tag) (some iv) blockType st).2 =
      some teeSuccess ↔ BlockPasses board img env src len tag iv blockType := by
  have transfer : (aesTransferDec board img env src len tag iv blockType (st.emit .decrypt)).2 =
      some teeSuccess ↔ env.aesVa = true ∧ passes board img env .iv iv zynqmpCsudmaMinSize ∧
        env.prepareVa = true ∧
        (blockType = .dataBlock →
          passes board img env .data src len ∧ (env.pcapVa && env.pcapIdle) = true) ∧
        passes board img env .hdr (src.add len) secureHdrSize ∧
        passes board img env .tag tag zynqmpGcmTagSize ∧
        env.aesSts &&& aesStsGcmTagOk ≠ 0#32 := by
    unfold aesTransferDec
    cases mapped : env.aesVa with
    | false => simp
    | true =>
      simp only [Bool.not_true, Bool.false_eq_true, if_false, true_and]
      rw [pushThen_success]
      cases ready : env.prepareVa with
      | false => simp [aesTransferBody_unready ready]
      | true => simp only [aesTransferBody_ready ready, aesTransferImage_success, true_and]
  have whole : (zynqmpCsuAesDecryptData board img env (some src) len (some tag) (some iv) blockType
      st).2 = some teeSuccess ↔
        (aesTransferDec board img env src len tag iv blockType (st.emit .decrypt)).2 =
          some teeSuccess ∧ aesWait env.waitVa env.busySts aesStsAesBusy false = teeSuccess := by
    simp only [zynqmpCsuAesDecryptData]
    cases sent : (aesTransferDec board img env src len tag iv blockType (st.emit .decrypt)).2 with
    | none => simp [sent]
    | some ret =>
      by_cases ok : ret = teeSuccess
      · simp [ok]
      · simp [ok]
  rw [whole, transfer]
  constructor
  · rintro ⟨⟨aesVa, iv, prepared, data, hdr, tag, tagOk⟩, idle⟩
    exact ⟨aesVa, iv, prepared, data, hdr, tag, tagOk, idle⟩
  · rintro ⟨aesVa, iv, prepared, data, hdr, tag, tagOk, idle⟩
    exact ⟨⟨aesVa, iv, prepared, data, hdr, tag, tagOk⟩, idle⟩

/-! ### What a decrypt call leaves in the trace -/

/-- The transfers of a decrypt call; none without an IV. -/
def callTransfers (src : Ptr) (len : Nat) (tag : Ptr) (iv : Option Ptr) (blockType : BlockType)
    (st : St) : List Transfer :=
  match iv with
  | none => []
  | some iv => blockTransfers src len tag iv blockType st

/-- Some image data is streamed by a decrypt call. -/
def streamsCall (board : Board) (img : Image) (env : BlockEnv) (src : Ptr) (len : Nat)
    (iv : Option Ptr) (blockType : BlockType) : Bool :=
  iv.any fun iv => streamsBlock board img env src len iv blockType

/-- **One decrypt call**: it is recorded with its transfers between call and return, in order. -/
theorem decryptData_trace (src : Ptr) (len : Nat) (tag : Ptr) (iv : Option Ptr)
    (blockType : BlockType) (st : St) :
    let r := zynqmpCsuAesDecryptData board img env (some src) len (some tag) iv blockType st
    SameDriver st r.1 ∧ ∃ sent, sent <+: callTransfers src len tag iv blockType st ∧
      r.1.trace = st.trace ++ Event.decrypt :: sent.map Event.transfer ++
        (r.2.map Event.decrypted).toList ∧
      (1 < sent.length ↔ streamsCall board img env src len iv blockType = true) ∧
      (∀ t ∈ sent, virtToPhys board img t.src % 8 = 0) ∧
      (r.2 = some teeSuccess → sent = callTransfers src len tag iv blockType st) := by
  cases iv with
  | none =>
    refine ⟨⟨rfl, rfl, rfl⟩, [], List.nil_prefix, ?_, by simp [streamsCall], by simp, fun _ => rfl⟩
    simp [zynqmpCsuAesDecryptData, St.emit]
  | some iv =>
    have transfer : ∃ started : Nat → Prop, _ ∧ Sends board img _ started _
        (aesTransferDec board img env src len tag iv blockType (st.emit .decrypt)) :=
      aesTransferDec_sends ..
    obtain ⟨started, streams, same, sent, initial, trace, exactly, aligned, all⟩ := transfer
    have driver := (emit_same st .decrypt).trans same
    simp only [zynqmpCsuAesDecryptData]
    cases ret : (aesTransferDec board img env src len tag iv blockType (st.emit .decrypt)).2 with
    | none =>
      refine ⟨driver, sent, initial, ?_, ?_, aligned, ?_⟩
      · rw [trace, ret]
        simp [St.emit]
      · simpa [streamsCall] using (exactly 1).trans streams
      · simp [ret]
    | some ret' =>
      refine ⟨driver.trans (emit_same _ _), sent, initial, ?_, ?_, aligned, ?_⟩
      · show _ ++ _ = _
        rw [trace]
        simp [St.emit]
      · simpa [streamsCall] using (exactly 1).trans streams
      · intro success
        refine all ?_
        by_cases ok : ret' = teeSuccess
        · rw [ret, ok]
        · simp [ok] at success

end Block

end TrustzoneWatchdog.Loader
