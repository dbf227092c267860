/-
**The bitstream downloader** (`bs_downloader/ta/bs_downloader_ta.c`).

`socket_client` receives until a call reports no bytes; `downlaod_bs` hands what came to the FPGA
manager. What the network and the FPGA manager answer is an input: the `k`-th `recv` call returns
`recv k`, any code with any length. The loop may not end, so it is run for a number of rounds.

* `recvLoop_running`, `recvLoop_left`: the loop in closed form. Call `k` is made when no earlier one
  reported zero bytes.
* `failSafe_iff`: the download is fail-safe only where no `recv` call fails. The loop looks at the
  length alone, a later call overwrites the code, the error return does not close the socket, and
  the caller goes on in any case.
* `failSafe_refuted`: out of shared memory once, then the end of the stream: it is programmed.
-/

import TrustzoneWatchdog.Lib.Loop
import TrustzoneWatchdog.Loader.FpgaMgr

namespace TrustzoneWatchdog.Downloader

open Lib.Loop
open Loader (Word TeeResult teeSuccess teeErrorGeneric teeErrorBadParameters teeParamTypes
  teeParamTypeNone)

/-! ### The trusted application -/

def teeErrorOutOfMemory : TeeResult := 0xFFFF000C#32

def teeParamTypeValueOutput : Word := 2#32

/-- `REVC_BLOCK`. -/
def revcBlock : Word := 0x10000#32

def bitstreamSize : Word := 5000000#32

/-- What a `recv` call returns, and the length it leaves behind. -/
structure Recv where
  res : TeeResult
  len : Word
  deriving DecidableEq

/-- The answers to one `DOWNLOAD` command. -/
structure NetEnv where
  /-- `TEE_Malloc` finds the memory. -/
  malloc : Bool
  /-- What `TEE_tcpSocket->open` returns. -/
  openRes : TeeResult
  recv : Nat → Recv
  /-- What the FPGA manager returns for the write command. -/
  writeRes : TeeResult

/-- The calls the application makes. -/
inductive TaEvent
  | connect (res : TeeResult)
  /-- `recv` into the buffer at `offset`, asked for `requested` bytes. -/
  | recv (offset : Nat) (requested : Word) (outcome : Recv)
  | close
  /-- `PTA_ZYNQMP_FPGA_MGR_CMD_WRITE` with this size. -/
  | invokeWrite (size : Word)
  deriving DecidableEq

/-- The variables of the receive loop. -/
structure Receiver where
  ptr : Nat
  call : Nat
  trace : List TaEvent

section Client

variable (net : NetEnv)

/-- One round of the loop in `socket_client`. -/
def recvRound (s : Receiver) : Round Receiver (Receiver × TeeResult) :=
  let outcome := net.recv s.call
  let next : Receiver :=
    { ptr := s.ptr + outcome.len.toNat
      call := s.call + 1
      trace := s.trace ++ [.recv s.ptr revcBlock outcome] }
  if 0#32 < outcome.len then .again next else .leave (next, outcome.res)

def Receiver.start : Receiver where
  ptr := 0
  call := 0
  trace := [.connect teeSuccess]

/-- `socket_client`: what it does, and the code and size it returns. -/
def socketClient (rounds : Nat) : List TaEvent × Option (TeeResult × Word) :=
  if net.openRes ≠ teeSuccess then
    ([.connect net.openRes], some (teeErrorBadParameters, bitstreamSize))
  else
    match Lib.Loop.rounds (recvRound net) rounds Receiver.start with
    | .again s => (s.trace, none)
    | .leave (s, res) =>
      let dataSize := BitVec.ofNat 32 s.ptr
      -- the error return leaves the socket open
      if res ≠ teeSuccess then (s.trace, some (res, dataSize))
      else (s.trace ++ [.close], some (res, dataSize))

/-- `downlaod_bs`; the code of `socket_client` is logged and then overwritten. -/
def downlaodBs (paramTypes : Word) (rounds : Nat) : List TaEvent × Option TeeResult :=
  if paramTypes ≠
      teeParamTypes teeParamTypeValueOutput teeParamTypeNone teeParamTypeNone teeParamTypeNone then
    ([], some teeErrorBadParameters)
  else if !net.malloc then ([], some teeErrorGeneric)
  else
    match socketClient net rounds with
    | (trace, none) => (trace, none)
    | (trace, some (_, bsLen)) => (trace ++ [.invokeWrite bsLen], some net.writeRes)

def taBsDownloaderCmdDownload : Word := 0#32

/-- `TA_InvokeCommandEntryPoint`. -/
def taInvokeCommandEntryPoint (cmdId paramTypes : Word) (rounds : Nat) :
    List TaEvent × Option TeeResult :=
  if cmdId = taBsDownloaderCmdDownload then downlaodBs net paramTypes rounds
  else ([], some teeErrorBadParameters)

/-! ### The receive loop in closed form -/

/-- Bytes before call `k`. -/
def received : Nat → Nat
  | 0 => 0
  | k + 1 => received k + (net.recv k).len.toNat

/-- The loop's variables before call `k`. -/
def receiverAt (k : Nat) : Receiver where
  ptr := received net k
  call := k
  trace := .connect teeSuccess ::
    (List.range k).map fun j => .recv (received net j) revcBlock (net.recv j)

/-- Call `k` reports some bytes. -/
def Bytes (k : Nat) : Prop := 0#32 < (net.recv k).len

variable {net}

theorem receiverAt_succ (k : Nat) :
    (receiverAt net (k + 1)).trace =
      (receiverAt net k).trace ++ [.recv (received net k) revcBlock (net.recv k)] := by
  simp [receiverAt, List.range_succ]

theorem recvRound_again {k : Nat} (bytes : Bytes net k) :
    recvRound net (receiverAt net k) = .again (receiverAt net (k + 1)) := by
  have bytes : 0#32 < (net.recv (receiverAt net k).call).len := bytes
  simp only [recvRound, if_pos bytes]
  simp [receiverAt, received, List.range_succ]

theorem recvRound_leave {k : Nat} (done : ¬ Bytes net k) :
    recvRound net (receiverAt net k) = .leave (receiverAt net (k + 1), (net.recv k).res) := by
  have done : ¬ 0#32 < (net.recv (receiverAt net k).call).len := done
  simp only [recvRound, if_neg done]
  simp [receiverAt, received, List.range_succ]

theorem recvLoop_running {n : Nat} (bytes : ∀ j < n, Bytes net j) :
    rounds (recvRound net) n Receiver.start = .again (receiverAt net n) :=
  rounds_of_path (receiverAt net) (fun k below => recvRound_again (bytes k below)) 0

theorem recvLoop_left {k n : Nat} (bytes : ∀ j < k, Bytes net j) (done : ¬ Bytes net k)
    (later : k < n) :
    rounds (recvRound net) n Receiver.start =
      .leave (receiverAt net (k + 1), (net.recv k).res) :=
  rounds_leave (receiverAt net) (fun j below => recvRound_again (bytes j below))
    (recvRound_leave done) later

/-- After `n` rounds the loop has made `n` calls, or it ended with one that reported nothing. -/
theorem recvLoop_cases (net : NetEnv) (n : Nat) :
    (∀ j < n, Bytes net j) ∨ ∃ k < n, (∀ j < k, Bytes net j) ∧ ¬ Bytes net k := by
  have cases := rounds_cases (receiverAt net) (Bytes net) (fun _ _ => recvRound_again)
    (fun k => (receiverAt net (k + 1), (net.recv k).res)) (fun _ _ => recvRound_leave) n
  rcases cases with ⟨bytes, _⟩ | ⟨k, below, bytes, done, _⟩
  · exact Or.inl bytes
  · exact Or.inr ⟨k, below, bytes, done⟩

/-! ### A failed download -/

def TaEvent.isRecv : TaEvent → Bool
  | .recv _ _ _ => true
  | _ => false

variable (net) in
/-- A `recv` call fails within `n` rounds. -/
def RecvFails (paramTypes : Word) (n : Nat) : Prop :=
  ∃ offset requested outcome,
    TaEvent.recv offset requested outcome ∈ (downlaodBs net paramTypes n).1 ∧
      outcome.res ≠ teeSuccess

variable (net) in
/-- **A failed download is never programmed.** -/
structure FailSafe (paramTypes : Word) : Prop where
  /-- No `recv` call follows one that failed. -/
  last : ∀ n before offset requested outcome after, (downlaodBs net paramTypes n).1 =
    before ++ .recv offset requested outcome :: after → outcome.res ≠ teeSuccess →
    ∀ e ∈ after, e.isRecv = false
  closes : ∀ n, RecvFails net paramTypes n →
    ∃ m, ∀ later ≥ m, TaEvent.close ∈ (downlaodBs net paramTypes later).1
  /-- `socket_client` returns an error. -/
  clientError : ∀ n, RecvFails net paramTypes n →
    ∃ m code size, code ≠ teeSuccess ∧ ∀ later ≥ m, (socketClient net later).2 = some (code, size)
  /-- `downlaod_bs` returns an error. -/
  error : ∀ n, RecvFails net paramTypes n →
    ∃ m code, code ≠ teeSuccess ∧ ∀ later ≥ m, (downlaodBs net paramTypes later).2 = some code
  unprogrammed : ∀ n, RecvFails net paramTypes n →
    ∀ later size, TaEvent.invokeWrite size ∉ (downlaodBs net paramTypes later).1

variable (net) in
/-- The command gets as far as the receive loop. -/
def Receives (paramTypes : Word) : Prop :=
  paramTypes =
      teeParamTypes teeParamTypeValueOutput teeParamTypeNone teeParamTypeNone teeParamTypeNone ∧
    net.malloc = true ∧ net.openRes = teeSuccess

theorem socketClient_running (opened : net.openRes = teeSuccess) {n : Nat}
    (bytes : ∀ j < n, Bytes net j) : socketClient net n = ((receiverAt net n).trace, none) := by
  simp [socketClient, opened, recvLoop_running bytes]

theorem socketClient_left (opened : net.openRes = teeSuccess) {k n : Nat}
    (bytes : ∀ j < k, Bytes net j) (done : ¬ Bytes net k) (later : k < n) :
    socketClient net n = ((receiverAt net (k + 1)).trace ++
      (if (net.recv k).res = teeSuccess then [.close] else []),
      some ((net.recv k).res, BitVec.ofNat 32 (received net (k + 1)))) := by
  simp only [socketClient, opened, ne_eq, not_true_eq_false, if_false,
    recvLoop_left bytes done later]
  split_ifs <;> simp_all [receiverAt]

theorem downlaodBs_running {paramTypes : Word} (receives : Receives net paramTypes) {n : Nat}
    (bytes : ∀ j < n, Bytes net j) :
    downlaodBs net paramTypes n = ((receiverAt net n).trace, none) := by
  obtain ⟨types, malloc, opened⟩ := receives
  simp [downlaodBs, types, malloc, socketClient_running opened bytes]

/-- Once the loop has ended the write command is invoked, whatever `socket_client` returned. -/
theorem downlaodBs_left {paramTypes : Word} (receives : Receives net paramTypes) {k n : Nat}
    (bytes : ∀ j < k, Bytes net j) (done : ¬ Bytes net k) (later : k < n) :
    downlaodBs net paramTypes n = ((receiverAt net (k + 1)).trace ++
      (if (net.recv k).res = teeSuccess then [.close] else []) ++
        [.invokeWrite (BitVec.ofNat 32 (received net (k + 1)))], some net.writeRes) := by
  obtain ⟨types, malloc, opened⟩ := receives
  simp [downlaodBs, types, malloc, socketClient_left opened bytes done later]

theorem recv_mem_receiverAt {offset : Nat} {requested : Word} {outcome : Recv} {n : Nat}
    (here : TaEvent.recv offset requested outcome ∈ (receiverAt net n).trace) :
    ∃ k < n, outcome = net.recv k := by
  simp only [receiverAt, List.mem_cons, List.mem_map, List.mem_range, TaEvent.recv.injEq] at here
  rcases here with connect | ⟨k, below, _, _, same⟩
  · cases connect
  · exact ⟨k, below, same.symm⟩

/-- Where a `recv` call in the trace comes from. -/
theorem recv_mem_downlaodBs {paramTypes : Word} {offset : Nat} {requested : Word} {outcome : Recv}
    {n : Nat} (here : TaEvent.recv offset requested outcome ∈ (downlaodBs net paramTypes n).1) :
    Receives net paramTypes ∧ ∃ k, (∀ j < k, Bytes net j) ∧ outcome = net.recv k := by
  have receives : Receives net paramTypes := by
    by_contra refused
    unfold downlaodBs socketClient at here
    by_cases types : paramTypes = teeParamTypes teeParamTypeValueOutput teeParamTypeNone
        teeParamTypeNone teeParamTypeNone
    · cases malloc : net.malloc with
      | false => simp [types, malloc] at here
      | true =>
        have closed : net.openRes ≠ teeSuccess := fun opened => refused ⟨types, malloc, opened⟩
        simp [types, malloc, closed] at here
    · simp [types] at here
  refine ⟨receives, ?_⟩
  rcases recvLoop_cases net n with bytes | ⟨k, below, bytes, done⟩
  · rw [downlaodBs_running receives bytes] at here
    obtain ⟨j, less, same⟩ := recv_mem_receiverAt here
    exact ⟨j, fun i earlier => bytes i (by omega), same⟩
  · rw [downlaodBs_left receives bytes done below] at here
    have inside : TaEvent.recv offset requested outcome ∈ (receiverAt net (k + 1)).trace := by
      split_ifs at here <;> simpa using here
    obtain ⟨j, less, same⟩ := recv_mem_receiverAt inside
    exact ⟨j, fun i earlier => bytes i (by omega), same⟩

/-- The calls `0 … k` are at the front of the trace after `k + 1` rounds, in order. -/
theorem downlaodBs_calls {paramTypes : Word} (receives : Receives net paramTypes) {k : Nat}
    (bytes : ∀ j < k, Bytes net j) :
    ∃ rest, (downlaodBs net paramTypes (k + 1)).1 = (receiverAt net (k + 1)).trace ++ rest := by
  by_cases more : Bytes net k
  · have longer : ∀ j < k + 1, Bytes net j := Nat.forall_lt_succ_right.mpr ⟨bytes, more⟩
    exact ⟨[], by rw [downlaodBs_running receives longer, List.append_nil]⟩
  · rw [downlaodBs_left receives bytes more (Nat.lt_succ_self k), List.append_assoc]
    exact ⟨_, rfl⟩

/-- **Exactly when a download is fail-safe**: when no `recv` call that is made fails. -/
theorem failSafe_iff (net : NetEnv) (paramTypes : Word) :
    FailSafe net paramTypes ↔ (Receives net paramTypes →
      ∀ k, (∀ j < k, Bytes net j) → (net.recv k).res = teeSuccess) := by
  constructor
  · intro safe receives k bytes
    by_contra fails
    by_cases more : Bytes net k
    · -- the loop only looks at the length and calls again
      obtain ⟨rest, trace⟩ :=
        downlaodBs_calls receives (Nat.forall_lt_succ_right.mpr ⟨bytes, more⟩)
      have split : (downlaodBs net paramTypes (k + 2)).1 = (receiverAt net k).trace ++
          .recv (received net k) revcBlock (net.recv k) ::
            (.recv (received net (k + 1)) revcBlock (net.recv (k + 1)) :: rest) := by
        rw [trace, receiverAt_succ, receiverAt_succ]
        simp
      have quiet := safe.last _ _ _ _ _ _ split fails _ (List.mem_cons_self ..)
      exact absurd quiet (by simp [TaEvent.isRecv])
    · -- the loop ends, and the write command is invoked with what there is
      have trace := downlaodBs_left receives bytes more (Nat.lt_succ_self k)
      have failed : RecvFails net paramTypes (k + 1) :=
        ⟨received net k, revcBlock, net.recv k, by rw [trace, receiverAt_succ]; simp, fails⟩
      refine safe.unprogrammed (k + 1) failed (k + 1) (BitVec.ofNat 32 (received net (k + 1))) ?_
      rw [trace]
      exact List.mem_append_right _ (List.mem_singleton.mpr rfl)
  · intro sound
    have never (n : Nat) : ¬ RecvFails net paramTypes n := by
      rintro ⟨offset, requested, outcome, here, fails⟩
      obtain ⟨receives, k, bytes, rfl⟩ := recv_mem_downlaodBs here
      exact fails (sound receives k bytes)
    refine ⟨fun n before offset requested outcome after split fails => ?_,
      fun n failed => absurd failed (never n), fun n failed => absurd failed (never n),
      fun n failed => absurd failed (never n), fun n failed => absurd failed (never n)⟩
    exact absurd ⟨offset, requested, outcome, by rw [split]; simp, fails⟩ (never n)

/-- The first `recv` call runs out of shared memory before its RPC, with the length as requested;
the second reports the end of the stream. -/
def outOfMemoryOnce : NetEnv where
  malloc := true
  openRes := teeSuccess
  recv := fun
    | 0 => ⟨teeErrorOutOfMemory, revcBlock⟩
    | _ => ⟨teeSuccess, 0#32⟩
  writeRes := teeSuccess

/-- The parameter types `downlaod_bs` expects. -/
def downloadParamTypes : Word :=
  teeParamTypes teeParamTypeValueOutput teeParamTypeNone teeParamTypeNone teeParamTypeNone

theorem downlaodBs_outOfMemoryOnce : downlaodBs outOfMemoryOnce downloadParamTypes 2 =
    ([.connect teeSuccess, .recv 0 revcBlock ⟨teeErrorOutOfMemory, revcBlock⟩,
      .recv 65536 revcBlock ⟨teeSuccess, 0#32⟩, .close, .invokeWrite revcBlock],
      some teeSuccess) := by
  decide +kernel

/-- **A failed download is programmed**, and reported as a success. -/
theorem failSafe_refuted : (downlaodBs outOfMemoryOnce downloadParamTypes 2).2 = some teeSuccess ∧
    ¬ FailSafe outOfMemoryOnce downloadParamTypes := by
  have run := downlaodBs_outOfMemoryOnce
  refine ⟨by rw [run], fun safe => ?_⟩
  have failed : RecvFails outOfMemoryOnce downloadParamTypes 2 :=
    ⟨0, revcBlock, ⟨teeErrorOutOfMemory, revcBlock⟩, by simp [run], by decide⟩
  exact safe.unprogrammed 2 failed 2 revcBlock (by simp [run])

end Client

end TrustzoneWatchdog.Downloader
