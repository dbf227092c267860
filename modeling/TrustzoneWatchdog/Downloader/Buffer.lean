/-
**The receive buffer** (`bs_downloader/ta/bs_downloader_ta.c`, `core/tee/socket.c`).

`downlaod_bs` allocates `BITSTREAM_SIZE` zeroed bytes. Each `recv` call of `socket_client` stores at
the cursor what the core's `socket_recv` copies out of shared memory, and the cursor advances by the
length the normal world reports: the copy is cut at the requested size, the length is not.

* `mem_stores`: call `k` stores at the sum of the lengths reported before it.
* `inBuffer_iff`: the stores stay inside the allocation only where the server and the supplicant see
  to it. The loop never consults the size it is given.
* `inBuffer_refuted`: a file of 77 full chunks is 46272 bytes too long, and is stored nevertheless.
* `programmed_eq_served`: a stream that fits is programmed as served, however it is split.
-/

import TrustzoneWatchdog.Lib.Memory
import TrustzoneWatchdog.Downloader.Client

namespace TrustzoneWatchdog.Downloader

open Lib.Memory
open Loader (Word Byte TeeResult teeSuccess teeErrorBadParameters teeParamTypes teeParamTypeNone)

/-! ### The core's side of a `recv` call -/

def teeParamTypeValueInput : Word := 1#32

def teeParamTypeMemrefOutput : Word := 6#32

/-- What the normal world does for one `recv` call. -/
structure RpcAnswer where
  /-- `thread_rpc_shm_cache_alloc` finds the shared memory. -/
  alloc : Bool
  /-- What `thread_rpc_cmd` returns. -/
  res : TeeResult
  /-- The size the supplicant reports. -/
  size : Word
  /-- What it left in the shared memory. -/
  byte : Nat → Byte

/-- `socket_recv`: what the call returns, with the size it leaves behind, and what it stores. -/
def socketRecv (paramTypes size : Word) (answer : RpcAnswer) : Recv × List Byte :=
  if paramTypes ≠ teeParamTypes teeParamTypeValueInput teeParamTypeMemrefOutput teeParamTypeNone
      teeParamTypeNone then
    (⟨teeErrorBadParameters, size⟩, [])
  else if size ≠ 0#32 ∧ answer.alloc = false then (⟨teeErrorOutOfMemory, size⟩, [])
  else
    -- the copy comes before the return, whatever the RPC returned
    (⟨answer.res, answer.size⟩,
      if size ≠ 0#32 then (List.range (min size.toNat answer.size.toNat)).map answer.byte else [])

/-- `__tee_socket_pta_recv`, in the session that the connect opened. -/
def teeSocketPtaRecv (len : Word) (answer : RpcAnswer) : Recv × List Byte :=
  socketRecv (teeParamTypes teeParamTypeValueInput teeParamTypeMemrefOutput teeParamTypeNone
    teeParamTypeNone) len answer

theorem teeSocketPtaRecv_allocated {len : Word} {answer : RpcAnswer} (asked : len ≠ 0#32)
    (alloc : answer.alloc = true) : teeSocketPtaRecv len answer =
      (⟨answer.res, answer.size⟩,
        (List.range (min len.toNat answer.size.toNat)).map answer.byte) := by
  simp [teeSocketPtaRecv, socketRecv, asked, alloc]

/-- A successful call stores what it reports, as far as it was asked for it. -/
theorem teeSocketPtaRecv_length {len : Word} {answer : RpcAnswer} (asked : len ≠ 0#32)
    (success : (teeSocketPtaRecv len answer).1.res = teeSuccess) :
    (teeSocketPtaRecv len answer).2.length =
      min (teeSocketPtaRecv len answer).1.len.toNat len.toNat := by
  cases alloc : answer.alloc with
  | true => simp [teeSocketPtaRecv_allocated asked alloc, Nat.min_comm]
  | false =>
    have failed : (teeSocketPtaRecv len answer).1.res = teeErrorOutOfMemory := by
      simp [teeSocketPtaRecv, socketRecv, asked, alloc]
    exact absurd (failed.symm.trans success) (by decide)

/-- What the `recv` calls of one command store. -/
structure Wire (net : NetEnv) where
  stored : Nat → List Byte
  length_stored : ∀ k, (net.recv k).res = teeSuccess →
    (stored k).length = min (net.recv k).len.toNat revcBlock.toNat

/-- The command meets memory, a server that accepts, and these answers. -/
def NetEnv.answering (answer : Nat → RpcAnswer) (writeRes : TeeResult) : NetEnv where
  malloc := true
  openRes := teeSuccess
  recv k := (teeSocketPtaRecv revcBlock (answer k)).1
  writeRes := writeRes

def Wire.answering (answer : Nat → RpcAnswer) (writeRes : TeeResult) :
    Wire (NetEnv.answering answer writeRes) where
  stored k := (teeSocketPtaRecv revcBlock (answer k)).2
  length_stored _ success := teeSocketPtaRecv_length (by decide) success

/-! ### Where the bytes go -/

section Buffer

variable {net : NetEnv} (wire : Wire net)

/-- The stores of a trace whose first `recv` call is number `call`. -/
def stores : Nat → List TaEvent → List (Nat × List Byte)
  | _, [] => []
  | call, .recv offset _ _ :: rest => (offset, wire.stored call) :: stores (call + 1) rest
  | call, _ :: rest => stores call rest

theorem stores_append (call : Nat) (before after : List TaEvent) :
    stores wire call (before ++ after) =
      stores wire call before ++ stores wire (call + before.countP TaEvent.isRecv) after := by
  induction before generalizing call with
  | nil => rfl
  | cons event before ih =>
    cases event with
    | recv offset requested outcome =>
      have next : call + 1 + before.countP TaEvent.isRecv =
          call + (TaEvent.recv offset requested outcome :: before).countP TaEvent.isRecv := by
        rw [List.countP_cons_of_pos rfl]
        omega
      simp only [List.cons_append, stores, ih, next]
    | connect res => simpa [stores, TaEvent.isRecv] using ih call
    | close => simpa [stores, TaEvent.isRecv] using ih call
    | invokeWrite size => simpa [stores, TaEvent.isRecv] using ih call

theorem countP_isRecv_receiverAt (net : NetEnv) (n : Nat) :
    (receiverAt net n).trace.countP TaEvent.isRecv = n := by
  induction n with
  | zero => rfl
  | succ n ih => rw [receiverAt_succ, List.countP_append, ih]; rfl

/-- Call `k` stores at the sum of the lengths reported before it. -/
theorem stores_receiverAt (n : Nat) : stores wire 0 (receiverAt net n).trace =
    (List.range n).map fun k => (received net k, wire.stored k) := by
  induction n with
  | zero => rfl
  | succ n ih =>
    rw [receiverAt_succ, stores_append, ih, countP_isRecv_receiverAt, List.range_succ]
    simp [stores]

variable {wire}

/-- **The stores of `socket_client`.** -/
theorem mem_stores {rounds : Nat} {piece : Nat × List Byte} :
    piece ∈ stores wire 0 (socketClient net rounds).1 ↔
      net.openRes = teeSuccess ∧ ∃ k < rounds, (∀ j < k, Bytes net j) ∧
        piece = (received net k, wire.stored k) := by
  by_cases opened : net.openRes = teeSuccess
  · simp only [opened, true_and]
    rcases recvLoop_cases net rounds with bytes | ⟨last, below, bytes, done⟩
    · rw [socketClient_running opened bytes, stores_receiverAt, List.mem_map]
      constructor
      · rintro ⟨k, within, rfl⟩
        have within : k < rounds := List.mem_range.mp within
        exact ⟨k, within, fun j earlier => bytes j (by omega), rfl⟩
      · rintro ⟨k, within, _, rfl⟩
        exact ⟨k, List.mem_range.mpr within, rfl⟩
    · have tail : stores wire (0 + last.succ)
          (if (net.recv last).res = teeSuccess then [.close] else []) = [] := by
        split_ifs <;> rfl
      rw [socketClient_left opened bytes done below, stores_append, countP_isRecv_receiverAt,
        tail, List.append_nil, stores_receiverAt, List.mem_map]
      constructor
      · rintro ⟨k, within, rfl⟩
        have within : k < last + 1 := List.mem_range.mp within
        exact ⟨k, by omega, fun j earlier => bytes j (by omega), rfl⟩
      · rintro ⟨k, _, before, rfl⟩
        -- no call is made after the one that reported nothing
        have within : k ≤ last := not_lt.mp fun beyond => done (before last beyond)
        exact ⟨k, List.mem_range.mpr (by omega), rfl⟩
  · simp [socketClient, opened, stores]

/-- The size that `socket_client` leaves in `*data_size` once connected. -/
theorem socketClient_size (opened : net.openRes = teeSuccess) {rounds : Nat} {code : TeeResult}
    {size : Word} (returns : (socketClient net rounds).2 = some (code, size)) :
    ∃ k, (∀ j < k, Bytes net j) ∧ ¬ Bytes net k ∧
      size = BitVec.ofNat 32 (received net (k + 1)) := by
  rcases recvLoop_cases net rounds with bytes | ⟨last, below, bytes, done⟩
  · rw [socketClient_running opened bytes] at returns
    cases returns
  · rw [socketClient_left opened bytes done below] at returns
    cases returns
    exact ⟨last, bytes, done, rfl⟩

/-- A call that reports nothing leaves the cursor where it is. -/
theorem received_succ_of_done {k : Nat} (done : ¬ Bytes net k) :
    received net (k + 1) = received net k := by
  have zero : (net.recv k).len.toNat = 0 := by simpa [Bytes, BitVec.lt_def] using done
  rw [received, zero, Nat.add_zero]

variable (wire) in
/-- **The downloader stays in its buffer.** -/
structure InBuffer : Prop where
  stored : ∀ rounds, ∀ piece ∈ stores wire 0 (socketClient net rounds).1,
    ∀ i < piece.2.length, piece.1 + i < bitstreamSize.toNat
  size : ∀ rounds code size, (socketClient net rounds).2 = some (code, size) →
    size.toNat ≤ bitstreamSize.toNat

/-- **Exactly when the downloader stays in its buffer**: when what each call that is made stores,
placed behind the lengths reported before it, ends inside the allocation, and the lengths reported
up to the end of the stream do so modulo `2 ^ 32`. -/
theorem inBuffer_iff (wire : Wire net) : InBuffer wire ↔ (net.openRes = teeSuccess →
    ∀ k, (∀ j < k, Bytes net j) →
      (wire.stored k = [] ∨ received net k + (wire.stored k).length ≤ bitstreamSize.toNat) ∧
      (¬ Bytes net k → received net k % 2 ^ 32 ≤ bitstreamSize.toNat)) := by
  constructor
  · intro inBuffer opened k bytes
    refine ⟨?_, fun done => ?_⟩
    · by_cases empty : wire.stored k = []
      · exact Or.inl empty
      · have some : 0 < (wire.stored k).length := List.length_pos_iff.mpr empty
        have lastByte := inBuffer.stored (k + 1) (received net k, wire.stored k)
          (mem_stores.mpr ⟨opened, k, Nat.lt_succ_self k, bytes, rfl⟩)
          ((wire.stored k).length - 1) (Nat.sub_lt some Nat.one_pos)
        exact Or.inr (by omega)
    · have returns := socketClient_left opened bytes done (Nat.lt_succ_self k)
      have size := inBuffer.size (k + 1) _ _ (congrArg Prod.snd returns)
      rwa [BitVec.toNat_ofNat, received_succ_of_done done] at size
  · intro inside
    refine ⟨fun rounds piece stored i below => ?_, fun rounds code size returns => ?_⟩
    · obtain ⟨opened, k, _, bytes, rfl⟩ := mem_stores.mp stored
      rcases (inside opened k bytes).1 with empty | fits
      · simp [empty] at below
      · show received net k + i < bitstreamSize.toNat
        have below : i < (wire.stored k).length := below
        omega
    · by_cases opened : net.openRes = teeSuccess
      · obtain ⟨k, bytes, done, rfl⟩ := socketClient_size opened returns
        rw [BitVec.toNat_ofNat, received_succ_of_done done]
        exact (inside opened k bytes).2 done
      · have unchanged : size = bitstreamSize := by
          simp only [socketClient, ne_eq, opened, not_false_eq_true, if_true, Option.some.injEq,
            Prod.mk.injEq] at returns
          exact returns.2.symm
        rw [unchanged]

/-! ### A stream in chunks -/

variable (wire) in
/-- The `recv` calls deliver these chunks, none empty, and then the end of the stream. -/
structure Served (chunks : List (List Byte)) : Prop where
  recv : ∀ k, (below : k < chunks.length) →
    net.recv k = ⟨teeSuccess, BitVec.ofNat 32 chunks[k].length⟩
  stored : ∀ k, (below : k < chunks.length) → wire.stored k = chunks[k]
  last : net.recv chunks.length = ⟨teeSuccess, 0#32⟩
  nonempty : ∀ chunk ∈ chunks, chunk ≠ []
  atMost : ∀ chunk ∈ chunks, chunk.length ≤ revcBlock.toNat

namespace Served

variable {chunks : List (List Byte)}

theorem length_recv (served : Served wire chunks) {k : Nat} (below : k < chunks.length) :
    (net.recv k).len.toNat = (wire.stored k).length := by
  have small := served.atMost chunks[k] (List.getElem_mem below)
  have block : revcBlock.toNat = 65536 := rfl
  rw [served.recv k below, served.stored k below, BitVec.toNat_ofNat, Nat.mod_eq_of_lt (by omega)]

theorem bytes (served : Served wire chunks) {k : Nat} (below : k < chunks.length) :
    Bytes net k := by
  show 0#32 < (net.recv k).len
  rw [BitVec.lt_def, served.length_recv below, served.stored k below]
  exact List.length_pos_iff.mpr (served.nonempty _ (List.getElem_mem below))

theorem not_bytes (served : Served wire chunks) : ¬ Bytes net chunks.length := by
  rw [Bytes, served.last]
  decide

theorem map_stored (served : Served wire chunks) {n : Nat} (within : n ≤ chunks.length) :
    (List.range n).map wire.stored = chunks.take n := by
  apply List.ext_getElem
  · simp [within]
  · intro k below _
    have below : k < chunks.length := lt_of_lt_of_le (by simpa using below) within
    simp [served.stored k below]

/-- What the buffer holds before call `n`: the chunks so far, one behind the other. -/
theorem load_buffer (served : Served wire chunks) {n : Nat} (within : n ≤ chunks.length)
    (mem : Nat → Byte) :
    load (storeAll mem ((List.range n).map fun k => (received net k, wire.stored k)))
      (received net n) = (chunks.take n).flatten := by
  rw [load_storeAll mem rfl n fun k below => by
    rw [received, served.length_recv (by omega)], served.map_stored within]

theorem stored_last (served : Served wire chunks) : wire.stored chunks.length = [] := by
  apply List.eq_nil_of_length_eq_zero
  rw [wire.length_stored _ (congrArg Recv.res served.last), served.last]
  rfl

theorem received_eq (served : Served wire chunks) {n : Nat} (within : n ≤ chunks.length) :
    received net n = (chunks.take n).flatten.length := by
  rw [← served.load_buffer within fun _ => 0#8, load, List.length_map, List.length_range]

end Served

/-- The answers of a server that sends these chunks. -/
def serve (chunks : List (List Byte)) (k : Nat) : RpcAnswer where
  alloc := true
  res := teeSuccess
  size := BitVec.ofNat 32 (chunks.getD k []).length
  byte i := (chunks.getD k []).getD i 0#8

/-- Every stream in chunks of at most a block can be served. -/
theorem served_serve {chunks : List (List Byte)} (nonempty : ∀ chunk ∈ chunks, chunk ≠ [])
    (atMost : ∀ chunk ∈ chunks, chunk.length ≤ revcBlock.toNat) (writeRes : TeeResult) :
    Served (Wire.answering (serve chunks) writeRes) chunks := by
  have answer (k : Nat) : teeSocketPtaRecv revcBlock (serve chunks k) = _ :=
    teeSocketPtaRecv_allocated (by decide) rfl
  refine ⟨fun k below => ?_, fun k below => ?_, ?_, nonempty, atMost⟩
  · show (teeSocketPtaRecv revcBlock (serve chunks k)).1 = _
    rw [answer]
    simp [serve, below]
  · show (teeSocketPtaRecv revcBlock (serve chunks k)).2 = _
    have small := atMost chunks[k] (List.getElem_mem below)
    have block : revcBlock.toNat = 65536 := rfl
    rw [answer]
    apply List.ext_getElem
    · have here : (chunks.getD k []).length = chunks[k].length := by simp [below]
      simp only [serve, here, List.length_map, List.length_range, BitVec.toNat_ofNat]
      omega
    · intro i _ inside
      simp [serve, below, inside]
  · show (teeSocketPtaRecv revcBlock (serve chunks chunks.length)).1 = _
    rw [answer]
    simp [serve]

def fullChunk : List Byte := List.replicate 65536 0xFF#8

theorem length_fullChunk : fullChunk.length = 65536 := List.length_replicate

/-- 77 full chunks: 5046272 bytes. -/
def tooLong : List (List Byte) := List.replicate 77 fullChunk

theorem served_tooLong : Served (Wire.answering (serve tooLong) teeSuccess) tooLong := by
  refine served_serve (fun chunk here => ?_) (fun chunk here => ?_) teeSuccess
  · rw [List.eq_of_mem_replicate here]
    apply List.ne_nil_of_length_pos
    rw [length_fullChunk]
    decide
  · rw [List.eq_of_mem_replicate here, length_fullChunk]
    decide

/-- **The last chunk of a file that is too long is stored past the end of the allocation.** -/
theorem inBuffer_refuted :
    (4980736, fullChunk) ∈ stores (Wire.answering (serve tooLong) teeSuccess) 0
        (socketClient (NetEnv.answering (serve tooLong) teeSuccess) 78).1 ∧
      ¬ InBuffer (Wire.answering (serve tooLong) teeSuccess) := by
  have long : tooLong.length = 77 := List.length_replicate
  have offset : received (NetEnv.answering (serve tooLong) teeSuccess) 76 = 4980736 := by
    rw [served_tooLong.received_eq (by omega), tooLong, List.take_replicate, List.length_flatten,
      List.map_replicate, List.sum_replicate_nat, length_fullChunk]
    decide
  have chunk : (Wire.answering (serve tooLong) teeSuccess).stored 76 = fullChunk := by
    rw [served_tooLong.stored 76 (by omega)]
    exact List.getElem_replicate _
  have stored : (4980736, fullChunk) ∈ stores (Wire.answering (serve tooLong) teeSuccess) 0
      (socketClient (NetEnv.answering (serve tooLong) teeSuccess) 78).1 := by
    refine mem_stores.mpr ⟨rfl, 76, by omega, fun j earlier => served_tooLong.bytes (by omega), ?_⟩
    rw [offset, chunk]
  refine ⟨stored, fun inBuffer => ?_⟩
  have past := inBuffer.stored 78 _ stored 20000 (by rw [length_fullChunk]; decide)
  exact absurd past (by decide)

/-! ### What is programmed -/

variable (wire) in
/-- The allocation, zeroed by `TEE_Malloc`, after the calls of a trace. -/
def bufferAfter (trace : List TaEvent) : Nat → Byte := storeAll (fun _ => 0#8) (stores wire 0 trace)

variable (wire) in
/-- The memrefs of the write commands: size, and contents when the command is invoked. -/
def writeMemrefs : List TaEvent → List TaEvent → List (Word × List Byte)
  | _, [] => []
  | before, .invokeWrite size :: rest =>
    (size, load (bufferAfter wire before) size.toNat) ::
      writeMemrefs (before ++ [.invokeWrite size]) rest
  | before, event :: rest => writeMemrefs (before ++ [event]) rest

/-- A trace that ends in its only write command. -/
theorem writeMemrefs_concat (before trace : List TaEvent) (size : Word)
    (none : ∀ other, TaEvent.invokeWrite other ∉ trace) :
    writeMemrefs wire before (trace ++ [.invokeWrite size]) =
      [(size, load (bufferAfter wire (before ++ trace)) size.toNat)] := by
  induction trace generalizing before with
  | nil => simp [writeMemrefs]
  | cons event trace ih =>
    have rest := ih (before ++ [event]) fun other here => none other (List.mem_cons_of_mem _ here)
    rw [List.append_assoc, List.singleton_append] at rest
    cases event with
    | invokeWrite other => exact absurd (List.mem_cons_self ..) (none other)
    | connect res => exact rest
    | recv offset requested outcome => exact rest
    | close => exact rest

/-- **The bytes programmed are the bytes served**, in one write command, and its result is the
command's: how the stream is split does not matter. -/
theorem programmed_eq_served (wire : Wire net) {paramTypes : Word}
    (receives : Receives net paramTypes) {stream : List Byte}
    (fits : stream.length ≤ bitstreamSize.toNat) {chunks : List (List Byte)}
    (split : chunks.flatten = stream) (served : Served wire chunks) {rounds : Nat}
    (enough : chunks.length < rounds) :
    writeMemrefs wire [] (downlaodBs net paramTypes rounds).1 =
        [(BitVec.ofNat 32 stream.length, stream)] ∧
      (downlaodBs net paramTypes rounds).2 = some net.writeRes := by
  have capacity : bitstreamSize.toNat = 5000000 := rfl
  have total : received net chunks.length = stream.length := by
    rw [served.received_eq le_rfl, List.take_length, split]
  have size : (BitVec.ofNat 32 stream.length).toNat = stream.length := by
    rw [BitVec.toNat_ofNat, Nat.mod_eq_of_lt (by omega)]
  have buffer : load (bufferAfter wire ((receiverAt net (chunks.length + 1)).trace ++ [.close]))
      stream.length = stream := by
    -- the call that reports the end of the stream stores nothing
    rw [bufferAfter, stores_append, stores_receiverAt, List.range_succ, List.map_append,
      List.map_singleton, served.stored_last]
    show load (storeAll _ (_ ++ [_] ++ [])) stream.length = stream
    rw [List.append_nil, storeAll_concat, ← total]
    have unchanged := load_store (storeAll (fun _ => 0#8) ((List.range chunks.length).map
      fun k => (received net k, wire.stored k))) (received net chunks.length) []
    rw [List.length_nil, Nat.add_zero, List.append_nil, served.load_buffer le_rfl,
      List.take_length, split] at unchanged
    exact unchanged
  have run := downlaodBs_left receives (fun _ below => served.bytes below) served.not_bytes enough
  rw [served.last, if_pos rfl, received_succ_of_done served.not_bytes, total] at run
  have once (other : Word) : TaEvent.invokeWrite other ∉
      (receiverAt net (chunks.length + 1)).trace ++ [TaEvent.close] := by
    simp [receiverAt]
  rw [run]
  exact ⟨by rw [writeMemrefs_concat _ _ _ once, List.nil_append, size, buffer], rfl⟩

/-- Three bytes in two chunks. -/
theorem programmed_two_chunks : writeMemrefs (Wire.answering (serve [[1, 2], [3]]) teeSuccess) []
      (downlaodBs (NetEnv.answering (serve [[1, 2], [3]]) teeSuccess) downloadParamTypes 3).1 =
        [(3#32, [1, 2, 3])] ∧
    (downlaodBs (NetEnv.answering (serve [[1, 2], [3]]) teeSuccess) downloadParamTypes 3).2 =
      some teeSuccess :=
  programmed_eq_served _ ⟨rfl, rfl, rfl⟩ (by decide) rfl
    (served_serve (by decide) (by decide) teeSuccess) (by decide)

end Buffer

end TrustzoneWatchdog.Downloader
