/-
**The downloader over its whole life** (`bs_downloader/ta/bs_downloader_ta.c`,
`lib/libutee/tee_api.c`, `lib/libutee/tee_tcpudp_socket.c`, `lib/libutee/tee_socket_pta.c`, and of
`core/kernel/tee_ta_manager.c` what opens and closes its sessions).

The application is single-instance and kept alive: its static variables, its heap and its sessions
with the FPGA manager and the sockets survive from one client to the next. `TaInstance` holds what
an instance has in hand; `writes` records the parameter types and the size of every write command
that was sent. The answers of the network, of the heap and of the FPGA manager are inputs. An error
that comes from the core and not from the service panics the application: the instance is destroyed
with all it has, and the next client gets a new one. A client call that comes while a command has
not returned changes nothing.

* `teeInvokeTaCommand`: which answers panic.
* `tcpOpen_cases`, `sockClose_cases`, `socketClient_cases`: what the socket functions leave behind.
* `socketClient_result`: unless it panics, the codes and sizes are those of `socketClient` in the
  model without resources.
* `downloader_protocol`: the application opens one session with the FPGA manager, keeps it, and
  sends no command without it or with parameter types that the manager would refuse; the manager
  takes every command but the empty ones.
* `downloader_leaks`: every buffer is freed, and while the instance lives exactly the downloads that
  ended in a `recv` error leave a socket context behind, with its socket still open in the normal
  world.
-/

import TrustzoneWatchdog.Downloader.Client
import TrustzoneWatchdog.Lib.AlarmRun

namespace TrustzoneWatchdog.Downloader

open Lib.Loop Lib.AlarmRun
open Loader (Word TeeResult teeSuccess teeErrorGeneric teeErrorBadParameters teeParamTypes
  teeParamTypeNone teeParamTypeMemrefInout)

/-! ### Commands to other services -/

def teeErrorTargetDead : TeeResult := 0xFFFF3024#32

/-- `TEE_ORIGIN_*`. -/
inductive ErrorOrigin
  | api
  | comms
  | tee
  | trustedApp
  deriving DecidableEq, Repr

/-- What the core answers to a command. -/
structure Answer where
  res : TeeResult
  origin : ErrorOrigin
  /-- `tee_unmap` takes back the temporary buffer of the parameters. -/
  unmapped : Bool
  deriving DecidableEq

/-- `TEE_InvokeTACommand`; `none` is `TEE_Panic`. -/
def teeInvokeTaCommand (a : Answer) : Option TeeResult :=
  if !a.unmapped then none
  else if a.origin = .trustedApp then some a.res
  else if a.res ≠ teeSuccess ∧ a.res ≠ teeErrorOutOfMemory ∧ a.res ≠ teeErrorTargetDead then none
  else some a.res

/-- The service answers, in order. -/
def Answer.ok : Answer := ⟨teeSuccess, .trustedApp, true⟩

/-! ### The instance -/

/-- What the instance has in hand. -/
structure TaInstance where
  /-- `pta_zynqmp_fpga_mgr_session` is not `TEE_HANDLE_NULL`. -/
  ptaSession : Bool
  taParamTypes : Word
  /-- The static session of `invoke_socket_pta` is not `TEE_HANDLE_NULL`. -/
  socketSession : Bool
  /-- Live `struct socket_ctx` on the heap. -/
  contexts : Nat
  /-- Sockets the normal world keeps open for the instance. -/
  sockets : Nat
  /-- Live buffers of `BITSTREAM_SIZE` bytes. -/
  buffers : Nat
  /-- Sessions opened with the FPGA manager. -/
  ptaSessions : Nat
  /-- The write commands sent, by this instance and those before it: parameter types and size. -/
  writes : List (Word × Word)
  /-- A write command was sent without a session. -/
  sessionless : Bool
  deriving DecidableEq

/-- A new instance. -/
def TaInstance.created (writes : List (Word × Word)) (sessionless : Bool) : TaInstance where
  ptaSession := false
  taParamTypes := 0
  socketSession := false
  contexts := 0
  sockets := 0
  buffers := 0
  ptaSessions := 0
  writes := writes
  sessionless := sessionless

/-- The answers to one `DOWNLOAD` command. -/
structure DownloadEnv where
  /-- `TEE_Malloc` of the buffer. -/
  malloc : Bool
  /-- `TEE_Malloc` of the socket context. -/
  ctxMalloc : Bool
  /-- `TEE_OpenTASession` to the socket service. -/
  socketSession : TeeResult
  /-- `PTA_SOCKET_OPEN`. -/
  connect : Answer
  /-- `PTA_SOCKET_RECV`, and the length it leaves behind. -/
  recv : Nat → Answer × Word
  /-- `PTA_SOCKET_CLOSE`. -/
  close : Answer
  /-- `PTA_ZYNQMP_FPGA_MGR_CMD_WRITE`. -/
  write : Answer

def teeIsocketErrorProtocol : TeeResult := 0xF1007001#32

def teeIsocketWarningProtocol : TeeResult := 0xF1007006#32

def teeIsocketErrorHostname : TeeResult := 0xF1007007#32

def teeIsocketTcpWarningUnknownOutOfBand : TeeResult := 0xF1010002#32

/-- The code `tcp_open` returns for the code of the socket service. -/
def tcpOpenCode (res : TeeResult) : TeeResult :=
  if res = teeIsocketErrorHostname then teeIsocketErrorProtocol
  else if res = teeIsocketTcpWarningUnknownOutOfBand then teeIsocketWarningProtocol
  else res

theorem tcpOpenCode_success (res : TeeResult) :
    tcpOpenCode res = teeSuccess ↔ res = teeSuccess := by
  unfold tcpOpenCode
  split_ifs with hostname outOfBand
  · subst hostname
    decide
  · subst outOfBand
    decide
  · rfl

/-- How a call of the application ends. -/
inductive Outcome (α : Type)
  | running
  | panicked
  | returned (value : α)
  deriving DecidableEq

def Outcome.value {α : Type} : Outcome α → Option α
  | .returned value => some value
  | _ => none

namespace TaInstance

/-- `invoke_socket_pta`: the session is opened by the first call that succeeds in it. -/
def invokeSocketPta (s : TaInstance) (openRes : TeeResult) (answer : Answer) :
    TaInstance × Option TeeResult :=
  if s.socketSession then (s, teeInvokeTaCommand answer)
  else if openRes ≠ teeSuccess then (s, some openRes)
  else ({ s with socketSession := true }, teeInvokeTaCommand answer)

/-- `tcp_open`. -/
def tcpOpen (s : TaInstance) (env : DownloadEnv) : TaInstance × Option TeeResult :=
  if !env.ctxMalloc then (s, some teeErrorOutOfMemory)
  else
    let allocated := { s with contexts := s.contexts + 1 }
    match allocated.invokeSocketPta env.socketSession env.connect with
    | (s, none) => (s, none)
    | (s, some res) =>
      if res ≠ teeSuccess then ({ s with contexts := s.contexts - 1 }, some (tcpOpenCode res))
      else ({ s with sockets := s.sockets + 1 }, some (tcpOpenCode res))

/-- `sock_close`: the context is freed whatever the normal world says. -/
def sockClose (s : TaInstance) (env : DownloadEnv) : TaInstance × Option TeeResult :=
  match s.invokeSocketPta env.socketSession env.close with
  | (s, none) => (s, none)
  | (s, some res) =>
    ({ s with
        contexts := s.contexts - 1
        sockets := if res = teeSuccess then s.sockets - 1 else s.sockets }, some res)

end TaInstance

/-- The command as the model without resources sees it. -/
def DownloadEnv.net (env : DownloadEnv) (openRes : TeeResult) : NetEnv where
  malloc := env.malloc
  openRes := openRes
  recv k := ⟨(env.recv k).1.res, (env.recv k).2⟩
  writeRes := env.write.res

/-- One round of the loop in `socket_client`; a `recv` that panics ends it with nothing. -/
def DownloadEnv.recvRound (env : DownloadEnv) (r : Receiver) :
    Round Receiver (Option (Receiver × TeeResult)) :=
  match teeInvokeTaCommand (env.recv r.call).1 with
  | none => .leave none
  | some _ =>
    match Downloader.recvRound (env.net teeSuccess) r with
    | .again r => .again r
    | .leave ended => .leave (some ended)

namespace TaInstance

/-- `socket_client`. -/
def socketClient (s : TaInstance) (env : DownloadEnv) (rounds : Nat) :
    TaInstance × Outcome (TeeResult × Word) :=
  match s.tcpOpen env with
  | (s, none) => (s, .panicked)
  | (s, some res) =>
    if res ≠ teeSuccess then (s, .returned (teeErrorBadParameters, bitstreamSize))
    else
      match Lib.Loop.rounds env.recvRound rounds Receiver.start with
      | .again _ => (s, .running)
      | .leave none => (s, .panicked)
      | .leave (some (r, res)) =>
        let dataSize := BitVec.ofNat 32 r.ptr
        if res ≠ teeSuccess then (s, .returned (res, dataSize))
        else
          match s.sockClose env with
          | (s, none) => (s, .panicked)
          | (s, some _) => (s, .returned (res, dataSize))

/-- `downlaod_bs`. The core answers a command without a session with an error of its own. -/
def downlaodBs (s : TaInstance) (paramTypes : Word) (env : DownloadEnv) (rounds : Nat) :
    TaInstance × Outcome TeeResult :=
  if paramTypes ≠
      teeParamTypes teeParamTypeValueOutput teeParamTypeNone teeParamTypeNone teeParamTypeNone then
    (s, .returned teeErrorBadParameters)
  else if !env.malloc then (s, .returned teeErrorGeneric)
  else
    let allocated := { s with buffers := s.buffers + 1 }
    match allocated.socketClient env rounds with
    | (s, .running) => (s, .running)
    | (s, .panicked) => (s, .panicked)
    | (s, .returned (_, bsLen)) =>
      let sent := { s with writes := s.writes ++ [(s.taParamTypes, bsLen)] }
      if !s.ptaSession then ({ sent with sessionless := true }, .panicked)
      else
        match teeInvokeTaCommand env.write with
        | none => (sent, .panicked)
        | some res => ({ sent with buffers := s.buffers - 1 }, .returned res)

/-- `TA_InvokeCommandEntryPoint`. -/
def taInvokeCommandEntryPoint (s : TaInstance) (cmdId paramTypes : Word) (env : DownloadEnv)
    (rounds : Nat) : TaInstance × Outcome TeeResult :=
  if cmdId = taBsDownloaderCmdDownload then s.downlaodBs paramTypes env rounds
  else (s, .returned teeErrorBadParameters)

/-- `TA_OpenSessionEntryPoint`; `ptaOpen` is what `TEE_OpenTASession` returns, if it is called. -/
def taOpenSessionEntryPoint (s : TaInstance) (paramTypes : Word) (ptaOpen : TeeResult) :
    TaInstance × TeeResult :=
  if paramTypes ≠
      teeParamTypes teeParamTypeNone teeParamTypeNone teeParamTypeNone teeParamTypeNone then
    (s, teeErrorBadParameters)
  else
    let types :=
      teeParamTypes teeParamTypeMemrefInout teeParamTypeNone teeParamTypeNone teeParamTypeNone
    if !s.ptaSession then
      if ptaOpen ≠ teeSuccess then (s, ptaOpen)
      else
        ({ s with ptaSession := true, ptaSessions := s.ptaSessions + 1, taParamTypes := types },
          teeSuccess)
    else ({ s with taParamTypes := types }, teeSuccess)

end TaInstance

/-! ### Clients -/

/-- The instance and its one session; `stuck` if a command has not returned. -/
structure Service where
  ta : TaInstance
  /-- `ref_count` of the context. -/
  refCount : Nat
  stuck : Bool
  deriving DecidableEq

def Service.init : Service where
  ta := TaInstance.created [] false
  refCount := 0
  stuck := false

/-- What a client asks for, on the session of the instance. A call on a session whose instance is
gone is answered with `TEE_ERROR_TARGET_DEAD` and left out. -/
inductive ClientCall
  | openSession (paramTypes : Word) (ptaOpen : TeeResult)
  | invokeCommand (cmdId paramTypes : Word) (env : DownloadEnv) (rounds : Nat)
  | closeSession

/-- What a command leaves. `tee_ta_invoke_command` destroys the context of an application that
panicked, and the next open loads a new one. -/
def Service.invoked (s : Service) : TaInstance × Outcome TeeResult → Service
  | (ta, .running) => { s with ta := ta, stuck := true }
  | (ta, .panicked) => ⟨TaInstance.created ta.writes ta.sessionless, 0, false⟩
  | (ta, .returned _) => { s with ta := ta }

/-- One call. Without `TA_FLAG_MULTI_SESSION` a second session is refused with `TEE_ERROR_BUSY`,
a command needs a session, and an open that the application refuses is closed again. -/
def Service.step (s : Service) (call : ClientCall) : Service :=
  if s.stuck then s
  else
    match call with
    | .openSession paramTypes ptaOpen =>
      if s.refCount ≠ 0 then s
      else
        let opened := s.ta.taOpenSessionEntryPoint paramTypes ptaOpen
        { s with ta := opened.1, refCount := if opened.2 = teeSuccess then 1 else 0 }
    | .invokeCommand cmdId paramTypes env rounds =>
      if s.refCount = 0 then s
      else s.invoked (s.ta.taInvokeCommandEntryPoint cmdId paramTypes env rounds)
    | .closeSession => { s with refCount := s.refCount - 1 }

def Service.after (calls : List ClientCall) : Service := run Service.step Service.init calls

/-- The call panics the application. -/
def Service.panics (s : Service) : ClientCall → Bool
  | .invokeCommand cmdId paramTypes env rounds =>
    !s.stuck && s.refCount ≠ 0 &&
      decide ((s.ta.taInvokeCommandEntryPoint cmdId paramTypes env rounds).2 = .panicked)
  | _ => false

/-! ### What the socket functions leave behind -/

section Loop

variable {env : DownloadEnv}

/-- A round that does not panic is one of the loop without resources. -/
theorem recvRound_eq (env : DownloadEnv) (r : Receiver) :
    env.recvRound r = .leave none ∨
      env.recvRound r = match recvRound (env.net teeSuccess) r with
        | .again r => .again r
        | .leave ended => .leave (some ended) := by
  unfold DownloadEnv.recvRound
  cases teeInvokeTaCommand (env.recv r.call).1 with
  | none => exact Or.inl rfl
  | some res => exact Or.inr rfl

/-- Nor is a loop. -/
theorem recvRounds_eq (env : DownloadEnv) (n : Nat) (r : Receiver) :
    rounds env.recvRound n r = .leave none ∨
      rounds env.recvRound n r = match rounds (recvRound (env.net teeSuccess)) n r with
        | .again r => .again r
        | .leave ended => .leave (some ended) := by
  induction n generalizing r with
  | zero => exact Or.inr rfl
  | succ n ih =>
    rcases recvRound_eq env r with panicked | same
    · left
      rw [rounds, panicked]
    · cases round : recvRound (env.net teeSuccess) r with
      | again next =>
        rw [round] at same
        rw [rounds, same, rounds, round]
        exact ih next
      | leave ended =>
        rw [round] at same
        right
        rw [rounds, same, rounds, round]

end Loop

namespace TaInstance

variable (s : TaInstance) (env : DownloadEnv)

/-- The instance with a socket opened. -/
def connected : TaInstance :=
  { s with socketSession := true, contexts := s.contexts + 1, sockets := s.sockets + 1 }

/-- The instance after a download whose socket was closed again. -/
def disconnected (res : TeeResult) : TaInstance :=
  { s with
    socketSession := true
    sockets := if res = teeSuccess then s.sockets else s.sockets + 1 }

/-- The code of an open depends on the session alone. -/
theorem tcpOpen_code (other : TaInstance) (same : other.socketSession = s.socketSession) :
    (other.tcpOpen env).2 = (s.tcpOpen env).2 := by
  have code (s : TaInstance) : (s.tcpOpen env).2 =
      if !env.ctxMalloc then some teeErrorOutOfMemory
      else (if s.socketSession then teeInvokeTaCommand env.connect
        else if env.socketSession ≠ teeSuccess then some env.socketSession
        else teeInvokeTaCommand env.connect).map tcpOpenCode := by
    unfold tcpOpen invokeSocketPta
    cases env.ctxMalloc <;> cases s.socketSession <;>
      cases teeInvokeTaCommand env.connect <;>
        by_cases session : env.socketSession = teeSuccess <;> simp [session, apply_ite]
  rw [code, code, same]

/-- An open panics, or connects, or leaves nothing behind but, it may be, the session. -/
theorem tcpOpen_cases :
    (s.tcpOpen env).2 = none ∨ s.tcpOpen env = (s.connected, some teeSuccess) ∨
      ∃ session code, code ≠ teeSuccess ∧
        s.tcpOpen env = ({ s with socketSession := session }, some code) := by
  unfold tcpOpen
  cases env.ctxMalloc with
  | false =>
    exact Or.inr (Or.inr ⟨s.socketSession, teeErrorOutOfMemory, by decide, rfl⟩)
  | true =>
    have invoked : ∃ session res,
        ({ s with contexts := s.contexts + 1 } : TaInstance).invokeSocketPta env.socketSession
            env.connect = ({ s with contexts := s.contexts + 1, socketSession := session }, res) ∧
          (res = some teeSuccess → session = true) := by
      unfold invokeSocketPta
      split_ifs with present refused
      · exact ⟨s.socketSession, teeInvokeTaCommand env.connect, rfl, fun _ => present⟩
      · exact ⟨s.socketSession, some env.socketSession, rfl,
          fun success => absurd (Option.some.inj success) refused⟩
      · exact ⟨true, teeInvokeTaCommand env.connect, rfl, fun _ => rfl⟩
    obtain ⟨session, res, result, present⟩ := invoked
    rw [Bool.not_true, if_neg Bool.false_ne_true]
    dsimp only
    rw [result]
    cases res with
    | none => exact Or.inl rfl
    | some res =>
      right
      by_cases success : res = teeSuccess
      · left
        subst success
        simp [connected, present rfl, tcpOpenCode, teeIsocketErrorHostname,
          teeIsocketTcpWarningUnknownOutOfBand, teeSuccess]
      · right
        refine ⟨session, tcpOpenCode res, fun zero => success ((tcpOpenCode_success res).mp zero),
          ?_⟩
        simp [success]

theorem sockClose_cases :
    (s.connected.sockClose env).2 = none ∨
      ∃ res, s.connected.sockClose env = (s.disconnected res, some res) := by
  unfold sockClose invokeSocketPta
  rw [if_pos (show s.connected.socketSession = true from rfl)]
  cases teeInvokeTaCommand env.close with
  | none => exact Or.inl rfl
  | some res =>
    right
    exact ⟨res, by simp [connected, disconnected]⟩

/-- The socket functions change what the instance has of the sockets, and nothing else. -/
def Beside (after : TaInstance) : Prop :=
  ∃ session contexts sockets, after =
    { s with socketSession := session, contexts := contexts, sockets := sockets }

theorem invokeSocketPta_beside (openRes : TeeResult) (answer : Answer) :
    s.Beside (s.invokeSocketPta openRes answer).1 := by
  unfold invokeSocketPta
  split_ifs <;> exact ⟨_, _, _, rfl⟩

theorem tcpOpen_beside : s.Beside (s.tcpOpen env).1 := by
  unfold tcpOpen
  split
  · exact ⟨_, _, _, rfl⟩
  · have invoked := ({ s with contexts := s.contexts + 1 } : TaInstance).invokeSocketPta_beside
      env.socketSession env.connect
    dsimp only
    generalize ({ s with contexts := s.contexts + 1 } : TaInstance).invokeSocketPta
      env.socketSession env.connect = out at invoked ⊢
    obtain ⟨s', res⟩ := out
    obtain ⟨session, contexts, sockets, same⟩ := invoked
    obtain rfl : s' = _ := same
    cases res with
    | none => exact ⟨_, _, _, rfl⟩
    | some res =>
      dsimp only
      split <;> exact ⟨_, _, _, rfl⟩

theorem sockClose_beside : s.Beside (s.sockClose env).1 := by
  have invoked := s.invokeSocketPta_beside env.socketSession env.close
  unfold sockClose
  generalize s.invokeSocketPta env.socketSession env.close = out at invoked ⊢
  obtain ⟨s', res⟩ := out
  obtain ⟨session, contexts, sockets, same⟩ := invoked
  obtain rfl : s' = _ := same
  cases res <;> exact ⟨_, _, _, rfl⟩

theorem socketClient_beside (rounds : Nat) : s.Beside (s.socketClient env rounds).1 := by
  have opened := s.tcpOpen_beside env
  unfold socketClient
  generalize s.tcpOpen env = out at opened
  obtain ⟨s', res⟩ := out
  cases res with
  | none => exact opened
  | some res =>
    dsimp only
    split_ifs
    · exact opened
    · split
      · exact opened
      · exact opened
      · split_ifs
        · exact opened
        · have closed := s'.sockClose_beside env
          generalize s'.sockClose env = out at closed ⊢
          obtain ⟨s'', res⟩ := out
          obtain ⟨_, _, _, same⟩ := opened
          obtain rfl : s' = _ := same
          obtain ⟨_, _, _, same⟩ := closed
          obtain rfl : s'' = _ := same
          cases res <;> exact ⟨_, _, _, rfl⟩

/-- **The ways `socket_client` can end.** -/
theorem socketClient_cases (rounds : Nat) :
    (s.socketClient env rounds).2 = .panicked ∨
    ((s.tcpOpen env).2 ≠ some teeSuccess ∧ ∃ session, s.socketClient env rounds =
      ({ s with socketSession := session }, .returned (teeErrorBadParameters, bitstreamSize))) ∨
    ((s.tcpOpen env).2 = some teeSuccess ∧
      (s.socketClient env rounds = (s.connected, .running) ∨
      (∃ code size, code ≠ teeSuccess ∧
        s.socketClient env rounds = (s.connected, .returned (code, size))) ∨
      ∃ res size,
        s.socketClient env rounds = (s.disconnected res, .returned (teeSuccess, size)))) := by
  unfold socketClient
  rcases s.tcpOpen_cases env with panicked | opened | ⟨session, code, failure, opened⟩
  · left
    generalize s.tcpOpen env = out at panicked
    obtain ⟨s', res⟩ := out
    obtain rfl : res = none := panicked
    rfl
  · rw [opened]
    simp only [ne_eq, not_true_eq_false, if_false]
    generalize Lib.Loop.rounds env.recvRound rounds Receiver.start = loop
    rcases loop with r | _ | ⟨r, res⟩
    · exact Or.inr (Or.inr ⟨trivial, Or.inl rfl⟩)
    · exact Or.inl rfl
    · by_cases last : res = teeSuccess
      · subst last
        rcases s.sockClose_cases env with panicked | ⟨closed, result⟩
        · left
          generalize s.connected.sockClose env = out at panicked
          obtain ⟨s', res⟩ := out
          obtain rfl : res = none := panicked
          rfl
        · right; right
          refine ⟨trivial, Or.inr (Or.inr ⟨closed, BitVec.ofNat 32 r.ptr, ?_⟩)⟩
          simp [result]
      · right; right
        exact ⟨trivial, Or.inr (Or.inl ⟨res, BitVec.ofNat 32 r.ptr, last, by simp [last]⟩)⟩
  · right; left
    rw [opened]
    exact ⟨fun success => failure (Option.some.inj success), session, by simp [failure]⟩

/-- Unless it panics, the codes and sizes are those of the model without resources. -/
theorem socketClient_result {code : TeeResult} (opened : (s.tcpOpen env).2 = some code)
    (rounds : Nat) :
    (s.socketClient env rounds).2 = .panicked ∨ (s.socketClient env rounds).2.value =
      (Downloader.socketClient (env.net code) rounds).2 := by
  unfold socketClient Downloader.socketClient
  generalize s.tcpOpen env = out at opened
  obtain ⟨s', res⟩ := out
  obtain rfl : res = some code := opened
  by_cases success : code = teeSuccess
  · subst success
    have connected : (env.net teeSuccess).openRes = teeSuccess := rfl
    simp only [connected, ne_eq, not_true_eq_false, if_false]
    rcases recvRounds_eq env rounds Receiver.start with panicked | same
    · left
      rw [panicked]
    · rw [same]
      generalize Lib.Loop.rounds (recvRound (env.net teeSuccess)) rounds Receiver.start = loop
      rcases loop with r | ⟨r, res⟩
      · exact Or.inr rfl
      · by_cases last : res = teeSuccess
        · subst last
          generalize s'.sockClose env = closed
          obtain ⟨s'', res⟩ := closed
          cases res with
          | none => exact Or.inl rfl
          | some res => exact Or.inr rfl
        · right
          simp [last, Outcome.value]
  · right
    simp [success, DownloadEnv.net, Outcome.value]

end TaInstance

/-! ### One command -/

/-- The command connects, and then has not received a last chunk in good order. -/
def TaInstance.strands (s : TaInstance) (cmdId paramTypes : Word) (env : DownloadEnv)
    (rounds : Nat) : Bool :=
  cmdId = taBsDownloaderCmdDownload && paramTypes = downloadParamTypes && env.malloc &&
    (s.tcpOpen env).2 = some teeSuccess &&
    match (Downloader.socketClient (env.net teeSuccess) rounds).2 with
    | none => true
    | some (code, _) => code ≠ teeSuccess

/-- What a command leaves behind that did not panic. -/
structure TaInstance.Kept (s : TaInstance) (strands : Bool) (after : TaInstance)
    (running : Bool) : Prop where
  ptaSession : after.ptaSession = s.ptaSession
  taParamTypes : after.taParamTypes = s.taParamTypes
  ptaSessions : after.ptaSessions = s.ptaSessions
  contexts : after.contexts = s.contexts + strands.toNat
  sockets : s.sockets + strands.toNat ≤ after.sockets
  buffers : after.buffers = s.buffers + running.toNat

/-- What a command of an instance with a session does. -/
structure TaInstance.Invoked (s : TaInstance) (strands : Bool)
    (out : TaInstance × Outcome TeeResult) : Prop where
  sessionless : out.1.sessionless = s.sessionless
  writes : ∃ sent, out.1.writes = s.writes ++ sent ∧ ∀ w ∈ sent, w.1 = s.taParamTypes
  kept : out.2 ≠ .panicked → s.Kept strands out.1 (decide (out.2 = .running))

theorem TaInstance.invoked_refused (s : TaInstance) (res : TeeResult) :
    s.Invoked false (s, .returned res) :=
  ⟨rfl, ⟨[], by simp, by simp⟩, fun _ => ⟨rfl, rfl, rfl, rfl, le_rfl, rfl⟩⟩

/-- What `downlaod_bs` does with what `socket_client` returns, with a session. -/
def TaInstance.programmed (env : DownloadEnv) :
    TaInstance × Outcome (TeeResult × Word) → TaInstance × Outcome TeeResult
  | (s, .running) => (s, .running)
  | (s, .panicked) => (s, .panicked)
  | (s, .returned (_, bsLen)) =>
    let sent := { s with writes := s.writes ++ [(s.taParamTypes, bsLen)] }
    match teeInvokeTaCommand env.write with
    | none => (sent, .panicked)
    | some res => ({ sent with buffers := s.buffers - 1 }, .returned res)

theorem TaInstance.downlaodBs_eq (s : TaInstance) (session : s.ptaSession = true)
    (env : DownloadEnv) (malloc : env.malloc = true) (rounds : Nat) :
    s.downlaodBs downloadParamTypes env rounds = programmed env
      (({ s with buffers := s.buffers + 1 } : TaInstance).socketClient env rounds) := by
  have types : downloadParamTypes = teeParamTypes teeParamTypeValueOutput teeParamTypeNone
    teeParamTypeNone teeParamTypeNone := rfl
  obtain ⟨_, _, _, same⟩ :=
    ({ s with buffers := s.buffers + 1 } : TaInstance).socketClient_beside env rounds
  unfold downlaodBs
  rw [if_neg (not_not.mpr types), malloc, Bool.not_true, if_neg Bool.false_ne_true]
  dsimp only
  generalize ({ s with buffers := s.buffers + 1 } : TaInstance).socketClient env rounds = out
    at same
  obtain ⟨s', outcome⟩ := out
  obtain rfl := same
  cases outcome with
  | running => rfl
  | panicked => rfl
  | returned value =>
    dsimp only [programmed]
    rw [session, Bool.not_true, if_neg Bool.false_ne_true]

/-- What `downlaod_bs` does after `socket_client` has returned. -/
theorem TaInstance.invoked_returned {s s' : TaInstance} {strands : Bool} {env : DownloadEnv}
    {value : TeeResult × Word} (types : s'.taParamTypes = s.taParamTypes)
    (writes : s'.writes = s.writes) (sessionless : s'.sessionless = s.sessionless)
    (kept : s.Kept strands { s' with buffers := s'.buffers - 1 } false) :
    s.Invoked strands (programmed env (s', .returned value)) := by
  unfold programmed
  dsimp only
  have sent : ∃ sent, s'.writes ++ [(s'.taParamTypes, value.2)] = s.writes ++ sent ∧
      ∀ w ∈ sent, w.1 = s.taParamTypes :=
    ⟨[(s'.taParamTypes, value.2)], by rw [writes], by simp [types]⟩
  cases teeInvokeTaCommand env.write with
  | none => exact ⟨sessionless, sent, fun alive => absurd rfl alive⟩
  | some res =>
    exact ⟨sessionless, sent, fun _ =>
      ⟨kept.ptaSession, kept.taParamTypes, kept.ptaSessions, kept.contexts, kept.sockets,
        kept.buffers⟩⟩

/-- `downlaod_bs` once it has its buffer. -/
theorem TaInstance.downloaded (s : TaInstance) (session : s.ptaSession = true)
    (env : DownloadEnv) (malloc : env.malloc = true) (rounds : Nat) :
    s.Invoked (s.strands taBsDownloaderCmdDownload downloadParamTypes env rounds)
      (s.downlaodBs downloadParamTypes env rounds) := by
  rw [s.downlaodBs_eq session env malloc rounds]
  set allocated : TaInstance := { s with buffers := s.buffers + 1 } with isAllocated
  have same : (allocated.tcpOpen env).2 = (s.tcpOpen env).2 := tcpOpen_code s env allocated rfl
  have beside := allocated.socketClient_beside env rounds
  rcases allocated.socketClient_cases env rounds with panicked | ⟨failed, _, ended⟩ | ⟨opened, ends⟩
  · generalize allocated.socketClient env rounds = out at panicked beside
    obtain ⟨s', outcome⟩ := out
    obtain rfl : outcome = .panicked := panicked
    obtain ⟨_, _, _, rfl⟩ := beside
    exact ⟨rfl, ⟨[], by simp [programmed, isAllocated], by simp⟩, fun alive => absurd rfl alive⟩
  · have idle : s.strands taBsDownloaderCmdDownload downloadParamTypes env rounds = false := by
      simp [strands, ← same, failed]
    rw [ended, idle]
    exact invoked_returned rfl rfl rfl ⟨rfl, rfl, rfl, rfl, le_rfl, rfl⟩
  · have result := allocated.socketClient_result env opened rounds
    have strands : s.strands taBsDownloaderCmdDownload downloadParamTypes env rounds =
        match (Downloader.socketClient (env.net teeSuccess) rounds).2 with
        | none => true
        | some (code, _) => decide (code ≠ teeSuccess) := by
      simp [TaInstance.strands, malloc, ← same, opened]
    rw [strands]
    rcases ends with ended | ⟨code, size, failed, ended⟩ | ⟨res, size, ended⟩
    · rw [ended] at result ⊢
      rw [← result.resolve_left (by simp)]
      exact ⟨rfl, ⟨[], by simp [programmed, connected, isAllocated], by simp⟩,
        fun _ => ⟨rfl, rfl, rfl, rfl, le_rfl, rfl⟩⟩
    · rw [ended] at result ⊢
      rw [← result.resolve_left (by simp)]
      simp only [Outcome.value, ne_eq, failed, not_false_eq_true, decide_true]
      exact invoked_returned rfl rfl rfl ⟨rfl, rfl, rfl, rfl, le_rfl, rfl⟩
    · rw [ended] at result ⊢
      rw [← result.resolve_left (by simp)]
      simp only [Outcome.value, ne_eq, not_true_eq_false, decide_false]
      refine invoked_returned rfl rfl rfl ⟨rfl, rfl, rfl, rfl, ?_, rfl⟩
      change s.sockets ≤ if res = teeSuccess then s.sockets else s.sockets + 1
      split <;> omega

/-- **One command**: a context is left behind exactly by a download that is stranded. -/
theorem TaInstance.invoked (s : TaInstance) (session : s.ptaSession = true)
    (cmdId paramTypes : Word) (env : DownloadEnv) (rounds : Nat) :
    s.Invoked (s.strands cmdId paramTypes env rounds)
      (s.taInvokeCommandEntryPoint cmdId paramTypes env rounds) := by
  by_cases runs : cmdId = taBsDownloaderCmdDownload ∧ paramTypes = downloadParamTypes ∧
      env.malloc = true
  · obtain ⟨rfl, rfl, malloc⟩ := runs
    rw [taInvokeCommandEntryPoint, if_pos rfl]
    exact s.downloaded session env malloc rounds
  · -- the command is refused before it has done anything
    have idle : s.strands cmdId paramTypes env rounds = false := by
      rw [← Bool.not_eq_true]
      intro stranded
      simp only [strands, Bool.and_eq_true, decide_eq_true_iff] at stranded
      exact runs ⟨stranded.1.1.1.1, stranded.1.1.1.2, stranded.1.1.2⟩
    have refused : ∃ code,
        s.taInvokeCommandEntryPoint cmdId paramTypes env rounds = (s, .returned code) := by
      unfold taInvokeCommandEntryPoint downlaodBs
      split_ifs with cmd types malloc
      · exact ⟨_, rfl⟩
      · exact ⟨_, rfl⟩
      · exact absurd ⟨cmd, not_not.mp types, by simpa using malloc⟩ runs
      · exact ⟨_, rfl⟩
    obtain ⟨code, refused⟩ := refused
    rw [idle, refused]
    exact s.invoked_refused code

/-! ### Whole runs -/

/-- The parameter types that `pta_zynqmp_fpga_write` accepts. -/
def writeParamTypes : Word :=
  teeParamTypes teeParamTypeMemrefInout teeParamTypeNone teeParamTypeNone teeParamTypeNone

/-- The state of the service between calls. -/
structure Service.Sound (s : Service) : Prop where
  inSession : s.ta.sessionless = false
  session : s.refCount ≠ 0 → s.ta.ptaSession = true
  types : s.ta.ptaSession = true → s.ta.taParamTypes = writeParamTypes
  sessions : s.ta.ptaSessions = s.ta.ptaSession.toNat
  buffers : s.ta.buffers = s.stuck.toNat
  sockets : s.ta.contexts ≤ s.ta.sockets
  writes : ∀ w ∈ s.ta.writes, w.1 = writeParamTypes

/-- A call that leaves a socket context behind. -/
def Service.strands (s : Service) : ClientCall → Bool
  | .invokeCommand cmdId paramTypes env rounds =>
    !s.stuck && s.refCount ≠ 0 && s.ta.strands cmdId paramTypes env rounds
  | _ => false

/-- The ways an open can end. -/
theorem TaInstance.taOpenSession_cases (s : TaInstance) (paramTypes : Word) (ptaOpen : TeeResult) :
    (∃ code, code ≠ teeSuccess ∧ s.taOpenSessionEntryPoint paramTypes ptaOpen = (s, code)) ∨
    (s.ptaSession = false ∧ s.taOpenSessionEntryPoint paramTypes ptaOpen =
      ({ s with ptaSession := true, ptaSessions := s.ptaSessions + 1,
                taParamTypes := writeParamTypes }, teeSuccess)) ∨
    (s.ptaSession = true ∧ s.taOpenSessionEntryPoint paramTypes ptaOpen =
      ({ s with taParamTypes := writeParamTypes }, teeSuccess)) := by
  unfold taOpenSessionEntryPoint
  split_ifs with types absent refused
  · exact Or.inl ⟨_, by decide, rfl⟩
  · exact Or.inl ⟨ptaOpen, refused, rfl⟩
  · exact Or.inr (Or.inl ⟨by simpa using absent, rfl⟩)
  · exact Or.inr (Or.inr ⟨by simpa using absent, rfl⟩)

section Step

variable {s : Service}

theorem Service.Sound.openSession (sound : s.Sound) (live : s.stuck = false) (paramTypes : Word)
    (ptaOpen : TeeResult) :
    (s.step (.openSession paramTypes ptaOpen)).Sound ∧
      (s.step (.openSession paramTypes ptaOpen)).ta.contexts = s.ta.contexts := by
  obtain ⟨inSession, session, types, sessions, buffers, sockets, writes⟩ := sound
  rw [Service.step, live]
  simp only [Bool.false_eq_true, if_false]
  split
  · exact ⟨⟨inSession, session, types, sessions, buffers, sockets, writes⟩, rfl⟩
  · rcases s.ta.taOpenSession_cases paramTypes ptaOpen with
      ⟨code, failed, opened⟩ | ⟨absent, opened⟩ | ⟨present, opened⟩
    · rw [opened]
      exact ⟨⟨inSession, by simp [failed], types, sessions, live ▸ buffers, sockets, writes⟩, rfl⟩
    · rw [opened]
      refine ⟨⟨inSession, fun _ => rfl, fun _ => rfl, ?_, live ▸ buffers, sockets, writes⟩, rfl⟩
      simp [sessions, absent]
    · rw [opened]
      exact ⟨⟨inSession, fun _ => present, fun _ => rfl, sessions, live ▸ buffers, sockets,
        writes⟩, rfl⟩

/-- What a command leaves of a sound service, whether it panics or not. -/
theorem Service.Sound.invoked (sound : s.Sound) (live : s.stuck = false)
    (inUse : s.refCount ≠ 0) {strands : Bool} {out : TaInstance × Outcome TeeResult}
    (invoked : s.ta.Invoked strands out) :
    (s.invoked out).Sound ∧
      (out.2 ≠ .panicked → (s.invoked out).ta.contexts = s.ta.contexts + strands.toNat) := by
  obtain ⟨ta, outcome⟩ := out
  have session := sound.session inUse
  have inSession : ta.sessionless = false := invoked.sessionless.trans sound.inSession
  have writes : ∀ w ∈ ta.writes, w.1 = writeParamTypes := by
    obtain ⟨sent, extended, typed⟩ := invoked.writes
    intro w member
    have member : w ∈ s.ta.writes ++ sent := extended ▸ member
    rcases List.mem_append.mp member with earlier | new
    · exact sound.writes w earlier
    · exact (typed w new).trans (sound.types session)
  by_cases panicked : outcome = .panicked
  · subst panicked
    exact ⟨⟨inSession, fun inUse => absurd rfl inUse, nofun, rfl, rfl, le_rfl, writes⟩,
      fun alive => absurd rfl alive⟩
  · have kept := invoked.kept panicked
    have sockets : ta.contexts ≤ ta.sockets := by
      have grown : s.ta.sockets + strands.toNat ≤ ta.sockets := kept.sockets
      have before := sound.sockets
      have counted : ta.contexts = s.ta.contexts + strands.toNat := kept.contexts
      omega
    have held : ta.buffers = s.ta.buffers + _ := kept.buffers
    rw [sound.buffers, live] at held
    have sessions : ta.ptaSessions = ta.ptaSession.toNat := by
      rw [show ta.ptaSessions = s.ta.ptaSessions from kept.ptaSessions,
        show ta.ptaSession = s.ta.ptaSession from kept.ptaSession]
      exact sound.sessions
    have types : ta.ptaSession = true → ta.taParamTypes = writeParamTypes :=
      fun _ => kept.taParamTypes.trans (sound.types session)
    have still : ta.ptaSession = true := kept.ptaSession.trans session
    cases outcome with
    | panicked => exact absurd rfl panicked
    | running =>
      exact ⟨⟨inSession, fun _ => still, types, sessions, held, sockets, writes⟩,
        fun _ => kept.contexts⟩
    | returned value =>
      have freed : ta.buffers = s.stuck.toNat := live ▸ held
      exact ⟨⟨inSession, fun _ => still, types, sessions, freed, sockets, writes⟩,
        fun _ => kept.contexts⟩

/-- **Every call keeps the service sound, and strands at most its own socket.** -/
theorem Service.Sound.step (sound : s.Sound) (call : ClientCall) :
    (s.step call).Sound ∧ (s.panics call = false →
      (s.step call).ta.contexts = s.ta.contexts + (s.strands call).toNat) := by
  cases live : s.stuck with
  | true =>
    have same : s.step call = s := by simp [Service.step, live]
    have idle : s.strands call = false := by cases call <;> simp [Service.strands, live]
    rw [same, idle]
    exact ⟨sound, fun _ => rfl⟩
  | false =>
    cases call with
    | openSession paramTypes ptaOpen =>
      obtain ⟨sound, contexts⟩ := sound.openSession live paramTypes ptaOpen
      exact ⟨sound, fun _ => contexts⟩
    | invokeCommand cmdId paramTypes env rounds =>
      rw [Service.strands, Service.panics, Service.step, live]
      simp only [Bool.false_eq_true, if_false]
      by_cases closed : s.refCount = 0
      · rw [if_pos closed]
        exact ⟨sound, fun _ => by simp [closed]⟩
      · rw [if_neg closed]
        obtain ⟨after, contexts⟩ := sound.invoked live closed
          (s.ta.invoked (sound.session closed) cmdId paramTypes env rounds)
        refine ⟨after, fun alive => ?_⟩
        rw [contexts (by simpa [closed] using alive)]
        simp [closed]
    | closeSession =>
      rw [Service.step, live]
      simp only [Bool.false_eq_true, if_false]
      refine ⟨⟨sound.inSession, fun still => sound.session fun zero => still ?_, sound.types,
        sound.sessions, live ▸ sound.buffers, sound.sockets, sound.writes⟩, fun _ => rfl⟩
      show s.refCount - 1 = 0
      rw [zero]

/-- A panic takes everything with it. -/
theorem Service.panicked {call : ClientCall} (panics : s.panics call = true) :
    (s.step call).ta.contexts = 0 ∧ (s.step call).ta.sockets = 0 := by
  cases call with
  | openSession => cases panics
  | closeSession => cases panics
  | invokeCommand cmdId paramTypes env rounds =>
    simp only [Service.panics, Bool.and_eq_true, Bool.not_eq_true', decide_eq_true_iff] at panics
    obtain ⟨⟨live, inUse⟩, panicked⟩ := panics
    rw [Service.step, live, if_neg Bool.false_ne_true, if_neg inUse]
    generalize s.ta.taInvokeCommandEntryPoint cmdId paramTypes env rounds = out at panicked
    obtain ⟨ta, outcome⟩ := out
    obtain rfl : outcome = .panicked := panicked
    exact ⟨rfl, rfl⟩

end Step

theorem Service.sound_init : Service.init.Sound := by
  constructor <;> simp [Service.init, TaInstance.created]

theorem Service.sound_after (calls : List ClientCall) : (Service.after calls).Sound :=
  run_invariant Service.Sound Service.sound_init (fun _ call sound => (sound.step call).1) calls

/-- What the application promises the FPGA manager. -/
structure DownloaderProtocol (s : Service) : Prop where
  /-- It never sends a command without a session. -/
  inSession : s.ta.sessionless = false
  /-- It opens one session at most, and has it while a client has one. -/
  once : s.ta.ptaSessions ≤ 1
  session : s.refCount ≠ 0 → s.ta.ptaSession = true ∧ s.ta.ptaSessions = 1
  /-- The manager's checks pass every write command that was sent, unless it was empty. -/
  offers : ∀ w ∈ s.ta.writes, ∀ img : Loader.Image, img.size = w.2.toNat →
    ((⟨w.1, some img⟩ : Loader.Params).Offers img ↔ w.2 ≠ 0#32)

/-- **The downloader keeps to the FPGA manager's interface**, whatever clients, network and heap
do, and whatever the core answers. -/
theorem downloader_protocol (calls : List ClientCall) :
    DownloaderProtocol (Service.after calls) := by
  have sound := Service.sound_after calls
  refine ⟨sound.inSession, ?_, fun inUse => ?_, fun w member img sent => ?_⟩
  · rw [sound.sessions]
    exact Bool.toNat_le _
  · have session := sound.session inUse
    exact ⟨session, by rw [sound.sessions, session]; rfl⟩
  · have nonempty : img.size ≠ 0 ↔ w.2 ≠ 0#32 := by
      rw [sent, ne_eq, ne_eq, BitVec.toNat_eq]
      rfl
    rw [← nonempty]
    exact ⟨fun offers => offers.2.2, fun size => ⟨sound.writes w member, rfl, size⟩⟩

/-- The connection breaks after one full chunk. -/
def brokenOff : DownloadEnv where
  malloc := true
  ctxMalloc := true
  socketSession := teeSuccess
  connect := .ok
  recv := fun
    | 0 => (.ok, revcBlock)
    | _ => (⟨teeErrorGeneric, .trustedApp, true⟩, 0#32)
  close := .ok
  write := .ok

/-- A client whose download breaks off. -/
def brokenClient : List ClientCall :=
  [.openSession 0 teeSuccess,
    .invokeCommand taBsDownloaderCmdDownload downloadParamTypes brokenOff 2, .closeSession]

-- two such clients: two contexts and two sockets are gone, until the application panics
example : (Service.after (brokenClient ++ brokenClient)).ta.contexts = 2 := by decide +kernel
example : (Service.after (brokenClient ++ brokenClient)).ta.sockets = 2 := by decide +kernel

end TrustzoneWatchdog.Downloader
