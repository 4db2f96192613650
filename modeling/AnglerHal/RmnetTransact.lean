import AnglerHal.RmnetReplies
import Mathlib.Data.Finset.Insert
import Mathlib.Data.Finset.Erase

namespace AnglerHal.Rmnetctl

/-!
# The buffers of a transaction

`rmnetctl_transact` allocates a buffer for the request and one for the response,
and frees both where it ends.  Most branches that fail free the buffers before
they break out of the block, and come to the frees at the end all the same.

The layout of the message is that of a kernel header, so what a datagram says
is a parameter.
-/

/-- The address of a block. -/
abbrev Block :=
  Nat

/-- What happens to a block. -/
inductive HeapOp where
  | malloc (block : Block)
  | access (block : Block)
  | free (block : Block)
  deriving DecidableEq

/-- The live blocks after an operation; `none` when it is on a block that is not live. -/
def HeapOp.apply (live : Finset Block) : HeapOp → Option (Finset Block)
  | .malloc block => some (insert block live)
  | .access block => if block ∈ live then some live else none
  | .free block => if block ∈ live then some (live.erase block) else none

/-- The live blocks after a list of operations. -/
def liveAfter (live : Finset Block) (ops : List HeapOp) : Option (Finset Block) :=
  ops.foldlM HeapOp.apply live

/-- `free` of a pointer that may be `NULL`. -/
def freePtr (pointer : Option Block) : List HeapOp :=
  pointer.toList.map .free

/-- Every block is freed once, and none is used or freed when it is not live. -/
structure FreesOnce (live : Finset Block) (ops : List HeapOp) : Prop where
  live : (liveAfter live ops).isSome
  once : ∀ block, .malloc block ∈ ops → ops.count (.free block) = 1

/-- What the sources take from the headers of the kernel. -/
structure Netlink where
  maxBufSize : Nat
  message : List UInt8 → Response

/-- The buffer of the request, as it is sent. -/
structure RequestBuf where
  nlmsgSeq : UInt32
  nlmsgPid : UInt32
  nlmsgLen : Nat
  crd : Crd
  message : Request
  deriving DecidableEq

/-- The pointers that are handed to a transaction. -/
structure TransactArgs where
  hndl : Option Hndl
  request : Option Request
  response : Bool
  deriving DecidableEq

/-- What the two allocations and the two system calls return; a datagram has any bytes. -/
structure TransactCalls where
  requestBuf : Option Block
  responseBuf : Option Block
  sendto : Bool
  recvfrom : Option (List UInt8)
  deriving DecidableEq

/-- What a transaction leaves behind. -/
structure Transacted where
  returnCode : Nat
  hndl : Option Hndl
  sent : Option RequestBuf
  response : Option Response
  heap : List HeapOp
  deriving DecidableEq

/-- `RMNETCTL_API_ERR_HNDL_INVALID`. -/
def hndlInvalid : Nat :=
  9

section Transaction

variable (nl : Netlink)

/-- The zeroed buffer of the response with a datagram in it, which `recvfrom` cuts at its end. -/
def Netlink.received (datagram : List UInt8) : Response :=
  nl.message ((datagram ++ List.replicate nl.maxBufSize 0).take nl.maxBufSize)

/-- The block of `rmnetctl_transact` from the first system call on, with both buffers. -/
def transactBuffers (calls : TransactCalls) (hndl : Hndl) (request : Request)
    (requestBuf responseBuf : Block) : Transacted :=
  let message : RequestBuf :=
    { nlmsgSeq := hndl.transactionId
      nlmsgPid := hndl.pid
      nlmsgLen := nl.maxBufSize
      crd := .command
      message := request }
  let hndl := { hndl with transactionId := hndl.transactionId + 1 }
  -- the buffers are cleared and the request is written, then read by `sendto`
  let written : List HeapOp := [.access requestBuf, .access responseBuf, .access requestBuf]
  let freed : List HeapOp := [.free requestBuf, .free responseBuf]
  if !calls.sendto then
    { returnCode := ApiError.messageSend.code
      hndl := some hndl
      sent := none
      response := none
      heap := written ++ freed }
  else
    match calls.recvfrom with
    | none =>
      { returnCode := ApiError.messageReceive.code
        hndl := some hndl
        sent := some message
        response := none
        heap := written ++ freed }
    | some datagram =>
      let response := nl.received datagram
      -- the size of the response is compared with itself here
      let read : List HeapOp := [.access responseBuf]
      if request.messageType ≠ response.messageType then
        { returnCode := ApiError.messageType.code
          hndl := some hndl
          sent := some message
          response := some response
          heap := written ++ read ++ freed }
      else
        { returnCode := 0
          hndl := some hndl
          sent := some message
          response := some response
          heap := written ++ read }

/-- A transaction that does not come to its system calls. -/
def TransactArgs.refuse (args : TransactArgs) (returnCode : Nat) (heap : List HeapOp) :
    Transacted where
  returnCode := returnCode
  hndl := args.hndl
  sent := none
  response := none
  heap := heap

/-- `rmnetctl_transact`. -/
def rmnetctlTransact (calls : TransactCalls) (args : TransactArgs) : Transacted :=
  match args.hndl, args.request with
  | none, _ => args.refuse hndlInvalid []
  | some _, none => args.refuse ApiError.requestNull.code []
  | some hndl, some request =>
    if !args.response then
      args.refuse ApiError.responseNull.code []
    else
      match calls.requestBuf with
      | none => args.refuse ApiError.requestNull.code []
      | some requestBuf =>
        match calls.responseBuf with
        | none =>
          -- freed here, and again at the end, where the pointer is unchanged
          args.refuse ApiError.responseNull.code
            ([.malloc requestBuf, .free requestBuf] ++ freePtr (some requestBuf) ++ freePtr none)
        | some responseBuf =>
          let result := transactBuffers nl calls hndl request requestBuf responseBuf
          { result with
            heap := [.malloc requestBuf, .malloc responseBuf] ++ result.heap ++
              freePtr (some requestBuf) ++ freePtr (some responseBuf) }

/-- `malloc` returns blocks that nobody has. -/
structure TransactCalls.Fresh (live : Finset Block) (calls : TransactCalls) : Prop where
  requestBuf : ∀ block, calls.requestBuf = some block → block ∉ live
  responseBuf : ∀ block, calls.responseBuf = some block →
    block ∉ live ∧ calls.requestBuf ≠ some block

/-- The reply of the kernel, when the transaction receives one, beside its request. -/
def exchange (calls : TransactCalls) (args : TransactArgs) : Option (Request × Response) := do
  let _ ← args.hndl
  let request ← args.request
  guard args.response
  let _ ← calls.requestBuf
  let _ ← calls.responseBuf
  guard calls.sendto
  let datagram ← calls.recvfrom
  return (request, nl.received datagram)

/-- The transaction receives a reply of the type of its request. -/
def Answered (calls : TransactCalls) (args : TransactArgs) : Prop :=
  ∃ request response, exchange nl calls args = some (request, response) ∧
    response.messageType = request.messageType

/-- The buffers are freed once, and success means a reply of the request's type. -/
structure TransactSound (live : Finset Block) (calls : TransactCalls) (args : TransactArgs) :
    Prop where
  freesOnce : FreesOnce live (rmnetctlTransact nl calls args).heap
  success : (rmnetctlTransact nl calls args).returnCode = 0 ↔ Answered nl calls args

/-- The transaction gets its request buffer. -/
def Allocates (calls : TransactCalls) (args : TransactArgs) : Prop :=
  args.hndl.isSome ∧ args.request.isSome ∧ args.response = true ∧ calls.requestBuf.isSome

end Transaction

theorem FreesOnce.nil (live : Finset Block) : FreesOnce live [] :=
  ⟨rfl, nofun⟩

variable {live : Finset Block}

theorem not_freesOnce_of_twice {ops : List HeapOp} (block : Block)
    (allocated : .malloc block ∈ ops) (twice : 1 < ops.count (.free block)) :
    ¬ FreesOnce live ops :=
  fun freesOnce => Nat.lt_irrefl 1 (freesOnce.once block allocated ▸ twice)

section Transaction

variable (nl : Netlink) (calls : TransactCalls) (hndl : Hndl) (request : Request)
  (requestBuf responseBuf : Block)

/-- The branches that fail free both buffers, the other one frees none. -/
theorem transactBuffers_heap :
    (transactBuffers nl calls hndl request requestBuf responseBuf).returnCode ≠ 0 ∧
        .free requestBuf ∈ (transactBuffers nl calls hndl request requestBuf responseBuf).heap ∨
      (transactBuffers nl calls hndl request requestBuf responseBuf).returnCode = 0 ∧
        (transactBuffers nl calls hndl request requestBuf responseBuf).heap =
          [.access requestBuf, .access responseBuf, .access requestBuf, .access responseBuf] := by
  unfold transactBuffers
  cases calls.sendto with
  | false => exact .inl (by simp [ApiError.code])
  | true =>
    cases calls.recvfrom with
    | none => exact .inl (by simp [ApiError.code])
    | some datagram =>
      by_cases sameType : request.messageType = (nl.received datagram).messageType
      · exact .inr (by simp [sameType])
      · exact .inl (by simp [sameType, ApiError.code])

/-- Success is a reply of the request's type. -/
theorem transactBuffers_returnCode :
    (transactBuffers nl calls hndl request requestBuf responseBuf).returnCode = 0 ↔
      calls.sendto = true ∧ ∃ datagram, calls.recvfrom = some datagram ∧
        (nl.received datagram).messageType = request.messageType := by
  unfold transactBuffers
  cases calls.sendto with
  | false => simp [ApiError.code]
  | true =>
    cases calls.recvfrom with
    | none => simp [ApiError.code]
    | some datagram =>
      by_cases sameType : request.messageType = (nl.received datagram).messageType
      · simp [sameType]
      · simp [sameType, Ne.symm sameType, ApiError.code]

/-- With both buffers at hand, a transaction frees them once exactly when it succeeds. -/
theorem freesOnce_transactBuffers_iff (fresh : requestBuf ∉ live)
    (freshResponse : responseBuf ∉ live) (distinct : requestBuf ≠ responseBuf) :
    FreesOnce live ([.malloc requestBuf, .malloc responseBuf] ++
        (transactBuffers nl calls hndl request requestBuf responseBuf).heap ++
        freePtr (some requestBuf) ++ freePtr (some responseBuf)) ↔
      (transactBuffers nl calls hndl request requestBuf responseBuf).returnCode = 0 := by
  rcases transactBuffers_heap nl calls hndl request requestBuf responseBuf with
    ⟨failed, freed⟩ | ⟨ok, heap⟩
  · refine iff_of_false (not_freesOnce_of_twice requestBuf (by simp) ?_) failed
    have once := List.count_pos_iff.mpr freed
    simp only [freePtr, Option.toList_some, List.map_cons, List.map_nil, List.count_append,
      List.count_singleton_self]
    omega
  · refine iff_of_true ?_ ok
    rw [heap]
    constructor
    · simp [liveAfter, HeapOp.apply, freePtr, distinct.symm]
    · intro block allocated
      simp [freePtr] at allocated
      rcases allocated with rfl | rfl
      · simp [freePtr, distinct.symm]
      · simp [freePtr, distinct]

/-- The return code is right on every path. -/
theorem rmnetctlTransact_returnCode (nl : Netlink) (calls : TransactCalls) (args : TransactArgs) :
    (rmnetctlTransact nl calls args).returnCode = 0 ↔ Answered nl calls args := by
  obtain ⟨hndl, request, response⟩ := args
  obtain ⟨requestBuf, responseBuf, sendto, recvfrom⟩ := calls
  unfold Answered exchange rmnetctlTransact
  cases hndl with
  | none => simp [TransactArgs.refuse, hndlInvalid]
  | some hndl =>
    cases request with
    | none => simp [TransactArgs.refuse, ApiError.code]
    | some request =>
      cases response with
      | false => simp [TransactArgs.refuse, ApiError.code, guard, failure]
      | true =>
        cases requestBuf with
        | none => simp [TransactArgs.refuse, ApiError.code]
        | some requestBuf =>
          cases responseBuf with
          | none => simp [TransactArgs.refuse, ApiError.code]
          | some responseBuf =>
            simp only [Bool.not_true, Bool.false_eq_true, if_false]
            rw [transactBuffers_returnCode]
            cases sendto with
            | false => simp [guard, failure]
            | true =>
              cases recvfrom with
              | none => simp
              | some datagram => simp [guard]

end Transaction

/--
A transaction frees its buffers once, and returns success exactly for a reply of
the request's type, if and only if it gets no request buffer or such a reply.
-/
theorem rmnetctlTransact_sound_iff (nl : Netlink) (live : Finset Block)
    (calls : TransactCalls) (args : TransactArgs) (fresh : calls.Fresh live) :
    TransactSound nl live calls args ↔ (Allocates calls args → Answered nl calls args) := by
  have returnCode := rmnetctlTransact_returnCode nl calls args
  suffices freesOnce : FreesOnce live (rmnetctlTransact nl calls args).heap ↔
      (Allocates calls args → (rmnetctlTransact nl calls args).returnCode = 0) by
    rw [← returnCode, ← freesOnce]
    exact ⟨fun sound => sound.freesOnce, fun once => ⟨once, returnCode⟩⟩
  obtain ⟨hndl, request, response⟩ := args
  obtain ⟨requestBuf, responseBuf, sendto, recvfrom⟩ := calls
  unfold Allocates rmnetctlTransact
  cases hndl with
  | none => exact iff_of_true (.nil live) (by simp)
  | some hndl =>
    cases request with
    | none => exact iff_of_true (.nil live) (by simp)
    | some request =>
      cases response with
      | false => exact iff_of_true (.nil live) (by simp)
      | true =>
        cases requestBuf with
        | none => exact iff_of_true (.nil live) (by simp)
        | some requestBuf =>
          cases responseBuf with
          | none =>
            simp only [Bool.not_true, Bool.false_eq_true, if_false, TransactArgs.refuse,
              Option.isSome_some, true_and, forall_const]
            refine iff_of_false (not_freesOnce_of_twice requestBuf ?_ ?_) (by decide)
            · simp
            · simp [freePtr]
          | some responseBuf =>
            obtain ⟨freshResponse, distinct⟩ := fresh.responseBuf responseBuf rfl
            simp only [Bool.not_true, Bool.false_eq_true, if_false, Option.isSome_some, true_and,
              forall_const]
            refine freesOnce_transactBuffers_iff _ _ _ _ _ _ (fresh.requestBuf requestBuf rfl)
              freshResponse ?_
            exact fun same => distinct (congrArg some same)

/-- A message whose first byte tells its type. -/
def oneByteTypes : Netlink where
  maxBufSize := 2
  message bytes :=
    { messageType := if bytes.head? = some 1 then .getVndName else .freeVnd
      crd := .returnData
      returnCode := 0
      flags := 0
      aggSize := 0
      aggCount := 0
      tailSpacing := 0
      operatingMode := 0
      nextDev := []
      vndName := [] }

/-- The question for the name of a device. -/
def vndNameArgs : TransactArgs where
  hndl := some { pid := 7, transactionId := 0 }
  request := some { messageType := .getVndName, argLength := 4, data := .vnd 0 [] }
  response := true

/-- A transaction that ends well frees both buffers once. -/
theorem rmnetctlTransact_sound_reply :
    TransactSound oneByteTypes ∅
      { requestBuf := some 1
        responseBuf := some 2
        sendto := true
        recvfrom := some [1] }
      vndNameArgs :=
  (rmnetctlTransact_sound_iff _ _ _ _ ⟨by simp, by simp⟩).mpr
    fun _ => ⟨_, _, rfl, rfl⟩

/-- When the receive fails, both buffers are freed twice. -/
theorem rmnetctlTransact_twice :
    ¬ TransactSound oneByteTypes ∅
      { requestBuf := some 1
        responseBuf := some 2
        sendto := true
        recvfrom := none }
      vndNameArgs := by
  intro sound
  exact absurd (sound.freesOnce.once 1 (by decide)) (by decide)

/-! ## The transaction as the calls see it -/

/-- Which of its calls succeed. -/
def TransactCalls.env (calls : TransactCalls) : TransactEnv where
  requestBuf := calls.requestBuf.isSome
  responseBuf := calls.responseBuf.isSome
  sendto := calls.sendto
  recvfrom := calls.recvfrom.isSome

/-- The result of a transaction with the handle of a socket. -/
def Socket.outcomeCode : Except ApiError Reply → Nat
  | .ok _ => 0
  | .error error => error.code

/--
Apart from its buffers, a transaction whose datagram is the oldest reply of the
socket does what the socket's transaction does.
-/
theorem rmnetctlTransact_eq_socket (nl : Netlink) (calls : TransactCalls)
    (socket : Socket) (answer : Request → Response) (request : Request)
    (delivers : ∀ datagram, calls.recvfrom = some datagram →
      nl.received datagram =
        (takeOldest ⟨socket.requests, answer request⟩ socket.replies).1.response) :
    let transacted := rmnetctlTransact nl calls ⟨some socket.hndl, some request, true⟩
    let after := socket.rmnetctlTransact calls.env answer request
    transacted.hndl = some after.1.hndl ∧ transacted.returnCode = Socket.outcomeCode after.2 := by
  obtain ⟨requestBuf, responseBuf, sendto, recvfrom⟩ := calls
  cases requestBuf with
  | none => exact ⟨rfl, rfl⟩
  | some requestBuf =>
    cases responseBuf with
    | none => exact ⟨rfl, rfl⟩
    | some responseBuf =>
      cases sendto with
      | false => exact ⟨rfl, rfl⟩
      | true =>
        cases recvfrom with
        | none => exact ⟨rfl, rfl⟩
        | some datagram =>
          have reply := delivers datagram rfl
          simp only [rmnetctlTransact, transactBuffers, Socket.rmnetctlTransact,
            TransactCalls.env, Option.isSome_some, Bool.not_true, Bool.false_eq_true, if_false,
            reply]
          split
          · exact ⟨rfl, rfl⟩
          · exact ⟨rfl, rfl⟩

end AnglerHal.Rmnetctl
