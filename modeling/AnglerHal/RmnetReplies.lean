import AnglerHal.LabelledRun
import AnglerHal.RmnetApi

namespace AnglerHal.Rmnetctl

open LabelledRun

/-!
# Requests and replies on one handle

The kernel answers every request that it receives with one reply, in order.
A `recvfrom` takes the oldest reply that waits in the socket; when it fails,
the reply stays there.  The transaction id of the handle goes out with a
request, and nothing compares it with what comes back.

When the buffers cannot be had, or the send or the receive fails, or the types
differ, `rmnetctl_transact` frees its buffers twice.  The process is taken to
survive this.
-/

/-- `struct rmnetctl_hndl_s`, as far as a transaction changes it. -/
structure Hndl where
  pid : UInt32
  transactionId : UInt32
  deriving DecidableEq

/-- A reply and the number of the request that it answers. -/
structure Reply where
  request : Nat
  response : Response
  deriving DecidableEq

/--
The handle, how many requests the kernel has received over it, and the replies
that were not received yet, oldest first.
-/
structure Socket where
  hndl : Hndl
  requests : Nat
  replies : List Reply
  deriving DecidableEq

/-- What the calls out of `rmnetctl_transact` return. -/
structure TransactEnv where
  requestBuf : Bool
  responseBuf : Bool
  sendto : Bool
  recvfrom : Bool
  deriving DecidableEq

/-- Everything that the transaction calls succeeds. -/
def TransactEnv.Succeeds (env : TransactEnv) : Prop :=
  env.requestBuf = true ∧ env.responseBuf = true ∧ env.sendto = true ∧ env.recvfrom = true

/--
`recvfrom` after a request whose reply is `own`: it takes the oldest reply that
waits, which is the own one if no other does.
-/
def takeOldest (own : Reply) : List Reply → Reply × List Reply
  | [] => (own, [])
  | oldest :: later => (oldest, later ++ [own])

/--
`rmnetctl_transact`; `answer` is what the kernel makes of a request that it
receives.  A transaction that ends well returns the reply that it received.
-/
def Socket.rmnetctlTransact (env : TransactEnv) (answer : Request → Response) (request : Request)
    (socket : Socket) : Socket × Except ApiError Reply :=
  if !env.requestBuf then
    (socket, .error .requestNull)
  else if !env.responseBuf then
    (socket, .error .responseNull)
  else
    let hndl := { socket.hndl with transactionId := socket.hndl.transactionId + 1 }
    if !env.sendto then
      ({ socket with hndl := hndl }, .error .messageSend)
    else
      let own : Reply := ⟨socket.requests, answer request⟩
      if !env.recvfrom then
        ({ hndl := hndl
           requests := socket.requests + 1
           replies := socket.replies ++ [own] }, .error .messageReceive)
      else
        let taken := takeOldest own socket.replies
        let after : Socket :=
          { hndl := hndl
            requests := socket.requests + 1
            replies := taken.2 }
        if request.messageType ≠ taken.1.response.messageType then
          (after, .error .messageType)
        else
          (after, .ok taken.1)

/--
A call has returned.  `request` is the number of its request, when it sent one,
and `reply` that of the request whose reply its result was made of.
-/
structure ApiOutput where
  request : Option Nat
  reply : Option Nat
  result : ApiResult
  deriving DecidableEq

/-- A call of the library. -/
def Socket.callApi (env : TransactEnv) (answer : Request → Response) (call : ApiCall)
    (socket : Socket) : Socket × ApiOutput :=
  match call.request with
  | .error result => (socket, { request := none, reply := none, result := result })
  | .ok request =>
    match socket.rmnetctlTransact env answer request with
    | (after, .error error) =>
      (after, {
        request := some socket.requests
        reply := none
        result := libErr error })
    | (after, .ok reply) =>
      (after, {
        request := some socket.requests
        reply := some reply.request
        result := call.report reply.response })

/-! ## Runs -/

/-- A call, what its environment does, and how the kernel answers. -/
structure ApiEvent where
  api : Api
  env : TransactEnv
  answer : Request → Response

variable {env : TransactEnv} {request : Request} {socket after : Socket}
  {event : ApiEvent}

section Runs

variable (header : RmnetData)

/-- One call. -/
def socketStep (socket : Socket) (event : ApiEvent) : Option (Socket × List ApiOutput) :=
  let (after, output) := socket.callApi event.env event.answer (event.api.call header)
  some (after, [output])

/-- `rmnetctl_init` has made a handle. -/
def Socket.opened (pid : UInt32) : Socket where
  hndl := { pid := pid, transactionId := 0 }
  requests := 0
  replies := []

/-- A result from the kernel is that of the call's own request. -/
def ApiOutput.Own (output : ApiOutput) : Prop :=
  output.result.returnCode.FromKernel → ∃ own, output.request = some own ∧ output.reply = some own

/-- The call does not report an earlier reply. -/
def OwnStep (socket : Socket) (event : ApiEvent) : Prop :=
  ∀ after outputs, socketStep header socket event = some (after, outputs) →
      ∀ output ∈ outputs, output.Own

/--
A transaction that would succeed finds no earlier reply, or one that the call
does not take for its own.
-/
def NotTaken (socket : Socket) (event : ApiEvent) : Prop :=
  ∀ request oldest, (event.api.call header).request = .ok request → event.env.Succeeds →
    socket.replies.head? = some oldest → ¬ (oldest.response.messageType = request.messageType ∧
        event.api.Accepts header oldest.response)

/-- The replies that wait answer requests of the past. -/
def Socket.Answered (socket : Socket) : Prop :=
  ∀ reply ∈ socket.replies, reply.request < socket.requests

variable {header}

theorem Socket.rmnetctlTransact_ok {answer : Request → Response} {reply : Reply}
    (transacted : socket.rmnetctlTransact env answer request = (after, .ok reply)) :
    env.Succeeds ∧ reply.response.messageType = request.messageType ∧
      (reply.request = socket.requests ∨ socket.replies.head? = some reply) := by
  unfold rmnetctlTransact at transacted
  cases requestBuf : env.requestBuf with
  | false => simp [requestBuf] at transacted
  | true =>
    cases responseBuf : env.responseBuf with
    | false => simp [requestBuf, responseBuf] at transacted
    | true =>
      cases sendto : env.sendto with
      | false => simp [requestBuf, responseBuf, sendto] at transacted
      | true =>
        cases recvfrom : env.recvfrom with
        | false => simp [requestBuf, responseBuf, sendto, recvfrom] at transacted
        | true =>
          simp only [requestBuf, responseBuf, sendto, recvfrom,
            Bool.not_true, Bool.false_eq_true, if_false]
            at transacted
          split at transacted
          · cases transacted
          · rename_i sameType
            obtain rfl := Except.ok.inj (Prod.mk.inj transacted).2
            refine ⟨⟨requestBuf, responseBuf, sendto, recvfrom⟩, (not_not.mp sameType).symm, ?_⟩
            cases socket.replies with
            | nil => exact .inl rfl
            | cons oldest later => exact .inr rfl

theorem Socket.rmnetctlTransact_of_oldest (succeeds : env.Succeeds)
    (answer : Request → Response) {oldest : Reply}
    (waits : socket.replies.head? = some oldest)
    (sameType : oldest.response.messageType = request.messageType) :
    ∃ after, socket.rmnetctlTransact env answer request = (after, .ok oldest) := by
  obtain ⟨requestBuf, responseBuf, sendto, recvfrom⟩ := succeeds
  cases replies : socket.replies with
  | nil =>
    simp [replies] at waits
  | cons first later =>
    obtain rfl : first = oldest := by simpa [replies] using waits
    simp [rmnetctlTransact, requestBuf, responseBuf, sendto, recvfrom,
      replies, takeOldest, sameType]

theorem Socket.Answered.rmnetctlTransact (answered : socket.Answered)
    (env : TransactEnv) (answer : Request → Response) (request : Request) :
    (socket.rmnetctlTransact env answer request).1.Answered := by
  have grown : ∀ reply ∈ socket.replies ++ [⟨socket.requests, answer request⟩],
        reply.request < socket.requests + 1 := by
    intro reply member
    rcases List.mem_append.mp member with earlier | own
    · exact Nat.lt_succ_of_lt (answered reply earlier)
    · obtain rfl := List.mem_singleton.mp own
      exact Nat.lt_succ_self _
  unfold Socket.rmnetctlTransact
  split
  · exact answered
  split
  · exact answered
  split
  · exact answered
  split
  · exact grown
  have rest : ∀ reply ∈ (takeOldest ⟨socket.requests, answer request⟩ socket.replies).2,
        reply.request < socket.requests + 1 := by
    cases replies : socket.replies with
    | nil =>
      simp [takeOldest]
    | cons oldest later =>
      intro reply member
      rw [replies] at grown
      exact grown reply (List.mem_cons_of_mem _ member)
  dsimp only
  split
  · exact rest
  · exact rest

theorem Socket.Answered.step {outputs : List ApiOutput} (answered : socket.Answered)
    (stepped : socketStep header socket event = some (after, outputs)) :
    after.Answered := by
  simp only [socketStep, callApi, Option.some.injEq, Prod.mk.injEq] at stepped
  obtain ⟨rfl, -⟩ := stepped
  cases (event.api.call header).request with
  | error result => exact answered
  | ok request =>
    have kept := answered.rmnetctlTransact event.env event.answer request
    dsimp only
    split
    · rename_i transacted
      rwa [transacted] at kept
    · rename_i transacted
      rwa [transacted] at kept

theorem Socket.Answered.ownStep_iff (answered : socket.Answered) :
    OwnStep header socket event ↔ NotTaken header socket event := by
  constructor
  · rintro own request oldest sent succeeds waits ⟨sameType, accepts⟩
    obtain ⟨after, transacted⟩ :=
      rmnetctlTransact_of_oldest succeeds event.answer waits sameType
    have stepped : socketStep header socket event = some (after, [{
            request := some socket.requests
            reply := some oldest.request
            result := (event.api.call header).report oldest.response }]) := by
      simp [socketStep, callApi, sent, transacted]
    obtain ⟨number, isOwn, isReply⟩ :=
      own _ _ stepped _ (List.mem_singleton.mpr rfl)
        ((event.api.report_fromKernel header oldest.response).mpr accepts)
    have earlier : oldest.request < socket.requests := answered oldest (List.mem_of_mem_head? waits)
    simp only [Option.some.injEq] at isOwn isReply
    rw [isReply, isOwn] at earlier
    exact Nat.lt_irrefl _ earlier
  · intro notTaken after outputs stepped output member fromKernel
    simp only [socketStep, callApi, Option.some.injEq, Prod.mk.injEq] at stepped
    obtain ⟨-, rfl⟩ := stepped
    obtain rfl := List.mem_singleton.mp member
    cases sent : (event.api.call header).request with
    | error result =>
      simp only [sent] at fromKernel
      exact absurd fromKernel (event.api.refuses header result sent)
    | ok request =>
      simp only [sent] at fromKernel ⊢
      split at fromKernel
      · exact absurd fromKernel (libErr_not_fromKernel _)
      · rename_i reply transacted
        obtain ⟨succeeds, sameType, origin⟩ := rmnetctlTransact_ok transacted
        rcases origin with isOwn | waits
        · exact ⟨socket.requests, rfl, congrArg some isOwn⟩
        · exact absurd ⟨sameType, (event.api.report_fromKernel header reply.response).mp fromKernel⟩
            (notTaken request reply sent succeeds waits)

/--
Every call of a run reports its own reply or none exactly when no call takes an
earlier reply for its own.
-/
theorem socketRun_own_iff (header : RmnetData) (pid : UInt32) (events : List ApiEvent) :
    Guarded (socketStep header) (fun socket _ event => OwnStep header socket event)
        (.opened pid) [] events ↔
      Guarded (socketStep header) (fun socket _ event => NotTaken header socket event)
        (.opened pid) [] events := by
  refine guarded_iff_of_invariant Socket.Answered (fun answered => answered.ownStep_iff) ?_
    (by simp [Socket.Answered, Socket.opened])
  intro socket _ event after _ answered _ stepped
  exact answered.step stepped

end Runs

/-- Constants under which names have up to 15 bytes. -/
def shortNames : RmnetData where
  rmnetMaxStrLen := 16
  rmnetEpmodeLength := 4
  egressFlagsMask := 0xF
  ingressFlagsMask := 0x3F
  rmnetConfigOk := 0

/-- The question for the status of a device, answered with this status. -/
def associatedQuery (devName : Name) (status : Int) (received : Bool) : ApiEvent where
  api := .getNetworkDeviceAssociated true (some devName)
  env :=
    { requestBuf := true
      responseBuf := true
      sendto := true
      recvfrom := received }
  answer _ :=
    { messageType := .getNetworkDeviceAssociated
      crd := .returnData
      returnCode := status
      flags := 0
      aggSize := 0
      aggCount := 0
      tailSpacing := 0
      operatingMode := 0
      nextDev := []
      vndName := [] }

/-- A call that could not receive its reply leaves it to the next one. -/
theorem socketRun_shifted : ¬ Guarded (socketStep shortNames)
      (fun socket _ event => OwnStep shortNames socket event)
      (.opened 7) []
      [associatedQuery [97] 1 false, associatedQuery [98] 0 true] := by
  rintro ⟨-, first⟩
  obtain ⟨second, -⟩ := first _ _ rfl
  obtain ⟨own, isOwn, isReply⟩ := second _ _ rfl _ (List.mem_singleton.mpr rfl) (.inl rfl)
  cases isOwn
  exact absurd isReply (by decide)

end AnglerHal.Rmnetctl
