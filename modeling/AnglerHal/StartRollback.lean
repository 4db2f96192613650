import AnglerHal.ChannelStart

namespace AnglerHal.ChannelStart

open Superbuf (ChannelOutput SuperbufNode)

/-!
# What a failed start leaves behind

The error handling of `mm_channel_start` brings a stream back to its
configured state unless the kernel still has buffers registered: a failed
`VIDIOC_QBUF` leaves the stream in the buffed state, which rejects the event
that unregisters.  A channel with a superbuf callback loses the callback and
the attributes of its bundle, and a channel with linked streams loses their
slots.
-/

/-! ## One stream -/

/-- A configured stream without buffers, as a start expects it. -/
structure MmStream.Ready (stream : MmStream) : Prop where
  state : stream.state = .cfg
  buf : stream.buf = none
  kernelBufs : stream.kernelBufs = 0
  cmdThread : stream.cmdThread = false

/-- The buffers are allocated and the kernel accepts their number. -/
def StreamEnv.requests (env : StreamEnv) : Bool :=
  env.getBufsRc == 0 && env.statusMemory &&
    decide (env.regFlags.length ≤ maxNumFrames) && env.requestBufRc == 0

/-- Every buffer that is to be queued initially is accepted by the kernel. -/
def StreamEnv.queuesAll (env : StreamEnv) : Bool :=
  env.regFlags.zipIdx.all fun (flag, index) =>
    !flag || env.qbufRc index == 0

/-- Getting, registering and starting the stream all succeed. -/
def StreamEnv.starts (env : StreamEnv) : Bool :=
  env.requests && env.queuesAll && env.streamOnRc == 0

/--
Nothing stays registered with the kernel once the stream has been undone: no
buffer was requested, or all were queued and unregistering succeeds.
-/
def StreamEnv.unregisters (env : StreamEnv) : Bool :=
  !env.requests || env.regFlags.isEmpty || (env.queuesAll && decide (0 ≤ env.unregBufRc))

theorem regLoop_rc (qbufRc : Nat → Int) (index : Nat) (statuses : List BufStatus) :
    ((regLoop qbufRc index statuses).2 = 0 ↔ (statuses.zipIdx index).all fun (status, position) =>
        !status.initialRegFlag || qbufRc position == 0) := by
  induction statuses generalizing index with
  | nil => simp [regLoop]
  | cons status rest inductionHypothesis =>
    simp only [regLoop, List.zipIdx_cons, List.all_cons, Bool.and_eq_true]
    cases flag : status.initialRegFlag with
    | false => simp [inductionHypothesis]
    | true =>
      by_cases accepted : qbufRc index = 0
      · simp [accepted, inductionHypothesis]
      · simp [accepted]

/-- The statuses that `mm_stream_init_bufs` sets up. -/
def freshStatuses (flags : List Bool) : List BufStatus :=
  flags.map fun flag => {
    bufRefcnt := 0
    initialRegFlag := flag
    inKernel := false }

theorem regLoop_fresh (env : StreamEnv) :
    (regLoop env.qbufRc 0 (freshStatuses env.regFlags)).2 = 0 ↔ env.queuesAll = true := by
  rw [regLoop_rc]
  simp [StreamEnv.queuesAll, freshStatuses, List.zipIdx_map, List.all_map, Function.comp_def]

/-- How far the start of a configured stream gets. -/
inductive StartOutcome (env : StreamEnv) (stream : MmStream) : MmStream × Int → Prop where
  /-- The buffers are not allocated. -/
  | notAllocated {rc : Int} (refused : env.requests = false) (failed : rc ≠ 0) :
      StartOutcome env stream (stream, rc)
  /-- The kernel does not take the request for buffers. -/
  | notRequested {rc : Int} {statuses : List BufStatus} (refused : env.requests = false)
      (failed : rc ≠ 0) :
      StartOutcome env stream ({ stream with state := .buffed, buf := some statuses }, rc)
  /-- The kernel refuses one of the buffers. -/
  | notQueued {rc : Int} {statuses : List BufStatus} (requested : env.requests = true)
      (refused : env.queuesAll = false)
      (failed : rc ≠ 0) :
      StartOutcome env stream ({ stream with
            state := .buffed
            buf := some statuses
            kernelBufs := env.regFlags.length }, rc)
  /-- The buffers are registered and the stream does not start. -/
  | notStarted {statuses : List BufStatus} (requested : env.requests = true)
      (queued : env.queuesAll = true)
      (failed : env.streamOnRc ≠ 0) :
      StartOutcome env stream ({ stream with
            state := .reg
            buf := some statuses
            kernelBufs := env.regFlags.length
            cmdThread := false }, env.streamOnRc)
  /-- The stream is active. -/
  | started {statuses : List BufStatus} (requested : env.requests = true)
      (queued : env.queuesAll = true)
      (started : env.streamOnRc = 0) :
      StartOutcome env stream ({ stream with
            state := .active
            buf := some statuses
            kernelBufs := env.regFlags.length
            cmdThread := stream.hasBufCb }, 0)

variable {env : StreamEnv} {stream : MmStream} {hdl : Nat} {slots : List ChannelSlot}
  {change : MmStream → MmStream} {hdls : List Nat}

theorem getBuf_ready (ready : stream.Ready) :
    streamFsmFn env .getBuf stream = if env.getBufsRc ≠ 0 then
        (stream, env.getBufsRc)
      else if !env.statusMemory then
        (stream, -1)
      else
        ({ stream with
            state := .buffed
            buf := some (freshStatuses env.regFlags) }, 0) := by
  obtain ⟨hdl, state, streamType, noFrame, bundled, hasCb, thread, buf, kernel⟩ := stream
  obtain ⟨rfl, rfl, rfl, rfl⟩ := ready
  by_cases allocated : env.getBufsRc = 0
  · cases memory : env.statusMemory <;>
      simp [streamFsmFn, streamFsmCfg, initBufs, deinitBufs, allocated, memory, freshStatuses]
  · simp [streamFsmFn, streamFsmCfg, initBufs, deinitBufs, allocated]

theorem regBuf_buffed (buffed : stream.state = .buffed)
    (statuses : stream.buf = some (freshStatuses env.regFlags)) :
    streamFsmFn env .regBuf stream = if requestBuf env env.regFlags.length ≠ 0 then
        (stream, requestBuf env env.regFlags.length)
      else if env.queuesAll then
        ({ stream with
            state := .reg
            buf := some (regLoop env.qbufRc 0 (freshStatuses env.regFlags)).1
            kernelBufs := env.regFlags.length }, 0)
      else
        ({ stream with
            buf := some (regLoop env.qbufRc 0 (freshStatuses env.regFlags)).1
            kernelBufs := env.regFlags.length },
          (regLoop env.qbufRc 0 (freshStatuses env.regFlags)).2) := by
  have count : (freshStatuses env.regFlags).length =
      env.regFlags.length := by
    simp [freshStatuses]
  have accepted := regLoop_fresh env
  by_cases requested : requestBuf env env.regFlags.length = 0
  · by_cases queued : env.queuesAll = true
    · simp [streamFsmFn, buffed, streamFsmBuffed, regBuf, statuses, count,
        requested, queued, accepted.mpr queued]
    · have refused : (regLoop env.qbufRc 0 (freshStatuses env.regFlags)).2 ≠ 0 :=
        fun none => queued (accepted.mp none)
      simp [streamFsmFn, buffed, streamFsmBuffed, regBuf, statuses, count,
        requested, queued, refused]
  · simp [streamFsmFn, buffed, streamFsmBuffed, regBuf, statuses, count, requested]

theorem requests_iff (env : StreamEnv) : env.requests = true ↔
      env.getBufsRc = 0 ∧ env.statusMemory = true ∧ requestBuf env env.regFlags.length = 0 := by
  unfold StreamEnv.requests requestBuf
  by_cases allowed : env.regFlags.length ≤ maxNumFrames
  · have notAbove : ¬ maxNumFrames < env.regFlags.length := by
      omega
    simp [allowed, notAbove, and_assoc]
  · have above : maxNumFrames < env.regFlags.length := by
      omega
    simp [allowed, above]

theorem startStream_outcome (env : StreamEnv) (ready : stream.Ready) :
    StartOutcome env stream (startStream env stream) := by
  have inactive : stream.state ≠ .active := by
    simp [ready.state]
  have requests := requests_iff env
  unfold startStream
  rw [if_neg inactive, getBuf_ready ready]
  by_cases allocated : env.getBufsRc = 0
  · cases memory : env.statusMemory with
    | false =>
      simp only [allocated, ne_eq, not_true_eq_false, if_false, Bool.not_false, if_true]
      refine .notAllocated ?_ (by decide)
      simpa [memory] using requests
    | true =>
      simp only [allocated, ne_eq, not_true_eq_false, if_false, Bool.not_true, Bool.false_eq_true]
      rw [regBuf_buffed rfl rfl]
      by_cases requested : requestBuf env env.regFlags.length = 0
      · have asked : env.requests = true := requests.mpr ⟨allocated, memory, requested⟩
        cases queued : env.queuesAll with
        | true =>
          simp only [requested, ne_eq, not_true_eq_false, if_false, if_true]
          by_cases on : env.streamOnRc = 0
          · simp only [streamFsmFn, streamFsmReg, on, ne_eq,
              not_true_eq_false, if_false, ready.cmdThread,
              Bool.or_false]
            exact .started asked queued on
          · simp only [streamFsmFn, streamFsmReg, on, ne_eq,
              not_false_eq_true, if_true, ready.cmdThread,
              Bool.and_false]
            exact .notStarted asked queued on
        | false =>
          have refused : (regLoop env.qbufRc 0 (freshStatuses env.regFlags)).2 ≠ 0 := by
            intro none
            have contrary := (regLoop_fresh env).mp none
            simp [queued] at contrary
          simp only [requested, ne_eq, not_true_eq_false, if_false,
            Bool.false_eq_true, refused, not_false_eq_true, if_true]
          exact .notQueued asked queued refused
      · simp only [requested, ne_eq, not_false_eq_true, if_true]
        refine .notRequested ?_ requested
        simpa [requested] using requests
  · simp only [allocated, ne_eq, not_false_eq_true, if_true]
    refine .notAllocated ?_ allocated
    simpa [allocated] using requests

theorem startStream_rc (env : StreamEnv) (ready : stream.Ready) :
    (startStream env stream).2 = 0 ↔ env.starts = true := by
  have outcome := startStream_outcome env ready
  generalize startStream env stream = result at outcome
  cases outcome with
  | notAllocated refused failed => simp [StreamEnv.starts, refused, failed]
  | notRequested refused failed => simp [StreamEnv.starts, refused, failed]
  | notQueued requested refused failed => simp [StreamEnv.starts, refused, failed]
  | notStarted requested queued failed => simp [StreamEnv.starts, failed]
  | started requested queued started => simp [StreamEnv.starts, requested, queued, started]

private theorem kernelBufs_after_unreg (requested : env.requests = true)
    (queued : env.queuesAll = true) :
    (if env.unregBufRc < 0 then env.regFlags.length else 0) =
      if env.unregisters then 0 else env.regFlags.length := by
  by_cases failed : env.unregBufRc < 0
  · cases shape : env.regFlags <;>
      simp [StreamEnv.unregisters, requested, queued, failed, shape]
  · simp [StreamEnv.unregisters, queued, failed]

/--
Undoing a start restores a configured stream, but for the buffers that the
kernel still has registered.
-/
theorem undoStream_startStream (env : StreamEnv) (ready : stream.Ready) :
    undoStream env (startStream env stream).1 = { stream with
          kernelBufs :=
            if env.unregisters then 0 else env.regFlags.length } := by
  have outcome := startStream_outcome env ready
  generalize startStream env stream = result at outcome
  obtain ⟨hdl, state, streamType, noFrame, bundled, hasCb, thread, buf, kernel⟩ := stream
  obtain ⟨rfl, rfl, rfl, rfl⟩ := ready
  cases outcome with
  | notAllocated refused failed =>
    simp [undoStream, streamFsmFn, streamFsmCfg, StreamEnv.unregisters, refused]
  | notRequested refused failed =>
    simp [undoStream, streamFsmFn, streamFsmBuffed, deinitBufs, StreamEnv.unregisters, refused]
  | notQueued requested refused failed =>
    -- the buffed state rejects the event that would unregister
    cases shape : env.regFlags <;>
      simp [undoStream, streamFsmFn, streamFsmBuffed, deinitBufs,
        StreamEnv.unregisters, requested, refused, shape]
  | notStarted requested queued failed =>
    simp [undoStream, streamFsmFn, streamFsmReg, streamFsmBuffed,
      unregBuf, deinitBufs, kernelBufs_after_unreg requested queued]
  | started requested queued started =>
    simp [undoStream, streamFsmFn, streamFsmActive, streamFsmReg,
      streamFsmBuffed, unregBuf, deinitBufs,
      kernelBufs_after_unreg requested queued]

/-! ## The loops over the streams -/

/-- Events leave the handle of a stream alone. -/
theorem streamFsmFn_myHdl (env : StreamEnv) (evt : StreamEvt) (stream : MmStream) :
    (streamFsmFn env evt stream).1.myHdl = stream.myHdl := by
  have deinit : (deinitBufs env stream).1.myHdl = stream.myHdl := by
    unfold deinitBufs
    split <;> rfl
  have allocated : (initBufs env stream).1.myHdl = stream.myHdl := by
    unfold initBufs
    dsimp only
    split
    · exact deinit
    · split <;> exact deinit
  have registered : (regBuf env stream).1.myHdl = stream.myHdl := by
    unfold regBuf
    dsimp only
    split <;> rfl
  unfold streamFsmFn
  split
  · rfl
  · rfl
  · rfl
  · unfold streamFsmCfg
    split
    · dsimp only
      split <;> exact allocated
    · rfl
  · unfold streamFsmBuffed
    split
    · exact deinit
    · dsimp only
      split <;> exact registered
    · rfl
  · unfold streamFsmReg
    split
    · rfl
    · split <;> rfl
    · rfl
  · unfold streamFsmActive
    split <;> rfl

/-- Starting a stream leaves its handle alone. -/
theorem startStream_myHdl (env : StreamEnv) (stream : MmStream) :
    (startStream env stream).1.myHdl = stream.myHdl := by
  have first := streamFsmFn_myHdl env .getBuf stream
  have second := streamFsmFn_myHdl env .regBuf (streamFsmFn env .getBuf stream).1
  have third :=
    streamFsmFn_myHdl env .start (streamFsmFn env .regBuf (streamFsmFn env .getBuf stream).1).1
  unfold startStream
  split
  · rfl
  · dsimp only
    split
    · exact first
    · split
      · exact second.trans first
      · exact third.trans (second.trans first)

/-- Change the own streams of some handles. -/
def applyTo (hdls : List Nat) (change : Nat → MmStream → MmStream)
    (slots : List ChannelSlot) : List ChannelSlot :=
  slots.map fun slot =>
    match slot with
    | .own stream =>
      if stream.myHdl ∈ hdls then
        .own (change stream.myHdl stream)
      else
        .own stream
    | .linked linked => .linked linked

theorem applyTo_nil (change : Nat → MmStream → MmStream) (slots : List ChannelSlot) :
    applyTo [] change slots = slots := by
  have same : ∀ slot ∈ slots, (match slot with
          | .own stream =>
            if stream.myHdl ∈ ([] : List Nat) then
              ChannelSlot.own (change stream.myHdl stream)
            else
              .own stream
          | .linked linked => .linked linked) = id slot := by
    intro slot _
    cases slot <;> simp
  unfold applyTo
  rw [List.map_congr_left same, List.map_id]

theorem applyTo_cons {hdl : Nat} {hdls : List Nat} {change : Nat → MmStream → MmStream}
    (other : hdl ∉ hdls) (keepsHdl : ∀ stream, (change hdl stream).myHdl = stream.myHdl)
    (slots : List ChannelSlot) :
    applyTo hdls change (updateOwn hdl (change hdl) slots) =
      applyTo (hdl :: hdls) change slots := by
  unfold applyTo updateOwn
  rw [List.map_map]
  refine List.map_congr_left ?_
  intro slot _
  cases slot with
  | linked linked => rfl
  | own stream =>
    by_cases here : stream.myHdl = hdl
    · have changed : (change hdl stream).myHdl ∉ hdls := by
        rw [keepsHdl, here]
        exact other
      simp [here, changed]
    · simp [here]

/-- The streams that the start loop reaches: up to the first failure. -/
def reached (env : Nat → StreamEnv) : List Nat → List Nat
  | [] => []
  | hdl :: rest => if (env hdl).starts then hdl :: reached env rest else [hdl]

theorem reached_sublist (env : Nat → StreamEnv) (order : List Nat) :
    (reached env order).Sublist order := by
  induction order with
  | nil => exact List.Sublist.refl _
  | cons hdl rest inductionHypothesis =>
    unfold reached
    split
    · exact inductionHypothesis.cons_cons hdl
    · exact (List.nil_sublist rest).cons_cons hdl

/-- A stream that is found is in the channel, under its handle. -/
theorem findOwn_some (found : findOwn hdl slots = some stream) :
    .own stream ∈ slots ∧ stream.myHdl = hdl := by
  unfold findOwn at found
  obtain ⟨slot, member, selected⟩ := List.exists_of_findSome?_eq_some found
  cases slot with
  | linked linked => simp at selected
  | own current =>
    simp only [Option.ite_none_right_eq_some, Option.some.injEq] at selected
    obtain ⟨sameHdl, rfl⟩ := selected
    exact ⟨member, sameHdl⟩

/-- A handle of the channel's own streams is found. -/
theorem findOwn_isSome (member : hdl ∈ slots.filterMap ChannelSlot.ownHdl?) :
    ∃ stream, findOwn hdl slots = some stream := by
  obtain ⟨slot, inSlots, isOwn⟩ := List.mem_filterMap.mp member
  refine Option.isSome_iff_exists.mp (List.findSome?_isSome_iff.mpr ⟨slot, inSlots, ?_⟩)
  cases slot with
  | linked linked => simp [ChannelSlot.ownHdl?] at isOwn
  | own stream =>
    simp only [ChannelSlot.ownHdl?, Option.some.injEq] at isOwn
    simp [isOwn]

/-- Changing a stream keeps the handles of the own streams. -/
theorem updateOwn_ownHdls (keepsHdl : ∀ stream, (change stream).myHdl = stream.myHdl)
    (slots : List ChannelSlot) :
    (updateOwn hdl change slots).filterMap ChannelSlot.ownHdl? =
      slots.filterMap ChannelSlot.ownHdl? := by
  unfold updateOwn
  rw [List.filterMap_map]
  refine List.filterMap_congr ?_
  intro slot _
  cases slot with
  | linked linked => rfl
  | own stream =>
    by_cases here : stream.myHdl = hdl <;>
      simp [here, ChannelSlot.ownHdl?, keepsHdl]

theorem mem_updateOwn (keepsHdl : ∀ current, (change current).myHdl = current.myHdl)
    (member : .own stream ∈ updateOwn hdl change slots) (other : stream.myHdl ≠ hdl) :
    .own stream ∈ slots := by
  unfold updateOwn at member
  obtain ⟨slot, inSlots, same⟩ := List.mem_map.mp member
  cases slot with
  | linked linked => simp at same
  | own current =>
    by_cases here : current.myHdl = hdl
    · simp only [here, if_true, ChannelSlot.own.injEq] at same
      rw [← same, keepsHdl] at other
      exact absurd here other
    · simp only [here, if_false] at same
      rw [← same]
      exact inSlots

/--
The start loop changes exactly the streams it reaches, and succeeds exactly
when every stream starts.
-/
theorem startLoop_reached (env : Nat → StreamEnv) {order : List Nat}
    (distinct : order.Nodup)
    (known : ∀ hdl ∈ order, hdl ∈ slots.filterMap ChannelSlot.ownHdl?)
    (ready : ∀ stream, .own stream ∈ slots → stream.myHdl ∈ order → stream.Ready) :
    (startLoop env order slots).1 = applyTo (reached env order)
          (fun hdl stream => (startStream (env hdl) stream).1) slots ∧
      ((startLoop env order slots).2.1 = 0 ↔ ∀ hdl ∈ order, (env hdl).starts = true) ∧
      (startLoop env order slots).2.2 = reached env order := by
  induction order generalizing slots with
  | nil => exact ⟨(applyTo_nil _ slots).symm, by simp [startLoop], rfl⟩
  | cons hdl rest inductionHypothesis =>
    obtain ⟨notLater, restDistinct⟩ := List.nodup_cons.mp distinct
    obtain ⟨stream, found⟩ := findOwn_isSome (known hdl (by simp))
    obtain ⟨member, sameHdl⟩ := findOwn_some found
    have streamReady := ready stream member (by simp [sameHdl])
    have rc := startStream_rc (env hdl) streamReady
    have keepsHdl := startStream_myHdl (env hdl)
    simp only [startLoop, found]
    by_cases starts : (env hdl).starts = true
    · have succeeded := rc.mpr starts
      have others := @inductionHypothesis (updateOwn hdl
            (fun current => (startStream (env hdl) current).1) slots)
          restDistinct
          (by
            intro later isLater
            rw [updateOwn_ownHdls keepsHdl]
            exact known later (by simp [isLater]))
          (by
            intro current inUpdated isLater
            have differs : current.myHdl ≠ hdl := by
              intro same
              rw [same] at isLater
              exact notLater isLater
            exact ready current (mem_updateOwn keepsHdl inUpdated differs) (by simp [isLater]))
      obtain ⟨slotsEq, rcIff, reachedEq⟩ := others
      have notReached : hdl ∉ reached env rest := fun inReached =>
          notLater ((reached_sublist env rest).subset inReached)
      simp only [succeeded, ne_eq, not_true_eq_false, if_false]
      refine ⟨?_, ?_, ?_⟩
      · rw [slotsEq]
        simp only [reached, starts, if_true]
        exact @applyTo_cons hdl (reached env rest)
          (fun hdl stream => (startStream (env hdl) stream).1)
          notReached keepsHdl slots
      · rw [rcIff]
        simp [starts]
      · simp [reached, starts, reachedEq]
    · have failed : (startStream (env hdl) stream).2 ≠ 0 :=
        fun succeeded => starts (rc.mp succeeded)
      simp only [failed, ne_eq, not_false_eq_true, if_true]
      have alone : reached env (hdl :: rest) = [hdl] := by
        simp [reached, starts]
      have single := @applyTo_cons hdl [] (fun hdl stream => (startStream (env hdl) stream).1)
          (by simp) keepsHdl slots
      rw [applyTo_nil] at single
      rw [alone]
      exact ⟨single, by simp [starts], rfl⟩

theorem undoLoop_reached (env : Nat → StreamEnv) (distinct : hdls.Nodup)
    (slots : List ChannelSlot) :
    undoLoop env hdls slots = applyTo hdls (fun hdl => undoStream (env hdl)) slots := by
  have keepsHdl : ∀ hdl stream, (undoStream (env hdl) stream).myHdl = stream.myHdl := by
    intro hdl stream
    unfold undoStream
    rw [streamFsmFn_myHdl, streamFsmFn_myHdl, streamFsmFn_myHdl]
  induction hdls generalizing slots with
  | nil => exact (applyTo_nil _ slots).symm
  | cons hdl rest inductionHypothesis =>
    obtain ⟨notLater, restDistinct⟩ := List.nodup_cons.mp distinct
    simp only [undoLoop]
    rw [inductionHypothesis restDistinct]
    exact @applyTo_cons hdl rest (fun hdl => undoStream (env hdl)) notLater (keepsHdl hdl) slots

/-- What a failed start leaves of a stream that it has reached. -/
def leftOver (env : Nat → StreamEnv) (hdl : Nat) (stream : MmStream) : MmStream :=
  { stream with
      kernelBufs :=
        if (env hdl).unregisters then 0 else (env hdl).regFlags.length }

theorem applyTo_undo_start (env : Nat → StreamEnv) (hdls : List Nat)
    (ready : ∀ stream, .own stream ∈ slots → stream.Ready) :
    applyTo hdls (fun hdl => undoStream (env hdl)) (applyTo hdls
          (fun hdl stream => (startStream (env hdl) stream).1) slots) =
      applyTo hdls (leftOver env) slots := by
  unfold applyTo
  rw [List.map_map]
  refine List.map_congr_left ?_
  intro slot member
  cases slot with
  | linked linked => rfl
  | own stream =>
    by_cases isReached : stream.myHdl ∈ hdls
    · have undone := undoStream_startStream (env stream.myHdl) (ready stream member)
      have sameHdl := startStream_myHdl (env stream.myHdl) stream
      simp [isReached, sameHdl, undone, leftOver]
    · simp [isReached]

/-! ## The order of the streams -/

theorem startOrder_perm (slots : List ChannelSlot) : (startOrder slots).Perm slots := by
  unfold startOrder
  split
  · rename_i first metadata atFirst atMetadata
    obtain ⟨firstBound, rfl⟩ := List.getElem?_eq_some_iff.mp atFirst
    obtain ⟨metaBound, rfl⟩ := List.getElem?_eq_some_iff.mp atMetadata
    exact List.set_set_perm firstBound metaBound
  · exact List.Perm.refl _

theorem ownHdls_sublist (slots : List ChannelSlot) : (slots.filterMap ChannelSlot.ownHdl?).Sublist
      (slots.map ChannelSlot.myHdl) := by
  induction slots with
  | nil => exact List.Sublist.refl _
  | cons slot rest inductionHypothesis =>
    cases slot with
    | linked linked => exact inductionHypothesis.cons linked.myHdl
    | own stream => exact inductionHypothesis.cons_cons stream.myHdl

/-- The start order has the own handles of the channel. -/
theorem ownOrder_perm (slots : List ChannelSlot) :
    (ownOrder slots).Perm (slots.filterMap ChannelSlot.ownHdl?) :=
  (startOrder_perm slots).filterMap ChannelSlot.ownHdl?

/-! ## Linked slots -/

/-- The linked slots of a channel. -/
def linkedSlots (slots : List ChannelSlot) : List LinkedSlot :=
  slots.filterMap ChannelSlot.linked?

theorem linkedSlots_updateOwn (hdl : Nat) (change : MmStream → MmStream)
    (slots : List ChannelSlot) :
    linkedSlots (updateOwn hdl change slots) = linkedSlots slots := by
  unfold linkedSlots updateOwn
  rw [List.filterMap_map]
  refine List.filterMap_congr ?_
  intro slot _
  cases slot with
  | linked linked => rfl
  | own stream =>
    by_cases here : stream.myHdl = hdl <;>
      simp [here, ChannelSlot.linked?]

theorem linkedSlots_startLoop (env : Nat → StreamEnv) (order : List Nat)
    (slots : List ChannelSlot) :
    linkedSlots (startLoop env order slots).1 = linkedSlots slots := by
  induction order generalizing slots with
  | nil => rfl
  | cons hdl rest inductionHypothesis =>
    simp only [startLoop]
    split
    · exact inductionHypothesis slots
    · split
      · exact linkedSlots_updateOwn _ _ _
      · exact (inductionHypothesis _).trans (linkedSlots_updateOwn _ _ _)

theorem linkedSlots_undoLoop (env : Nat → StreamEnv) (hdls : List Nat) (slots : List ChannelSlot) :
    linkedSlots (undoLoop env hdls slots) = linkedSlots slots := by
  induction hdls generalizing slots with
  | nil => rfl
  | cons hdl rest inductionHypothesis =>
    exact (inductionHypothesis _).trans (linkedSlots_updateOwn _ _ _)

theorem filter_own_of_noLinks (none : linkedSlots slots = []) :
    (slots.filter fun slot => slot.linked?.isNone) = slots := by
  refine List.filter_eq_self.mpr ?_
  intro slot member
  have unlinked := List.filterMap_eq_nil_iff.mp none slot member
  simp [unlinked]

theorem linkedSlots_filter_own (slots : List ChannelSlot) :
    linkedSlots (slots.filter fun slot => slot.linked?.isNone) = [] := by
  refine List.filterMap_eq_nil_iff.mpr ?_
  intro slot member
  simpa using (List.mem_filter.mp member).2

theorem filter_own_applyTo (hdls : List Nat) (change : Nat → MmStream → MmStream)
    (slots : List ChannelSlot) :
    ((applyTo hdls change slots).filter fun slot => slot.linked?.isNone) = applyTo hdls change
        (slots.filter fun slot => slot.linked?.isNone) := by
  unfold applyTo
  rw [List.filter_map]
  congr 1
  refine List.filter_congr ?_
  intro slot _
  cases slot with
  | linked linked => rfl
  | own stream =>
    by_cases isReached : stream.myHdl ∈ hdls <;>
      simp [isReached, ChannelSlot.linked?]

/-! ## The whole call -/

/--
A stopped channel as configuration leaves it: distinct handles, own streams
configured and without buffers, and nothing bundled without a callback.
-/
structure StartChannel.Configured (ch : StartChannel) : Prop where
  distinct : (ch.slots.map ChannelSlot.myHdl).Nodup
  ready : ∀ stream, .own stream ∈ ch.slots → stream.Ready
  notBundled : ch.bundle.superBufNotifyCb = none →
      ∀ stream, .own stream ∈ ch.slots → stream.isBundled = false
  notActive : ch.bundle.superBufNotifyCb = none → ch.bundle.isActive = false

/-- What the superbuf queue holds when the error handling starts. -/
def queuedSuperbufs (env : StartEnv) (ch : StartChannel) : List SuperbufNode :=
  if ch.bundle.superBufNotifyCb.isSome then env.queued else []

/-- Nothing of a failed start is left, and the next start finds what it did. -/
structure RolledBack (env : StartEnv) (before : StartChannel)
    (result : StartChannel × Int × List ChannelOutput) : Prop where
  ownHdls : result.1.slots.filterMap ChannelSlot.ownHdl? =
      before.slots.filterMap ChannelSlot.ownHdl?
  own : ∀ stream, .own stream ∈ result.1.slots →
      stream.state = .cfg ∧ stream.buf = none ∧ stream.kernelBufs = 0 ∧ stream.isBundled = false
  unlinked : ∀ linked ∈ linkedSlots before.slots, ∀ source ∈ result.1.sources,
      source.myHdl = linked.myHdl → source.isLinked = false
  givenBack : ∀ superBuf ∈ queuedSuperbufs env before, ∀ buf ∈ superBuf.bufs, .qbuf buf ∈ result.2.2
  attr : result.1.bundle.superbufQueue.attr = before.bundle.superbufQueue.attr
  superBufNotifyCb : result.1.bundle.superBufNotifyCb = before.bundle.superBufNotifyCb
  again : ∀ next : StartEnv, channelStart next result.1 = channelStart next before

section WholeCall

variable {env : StartEnv} {ch : StartChannel}

theorem Configured.startLoop (env : StartEnv) (configured : ch.Configured) :
    (startLoop env.stream (ownOrder ch.slots) ch.slots).1 =
        applyTo (reached env.stream (ownOrder ch.slots))
          (fun hdl stream => (startStream (env.stream hdl) stream).1)
          ch.slots ∧
      ((ChannelStart.startLoop env.stream (ownOrder ch.slots) ch.slots).2.1 = 0 ↔
        ∀ hdl ∈ ownOrder ch.slots, (env.stream hdl).starts = true) ∧
      (ChannelStart.startLoop env.stream (ownOrder ch.slots)
        ch.slots).2.2 = reached env.stream (ownOrder ch.slots) := by
  have order := ownOrder_perm ch.slots
  refine startLoop_reached env.stream ?_ ?_ ?_
  · exact order.nodup_iff.mpr ((ownHdls_sublist ch.slots).nodup configured.distinct)
  · intro hdl member
    exact order.mem_iff.mp member
  · intro stream member _
    exact configured.ready stream member

theorem channelStart_forgetsBundle (callback : ch.bundle.superBufNotifyCb.isSome = true)
    (failed : (channelStart env ch).2.1 ≠ 0) :
    (channelStart env ch).1.bundle = Bundle.zero := by
  unfold channelStart at failed ⊢
  dsimp only at failed ⊢
  split at failed
  · rename_i rcFailed
    rw [if_pos rcFailed]
    simp [undoStart, setLinks, prepareStart, callback, setUpBundle]
  · rename_i rcFailed
    exact absurd failed rcFailed

theorem channelStart_dropsLinks (failed : (channelStart env ch).2.1 ≠ 0) :
    linkedSlots (channelStart env ch).1.slots = [] := by
  unfold channelStart at failed ⊢
  dsimp only at failed ⊢
  split at failed
  · rename_i rcFailed
    rw [if_pos rcFailed]
    unfold undoStart
    dsimp only
    split <;>
      exact (linkedSlots_undoLoop _ _ _).trans (linkedSlots_filter_own _)
  · rename_i rcFailed
    exact absurd failed rcFailed

theorem channelStart_keepsLinks (noCallback : ch.bundle.superBufNotifyCb = none)
    (succeeded : (channelStart env ch).2.1 = 0) :
    linkedSlots (channelStart env ch).1.slots = linkedSlots ch.slots := by
  unfold channelStart at succeeded ⊢
  dsimp only at succeeded ⊢
  split at succeeded
  · rename_i rcFailed
    exact absurd succeeded rcFailed
  · rename_i rcFine
    rw [if_neg rcFine]
    simp only [prepareStart, noCallback, Option.isSome_none, Bool.false_eq_true, if_false]
    exact linkedSlots_startLoop _ _ _

theorem channelStart_noLinks (env : StartEnv) (noCallback : ch.bundle.superBufNotifyCb = none)
    (none : linkedSlots ch.slots = []) :
    linkedSlots (channelStart env ch).1.slots = [] := by
  by_cases succeeded : (channelStart env ch).2.1 = 0
  · rw [channelStart_keepsLinks noCallback succeeded, none]
  · exact channelStart_dropsLinks succeeded

theorem channelStart_failed_slots (configured : ch.Configured)
    (noCallback : ch.bundle.superBufNotifyCb = none)
    (failed : (channelStart env ch).2.1 ≠ 0) :
    (channelStart env ch).1.slots = applyTo (reached env.stream (ownOrder ch.slots))
        (leftOver env.stream)
        (ch.slots.filter fun slot => slot.linked?.isNone) := by
  obtain ⟨slotsEq, _, reachedEq⟩ := Configured.startLoop env configured
  have inactive := configured.notActive noCallback
  have distinct : (reached env.stream (ownOrder ch.slots)).Nodup := by
    refine (reached_sublist _ _).nodup ((ownOrder_perm ch.slots).nodup_iff.mpr ?_)
    exact (ownHdls_sublist ch.slots).nodup configured.distinct
  unfold channelStart at failed ⊢
  simp only [prepareStart, noCallback, Option.isSome_none, Bool.false_eq_true, if_false] at failed ⊢
  split at failed
  · rename_i rcFailed
    rw [if_pos rcFailed]
    simp only [undoStart, setLinks, inactive, Bool.false_eq_true, if_false]
    rw [slotsEq, reachedEq, filter_own_applyTo, undoLoop_reached env.stream distinct]
    refine applyTo_undo_start env.stream _ ?_
    intro stream member
    exact configured.ready stream (List.mem_filter.mp member).1
  · rename_i rcFailed
    exact absurd failed rcFailed

private theorem setLinks_of_noLinks {current : StartChannel} (isLinked : Bool)
    (linkedObj : Option Nat) (none : linkedSlots current.slots = []) :
    setLinks isLinked linkedObj current = current := by
  unfold linkedSlots at none
  simp [setLinks, none]

theorem channelStart_failed_rest (configured : ch.Configured)
    (noCallback : ch.bundle.superBufNotifyCb = none) (none : linkedSlots ch.slots = [])
    (failed : (channelStart env ch).2.1 ≠ 0) :
    (channelStart env ch).1 = { ch with
            slots := (channelStart env ch).1.slots
            bWaitForPrepSnapshotDone := false } ∧
      (channelStart env ch).2.2 = [] := by
  have inactive := configured.notActive noCallback
  have prepared : prepareStart ch = ch := by
    simp [prepareStart, noCallback, setLinks_of_noLinks _ _ none]
  have stillNone : linkedSlots (startLoop env.stream (ownOrder ch.slots) ch.slots).1 = [] :=
    (linkedSlots_startLoop _ _ _).trans none
  unfold channelStart at failed ⊢
  simp only [prepared] at failed ⊢
  split at failed
  · rename_i rcFailed
    simp only [if_pos rcFailed, undoStart, inactive, Bool.false_eq_true, if_false]
    rw [setLinks_of_noLinks _ _ stillNone]
    exact ⟨rfl, trivial⟩
  · rename_i rcFailed
    exact absurd failed rcFailed

theorem channelStart_waitFlag (env : StartEnv) (ch : StartChannel) (flag : Bool) :
    channelStart env { ch with bWaitForPrepSnapshotDone := flag } =
      channelStart env ch := by
  cases callback : ch.bundle.superBufNotifyCb.isSome with
  | false =>
    simp only [channelStart, prepareStart, callback, setLinks, undoStart,
      Bool.false_eq_true, if_false]
    cases ch.bundle.isActive <;> rfl
  | true =>
    simp only [channelStart, prepareStart, callback, setLinks, setUpBundle, undoStart, if_true]
    rfl

/-- An environment in which every stream starts without buffers. -/
def successEnv : StartEnv where
  stream := fun _ => {
    getBufsRc := 0
    regFlags := []
    statusMemory := true
    requestBufRc := 0
    qbufRc := fun _ => 0
    streamOnRc := 0
    streamOffRc := 0
    unregBufRc := 0
    putBufsRc := 0 }
  queued := []

theorem channelStart_success (configured : ch.Configured)
    (noCallback : ch.bundle.superBufNotifyCb = none) :
    (channelStart successEnv ch).2.1 = 0 := by
  obtain ⟨_, rcIff, _⟩ := Configured.startLoop successEnv configured
  have succeeded := rcIff.mpr fun _ _ => rfl
  unfold channelStart
  simp only [prepareStart, noCallback, Option.isSome_none, Bool.false_eq_true, if_false]
  rw [if_neg (by simpa [setLinks] using succeeded)]
  exact succeeded

theorem applyTo_leftOver (ready : ∀ stream, .own stream ∈ slots → stream.Ready)
    (unregister : ∀ hdl ∈ hdls, (env.stream hdl).unregisters = true) :
    applyTo hdls (leftOver env.stream) slots = slots := by
  have same : ∀ slot ∈ slots, (match slot with
          | .own stream =>
            if stream.myHdl ∈ hdls then
              ChannelSlot.own (leftOver env.stream stream.myHdl stream)
            else
              .own stream
          | .linked linked => .linked linked) = id slot := by
    intro slot member
    cases slot with
    | linked linked => rfl
    | own stream =>
      by_cases isReached : stream.myHdl ∈ hdls
      · have registered := (ready stream member).kernelBufs
        simp only [isReached, if_true, leftOver, unregister stream.myHdl isReached, id_eq,
          ChannelSlot.own.injEq]
        rw [← registered]
      · simp [isReached]
  unfold applyTo
  rw [List.map_congr_left same, List.map_id]

end WholeCall

/--
A failed start of a configured channel leaves nothing behind exactly when the
channel has no superbuf callback and no linked stream, and every stream that
the start reached can be unregistered.
-/
theorem channelStart_rolledBack_iff {env : StartEnv} {ch : StartChannel}
    (configured : ch.Configured) (failed : (channelStart env ch).2.1 ≠ 0) :
    RolledBack env ch (channelStart env ch) ↔ ch.bundle.superBufNotifyCb = none ∧
        linkedSlots ch.slots = [] ∧
        ∀ hdl ∈ reached env.stream (ownOrder ch.slots), (env.stream hdl).unregisters = true := by
  constructor
  · intro rolledBack
    have noCallback : ch.bundle.superBufNotifyCb = none := by
      by_contra callback
      have isSome := Option.isSome_iff_ne_none.mpr callback
      have forgotten := channelStart_forgetsBundle isSome failed
      have kept := rolledBack.superBufNotifyCb
      rw [forgotten] at kept
      exact callback kept.symm
    refine ⟨noCallback, ?_, ?_⟩
    · -- a start in which nothing fails shows whether the links are there
      have again := rolledBack.again successEnv
      have kept := channelStart_keepsLinks noCallback (channelStart_success configured noCallback)
      have noCallbackAfter : (channelStart env ch).1.bundle.superBufNotifyCb = none :=
        rolledBack.superBufNotifyCb.trans noCallback
      have lost := channelStart_noLinks successEnv noCallbackAfter (channelStart_dropsLinks failed)
      rw [again, kept] at lost
      exact lost
    · intro hdl isReached
      by_contra registered
      have inOrder := (reached_sublist _ _).subset isReached
      have isOwn := (ownOrder_perm ch.slots).mem_iff.mp inOrder
      obtain ⟨slot, member, ofHdl⟩ := List.mem_filterMap.mp isOwn
      cases slot with
      | linked linked => simp [ChannelSlot.ownHdl?] at ofHdl
      | own stream =>
        simp only [ChannelSlot.ownHdl?, Option.some.injEq] at ofHdl
        have left : ChannelSlot.own (leftOver env.stream hdl stream) ∈
              (channelStart env ch).1.slots := by
          rw [channelStart_failed_slots configured noCallback failed]
          refine List.mem_map.mpr ⟨.own stream, ?_, ?_⟩
          · exact List.mem_filter.mpr ⟨member, rfl⟩
          · simp [ofHdl, isReached]
        have none := (rolledBack.own _ left).2.2.1
        simp only [leftOver, registered, if_false, List.length_eq_zero_iff] at none
        simp [StreamEnv.unregisters, none] at registered
  · rintro ⟨noCallback, noLinks, unregister⟩
    have slots : (channelStart env ch).1.slots = ch.slots := by
      rw [channelStart_failed_slots configured noCallback failed, filter_own_of_noLinks noLinks]
      exact applyTo_leftOver configured.ready unregister
    obtain ⟨rest, outputs⟩ := channelStart_failed_rest configured noCallback noLinks failed
    rw [slots] at rest
    refine ⟨by rw [slots], ?_, ?_, ?_, by rw [rest], by rw [rest], ?_⟩
    · intro stream member
      rw [slots] at member
      have ready := configured.ready stream member
      exact ⟨ready.state, ready.buf, ready.kernelBufs,
        configured.notBundled noCallback stream member⟩
    · intro linked member
      simp [noLinks] at member
    · intro superBuf member
      simp [queuedSuperbufs, noCallback] at member
    · intro next
      rw [rest]
      exact channelStart_waitFlag next ch false

/-! ## Two channels -/

/-- A configured own stream. -/
def configuredStream (hdl : Nat) (streamType : Superbuf.CamStreamType) : MmStream where
  myHdl := hdl
  state := .cfg
  streamType := streamType
  noFrameExpected := false
  isBundled := false
  hasBufCb := true
  cmdThread := false
  buf := none
  kernelBufs := 0

/-- A preview and a metadata stream, with or without a superbuf callback. -/
def twoStreamChannel (callback : Option Nat) : StartChannel where
  myHdl := 9
  slots :=
    [.own (configuredStream 1 .preview), .own (configuredStream 2 .metadata)]
  sources := []
  bundle := { Bundle.zero with
    superbufQueue := { Bundle.zero.superbufQueue with
      attr := { Bundle.zero.superbufQueue.attr with
        waterMark := 2
        postFrameSkip := 1 } }
    superBufNotifyCb := callback
    userData := 3 }
  cmdThread := false
  cbThread := false
  bWaitForPrepSnapshotDone := false

/-- The preview stream gets and registers two buffers but does not start. -/
def previewFails : StartEnv where
  stream := fun hdl => {
    getBufsRc := 0
    regFlags := [true, false]
    statusMemory := true
    requestBufRc := 0
    qbufRc := fun _ => 0
    streamOnRc := if hdl = 1 then -5 else 0
    streamOffRc := 0
    unregBufRc := 0
    putBufsRc := 0 }
  queued := []

theorem twoStreamChannel_configured (callback : Option Nat) :
    (twoStreamChannel callback).Configured where
  distinct := by
    simp only [twoStreamChannel]
    decide
  ready := by
    intro stream member
    simp only [twoStreamChannel, List.mem_cons, ChannelSlot.own.injEq,
      List.not_mem_nil, or_false] at member
    rcases member with rfl | rfl <;> exact ⟨rfl, rfl, rfl, rfl⟩
  notBundled := by
    intro _ stream member
    simp only [twoStreamChannel, List.mem_cons, ChannelSlot.own.injEq,
      List.not_mem_nil, or_false] at member
    rcases member with rfl | rfl <;> rfl
  notActive := fun _ => rfl

/-- Without a callback the failed start of the preview stream is undone. -/
theorem channelStart_rolledBack_plain :
    (channelStart previewFails (twoStreamChannel none)).2.1 = -5 ∧
      RolledBack previewFails (twoStreamChannel none)
        (channelStart previewFails (twoStreamChannel none)) := by
  refine ⟨by decide, ?_⟩
  exact (channelStart_rolledBack_iff (twoStreamChannel_configured none)
    (by decide)).mpr ⟨rfl, rfl, by decide⟩

/-- With a callback the same failure forgets the callback and the attributes. -/
theorem channelStart_losesCallback : (twoStreamChannel (some 4)).Configured ∧
      (channelStart previewFails (twoStreamChannel (some 4))).2.1 = -5 ∧
      (channelStart previewFails (twoStreamChannel (some 4))).1.bundle.superBufNotifyCb = none ∧
      ¬ RolledBack previewFails (twoStreamChannel (some 4))
        (channelStart previewFails (twoStreamChannel (some 4))) := by
  refine ⟨twoStreamChannel_configured _, by decide, by decide, ?_⟩
  intro rolledBack
  have kept := rolledBack.superBufNotifyCb
  revert kept
  decide

end AnglerHal.ChannelStart
