import AnglerHal.LabelledRun

namespace AnglerHal.Superbuf

/-!
# The superbuf queue of a bundle

This module embeds the bundling part of `mm_camera_channel.c`: buffers of the
bundled streams arrive one by one, are collected into superbufs by frame id,
and leave the queue either to the application (`superbufDequeue`) or back to
the kernel (`mm_channel_qbuf`).

List nodes carry an allocation number, so that the pointers `pos`, `last_buf`
and `insert_before_buf` of the source are node numbers here.  Frame ids are
`uint32_t` values; sums of the source are taken modulo `2 ^ 32`.
-/

/-- `cam_stream_type_t`. -/
inductive CamStreamType where
  | default
  | preview
  | postview
  | snapshot
  | video
  | callback
  | implDefined
  | metadata
  | raw
  | offlineProc
  | parm
  | analysis
  deriving DecidableEq

/-- `cam_prep_snapshot_state_t`. -/
inductive PrepSnapshotState where
  | doNotNeedFutureFrame
  | needFutureFrame
  deriving DecidableEq

/-- `cam_frame_idx_range_t`. -/
structure FrameIdxRange where
  minFrameIdx : Nat
  maxFrameIdx : Nat
  numLedOnFrames : Nat
  frameSkipCount : Nat
  configBatchIdx : Nat
  deriving DecidableEq

/-- The fields of one `cam_stream_crop_info_t` that the bundle reads. -/
structure StreamCropInfo where
  streamId : Nat
  left : Int
  top : Int
  deriving DecidableEq

/-- The entries of a `metadata_buffer_t` that the bundle reads, if valid. -/
structure Metadata where
  prepSnapshotDone : Option PrepSnapshotState
  goodFrameIdxRange : Option FrameIdxRange
  cropData : Option (List StreamCropInfo)
  bufDivertFrameId : Option Nat
  deriving DecidableEq

/-- `mm_camera_buf_def_t`: the buffer's identity, type and mapped content. -/
structure BufDef where
  handle : Nat
  streamType : CamStreamType
  buffer : Option Metadata
  deriving DecidableEq

/-- The `mm_camera_buf_info_t` of an arriving buffer. -/
structure BufInfo where
  streamId : Nat
  frameIdx : Nat
  buf : BufDef
  deriving DecidableEq

/-- An `mm_camera_buf_info_t` inside a superbuf; zeroed while empty. -/
structure Slot where
  streamId : Nat
  frameIdx : Nat
  buf : Option BufDef
  deriving DecidableEq

/-- A slot as `memset` leaves it. -/
def Slot.empty : Slot where
  streamId := 0
  frameIdx := 0
  buf := none

/-- The slot value written by `super_buf[i] = *buf_info`. -/
def BufInfo.toSlot (info : BufInfo) : Slot where
  streamId := info.streamId
  frameIdx := info.frameIdx
  buf := some info.buf

/-- `mm_channel_queue_node_t` together with the list node that holds it. -/
structure SuperbufNode where
  node : Nat
  superBuf : List Slot
  matched : Bool
  expected : Bool
  frameIdx : Nat
  deriving DecidableEq

/-- `mm_camera_super_buf_notify_mode_t`. -/
inductive NotifyMode where
  | burst
  | continuous
  deriving DecidableEq

/-- `mm_camera_super_buf_priority_t`. -/
inductive Priority where
  | normal
  | focus
  | exposureBracketing
  | low
  deriving DecidableEq

/-- `mm_camera_channel_attr_t`. -/
structure ChannelAttr where
  notifyMode : NotifyMode
  waterMark : UInt8
  lookBack : UInt8
  postFrameSkip : UInt8
  maxUnmatchedFrames : UInt8
  priority : Priority
  deriving DecidableEq

/-- `mm_channel_queue_t`; `num_streams` is the length of `bundledStreams`. -/
structure ChannelQueue where
  que : List SuperbufNode
  size : Nat
  bundledStreams : List Nat
  attr : ChannelAttr
  expectedFrameId : Nat
  matchCnt : Nat
  expectedFrameIdWithoutLed : Nat
  ledOnStartFrameId : Nat
  ledOffStartFrameId : Nat
  ledOnNumFrames : Nat
  once : Bool
  frameSkipCount : Nat
  nomatchFrameId : Nat
  deriving DecidableEq

/-- `mm_channel_bracketing_state_t`. -/
inductive BracketingState where
  | off
  | waitGoodFrameIdx
  | active
  deriving DecidableEq

/-- The fields of an `mm_stream_t` in use that the bundle reads. -/
structure StreamObj where
  myHdl : Nat
  serverStreamId : Nat
  streamType : Option CamStreamType
  ownedByChannel : Bool
  deriving DecidableEq

/-- `cam_capture_frame_config_t`: the frames still wanted of each batch. -/
structure CaptureFrameConfig where
  numBatch : Nat
  numFrames : List Nat
  deriving DecidableEq

/-- The part of `mm_channel_t` that the bundling code reads and writes. -/
structure Channel where
  queue : ChannelQueue
  streams : List StreamObj
  bWaitForPrepSnapshotDone : Bool
  stopZslSnapshot : Bool
  needLEDFlash : Bool
  bracketingState : BracketingState
  isFlashBracketingEnabled : Bool
  isZoom1xFrameRequested : Bool
  burstSnapNum : Nat
  divertedFrameId : Nat
  curCaptureIdx : Nat
  frameConfig : Option CaptureFrameConfig
  nextNode : Nat
  deriving DecidableEq

/-- What the bundle does to the outside world, in call order. -/
inductive ChannelOutput where
  | qbuf (buf : BufDef)
  | freeNode (node : Nat)
  | superbuf (superBuf : SuperbufNode)
  deriving DecidableEq

/-- `2 ^ 32`, the number of `uint32_t` values. -/
def uint32Size : Nat :=
  4294967296

/-- The buffers that a loop testing `super_buf[i].frame_idx` queues back. -/
def SuperbufNode.bufsByFrameIdx (superBuf : SuperbufNode) : List BufDef :=
  superBuf.superBuf.filterMap fun slot =>
    if slot.frameIdx ≠ 0 then slot.buf else none

/-- The buffers that a loop testing `super_buf[i].buf` queues back. -/
def SuperbufNode.bufs (superBuf : SuperbufNode) : List BufDef :=
  superBuf.superBuf.filterMap Slot.buf

/-- Queue the buffers of an unlinked node back and free the node. -/
def SuperbufNode.release (superBuf : SuperbufNode) : List ChannelOutput :=
  superBuf.bufsByFrameIdx.map ChannelOutput.qbuf ++ [.freeNode superBuf.node]

/-! ## Dequeue, overflow, skip and flush -/

/--
`mm_channel_superbuf_dequeue_internal`: unlink the head, unless only a matched
superbuf is wanted and the head is not matched.
-/
def superbufDequeueInternal (matchedOnly : Bool) (ch : Channel) : Channel × Option SuperbufNode :=
  match ch.queue.que with
  | [] => (ch, none)
  | superBuf :: rest =>
    if matchedOnly && !superBuf.matched then
      (ch, none)
    else
      ({ ch with
          queue := { ch.queue with
            que := rest
            size := ch.queue.size - 1
            matchCnt :=
              if superBuf.matched then
                ch.queue.matchCnt - 1
              else
                ch.queue.matchCnt } },
        some superBuf)

/-- `mm_channel_superbuf_dequeue`. -/
def superbufDequeue (ch : Channel) : Channel × List ChannelOutput :=
  match superbufDequeueInternal true ch with
  | (next, none) => (next, [])
  | (next, some superBuf) => (next, [.freeNode superBuf.node, .superbuf superBuf])

/-- Buf-done of a dequeued superbuf, restricted to one stream type or not. -/
def bufDone (camType : CamStreamType) (superBuf : SuperbufNode) : List ChannelOutput :=
  .freeNode superBuf.node :: (superBuf.bufs.filter fun buf =>
      camType == .default || camType == buf.streamType).map ChannelOutput.qbuf

/-- One iteration of the loops of overflow and skip. -/
def dropMatched (ch : Channel) : Channel × List ChannelOutput :=
  match superbufDequeueInternal true ch with
  | (next, none) => (next, [])
  | (next, some superBuf) => (next, bufDone .default superBuf)

/--
The loop `while (queue->match_cnt > limit)`, stopped after `iterations` rounds
at the latest.
-/
def dropMatchedAbove (limit : Nat) : Nat → Channel → Channel × List ChannelOutput
  | 0, ch => (ch, [])
  | iterations + 1, ch =>
    if limit < ch.queue.matchCnt then
      let (next, released) := dropMatched ch
      let (final, later) := dropMatchedAbove limit iterations next
      (final, released ++ later)
    else
      (ch, [])

/--
`mm_channel_superbuf_bufdone_overflow`, observed after `iterations` rounds of
its loop, or after its end when the loop needs fewer.
-/
def superbufBufdoneOverflow (iterations : Nat) (ch : Channel) : Channel × List ChannelOutput :=
  if ch.queue.attr.notifyMode = .continuous then
    (ch, [])
  else
    dropMatchedAbove ch.queue.attr.waterMark.toNat iterations ch

/-- `mm_channel_superbuf_skip`, observed after `iterations` rounds. -/
def superbufSkip (iterations : Nat) (ch : Channel) : Channel × List ChannelOutput :=
  if ch.queue.attr.notifyMode = .continuous then
    (ch, [])
  else
    dropMatchedAbove ch.queue.attr.lookBack.toNat iterations ch

/--
The loop `while (super_buf != NULL)` of the two flush functions.  Every round
unlinks one node, so the length of the list bounds the rounds.
-/
def flushLoop (matchedOnly : Bool) (camType : CamStreamType) :
    Nat → Channel → Channel × List ChannelOutput
  | 0, ch => (ch, [])
  | rounds + 1, ch =>
    match superbufDequeueInternal matchedOnly ch with
    | (next, none) => (next, [])
    | (next, some superBuf) =>
      let (final, later) := flushLoop matchedOnly camType rounds next
      (final, bufDone camType superBuf ++ later)

/-- `mm_channel_superbuf_flush`. -/
def superbufFlush (camType : CamStreamType) (ch : Channel) : Channel × List ChannelOutput :=
  flushLoop false camType ch.queue.que.length ch

/-- `mm_channel_superbuf_flush_matched`. -/
def superbufFlushMatched (ch : Channel) : Channel × List ChannelOutput :=
  flushLoop true .default ch.queue.que.length ch

/-! ## Frame matching logic driven by metadata -/

/-- `mm_channel_util_seq_comp_w_rollover`. -/
def utilSeqCompWRollover (v1 v2 : Nat) : Int :=
  if v1 > v2 then
    1
  else if v1 < v2 then
    -1
  else
    0

/-- `mm_channel_util_get_stream_by_handler`. -/
def utilGetStreamByHandler (ch : Channel) (handler : Nat) : Option StreamObj :=
  ch.streams.find? fun stream => stream.myHdl == handler

/-- `max_future_frame_offset`. -/
def maxFutureFrameOffset : Nat :=
  100

/-- Set `queue->expected_frame_id`. -/
def Channel.setExpectedFrameId (ch : Channel) (frameId : Nat) : Channel :=
  { ch with queue := { ch.queue with
      expectedFrameId := frameId % uint32Size } }

/-- `queue->expected_frame_id += max_future_frame_offset`. -/
def Channel.expectFutureFrame (ch : Channel) : Channel :=
  ch.setExpectedFrameId (ch.queue.expectedFrameId + maxFutureFrameOffset)

/-- The server id of the snapshot stream, `0` when there is none. -/
def snapshotStreamId (ch : Channel) : Nat :=
  match ch.streams.find? fun stream =>
      stream.streamType == some .snapshot with
  | some stream => stream.serverStreamId
  | none => 0

/-- `is_crop_1x_found`. -/
def isCrop1xFound (ch : Channel) (metadata : Metadata) : Bool :=
  match metadata.cropData with
  | none => false
  | some cropInfo =>
    cropInfo.any fun crop =>
      snapshotStreamId ch == crop.streamId && crop.left == 0 && crop.top == 0

/-- Remember a diverted frame; the field keeps the low byte of the id. -/
def noteDivertInfo (info : BufInfo) (metadata : Metadata) (ch : Channel) : Channel :=
  match metadata.bufDivertFrameId with
  | none => ch
  | some frameId =>
    if frameId ≥ info.frameIdx then
      { ch with divertedFrameId := frameId % 256 }
    else
      { ch with divertedFrameId := 0 }

/-- The `is_prep_snapshot_done_valid` branch. -/
def handlePrepSnapshotDone (metadata : Metadata) (ch : Channel) : Channel × List ChannelOutput :=
  match metadata.prepSnapshotDone with
  | none => (ch, [])
  | some .needFutureFrame =>
    let (flushed, released) :=
      superbufFlush .default { ch with bWaitForPrepSnapshotDone := false }.expectFutureFrame
    ({ flushed with needLEDFlash := true }, released)
  | some .doNotNeedFutureFrame =>
    ({ ch with
        bWaitForPrepSnapshotDone := false
        needLEDFlash := false }, [])

/-- The first use of the good frame range, or the wait for one. -/
def handleGoodFrameIdxRange (metadata : Metadata) (ch : Channel) : Channel × List ChannelOutput :=
  match metadata.goodFrameIdxRange with
  | some range =>
    let expecting := ch.setExpectedFrameId range.minFrameIdx
    if ch.needLEDFlash ∧ 1 < ch.burstSnapNum then
      ({ expecting with
          queue := { expecting.queue with
            ledOnStartFrameId := range.minFrameIdx
            ledOffStartFrameId := range.maxFrameIdx
            once := false
            ledOnNumFrames := range.numLedOnFrames
            frameSkipCount := range.frameSkipCount } }, [])
    else
      (expecting, [])
  | none =>
    if ch.bracketingState = .waitGoodFrameIdx ∧ metadata.prepSnapshotDone = none then
      let (flushed, released) := superbufFlushMatched ch
      (flushed.expectFutureFrame, released)
    else
      (ch, [])

/-- The second use of the good frame range: flash or exposure bracketing. -/
def applyBracketing (metadata : Metadata) (ch : Channel) : Channel :=
  match metadata.goodFrameIdxRange with
  | none => ch
  | some range =>
    let expecting := ch.setExpectedFrameId range.minFrameIdx
    if ch.isFlashBracketingEnabled then
      { expecting with
          queue := { expecting.queue with
            expectedFrameIdWithoutLed := range.maxFrameIdx } }
    else
      { expecting with bracketingState := .active }

/-- The third use of the good frame range: a frame capture configuration. -/
def applyFrameConfig (metadata : Metadata) (ch : Channel) : Channel :=
  match ch.frameConfig, metadata.goodFrameIdxRange with
  | some config, some range =>
    if range.configBatchIdx < config.numBatch then
      { ch.setExpectedFrameId range.minFrameIdx with
          curCaptureIdx := range.configBatchIdx % 256 }
    else
      ch
  | _, _ => ch

/-- The end of an LED burst: skip to a good frame without LED. -/
def applyLedOff (info : BufInfo) (ch : Channel) : Channel :=
  if 1 < ch.burstSnapNum ∧ ch.needLEDFlash ∧ ¬ ch.isFlashBracketingEnabled ∧
      ch.bracketingState = .off ∧ ch.frameConfig = none ∧
      ch.queue.ledOffStartFrameId ≤ info.frameIdx ∧
      ¬ ch.queue.once then
    let expecting := ch.setExpectedFrameId (ch.queue.ledOffStartFrameId + ch.queue.frameSkipCount)
    { expecting with
        queue := { expecting.queue with once := true }
        stopZslSnapshot := true
        needLEDFlash := false }
  else
    ch

/-- The zoom branch of `mm_channel_handle_metadata`, which ends it. -/
def handleZoom1x (info : BufInfo) (metadata : Metadata) (ch : Channel) :
    Channel × List ChannelOutput :=
  if isCrop1xFound ch metadata then
    ({ ch with isZoom1xFrameRequested := false }.setExpectedFrameId (info.frameIdx + 1), [])
  else
    superbufFlushMatched ch.expectFutureFrame

/-- `mm_channel_handle_metadata` once the metadata buffer is known. -/
def applyMetadata (info : BufInfo) (metadata : Metadata) (ch : Channel) :
    Channel × List ChannelOutput :=
  let diverted := noteDivertInfo info metadata ch
  if diverted.isZoom1xFrameRequested then
    handleZoom1x info metadata diverted
  else
    let (prepared, flushed) := handlePrepSnapshotDone metadata diverted
    let (ranged, dropped) := handleGoodFrameIdxRange metadata prepared
    let bracketed := applyBracketing metadata ranged
    let configured := applyFrameConfig metadata bracketed
    (applyLedOff info configured, flushed ++ dropped)

/--
`mm_channel_handle_metadata`; `none` stands for its return value `-1`, which
it gives before changing anything.
-/
def handleMetadata (ch : Channel) (info : BufInfo) : Option (Channel × List ChannelOutput) :=
  match utilGetStreamByHandler ch info.streamId with
  | none => none
  | some stream =>
    match stream.streamType with
    | none => none
    | some streamType =>
      if streamType = .metadata ∧ stream.ownedByChannel then
        match info.buf.buffer with
        | none => none
        | some metadata => some (applyMetadata info metadata ch)
      else
        some (ch, [])

/-! ## Compare and enqueue -/

/-- The variables of the scan over the queue. -/
structure ScanState where
  unmatchedBundles : Nat
  lastBuf : Option Nat
  insertBeforeBuf : Option Nat
  foundSuperBuf : Option Nat
  deriving DecidableEq

/-- The scan variables before the first node is looked at. -/
def ScanState.initial : ScanState where
  unmatchedBundles := 0
  lastBuf := none
  insertBeforeBuf := none
  foundSuperBuf := none

/-- The slot of an index; indices below `num_of_bufs` are the only ones used. -/
def SuperbufNode.slot (superBuf : SuperbufNode) (index : Nat) : Slot :=
  superBuf.superBuf.getD index Slot.empty

/-- The three ways an unmatched superbuf can take the arriving buffer. -/
def takesBuffer (queue : ChannelQueue) (info : BufInfo) (bufSIdx : Nat)
    (superBuf : SuperbufNode) : Bool :=
  info.frameIdx == superBuf.frameIdx ||
    -- metadata no older than the image frame that waits for it
    (queue.nomatchFrameId != 0 && queue.nomatchFrameId ≤ info.frameIdx &&
      (superBuf.slot bufSIdx).frameIdx == 0 &&
      info.buf.streamType == .metadata) ||
    -- low priority: an image frame joins a later metadata frame
    (queue.attr.priority == .low && info.buf.streamType != .metadata &&
      (superBuf.slot bufSIdx).frameIdx == 0 &&
      info.frameIdx < superBuf.frameIdx)

/-- The loop over the list; `unmatched_bundles` is a `uint8_t`. -/
def scan
    (queue : ChannelQueue)
    (info : BufInfo)
    (bufSIdx : Nat) :
    ScanState → List SuperbufNode → ScanState
  | state, [] =>
    state
  | state, superBuf :: rest =>
    if superBuf.matched then
      scan queue info bufSIdx state rest
    else if takesBuffer queue info bufSIdx superBuf then
      { state with foundSuperBuf := some superBuf.node }
    else
      scan queue info bufSIdx
        { unmatchedBundles := (state.unmatchedBundles + 1) % 256
          lastBuf :=
            if state.lastBuf = none ∧
                superBuf.frameIdx < info.frameIdx then
              some superBuf.node
            else
              state.lastBuf
          insertBeforeBuf :=
            if state.insertBeforeBuf = none ∧
                info.frameIdx < superBuf.frameIdx then
              some superBuf.node
            else
              state.insertBeforeBuf
          foundSuperBuf := none }
        rest

/-- Insert the buffer into its slot and recompute `matched`. -/
def SuperbufNode.insertBuf (superBuf : SuperbufNode) (bufSIdx : Nat)
    (info : BufInfo) : SuperbufNode :=
  let superBufs := superBuf.superBuf.set bufSIdx info.toSlot
  { superBuf with
      superBuf := superBufs
      matched := superBufs.all fun slot => slot.frameIdx != 0 }

/-- Overwrite the superbuf held by one list node. -/
def updateNode (node : Nat) (superBuf : SuperbufNode)
    (que : List SuperbufNode) : List SuperbufNode :=
  que.map fun current =>
    if current.node = node then superBuf else current

/-- From `last_buf` on, release every node up to `pos`. -/
def releaseUntil (pos : Nat) : List SuperbufNode → List SuperbufNode × List SuperbufNode
  | [] => ([], [])
  | superBuf :: rest =>
    if superBuf.node = pos then
      (superBuf :: rest, [])
    else
      let (kept, released) := releaseUntil pos rest
      (kept, superBuf :: released)

/-- `while (last_buf != pos)`: release the older unmatched superbufs. -/
def releaseOlder (lastBuf : Option Nat) (pos : Nat) (que : List SuperbufNode) :
    List SuperbufNode × List SuperbufNode :=
  match lastBuf with
  | none => (que, [])
  | some last =>
    let (before, fromLast) := que.span fun superBuf => superBuf.node != last
    let (kept, released) := releaseUntil pos fromLast
    (before ++ kept, released)

/-- The expected frame id after a match, and the end of flash bracketing. -/
def expectAfterMatch (info : BufInfo) (ch : Channel) : Channel :=
  if ch.isFlashBracketingEnabled then
    { ch.setExpectedFrameId ch.queue.expectedFrameIdWithoutLed with
        isFlashBracketingEnabled :=
          !(ch.queue.expectedFrameIdWithoutLed ≤ info.frameIdx) }
  else
    ch.setExpectedFrameId (info.frameIdx + ch.queue.attr.postFrameSkip.toNat)

/-- The branch of `comp_and_enqueue` that found a superbuf for the buffer. -/
def joinSuperbuf (info : BufInfo) (bufSIdx : Nat) (lastBuf : Option Nat) (superBuf : SuperbufNode)
    (ch : Channel) :
    Channel × List ChannelOutput :=
  if (superBuf.slot bufSIdx).frameIdx ≠ 0 then
    (ch, [.qbuf info.buf])
  else
    let joined := superBuf.insertBuf bufSIdx info
    if joined.matched then
      let expecting := expectAfterMatch info ch
      let (kept, released) := releaseOlder lastBuf superBuf.node (updateNode superBuf.node
            { joined with expected := false } expecting.queue.que)
      ({ expecting with
          queue := { expecting.queue with
            que := kept
            size := expecting.queue.size - released.length
            matchCnt := expecting.queue.matchCnt + 1 } },
        released.flatMap SuperbufNode.release)
    else if ch.divertedFrameId = info.frameIdx then
      ({ ch with
          queue := { ch.queue with
            que := updateNode superBuf.node { joined with expected := true } ch.queue.que }
          divertedFrameId := 0 }, [])
    else
      ({ ch with
          queue := { ch.queue with
            que := updateNode superBuf.node joined ch.queue.que } }, [])

/--
The loop that removes unmatched frames, from `last_buf` on.  It frees the
first node that is neither expected nor the insertion point and then reads
`last_buf_ptr->next` of that node.  `cam_list_del_node` has just linked the
node to itself, so while the count stays above the limit the loop comes back
to it: `unmatchedBundles - limit` releases of one node.
-/
def evictUnmatched (limit : Nat) (insertBeforeBuf : Option Nat) (unmatchedBundles : Nat) :
    List SuperbufNode → List SuperbufNode × List SuperbufNode
  | [] => ([], [])
  | superBuf :: rest =>
    if limit < unmatchedBundles then
      if !superBuf.expected && some superBuf.node != insertBeforeBuf then
        (rest, List.replicate (unmatchedBundles - limit) superBuf)
      else
        let (kept, released) := evictUnmatched limit insertBeforeBuf unmatchedBundles rest
        (superBuf :: kept, released)
    else
      (superBuf :: rest, [])

/--
Both evictions of the enqueue branch: the loop from `last_buf` on, and the
release of `last_buf` itself when the loop has not brought the count down.
-/
def evict (limit : Nat) (state : ScanState) (que : List SuperbufNode) :
    List SuperbufNode × List SuperbufNode :=
  match state.lastBuf with
  | none => (que, [])
  | some last =>
    let (before, fromLast) := que.span fun superBuf => superBuf.node != last
    let (kept, released) :=
      evictUnmatched limit state.insertBeforeBuf state.unmatchedBundles fromLast
    if limit < state.unmatchedBundles - released.length then
      match fromLast with
      | [] => (que, released)
      | superBuf :: _ => (before ++ kept.drop 1, released ++ [superBuf])
    else
      (before ++ kept, released)

/-- `cam_list_insert_before_node`, or `cam_list_add_tail_node` without one. -/
def insertBefore (insertBeforeBuf : Option Nat) (newNode : SuperbufNode) :
    List SuperbufNode → List SuperbufNode
  | [] => [newNode]
  | superBuf :: rest =>
    if some superBuf.node = insertBeforeBuf then
      newNode :: superBuf :: rest
    else
      superBuf :: insertBefore insertBeforeBuf newNode rest

/-- The zeroed superbuf that starts with the arriving buffer. -/
def newSuperbuf (info : BufInfo) (bufSIdx : Nat) (ch : Channel) : SuperbufNode where
  node := ch.nextNode
  superBuf :=
    (List.replicate ch.queue.bundledStreams.length Slot.empty).set bufSIdx info.toSlot
  matched := ch.queue.bundledStreams.length = 1
  expected :=
    ch.divertedFrameId = info.frameIdx ∧ ch.queue.bundledStreams.length ≠ 1
  frameIdx := info.frameIdx

/-- Link a new superbuf into the queue and update the counters. -/
def enqueueNew (info : BufInfo) (bufSIdx : Nat) (insertBeforeBuf : Option Nat)
    (ch : Channel) : Channel :=
  let single := ch.queue.bundledStreams.length = 1
  let linked : Channel := { ch with
        queue := { ch.queue with
          que :=
            insertBefore insertBeforeBuf (newSuperbuf info bufSIdx ch) ch.queue.que
          size := ch.queue.size + 1
          matchCnt :=
            if single then ch.queue.matchCnt + 1 else ch.queue.matchCnt
          nomatchFrameId :=
            if ch.queue.attr.priority = .low ∧ info.buf.streamType ≠ .metadata then
              info.frameIdx
            else
              ch.queue.nomatchFrameId }
        divertedFrameId :=
          if ch.divertedFrameId = info.frameIdx then
            0
          else
            ch.divertedFrameId
        nextNode := ch.nextNode + 1 }
  if single then
    linked.setExpectedFrameId (info.frameIdx + ch.queue.attr.postFrameSkip.toNat)
  else
    linked

/--
The branch of `comp_and_enqueue` that found no superbuf.  `memory` says
whether the two allocations for the new node succeed.
-/
def startSuperbuf (memory : Bool) (info : BufInfo) (bufSIdx : Nat) (state : ScanState)
    (ch : Channel) :
    Channel × List ChannelOutput :=
  let limit := ch.queue.attr.maxUnmatchedFrames.toNat
  if limit < state.unmatchedBundles ∧ state.lastBuf = none then
    (ch, [.qbuf info.buf])
  else
    let (kept, released) := evict limit state ch.queue.que
    let evicted : Channel := { ch with
          queue := { ch.queue with
            que := kept
            size := ch.queue.size - released.length } }
    if memory then
      (enqueueNew info bufSIdx state.insertBeforeBuf evicted, released.flatMap SuperbufNode.release)
    else
      (evicted, released.flatMap SuperbufNode.release ++ [.qbuf info.buf])

/-- The part of `comp_and_enqueue` that runs under the queue lock. -/
def compare (memory : Bool) (info : BufInfo) (bufSIdx : Nat) (ch : Channel) :
    Channel × List ChannelOutput :=
  let state := scan ch.queue info bufSIdx ScanState.initial ch.queue.que
  match state.foundSuperBuf.bind fun pos =>
      ch.queue.que.find? fun superBuf => superBuf.node == pos with
  | some superBuf =>
    joinSuperbuf info bufSIdx state.lastBuf superBuf
      { ch with queue := { ch.queue with nomatchFrameId := 0 } }
  | none => startSuperbuf memory info bufSIdx state ch

/-- The two tests that discard a buffer before the queue is looked at. -/
def isStale (info : BufInfo) (ch : Channel) : Bool :=
  utilSeqCompWRollover info.frameIdx ch.queue.expectedFrameId < 0 ||
    (ch.queue.nomatchFrameId != 0 && info.frameIdx < ch.queue.nomatchFrameId &&
      info.buf.streamType == .metadata)

/-- `mm_channel_superbuf_comp_and_enqueue`. -/
def superbufCompAndEnqueue (memory : Bool) (info : BufInfo) (ch : Channel) :
    Channel × List ChannelOutput :=
  match ch.queue.bundledStreams.findIdx? fun stream =>
      info.streamId == stream with
  | none => (ch, [])
  | some bufSIdx =>
    if info.frameIdx = 0 then
      (ch, [.qbuf info.buf])
    else
      match handleMetadata ch info with
      | none => (ch, [.qbuf info.buf])
      | some (handled, flushed) =>
        if isStale info handled then
          (handled, flushed ++ [.qbuf info.buf])
        else
          let (final, released) := compare memory info bufSIdx handled
          (final, flushed ++ released)

/-! ## The queue as a machine -/

/-- The operations on the superbuf queue of one bundle. -/
inductive SuperbufOp where
  | compAndEnqueue (memory : Bool) (info : BufInfo)
  | dequeue
  | bufdoneOverflow (iterations : Nat)
  | skip (iterations : Nat)
  | flush (camType : CamStreamType)
  | flushMatched
  deriving DecidableEq

/-- Execute one operation. -/
def superbufStep (ch : Channel) : SuperbufOp → Channel × List ChannelOutput
  | .compAndEnqueue memory info => superbufCompAndEnqueue memory info ch
  | .dequeue => superbufDequeue ch
  | .bufdoneOverflow iterations => superbufBufdoneOverflow iterations ch
  | .skip iterations => superbufSkip iterations ch
  | .flush camType => superbufFlush camType ch
  | .flushMatched => superbufFlushMatched ch

/-- The queue of a started bundle before its first buffer. -/
structure Channel.Fresh (ch : Channel) : Prop where
  que : ch.queue.que = []
  size : ch.queue.size = 0
  matchCnt : ch.queue.matchCnt = 0
  nomatchFrameId : ch.queue.nomatchFrameId = 0

/-- Run a list of operations; no operation of the queue is ever undefined. -/
def superbufRun (ch : Channel) (ops : List SuperbufOp) : Option (Channel × List ChannelOutput) :=
  LabelledRun.run? (fun state op => some (superbufStep state op)) ch ops

end AnglerHal.Superbuf
