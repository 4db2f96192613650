import AnglerHal.RequestCallbacks

namespace AnglerHal.Hal3

/-!
# Recovery paths of the capture request tracker

`notifyErrorForPendingRequests` answers everything that is pending with errors.
It groups the pending buffers by frame number and then walks the groups and
`mPendingRequestsList` side by side, without comparing frame numbers.  It is
`none` where the source reads `i->input_buffer` with `i` at the end of the
list.
-/

/-- The frame number of the oldest pending request, or `UINT_MAX`. -/
def oldestFrame (requests : List PendingRequestInfo) : Nat :=
  match requests with
  | [] => uintMax
  | request :: _ => request.frameNumber

/-- Group pending buffers by frame number: a `FlushMap`. -/
def flushMap (pending : List PendingBufferInfo) : KeyedVector Nat (List PendingBufferInfo) :=
  KeyedVector.groupBy PendingBufferInfo.frameNumber pending

/-- The result that returns buffers with errors. -/
def errorResult (frameNumber : Nat) (pending : List PendingBufferInfo)
    (inputBuffer : Option Camera3StreamBuffer) : CaptureResult where
  frameNumber := frameNumber
  result := none
  outputBuffers := pending.map PendingBufferInfo.toError
  inputBuffer := inputBuffer
  partialResult := 0

/-- Error messages and result for the buffers of a frame already answered. -/
def errorBuffers (group : Nat × List PendingBufferInfo) : List Output :=
  group.2.map (fun info =>
      .notify (.error group.1 .buffer (some info.stream))) ++
    [.processCaptureResult (errorResult group.1 group.2 none)]

/-- Error message and result for one group and the request at the iterator. -/
def errorRequest (group : Nat × List PendingBufferInfo)
    (request : PendingRequestInfo) : List Output :=
  [.notify (.error group.1 .request none), .processCaptureResult
      (errorResult group.1 group.2 request.inputBuffer)]

/-- Walk the groups and the request list side by side. -/
def errorRequests : List (Nat × List PendingBufferInfo) → List PendingRequestInfo →
      Option (List PendingRequestInfo × List Output)
  | [], requests => some (requests, [])
  | _ :: _, [] => none
  | group :: groups, request :: requests =>
    (errorRequests groups requests).map fun (left, later) =>
      (left, errorRequest group request ++ later)

/-- `notifyErrorForPendingRequests`. -/
def notifyErrorForPendingRequests (tracker : Tracker) : Option (Tracker × List Output) :=
  let pending := tracker.mPendingBuffersMap.mPendingBufferList
  let frameNum := oldestFrame tracker.mPendingRequestsList
  let answered := flushMap (pending.filter fun info => info.frameNumber < frameNum)
  let open_ := flushMap (pending.filter fun info => !(info.frameNumber < frameNum))
  (errorRequests open_.items tracker.mPendingRequestsList).map fun (left, sent) =>
      ({ (tracker.setRequests left).setBuffers [] 0 with
          mPendingFrameDropList := []
          mPendingReprocessResultList := [] },
        answered.items.flatMap errorBuffers ++ sent)

/-- The first critical section of `flush`. -/
def flushBegin (tracker : Tracker) : Tracker :=
  if tracker.mFirstRequest then
    tracker
  else
    { tracker with mFlush := true }

/--
The second critical section of `flush`, after the channels have stopped and
`setBundleInfo` has succeeded.
-/
def flushEnd (tracker : Tracker) : Option (Tracker × List Output) :=
  (notifyErrorForPendingRequests { tracker with mPendingLiveRequest := 0 }).map
    fun (notified, sent) => ({ notified with mFlush := false }, sent)

/--
`dynamicUpdateMetaStreamInfo`: returns whether all channels have started
again.
-/
def dynamicUpdateMetaStreamInfo (startRc : Int) (tracker : Tracker) :
    Option (Tracker × Int × List Output) :=
  (notifyErrorForPendingRequests tracker).map fun (notified, sent) => (notified, startRc, sent)

/-- What a successful `configureStreams` does to the tracker. -/
def configureStreams (constrainedHighSpeed : Bool) (tracker : Tracker) : Tracker :=
  { (tracker.setRequests []).setBuffers [] 0 with
      mPendingFrameDropList := []
      mPendingReprocessResultList := []
      mFirstRequest := true
      mCurJpegMeta := none
      constrainedHighSpeed := constrainedHighSpeed }

end AnglerHal.Hal3
