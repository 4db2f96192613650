import AnglerHal.RequestTypes

namespace AnglerHal.Hal3

/-!
# What the framework gets to see

Projections of the messages that the tracker sends: the buffers it returns,
with the frame numbers of their results, and the errors it reports.
-/

/-- The output buffers returned, with the frame numbers of their results. -/
def returnedBuffers (sent : List Output) : List (Nat × Camera3StreamBuffer) :=
  sent.flatMap fun output =>
    match output with
    | .processCaptureResult result =>
      result.outputBuffers.map fun buffer => (result.frameNumber, buffer)
    | _ => []

/-- The input buffers returned, with the frame numbers of their results. -/
def returnedInputs (sent : List Output) : List (Nat × Camera3StreamBuffer) :=
  sent.flatMap fun output =>
    match output with
    | .processCaptureResult result =>
      result.inputBuffer.toList.map fun buffer =>
        (result.frameNumber, buffer)
    | _ => []

/-- The frame numbers reported with an error of this kind. -/
def errorFrames (code : ErrorCode) (sent : List Output) : List Nat :=
  sent.filterMap fun output =>
    match output with
    | .notify (.error frameNumber errorCode _) =>
      if errorCode = code then some frameNumber else none
    | _ => none

/-- The partial results that carry metadata: frame number and count. -/
def partialResults (sent : List Output) : List (Nat × Nat) :=
  sent.filterMap fun output =>
    match output with
    | .processCaptureResult result =>
      result.result.map fun _ => (result.frameNumber, result.partialResult)
    | _ => none

@[simp]
theorem returnedBuffers_append (earlier later : List Output) : returnedBuffers (earlier ++ later) =
      returnedBuffers earlier ++ returnedBuffers later :=
  List.flatMap_append

@[simp]
theorem returnedInputs_append (earlier later : List Output) : returnedInputs (earlier ++ later) =
      returnedInputs earlier ++ returnedInputs later :=
  List.flatMap_append

@[simp]
theorem errorFrames_append (code : ErrorCode) (earlier later : List Output) :
    errorFrames code (earlier ++ later) = errorFrames code earlier ++ errorFrames code later :=
  List.filterMap_append

@[simp]
theorem partialResults_append (earlier later : List Output) : partialResults (earlier ++ later) =
      partialResults earlier ++ partialResults later :=
  List.filterMap_append

@[simp]
theorem partialResults_nil : partialResults [] = [] :=
  rfl

@[simp]
theorem partialResults_notify (msg : NotifyMsg) (later : List Output) :
    partialResults (.notify msg :: later) = partialResults later :=
  rfl

/-- A result counts if it carries metadata. -/
@[simp]
theorem partialResults_processCaptureResult (result : CaptureResult) (later : List Output) :
    partialResults (.processCaptureResult result :: later) = (result.result.map fun _ =>
          (result.frameNumber, result.partialResult)).toList ++
        partialResults later := by
  unfold partialResults
  rw [List.filterMap_cons]
  cases given : result.result with
  | none => simp [given]
  | some metadata => simp [given]

@[simp]
theorem errorFrames_nil (code : ErrorCode) : errorFrames code [] = [] :=
  rfl

@[simp]
theorem errorFrames_shutter (code : ErrorCode) (frameNumber : Nat) (timestamp : Int)
    (later : List Output) :
    errorFrames code (.notify (.shutter frameNumber timestamp) :: later) =
      errorFrames code later :=
  rfl

@[simp]
theorem errorFrames_processCaptureResult (code : ErrorCode) (result : CaptureResult)
    (later : List Output) :
    errorFrames code (.processCaptureResult result :: later) =
      errorFrames code later :=
  rfl

end AnglerHal.Hal3
