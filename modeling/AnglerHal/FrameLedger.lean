import AnglerHal.CameraQueue

namespace AnglerHal.Hal1PostProc

/-!
# Frames and the jobs that hold them

A superbuf struct is handed to the post-processor by the callback of a channel
and is held by one job at a time.  A job of a regular capture carries
`reproc_frame_release`, because the source channel is gone when the job ends,
and an array with the copies of its buffers.  `Ledger` records what is freed,
given back and deleted.
-/

/-- A superbuf struct. -/
structure SuperBuf where
  id : Nat
  /-- It comes from a reprocess channel. -/
  reprocessed : Bool
  num_bufs : Nat
  /-- One of its buffers holds metadata. -/
  hasMetadata : Bool
  deriving DecidableEq

/-- `qcamera_pp_request_t`. -/
structure PpRequest where
  reprocCount : Nat
  src_frame : SuperBuf
  src_reproc_frame : Option SuperBuf
  deriving DecidableEq

/-- `qcamera_pp_data_t`; `src_reproc_bufs` is the number of the array. -/
structure PpJob where
  job : Nat
  reprocCount : Nat
  src_frame : Option SuperBuf
  src_reproc_frame : Option SuperBuf
  reproc_frame_release : Bool
  src_reproc_bufs : Option Nat
  deriving DecidableEq

/-- `qcamera_jpeg_data_t`; `metadata` names the frame that it is taken from. -/
structure JpegJob where
  job : Nat
  src_frame : SuperBuf
  src_reproc_frame : Option SuperBuf
  metadata : Option Nat
  reproc_frame_release : Bool
  src_reproc_bufs : Option Nat
  deriving DecidableEq

/-- What happened to the structs and arrays so far. -/
structure Ledger where
  /-- The number of structs handed to the post-processor. -/
  handed : Nat
  freed : List Nat
  /-- The frames whose buffers are given back with `bufDone`. -/
  returned : List Nat
  /-- The frames of jobs that carry `reproc_frame_release`. -/
  kept : List Nat
  /-- The number of arrays allocated for `src_reproc_bufs`. -/
  allocated : Nat
  deleted : List Nat
  deriving DecidableEq

namespace Ledger

def empty : Ledger where
  handed := 0
  freed := []
  returned := []
  kept := []
  allocated := 0
  deleted := []

/-- `free` of a struct. -/
def free (frame : SuperBuf) (ledger : Ledger) : Ledger :=
  { ledger with freed := ledger.freed ++ [frame.id] }

/-- `releaseSuperBuf`: the buffers go back to the channel. -/
def releaseSuperBuf (frame : SuperBuf) (ledger : Ledger) : Ledger :=
  { ledger with returned := ledger.returned ++ [frame.id] }

/-- `releaseSuperBuf` and `free`. -/
def releaseFrame (frame : SuperBuf) (ledger : Ledger) : Ledger :=
  (ledger.releaseSuperBuf frame).free frame

/-- `delete [] src_reproc_bufs`. -/
def deleteBufs (bufs : Option Nat) (ledger : Ledger) : Ledger :=
  { ledger with deleted := ledger.deleted ++ bufs.toList }

/-- A frame that is not the same as `src_frame` is released after it. -/
def releaseOther (src : Option SuperBuf) (other : Option SuperBuf) (ledger : Ledger) : Ledger :=
  match other with
  | none => ledger
  | some frame =>
    if src.map SuperBuf.id = some frame.id then
      ledger
    else
      ledger.releaseFrame frame

/-- `releasePPInputData`. -/
def releasePPInputData (request : PpRequest) (ledger : Ledger) : Ledger :=
  (ledger.releaseFrame request.src_frame).releaseOther
    (some request.src_frame) request.src_reproc_frame

/-- `releaseOngoingPPData`, which leaves `src_reproc_bufs` alone. -/
def releaseOngoingPPData (job : PpJob) (ledger : Ledger) : Ledger :=
  match job.src_frame with
  | none => ledger.releaseOther none job.src_reproc_frame
  | some frame =>
    if job.reproc_frame_release = true then
      (ledger.free frame).releaseOther (some frame) job.src_reproc_frame
    else
      (ledger.releaseFrame frame).releaseOther (some frame) job.src_reproc_frame

/-- The source frame of a JPEG job goes first. -/
def releaseSource (job : JpegJob) (ledger : Ledger) : Ledger :=
  match job.src_reproc_frame with
  | none => ledger
  | some frame =>
    if job.reproc_frame_release = true then
      ledger.free frame
    else
      ledger.releaseFrame frame

/-- `releaseJpegJobData`. -/
def releaseJpegJobData (job : JpegJob) (ledger : Ledger) : Ledger :=
  ((ledger.releaseSource job).releaseFrame job.src_frame).deleteBufs job.src_reproc_bufs

/-- Release the entries of a queue one after the other. -/
def releaseAll {α : Type} (release : α → Ledger → Ledger) (items : List α)
    (ledger : Ledger) : Ledger :=
  items.foldl (fun ledger item => release item ledger) ledger

end Ledger

end AnglerHal.Hal1PostProc
