import AnglerHal.LabelledRun

namespace AnglerHal.OfflineReproc

open LabelledRun

/-!
# Offline reprocess mappings

`QCameraReprocessChannel::doReprocessOffline` maps the buffers of a frame, and the
metadata that belongs to them, to the reprocess streams, and asks each stream to
process its buffer.  What it has mapped it records in `mOfflineBuffers`; `stop`
unmaps what is recorded.

The channel does not change during a run.  The daemon answers each call as it
likes, except that unmapping succeeds.
-/

/-- `MAX_NUM_STREAMS`. -/
def maxNumStreams : Nat :=
  8

/-- `cam_rect_t`. -/
structure Rect where
  left : Int
  top : Int
  width : Int
  height : Int
  deriving DecidableEq

/-- `cam_stream_crop_info_t`. -/
structure CropInfo where
  streamId : Nat
  crop : Rect
  roiMap : Rect
  deriving DecidableEq

/-- `cam_crop_data_t`; beyond `maxNumStreams` the entries are the memory behind the table. -/
@[ext] structure CropData where
  numOfStreams : Nat
  cropInfo : Nat → CropInfo

/-- A stream of the reprocess channel, as far as `doReprocessOffline` asks for it. -/
structure ReprocStream where
  handle : Nat
  channelHandle : Nat
  serverId : Nat
  isMetadata : Bool
  deriving DecidableEq

/-- A stream of the source channel. -/
structure SrcStream where
  handle : Nat
  serverId : Nat
  deriving DecidableEq

/-- A `QCameraReprocessChannel` after `addReprocStreamsFromSource`. -/
structure ReprocChannel where
  handle : Nat
  mStreams : List ReprocStream
  mSrcStreamHandles : Nat → Nat
  srcChannel : Option (List SrcStream)

/-- `mm_camera_buf_def_t`. -/
structure BufDef where
  streamId : Nat
  frameIdx : Nat
  fd : Int
  frameLen : Nat
  deriving DecidableEq

/-- The metadata buffer of a frame; `crops` is the crop table of its metadata, if it has one. -/
structure MetaBuf where
  fd : Int
  frameLen : Nat
  crops : Option CropData

/-- `cam_mapping_buf_type`. -/
inductive MappingType where
  | offlineMetaBuf
  | offlineInputBuf
  deriving DecidableEq

/-- `OfflineBuffer`. -/
structure OfflineBuffer where
  stream : ReprocStream
  type : MappingType
  index : Nat
  deriving DecidableEq

/-- A buffer that the daemon has mapped. -/
structure Mapping where
  buffer : OfflineBuffer
  fd : Int
  size : Nat
  deriving DecidableEq

/-- What the channel has recorded, and what the daemon holds. -/
structure Buffers where
  mOfflineBuffers : List OfflineBuffer
  mapped : List Mapping
  deriving DecidableEq

/-- The fields of `param.reprocess` that are set. -/
structure ReprocessParam where
  bufIndex : Nat
  frameIdx : Nat
  metaPresent : Nat
  metaBufIndex : Nat
  deriving DecidableEq

/-- What the two calls of `mapBuf` and that of `setParameter` return for a buffer. -/
structure Answers where
  mapMeta : Int
  mapInput : Int
  setParameter : Int
  deriving DecidableEq

namespace Buffers

def mapBuf (buffers : Buffers) (buffer : OfflineBuffer) (fd : Int) (size : Nat)
    (rc : Int) : Buffers :=
  if rc = 0 then { buffers with mapped := buffers.mapped ++ [⟨buffer, fd, size⟩] } else buffers

def record (buffers : Buffers) (buffer : OfflineBuffer) : Buffers :=
  { buffers with mOfflineBuffers := buffers.mOfflineBuffers ++ [buffer] }

def unmapBuf (mapped : List Mapping) (buffer : OfflineBuffer) : List Mapping :=
  mapped.eraseP fun mapping => mapping.buffer = buffer

/-- The calls of `unmapBuf` that `stop` makes. -/
def unmapCalls (buffers : Buffers) : List OfflineBuffer :=
  buffers.mOfflineBuffers

def stop (buffers : Buffers) : Buffers where
  mOfflineBuffers := []
  mapped := buffers.unmapCalls.foldl unmapBuf buffers.mapped

/-- `mOfflineBuffers` lists what is mapped, and nothing is mapped twice. -/
structure Faithful (buffers : Buffers) : Prop where
  listed : buffers.mOfflineBuffers = buffers.mapped.map (·.buffer)
  nodup : buffers.mOfflineBuffers.Nodup

end Buffers

namespace CropData

/-- The first entry of stream `src`. -/
def First (crops : CropData) (src i : Nat) : Prop :=
  (crops.cropInfo i).streamId = src ∧ ∀ k < i, (crops.cropInfo k).streamId ≠ src

def find (crops : CropData) (src : Nat) : Option Nat :=
  (List.range maxNumStreams).find? fun j => (crops.cropInfo j).streamId == src

/-- A copy of entry `j`, for stream `dst`, behind the others. -/
def append (crops : CropData) (j dst : Nat) : CropData where
  numOfStreams := crops.numOfStreams + 1
  cropInfo := Function.update crops.cropInfo crops.numOfStreams
    { crops.cropInfo j with streamId := dst }

/-- What is to become of the table: where stream `src` has an entry in it and there is room,
its crop and roi are appended for stream `dst`. -/
structure Appends (crops after : CropData) (src dst : Nat) : Prop where
  appended : ∀ i < crops.numOfStreams, crops.First src i →
    crops.numOfStreams < maxNumStreams →
      after.numOfStreams = crops.numOfStreams + 1 ∧
      after.cropInfo crops.numOfStreams = { crops.cropInfo i with streamId := dst } ∧
      ∀ k ≠ crops.numOfStreams, after.cropInfo k = crops.cropInfo k
  kept : (maxNumStreams ≤ crops.numOfStreams ∨
    ∀ i < crops.numOfStreams, ¬ crops.First src i) → after = crops

end CropData

/-- A buffer of the frame that stream `pStream` is to process, and what it finds. -/
structure Turn where
  pStream : ReprocStream
  buf : BufDef
  answers : Answers
  buffers : Buffers
  metaBuf : Option MetaBuf

/-- How a turn ends; `request` is what `setParameter` has been called with. -/
structure TurnEnd where
  rc : Int
  buffers : Buffers
  metaBuf : Option MetaBuf
  request : Option ReprocessParam

/-- How `doReprocessOffline` ends, and the turns it has taken. -/
structure Outcome where
  rc : Int
  buffers : Buffers
  metaBuf : Option MetaBuf
  turns : List Turn

/-- A frame, with the daemon's answers for each of its buffers. -/
abbrev Frame :=
  List (BufDef × Answers)

def metaBuffer (pStream : ReprocStream) : OfflineBuffer :=
  ⟨pStream, .offlineMetaBuf, 0⟩

def inputBuffer (pStream : ReprocStream) : OfflineBuffer :=
  ⟨pStream, .offlineInputBuf, 1⟩

/-- The turn from the record of the metadata mapping on. -/
def Turn.reprocessInput (turn : Turn) (buffers : Buffers) (metaBuf : Option MetaBuf) : TurnEnd :=
  let recorded := buffers.record (metaBuffer turn.pStream)
  if turn.answers.mapInput ≠ 0 then ⟨turn.answers.mapInput, recorded, metaBuf, none⟩
  else
    ⟨turn.answers.setParameter,
      (recorded.mapBuf (inputBuffer turn.pStream) turn.buf.fd turn.buf.frameLen
        turn.answers.mapInput).record (inputBuffer turn.pStream),
      metaBuf, some ⟨1, turn.buf.frameIdx, 1, 0⟩⟩

namespace ReprocChannel

variable (channel : ReprocChannel)

def getStreamBySrouceHandle (srcHandle : Nat) : Option ReprocStream :=
  (channel.mStreams.zipIdx.find? fun entry =>
    channel.mSrcStreamHandles entry.2 == srcHandle).map Prod.fst

/-- The reprocess stream that takes the buffer. -/
def streamOf (buf : BufDef) : Option ReprocStream :=
  (channel.getStreamBySrouceHandle buf.streamId).filter fun pStream =>
    channel.handle == pStream.channelHandle && !pStream.isMetadata

/-- `m_pSrcChannel->getStreamByHandle`. -/
def srcStream (buf : BufDef) : Option SrcStream :=
  (channel.srcChannel.getD []).find? fun stream => stream.handle == buf.streamId

/-- `mStreams[0]->getMyServerID()`. -/
def firstServerId : Nat :=
  match channel.mStreams with
  | [] => 0
  | stream :: _ => stream.serverId

/-- The crop and roi of the source stream, stored for the first reprocess stream. -/
def storeCrop (buf : BufDef) (crops : CropData) : CropData :=
  match channel.srcStream buf with
  | none => crops
  | some src =>
    if crops.numOfStreams < maxNumStreams then
      match crops.find src.serverId with
      | none => crops
      | some j => crops.append j channel.firstServerId
    else crops

/-- The body of the loop of `doReprocessOffline`. -/
def reprocessBuf (turn : Turn) : TurnEnd :=
  match turn.metaBuf with
  | none => turn.reprocessInput turn.buffers none
  | some metaBuf =>
    if turn.answers.mapMeta ≠ 0 then
      ⟨turn.answers.mapMeta, turn.buffers, some metaBuf, none⟩
    else
      turn.reprocessInput
        (turn.buffers.mapBuf (metaBuffer turn.pStream) metaBuf.fd metaBuf.frameLen
          turn.answers.mapMeta)
        (some { metaBuf with crops := metaBuf.crops.map (channel.storeCrop turn.buf) })

/-- The loop of `doReprocessOffline`. -/
def reprocessBufs : Frame → Buffers → Option MetaBuf → Outcome
  | [], buffers, metaBuf => ⟨0, buffers, metaBuf, []⟩
  | (buf, answers) :: rest, buffers, metaBuf =>
    match channel.streamOf buf with
    | none => reprocessBufs rest buffers metaBuf
    | some pStream =>
      let turn : Turn := ⟨pStream, buf, answers, buffers, metaBuf⟩
      let ended := channel.reprocessBuf turn
      if ended.rc ≠ 0 then ⟨ended.rc, ended.buffers, ended.metaBuf, [turn]⟩
      else
        let later := reprocessBufs rest ended.buffers ended.metaBuf
        { later with turns := turn :: later.turns }

def doReprocessOffline (frame : Option Frame) (buffers : Buffers) (metaBuf : Option MetaBuf) :
    Outcome :=
  if channel.mStreams.length < 1 then ⟨-1, buffers, metaBuf, []⟩
  else
    match channel.srcChannel, frame with
    | none, _ => ⟨-1, buffers, metaBuf, []⟩
    | some _, none => ⟨-22, buffers, metaBuf, []⟩
    | some _, some bufs => channel.reprocessBufs bufs buffers metaBuf

end ReprocChannel

/-- The calls on the channel. -/
inductive Call where
  | doReprocessOffline (frame : Option Frame) (metaBuf : Option MetaBuf)
  | stop

def step (channel : ReprocChannel) (buffers : Buffers) : Call → Option (Buffers × List Turn)
  | .doReprocessOffline frame metaBuf =>
    some ((channel.doReprocessOffline frame buffers metaBuf).buffers,
      (channel.doReprocessOffline frame buffers metaBuf).turns)
  | .stop => some (buffers.stop, [])

namespace Turn

variable (channel : ReprocChannel) (turn : Turn)

def crops : Option CropData :=
  turn.metaBuf.bind (·.crops)

/-- A buffer that is reprocessed has the crop of its source stream in the metadata, under the
server id of the stream that processes it. -/
def CropRight : Prop :=
  ∀ crops src, turn.crops = some crops → channel.srcStream turn.buf = some src →
    (channel.reprocessBuf turn).request.isSome →
      ∃ after, (channel.reprocessBuf turn).metaBuf.bind (·.crops) = some after ∧
        crops.Appends after src.serverId turn.pStream.serverId

/-- What must hold after a turn. -/
structure Sound : Prop where
  faithful : (channel.reprocessBuf turn).buffers.Faithful
  crop : turn.CropRight channel

/-- Where there is room, the entry that is found for the source stream is one of the table,
and the first stream has the server id of the one that processes the buffer. -/
def CropFits : Prop :=
  ∀ crops src, turn.crops = some crops → channel.srcStream turn.buf = some src →
    crops.numOfStreams < maxNumStreams → ∀ j < maxNumStreams, crops.First src.serverId j →
      j < crops.numOfStreams ∧ channel.firstServerId = turn.pStream.serverId

/-- The call brings metadata; if they can be mapped, no metadata mapping of the stream is in
place, and the crop fits if the input buffer can be mapped too. -/
def Disciplined : Prop :=
  turn.metaBuf.isSome ∧ (turn.answers.mapMeta = 0 →
    metaBuffer turn.pStream ∉ turn.buffers.mOfflineBuffers ∧
    (turn.answers.mapInput = 0 → turn.CropFits channel))

end Turn

/-- What must hold of a call: each turn is sound; a stop unmaps each mapping once. -/
def SoundCall (channel : ReprocChannel) (buffers : Buffers) : Call → Prop
  | .doReprocessOffline frame metaBuf =>
    ∀ turn ∈ (channel.doReprocessOffline frame buffers metaBuf).turns, turn.Sound channel
  | .stop =>
    (∀ buffer, buffers.unmapCalls.count buffer =
        (buffers.mapped.map (·.buffer)).count buffer ∧ buffers.unmapCalls.count buffer ≤ 1) ∧
      buffers.stop.mapped = []

/-- Each turn of the call is disciplined. -/
def DisciplinedCall (channel : ReprocChannel) (buffers : Buffers) : Call → Prop
  | .doReprocessOffline frame metaBuf =>
    ∀ turn ∈ (channel.doReprocessOffline frame buffers metaBuf).turns, turn.Disciplined channel
  | .stop => True

/-! ## The crop table -/

namespace CropData

variable {crops after : CropData} {src dst i j : Nat}

/-- There is one first entry. -/
theorem First.unique (first : crops.First src i) (other : crops.First src j) : i = j := by
  rcases Nat.lt_trichotomy i j with less | equal | greater
  · exact (other.2 i less first.1).elim
  · exact equal
  · exact (first.2 j greater other.1).elim

/-- The search finds the first entry. -/
theorem find_eq_some_iff : crops.find src = some j ↔ j < maxNumStreams ∧ crops.First src j := by
  simp only [find, List.find?_range_eq_some, beq_iff_eq, List.mem_range, First, Bool.not_eq_true',
    beq_eq_false_iff_ne]
  tauto

/-- A search that finds nothing leaves no first entry. -/
theorem find_eq_none_iff : crops.find src = none ↔ ∀ j < maxNumStreams, ¬ crops.First src j := by
  constructor
  · intro missing j bound first
    rw [find_eq_some_iff.mpr ⟨bound, first⟩] at missing
    cases missing
  · intro none_first
    cases found : crops.find src with
    | none => rfl
    | some j =>
      exact absurd (find_eq_some_iff.mp found).2 (none_first j (find_eq_some_iff.mp found).1)

/-- A table without room, or without an entry of the stream, is to be kept. -/
theorem appends_self_iff :
    crops.Appends crops src dst ↔
      (crops.numOfStreams < maxNumStreams → ∀ i < crops.numOfStreams, ¬ crops.First src i) := by
  constructor
  · intro appends room i live first
    exact absurd (appends.appended i live first room).1 (Nat.ne_of_lt (Nat.lt_succ_self _))
  · intro absent
    exact ⟨fun i live first room => (absent room i live first).elim, fun _ => rfl⟩

/-- An entry that is copied is the right one if it is one of the table, and the copy is for the
right stream. -/
theorem appends_append_iff {named : Nat} (room : crops.numOfStreams < maxNumStreams)
    (first : crops.First src j) :
    crops.Appends (crops.append j named) src dst ↔ j < crops.numOfStreams ∧ named = dst := by
  constructor
  · intro appends
    have live : j < crops.numOfStreams := by
      by_contra stale
      have same := appends.kept (Or.inr fun i live other =>
        stale (first.unique other ▸ live))
      exact absurd (congrArg CropData.numOfStreams same) (Nat.succ_ne_self _)
    refine ⟨live, ?_⟩
    have copied := (appends.appended j live first room).2.1
    simp only [append, Function.update_self] at copied
    exact congrArg CropInfo.streamId copied
  · rintro ⟨live, rfl⟩
    refine ⟨fun i _ other _ => ?_, fun absent => ?_⟩
    · obtain rfl := first.unique other
      exact ⟨rfl, by simp [append], fun k other => by simp [append, other]⟩
    · rcases absent with full | absent
      · exact absurd room (Nat.not_lt.mpr full)
      · exact (absent j live first).elim

end CropData

/-- What the channel stores is right if the entry it finds fits. -/
theorem ReprocChannel.storeCrop_appends_iff {channel : ReprocChannel} {buf : BufDef}
    {src : SrcStream} {crops : CropData} {dst : Nat}
    (known : channel.srcStream buf = some src) :
    crops.Appends (channel.storeCrop buf crops) src.serverId dst ↔
      (crops.numOfStreams < maxNumStreams → ∀ j < maxNumStreams, crops.First src.serverId j →
        j < crops.numOfStreams ∧ channel.firstServerId = dst) := by
  by_cases room : crops.numOfStreams < maxNumStreams
  · cases found : crops.find src.serverId with
    | none =>
      have kept : channel.storeCrop buf crops = crops := by
        simp only [storeCrop, known, room, if_true, found]
      have absent := CropData.find_eq_none_iff.mp found
      rw [kept, CropData.appends_self_iff]
      exact iff_of_true (fun _ i live => absent i (Nat.lt_trans live room))
        fun _ j bound first => (absent j bound first).elim
    | some j =>
      have copied : channel.storeCrop buf crops = crops.append j channel.firstServerId := by
        simp only [storeCrop, known, room, if_true, found]
      obtain ⟨bound, first⟩ := CropData.find_eq_some_iff.mp found
      rw [copied, CropData.appends_append_iff room first]
      constructor
      · intro right _ i _ other
        rwa [← first.unique other]
      · intro fits
        exact fits room j bound first
  · have kept : channel.storeCrop buf crops = crops := by
      simp only [storeCrop, known, room, if_false]
    rw [kept, CropData.appends_self_iff]
    exact iff_of_true (fun less => (room less).elim) fun less => (room less).elim

/-! ## The mappings -/

namespace Buffers

variable {buffers : Buffers} {buffer : OfflineBuffer} {fd : Int} {size : Nat}

/-- A mapping that succeeds and is recorded keeps the record faithful if it was not in place. -/
theorem Faithful.map_record_iff (faithful : buffers.Faithful) :
    ((buffers.mapBuf buffer fd size 0).record buffer).Faithful ↔
      buffer ∉ buffers.mOfflineBuffers := by
  constructor
  · intro after member
    have nodup : (buffers.mOfflineBuffers ++ [buffer]).Nodup := after.nodup
    exact (List.nodup_append.mp nodup).2.2 buffer member buffer (List.mem_singleton_self _) rfl
  · intro fresh
    refine ⟨?_, ?_⟩
    · change buffers.mOfflineBuffers ++ [buffer] =
        (buffers.mapped ++ [(⟨buffer, fd, size⟩ : Mapping)]).map (·.buffer)
      rw [faithful.listed, List.map_append, List.map_singleton]
    · refine List.nodup_append.mpr ⟨faithful.nodup, by simp, ?_⟩
      rintro old member _ new rfl
      exact fresh (List.mem_singleton.mp new ▸ member)

/-- The record of a mapping that was not made is not faithful. -/
theorem Faithful.not_record (faithful : buffers.Faithful) : ¬ (buffers.record buffer).Faithful := by
  intro after
  have lengths := congrArg List.length after.listed
  rw [record, faithful.listed] at lengths
  simp at lengths

/-- A later mapping does not make up for it. -/
theorem Faithful.not_record_map_record {other : OfflineBuffer} (faithful : buffers.Faithful) :
    ¬ (((buffers.record buffer).mapBuf other fd size 0).record other).Faithful := by
  intro after
  have lengths := congrArg List.length after.listed
  simp only [record, mapBuf, if_true, faithful.listed] at lengths
  simp at lengths

/-- The record is faithful, and an input buffer is mapped with the metadata only. -/
structure Inv (buffers : Buffers) : Prop where
  faithful : buffers.Faithful
  withMeta : ∀ pStream, inputBuffer pStream ∈ buffers.mOfflineBuffers →
    metaBuffer pStream ∈ buffers.mOfflineBuffers

theorem Inv.empty : Inv ⟨[], []⟩ :=
  ⟨⟨rfl, List.nodup_nil⟩, fun _ member => nomatch member⟩

/-- The two mappings of a turn keep the record faithful if that of the metadata was not in
place. -/
theorem Inv.map_both_iff {pStream : ReprocStream} {metaFd : Int} {metaSize : Nat}
    (inv : buffers.Inv) :
    ((((buffers.mapBuf (metaBuffer pStream) metaFd metaSize 0).record (metaBuffer pStream)).mapBuf
        (inputBuffer pStream) fd size 0).record (inputBuffer pStream)).Faithful ↔
      metaBuffer pStream ∉ buffers.mOfflineBuffers := by
  constructor
  · intro after member
    have nodup : (buffers.mOfflineBuffers ++ [metaBuffer pStream] ++
        [inputBuffer pStream]).Nodup := after.nodup
    exact (List.nodup_append.mp (List.nodup_append.mp nodup).1).2.2 _ member _
      (List.mem_singleton_self _) rfl
  · intro fresh
    refine (inv.faithful.map_record_iff.mpr fresh).map_record_iff.mpr fun member => ?_
    rcases List.mem_append.mp member with old | new
    · exact fresh (inv.withMeta pStream old)
    · exact absurd (List.mem_singleton.mp new) (by simp [inputBuffer, metaBuffer])

/-- A stop unmaps in the order of the record. -/
theorem foldl_unmapBuf (mapped : List Mapping) :
    (mapped.map (·.buffer)).foldl unmapBuf mapped = [] := by
  induction mapped with
  | nil => rfl
  | cons mapping rest ih =>
    rw [List.map_cons, List.foldl_cons, unmapBuf, List.eraseP_cons_of_pos (by simp)]
    exact ih

/-- A stop undoes each mapping once. -/
theorem Faithful.stop (faithful : buffers.Faithful) : buffers.stop = ⟨[], []⟩ := by
  rw [Buffers.stop, unmapCalls, faithful.listed, foldl_unmapBuf]

end Buffers

namespace Turn

variable {channel : ReprocChannel} {turn : Turn} {metaBuf : MetaBuf}

/-- Without metadata the turn goes on to the record. -/
theorem end_of_none (given : turn.metaBuf = none) :
    channel.reprocessBuf turn = turn.reprocessInput turn.buffers none := by
  simp only [ReprocChannel.reprocessBuf, given]

/-- Metadata that cannot be mapped end the turn. -/
theorem end_of_metaRefused (channel : ReprocChannel) (given : turn.metaBuf = some metaBuf)
    (refused : turn.answers.mapMeta ≠ 0) :
    channel.reprocessBuf turn = ⟨turn.answers.mapMeta, turn.buffers, some metaBuf, none⟩ := by
  simp only [ReprocChannel.reprocessBuf, given, if_pos refused]

/-- Where the metadata are mapped the crop is stored and the turn goes on to the record. -/
theorem end_of_metaMapped (channel : ReprocChannel) (given : turn.metaBuf = some metaBuf)
    (mapped : turn.answers.mapMeta = 0) :
    channel.reprocessBuf turn =
      turn.reprocessInput
        (turn.buffers.mapBuf (metaBuffer turn.pStream) metaBuf.fd metaBuf.frameLen 0)
        (some { metaBuf with crops := metaBuf.crops.map (channel.storeCrop turn.buf) }) := by
  simp only [ReprocChannel.reprocessBuf, given, mapped, ne_eq, not_true_eq_false, if_false]

variable {buffers : Buffers} {data : Option MetaBuf}

/-- An input buffer that cannot be mapped ends the turn. -/
theorem reprocessInput_of_refused (refused : turn.answers.mapInput ≠ 0) :
    turn.reprocessInput buffers data =
      ⟨turn.answers.mapInput, buffers.record (metaBuffer turn.pStream), data, none⟩ := by
  simp only [reprocessInput, if_pos refused]

/-- An input buffer that is mapped is recorded, and its stream gets the request. -/
theorem reprocessInput_of_mapped (mapped : turn.answers.mapInput = 0) :
    turn.reprocessInput buffers data =
      ⟨turn.answers.setParameter,
        ((buffers.record (metaBuffer turn.pStream)).mapBuf (inputBuffer turn.pStream) turn.buf.fd
          turn.buf.frameLen 0).record (inputBuffer turn.pStream),
        data, some ⟨1, turn.buf.frameIdx, 1, 0⟩⟩ := by
  simp only [reprocessInput, mapped, ne_eq, not_true_eq_false, if_false]

/-- The crop of a buffer that is reprocessed is right if it fits. -/
theorem cropRight_iff (given : turn.metaBuf = some metaBuf) (metaMapped : turn.answers.mapMeta = 0)
    (inputMapped : turn.answers.mapInput = 0) :
    turn.CropRight channel ↔ turn.CropFits channel := by
  have ended := end_of_metaMapped channel given metaMapped
  rw [reprocessInput_of_mapped inputMapped] at ended
  refine forall_congr' fun crops => forall_congr' fun src => forall_congr' fun held =>
    forall_congr' fun known => ?_
  have table : metaBuf.crops = some crops := by
    rw [← held, Turn.crops, given, Option.bind_some]
  rw [ended, ← ReprocChannel.storeCrop_appends_iff known]
  simp [table]

/-- A sound turn is a disciplined one. -/
theorem sound_iff (channel : ReprocChannel) (turn : Turn) (inv : turn.buffers.Inv) :
    turn.Sound channel ↔ turn.Disciplined channel := by
  cases given : turn.metaBuf with
  | none =>
    refine iff_of_false (fun sound => ?_) fun disciplined => by
      simpa [given] using disciplined.1
    have faithful := sound.faithful
    rw [end_of_none given] at faithful
    by_cases mapped : turn.answers.mapInput = 0
    · rw [reprocessInput_of_mapped mapped] at faithful
      exact inv.faithful.not_record_map_record faithful
    · rw [reprocessInput_of_refused mapped] at faithful
      exact inv.faithful.not_record faithful
  | some metaBuf =>
    by_cases metaMapped : turn.answers.mapMeta = 0
    · by_cases inputMapped : turn.answers.mapInput = 0
      · have ended := end_of_metaMapped channel given metaMapped
        rw [reprocessInput_of_mapped inputMapped] at ended
        constructor
        · rintro ⟨faithful, crop⟩
          rw [ended] at faithful
          exact ⟨by simp [given], fun _ => ⟨inv.map_both_iff.mp faithful,
            fun _ => (cropRight_iff given metaMapped inputMapped).mp crop⟩⟩
        · rintro ⟨-, disciplined⟩
          obtain ⟨fresh, fits⟩ := disciplined metaMapped
          refine ⟨?_, (cropRight_iff given metaMapped inputMapped).mpr (fits inputMapped)⟩
          rw [ended]
          exact inv.map_both_iff.mpr fresh
      · have ended := end_of_metaMapped channel given metaMapped
        rw [reprocessInput_of_refused inputMapped] at ended
        constructor
        · rintro ⟨faithful, -⟩
          rw [ended] at faithful
          exact ⟨by simp [given], fun _ => ⟨inv.faithful.map_record_iff.mp faithful,
            fun mapped => (inputMapped mapped).elim⟩⟩
        · rintro ⟨-, disciplined⟩
          refine ⟨?_, fun crops src _ _ sent => by simp [ended] at sent⟩
          rw [ended]
          exact inv.faithful.map_record_iff.mpr (disciplined metaMapped).1
    · have ended := end_of_metaRefused channel given metaMapped
      refine iff_of_true ⟨?_, ?_⟩ ⟨by simp [given], fun mapped => (metaMapped mapped).elim⟩
      · rw [ended]
        exact inv.faithful
      · intro crops src _ _ sent
        simp [ended] at sent

/-- What a turn records. -/
theorem record_eq (channel : ReprocChannel) (turn : Turn) :
    ∃ added ∈ [[], [metaBuffer turn.pStream],
        [metaBuffer turn.pStream, inputBuffer turn.pStream]],
      (channel.reprocessBuf turn).buffers.mOfflineBuffers =
        turn.buffers.mOfflineBuffers ++ added := by
  have recorded : ∀ buffers data, buffers.mOfflineBuffers = turn.buffers.mOfflineBuffers →
      ∃ added ∈ [[metaBuffer turn.pStream],
          [metaBuffer turn.pStream, inputBuffer turn.pStream]],
        (turn.reprocessInput buffers data).buffers.mOfflineBuffers =
          turn.buffers.mOfflineBuffers ++ added := by
    intro buffers data same
    by_cases mapped : turn.answers.mapInput = 0
    · refine ⟨_, List.mem_cons_of_mem _ List.mem_cons_self, ?_⟩
      rw [reprocessInput_of_mapped mapped]
      simp [Buffers.record, Buffers.mapBuf, same]
    · refine ⟨_, List.mem_cons_self, ?_⟩
      rw [reprocessInput_of_refused mapped]
      simp [Buffers.record, same]
  cases given : turn.metaBuf with
  | none =>
    rw [end_of_none given]
    obtain ⟨added, member, shape⟩ := recorded turn.buffers none rfl
    exact ⟨added, List.mem_cons_of_mem _ member, shape⟩
  | some metaBuf =>
    by_cases mapped : turn.answers.mapMeta = 0
    · rw [end_of_metaMapped channel given mapped]
      obtain ⟨added, member, shape⟩ := recorded (turn.buffers.mapBuf (metaBuffer turn.pStream)
        metaBuf.fd metaBuf.frameLen 0) (some { metaBuf with
          crops := metaBuf.crops.map (channel.storeCrop turn.buf) }) rfl
      exact ⟨added, List.mem_cons_of_mem _ member, shape⟩
    · rw [end_of_metaRefused channel given mapped]
      exact ⟨[], List.mem_cons_self, (List.append_nil _).symm⟩

/-- A sound turn keeps the invariant. -/
theorem Sound.inv (sound : turn.Sound channel) (inv : turn.buffers.Inv) :
    (channel.reprocessBuf turn).buffers.Inv := by
  refine ⟨sound.faithful, fun pStream member => ?_⟩
  obtain ⟨added, cases, shape⟩ := turn.record_eq channel
  rw [shape, List.mem_append] at member ⊢
  rcases member with old | new
  · exact Or.inl (inv.withMeta pStream old)
  · simp only [List.mem_cons, List.not_mem_nil, or_false] at cases
    rcases cases with rfl | rfl | rfl
    · cases new
    · simp [inputBuffer, metaBuffer] at new
    · simp [inputBuffer, metaBuffer] at new ⊢
      exact Or.inr new

end Turn

/-! ## Runs -/

/-- The turns of the loop are sound if they are disciplined, and sound turns keep the
invariant. -/
theorem ReprocChannel.reprocessBufs_sound (channel : ReprocChannel) (frame : Frame)
    {buffers : Buffers} (metaBuf : Option MetaBuf) (inv : buffers.Inv) :
    ((∀ turn ∈ (channel.reprocessBufs frame buffers metaBuf).turns, turn.Sound channel) ↔
      ∀ turn ∈ (channel.reprocessBufs frame buffers metaBuf).turns, turn.Disciplined channel) ∧
    ((∀ turn ∈ (channel.reprocessBufs frame buffers metaBuf).turns, turn.Sound channel) →
      (channel.reprocessBufs frame buffers metaBuf).buffers.Inv) := by
  induction frame generalizing buffers metaBuf with
  | nil => exact ⟨iff_of_true (by simp [reprocessBufs]) (by simp [reprocessBufs]), fun _ => inv⟩
  | cons entry rest ih =>
    obtain ⟨buf, answers⟩ := entry
    cases taken : channel.streamOf buf with
    | none =>
      simp only [reprocessBufs, taken]
      exact ih metaBuf inv
    | some pStream =>
      simp only [reprocessBufs, taken]
      have first := Turn.sound_iff channel ⟨pStream, buf, answers, buffers, metaBuf⟩ inv
      split
      · simp only [List.mem_singleton, forall_eq]
        exact ⟨first, fun sound => sound.inv inv⟩
      · simp only [List.forall_mem_cons]
        constructor
        · rw [first]
          refine and_congr_right fun disciplined => ?_
          exact (ih _ ((first.mpr disciplined).inv inv)).1
        · rintro ⟨sound, later⟩
          exact (ih _ (sound.inv inv)).2 later

/-- A call that is refused at once does nothing. -/
theorem ReprocChannel.doReprocessOffline_cases (channel : ReprocChannel) (frame : Option Frame)
    (buffers : Buffers) (metaBuf : Option MetaBuf) :
    (∃ rc, channel.doReprocessOffline frame buffers metaBuf = ⟨rc, buffers, metaBuf, []⟩) ∨
      ∃ bufs, channel.doReprocessOffline frame buffers metaBuf =
        channel.reprocessBufs bufs buffers metaBuf := by
  unfold doReprocessOffline
  split
  · exact Or.inl ⟨_, rfl⟩
  · split
    · exact Or.inl ⟨_, rfl⟩
    · exact Or.inl ⟨_, rfl⟩
    · exact Or.inr ⟨_, rfl⟩

/-- A call is sound if it is disciplined. -/
theorem soundCall_iff (channel : ReprocChannel) {buffers : Buffers} (inv : buffers.Inv)
    (call : Call) :
    SoundCall channel buffers call ↔ DisciplinedCall channel buffers call := by
  cases call with
  | doReprocessOffline frame metaBuf =>
    simp only [SoundCall, DisciplinedCall]
    obtain ⟨rc, refused⟩ | ⟨bufs, taken⟩ :=
      channel.doReprocessOffline_cases frame buffers metaBuf
    · simp [refused]
    · rw [taken]
      exact (channel.reprocessBufs_sound bufs metaBuf inv).1
  | stop =>
    refine iff_of_true ⟨fun buffer => ⟨?_, ?_⟩, ?_⟩ trivial
    · rw [Buffers.unmapCalls, inv.faithful.listed]
    · exact List.nodup_iff_count.mp inv.faithful.nodup buffer
    · rw [inv.faithful.stop]

/-- A sound call keeps the invariant. -/
theorem SoundCall.inv {channel : ReprocChannel} {buffers next : Buffers} {call : Call}
    {turns : List Turn} (sound : SoundCall channel buffers call) (inv : buffers.Inv)
    (stepped : step channel buffers call = some (next, turns)) : next.Inv := by
  cases call with
  | doReprocessOffline frame metaBuf =>
    obtain rfl := congrArg Prod.fst (Option.some.inj stepped)
    simp only [SoundCall] at sound
    obtain ⟨rc, refused⟩ | ⟨bufs, taken⟩ :=
      channel.doReprocessOffline_cases frame buffers metaBuf
    · simpa only [refused] using inv
    · rw [taken] at sound ⊢
      exact (channel.reprocessBufs_sound bufs metaBuf inv).2 sound
  | stop =>
    obtain rfl := congrArg Prod.fst (Option.some.inj stepped)
    change buffers.stop.Inv
    rw [inv.faithful.stop]
    exact Buffers.Inv.empty

/-- In a run of the channel the calls are sound, one after another, if and only if they are
disciplined. -/
theorem offlineRun_sound_iff (channel : ReprocChannel) (calls : List Call) :
    Guarded (step channel) (fun buffers _ call => SoundCall channel buffers call) ⟨[], []⟩ []
        calls ↔
      Guarded (step channel) (fun buffers _ call => DisciplinedCall channel buffers call)
        ⟨[], []⟩ [] calls := by
  refine guarded_iff_of_invariant Buffers.Inv ?_ ?_ Buffers.Inv.empty
  · intro buffers past call inv
    exact soundCall_iff channel inv call
  · intro buffers past call next turns inv sound stepped
    exact sound.inv inv stepped

/-- Two reprocess streams, of which the second takes the buffers of source stream 5. -/
def twoStreams : ReprocChannel where
  handle := 1
  mStreams := [⟨10, 1, 100, false⟩, ⟨11, 1, 101, false⟩]
  mSrcStreamHandles := fun i => i + 4
  srcChannel := some [⟨4, 40⟩, ⟨5, 50⟩]

/-- A frame without metadata. -/
def frameWithoutMeta : Call :=
  .doReprocessOffline (some [(⟨5, 7, 3, 64⟩, ⟨0, 0, 0⟩)]) none

/-- The metadata mapping is recorded though nothing has been mapped. -/
theorem unmapped_metadata_recorded :
    ¬ ∀ (channel : ReprocChannel) (calls : List Call),
      Guarded (step channel) (fun buffers _ call => SoundCall channel buffers call) ⟨[], []⟩ []
        calls := by
  intro claim
  have turns := (claim twoStreams [frameWithoutMeta]).1
  have sound := turns _ List.mem_cons_self
  exact absurd sound.faithful.listed (by decide)

end AnglerHal.OfflineReproc
