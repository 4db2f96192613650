import AnglerHal.LabelledRun

namespace AnglerHal.LinkedStreams

open LabelledRun

/-!
# Streams linked into channels

A `QCameraChannel` of HAL1 keeps its own streams and those linked from other
channels in one vector, `mStreams`.  It deletes its own streams with itself; a
linked stream goes with the channel that owns it, and must have left the vector
by then.  `stop` takes it out again.

A channel is named by its handle and a stream by a number that is never used
again.  A step has no result for a call that the owners of the channels do not
make: on a deleted channel, the link of a dead or an own stream, and the deletion
of a channel whose streams are linked into one that is not stopped.
-/

/-- `MAX_STREAM_NUM_IN_BUNDLE`. -/
def maxStreamNumInBundle : Nat :=
  8

/-- What the channels ask of a `QCameraStream`; `live` until it is deleted. -/
structure StreamInfo where
  channelHandle : Nat
  serverId : Nat
  isMetadata : Bool
  live : Bool
  deriving DecidableEq

/-- A `QCameraChannel`, with the streams it has added, in their order, and whether it has
been stopped, or its start has failed, after the last link into it. -/
structure Channel where
  alive : Bool
  mStreams : List Nat
  mBIsActive : Bool
  own : List Nat
  stopped : Bool
  deriving DecidableEq

/-- The channels and streams, and which streams have been linked into which channels. -/
structure World where
  channel : Nat → Channel
  stream : Nat → StreamInfo
  nextStream : Nat
  links : List (Nat × Nat)

/-- How the calls of `start` end: the server ids of the bundle, where it is known. -/
structure StartEnv where
  bundle : Option (List Nat)
  setParameter : Nat → Bool
  startChannel : Bool

/-- The calls on channels. -/
inductive Event where
  | addStream (ch serverId : Nat) (isMetadata initOk : Bool)
  | linkStream (ch stream : Nat) (linkOk : Bool)
  | start (ch : Nat) (env : StartEnv)
  | stop (ch : Nat)
  | deleteChannel (ch : Nat)
  /-- `~QCameraChannel`. -/
  | delete (ch : Nat)

/-- What must not happen to a stream. -/
inductive Fault where
  | usedAfterDelete (stream : Nat)
  | deletedTwice (stream : Nat)
  deriving DecidableEq

/-- No channel has a stream yet. -/
def World.new : World where
  channel := fun _ => ⟨true, [], false, [], true⟩
  stream := fun _ => ⟨0, 0, false, false⟩
  nextStream := 0
  links := []

namespace World

variable (world : World)

def setChannel (ch : Nat) (value : Channel) : World :=
  { world with channel := fun other => if other = ch then value else world.channel other }

/-- The dead ones of the streams that are looked into. -/
def derefs (streams : List Nat) : List Fault :=
  (streams.filter fun stream => !(world.stream stream).live).map .usedAfterDelete

def isOwn (ch stream : Nat) : Bool :=
  ch == (world.stream stream).channelHandle

/-- `getStreamByServerID`: the streams it looks into, and the one it finds. -/
def getStreamByServerID (serverId : Nat) : List Nat → List Nat × Option Nat
  | [] => ([], none)
  | stream :: rest =>
    if (world.stream stream).serverId = serverId then ([stream], some stream)
    else
      let found := getStreamByServerID serverId rest
      (stream :: found.1, found.2)

/-- A stream of the bundle, other than metadata, does not take the bundle's parameter. -/
def refusesBundle (env : StartEnv) : Option Nat → Bool
  | some stream => !(world.stream stream).isMetadata && !env.setParameter stream
  | none => false

/-- The loop over the bundle: the streams it looks into, and whether it comes to its end. -/
def setBundle (env : StartEnv) (streams : List Nat) : List Nat → List Nat × Bool
  | [] => ([], true)
  | serverId :: rest =>
    if world.refusesBundle env (world.getStreamByServerID serverId streams).2 then
      ((world.getStreamByServerID serverId streams).1, false)
    else
      let later := setBundle env streams rest
      ((world.getStreamByServerID serverId streams).1 ++ later.1, later.2)

/-- The part of `start` that announces a bundle. -/
def announceBundle (env : StartEnv) (streams : List Nat) : List Nat × Bool :=
  if streams.length ≤ 1 then ([], true)
  else
    match env.bundle with
    | none => ([], false)
    | some ids => if ids.length ≤ 1 then ([], true) else world.setBundle env streams ids

/-- `start` succeeds. -/
def starts (ch : Nat) (env : StartEnv) : Bool :=
  (world.announceBundle env (world.channel ch).mStreams).2 && env.startChannel

def start (ch : Nat) (env : StartEnv) : World × List Fault :=
  let channel := world.channel ch
  let announced := world.announceBundle env channel.mStreams
  let active := channel.mBIsActive || world.starts ch env
  (world.setChannel ch { channel with mBIsActive := active, stopped := !active },
    world.derefs (announced.1 ++ if announced.2 then channel.mStreams else []))

/-- `linkedIdx` after the loop of `stop`: the index of the last linked stream. -/
def linkedIdx (ch : Nat) : List Nat → Nat → Int → Int
  | [], _, idx => idx
  | stream :: rest, i, idx =>
    linkedIdx ch rest (i + 1) (if world.isOwn ch stream then idx else i)

/-- `mStreams` after the loop of `stop`. -/
def unlinked (ch : Nat) (streams : List Nat) : List Nat :=
  if 0 < world.linkedIdx ch streams 0 (-1) then
    streams.eraseIdx (world.linkedIdx ch streams 0 (-1)).toNat
  else streams

def stop (ch : Nat) : World × List Fault :=
  if (world.channel ch).mBIsActive then
    (world.setChannel ch { world.channel ch with
        mStreams := world.unlinked ch (world.channel ch).mStreams
        mBIsActive := false
        stopped := true },
      world.derefs (world.channel ch).mStreams)
  else (world.setChannel ch { world.channel ch with stopped := true }, [])

/-- The loop of the destructor. -/
def deleteOwn (ch : Nat) : List Nat → World → World × List Fault
  | [], world => (world, [])
  | stream :: rest, world =>
    if world.isOwn ch stream then
      let info := world.stream stream
      let deleted := { world with
        stream := fun other => if other = stream then { info with live := false }
          else world.stream other }
      let later := deleteOwn ch rest deleted
      (later.1,
        world.derefs [stream] ++ (if info.live then [] else [.deletedTwice stream]) ++ later.2)
    else
      let later := deleteOwn ch rest world
      (later.1, world.derefs [stream] ++ later.2)

def addStream (ch serverId : Nat) (isMetadata initOk : Bool) : World :=
  if maxStreamNumInBundle ≤ (world.channel ch).mStreams.length then world
  else if initOk then
    { world.setChannel ch { world.channel ch with
        mStreams := (world.channel ch).mStreams ++ [world.nextStream]
        own := (world.channel ch).own ++ [world.nextStream] } with
      stream := fun other => if other = world.nextStream then ⟨ch, serverId, isMetadata, true⟩
        else world.stream other
      nextStream := world.nextStream + 1 }
  else { world with nextStream := world.nextStream + 1 }

def linkStream (ch stream : Nat) (linkOk : Bool) : World :=
  if linkOk then
    { world.setChannel ch { world.channel ch with
        mStreams := (world.channel ch).mStreams ++ [stream]
        stopped := false } with
      links := (stream, ch) :: world.links }
  else world

/-- Every channel into which a stream of this one was linked is stopped. -/
def linksStopped (ch : Nat) : Bool :=
  world.links.all fun link =>
    (!(world.isOwn ch link.1)) || link.2 == ch || !(world.channel link.2).alive ||
      (world.channel link.2).stopped

/-- A call, with its faults. -/
def step (world : World) : Event → Option (World × List Fault)
  | .addStream ch serverId isMetadata initOk =>
    if (world.channel ch).alive then some (world.addStream ch serverId isMetadata initOk, [])
    else none
  | .linkStream ch stream linkOk =>
    if (world.channel ch).alive && (world.stream stream).live && !(world.isOwn ch stream) then
      some (world.linkStream ch stream linkOk, [])
    else none
  | .start ch env => if (world.channel ch).alive then some (world.start ch env) else none
  | .stop ch => if (world.channel ch).alive then some (world.stop ch) else none
  | .deleteChannel ch =>
    if (world.channel ch).alive then
      if (world.channel ch).mBIsActive then
        let stopped := world.stop ch
        some (stopped.1, stopped.2 ++ stopped.1.derefs (stopped.1.channel ch).mStreams)
      else some (world, world.derefs (world.channel ch).mStreams)
    else none
  | .delete ch =>
    if (world.channel ch).alive && world.linksStopped ch then
      let stopped := if (world.channel ch).mBIsActive then world.stop ch else (world, [])
      let deleted := deleteOwn ch (stopped.1.channel ch).mStreams stopped.1
      some (deleted.1.setChannel ch ⟨false, [], false, [], true⟩, stopped.2 ++ deleted.2)
    else none

/-- The channel that a call starts or stops. -/
def attempts (world : World) : Event → Option Nat
  | .start ch _ | .stop ch => some ch
  | .deleteChannel ch => if (world.channel ch).mBIsActive then some ch else none
  | _ => none

/-- No dead stream is used or deleted again, and a channel that is not active after a
start or a stop holds its own streams only. -/
def SoundStep (event : Event) : Prop :=
  ∀ next faults, world.step event = some (next, faults) →
    faults = [] ∧ ∀ ch, world.attempts event = some ch → (next.channel ch).mBIsActive = false →
      (next.channel ch).mStreams = (next.channel ch).own

/-- At most one stream of the list is linked, and the first one is not. -/
def OneBehind (ch : Nat) (streams : List Nat) : Prop :=
  streams.countP (fun stream => !(world.isOwn ch stream)) ≤ 1 ∧
    ∀ first, streams.head? = some first → world.isOwn ch first = true

def NoneLinked (ch : Nat) : Prop :=
  ∀ stream ∈ (world.channel ch).mStreams, world.isOwn ch stream = true

/-- The start does not fail with a linked stream; the stop finds no more than one, and an
own stream before it. -/
def Disciplined (event : Event) : Prop :=
  match event with
  | .start ch env =>
    (world.channel ch).alive = true → (world.channel ch).mBIsActive = false →
      world.starts ch env = false → world.NoneLinked ch
  | .stop ch =>
    (world.channel ch).alive = true →
      if (world.channel ch).mBIsActive then world.OneBehind ch (world.channel ch).mStreams
      else world.NoneLinked ch
  | .deleteChannel ch =>
    (world.channel ch).alive = true → (world.channel ch).mBIsActive = true →
      world.OneBehind ch (world.channel ch).mStreams
  | _ => True

variable {before after streams : List Nat} {linked : Nat} {value : Channel}
  {stopped : World} {faults : List Fault}

/-! ## The list after a stop -/

section Unlinked

variable {world : World} {ch : Nat}

theorem linkedIdx_own (own : ∀ stream ∈ streams, world.isOwn ch stream = true) (i : Nat)
    (idx : Int) : world.linkedIdx ch streams i idx = idx := by
  induction streams generalizing i with
  | nil => rfl
  | cons stream rest ih =>
    rw [linkedIdx, own stream List.mem_cons_self, if_pos rfl]
    exact ih (fun other member => own other (List.mem_cons_of_mem _ member)) _

theorem linkedIdx_append (isLinked : world.isOwn ch linked = false)
    (own : ∀ stream ∈ after, world.isOwn ch stream = true) (i : Nat) (idx : Int) :
    world.linkedIdx ch (before ++ linked :: after) i idx = i + before.length := by
  induction before generalizing i idx with
  | nil =>
    rw [List.nil_append, linkedIdx, isLinked, linkedIdx_own own]
    simp
  | cons stream rest ih =>
    rw [List.cons_append, linkedIdx, ih, List.length_cons]
    omega

/-- The list after a stop: without its last linked stream, unless that one is the first. -/
theorem unlinked_append (isLinked : world.isOwn ch linked = false)
    (own : ∀ stream ∈ after, world.isOwn ch stream = true) :
    world.unlinked ch (before ++ linked :: after) =
      if before = [] then linked :: after else before ++ after := by
  rw [unlinked, linkedIdx_append isLinked own]
  cases before with
  | nil => rfl
  | cons first rest =>
    have positive : (0 : Int) < (0 : Nat) + ((first :: rest).length : Nat) := by
      simp only [List.length_cons]
      omega
    have index : ((0 : Nat) + ((first :: rest).length : Nat) : Int).toNat =
      (first :: rest).length := by
      omega
    rw [if_pos positive, index, if_neg (List.cons_ne_nil _ _), List.eraseIdx_append_of_length_le
      (Nat.le_refl _), Nat.sub_self, List.eraseIdx_cons_zero]

/-- A list that has a linked stream splits at the last one. -/
theorem last_linked (some : ∃ stream ∈ streams, world.isOwn ch stream = false) :
    ∃ before linked after, streams = before ++ linked :: after ∧
      world.isOwn ch linked = false ∧ ∀ stream ∈ after, world.isOwn ch stream = true := by
  induction streams with
  | nil => simp at some
  | cons first rest ih =>
    by_cases later : ∃ stream ∈ rest, world.isOwn ch stream = false
    · obtain ⟨before, linked, after, rfl, isLinked, own⟩ := ih later
      exact ⟨first :: before, linked, after, rfl, isLinked, own⟩
    · have own : ∀ stream ∈ rest, world.isOwn ch stream = true := by simpa using later
      obtain ⟨stream, member, isLinked⟩ := some
      obtain rfl | inRest := List.mem_cons.mp member
      · exact ⟨[], stream, rest, rfl, isLinked, own⟩
      · exact absurd (own stream inRest) (by simp [isLinked])

/-- A stop leaves the own streams exactly when there is no more than one linked stream,
and it is not the first. -/
theorem unlinked_eq_own_iff :
    world.unlinked ch streams = streams.filter (world.isOwn ch) ↔ world.OneBehind ch streams := by
  by_cases some : ∃ stream ∈ streams, world.isOwn ch stream = false
  · obtain ⟨before, linked, after, rfl, isLinked, own⟩ := last_linked some
    have keeps : after.filter (world.isOwn ch) = after := List.filter_eq_self.mpr own
    have noneBehind : after.countP (fun stream => !(world.isOwn ch stream)) = 0 := by
      rw [List.countP_eq_zero]
      exact fun stream member => by simp [own stream member]
    rw [unlinked_append isLinked own, OneBehind, List.filter_append, List.countP_append,
      List.filter_cons_of_neg (by simp [isLinked]), keeps,
      List.countP_cons_of_pos (by simp [isLinked]), noneBehind]
    cases before with
    | nil => simp [isLinked]
    | cons first rest =>
      rw [if_neg (List.cons_ne_nil _ _), List.append_left_inj, eq_comm, List.filter_eq_self]
      constructor
      · intro all
        refine ⟨?_, fun head isHead => ?_⟩
        · have zero : (first :: rest).countP (fun stream => !(world.isOwn ch stream)) = 0 := by
            rw [List.countP_eq_zero]
            exact fun stream member => by simp [all stream member]
          omega
        · obtain rfl : first = head := by simpa using isHead
          exact all first List.mem_cons_self
      · rintro ⟨few, _⟩ stream member
        have zero := List.countP_eq_zero.mp
          (show (first :: rest).countP (fun stream => !(world.isOwn ch stream)) = 0 by omega)
        simpa using zero stream member
  · have own : ∀ stream ∈ streams, world.isOwn ch stream = true := by simpa using some
    rw [unlinked, linkedIdx_own own, if_neg (by omega), List.filter_eq_self.mpr own]
    refine iff_of_true rfl ⟨?_, fun first isFirst => own first (List.mem_of_mem_head? isFirst)⟩
    rw [List.countP_eq_zero.mpr fun stream member => by simp [own stream member]]
    exact Nat.zero_le 1

end Unlinked

/-! ## The invariant -/

/-- What holds of a channel that is alive, between any two calls. -/
structure Holds (world : World) (ch : Nat) : Prop where
  own : (world.channel ch).mStreams.filter (world.isOwn ch) = (world.channel ch).own
  nodup : (world.channel ch).own.Nodup
  live : ∀ stream ∈ (world.channel ch).mStreams, (world.stream stream).live = true
  linked : ∀ stream ∈ (world.channel ch).mStreams, world.isOwn ch stream = false →
    (stream, ch) ∈ world.links
  stopped : (world.channel ch).stopped = true →
    (world.channel ch).mBIsActive = false ∧ (world.channel ch).mStreams = (world.channel ch).own

/-- Every channel that is alive is in order, and no number of a live stream is given again. -/
structure Inv (world : World) : Prop where
  channels : ∀ ch, (world.channel ch).alive = true → world.Holds ch
  ids : ∀ stream, (world.stream stream).live = true → stream < world.nextStream

section Steps

variable {world next : World} {ch other : Nat}

@[simp] theorem setChannel_channel :
    (world.setChannel ch value).channel other =
      if other = ch then value else world.channel other := rfl

theorem derefs_eq_nil (live : ∀ stream ∈ streams, (world.stream stream).live = true) :
    world.derefs streams = [] := by
  rw [derefs, List.filter_eq_nil_iff.mpr fun stream member => by simp [live stream member]]
  rfl

theorem Holds.derefs_sub (holds : world.Holds ch)
    (sub : ∀ stream ∈ streams, stream ∈ (world.channel ch).mStreams) :
    world.derefs streams = [] :=
  derefs_eq_nil fun stream member => holds.live stream (sub stream member)

/-- A step that leaves a channel and its streams alone. -/
theorem Holds.frame (holds : world.Holds ch) (same : next.channel ch = world.channel ch)
    (streams : ∀ stream ∈ (world.channel ch).mStreams, next.stream stream = world.stream stream)
    (links : ∀ link ∈ world.links, link ∈ next.links) : next.Holds ch := by
  have sameOwn : ∀ stream ∈ (world.channel ch).mStreams,
      next.isOwn ch stream = world.isOwn ch stream := fun stream member => by
    rw [isOwn, isOwn, streams stream member]
  refine ⟨?_, ?_, ?_, ?_, ?_⟩ <;> rw [same]
  · rw [List.filter_congr sameOwn]
    exact holds.own
  · exact holds.nodup
  · intro stream member
    rw [streams stream member]
    exact holds.live stream member
  · intro stream member isLinked
    exact links _ (holds.linked stream member (sameOwn stream member ▸ isLinked))
  · exact holds.stopped

/-- A step of one channel that keeps the streams. -/
theorem Inv.setChannel (inv : world.Inv)
    (holds : value.alive = true → (world.setChannel ch value).Holds ch) :
    (world.setChannel ch value).Inv := by
  refine ⟨fun other alive => ?_, inv.ids⟩
  by_cases same : other = ch
  · subst same
    exact holds (by simpa using alive)
  · rw [setChannel_channel, if_neg same] at alive
    exact (inv.channels other alive).frame (by simp [same]) (fun _ _ => rfl) (fun _ => id)

theorem getStreamByServerID_sub (serverId : Nat) (streams : List Nat) :
    ∀ stream ∈ (world.getStreamByServerID serverId streams).1, stream ∈ streams := by
  induction streams with
  | nil => simp [getStreamByServerID]
  | cons first rest ih =>
    rw [getStreamByServerID]
    split
    · simp
    · intro stream member
      obtain rfl | later := List.mem_cons.mp member
      · exact List.mem_cons_self
      · exact List.mem_cons_of_mem _ (ih stream later)

theorem setBundle_sub (env : StartEnv) (streams ids : List Nat) :
    ∀ stream ∈ (world.setBundle env streams ids).1, stream ∈ streams := by
  induction ids with
  | nil => simp [setBundle]
  | cons serverId rest ih =>
    intro stream member
    simp only [setBundle] at member
    split at member
    · exact getStreamByServerID_sub serverId streams stream member
    · obtain seen | later := List.mem_append.mp member
      · exact getStreamByServerID_sub serverId streams stream seen
      · exact ih stream later

theorem announceBundle_sub (env : StartEnv) (streams : List Nat) :
    ∀ stream ∈ (world.announceBundle env streams).1, stream ∈ streams := by
  unfold announceBundle
  split
  · simp
  · split
    · simp
    · split
      · simp
      · exact setBundle_sub env streams _

theorem Holds.start_faults (holds : world.Holds ch) (env : StartEnv) :
    (world.start ch env).2 = [] := by
  refine holds.derefs_sub fun stream member => ?_
  obtain announced | started := List.mem_append.mp member
  · exact announceBundle_sub env _ stream announced
  · split at started
    · exact started
    · simp at started

theorem Holds.stop_faults (holds : world.Holds ch) : (world.stop ch).2 = [] := by
  unfold stop
  split
  · exact holds.derefs_sub fun _ => id
  · rfl

/-- What is left of the streams is among them. -/
theorem unlinked_sub : ∀ stream ∈ world.unlinked ch streams, stream ∈ streams := by
  unfold unlinked
  intro stream member
  split at member
  · exact (List.eraseIdx_sublist _ _).mem member
  · exact member

theorem noneLinked_iff (holds : world.Holds ch) :
    (world.channel ch).mStreams = (world.channel ch).own ↔ world.NoneLinked ch := by
  rw [← holds.own, eq_comm]
  exact List.filter_eq_self

/-- After a stop of an active channel, the own streams are left exactly when the linked one
could be taken out. -/
theorem stop_own_iff (holds : world.Holds ch) (active : (world.channel ch).mBIsActive = true) :
    ((world.stop ch).1.channel ch).mStreams = ((world.stop ch).1.channel ch).own ↔
      world.OneBehind ch (world.channel ch).mStreams := by
  simp only [stop, active, if_true, setChannel_channel]
  rw [← holds.own]
  exact unlinked_eq_own_iff

theorem stop_inactive : ((world.stop ch).1.channel ch).mBIsActive = false := by
  unfold stop
  split
  · simp
  · rename_i inactive
    simpa using inactive

/-- A stop that finds the channel inactive leaves its list as it is. -/
theorem stop_noneLinked_iff (holds : world.Holds ch)
    (inactive : (world.channel ch).mBIsActive = false) :
    ((world.stop ch).1.channel ch).mStreams = ((world.stop ch).1.channel ch).own ↔
      world.NoneLinked ch := by
  simp only [stop, inactive, Bool.false_eq_true, if_false, setChannel_channel, if_true]
  exact noneLinked_iff holds

theorem Inv.stop (inv : world.Inv) (alive : (world.channel ch).alive = true)
    (own : ((world.stop ch).1.channel ch).mStreams = ((world.stop ch).1.channel ch).own) :
    (world.stop ch).1.Inv := by
  have holds := inv.channels ch alive
  unfold World.stop at own ⊢
  split
  · rename_i active
    simp only [active, if_true, setChannel_channel] at own
    refine inv.setChannel fun _ => ⟨?_, ?_, ?_, ?_, ?_⟩ <;>
      simp only [setChannel_channel, if_true]
    · change List.filter (world.isOwn ch) _ = _
      rw [own, ← holds.own, List.filter_filter]
      simp
    · exact holds.nodup
    · exact fun stream member => holds.live stream (unlinked_sub stream member)
    · exact fun stream member => holds.linked stream (unlinked_sub stream member)
    · exact fun _ => ⟨trivial, own⟩
  · rename_i inactive
    simp only [inactive, Bool.false_eq_true, if_false, setChannel_channel, if_true] at own
    refine inv.setChannel fun _ => ⟨?_, ?_, ?_, ?_, ?_⟩ <;>
      simp only [setChannel_channel, if_true]
    · exact holds.own
    · exact holds.nodup
    · exact holds.live
    · exact holds.linked
    · exact fun _ => ⟨by simpa using inactive, own⟩

theorem Inv.start (inv : world.Inv) (alive : (world.channel ch).alive = true) {env : StartEnv}
    (own : ((world.start ch env).1.channel ch).mBIsActive = false →
      ((world.start ch env).1.channel ch).mStreams = ((world.start ch env).1.channel ch).own) :
    (world.start ch env).1.Inv := by
  have holds := inv.channels ch alive
  refine inv.setChannel fun _ => ⟨?_, ?_, ?_, ?_, ?_⟩ <;> simp only [setChannel_channel, if_true]
  · exact holds.own
  · exact holds.nodup
  · exact holds.live
  · exact holds.linked
  · intro stopped
    have inactive : (world.channel ch).mBIsActive = false ∧ world.starts ch env = false := by
      simpa using stopped
    simp only [World.start, inactive, setChannel_channel, if_true] at own
    exact ⟨by simp [inactive], own rfl⟩

/-- A new stream is an own one, and no other channel has it. -/
theorem Inv.addStream (inv : world.Inv) (alive : (world.channel ch).alive = true) (serverId : Nat)
    (isMetadata initOk : Bool) : (world.addStream ch serverId isMetadata initOk).Inv := by
  have known (ch : Nat) (alive : (world.channel ch).alive = true) :
      ∀ stream ∈ (world.channel ch).mStreams, stream ≠ world.nextStream := fun stream member =>
    Nat.ne_of_lt (inv.ids stream ((inv.channels ch alive).live stream member))
  unfold World.addStream
  split
  · exact inv
  · split
    · refine ⟨fun other aliveNext => ?_, fun stream live => ?_⟩
      · by_cases same : other = ch
        · subst same
          have holds := inv.channels other alive
          have sameOwn : ∀ stream ∈ (world.channel other).mStreams,
              (other == (if stream = world.nextStream then
                  (⟨other, serverId, isMetadata, true⟩ : StreamInfo)
                else world.stream stream).channelHandle) = world.isOwn other stream := by
            intro stream member
            rw [if_neg (known other alive stream member), isOwn]
          refine ⟨?_, ?_, ?_, ?_, ?_⟩ <;> simp only [setChannel_channel, if_true]
          · rw [List.filter_append]
            refine congrArg₂ (· ++ ·) ((List.filter_congr sameOwn).trans holds.own) ?_
            simp [isOwn]
          · rw [List.nodup_append]
            refine ⟨holds.nodup, by simp, fun stream member fresh isFresh => ?_⟩
            rw [← holds.own] at member
            rw [List.mem_singleton.mp isFresh]
            exact known other alive stream (List.mem_of_mem_filter member)
          · intro stream member
            obtain old | new := List.mem_append.mp member
            · rw [if_neg (known other alive stream old)]
              exact holds.live stream old
            · rw [if_pos (List.mem_singleton.mp new)]
          · intro stream member isLinked
            obtain old | new := List.mem_append.mp member
            · exact holds.linked stream old ((sameOwn stream old).symm.trans isLinked)
            · obtain rfl := List.mem_singleton.mp new
              simp [isOwn] at isLinked
          · intro stopped
            have := holds.stopped stopped
            exact ⟨this.1, by rw [this.2]⟩
        · have aliveBefore : (world.channel other).alive = true := by simpa [same] using aliveNext
          exact (inv.channels other aliveBefore).frame (by simp [same])
            (fun stream member => if_neg (known other aliveBefore stream member)) (fun _ => id)
      · simp only at live ⊢
        split at live
        · omega
        · have := inv.ids stream live
          omega
    · exact ⟨fun other alive => (inv.channels other alive).frame rfl (fun _ _ => rfl) (fun _ => id),
        fun stream live => Nat.lt_succ_of_lt (inv.ids stream live)⟩

theorem Inv.linkStream (inv : world.Inv) (alive : (world.channel ch).alive = true) {stream : Nat}
    (live : (world.stream stream).live = true) (isLinked : world.isOwn ch stream = false)
    (linkOk : Bool) : (world.linkStream ch stream linkOk).Inv := by
  unfold World.linkStream
  split
  · refine ⟨fun other aliveNext => ?_, inv.ids⟩
    by_cases same : other = ch
    · subst same
      have holds := inv.channels other alive
      refine ⟨?_, ?_, ?_, ?_, ?_⟩ <;> simp only [setChannel_channel, if_true]
      · change List.filter (world.isOwn other) _ = _
        rw [List.filter_append, holds.own, List.filter_cons_of_neg (by simp [isLinked])]
        simp
      · exact holds.nodup
      · intro known member
        obtain old | new := List.mem_append.mp member
        · exact holds.live known old
        · exact List.mem_singleton.mp new ▸ live
      · intro known member notOwn
        obtain old | new := List.mem_append.mp member
        · exact List.mem_cons_of_mem _ (holds.linked known old notOwn)
        · exact List.mem_singleton.mp new ▸ List.mem_cons_self
      · simp
    · exact (inv.channels other (by simpa [same] using aliveNext)).frame (by simp [same])
        (fun _ _ => rfl) (fun _ => List.mem_cons_of_mem _)
  · exact inv

/-! ## Deletion -/

theorem deleteOwn_frame (ch : Nat) (streams : List Nat) (world : World) :
    (deleteOwn ch streams world).1.channel = world.channel ∧
      (deleteOwn ch streams world).1.links = world.links ∧
      (deleteOwn ch streams world).1.nextStream = world.nextStream ∧
      (∀ stream, world.isOwn ch stream = false →
        (deleteOwn ch streams world).1.stream stream = world.stream stream) ∧
      ∀ stream, ((deleteOwn ch streams world).1.stream stream).live = true →
        (world.stream stream).live = true := by
  induction streams generalizing world with
  | nil => exact ⟨rfl, rfl, rfl, fun _ _ => rfl, fun _ => id⟩
  | cons first rest ih =>
    unfold deleteOwn
    split
    · rename_i own
      obtain ⟨channel, links, ids, others, fewer⟩ := ih { world with
        stream := fun other => if other = first then { world.stream first with live := false }
          else world.stream other }
      refine ⟨channel, links, ids, fun stream notOwn => ?_, fun stream live => ?_⟩
      · have different : stream ≠ first := fun same => by simp [same, own] at notOwn
        refine (others stream ?_).trans (if_neg different)
        simpa [isOwn, different] using notOwn
      · have before := fewer stream live
        simp only at before
        split at before
        · simp at before
        · exact before
    · exact ih world

/-- Every own stream is deleted once. -/
theorem deleteOwn_faults (streams : List Nat) (world : World)
    (live : ∀ stream ∈ streams, (world.stream stream).live = true)
    (nodup : (streams.filter (world.isOwn ch)).Nodup) : (deleteOwn ch streams world).2 = [] := by
  induction streams generalizing world with
  | nil => rfl
  | cons first rest ih =>
    have seen : world.derefs [first] = [] :=
      derefs_eq_nil fun stream member =>
        List.mem_singleton.mp member ▸ live first List.mem_cons_self
    have liveRest : ∀ stream ∈ rest, (world.stream stream).live = true :=
      fun stream member => live stream (List.mem_cons_of_mem _ member)
    unfold deleteOwn
    split
    · rename_i own
      rw [List.filter_cons_of_pos own, List.nodup_cons] at nodup
      have apart : ∀ stream ∈ rest, stream ≠ first := by
        rintro stream member rfl
        exact nodup.1 (List.mem_filter.mpr ⟨member, own⟩)
      have sameOwn : ∀ stream ∈ rest, (ch == (if stream = first then
          { world.stream first with live := false } else world.stream stream).channelHandle) =
          world.isOwn ch stream := fun stream member => by rw [if_neg (apart stream member), isOwn]
      have later := ih { world with
          stream := fun other => if other = first then { world.stream first with live := false }
            else world.stream other }
        (fun stream member => by
          simp only [if_neg (apart stream member)]
          exact liveRest stream member)
        (by
          change (List.filter (fun stream => ch == _) rest).Nodup
          rw [List.filter_congr sameOwn]
          exact nodup.2)
      simp [seen, live first List.mem_cons_self, later]
    · rename_i notOwn
      rw [List.filter_cons_of_neg notOwn] at nodup
      simp [seen, ih world liveRest nodup]

/-- The channel as the loop of the destructor finds it. -/
theorem Holds.toDelete (holds : world.Holds ch)
    (isStop : (if (world.channel ch).mBIsActive then world.stop ch else (world, [])) =
      (stopped, faults)) :
    faults = [] ∧ stopped.stream = world.stream ∧ stopped.links = world.links ∧
      stopped.nextStream = world.nextStream ∧
      (∀ other ≠ ch, stopped.channel other = world.channel other) ∧
      (stopped.channel ch).mStreams.Sublist (world.channel ch).mStreams := by
  by_cases active : (world.channel ch).mBIsActive = true
  · rw [if_pos active] at isStop
    have none := holds.stop_faults
    simp only [World.stop, active, if_true, Prod.mk.injEq] at isStop none
    obtain ⟨rfl, rfl⟩ := isStop
    refine ⟨none, rfl, rfl, rfl, fun other different => if_neg different, ?_⟩
    simp only [setChannel_channel, if_true, unlinked]
    split
    · exact List.eraseIdx_sublist _ _
    · exact List.Sublist.refl _
  · rw [if_neg active] at isStop
    obtain ⟨rfl, rfl⟩ := Prod.mk.inj isStop
    exact ⟨rfl, rfl, rfl, rfl, fun _ _ => rfl, List.Sublist.refl _⟩

theorem Holds.delete_faults (holds : world.Holds ch)
    (isStop : (if (world.channel ch).mBIsActive then world.stop ch else (world, [])) =
      (stopped, faults)) :
    faults ++ (deleteOwn ch (stopped.channel ch).mStreams stopped).2 = [] := by
  obtain ⟨none, stream, _, _, _, sub⟩ := holds.toDelete isStop
  have sameOwn : stopped.isOwn ch = world.isOwn ch := by
    funext other
    rw [isOwn, isOwn, stream]
  rw [none, deleteOwn_faults]
  · rfl
  · intro other member
    rw [stream]
    exact holds.live other (sub.mem member)
  · rw [sameOwn]
    exact (holds.own ▸ holds.nodup).sublist (sub.filter _)

/-- A channel takes no stream of another one with it that is not stopped. -/
theorem Inv.delete (inv : world.Inv) (alive : (world.channel ch).alive = true)
    (orderly : world.linksStopped ch = true)
    (isStop : (if (world.channel ch).mBIsActive then world.stop ch else (world, [])) =
      (stopped, faults)) :
    ((deleteOwn ch (stopped.channel ch).mStreams stopped).1.setChannel ch
      ⟨false, [], false, [], true⟩).Inv := by
  obtain ⟨_, stream, links, ids, others, _⟩ := (inv.channels ch alive).toDelete isStop
  obtain ⟨channel, linksKept, idsKept, kept, fewer⟩ :=
    deleteOwn_frame ch (stopped.channel ch).mStreams stopped
  refine ⟨fun other aliveNext => ?_, fun known live => ?_⟩
  · by_cases same : other = ch
    · simp [same] at aliveNext
    · have isOther : stopped.channel other = world.channel other := others other same
      have aliveBefore : (world.channel other).alive = true := by
        simpa [same, channel, isOther] using aliveNext
      have holds := inv.channels other aliveBefore
      refine holds.frame (by simp [same, channel, isOther]) (fun known member => ?_)
        fun link member => (linksKept.trans links).symm ▸ member
      have notOwn : world.isOwn ch known = false := by
        by_contra own
        have isLinked : world.isOwn other known = false := by
          simp only [isOwn, Bool.not_eq_false, beq_iff_eq] at own ⊢
          simpa [← own] using same
        have allowed := List.all_eq_true.mp orderly _ (holds.linked known member isLinked)
        have isStopped : (world.channel other).stopped = true := by
          simpa [own, same, aliveBefore] using allowed
        rw [(holds.stopped isStopped).2, ← holds.own] at member
        simp [isLinked] at member
      exact (kept known (by rw [isOwn, stream]; exact notOwn)).trans (congrFun stream known)
  · have before := inv.ids known (congrFun stream known ▸ fewer known live)
    exact (idsKept.trans ids).symm ▸ before

/-- A call on channels in order is sound exactly when it is disciplined. -/
theorem Inv.soundStep_iff (inv : world.Inv) (event : Event) :
    world.SoundStep event ↔ world.Disciplined event := by
  cases event with
  | addStream ch serverId isMetadata initOk =>
    refine iff_of_true (fun next faults stepped => ?_) trivial
    simp only [step, Option.ite_none_right_eq_some, Option.some.injEq, Prod.mk.injEq] at stepped
    exact ⟨stepped.2.2.symm, by simp [attempts]⟩
  | linkStream ch stream linkOk =>
    refine iff_of_true (fun next faults stepped => ?_) trivial
    simp only [step, Option.ite_none_right_eq_some, Option.some.injEq, Prod.mk.injEq] at stepped
    exact ⟨stepped.2.2.symm, by simp [attempts]⟩
  | start ch env =>
    have own : ∀ alive : (world.channel ch).alive = true, _ := fun alive =>
      noneLinked_iff (inv.channels ch alive)
    constructor
    · intro sound alive inactive fails
      have after := (sound (world.start ch env).1 _ (if_pos alive)).2 ch rfl
      simp only [World.start, inactive, fails, setChannel_channel, if_true] at after
      exact (own alive).mp (after rfl)
    · intro disciplined next faults stepped
      simp only [step, Option.ite_none_right_eq_some, Option.some.injEq] at stepped
      obtain ⟨alive, stepped⟩ := stepped
      obtain ⟨rfl, rfl⟩ := Prod.mk.inj stepped.symm
      refine ⟨(inv.channels ch alive).start_faults env, fun other isCh failed => ?_⟩
      obtain rfl : ch = other := by simpa [attempts] using isCh
      have both : (world.channel ch).mBIsActive = false ∧ world.starts ch env = false := by
        simpa [World.start] using failed
      simpa [World.start] using (own alive).mpr (disciplined alive both.1 both.2)
  | stop ch =>
    constructor
    · intro sound alive
      have after := (sound (world.stop ch).1 _ (if_pos alive)).2 ch rfl stop_inactive
      split
      · exact (stop_own_iff (inv.channels ch alive) ‹_›).mp after
      · rename_i inactive
        exact (stop_noneLinked_iff (inv.channels ch alive) (by simpa using inactive)).mp after
    · intro disciplined next faults stepped
      simp only [step, Option.ite_none_right_eq_some, Option.some.injEq] at stepped
      obtain ⟨alive, stepped⟩ := stepped
      obtain rfl : (world.stop ch).1 = next := congrArg Prod.fst stepped
      obtain rfl : (world.stop ch).2 = faults := congrArg Prod.snd stepped
      refine ⟨(inv.channels ch alive).stop_faults, fun other isCh _ => ?_⟩
      obtain rfl : ch = other := by simpa [attempts] using isCh
      have disciplined := disciplined alive
      split at disciplined
      · exact (stop_own_iff (inv.channels ch alive) ‹_›).mpr disciplined
      · rename_i inactive
        exact (stop_noneLinked_iff (inv.channels ch alive) (by simpa using inactive)).mpr
          disciplined
  | deleteChannel ch =>
    constructor
    · intro sound alive active
      have after := (sound (world.stop ch).1 _ (by rw [step, if_pos alive, if_pos active])).2 ch
        (by simp [attempts, active])
      exact (stop_own_iff (inv.channels ch alive) active).mp (after stop_inactive)
    · intro disciplined next faults stepped
      simp only [step, Option.ite_none_right_eq_some] at stepped
      obtain ⟨alive, stepped⟩ := stepped
      have holds := inv.channels ch alive
      split at stepped
      · rename_i active
        obtain ⟨rfl, rfl⟩ := Prod.mk.inj (Option.some.inj stepped)
        refine ⟨?_, fun other isCh _ => ?_⟩
        · rw [holds.stop_faults, derefs_eq_nil]
          · rfl
          · intro stream member
            simp only [World.stop, active, if_true, setChannel_channel] at member ⊢
            exact holds.live stream (unlinked_sub stream member)
        · obtain rfl : ch = other := by simpa [attempts, active] using isCh
          exact (stop_own_iff holds active).mpr (disciplined alive active)
      · rename_i inactive
        obtain ⟨rfl, rfl⟩ := Prod.mk.inj (Option.some.inj stepped)
        exact ⟨holds.derefs_sub fun _ => id, fun other isCh => by simp [attempts, inactive] at isCh⟩
  | delete ch =>
    refine iff_of_true (fun next faults stepped => ?_) trivial
    simp only [step, Option.ite_none_right_eq_some, Bool.and_eq_true, Option.some.injEq] at stepped
    obtain ⟨⟨alive, _⟩, stepped⟩ := stepped
    obtain ⟨-, rfl⟩ := Prod.mk.inj stepped.symm
    exact ⟨(inv.channels ch alive).delete_faults rfl, by simp [attempts]⟩

/-- A sound call leaves the channels in order. -/
theorem Inv.step (inv : world.Inv) {event : Event}
    (sound : world.SoundStep event) (stepped : world.step event = some (next, faults)) :
    next.Inv := by
  have after := (sound next faults stepped).2
  cases event with
  | addStream ch serverId isMetadata initOk =>
    simp only [World.step, Option.ite_none_right_eq_some, Option.some.injEq,
      Prod.mk.injEq] at stepped
    exact stepped.2.1 ▸ inv.addStream stepped.1 serverId isMetadata initOk
  | linkStream ch stream linkOk =>
    simp only [World.step, Option.ite_none_right_eq_some, Option.some.injEq, Prod.mk.injEq,
      Bool.and_eq_true, Bool.not_eq_true'] at stepped
    obtain ⟨⟨⟨alive, live⟩, isLinked⟩, rfl, -⟩ := stepped
    exact inv.linkStream alive live isLinked linkOk
  | start ch env =>
    simp only [World.step, Option.ite_none_right_eq_some, Option.some.injEq] at stepped
    obtain ⟨alive, stepped⟩ := stepped
    obtain rfl : (world.start ch env).1 = next := congrArg Prod.fst stepped
    exact inv.start alive (after ch rfl)
  | stop ch =>
    simp only [World.step, Option.ite_none_right_eq_some, Option.some.injEq] at stepped
    obtain ⟨alive, stepped⟩ := stepped
    obtain rfl : (world.stop ch).1 = next := congrArg Prod.fst stepped
    exact inv.stop alive (after ch rfl stop_inactive)
  | deleteChannel ch =>
    simp only [World.step, Option.ite_none_right_eq_some] at stepped
    obtain ⟨alive, stepped⟩ := stepped
    split at stepped
    · rename_i active
      obtain rfl : (world.stop ch).1 = next := congrArg Prod.fst (Option.some.inj stepped)
      exact inv.stop alive (after ch (by simp [attempts, active]) stop_inactive)
    · obtain rfl : world = next := congrArg Prod.fst (Option.some.inj stepped)
      exact inv
  | delete ch =>
    simp only [World.step, Option.ite_none_right_eq_some, Bool.and_eq_true,
      Option.some.injEq] at stepped
    obtain ⟨⟨alive, orderly⟩, stepped⟩ := stepped
    obtain ⟨rfl, -⟩ := Prod.mk.inj stepped
    exact inv.delete alive orderly rfl

theorem Inv.new : World.new.Inv where
  channels _ _ := ⟨rfl, List.nodup_nil, by simp [World.new], by simp [World.new],
    fun _ => ⟨rfl, rfl⟩⟩
  ids := by simp [World.new]

end Steps

end World

open World

/-- Every call of a run is sound exactly when every call is disciplined. -/
theorem linkedRun_sound_iff (events : List Event) :
    Guarded World.step (fun world _ event => world.SoundStep event) World.new [] events ↔
      Guarded World.step (fun world _ event => world.Disciplined event) World.new [] events := by
  refine guarded_iff_of_invariant World.Inv (fun inv => inv.soundStep_iff _) ?_ Inv.new
  intro world past event next faults inv sound stepped
  exact inv.step sound stepped

/-- Two streams of the first channel are linked behind a stream of the second. -/
def twoLinked : List Event :=
  [.addStream 1 10 true true, .addStream 1 11 false true, .addStream 2 12 false true,
    .linkStream 2 0 true, .linkStream 2 1 true, .start 2 ⟨some [], fun _ => true, true⟩, .stop 2]

/-- A stop takes out the last linked stream only. -/
theorem twoLinked_keeps_first :
    ¬ ∀ events : List Event,
      Guarded World.step (fun world _ event => world.SoundStep event) World.new [] events := by
  intro claim
  have stopped := ((((((claim twoLinked).2 _ _ rfl).2 _ _ rfl).2 _ _ rfl).2 _ _ rfl).2 _ _ rfl).2
    _ _ rfl
  have same := (stopped.1 _ _ rfl).2 2 rfl rfl
  exact absurd same (by decide)

end AnglerHal.LinkedStreams
