import AnglerHal.JpegService
import Mathlib.Data.List.Nodup

namespace AnglerHal.JpegCreate

open Jpeg (maxJpegClientNum getIndexByHandler)
open JpegService (SessionKey EncodeParams ServiceConfig mmJpegMaxSession mmJpegMaxBuf)

/-!
# Creating a chain of encoder sessions

`mm_jpeg_create_session` allocates work buffers and two queues and then takes a
session slot for each OMX session of the chain.  Any of its steps may fail; here
they have their outcomes as an argument, so that every path through the two error
labels can be followed to the returned code and to the slots it leaves.
-/

/-- The fields of `mm_jpeg_job_session_t` that the function sets.  `queues` stands for
`session_handle_q` and `out_buf_q`, and `workBuffer` for an entry of `ionBuffer`. -/
structure Session where
  active : Bool
  config : Bool
  jobIndex : Nat
  nextSession : Option SessionKey
  workBuffer : Option Nat
  params : EncodeParams
  clientHdl : Nat
  sessionId : Nat
  queues : Option Nat
  numOmxSessions : Nat
  deriving DecidableEq

/-- What the function uses of `mm_jpeg_obj`; `numSessions` counts OMX handles. -/
structure JpegObj where
  session : SessionKey → Session
  workBufCnt : Nat
  numSessions : Nat

/-- How the calls of the function end, by the number of the buffer or session. -/
structure Outcomes where
  bufferAllocate : Nat → Bool
  mallocHandleQ : Bool
  mallocOutBufQ : Bool
  /-- `OMX_GetHandle`, in `mm_jpeg_session_create`. -/
  getHandle : Nat → Bool
  /-- `mm_jpeg_session_configure`. -/
  configure : Nat → Int
  /-- The node that `mm_jpeg_queue_enq` allocates for a session. -/
  enqSession : Nat → Bool
  /-- The node that it allocates for an output buffer. -/
  enqBuffer : Nat → Bool

/-- The arguments of a call, and the name of the two queues it makes. -/
structure Call where
  config : ServiceConfig
  clientHdl : Nat
  params : EncodeParams
  queues : Nat
  outcomes : Outcomes

/-- The loop's variables: the object, `p_prev_session`, `*p_session_id` and the
contents of `session_handle_q`. -/
structure Chain where
  obj : JpegObj
  previous : Option SessionKey
  sessionId : Nat
  handleQ : List SessionKey

/-- What a call leaves. -/
structure Created where
  rc : Int
  sessionId : Nat
  obj : JpegObj
  handleQ : List SessionKey
  outBufQ : List Nat

def JpegObj.setSession (obj : JpegObj) (key : SessionKey) (value : Session) : JpegObj :=
  { obj with session := fun other => if other = key then value else obj.session other }

/-- `(JOB_ID_MAGICVAL << 24) | (session_idx << 8) | clnt_idx`. -/
def sessionIdOf (key : SessionKey) : Nat :=
  (1 <<< 24) ||| (key.sessionIdx <<< 8) ||| key.clientIdx

/-- The inactive slots of a client, in the order of their indices. -/
def inactiveSlots (clientIdx : Nat) (obj : JpegObj) : List SessionKey :=
  ((List.range mmJpegMaxSession).map (SessionKey.mk clientIdx)).filter
    fun key => !(obj.session key).active

/-- `mm_jpeg_get_new_session_idx`: the first inactive slot. -/
def getNewSessionIdx (clientIdx : Nat) (obj : JpegObj) : Option SessionKey :=
  ((List.range mmJpegMaxSession).map (SessionKey.mk clientIdx)).find?
    fun key => !(obj.session key).active

namespace Call

variable (call : Call)

/-- `num_omx_sessions`. -/
def numOmxSessions : Nat :=
  if call.params.burstMode then call.config.concurrentSessions else 1

/-- `work_bufs_need`. -/
def workBufsNeed : Nat :=
  if call.config.concurrentSessions < call.numOmxSessions then call.config.concurrentSessions
  else call.numOmxSessions

def invalid : Prop :=
  mmJpegMaxBuf < call.params.numSrcBufs ∨ mmJpegMaxBuf < call.params.numDstBufs ∨
    maxJpegClientNum ≤ getIndexByHandler call.clientHdl

instance : Decidable call.invalid :=
  inferInstanceAs (Decidable (_ ∨ _ ∨ _))

/-- The loop over work buffers, with the count it leaves and whether it ended. -/
def allocateWork : Nat → Nat → Nat × Bool
  | 0, count => (count, true)
  | rest + 1, count =>
    if call.outcomes.bufferAllocate count then allocateWork rest (count + 1) else (count, false)

/-- The slot as it is taken, with its place in the chain. -/
def takeSlot (key : SessionKey) (chain : Chain) : JpegObj :=
  let taken := chain.obj.setSession key
    { chain.obj.session key with active := true, jobIndex := 0, nextSession := none }
  match chain.previous with
  | none => taken
  | some previous =>
    taken.setSession previous { taken.session previous with nextSession := some key }

/-- The session before it is configured; `mm_jpeg_session_create` clears `config`. -/
def openedSession (i : Nat) (key : SessionKey) (session : Session) : Session :=
  { session with
    config := false
    workBuffer := if i < call.config.concurrentSessions then some i else none
    params := call.params
    clientHdl := call.clientHdl
    sessionId := sessionIdOf key
    queues := some call.queues }

/-- One round of the loop, and the `rc` with which it leaves for `error2`. -/
def createOne (i : Nat) (chain : Chain) : Chain × Option Int :=
  match getNewSessionIdx (getIndexByHandler call.clientHdl) chain.obj with
  -- `rc` is still that of `mm_jpeg_queue_init` or of the last configuration.
  | none => (chain, some 0)
  | some key =>
    let linked := takeSlot key chain
    if call.outcomes.getHandle i then
      let session := call.openedSession i key (linked.session key)
      let opened : Chain :=
        { obj := { linked.setSession key session with numSessions := linked.numSessions + 1 }
          previous := some key
          sessionId := if chain.sessionId = 0 then sessionIdOf key else chain.sessionId
          handleQ := if call.outcomes.enqSession i then chain.handleQ ++ [key] else chain.handleQ }
      if call.outcomes.configure i = 0 then
        ({ opened with
            obj := opened.obj.setSession key
              { session with config := true, numOmxSessions := call.numOmxSessions } },
          none)
      else (opened, some (call.outcomes.configure i))
    else
      ({ chain with
          obj := linked.setSession key
            { linked.session key with
              config := false
              workBuffer := if i < call.config.concurrentSessions then some i else none
              active := false }
          previous := some key },
        some 0)

/-- The loop over OMX sessions, from session `i` on. -/
def createLoop : Nat → Nat → Chain → Chain × Option Int
  | 0, _, chain => (chain, none)
  | rest + 1, i, chain =>
    match call.createOne i chain with
    | (next, none) => createLoop rest (i + 1) next
    | (stopped, some rc) => (stopped, some rc)

/-- `mm_jpeg_create_session`. -/
def createSession (obj : JpegObj) : Created :=
  if call.invalid then ⟨-1, 0, obj, [], []⟩
  else
    let work := call.allocateWork (call.workBufsNeed - obj.workBufCnt) obj.workBufCnt
    let obj := { obj with workBufCnt := work.1 }
    if !work.2 then ⟨-1, 0, obj, [], []⟩
    else if !call.outcomes.mallocHandleQ then ⟨-1, 0, obj, [], []⟩
    else if !call.outcomes.mallocOutBufQ then ⟨-1, 0, obj, [], []⟩
    else
      match call.createLoop call.numOmxSessions 0 ⟨obj, none, 0, []⟩ with
      | (chain, some rc) => ⟨rc, chain.sessionId, chain.obj, chain.handleQ, []⟩
      | (chain, none) =>
        ⟨0, chain.sessionId, chain.obj, chain.handleQ,
          ((List.range call.params.numDstBufs).filter call.outcomes.enqBuffer).map (· + 1)⟩

end Call

/-! ## What the call promises -/

/-- The whole chain is there: its sessions wait in `session_handle_q`, in their order. -/
structure Whole (call : Call) (created : Created) : Prop where
  sessionId : created.sessionId ≠ 0
  count : created.handleQ.length = call.numOmxSessions
  distinct : created.handleQ.Nodup
  each : ∀ i key, created.handleQ[i]? = some key →
    (created.obj.session key).active = true ∧ (created.obj.session key).config = true ∧
      (created.obj.session key).queues = some call.queues ∧
      (created.obj.session key).nextSession = created.handleQ[i + 1]?
  outBufs : created.outBufQ = (List.range call.params.numDstBufs).map (· + 1)

/-- The whole chain with `0`, and no new active slot with any other code. -/
structure AllOrNothing (call : Call) (obj : JpegObj) (created : Created) : Prop where
  success : created.rc = 0 → Whole call created
  failure : created.rc ≠ 0 → ∀ key, (obj.session key).active = false →
    (created.obj.session key).active = false

/-- The call returns before its loop over sessions. -/
def FailsEarly (call : Call) (obj : JpegObj) : Prop :=
  call.invalid ∨
    (∃ i, obj.workBufCnt ≤ i ∧ i < call.workBufsNeed ∧ call.outcomes.bufferAllocate i = false) ∨
    call.outcomes.mallocHandleQ = false ∨ call.outcomes.mallocOutBufQ = false

/-- The client has a slot for each session, and no later step of the call fails. -/
structure AllSucceed (call : Call) (obj : JpegObj) : Prop where
  slots : call.numOmxSessions ≤ (inactiveSlots (getIndexByHandler call.clientHdl) obj).length
  opened : ∀ i < call.numOmxSessions,
    call.outcomes.getHandle i = true ∧ call.outcomes.configure i = 0
  queued : ∀ i < call.numOmxSessions, call.outcomes.enqSession i = true
  buffers : ∀ i < call.params.numDstBufs, call.outcomes.enqBuffer i = true

/-! ## Taking slots -/

section Slots

variable {obj next : JpegObj} {key other : SessionKey} {value : Session} {clientIdx : Nat}

@[simp] theorem setSession_session : (obj.setSession key value).session other =
    if other = key then value else obj.session other := rfl

theorem getNewSessionIdx_eq_head :
    getNewSessionIdx clientIdx obj = (inactiveSlots clientIdx obj).head? :=
  List.head?_filter.symm

theorem inactiveSlots_nodup (clientIdx : Nat) (obj : JpegObj) :
    (inactiveSlots clientIdx obj).Nodup := by
  refine List.Nodup.filter _ (List.Nodup.map ?_ List.nodup_range)
  intro first second same
  simpa using same

theorem inactive_of_mem (member : key ∈ inactiveSlots clientIdx obj) :
    (obj.session key).active = false := by
  simpa using (List.mem_filter.mp member).2

/-- A slot that becomes active leaves the list; the others stay. -/
theorem inactiveSlots_take {rest : List SessionKey}
    (first : inactiveSlots clientIdx obj = key :: rest)
    (taken : (next.session key).active = true)
    (others : ∀ other ≠ key, (next.session other).active = (obj.session other).active) :
    inactiveSlots clientIdx next = rest := by
  have nodup := first ▸ inactiveSlots_nodup clientIdx obj
  have fresh := (List.nodup_cons.mp nodup).1
  have removed : inactiveSlots clientIdx next =
      (inactiveSlots clientIdx obj).filter fun other => decide (other ≠ key) := by
    simp only [inactiveSlots, List.filter_filter]
    refine List.filter_congr fun other _ => ?_
    by_cases same : other = key
    · simp [same, taken]
    · simp [same, others other same]
  rw [removed, first, List.filter_cons_of_neg (by simp), List.filter_eq_self]
  intro other member
  simpa using fun same : other = key => fresh (same ▸ member)

end Slots

/-- What the loop has made after `i` rounds without a failure. -/
structure Made (call : Call) (free : List SessionKey) (i : Nat) (chain : Chain) : Prop where
  within : i ≤ free.length
  slots : inactiveSlots (getIndexByHandler call.clientHdl) chain.obj = free.drop i
  previous : chain.previous = if i = 0 then none else free[i - 1]?
  each : ∀ j key, j < i → free[j]? = some key →
    (chain.obj.session key).active = true ∧ (chain.obj.session key).config = true ∧
      (chain.obj.session key).queues = some call.queues ∧
      (chain.obj.session key).nextSession = if j + 1 = i then none else free[j + 1]?
  sessionId : chain.sessionId = 0 ↔ i = 0
  bounded : chain.handleQ.length ≤ i
  queued : (∀ j < i, call.outcomes.enqSession j = true) → chain.handleQ = free.take i
  missed : ∀ j < i, call.outcomes.enqSession j = false → chain.handleQ.length < i

/-- A queue that has all its numbers was refused none. -/
theorem filter_complete {kept : Nat → Bool} {count : Nat}
    (complete : ((List.range count).filter kept).map (· + 1) = (List.range count).map (· + 1)) :
    ∀ i < count, kept i = true := by
  have shift : Function.Injective (· + 1 : Nat → Nat) := fun _ _ same => Nat.add_right_cancel same
  have same := List.map_injective_iff.mpr shift complete
  exact fun i below => List.filter_eq_self.mp same i (List.mem_range.mpr below)

section Loop

variable {call : Call} {obj : JpegObj} {free : List SessionKey} {i : Nat} {chain : Chain}
  {key other : SessionKey}

theorem takeSlot_self (fresh : chain.previous ≠ some key) :
    (Call.takeSlot key chain).session key =
      { chain.obj.session key with active := true, jobIndex := 0, nextSession := none } := by
  unfold Call.takeSlot
  split
  · simp
  · rename_i previous isPrevious
    have different : key ≠ previous := fun same => fresh (same ▸ isPrevious)
    simp [different]

theorem takeSlot_other (different : other ≠ key) :
    (Call.takeSlot key chain).session other =
      if chain.previous = some other then
        { chain.obj.session other with nextSession := some key }
      else chain.obj.session other := by
  unfold Call.takeSlot
  split
  · rename_i none
    simp [different, none]
  · rename_i previous isPrevious
    rw [isPrevious]
    by_cases same : other = previous
    · simp [same, same ▸ different]
    · simp [same, different, Ne.symm same]

theorem sessionIdOf_ne_zero (key : SessionKey) : sessionIdOf key ≠ 0 := by
  intro zero
  have := Nat.or_eq_zero_iff.mp (Nat.or_eq_zero_iff.mp zero).1
  exact absurd this.1 (by decide)

theorem Made.slot (made : Made call free i chain) :
    getNewSessionIdx (getIndexByHandler call.clientHdl) chain.obj = free[i]? := by
  rw [getNewSessionIdx_eq_head, made.slots, List.head?_drop]

theorem Made.fresh (nodup : free.Nodup) (made : Made call free i chain)
    (slot : free[i]? = some key) : chain.previous ≠ some key := by
  rw [made.previous]
  split
  · simp
  · intro same
    have := (List.nodup_iff_getElem?_ne_getElem?.mp nodup) (i - 1) i (by omega)
      (List.getElem?_eq_some_iff.mp slot).1
    exact this (same.trans slot.symm)

theorem Made.refused (made : Made call free i chain)
    (handle : call.outcomes.getHandle i = false ∨ free[i]? = none) :
    (call.createOne i chain).2 = some 0 ∧
      (call.createOne i chain).1.handleQ = chain.handleQ := by
  unfold Call.createOne
  rw [made.slot]
  split
  · exact ⟨rfl, rfl⟩
  · rename_i found
    have refuses := handle.resolve_right (by rw [found]; simp)
    simp [refuses]

/-- The slot whose session could not be configured stays active. -/
theorem Made.unconfigured (nodup : free.Nodup) (made : Made call free i chain)
    (slot : free[i]? = some key) (handle : call.outcomes.getHandle i = true)
    (fails : call.outcomes.configure i ≠ 0) :
    (call.createOne i chain).2 = some (call.outcomes.configure i) ∧
      ((call.createOne i chain).1.obj.session key).active = true := by
  unfold Call.createOne
  rw [made.slot, slot]
  simp [handle, fails, Call.openedSession, takeSlot_self (made.fresh nodup slot)]

/-- A round that does not fail makes one more session. -/
theorem Made.next (nodup : free.Nodup) (made : Made call free i chain)
    (slot : free[i]? = some key) (handle : call.outcomes.getHandle i = true)
    (configured : call.outcomes.configure i = 0) :
    (call.createOne i chain).2 = none ∧
      Made call free (i + 1) (call.createOne i chain).1 := by
  have inRange := (List.getElem?_eq_some_iff.mp slot).1
  have self := takeSlot_self (made.fresh nodup slot)
  have apart : ∀ j other, j < i → free[j]? = some other → other ≠ key := by
    intro j other before isOther same
    exact List.nodup_iff_getElem?_ne_getElem?.mp nodup j i before inRange
      (isOther.trans (same ▸ slot.symm))
  unfold Call.createOne
  rw [made.slot, slot]
  simp only [handle, configured, if_true, true_and]
  exact {
    within := inRange
    slots := by
      have first : inactiveSlots (getIndexByHandler call.clientHdl) chain.obj =
          key :: free.drop (i + 1) := by
        rw [made.slots, List.drop_eq_getElem_cons inRange,
          (List.getElem?_eq_some_iff.mp slot).2]
      refine inactiveSlots_take first ?_ fun other different => ?_
      · simp [Call.openedSession, self]
      · simp only [setSession_session, different, if_false, takeSlot_other different]
        split <;> rfl
    previous := by simp [slot]
    each := by
      intro j other before isOther
      by_cases isLast : j = i
      · subst isLast
        obtain rfl : key = other := by simpa [slot] using isOther
        simp [Call.openedSession, self]
      · have earlier : j < i := by omega
        obtain ⟨active, config, queues, link⟩ := made.each j other earlier isOther
        have different := apart j other earlier isOther
        simp only [setSession_session, different, if_false, takeSlot_other different,
          made.previous, if_neg (show i ≠ 0 by omega), show j + 1 ≠ i + 1 by omega]
        by_cases isPrevious : j + 1 = i
        · have at_j : free[i - 1]? = some other := by rw [← isOther, ← isPrevious]; rfl
          rw [if_pos at_j]
          exact ⟨active, config, queues, by rw [isPrevious, slot]⟩
        · have elsewhere : free[i - 1]? ≠ some other := fun same =>
            List.nodup_iff_getElem?_ne_getElem?.mp nodup j (i - 1) (by omega) (by omega)
              (isOther.trans same.symm)
          rw [if_neg elsewhere]
          exact ⟨active, config, queues, by rw [link, if_neg isPrevious]⟩
    sessionId := by
      have := sessionIdOf_ne_zero key
      simp only [Nat.add_eq_zero_iff, Nat.one_ne_zero, and_false, iff_false]
      split
      · exact this
      · assumption
    bounded := by
      have := made.bounded
      simp only
      split
      · simp; omega
      · omega
    queued := by
      intro all
      have before := made.queued fun j earlier => all j (by omega)
      simp [all i (by omega), before, List.take_add_one, slot]
    missed := by
      intro j before missing
      have bounded := made.bounded
      by_cases isLast : j = i
      · subst isLast
        simp [missing]
        omega
      · have short := made.missed j (by omega) missing
        simp only
        split
        · simp; omega
        · omega }

/-- The chain after its last round, where no node of a queue was refused. -/
theorem Made.whole (nodup : free.Nodup) (made : Made call free call.numOmxSessions chain)
    (positive : 0 < call.numOmxSessions)
    (all : AllSucceed call obj) :
    Whole call ⟨0, chain.sessionId, chain.obj, chain.handleQ,
      ((List.range call.params.numDstBufs).filter call.outcomes.enqBuffer).map (· + 1)⟩ := by
  have queued := made.queued all.queued
  exact {
    sessionId := fun zero => by
      have := made.sessionId.mp zero
      omega
    count := by simp [queued, made.within]
    distinct := by simpa only [queued] using nodup.sublist (List.take_sublist _ _)
    each := by
      intro i key isKey
      simp only [queued, List.getElem?_take] at isKey ⊢
      split at isKey
      · rename_i below
        obtain ⟨active, config, queues, link⟩ := made.each i key below isKey
        refine ⟨active, config, queues, link.trans ?_⟩
        by_cases last : i + 1 = call.numOmxSessions
        · rw [if_pos last, if_neg (by omega)]
        · rw [if_neg last, if_pos (by omega)]
      · simp at isKey
    outBufs := by
      rw [List.filter_eq_self.mpr fun i member => all.buffers i (List.mem_range.mp member)] }

/-- Every round from `i` on that the loop asks for finds a slot and does not fail. -/
def RoundsSucceed (call : Call) (free : List SessionKey) (i rest : Nat) : Prop :=
  ∀ j, i ≤ j → j < i + rest →
    j < free.length ∧ call.outcomes.getHandle j = true ∧ call.outcomes.configure j = 0

/-- The loop makes the whole chain, or it stops with `0` and too few sessions, or it
stops with an error and leaves an active session. -/
theorem createLoop_cases (nodup : free.Nodup) (rest : Nat) (made : Made call free i chain) :
    (RoundsSucceed call free i rest ∧ (call.createLoop rest i chain).2 = none ∧
        Made call free (i + rest) (call.createLoop rest i chain).1) ∨
      ¬ RoundsSucceed call free i rest ∧
        ((call.createLoop rest i chain).2 = some 0 ∧
            (call.createLoop rest i chain).1.handleQ.length < i + rest ∨
          ∃ rc ≠ 0, (call.createLoop rest i chain).2 = some rc ∧
            ∃ key ∈ free, ((call.createLoop rest i chain).1.obj.session key).active = true) := by
  induction rest generalizing i chain with
  | zero => exact .inl ⟨fun j above below => absurd below (by omega), rfl, made⟩
  | succ rest ih =>
    have stops {rc : Int} (stopped : (call.createOne i chain).2 = some rc) :
        call.createLoop (rest + 1) i chain = ((call.createOne i chain).1, some rc) := by
      rw [Call.createLoop]
      generalize call.createOne i chain = round at stopped
      obtain ⟨next, code⟩ := round
      rw [show code = some rc from stopped]
    by_cases refused : call.outcomes.getHandle i = false ∨ free[i]? = none
    · obtain ⟨code, same⟩ := made.refused refused
      refine .inr ⟨fun succeed => ?_, .inl ?_⟩
      · obtain ⟨inRange, handle, _⟩ := succeed i (Nat.le_refl _) (by omega)
        rw [List.getElem?_eq_getElem inRange, handle] at refused
        simp at refused
      · rw [stops code, same]
        have := made.bounded
        exact ⟨rfl, by omega⟩
    · obtain ⟨handle, taken⟩ := not_or.mp refused
      obtain ⟨key, slot⟩ := Option.ne_none_iff_exists'.mp taken
      have handle : call.outcomes.getHandle i = true := by simpa using handle
      by_cases configured : call.outcomes.configure i = 0
      · obtain ⟨code, next⟩ := made.next nodup slot handle configured
        have goes : call.createLoop (rest + 1) i chain =
            call.createLoop rest (i + 1) (call.createOne i chain).1 := by
          rw [Call.createLoop]
          generalize call.createOne i chain = round at code
          obtain ⟨next, stop⟩ := round
          rw [show stop = none from code]
        have shorter : RoundsSucceed call free i (rest + 1) ↔
            RoundsSucceed call free (i + 1) rest := by
          constructor
          · exact fun succeed j above below => succeed j (by omega) (by omega)
          · intro succeed j above below
            obtain rfl | later := Nat.eq_or_lt_of_le above
            · exact ⟨next.within, handle, configured⟩
            · exact succeed j later (by omega)
        rw [goes, shorter, show i + (rest + 1) = i + 1 + rest by omega]
        exact ih next
      · obtain ⟨code, active⟩ := made.unconfigured nodup slot handle configured
        refine .inr ⟨fun succeed => configured (succeed i (Nat.le_refl _) (by omega)).2.2, .inr ?_⟩
        rw [stops code]
        exact ⟨_, configured, rfl, key, List.mem_of_getElem? slot, active⟩

theorem allocateWork_snd (call : Call) (rest count : Nat) :
    (call.allocateWork rest count).2 = true ↔
      ∀ i, count ≤ i → i < count + rest → call.outcomes.bufferAllocate i = true := by
  induction rest generalizing count with
  | zero => simp [Call.allocateWork]; omega
  | succ rest ih =>
    rw [Call.allocateWork]
    split
    · rename_i allocated
      rw [ih]
      constructor
      · intro later i above below
        obtain rfl | isLater := Nat.eq_or_lt_of_le above
        · exact allocated
        · exact later i isLater (by omega)
      · exact fun all i above below => all i (by omega) (by omega)
    · rename_i refused
      simp only [Bool.false_eq_true, false_iff]
      exact fun all => refused (all count (Nat.le_refl _) (by omega))

end Loop

section Calls

variable (call : Call) (obj : JpegObj)

/-- The object with the work buffers of the call. -/
def withWork : JpegObj :=
  { obj with
    workBufCnt := (call.allocateWork (call.workBufsNeed - obj.workBufCnt) obj.workBufCnt).1 }

theorem createSession_early (early : FailsEarly call obj) :
    (call.createSession obj).rc = -1 ∧ (call.createSession obj).obj.session = obj.session := by
  unfold Call.createSession
  split
  · exact ⟨rfl, rfl⟩
  · rename_i valid
    obtain ⟨i, above, below, refused⟩ | missing := early.resolve_left valid
    · have failed : (call.allocateWork (call.workBufsNeed - obj.workBufCnt)
          obj.workBufCnt).2 = false := by
        rw [← Bool.not_eq_true, allocateWork_snd]
        intro all
        have allocated := all i above (by omega)
        simp [refused] at allocated
      simp [failed]
    · obtain missing | missing := missing
      · simp only [missing]
        split <;> simp
      · simp only [missing]
        split <;> simp

theorem createSession_late (late : ¬ FailsEarly call obj) :
    call.createSession obj =
      match call.createLoop call.numOmxSessions 0 ⟨withWork call obj, none, 0, []⟩ with
      | (chain, some rc) => ⟨rc, chain.sessionId, chain.obj, chain.handleQ, []⟩
      | (chain, none) =>
        ⟨0, chain.sessionId, chain.obj, chain.handleQ,
          ((List.range call.params.numDstBufs).filter call.outcomes.enqBuffer).map (· + 1)⟩ := by
  simp only [FailsEarly, not_or, not_exists, not_and, Bool.not_eq_false] at late
  obtain ⟨valid, work, handleQ, outBufQ⟩ := late
  have allocated := (allocateWork_snd call (call.workBufsNeed - obj.workBufCnt)
    obj.workBufCnt).mpr fun i above below => work i above (by omega)
  unfold Call.createSession
  rw [if_neg valid]
  simp [allocated, handleQ, outBufQ]
  rfl

/-- A call makes the whole chain or changes nothing exactly when it fails before its
loop over sessions or does not fail at all. -/
theorem createSession_allOrNothing_iff :
    AllOrNothing call obj (call.createSession obj) ↔
      FailsEarly call obj ∨ AllSucceed call obj := by
  by_cases early : FailsEarly call obj
  · obtain ⟨code, same⟩ := createSession_early call obj early
    refine iff_of_true ⟨fun success => ?_, fun _ key inactive => ?_⟩ (.inl early)
    · simp [code] at success
    · rwa [same]
  · rw [or_iff_right early, createSession_late call obj early]
    have nodup := inactiveSlots_nodup (getIndexByHandler call.clientHdl) obj
    have positive : 0 < call.numOmxSessions := by
      unfold Call.numOmxSessions
      split
      · exact call.config.positive
      · exact Nat.one_pos
    have start : Made call (inactiveSlots (getIndexByHandler call.clientHdl) obj) 0
        ⟨withWork call obj, none, 0, []⟩ := {
      within := Nat.zero_le _
      slots := rfl
      previous := rfl
      each := fun _ _ below => absurd below (Nat.not_lt_zero _)
      sessionId := Iff.rfl
      bounded := Nat.le_refl _
      queued := fun _ => rfl
      missed := fun _ below => absurd below (Nat.not_lt_zero _) }
    have ended := createLoop_cases nodup call.numOmxSessions start
    rw [Nat.zero_add] at ended
    generalize call.createLoop call.numOmxSessions 0 ⟨withWork call obj, none, 0, []⟩ = final
      at ended ⊢
    obtain ⟨chain, stop⟩ := final
    obtain ⟨succeed, stopped, made⟩ | ⟨stuck, ended⟩ := ended
    · obtain rfl : stop = none := stopped
      constructor
      · intro whole
        have whole := whole.success rfl
        refine ⟨made.within, fun j below => (succeed j (Nat.zero_le j) (by omega)).2, ?_,
          filter_complete whole.outBufs⟩
        intro j below
        by_contra refused
        have short := made.missed j below (by simpa using refused)
        exact absurd whole.count (Nat.ne_of_lt short)
      · intro all
        refine ⟨fun _ => made.whole nodup positive all, fun failed => absurd rfl failed⟩
    · have notAll : ¬ AllSucceed call obj := fun all => stuck fun j _ below =>
        ⟨by have := all.slots; omega, all.opened j (by omega)⟩
      refine iff_of_false (fun whole => ?_) notAll
      obtain ⟨stopped, short⟩ | ⟨rc, failed, stopped, key, member, active⟩ := ended
      · obtain rfl : stop = some 0 := stopped
        have count := (whole.success rfl).count
        simp only at count short
        omega
      · obtain rfl : stop = some rc := stopped
        have inactive := whole.failure failed key (inactive_of_mem member)
        simp only at inactive active
        simp [inactive] at active

end Calls

/-- A client with free slots, and no session yet. -/
def freshObj : JpegObj where
  session := fun _ => ⟨false, false, 0, none, none, ⟨0, 0, false, false⟩, 0, 0, none, 0⟩
  workBufCnt := 0
  numSessions := 0

/-- A call of the first client whose only session cannot be configured. -/
def unconfigured : Call where
  config := ⟨1, false, Nat.one_pos⟩
  clientHdl := 0
  params := ⟨1, 1, false, true⟩
  queues := 0
  outcomes := ⟨fun _ => true, true, true, fun _ => true, fun _ => -1, fun _ => true, fun _ => true⟩

/-- The slot of a session that cannot be configured stays active. -/
theorem createSession_notAllOrNothing :
    ¬ ∀ (call : Call) (obj : JpegObj), AllOrNothing call obj (call.createSession obj) := by
  intro claim
  have left := (claim unconfigured freshObj).failure (by decide) ⟨0, 0⟩ rfl
  exact absurd left (by decide)

end AnglerHal.JpegCreate
