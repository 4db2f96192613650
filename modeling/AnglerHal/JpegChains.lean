import AnglerHal.JpegPool
import Mathlib.Data.List.Perm.Lattice

namespace AnglerHal.JpegService

variable {obj start : JpegObj} {key : SessionKey} {steps queues place : Nat}
  {setups : List SessionSetup} {memory : CreateMemory}

/-!
# Making chains of sessions

`mm_jpeg_create_session` takes free slots one by one and links the sessions it
makes.  A chain that was made whole consists of exactly the active sessions
that share its queues, and no other chain has changed.
-/

section Making

/-- The sessions are linked in this order and the last one has no successor. -/
def Path (obj : JpegObj) : List SessionKey → Prop
  | [] => True
  | [key] => (obj.session key).nextSession = none
  | key :: following :: rest =>
    (obj.session key).nextSession = some following ∧ Path obj (following :: rest)

theorem chainFrom_path {rest : List SessionKey} (path : Path obj (key :: rest))
    (short : (key :: rest).length ≤ steps) :
    chainFrom obj steps key = key :: rest := by
  induction rest generalizing key steps with
  | nil =>
    cases steps with
    | zero => simp at short
    | succ steps =>
      simp only [Path] at path
      simp [chainFrom, path]
  | cons following rest inductionHypothesis =>
    cases steps with
    | zero => simp at short
    | succ steps =>
      obtain ⟨linked, path⟩ := path
      have shorter : (following :: rest).length ≤ steps := by
        simp only [List.length_cons] at short ⊢
        omega
      simp [chainFrom, linked, inductionHypothesis path shorter]

theorem Path.snoc {next : JpegObj} {made : List SessionKey} (path : Path obj made)
    (nodup : made.Nodup) (ends : (next.session key).nextSession = none)
    (links : ∀ other ∈ made, (next.session other).nextSession = if made.getLast? = some other then
            some key
          else
            (obj.session other).nextSession) :
    Path next (made ++ [key]) := by
  induction made with
  | nil => exact ends
  | cons first rest inductionHypothesis =>
    cases rest with
    | nil =>
      have linked := links first (by simp)
      simp only [List.getLast?_singleton, if_pos] at linked
      exact ⟨linked, ends⟩
    | cons following rest =>
      obtain ⟨linked, path⟩ := path
      rw [List.nodup_cons] at nodup
      refine ⟨?_, inductionHypothesis path nodup.2 ?_⟩
      · have notLast : (first :: following :: rest).getLast? ≠ some first := by
          rw [List.getLast?_cons_cons]
          exact fun isLast => nodup.1 (List.mem_of_getLast? isLast)
        rw [links first (by simp), if_neg notLast]
        exact linked
      · intro other member
        have linkedToo := links other (List.mem_cons_of_mem _ member)
        rwa [List.getLast?_cons_cons] at linkedToo

theorem mmJpegGetNewSessionIdx_eq_some {clientIdx : Nat}
    (found : mmJpegGetNewSessionIdx clientIdx obj = some key) :
    (obj.session key).active = false ∧
      key.clientIdx = clientIdx ∧ key.sessionIdx < mmJpegMaxSession := by
  have free := List.find?_some found
  have member := List.mem_of_find?_eq_some found
  simp only [List.mem_map, List.mem_range] at member
  obtain ⟨index, small, rfl⟩ := member
  exact ⟨by simpa using free, rfl, small⟩

/-- The loop of `mm_jpeg_create_session` after it has made some sessions. -/
structure Building (start obj : JpegObj) (clientIdx queues : Nat) (params : EncodeParams)
    (made : List SessionKey) : Prop where
  others : ∀ key, key ∉ made → obj.session key = start.session key ∨
        (start.session key).active = false ∧
          obj.session key = { start.session key with nextSession := none }
  taken : ∀ key ∈ made, (start.session key).active = false
  opened : ∀ key ∈ made, InChain obj queues key ∧ (obj.session key).abortState = .none ∧
        (obj.session key).omxOwes = false ∧
        (obj.session key).params = params
  nodup : made.Nodup
  slots : ∀ key ∈ made, key.clientIdx = clientIdx ∧ key.sessionIdx < mmJpegMaxSession
  path : Path obj made
  handles : obj.sessionHandleQ queues = made
  otherHandles : ∀ other, other ≠ queues → obj.sessionHandleQ other = start.sessionHandleQ other
  outBufQ : obj.outBufQ = start.outBufQ
  queuesMade : obj.queuesMade = start.queuesMade
  jobQueue : obj.jobQueue = start.jobQueue
  ongoingJobQ : obj.ongoingJobQ = start.ongoingJobQ
  jobSem : obj.jobSem = start.jobSem
  thread : obj.thread = start.thread
  sessionIds : obj.sessionIds = start.sessionIds

variable {start obj : JpegObj} {clientIdx queues : Nat} {params : EncodeParams}
  {made : List SessionKey}
  {key : SessionKey}

theorem Building.begin (empty : start.sessionHandleQ queues = []) :
    Building start start clientIdx queues params [] where
  others := fun _ _ => .inl rfl
  taken := by simp
  opened := by simp
  nodup := List.nodup_nil
  slots := by simp
  path := trivial
  handles := empty
  otherHandles := fun _ _ => rfl
  outBufQ := rfl
  queuesMade := rfl
  jobQueue := rfl
  ongoingJobQ := rfl
  jobSem := rfl
  thread := rfl
  sessionIds := rfl

theorem linkSession_takeSlot_other {other : SessionKey} (notKey : other ≠ key)
    (notLast : made.getLast? ≠ some other) :
    (linkSession made key (takeSlot key obj)).session other =
      obj.session other := by
  unfold linkSession
  split
  · rw [takeSlot, setSession_other _ _ notKey]
  · rename_i previous isLast
    have notPrevious : other ≠ previous := fun same => notLast (same ▸ isLast)
    rw [setSession_other _ _ notPrevious, takeSlot, setSession_other _ _ notKey]

theorem linkSession_takeSlot_key (notLast : made.getLast? ≠ some key) :
    (linkSession made key (takeSlot key obj)).session key =
      { obj.session key with active := true, nextSession := none } := by
  unfold linkSession
  split
  · simp [takeSlot]
  · rename_i previous isLast
    have notPrevious : key ≠ previous := fun same => notLast (same ▸ isLast)
    rw [setSession_other _ _ notPrevious, takeSlot, setSession_same]

theorem linkSession_takeSlot_last {previous : SessionKey} (isLast : made.getLast? = some previous)
    (different : previous ≠ key) :
    (linkSession made key (takeSlot key obj)).session previous =
      { obj.session previous with nextSession := some key } := by
  unfold linkSession
  simp only [isLast, setSession_same]
  rw [takeSlot, setSession_other _ _ different]

theorem linkSession_takeSlot_rest :
    { linkSession made key (takeSlot key obj) with session := obj.session } =
      obj := by
  unfold linkSession
  split <;> rfl

theorem Building.opens (building : Building start obj clientIdx queues params made)
    (found : mmJpegGetNewSessionIdx clientIdx obj = some key) :
    Building start (openSession true params queues key (linkSession made key (takeSlot key obj)))
      clientIdx queues params (made ++ [key]) := by
  obtain ⟨inactive, slot⟩ := mmJpegGetNewSessionIdx_eq_some found
  have new : key ∉ made := by
    intro member
    have active := (building.opened key member).1.1
    rw [inactive] at active
    cases active
  have notLast : made.getLast? ≠ some key := fun isLast => new (List.mem_of_getLast? isLast)
  have rest := @linkSession_takeSlot_rest obj made key
  have sessionOther : ∀ other, other ≠ key → made.getLast? ≠ some other →
      (openSession true params queues key (linkSession made key (takeSlot key obj))).session other =
          obj.session other := by
    intro other notKey notPrevious
    rw [openSession, if_pos rfl, setHandles_session, setSession_other _ _ notKey,
      linkSession_takeSlot_other notKey notPrevious]
  have sessionLast : ∀ other, made.getLast? = some other → (openSession true params queues key
        (linkSession made key (takeSlot key obj))).session other =
          { obj.session other with nextSession := some key } := by
    intro other isLast
    have different : other ≠ key := fun same => notLast (same ▸ isLast)
    rw [openSession, if_pos rfl, setHandles_session, setSession_other _ _ different,
      linkSession_takeSlot_last isLast different]
  have sessionKey : (openSession true params queues key
        (linkSession made key (takeSlot key obj))).session key = { obj.session key with
              active := true
              nextSession := none
              abortState := .none
              autoOutBuf := false
              omxOwes := false
              params := params
              queues := some queues } := by
    rw [openSession, if_pos rfl, setHandles_session, setSession_same,
      linkSession_takeSlot_key notLast]
  refine ⟨?_, ?_, ?_, ?_, ?_, ?_, ?_, ?_, ?_, ?_, ?_, ?_, ?_, ?_, ?_⟩
  · intro other absent
    simp only [List.mem_append, List.mem_singleton, not_or] at absent
    have notPrevious : made.getLast? ≠ some other :=
      fun isLast => absent.1 (List.mem_of_getLast? isLast)
    rw [sessionOther other absent.2 notPrevious]
    exact building.others other absent.1
  · intro other member
    rw [List.mem_append, List.mem_singleton] at member
    rcases member with member | rfl
    · exact building.taken other member
    · rcases building.others other new with same | ⟨wasInactive, -⟩
      · rwa [same] at inactive
      · exact wasInactive
  · intro other member
    rw [List.mem_append, List.mem_singleton] at member
    rcases member with member | rfl
    · have different : other ≠ key := fun same => new (same ▸ member)
      have was := building.opened other member
      by_cases isLast : made.getLast? = some other
      · rw [InChain, sessionLast other isLast]
        exact was
      · rw [InChain, sessionOther other different isLast]
        exact was
    · rw [InChain, sessionKey]
      exact ⟨⟨rfl, rfl⟩, rfl, rfl, rfl⟩
  · exact List.nodup_append.mpr ⟨building.nodup, by simp, by
        intro first member second isKey
        rw [List.mem_singleton] at isKey
        rw [isKey]
        exact fun equal => new (equal ▸ member)⟩
  · intro other member
    rw [List.mem_append, List.mem_singleton] at member
    rcases member with member | rfl
    · exact building.slots other member
    · exact slot
  · refine building.path.snoc building.nodup ?_ ?_
    · rw [sessionKey]
    · intro other member
      have different : other ≠ key := fun same => new (same ▸ member)
      by_cases isLast : made.getLast? = some other
      · rw [if_pos isLast, sessionLast other isLast]
      · rw [if_neg isLast, sessionOther other different isLast]
  · rw [openSession, if_pos rfl, setHandles_same]
    have handles := congrArg JpegObj.sessionHandleQ rest
    exact (congrArg (· ++ [key]) (congrFun handles queues)).trans
      (congrArg (· ++ [key]) building.handles)
  · intro other different
    rw [openSession, if_pos rfl, setHandles_other _ _ different, setSession_sessionHandleQ]
    have handles := congrArg JpegObj.sessionHandleQ rest
    exact (congrFun handles other).trans (building.otherHandles other different)
  · exact (congrArg JpegObj.outBufQ rest).trans building.outBufQ
  · exact (congrArg JpegObj.queuesMade rest).trans building.queuesMade
  · exact (congrArg JpegObj.jobQueue rest).trans building.jobQueue
  · exact (congrArg JpegObj.ongoingJobQ rest).trans building.ongoingJobQ
  · exact (congrArg JpegObj.jobSem rest).trans building.jobSem
  · exact (congrArg JpegObj.thread rest).trans building.thread
  · exact (congrArg JpegObj.sessionIds rest).trans building.sessionIds

theorem Building.refuses (building : Building start obj clientIdx queues params [])
    (found : mmJpegGetNewSessionIdx clientIdx obj = some key) :
    Building start ((linkSession [] key (takeSlot key obj)).setSession key
        { (linkSession [] key (takeSlot key obj)).session key with
            active := false })
      clientIdx queues params [] := by
  obtain ⟨inactive, -⟩ := mmJpegGetNewSessionIdx_eq_some found
  have unlinked : linkSession [] key (takeSlot key obj) = takeSlot key obj := rfl
  rw [unlinked]
  refine { building with others := ?_, opened := by simp, path := trivial }
  intro other absent
  by_cases isKey : other = key
  · subst isKey
    right
    rcases building.others other absent with same | ⟨wasInactive, same⟩
    · rw [same] at inactive
      refine ⟨inactive, ?_⟩
      rw [setSession_same, takeSlot, setSession_same, same, ← inactive]
    · refine ⟨wasInactive, ?_⟩
      rw [setSession_same, takeSlot, setSession_same, same, ← wasInactive]
  · rw [setSession_other _ _ isKey, takeSlot, setSession_other _ _ isKey]
    exact building.others other absent

/--
The loop of `mm_jpeg_create_session`, unless it returns `0` for a chain that it
has not completed, or has no memory for the node of a session.
-/
theorem createSessions_building (setups : List SessionSetup) {final : JpegObj}
    {sessions : List SessionKey} {ended : CreateEnd}
    (building : Building start obj clientIdx queues params made)
    (ran : createSessions clientIdx params queues setups made obj = (final, sessions, ended))
    (nodes : ∀ setup ∈ setups, setup.node = true)
    (whole : ended = .stopped 0 → sessions = []) :
    Building start final clientIdx queues params sessions := by
  induction setups generalizing obj made with
  | nil =>
    simp only [createSessions, Prod.mk.injEq] at ran
    obtain ⟨rfl, rfl, -⟩ := ran
    exact building
  | cons setup rest inductionHypothesis =>
    simp only [createSessions] at ran
    cases found : mmJpegGetNewSessionIdx clientIdx obj with
    | none =>
      simp only [found, Prod.mk.injEq] at ran
      obtain ⟨rfl, rfl, -⟩ := ran
      exact building
    | some key =>
      simp only [found] at ran
      cases created : setup.created with
      | false =>
        simp only [created, Bool.false_eq_true, if_false, Prod.mk.injEq] at ran
        obtain ⟨rfl, rfl, rfl⟩ := ran
        obtain rfl := whole rfl
        exact building.refuses found
      | true =>
        have node := nodes setup (List.mem_cons_self ..)
        simp only [created, node, if_true] at ran
        have opened := building.opens found
        cases configured : setup.configured with
        | false =>
          simp only [configured, Bool.false_eq_true, if_false, Prod.mk.injEq] at ran
          obtain ⟨rfl, rfl, -⟩ := ran
          exact opened
        | true =>
          simp only [configured, if_true] at ran
          exact inductionHypothesis opened ran fun other member =>
            nodes other (List.mem_cons_of_mem _ member)

end Making

section Made

variable {obj final next : JpegObj} {clientIdx : Nat} {params : EncodeParams}
  {made extra : List SessionKey}

/-- A session that was active before is left as it was. -/
theorem Building.active_unchanged
    (building : Building start final clientIdx queues params made)
    (active : (start.session key).active = true) :
    key ∉ made ∧ final.session key = start.session key := by
  have notMade : key ∉ made := by
    intro member
    rw [building.taken key member] at active
    cases active
  refine ⟨notMade, ?_⟩
  rcases building.others key notMade with same | ⟨inactive, -⟩
  · exact same
  · rw [inactive] at active
    cases active

/-- A session outside the new chain is in the chain it was in. -/
theorem Building.inChain_iff
    (building : Building start final clientIdx queues params made)
    (notMade : key ∉ made) :
    InChain final place key ↔ InChain start place key := by
  rcases building.others key notMade with same | ⟨inactive, same⟩
  · rw [InChain, InChain, same]
  · simp [InChain, same, inactive]

theorem chainFrom_congr_on (links :
      ∀ other ∈ chainFrom obj steps key, (next.session other).nextSession =
          (obj.session other).nextSession) :
    chainFrom next steps key = chainFrom obj steps key := by
  induction steps generalizing key with
  | zero => rfl
  | succ steps inductionHypothesis =>
    simp only [chainFrom] at links ⊢
    rw [links key (by simp)]
    cases linked : (obj.session key).nextSession with
    | none => rfl
    | some following =>
      simp only [linked] at links
      have rest := inductionHypothesis
        fun other member => links other (List.mem_cons_of_mem _ member)
      simp [rest]

theorem Building.length_le {start : JpegObj} {queues : Nat}
    (building : Building start final clientIdx queues params made) :
    made.length ≤ mmJpegMaxSession := by
  have nodup : (made.map SessionKey.sessionIdx).Nodup := by
    refine List.Nodup.map_on ?_ building.nodup
    intro first firstMade second secondMade same
    have firstSlot := (building.slots first firstMade).1
    have secondSlot := (building.slots second secondMade).1
    cases first
    cases second
    simp only at firstSlot secondSlot same
    rw [firstSlot, secondSlot, same]
  have inside : made.map SessionKey.sessionIdx ⊆ List.range mmJpegMaxSession := by
    intro index member
    obtain ⟨key, keyMade, rfl⟩ := List.mem_map.mp member
    exact List.mem_range.mpr (building.slots key keyMade).2
  have short := (List.subperm_of_subset nodup inside).length_le
  rwa [List.length_map, List.length_range] at short

theorem Building.chainOf_head {head : SessionKey}
    (building : Building start final clientIdx queues params made)
    (session : next.session = final.session) (isHead : made.head? = some head) :
    chainOf next head = made := by
  cases made with
  | nil => cases isHead
  | cons first rest =>
    simp only [List.head?_cons, Option.some.injEq] at isHead
    subst isHead
    have same : chainOf next first = chainOf final first :=
      chainFrom_congr (fun key => by rw [session]) _ _
    rw [same]
    exact chainFrom_path building.path building.length_le

theorem ChainInvariant.created (chains : ChainInvariant obj) (building :
      Building (newQueues obj) final clientIdx obj.queuesMade params made)
    (session : next.session = final.session)
    (queuesMade : next.queuesMade = final.queuesMade)
    (ids : next.sessionIds = obj.sessionIds ++ extra)
    (handed : extra = [] ∨ extra = made.head?.toList) :
    ChainInvariant next := by
  have old : ∀ {key}, (obj.session key).active = true →
      key ∉ made ∧ next.session key = obj.session key := by
    intro key active
    rw [session]
    exact building.active_unchanged active
  have isExtra : ∀ {key}, key ∈ extra → made.head? = some key := by
    intro key member
    rcases handed with rfl | rfl
    · cases member
    · simpa using member
  have extraMade : ∀ {key}, key ∈ extra → key ∈ made := fun member =>
    List.mem_of_head? (isExtra member)
  have heldActive : ∀ {key}, key ∈ obj.sessionIds → (obj.session key).active = true := by
    intro key held
    obtain ⟨_, inChain⟩ := chains.headInChain key held
    exact inChain.1
  have madeQueues : ∀ {key}, key ∈ made → InChain next obj.queuesMade key := by
    intro key member
    rw [InChain, session]
    exact (building.opened key member).1
  have otherQueues : ∀ {key}, key ∉ made →
      (next.session key).queues = (obj.session key).queues := by
    intro key notMade
    rw [session]
    rcases building.others key notMade with same | ⟨-, same⟩
    · rw [same]
      rfl
    · rw [same]
      rfl
  refine ⟨?_, ?_, ?_, ?_, ?_⟩
  · rw [ids]
    refine List.nodup_append.mpr ⟨chains.idsNodup, ?_, ?_⟩
    · rcases handed with rfl | rfl
      · exact List.nodup_nil
      · cases made.head? <;> simp
    · rintro first held second member rfl
      exact (old (heldActive held)).1 (extraMade member)
  · intro head held
    rw [ids, List.mem_append] at held
    rcases held with held | new
    · obtain ⟨queues, inChain⟩ := chains.headInChain head held
      refine ⟨queues, ?_⟩
      rw [InChain, (old inChain.1).2]
      exact inChain
    · exact ⟨obj.queuesMade, madeQueues (extraMade new)⟩
  · have apart : ∀ {head other}, head ∈ obj.sessionIds → other ∈ extra →
        (next.session head).queues ≠ (next.session other).queues := by
      intro head other held new same
      rw [(old (heldActive held)).2, (madeQueues (extraMade new)).2] at same
      exact Nat.lt_irrefl _ (chains.numbered head _ same)
    intro head held other otherHeld same
    rw [ids, List.mem_append] at held otherHeld
    rcases held with held | new <;> rcases otherHeld with otherHeld | otherNew
    · rw [(old (heldActive held)).2, (old (heldActive otherHeld)).2] at same
      exact chains.headsApart head held other otherHeld same
    · exact absurd same (apart held otherNew)
    · exact absurd same.symm (apart otherHeld new)
    · have first := isExtra new
      rw [isExtra otherNew, Option.some.injEq] at first
      exact first.symm
  · intro key queues equal
    rw [queuesMade, building.queuesMade]
    by_cases member : key ∈ made
    · rw [(madeQueues member).2, Option.some.injEq] at equal
      rw [← equal]
      exact Nat.lt_succ_self _
    · rw [otherQueues member] at equal
      exact Nat.lt_succ_of_lt (chains.numbered key queues equal)
  · intro head held key
    rw [ids, List.mem_append] at held
    rcases held with held | new
    · have same : chainOf next head = chainOf obj head := by
        refine chainFrom_congr_on ?_
        intro other member
        have active := ((chains.chain head held other).mp member).1
        rw [(old active).2]
      rw [same, chains.chain head held key, (old (heldActive held)).2]
      by_cases member : key ∈ made
      · have inactive := building.taken key member
        constructor
        · rintro ⟨active, -⟩
          exact absurd active (by
            rw [show (obj.session key).active = false from inactive]
            decide)
        · rintro ⟨-, equal⟩
          rw [(madeQueues member).2] at equal
          exact absurd (chains.numbered head _ equal.symm) (Nat.lt_irrefl _)
      · rw [otherQueues member]
        rcases building.others key member with unchanged | ⟨inactive, unchanged⟩
        · rw [session, unchanged]
          rfl
        · rw [session, unchanged]
          rfl
    · rw [building.chainOf_head session (isExtra new), (madeQueues (extraMade new)).2]
      constructor
      · exact fun member => madeQueues member
      · rintro ⟨active, equal⟩
        by_contra notMade
        rw [otherQueues notMade] at equal
        exact absurd (chains.numbered key _ equal) (Nat.lt_irrefl _)

theorem Building.oldHandles (building :
      Building (newQueues obj) final clientIdx obj.queuesMade params made)
    (different : place ≠ obj.queuesMade) :
    final.sessionHandleQ place = obj.sessionHandleQ place := by
  rw [building.otherHandles place different, newQueues,
    setOutBufs_sessionHandleQ, setHandles_other _ _ different]

/-- A session that was busy before is left as it was. -/
theorem Building.busy_session (building :
      Building (newQueues obj) final clientIdx obj.queuesMade params made)
    (busy : Busy obj key) :
    final.session key = obj.session key := by
  obtain ⟨place, inChain, -⟩ := busy
  exact (building.active_unchanged inChain.1).2

/-- No session is busy because a chain is made. -/
theorem Building.busy_iff (chains : ChainInvariant obj) (building :
      Building (newQueues obj) final clientIdx obj.queuesMade params made)
    (session : next.session = final.session)
    (handles : next.sessionHandleQ = final.sessionHandleQ)
    (key : SessionKey) :
    Busy next key ↔ Busy obj key := by
  simp only [Busy, InChain, session, handles]
  by_cases member : key ∈ made
  · have opened := building.opened key member
    constructor
    · rintro ⟨place, inChain, -, absent⟩
      have isNew : some place = some obj.queuesMade := inChain.2.symm.trans opened.1.2
      rw [Option.some.injEq] at isNew
      rw [isNew, building.handles] at absent
      exact absurd member absent
    · rintro ⟨place, inChain, -, -⟩
      exact absurd member (building.active_unchanged inChain.1).1
  · have unchanged : ∀ place, InChain obj place key → final.session key = obj.session key ∧
          final.sessionHandleQ place = obj.sessionHandleQ place := by
      intro place inChain
      refine ⟨(building.active_unchanged inChain.1).2, building.oldHandles ?_⟩
      exact Nat.ne_of_lt (chains.numbered key place inChain.2)
    constructor
    · rintro ⟨place, inChain, abortState, absent⟩
      have wasInChain : InChain obj place key := (building.inChain_iff member).mp inChain
      obtain ⟨sameSession, sameHandles⟩ := unchanged place wasInChain
      rw [sameSession] at abortState
      rw [sameHandles] at absent
      exact ⟨place, wasInChain, abortState, absent⟩
    · rintro ⟨place, inChain, abortState, absent⟩
      obtain ⟨sameSession, sameHandles⟩ := unchanged place inChain
      refine ⟨place, (building.inChain_iff member).mpr inChain, ?_, ?_⟩
      · rwa [sameSession]
      · rwa [sameHandles]

theorem PoolInvariant.created (chains : ChainInvariant obj) (pool : PoolInvariant obj) (building :
      Building (newQueues obj) final clientIdx obj.queuesMade params made)
    (session : next.session = final.session)
    (handles : next.sessionHandleQ = final.sessionHandleQ)
    (todo : next.jobQueue = final.jobQueue)
    (ongoing : next.ongoingJobQ = final.ongoingJobQ)
    (ids : next.sessionIds = obj.sessionIds ++ extra) :
    PoolInvariant next := by
  have old : ∀ {key}, (obj.session key).active = true →
      key ∉ made ∧ next.session key = obj.session key := by
    intro key active
    rw [session]
    exact building.active_unchanged active
  have inChainOld : ∀ {key place}, key ∉ made →
      (InChain next place key ↔ InChain obj place key) := by
    intro key place notMade
    rw [InChain, session]
    exact building.inChain_iff notMade
  have oldHandles : ∀ {place}, place ≠ obj.queuesMade →
      next.sessionHandleQ place = obj.sessionHandleQ place := by
    intro place different
    rw [handles]
    exact building.oldHandles different
  have busy := building.busy_iff chains session handles
  have busyOld : ∀ {key}, Busy obj key → next.session key = obj.session key := by
    intro key isBusy
    rw [session]
    exact building.busy_session isBusy
  refine ⟨?_, ?_, ?_, ?_, ?_, ?_, ?_⟩
  · intro place
    by_cases isNew : place = obj.queuesMade
    · rw [isNew, handles, building.handles]
      exact building.nodup
    · rw [oldHandles isNew]
      exact pool.handleNodup place
  · intro place key member
    by_cases isNew : place = obj.queuesMade
    · rw [isNew] at member ⊢
      rw [handles, building.handles] at member
      rw [InChain, session]
      exact (building.opened key member).1
    · rw [oldHandles isNew] at member
      have inChain := pool.handleInChain place key member
      exact (inChainOld (old inChain.1).1).mpr inChain
  · intro key owes
    by_cases member : key ∈ made
    · rw [session, (building.opened key member).2.2.1] at owes
      cases owes
    · have owed : (obj.session key).omxOwes = true := by
        rw [session] at owes
        rcases building.others key member with same | ⟨-, same⟩
        · rwa [same] at owes
        · rwa [same] at owes
      obtain ⟨place, inChain, absent⟩ := pool.owed key owed
      refine ⟨place, (inChainOld member).mpr inChain, ?_⟩
      rwa [oldHandles (Nat.ne_of_lt (chains.numbered key place inChain.2))]
  · intro node member
    rw [todo, building.jobQueue] at member
    rw [ids]
    exact List.mem_append_left _ (pool.todoHeld node member)
  · intro node member
    rw [ongoing, building.ongoingJobQ] at member
    rw [ids]
    exact List.mem_append_left _ (pool.ongoingHeld node member)
  · obtain ⟨workers, nodup, members, assigned⟩ := pool.workers
    refine ⟨workers, nodup, ?_, ?_⟩
    · intro key
      rw [members, busy]
    · have unchanged : (workers.map fun key => (next.session key).jobId) =
            workers.map fun key => (obj.session key).jobId := by
        refine List.map_congr_left ?_
        intro key member
        rw [busyOld ((members key).mp member)]
      rw [unchanged, ongoing, building.ongoingJobQ]
      exact assigned
  · intro key isBusy
    have wasBusy := (busy key).mp isBusy
    have present := busy_ongoing pool wasBusy
    obtain ⟨node, member, same⟩ := List.mem_map.mp present
    have held := pool.ongoingHeld node member
    rw [same] at held
    obtain ⟨_, inChain⟩ := chains.headInChain _ held
    rw [busyOld wasBusy, (old inChain.1).2]
    exact pool.workerChain key wasBusy

/--
`mm_jpeg_create_session` is refused, fails, or makes all the sessions it was
asked for, with memory for their nodes.
-/
def createsWhole (clientIdx : Nat) (params : EncodeParams) (setups : List SessionSetup)
    (memory : CreateMemory) (obj : JpegObj) : Bool :=
  invalidSession clientIdx params || !memory.queues ||
    setups.all SessionSetup.node &&
      match createSessions clientIdx params obj.queuesMade setups [] (newQueues obj) with
      | (_, _, .complete) => true
      | (_, sessions, .stopped rc) => rc != 0 || sessions.isEmpty

/-- What a whole call of `mm_jpeg_create_session` does to the object. -/
theorem mmJpegCreateSession_cases
    (whole : createsWhole clientIdx params setups memory obj = true) :
    (mmJpegCreateSession clientIdx params setups memory obj).1 = obj ∨ ∃ final made extra outBufs,
        Building (newQueues obj) final clientIdx obj.queuesMade params made ∧ (extra = [] ∨
            extra = made.head?.toList ∧ outBufs = ((List.range params.numDstBufs).filter
              (· ∉ memory.lostOutputs)).map (· + 1)) ∧
          (mmJpegCreateSession clientIdx params setups memory obj).1 =
            { final.setOutBufs obj.queuesMade outBufs with
                sessionIds := obj.sessionIds ++ extra } := by
  have begins : Building (newQueues obj) (newQueues obj) clientIdx obj.queuesMade params [] := by
    refine Building.begin ?_
    simp [newQueues]
  unfold mmJpegCreateSession
  split
  · exact .inl rfl
  · rename_i accepted
    right
    simp only [createsWhole, accepted, Bool.false_or, Bool.and_eq_true, List.all_eq_true] at whole
    obtain ⟨nodes, whole⟩ := whole
    cases ran : createSessions clientIdx params obj.queuesMade setups [] (newQueues obj) with
    | mk final result =>
      obtain ⟨made, ended⟩ := result
      rw [ran] at whole
      simp only [ran]
      cases ended with
      | complete =>
        exact ⟨final, made, _, _, createSessions_building setups begins ran nodes (by simp),
          .inr ⟨rfl, rfl⟩, rfl⟩
      | stopped rc =>
        simp only [Bool.or_eq_true, bne_iff_ne, ne_eq, List.isEmpty_iff] at whole
        have nothing : rc = 0 → made = [] := fun zero =>
          whole.resolve_left (fun nonzero => nonzero zero)
        have building := createSessions_building setups begins ran nodes (by
            simpa using nothing)
        refine ⟨final, made, [], final.outBufQ obj.queuesMade, building, .inl rfl, ?_⟩
        have sameOutBufs : final.setOutBufs obj.queuesMade
              (final.outBufQ obj.queuesMade) = final := by
          have unchanged : (fun other =>
                if other = obj.queuesMade then
                  final.outBufQ obj.queuesMade
                else
                  final.outBufQ other) = final.outBufQ := by
            funext other
            by_cases same : other = obj.queuesMade <;> simp [same]
          rw [JpegObj.setOutBufs, unchanged]
        rw [sameOutBufs]
        by_cases zero : rc = 0
        · simp [zero, nothing zero]
        · simp [zero]

/-- The chains and the pool after `mm_jpeg_create_session`. -/
theorem mmJpegCreateSession_invariant (chains : ChainInvariant obj)
    (pool : PoolInvariant obj)
    (whole : createsWhole clientIdx params setups memory obj = true) :
    ChainInvariant (mmJpegCreateSession clientIdx params setups memory obj).1 ∧
      PoolInvariant (mmJpegCreateSession clientIdx params setups memory obj).1 := by
  rcases mmJpegCreateSession_cases whole with
    same | ⟨final, made, extra, outBufs, building, handed, result⟩
  · rw [same]
    exact ⟨chains, pool⟩
  · rw [result]
    have handed : extra = [] ∨ extra = made.head?.toList := handed.imp id And.left
    exact ⟨chains.created building rfl rfl rfl handed,
      pool.created chains building rfl rfl rfl rfl rfl⟩

/-- Who is busy after `mm_jpeg_create_session`, and with which record. -/
theorem mmJpegCreateSession_busy (chains : ChainInvariant obj)
    (whole : createsWhole clientIdx params setups memory obj = true)
    (busy : Busy (mmJpegCreateSession clientIdx params setups memory obj).1 key) :
    Busy obj key ∧ (mmJpegCreateSession clientIdx params setups memory obj).1.session key =
        obj.session key := by
  rcases mmJpegCreateSession_cases whole with
    same | ⟨final, made, extra, outBufs, building, -, result⟩
  · rw [same] at busy ⊢
    exact ⟨busy, rfl⟩
  · rw [result] at busy ⊢
    have wasBusy := (building.busy_iff chains rfl rfl key).mp busy
    exact ⟨wasBusy, building.busy_session wasBusy⟩

end Made

end AnglerHal.JpegService
