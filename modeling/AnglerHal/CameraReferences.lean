import AnglerHal.CameraTable

namespace AnglerHal.CameraTable

open LabelledRun

/-!
# References to the cameras

While no two opens of a camera overlap, every object with users is the one in
its place of the table, or the one that the only open of its camera is about to
put there.  Each step of a thread keeps this.
-/

/-- What steps that meet the condition keep. -/
structure TableInv (sensors : Sensors) (ctrl : CamCtrl) : Prop where
  slot : ∀ cameraIdx obj, ctrl.camObj cameraIdx = some obj → cameraIdx < sensors.numCam ∧
          ∃ cam, ctrl.objs obj = some cam ∧
            indexByHandler cam.myHdl = cameraIdx ∧ 0 < cam.refCount ∧
            ctrl.opened obj = ctrl.closed obj + cam.refCount
  opening : ∀ thread cameraIdx obj, ctrl.Opening thread cameraIdx obj →
        cameraIdx < sensors.numCam ∧ ctrl.camObj cameraIdx = none ∧
          (∃ cam, ctrl.objs obj = some cam ∧
            indexByHandler cam.myHdl = cameraIdx ∧ cam.refCount = 1) ∧
          ctrl.opened obj = 0 ∧ ctrl.closed obj = 0
  alone : ∀ first second cameraIdx obj other, ctrl.Opening first cameraIdx obj →
      ctrl.Opening second cameraIdx other → first = second
  live : ∀ cameraIdx obj, ctrl.Live cameraIdx obj → ctrl.camObj cameraIdx = some obj ∨
          ∃ thread, ctrl.Opening thread cameraIdx obj
  counted : ∀ obj, ctrl.closed obj < ctrl.opened obj → ∃ cameraIdx, ctrl.Live cameraIdx obj
  closing : ∀ thread obj, ctrl.calls thread = some (.closing obj) → obj < ctrl.nextObj ∧
          ∀ cam, ctrl.objs obj = some cam → cam.refCount = 0
  fresh : ∀ obj, ctrl.nextObj ≤ obj →
        ctrl.objs obj = none ∧ ctrl.opened obj = 0 ∧ ctrl.closed obj = 0

variable {sensors : Sensors} {ctrl : CamCtrl}

theorem TableInv.empty : TableInv sensors .empty where
  slot := by simp [CamCtrl.empty]
  opening := by simp [CamCtrl.empty, CamCtrl.Opening]
  alone := by simp [CamCtrl.empty, CamCtrl.Opening]
  live := by simp [CamCtrl.empty, CamCtrl.Live]
  counted := by simp [CamCtrl.empty]
  closing := by simp [CamCtrl.empty]
  fresh := by simp [CamCtrl.empty]

theorem CamCtrl.Opening.same {thread cameraIdx otherIdx obj other : Nat}
    (opening : ctrl.Opening thread cameraIdx obj)
    (again : ctrl.Opening thread otherIdx other) :
    cameraIdx = otherIdx ∧ obj = other := by
  obtain ⟨rc, phase⟩ := opening
  obtain ⟨rcAgain, phaseAgain⟩ := again
  rw [phase] at phaseAgain
  cases phaseAgain
  exact ⟨rfl, rfl⟩

variable {cameraIdx obj thread otherIdx other closed : Nat} {cam : CameraObj}
  {phase : Option CallPhase} {rc : Option Int} {next : CamCtrl}
  {outputs : List TableOutput} {event : TableEvent}

theorem TableInv.cameraByHandler (inv : TableInv sensors ctrl)
    (slot : ctrl.camObj cameraIdx = some obj) (allocated : ctrl.objs obj = some cam) :
    ctrl.cameraByHandler sensors cam.myHdl = some obj := by
  obtain ⟨valid, found, same, index, -, -⟩ := inv.slot cameraIdx obj slot
  rw [allocated] at same
  obtain rfl := Option.some.inj same
  have inTable : cameraIdx < sensors.maxNumSensors := Nat.lt_of_lt_of_le valid sensors.fits
  simp [CamCtrl.cameraByHandler, index, inTable, slot, allocated]

theorem CamCtrl.cameraByHandler_eq_some {camHandle : Nat}
    (found : ctrl.cameraByHandler sensors camHandle = some obj) :
    ctrl.camObj (indexByHandler camHandle) = some obj := by
  unfold cameraByHandler at found
  split at found
  · split at found
    · cases found
    · rename_i stored slot
      split at found
      · cases found
      · split at found
        · cases found
          exact slot
        · cases found
  · cases found

theorem TableInv.sound (inv : TableInv sensors ctrl) :
    TableSound sensors ctrl := by
  have stored : ∀ obj, ctrl.closed obj < ctrl.opened obj →
          ∃ cameraIdx, ctrl.camObj cameraIdx = some obj := by
    intro obj outstanding
    obtain ⟨cameraIdx, live⟩ := inv.counted obj outstanding
    rcases inv.live cameraIdx obj live with slot | ⟨thread, opening⟩
    · exact ⟨cameraIdx, slot⟩
    · obtain ⟨-, -, -, opened, -⟩ := inv.opening thread cameraIdx obj opening
      rw [opened] at outstanding
      exact absurd outstanding (Nat.not_lt_zero _)
  refine ⟨?_, ?_, ?_⟩
  · intro obj outstanding
    obtain ⟨cameraIdx, slot⟩ := stored obj outstanding
    obtain ⟨-, cam, allocated, -, -, -⟩ := inv.slot cameraIdx obj slot
    exact ⟨cam, allocated, inv.cameraByHandler slot allocated⟩
  · intro obj cam outstanding allocated
    obtain ⟨cameraIdx, slot⟩ := stored obj outstanding
    obtain ⟨-, found, same, -, -, counted⟩ := inv.slot cameraIdx obj slot
    rw [allocated] at same
    obtain rfl := Option.some.inj same
    rw [counted, Nat.add_sub_cancel_left]
  · intro cameraIdx first second firstLive secondLive
    rcases inv.live cameraIdx first firstLive with slot | ⟨thread, opening⟩
    · rcases inv.live cameraIdx second secondLive with
        slotToo | ⟨other, openingToo⟩
      · exact Option.some.inj (slot.symm.trans slotToo)
      · have empty := (inv.opening other cameraIdx second openingToo).2.1
        rw [empty] at slot
        cases slot
    · rcases inv.live cameraIdx second secondLive with
        slotToo | ⟨other, openingToo⟩
      · have empty := (inv.opening thread cameraIdx first opening).2.1
        rw [empty] at slotToo
        cases slotToo
      · have sameThread := inv.alone thread other cameraIdx first second opening openingToo
        subst sameThread
        exact (opening.same openingToo).2

/-! ## Steps that only move a thread -/

theorem TableInv.moveThread (inv : TableInv sensors ctrl)
    (sameOpens :
      ∀ cameraIdx obj,
        (∃ rc, phase = some (.opening cameraIdx obj rc)) ↔
          ctrl.Opening thread cameraIdx obj)
    (closing :
      ∀ obj,
        phase = some (.closing obj) →
          obj < ctrl.nextObj ∧
            ∀ cam, ctrl.objs obj = some cam → cam.refCount = 0) :
    TableInv sensors (ctrl.setCall thread phase) := by
  have openingIff :
      ∀ other cameraIdx obj,
        (ctrl.setCall thread phase).Opening other cameraIdx obj ↔
          ctrl.Opening other cameraIdx obj := by
    intro other cameraIdx obj
    by_cases same : other = thread
    · subst same
      simpa only [CamCtrl.Opening, CamCtrl.setCall, Function.update_self]
        using sameOpens cameraIdx obj
    · simp only [CamCtrl.Opening, CamCtrl.setCall,
        Function.update_of_ne same]
  exact
    { slot := inv.slot
      opening := by
        intro other cameraIdx obj opening
        exact inv.opening other cameraIdx obj ((openingIff _ _ _).mp opening)
      alone := by
        intro first second cameraIdx obj other opening openingToo
        exact inv.alone first second cameraIdx obj other
          ((openingIff _ _ _).mp opening) ((openingIff _ _ _).mp openingToo)
      live := by
        intro cameraIdx obj live
        exact (inv.live cameraIdx obj live).imp id fun ⟨other, opening⟩ =>
          ⟨other, (openingIff _ _ _).mpr opening⟩
      counted := inv.counted
      closing := by
        intro other obj isClosing
        by_cases same : other = thread
        · subst same
          simp only [CamCtrl.setCall, Function.update_self] at isClosing
          exact closing obj isClosing
        · simp only [CamCtrl.setCall, Function.update_of_ne same]
            at isClosing
          exact inv.closing other obj isClosing
      fresh := inv.fresh }

theorem TableInv.setCall (inv : TableInv sensors ctrl)
    (opensNothing : ∀ cameraIdx obj, ¬ ctrl.Opening thread cameraIdx obj)
    (quiet : ∀ cameraIdx obj rc, phase ≠ some (.opening cameraIdx obj rc))
    (closing : ∀ obj, phase = some (.closing obj) → obj < ctrl.nextObj ∧
            ∀ cam, ctrl.objs obj = some cam → cam.refCount = 0) :
    TableInv sensors (ctrl.setCall thread phase) := by
  refine inv.moveThread ?_ closing
  intro cameraIdx obj
  exact iff_of_false (fun ⟨rc, opening⟩ => quiet cameraIdx obj rc opening)
    (opensNothing cameraIdx obj)

theorem TableInv.mmCameraOpen (inv : TableInv sensors ctrl)
    (phase : ctrl.calls thread = some (.opening cameraIdx obj none)) (rc : Int) :
    TableInv sensors (ctrl.setCall thread (some (.opening cameraIdx obj (some rc)))) := by
  refine inv.moveThread ?_ (by simp)
  intro otherIdx other
  simp [CamCtrl.Opening, phase]

theorem CamCtrl.not_opening (isPhase : ctrl.calls thread = phase)
    (quiet : ∀ cameraIdx obj rc, phase ≠ some (.opening cameraIdx obj rc)) :
    ∀ cameraIdx obj, ¬ ctrl.Opening thread cameraIdx obj := by
  rintro cameraIdx obj ⟨rc, opening⟩
  exact quiet cameraIdx obj rc (isPhase.symm.trans opening)

/-! ## Steps that change an object -/

theorem TableInv.slot_unique (inv : TableInv sensors ctrl)
    (slot : ctrl.camObj cameraIdx = some obj)
    (otherSlot : ctrl.camObj otherIdx = some obj) :
    otherIdx = cameraIdx := by
  obtain ⟨-, cam, allocated, index, -⟩ := inv.slot cameraIdx obj slot
  obtain ⟨-, again, isAgain, againIndex, -⟩ := inv.slot otherIdx obj otherSlot
  rw [allocated] at isAgain
  obtain rfl := Option.some.inj isAgain
  exact againIndex.symm.trans index

theorem TableInv.not_opening_of_slot (inv : TableInv sensors ctrl)
    (slot : ctrl.camObj cameraIdx = some obj)
    (opening : ctrl.Opening thread otherIdx other) :
    otherIdx ≠ cameraIdx ∧ other ≠ obj := by
  obtain ⟨-, empty, ⟨cam, allocated, index, -⟩, -⟩ :=
    inv.opening thread otherIdx other opening
  have different : otherIdx ≠ cameraIdx := by
    rintro rfl
    rw [slot] at empty
    cases empty
  refine ⟨different, ?_⟩
  rintro rfl
  obtain ⟨-, found, isFound, foundIndex, -⟩ := inv.slot cameraIdx other slot
  rw [allocated] at isFound
  obtain rfl := Option.some.inj isFound
  exact different (index.symm.trans foundIndex)

theorem TableInv.lt_nextObj (inv : TableInv sensors ctrl)
    (allocated : ctrl.objs obj = some cam) :
    obj < ctrl.nextObj := by
  by_contra isFresh
  have free := (inv.fresh obj (Nat.le_of_not_lt isFresh)).1
  rw [allocated] at free
  cases free

theorem TableInv.ne_of_fresh (inv : TableInv sensors ctrl)
    (allocated : ctrl.objs obj = some cam) (isFresh : ctrl.nextObj ≤ other) :
    other ≠ obj := by
  rintro rfl
  exact absurd (inv.lt_nextObj allocated) (Nat.not_lt_of_le isFresh)

theorem TableInv.opening_apart (inv : TableInv sensors ctrl) {first second : Nat}
    (opening : ctrl.Opening first cameraIdx obj)
    (otherOpening : ctrl.Opening second otherIdx other) (different : second ≠ first) :
    otherIdx ≠ cameraIdx ∧ other ≠ obj := by
  have differentIdx : otherIdx ≠ cameraIdx := by
    rintro rfl
    exact different (inv.alone _ _ _ _ _ otherOpening opening)
  refine ⟨differentIdx, ?_⟩
  rintro rfl
  obtain ⟨-, -, ⟨cam, allocated, index, -⟩, -⟩ := inv.opening first cameraIdx other opening
  obtain ⟨-, -, ⟨again, isAgain, againIndex, -⟩, -⟩ :=
    inv.opening second otherIdx other otherOpening
  rw [allocated] at isAgain
  obtain rfl := Option.some.inj isAgain
  exact differentIdx (againIndex.symm.trans index)

/-- The references to an object of the table are counted anew. -/
def CamCtrl.recount (obj : Nat) (cam : CameraObj) (refCount opened closed : Nat)
    (ctrl : CamCtrl) : CamCtrl :=
  { ctrl with
      objs :=
        Function.update ctrl.objs obj (some { cam with refCount := refCount })
      opened := Function.update ctrl.opened obj opened
      closed := Function.update ctrl.closed obj closed }

theorem TableInv.recount (inv : TableInv sensors ctrl) {refCount opened : Nat}
    (slot : ctrl.camObj cameraIdx = some obj) (allocated : ctrl.objs obj = some cam)
    (used : 0 < refCount) (counted : opened = closed + refCount) :
    TableInv sensors (ctrl.recount obj cam refCount opened closed) := by
  obtain ⟨valid, found, isFound, index, wasUsed, -⟩ := inv.slot cameraIdx obj slot
  rw [allocated] at isFound
  obtain rfl := Option.some.inj isFound
  have liveIff :
      ∀ otherIdx other,
        (ctrl.recount obj cam refCount opened closed).Live otherIdx other ↔
          ctrl.Live otherIdx other := by
    intro otherIdx other
    by_cases same : other = obj
    · subst same
      simp [CamCtrl.Live, CamCtrl.recount, allocated, used, wasUsed]
    · simp [CamCtrl.Live, CamCtrl.recount, Function.update_of_ne same]
  exact
    { slot := by
        intro otherIdx other otherSlot
        by_cases same : other = obj
        · subst same
          obtain rfl := inv.slot_unique slot otherSlot
          refine ⟨valid, { cam with refCount := refCount }, ?_, index, used,
            ?_⟩
          · simp [CamCtrl.recount]
          · simpa [CamCtrl.recount] using counted
        · simpa [CamCtrl.recount, Function.update_of_ne same] using
            inv.slot otherIdx other otherSlot
      opening := by
        intro thread otherIdx other opening
        have different := (inv.not_opening_of_slot slot opening).2
        simpa [CamCtrl.recount, Function.update_of_ne different] using
          inv.opening thread otherIdx other opening
      alone := inv.alone
      live := by
        intro otherIdx other live
        exact inv.live otherIdx other ((liveIff otherIdx other).mp live)
      counted := by
        intro other outstanding
        by_cases same : other = obj
        · subst same
          exact ⟨cameraIdx, { cam with refCount := refCount },
            by simp [CamCtrl.recount], used, index⟩
        · simp only [CamCtrl.recount, Function.update_of_ne same]
            at outstanding
          obtain ⟨otherIdx, live⟩ := inv.counted other outstanding
          exact ⟨otherIdx, (liveIff otherIdx other).mpr live⟩
      closing := by
        intro thread other closing
        obtain ⟨old, unused⟩ := inv.closing thread other closing
        by_cases same : other = obj
        · subst same
          rw [unused cam allocated] at wasUsed
          exact absurd wasUsed (Nat.lt_irrefl 0)
        · refine ⟨old, ?_⟩
          simpa only [CamCtrl.recount, Function.update_of_ne same] using unused
      fresh := by
        intro other isFresh
        have different := inv.ne_of_fresh allocated isFresh
        simpa [CamCtrl.recount, Function.update_of_ne different] using
          inv.fresh other isFresh }

theorem TableInv.free (inv : TableInv sensors ctrl) {obj : Nat}
    (unused : ∀ cam, ctrl.objs obj = some cam → cam.refCount = 0) :
    TableInv sensors
      { ctrl with objs := Function.update ctrl.objs obj none } := by
  have notUsed :
      ∀ other cam, ctrl.objs other = some cam → 0 < cam.refCount →
        other ≠ obj := by
    rintro other cam allocated used rfl
    rw [unused cam allocated] at used
    exact absurd used (Nat.lt_irrefl 0)
  have liveIff :
      ∀ cameraIdx other,
        ({ ctrl with
            objs := Function.update ctrl.objs obj none } : CamCtrl).Live
            cameraIdx other ↔
          ctrl.Live cameraIdx other := by
    intro cameraIdx other
    by_cases same : other = obj
    · subst same
      refine iff_of_false (by simp [CamCtrl.Live]) ?_
      rintro ⟨cam, allocated, used, -⟩
      exact notUsed other cam allocated used rfl
    · simp [CamCtrl.Live, Function.update_of_ne same]
  exact
    { slot := by
        intro cameraIdx other slot
        obtain ⟨valid, cam, allocated, index, used, counted⟩ :=
          inv.slot cameraIdx other slot
        refine ⟨valid, cam, ?_, index, used, counted⟩
        rw [← allocated]
        exact Function.update_of_ne (notUsed other cam allocated used) _ _
      opening := by
        intro thread cameraIdx other opening
        obtain ⟨valid, empty, ⟨cam, allocated, index, one⟩, counts⟩ :=
          inv.opening thread cameraIdx other opening
        refine ⟨valid, empty, ⟨cam, ?_, index, one⟩, counts⟩
        rw [← allocated]
        exact Function.update_of_ne
          (notUsed other cam allocated (one ▸ Nat.one_pos)) _ _
      alone := inv.alone
      live := by
        intro cameraIdx other live
        exact inv.live cameraIdx other ((liveIff _ _).mp live)
      counted := by
        intro other outstanding
        obtain ⟨cameraIdx, live⟩ := inv.counted other outstanding
        exact ⟨cameraIdx, (liveIff _ _).mpr live⟩
      closing := by
        intro thread other closing
        obtain ⟨old, zero⟩ := inv.closing thread other closing
        refine ⟨old, ?_⟩
        intro cam allocated
        by_cases same : other = obj
        · subst same
          simp at allocated
        · simp only [Function.update_of_ne same] at allocated
          exact zero cam allocated
      fresh := by
        intro other isFresh
        obtain ⟨free, counts⟩ := inv.fresh other isFresh
        refine ⟨?_, counts⟩
        by_cases same : other = obj
        · subst same
          simp
        · simpa only [Function.update_of_ne same] using free }

theorem TableInv.unpublish (inv : TableInv sensors ctrl)
    (slot : ctrl.camObj cameraIdx = some obj) (allocated : ctrl.objs obj = some cam)
    (balanced : ctrl.opened obj ≤ closed) :
    TableInv sensors { ctrl with
          camObj := Function.update ctrl.camObj cameraIdx none
          objs :=
            Function.update ctrl.objs obj (some { cam with refCount := 0 })
          closed := Function.update ctrl.closed obj closed } where
  slot := by
    intro otherIdx other otherSlot
    by_cases sameIdx : otherIdx = cameraIdx
    · subst sameIdx
      simp at otherSlot
    · simp only [Function.update_of_ne sameIdx] at otherSlot
      have different : other ≠ obj := by
        rintro rfl
        exact sameIdx (inv.slot_unique slot otherSlot)
      simpa [Function.update_of_ne different] using inv.slot otherIdx other otherSlot
  opening := by
    intro thread otherIdx other opening
    obtain ⟨sameIdx, different⟩ := inv.not_opening_of_slot slot opening
    simpa [Function.update_of_ne sameIdx, Function.update_of_ne different]
      using inv.opening thread otherIdx other opening
  alone := inv.alone
  live := by
    rintro otherIdx other ⟨found, isFound, used, index⟩
    by_cases same : other = obj
    · subst same
      simp only [Function.update_self, Option.some.injEq] at isFound
      subst isFound
      exact absurd used (Nat.lt_irrefl 0)
    · simp only [Function.update_of_ne same] at isFound
      refine (inv.live otherIdx other ⟨found, isFound, used, index⟩).imp ?_ id
      intro otherSlot
      have sameIdx : otherIdx ≠ cameraIdx := by
        rintro rfl
        exact same (Option.some.inj (otherSlot.symm.trans slot))
      simpa only [Function.update_of_ne sameIdx] using otherSlot
  counted := by
    intro other outstanding
    by_cases same : other = obj
    · subst same
      simp only [Function.update_self] at outstanding
      exact absurd outstanding (Nat.not_lt_of_le balanced)
    · simp only [Function.update_of_ne same] at outstanding
      simpa [CamCtrl.Live, Function.update_of_ne same] using inv.counted other outstanding
  closing := by
    intro thread other closing
    obtain ⟨old, unused⟩ := inv.closing thread other closing
    refine ⟨old, ?_⟩
    intro found isFound
    by_cases same : other = obj
    · subst same
      simp only [Function.update_self, Option.some.injEq] at isFound
      rw [← isFound]
    · simp only [Function.update_of_ne same] at isFound
      exact unused found isFound
  fresh := by
    intro other isFresh
    have different := inv.ne_of_fresh allocated isFresh
    simpa [Function.update_of_ne different] using inv.fresh other isFresh

theorem CamCtrl.wasClosing (quiet : ∀ found, phase ≠ some (.closing found))
    (closing : Function.update ctrl.calls thread phase other = some (.closing obj)) :
    ctrl.calls other = some (.closing obj) := by
  by_cases same : other = thread
  · subst same
    rw [Function.update_self] at closing
    exact absurd closing (quiet obj)
  · rw [Function.update_of_ne same] at closing
    exact closing

theorem TableInv.allocate (inv : TableInv sensors ctrl)
    (valid : cameraIdx < sensors.numCam) (empty : ctrl.camObj cameraIdx = none)
    (idle : ctrl.calls thread = none)
    (alone : ∀ other obj, ¬ ctrl.Opening other cameraIdx obj)
    (index : indexByHandler cam.myHdl = cameraIdx) (one : cam.refCount = 1) :
    TableInv sensors
      (({ ctrl with
          objs := Function.update ctrl.objs ctrl.nextObj (some cam)
          nextObj := ctrl.nextObj + 1 } : CamCtrl).setCall thread
        (some (.opening cameraIdx ctrl.nextObj none))) := by
  have openingIff :
      ∀ other otherIdx obj,
        (({ ctrl with
            objs := Function.update ctrl.objs ctrl.nextObj (some cam)
            nextObj := ctrl.nextObj + 1 } : CamCtrl).setCall thread
          (some (.opening cameraIdx ctrl.nextObj none))).Opening
            other otherIdx obj ↔
          (other = thread ∧ otherIdx = cameraIdx ∧ obj = ctrl.nextObj) ∨
            ctrl.Opening other otherIdx obj := by
    intro other otherIdx obj
    by_cases same : other = thread
    · subst same
      simp [CamCtrl.Opening, CamCtrl.setCall, idle, eq_comm]
    · simp [CamCtrl.Opening, CamCtrl.setCall, same]
  have older :
      ∀ {obj found}, ctrl.objs obj = some found → obj ≠ ctrl.nextObj := by
    rintro obj found allocated rfl
    exact absurd (inv.lt_nextObj allocated) (Nat.lt_irrefl _)
  exact
    { slot := by
        intro otherIdx other otherSlot
        obtain ⟨otherValid, found, isFound, rest⟩ := inv.slot otherIdx other otherSlot
        refine ⟨otherValid, found, ?_, rest⟩
        rw [← isFound]
        exact Function.update_of_ne (older isFound) _ _
      opening := by
        intro other otherIdx obj opening
        rcases (openingIff other otherIdx obj).mp opening with
          ⟨rfl, rfl, rfl⟩ | earlier
        · have counts := (inv.fresh ctrl.nextObj (Nat.le_refl _)).2
          exact ⟨valid, empty, ⟨cam, Function.update_self _ _ _, index, one⟩,
            counts⟩
        · obtain ⟨otherValid, otherEmpty, ⟨found, isFound, rest⟩, counts⟩ :=
            inv.opening other otherIdx obj earlier
          refine ⟨otherValid, otherEmpty, ⟨found, ?_, rest⟩, counts⟩
          rw [← isFound]
          exact Function.update_of_ne (older isFound) _ _
      alone := by
        intro first second otherIdx obj other opening openingToo
        rcases (openingIff _ _ _).mp opening with ⟨rfl, rfl, -⟩ | earlier
        · rcases (openingIff _ _ _).mp openingToo with ⟨rfl, -⟩ | earlierToo
          · rfl
          · exact absurd earlierToo (alone second other)
        · rcases (openingIff _ _ _).mp openingToo with
            ⟨rfl, rfl, -⟩ | earlierToo
          · exact absurd earlier (alone first obj)
          · exact inv.alone first second otherIdx obj other earlier earlierToo
      live := by
        rintro otherIdx other ⟨found, isFound, used, foundIndex⟩
        by_cases same : other = ctrl.nextObj
        · subst same
          simp only [CamCtrl.setCall, Function.update_self,
            Option.some.injEq] at isFound
          subst isFound
          exact .inr ⟨thread, (openingIff _ _ _).mpr
            (.inl ⟨rfl, foundIndex.symm.trans index, rfl⟩)⟩
        · simp only [CamCtrl.setCall, Function.update_of_ne same] at isFound
          exact (inv.live otherIdx other
            ⟨found, isFound, used, foundIndex⟩).imp id
              fun ⟨opener, opening⟩ =>
                ⟨opener, (openingIff _ _ _).mpr (.inr opening)⟩
      counted := by
        intro other outstanding
        obtain ⟨otherIdx, found, isFound, rest⟩ := inv.counted other outstanding
        refine ⟨otherIdx, found, ?_, rest⟩
        rw [← isFound]
        exact Function.update_of_ne (older isFound) _ _
      closing := by
        intro other obj closing
        have wasClosing := CamCtrl.wasClosing (by simp) closing
        obtain ⟨old, unused⟩ := inv.closing other obj wasClosing
        have different : obj ≠ ctrl.nextObj := Nat.ne_of_lt old
        refine ⟨Nat.lt_succ_of_lt old, ?_⟩
        simpa only [CamCtrl.setCall, Function.update_of_ne different]
          using unused
      fresh := by
        intro other isFresh
        have later : ctrl.nextObj < other := isFresh
        have different : other ≠ ctrl.nextObj := Nat.ne_of_gt later
        simpa [CamCtrl.setCall, Function.update_of_ne different] using
          inv.fresh other (Nat.le_of_lt later) }

theorem CamCtrl.opening_left {thread : Nat} {next : Option CallPhase}
    (quiet : ∀ otherIdx other rc, next ≠ some (.opening otherIdx other rc))
    {other otherIdx opened : Nat} :
    (∃ rc, Function.update ctrl.calls thread next other = some (.opening otherIdx opened rc)) ↔
      other ≠ thread ∧ ctrl.Opening other otherIdx opened := by
  by_cases same : other = thread
  · subst same
    simp [quiet]
  · simp [Opening, same]

theorem TableInv.publish_failed (inv : TableInv sensors ctrl)
    (phase : ctrl.calls thread = some (.opening cameraIdx obj rc)) :
    TableInv sensors
      (({ ctrl with
          objs := Function.update ctrl.objs obj none } : CamCtrl).setCall
        thread none) := by
  have opening : ctrl.Opening thread cameraIdx obj := ⟨rc, phase⟩
  obtain ⟨valid, empty, ⟨cam, allocated, index, one⟩, opened, closed⟩ :=
    inv.opening thread cameraIdx obj opening
  have openingIff := @CamCtrl.opening_left ctrl thread none (by simp)
  exact
    { slot := by
        intro otherIdx other slot
        have different : other ≠ obj := ((inv.not_opening_of_slot slot opening).2).symm
        simpa [CamCtrl.setCall, Function.update_of_ne different] using
          inv.slot otherIdx other slot
      opening := by
        intro other otherIdx found otherOpening
        obtain ⟨different, earlier⟩ := openingIff.mp otherOpening
        have differentObj := (inv.opening_apart opening earlier different).2
        simpa [CamCtrl.setCall, Function.update_of_ne differentObj] using
          inv.opening other otherIdx found earlier
      alone := by
        intro first second otherIdx found other firstOpening secondOpening
        exact inv.alone first second otherIdx found other
          (openingIff.mp firstOpening).2 (openingIff.mp secondOpening).2
      live := by
        rintro otherIdx other ⟨found, isFound, used, foundIndex⟩
        by_cases same : other = obj
        · subst same
          simp [CamCtrl.setCall] at isFound
        · simp only [CamCtrl.setCall, Function.update_of_ne same] at isFound
          refine (inv.live otherIdx other
            ⟨found, isFound, used, foundIndex⟩).imp id ?_
          rintro ⟨opener, earlier⟩
          refine ⟨opener, openingIff.mpr ⟨?_, earlier⟩⟩
          rintro rfl
          exact same (earlier.same opening).2
      counted := by
        intro other outstanding
        have different : other ≠ obj := by
          rintro rfl
          simp [CamCtrl.setCall, opened] at outstanding
        simpa [CamCtrl.Live, CamCtrl.setCall,
          Function.update_of_ne different] using
          inv.counted other outstanding
      closing := by
        intro other found closing
        have wasClosing := CamCtrl.wasClosing (by simp) closing
        obtain ⟨old, unused⟩ := inv.closing other found wasClosing
        have different : found ≠ obj := by
          rintro rfl
          have none := unused cam allocated
          rw [one] at none
          cases none
        exact ⟨old, by
          simpa only [CamCtrl.setCall, Function.update_of_ne different]
            using unused⟩
      fresh := by
        intro other isFresh
        have different := inv.ne_of_fresh allocated isFresh
        simpa [CamCtrl.setCall, Function.update_of_ne different] using
          inv.fresh other isFresh }

theorem TableInv.publish_opened (inv : TableInv sensors ctrl)
    (phase : ctrl.calls thread = some (.opening cameraIdx obj rc)) :
    TableInv sensors
      (({ ctrl with
          camObj := Function.update ctrl.camObj cameraIdx (some obj)
          opened := Function.update ctrl.opened obj (ctrl.opened obj + 1) } :
        CamCtrl).setCall thread (some (.published obj))) := by
  have opening : ctrl.Opening thread cameraIdx obj := ⟨rc, phase⟩
  obtain ⟨valid, empty, ⟨cam, allocated, index, one⟩, opened, closed⟩ :=
    inv.opening thread cameraIdx obj opening
  have openingIff := @CamCtrl.opening_left ctrl thread
    (some (.published obj)) (by simp)
  exact
    { slot := by
        intro otherIdx other slot
        by_cases same : otherIdx = cameraIdx
        · subst same
          obtain rfl : obj = other := by
            simpa [CamCtrl.setCall] using slot
          refine ⟨valid, cam, allocated, index, one ▸ Nat.one_pos, ?_⟩
          simp [CamCtrl.setCall, opened, closed, one]
        · simp only [CamCtrl.setCall, Function.update_of_ne same] at slot
          have different : other ≠ obj := ((inv.not_opening_of_slot slot opening).2).symm
          simpa [CamCtrl.setCall, Function.update_of_ne different] using
            inv.slot otherIdx other slot
      opening := by
        intro other otherIdx found otherOpening
        obtain ⟨different, earlier⟩ := openingIff.mp otherOpening
        obtain ⟨differentIdx, differentObj⟩ := inv.opening_apart opening earlier different
        simpa [CamCtrl.setCall, Function.update_of_ne differentIdx,
          Function.update_of_ne differentObj] using
          inv.opening other otherIdx found earlier
      alone := by
        intro first second otherIdx found other firstOpening secondOpening
        exact inv.alone first second otherIdx found other
          (openingIff.mp firstOpening).2 (openingIff.mp secondOpening).2
      live := by
        intro otherIdx other live
        rcases inv.live otherIdx other live with slot | ⟨opener, earlier⟩
        · have different := (inv.not_opening_of_slot slot opening).1.symm
          exact .inl (by
            simpa only [CamCtrl.setCall, Function.update_of_ne different]
              using slot)
        · by_cases same : opener = thread
          · subst same
            obtain ⟨rfl, rfl⟩ := earlier.same opening
            exact .inl (by simp [CamCtrl.setCall])
          · exact .inr ⟨opener, openingIff.mpr ⟨same, earlier⟩⟩
      counted := by
        intro other outstanding
        by_cases same : other = obj
        · subst same
          exact ⟨cameraIdx, cam, allocated, one ▸ Nat.one_pos, index⟩
        · simp only [CamCtrl.setCall, Function.update_of_ne same]
            at outstanding
          exact inv.counted other outstanding
      closing := by
        intro other found closing
        have wasClosing := CamCtrl.wasClosing (by simp) closing
        exact inv.closing other found wasClosing
      fresh := by
        intro other isFresh
        have different := inv.ne_of_fresh allocated isFresh
        simpa [CamCtrl.setCall, Function.update_of_ne different] using
          inv.fresh other isFresh }

/-! ## Runs -/

theorem indexByHandler_generateHandler (valid : cameraIdx < sensors.numCam)
    (historyCount : Nat) :
    indexByHandler (generateHandler historyCount cameraIdx) = cameraIdx := by
  have small : cameraIdx < 256 :=
    Nat.lt_of_lt_of_le (Nat.lt_of_lt_of_le valid sensors.fits) sensors.indexed
  unfold indexByHandler generateHandler
  omega

/-- A step that meets the condition keeps the invariant and what a call is owed. -/
structure Kept (sensors : Sensors) (ctrl : CamCtrl) (next : CamCtrl)
    (outputs : List TableOutput) : Prop where
  inv : TableInv sensors next
  valid : ∀ output ∈ outputs, output.Valid next
  unchanged : ∀ thread rc, .openFailed thread rc ∈ outputs → next.camObj = ctrl.camObj

theorem TableInv.keeps_same (inv : TableInv sensors ctrl) {output : TableOutput}
    (valid : output.Valid ctrl) :
    Kept sensors ctrl ctrl [output] where
  inv := inv
  valid := by simpa using valid
  unchanged := fun _ _ _ => rfl

theorem TableInv.keeps_silent (inv : TableInv sensors next) :
    Kept sensors ctrl next [] where
  inv := inv
  valid := by simp
  unchanged := by simp

theorem TableInv.cameraOpen (inv : TableInv sensors ctrl) {historyCount : Nat}
    {malloc : Bool}
    (careful : TableCareful sensors ctrl (.cameraOpen thread cameraIdx malloc historyCount))
    (idle : ctrl.calls thread = none)
    (stepped : ctrl.cameraOpen sensors thread cameraIdx malloc historyCount =
        some (next, outputs)) :
    Kept sensors ctrl next outputs := by
  unfold CamCtrl.cameraOpen at stepped
  by_cases invalid : sensors.numCam ≤ cameraIdx
  · rw [if_pos invalid] at stepped
    cases stepped
    exact inv.keeps_same trivial
  · have valid : cameraIdx < sensors.numCam := Nat.lt_of_not_le invalid
    rw [if_neg invalid] at stepped
    cases slot : ctrl.camObj cameraIdx with
    | some obj =>
      obtain ⟨-, cam, allocated, -, used, counted⟩ := inv.slot cameraIdx obj slot
      simp only [slot, allocated, Option.some.injEq, Prod.mk.injEq] at stepped
      obtain ⟨rfl, rfl⟩ := stepped
      have added :=
        inv.recount slot allocated (Nat.succ_pos cam.refCount) (congrArg Nat.succ counted)
      simp only [CamCtrl.recount, Function.update_eq_self] at added
      exact (added.setCall (CamCtrl.not_opening idle (by simp)) (by simp) (by simp)).keeps_silent
    | none =>
      simp only [slot] at stepped
      cases malloc with
      | false =>
        cases stepped
        exact inv.keeps_same trivial
      | true =>
        cases stepped
        exact (inv.allocate valid slot idle (careful idle valid slot rfl)
          (indexByHandler_generateHandler valid historyCount)
          rfl).keeps_silent

theorem TableInv.publish (inv : TableInv sensors ctrl) {rc : Int}
    (phase : ctrl.calls thread = some (.opening cameraIdx obj (some rc))) :
    Kept sensors ctrl (ctrl.publish thread cameraIdx obj rc).1
      (ctrl.publish thread cameraIdx obj rc).2 := by
  have empty : ctrl.camObj cameraIdx = none :=
    (inv.opening thread cameraIdx obj ⟨some rc, phase⟩).2.1
  have sameTable : Function.update ctrl.camObj cameraIdx none = ctrl.camObj :=
    Function.update_eq_self_iff.mpr empty.symm
  by_cases opened : rc = 0
  · subst opened
    exact (inv.publish_opened phase).keeps_silent
  · have failed :
        ctrl.publish thread cameraIdx obj rc =
          (({ ctrl with
              objs := Function.update ctrl.objs obj none } :
            CamCtrl).setCall thread none, [.openFailed thread rc]) := by
      simp [CamCtrl.publish, opened, sameTable]
    rw [failed]
    exact
      { inv := inv.publish_failed phase
        valid := by simp [TableOutput.Valid]
        unchanged := fun _ _ _ => rfl }

theorem TableInv.intfClose (inv : TableInv sensors ctrl) {thread cameraHandle : Nat}
    (idle : ctrl.calls thread = none) :
    Kept sensors ctrl (ctrl.intfClose sensors thread cameraHandle).1
      (ctrl.intfClose sensors thread cameraHandle).2 := by
  unfold CamCtrl.intfClose
  cases found : ctrl.cameraByHandler sensors cameraHandle with
  | none =>
    exact inv.keeps_same trivial
  | some obj =>
    have slot := CamCtrl.cameraByHandler_eq_some found
    obtain ⟨-, cam, allocated, -, used, counted⟩ := inv.slot _ obj slot
    simp only [allocated]
    by_cases stays : 0 < cam.refCount - 1
    · rw [if_pos stays]
      have balance :
          ctrl.opened obj = ctrl.closed obj + 1 + (cam.refCount - 1) := by
        omega
      have dropped := inv.recount slot allocated stays balance
      simp only [CamCtrl.recount, Function.update_eq_self] at dropped
      exact
        { inv := dropped
          valid := by simp [TableOutput.Valid]
          unchanged := by simp }
    · rw [if_neg stays]
      have last : cam.refCount - 1 = 0 := Nat.eq_zero_of_not_pos stays
      have balance : ctrl.opened obj ≤ ctrl.closed obj + 1 := by omega
      have taken := inv.unpublish slot allocated balance
      rw [last]
      refine (taken.setCall (CamCtrl.not_opening idle (by simp)) (by simp)
        ?_).keeps_silent
      rintro closing ⟨⟩
      exact ⟨inv.lt_nextObj allocated, by simp⟩

theorem TableInv.step (inv : TableInv sensors ctrl)
    (careful : TableCareful sensors ctrl event)
    (stepped : tableStep sensors ctrl event = some (next, outputs)) :
    Kept sensors ctrl next outputs := by
  cases event with
  | cameraOpen thread cameraIdx malloc historyCount =>
    cases phase : ctrl.calls thread with
    | none =>
      simp only [tableStep, phase] at stepped
      exact inv.cameraOpen careful phase stepped
    | some _ =>
      simp [tableStep, phase] at stepped
  | mmCameraOpen thread rc =>
    simp only [tableStep] at stepped
    split at stepped
    · rename_i phase
      cases stepped
      exact (inv.mmCameraOpen phase rc).keeps_silent
    · cases stepped
  | publish thread =>
    simp only [tableStep] at stepped
    split at stepped
    · rename_i phase
      have kept := inv.publish phase
      rwa [Option.some.inj stepped] at kept
    · cases stepped
  | returnVtbl thread =>
    obtain ⟨stays, lives⟩ := careful
    simp only [tableStep] at stepped
    split at stepped
    · rename_i cameraIdx phase
      cases stepped
      refine
        { inv :=
            inv.setCall (CamCtrl.not_opening phase (by simp)) (by simp)
              (by simp)
          valid := ?_
          unchanged := by simp }
      obtain ⟨obj, slot⟩ := Option.ne_none_iff_exists'.mp (stays cameraIdx phase)
      obtain ⟨-, cam, allocated, -⟩ := inv.slot cameraIdx obj slot
      simp [TableOutput.Valid, slot, CamCtrl.setCall, allocated]
    · rename_i obj phase
      cases stepped
      refine
        { inv :=
            inv.setCall (CamCtrl.not_opening phase (by simp)) (by simp)
              (by simp)
          valid := ?_
          unchanged := by simp }
      simpa [TableOutput.Valid, CamCtrl.setCall] using lives obj phase
    · cases stepped
  | intfClose thread cameraHandle =>
    cases phase : ctrl.calls thread with
    | none =>
      simp only [tableStep, phase, Option.some.injEq] at stepped
      have kept := @TableInv.intfClose _ _ inv thread cameraHandle phase
      rwa [stepped] at kept
    | some _ =>
      simp [tableStep, phase] at stepped
  | mmCameraClose thread =>
    simp only [tableStep] at stepped
    split at stepped
    · rename_i obj phase
      cases stepped
      have freed := inv.free (inv.closing thread obj phase).2
      exact
        { inv :=
            freed.setCall (CamCtrl.not_opening phase (by simp)) (by simp)
              (by simp)
          valid := by simp [TableOutput.Valid]
          unchanged := by simp }
    · cases stepped
  | intfErrorClose thread cameraHandle =>
    simp only [tableStep] at stepped
    split at stepped
    · cases stepped
      exact inv.keeps_same trivial
    · cases stepped

theorem TableInv.soundStep_iff (inv : TableInv sensors ctrl) :
    TableSoundStep sensors ctrl event ↔ TableCareful sensors ctrl event := by
  constructor
  · intro sound
    cases event with
    | cameraOpen thread cameraIdx malloc historyCount =>
      rintro idle valid empty rfl other obj opening
      obtain ⟨-, -, ⟨cam, allocated, index, one⟩, -⟩ :=
        inv.opening other cameraIdx obj opening
      have different : obj ≠ ctrl.nextObj := Nat.ne_of_lt (inv.lt_nextObj allocated)
      have stepped : tableStep sensors ctrl (.cameraOpen thread cameraIdx true historyCount) =
            some (({ ctrl with
                  objs :=
                    Function.update ctrl.objs ctrl.nextObj (some
                        { myHdl := generateHandler historyCount cameraIdx
                          refCount := 1 })
                  nextObj := ctrl.nextObj + 1 } : CamCtrl).setCall thread
                (some (.opening cameraIdx ctrl.nextObj none)), []) := by
        simp [tableStep, idle, CamCtrl.cameraOpen, Nat.not_le_of_lt valid, empty]
      -- both objects of the camera are live now
      refine different ((sound _ _ stepped).1.single cameraIdx obj ctrl.nextObj ?_ ?_)
      · refine ⟨cam, ?_, one ▸ Nat.one_pos, index⟩
        rw [← allocated]
        exact Function.update_of_ne different _ _
      · exact ⟨_, Function.update_self _ _ _, Nat.one_pos,
          indexByHandler_generateHandler valid historyCount⟩
    | returnVtbl thread =>
      refine ⟨?_, ?_⟩
      · intro cameraIdx phase empty
        have stepped : tableStep sensors ctrl (.returnVtbl thread) =
              some (ctrl.setCall thread none, [.opened thread none]) := by
          simp [tableStep, phase, empty]
        obtain ⟨obj, isObj, -⟩ := (sound _ _ stepped).2.1 _ (List.mem_singleton.mpr rfl)
        cases isObj
      · intro obj phase
        have stepped : tableStep sensors ctrl (.returnVtbl thread) =
              some (ctrl.setCall thread none, [.opened thread (some obj)]) := by
          simp [tableStep, phase]
        obtain ⟨found, isFound, allocated⟩ :=
          (sound _ _ stepped).2.1 _ (List.mem_singleton.mpr rfl)
        obtain rfl := Option.some.inj isFound
        exact allocated
    | mmCameraOpen | publish | intfClose | mmCameraClose | intfErrorClose => trivial
  · intro careful next outputs stepped
    have kept := inv.step careful stepped
    exact ⟨kept.inv.sound, kept.valid, kept.unchanged⟩

/--
The table gives its callers what it owes them throughout a run exactly when no
two opens of a camera overlap and no open returns the address of an object that
its other users have closed since the reference.
-/
theorem tableRun_sound_iff (sensors : Sensors) (events : List TableEvent) :
    Guarded (tableStep sensors) (fun ctrl _ event => TableSoundStep sensors ctrl event)
        .empty [] events ↔
      Guarded (tableStep sensors) (fun ctrl _ event => TableCareful sensors ctrl event)
        .empty [] events := by
  refine guarded_iff_of_invariant (TableInv sensors)
    (fun inv => inv.soundStep_iff) ?_ TableInv.empty
  intro ctrl _ event next _ inv sound stepped
  exact (inv.step (inv.soundStep_iff.mp sound) stepped).inv

/-- Two cameras. -/
def twoSensors : Sensors where
  numCam := 2
  maxNumSensors := 5
  fits := Nat.le_of_ble_eq_true rfl
  indexed := Nat.le_of_ble_eq_true rfl

/-- Two threads open camera 0, and the first of them has it. -/
def overlappingOpens : List TableEvent :=
  [.cameraOpen 1 0 true 1, .cameraOpen 2 0 true 2, .mmCameraOpen 1 0,
    .publish 1, .returnVtbl 1, .mmCameraOpen 2 (-1)]

/-- The open that fails takes the camera of the other one out of the table. -/
theorem tableRun_overlapping : ¬ Guarded (tableStep twoSensors)
      (fun ctrl _ event => TableSoundStep twoSensors ctrl event)
      .empty [] (overlappingOpens ++ [.publish 2]) := by
  intro sound
  have failed := sound.last rfl
  have same := (failed _ _ rfl).2.2 2 (-1) (List.mem_singleton.mpr rfl)
  exact absurd (congrFun same 0) (by decide)

end AnglerHal.CameraTable
