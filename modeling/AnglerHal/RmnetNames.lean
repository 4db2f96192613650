import AnglerHal.RmnetReplies

namespace AnglerHal.Rmnetctl

open CString

/-!
# Strings that a call carries

A call carries the names of its caller into the request and a name of the reply
back to its caller, and three checks guard the copies: that of a device name
before the copy, that of the copied length against the constant, and that of
`rmnet_get_vnd_name` against the caller's buffer.  The second one lets a string
of exactly the constant pass, which has lost its last byte by then, and it does
not know the caller's buffer.
-/

/-- The strings that the caller gives for the request. -/
def Api.strings : Api → List Name
  | .associateNetworkDevice _ devName _ => devName.toList
  | .getNetworkDeviceAssociated _ devName => devName.toList
  | .setLinkEgressDataFormat _ _ _ _ devName => devName.toList
  | .getLinkEgressDataFormat _ devName => devName.toList
  | .setLinkIngressDataFormatTailspace _ _ _ devName => devName.toList
  | .getLinkIngressDataFormatTailspace _ devName _ _ => devName.toList
  | .setLogicalEpConfig _ _ _ devName nextDev => devName.toList ++ nextDev.toList
  | .unsetLogicalEpConfig _ _ devName => devName.toList
  | .getLogicalEpConfig _ _ devName _ => devName.toList
  | .newVndPrefix _ _ which vndPrefix => if which = 1 then vndPrefix.toList else []
  | .newVnd .. => []
  | .getVndName .. => []
  | .addDelVndTcFlow .. => []

/-- The strings in a request. -/
def Request.strings (request : Request) : List Name :=
  match request.data with
  | .dev dev => [dev]
  | .egressFormat dev _ _ _ => [dev]
  | .ingressFormat dev _ _ => [dev]
  | .epConfig dev nextDev _ _ => [dev, nextDev]
  | .epId dev _ => [dev]
  | .vnd _ vndName => if request.messageType = .newVndWithPrefix then [vndName] else []
  | .flowControl .. => []

/-- The strings of a reply that the call gives back, and the room that it has for them. -/
def Api.replyStrings (header : RmnetData) (response : Response) : Api → List (Name × Nat)
  | .getLogicalEpConfig _ _ _ nextDevLen =>
    [(response.nextDev, min header.rmnetMaxStrLen nextDevLen.toNat)]
  | .getVndName _ _ buflen => [(response.vndName, buflen.toNat)]
  | _ => []

/-- The strings that a call gives back. -/
def ApiData.strings : ApiData → List Name
  | .epConfig nextDev _ => [nextDev]
  | .vndName name => [name]
  | _ => []

/-- A string and its NUL have no place in the room. -/
def Cut (string : Name) (room : Nat) : Prop :=
  room ≤ string.length

/-- What the kernel's reply to the call is, when one arrives. -/
def Socket.received (header : RmnetData) (env : TransactEnv) (answer : Request → Response)
    (api : Api) (socket : Socket) : Option Response :=
  match (api.call header).request with
  | .error _ => none
  | .ok request =>
    match (socket.rmnetctlTransact env answer request).2 with
    | .error _ => none
    | .ok reply => some reply.response

section Call

variable (header : RmnetData) (api : Api) (received : Option Response)

/-- Some string of the caller or of the data that the kernel sent does not fit. -/
def Api.CutsString : Prop :=
  (∃ name ∈ api.strings, Cut name header.rmnetMaxStrLen) ∨
    ∃ response, received = some response ∧ response.crd = .returnData ∧
      ∃ entry ∈ api.replyStrings header response, Cut entry.1 entry.2

/-- The call has carried all its strings whole. -/
def Api.CarriesWhole (result : ApiResult) : Prop :=
  ∃ request response, (api.call header).request = .ok request ∧ received = some response ∧
    request.strings = api.strings ∧
    result.data.strings = (api.replyStrings header response).map Prod.fst

/-- A success carries whole strings, and a string that does not fit is reported. -/
def Api.KeepsStrings (result : ApiResult) : Prop :=
  (result.returnCode = .success → api.CarriesWhole header received result) ∧
    (api.CutsString header received →
      result = invalidArg ∨ result = libErr .stringTruncation)

/-- A prefix does not have exactly the length of the constant. -/
def Api.PrefixOffLimit : Prop :=
  match api with
  | .newVndPrefix pointers _ which (some vndPrefix) =>
    pointers = true → which = 1 → vndPrefix.length ≠ header.rmnetMaxStrLen
  | _ => True

/-- A next device that does not fit the caller's buffer is longer than the constant. -/
def Api.NextDevFits : Prop :=
  match api with
  | .getLogicalEpConfig _ _ _ nextDevLen =>
    ∀ response, received = some response → response.crd = .returnData →
      Cut response.nextDev (min header.rmnetMaxStrLen nextDevLen.toNat) →
        header.rmnetMaxStrLen < response.nextDev.length
  | _ => True

end Call

/-! ## The request -/

variable {name : Name} {valid : Bool} {devName : Option Name} {api : Api}
  {request : Request}

theorem strlcpy_of_not_cut {room : Nat} (fits : ¬ Cut name room) :
    (strlcpy name room).1 = name :=
  List.take_of_length_le (Nat.le_sub_one_of_lt (Nat.lt_of_not_le fits))

theorem checked_eq_ok {request : Except ApiResult Request} {sent : Request}
    (passed : checked valid request = .ok sent) :
    valid = true ∧ request = .ok sent := by
  cases valid with
  | true => exact ⟨rfl, passed⟩
  | false => cases passed

section Request

variable {header : RmnetData}

/-- A device name that passes its check is copied whole. -/
theorem copyName_of_checkDevName (valid : checkDevName header devName = true) :
    ∃ name, devName = some name ∧ ¬ Cut name header.rmnetMaxStrLen ∧
      copyName header devName = .ok name := by
  cases devName with
  | none => cases valid
  | some name =>
    have short : name.length < header.rmnetMaxStrLen := by simpa [checkDevName] using valid
    refine ⟨name, rfl, Nat.not_le_of_lt short, ?_⟩
    have passes : checkLen header name.length = true := by simp [checkLen, Nat.le_of_lt short]
    simp only [copyName, strlcpy, Option.getD_some, passes, if_true]
    rw [List.take_of_length_le (Nat.le_sub_one_of_lt short)]

theorem copyName_of_long (long : header.rmnetMaxStrLen < name.length) :
    copyName header (some name) = .error (libErr .stringTruncation) := by
  simp [copyName, strlcpy, checkLen, Nat.not_le_of_lt long]

theorem copyName_of_le (le : name.length ≤ header.rmnetMaxStrLen) :
    copyName header (some name) = .ok (strlcpy name header.rmnetMaxStrLen).1 := by
  simp [copyName, strlcpy, checkLen, le]

/-- The request carries the caller's strings, none of which is cut. -/
def Api.SendsWhole (header : RmnetData) (api : Api) (request : Request) : Prop :=
  request.strings = api.strings ∧ ∀ name ∈ api.strings, ¬ Cut name header.rmnetMaxStrLen

/-- A call that only carries a device name. -/
theorem sendsWhole_of_devName {fill : Name → Request}
    (strings : api.strings = devName.toList)
    (filled : ∀ name, (fill name).strings = [name])
    (check : valid = true → checkDevName header devName = true)
    (sent : checked valid (copyName header devName >>= fun dev => .ok (fill dev)) = .ok request) :
    api.SendsWhole header request := by
  obtain ⟨passed, copied⟩ := checked_eq_ok sent
  obtain ⟨name, rfl, whole, isCopy⟩ := copyName_of_checkDevName (check passed)
  rw [isCopy] at copied
  obtain rfl : fill name = request := Except.ok.inj copied
  refine ⟨by rw [filled, strings]; rfl, ?_⟩
  intro other member
  rw [strings] at member
  obtain rfl : other = name := by simpa using member
  exact whole

/-- Off the limit of a prefix, a request carries the caller's strings whole. -/
theorem Api.request_sendsWhole (off : api.PrefixOffLimit header)
    (sent : (api.call header).request = .ok request) :
    api.SendsWhole header request := by
  cases api with
  | associateNetworkDevice | getNetworkDeviceAssociated
  | setLinkEgressDataFormat | getLinkEgressDataFormat
  | setLinkIngressDataFormatTailspace | getLinkIngressDataFormatTailspace
  | unsetLogicalEpConfig | getLogicalEpConfig =>
    exact sendsWhole_of_devName rfl (fun _ => rfl) (by simp +contextual) sent
  | setLogicalEpConfig pointers epId mode devName nextDev =>
    obtain ⟨passed, copied⟩ := checked_eq_ok sent
    simp only [Bool.and_eq_true] at passed
    obtain ⟨dev, rfl, devWhole, devCopy⟩ := copyName_of_checkDevName passed.1.1.2
    obtain ⟨next, rfl, nextWhole, nextCopy⟩ := copyName_of_checkDevName passed.1.2
    rw [devCopy, nextCopy] at copied
    obtain rfl := Except.ok.inj copied
    refine ⟨rfl, ?_⟩
    intro name member
    rcases List.mem_pair.mp member with rfl | rfl
    · exact devWhole
    · exact nextWhole
  | newVndPrefix pointers id which vndPrefix =>
    obtain ⟨passed, copied⟩ := checked_eq_ok sent
    by_cases create : which = 1
    · cases vndPrefix with
      | none =>
        simp only [create, if_true] at copied
        obtain rfl := Except.ok.inj copied
        exact ⟨by simp [Request.strings, strings], by simp [strings]⟩
      | some name =>
        simp only [create, if_true] at copied
        have pointers : pointers = true := by simp_all
        have ne := off pointers create
        rcases Nat.lt_or_gt_of_ne ne with short | long
        · rw [copyName_of_le (Nat.le_of_lt short), strlcpy_of_not_cut (Nat.not_le_of_lt short)]
            at copied
          obtain rfl := Except.ok.inj copied
          refine ⟨by simp [Request.strings, strings, create], ?_⟩
          simpa [strings, create, Cut] using short
        · rw [copyName_of_long long] at copied
          cases copied
    · simp only [create, if_false] at copied
      obtain rfl := Except.ok.inj copied
      exact ⟨by simp [Request.strings, strings, create], by simp [strings, create]⟩
  | newVnd pointers id which =>
    obtain ⟨passed, copied⟩ := checked_eq_ok sent
    by_cases create : which = 1
    · simp only [create, if_true] at copied
      obtain rfl := Except.ok.inj copied
      exact ⟨rfl, nofun⟩
    · simp only [create, if_false] at copied
      obtain rfl := Except.ok.inj copied
      exact ⟨rfl, nofun⟩
  | getVndName | addDelVndTcFlow =>
    obtain ⟨-, copied⟩ := checked_eq_ok sent
    obtain rfl := Except.ok.inj copied
    exact ⟨rfl, nofun⟩

/-- At the limit of a prefix, the request goes out with a part of it. -/
theorem Api.request_of_not_prefixOffLimit (limit : ¬ api.PrefixOffLimit header) :
    (∃ request, (api.call header).request = .ok request) ∧
      (∃ name ∈ api.strings, Cut name header.rmnetMaxStrLen) ∧
      (api.call header).report = reportCode header := by
  cases api with
  | newVndPrefix pointers id which vndPrefix =>
    cases vndPrefix with
    | none => exact absurd trivial limit
    | some name =>
      simp only [PrefixOffLimit, ne_eq, Classical.not_imp, not_not] at limit
      obtain ⟨rfl, rfl, exact⟩ := limit
      refine ⟨?_, ⟨name, by simp [strings], Nat.le_of_eq exact.symm⟩, rfl⟩
      simp only [call, rmnetNewVndPrefix, checked, copyName_of_le (Nat.le_of_eq exact)]
      exact ⟨_, rfl⟩
  | _ => exact absurd trivial limit

end Request

/-! ## The reply -/

section Reply

variable {header : RmnetData} {response : Response}

/-- The data of a reply comes back whole, or the cut is reported. -/
theorem Api.report_keepsStrings (fits : api.NextDevFits header (some response)) :
    (((api.call header).report response).returnCode = .success →
      ((api.call header).report response).data.strings =
        (api.replyStrings header response).map Prod.fst) ∧
    (response.crd = .returnData →
      (∃ entry ∈ api.replyStrings header response, Cut entry.1 entry.2) →
        (api.call header).report response = libErr .stringTruncation) := by
  cases api with
  | getLogicalEpConfig pointers epId devName nextDevLen =>
    simp only [call, rmnetGetLogicalEpConfig, replyStrings, List.mem_singleton, exists_eq_left]
    by_cases kind : response.crd = .returnData
    · by_cases cut : Cut response.nextDev (min header.rmnetMaxStrLen nextDevLen.toNat)
      · have long := fits response rfl kind cut
        simp [kind, strlcpy, checkLen, Nat.not_le_of_lt long, libErr]
      · have whole := strlcpy_of_not_cut cut
        have passes : checkLen header response.nextDev.length = true := by
          unfold Cut at cut
          simp only [checkLen, decide_eq_true_eq]
          omega
        simp only [strlcpy] at whole
        simp [kind, strlcpy, passes, whole, reported, ApiData.strings, cut]
    · simp [kind, libErr]
  | getVndName pointers id buflen =>
    simp only [call, rmnetGetVndName, replyStrings, List.mem_singleton, exists_eq_left]
    by_cases kind : response.crd = .returnData
    · by_cases cut : Cut response.vndName buflen.toNat
      · have long : response.vndName.length ≥ buflen.toNat := cut
        simp [kind, strlcpy, long, libErr]
      · have whole := strlcpy_of_not_cut cut
        have short : ¬ response.vndName.length ≥ buflen.toNat := cut
        simp only [strlcpy] at whole
        simp [kind, strlcpy, short, whole, reported, ApiData.strings, cut]
    · simp [kind, libErr]
  | getNetworkDeviceAssociated | getLinkEgressDataFormat
  | getLinkIngressDataFormatTailspace =>
    refine ⟨?_, by simp [replyStrings]⟩
    simp only [call, rmnetGetNetworkDeviceAssociated, rmnetGetLinkEgressDataFormat,
      rmnetGetLinkIngressDataFormatTailspace, reportData]
    split
    · simp [libErr]
    · simp [reported, ApiData.strings, replyStrings]
  | _ =>
    refine ⟨?_, by simp [replyStrings]⟩
    intro success
    change (reportCode header response).data.strings = []
    unfold reportCode
    split
    · rfl
    · split
      · rfl
      · rfl

/-- Without a response there is no next device. -/
theorem Api.nextDevFits_none : api.NextDevFits header none := by
  cases api with
  | getLogicalEpConfig =>
    intro response isSome
    cases isSome
  | _ => trivial

/-- Between the two bounds a next device comes back cut, with success. -/
theorem Api.report_of_not_nextDevFits (cut : ¬ api.NextDevFits header (some response)) :
    response.crd = .returnData ∧
      (∃ entry ∈ api.replyStrings header response, Cut entry.1 entry.2) ∧
      ((api.call header).report response).returnCode = .success := by
  cases api with
  | getLogicalEpConfig pointers epId devName nextDevLen =>
    simp only [NextDevFits, Option.some.injEq, forall_eq', Classical.not_imp,
      Nat.not_lt] at cut
    obtain ⟨kind, lost, passes⟩ := cut
    refine ⟨kind, ⟨_, List.mem_singleton.mpr rfl, lost⟩, ?_⟩
    simp [call, rmnetGetLogicalEpConfig, kind, strlcpy, checkLen, passes, reported]
  | _ => exact absurd trivial cut

end Reply

/-! ## Whole calls -/

theorem reportCode_ne_reported (header : RmnetData) (response : Response) :
    reportCode header response ≠ invalidArg ∧
      reportCode header response ≠ libErr .stringTruncation := by
  unfold reportCode
  split
  · exact ⟨nofun, by decide⟩
  · split
    · exact ⟨nofun, nofun⟩
    · exact ⟨nofun, nofun⟩

/-- A transaction does not fail for a string. -/
theorem Socket.rmnetctlTransact_error {env : TransactEnv} {answer : Request → Response}
    {socket : Socket} {error : ApiError}
    (failed : (socket.rmnetctlTransact env answer request).2 = .error error) :
    libErr error ≠ invalidArg ∧ libErr error ≠ libErr .stringTruncation := by
  have kind : error ≠ .stringTruncation := by
    rintro rfl
    simp only [rmnetctlTransact] at failed
    repeat (split at failed <;> try cases failed)
  constructor
  · intro same
    cases same
  · intro same
    cases error with
    | stringTruncation => exact kind rfl
    | _ => cases same

/--
A call carries whole strings or reports the cut exactly when no check of it is
at its boundary: the prefix does not have the length of the constant, and the
kernel's next device fits the caller's buffer or not even the constant.
-/
theorem callApi_keepsStrings_iff (header : RmnetData) (api : Api) (env : TransactEnv)
    (answer : Request → Response) (socket : Socket) :
    api.KeepsStrings header (socket.received header env answer api)
        (socket.callApi env answer (api.call header)).2.result ↔
      api.PrefixOffLimit header ∧
        api.NextDevFits header (socket.received header env answer api) := by
  by_cases off : api.PrefixOffLimit header
  · simp only [off, true_and]
    cases sent : (api.call header).request with
    | error result =>
      have reported := api.reportsCut header result sent
      simp only [Socket.received, Socket.callApi, sent]
      refine iff_of_true ⟨?_, fun _ => reported⟩ ?_
      · intro success
        rcases reported with rfl | rfl
        · cases success
        · cases success
      · exact api.nextDevFits_none
    | ok request =>
      have whole := api.request_sendsWhole off sent
      cases transacted : socket.rmnetctlTransact env answer request with
      | mk after outcome =>
        cases outcome with
        | error error =>
          simp only [Socket.received, Socket.callApi, sent, transacted]
          refine iff_of_true ⟨?_, ?_⟩ ?_
          · intro success
            cases success
          · rintro (⟨name, member, cut⟩ | ⟨response, isSome, -⟩)
            · exact absurd cut (whole.2 name member)
            · cases isSome
          · exact api.nextDevFits_none
        | ok reply =>
          simp only [Socket.received, Socket.callApi, sent, transacted]
          constructor
          · rintro ⟨-, reports⟩
            by_contra unfit
            obtain ⟨kind, cut, success⟩ := Api.report_of_not_nextDevFits unfit
            rcases reports (.inr ⟨_, rfl, kind, cut⟩) with result | result
            · rw [result] at success
              cases success
            · rw [result] at success
              cases success
          · intro fits
            obtain ⟨given, reports⟩ := Api.report_keepsStrings fits
            refine ⟨fun success => ⟨request, _, sent, rfl, whole.1, given success⟩, ?_⟩
            rintro (⟨name, member, cut⟩ | ⟨response, isSome, kind, cut⟩)
            · exact absurd cut (whole.2 name member)
            · obtain rfl := Option.some.inj isSome
              exact .inr (reports kind cut)
  · simp only [off, false_and, iff_false]
    obtain ⟨⟨request, sent⟩, cut, report⟩ := api.request_of_not_prefixOffLimit off
    rintro ⟨-, reports⟩
    have result := reports (.inl cut)
    cases transacted : socket.rmnetctlTransact env answer request with
    | mk after outcome =>
      cases outcome with
      | error error =>
        have other := Socket.rmnetctlTransact_error (congrArg Prod.snd transacted)
        simp only [Socket.callApi, sent, transacted] at result
        exact result.elim other.1 other.2
      | ok reply =>
        have other := reportCode_ne_reported header reply.response
        simp only [Socket.callApi, sent, transacted, report] at result
        exact result.elim other.1 other.2

/-- The kernel answers with the next device `rmnet_data0`. -/
def answerNextDev (request : Request) : Response where
  messageType := request.messageType
  crd := .returnData
  returnCode := 0
  flags := 0
  aggSize := 0
  aggCount := 0
  tailSpacing := 0
  operatingMode := 1
  nextDev := [114, 109, 110, 101, 116, 95, 100, 97, 116, 97, 48]
  vndName := []

/-- In a buffer of four bytes the next device comes back as `rmn`, with success. -/
theorem callApi_cut :
    let api := Api.getLogicalEpConfig true 0 (some [97]) 4
    let env : TransactEnv :=
      { requestBuf := true
        responseBuf := true
        sendto := true
        recvfrom := true }
    ¬ api.KeepsStrings shortNames ((Socket.opened 7).received shortNames env answerNextDev api)
      ((Socket.opened 7).callApi env answerNextDev (api.call shortNames)).2.result := by
  rintro api env ⟨carries, -⟩
  obtain ⟨request, response, -, isSome, -, given⟩ := carries rfl
  cases isSome
  exact absurd given (by decide)

end AnglerHal.Rmnetctl
