import BeaconCheck.Proofs.Definition.Reading

/-!
# What tests are read as

Reading a test follows the grammar, with two differences. A pause can have not-a-number as its
length, which no check refuses. And reading can crash: at a timeout that has no integer part, and
at an integer that is too long for the name of the test, or for the refusal of a name, to be
written.

* `Assertion.reads_ofValue`      — assertions.
* `Step.reads_ofValue`           — steps.
* `TestDefinition.reads_ofValue` — tests.
-/

namespace BeaconCheck

open FieldReading

/-! ## Assertions -/

namespace Value

variable {options : Value}

/-- The object that the options of a request assertion are read from. -/
theorem describesMatching_iff {data : Object} {any : Bool}
    (h : (if options.isTruthy then options.entries? else some []) = some data) :
    HasFlag data "matchAnyRequest" false any ↔ options.DescribesMatching any := by
  split at h
  · next hTruthy =>
    refine ⟨.given h, fun hAny => ?_⟩
    cases hAny with
    | left hFalsy => rw [hTruthy] at hFalsy; cases hFalsy
    | given hData hAny =>
      rw [h] at hData
      obtain rfl := Option.some.inj hData
      exact hAny
  · next hFalsy =>
    obtain rfl := Option.some.inj h
    rw [Bool.not_eq_true] at hFalsy
    constructor
    · intro hAny
      cases hAny with
      | missing => exact .left hFalsy
      | given h => cases h
    · intro hAny
      cases hAny with
      | left => exact .missing rfl
      | given hData hAny =>
        -- of the values that count as false only the empty object has entries
        cases options with
        | object entries =>
          obtain rfl : entries = [] := by simpa [isTruthy] using hFalsy
          obtain rfl := Option.some.inj hData
          exact hAny
        | enclosing kind => cases hFalsy
        | scalar | list | pair | set => cases hData

/-- Options that are no object do not say how to match. -/
theorem not_describesMatching {any : Bool}
    (h : ∀ data, (if options.isTruthy then options.entries? else some []) ≠ some data) :
    ¬ options.DescribesMatching any := by
  intro hAny
  -- options that are not truthy are read as none at all
  cases hTruthy : options.isTruthy with
  | false =>
    rw [hTruthy] at h
    exact h [] rfl
  | true =>
    rw [hTruthy] at h
    cases hAny with
    | left hFalsy => rw [hTruthy] at hFalsy; cases hFalsy
    | given hData => exact h _ hData

end Value

namespace Check

variable (data : Object) (place : Place)

/-- The check of a request assertion. -/
theorem reads_requestOfFields (hType : Value.field data "type" = .text "requestMatchRegex") :
    Reads (requestOfFields data place) (Value.DescribesCheck data) Never := by
  have hOther {t : Text} (h : Value.field data "type" = .text t) : t = "requestMatchRegex" :=
    Value.text_inj h hType
  unfold requestOfFields
  split
  · next wanted hWanted =>
    simp only []
    split
    · next options hOptions =>
      split
      · next pattern hPattern =>
        -- nothing is missing, so the fields are read one after the other
        refine ((reads_text data "for" place).bind_never fun tracker _ =>
          (reads_text wanted "key" _).bind_never fun key _ =>
            (reads_flag options "matchAnyRequest" _ false).bind_never fun any _ =>
              .pure (request tracker key pattern any)).congr (fun c => ?_) fun _ => Iff.rfl
        constructor
        · rintro ⟨tracker, hTracker, key, hKey, any, hAny, rfl⟩
          exact .request hType hTracker hWanted hKey hPattern
            ((Value.describesMatching_iff hOptions).mp hAny)
        · intro h
          cases h with
          | event h => exact absurd (hOther h) (by decide)
          | request _ hTracker hWanted' hKey hPattern' hAny =>
            rw [hWanted] at hWanted'
            obtain rfl := Option.some.inj hWanted'
            obtain rfl := Value.text_inj hPattern hPattern'
            exact ⟨_, hTracker, _, hKey, _, (Value.describesMatching_iff hOptions).mpr hAny, rfl⟩
      · next hPattern =>
        refine .of_refused (fun c h => ?_) fun _ => id
        cases h with
        | event h => exact absurd (hOther h) (by decide)
        | request _ _ hWanted' _ hPattern' =>
          rw [hWanted] at hWanted'
          obtain rfl := Option.some.inj hWanted'
          exact hPattern _ hPattern'
    · next hOptions =>
      refine .of_refused (fun c h => ?_) fun _ => id
      cases h with
      | event h => exact absurd (hOther h) (by decide)
      | request _ _ _ _ _ hAny => exact Value.not_describesMatching hOptions hAny
  · next hWanted =>
    refine .of_refused (fun c h => ?_) fun _ => id
    cases h with
    | event h => exact absurd (hOther h) (by decide)
    | request _ _ hWanted' => exact hWanted _ hWanted'

/-- The check of an event layer assertion. -/
theorem reads_eventOfFields (hType : Value.field data "type" = .text "matchDataLayerKeyValue") :
    Reads (eventOfFields data place) (Value.DescribesCheck data) Never := by
  -- the two kinds of check are told apart by the text of their type
  have hOther {t : Text} (h : Value.field data "type" = .text t) :
      t = "matchDataLayerKeyValue" := Value.text_inj h hType
  unfold eventOfFields
  split
  · next expected hExpected =>
    refine ((reads_text data "key" place).bind_never fun key _ =>
      .pure (event key expected)).congr (fun c => ?_) fun _ => Iff.rfl
    constructor
    · rintro ⟨key, hKey, rfl⟩
      exact .event hType hKey hExpected
    · intro h
      cases h with
      | request h => exact absurd (hOther h) (by decide)
      | event _ hKey hExpected' =>
        rw [hExpected] at hExpected'
        obtain rfl := Option.some.inj hExpected'
        exact ⟨_, hKey, rfl⟩
  · next hExpected =>
    refine .of_refused (fun c h => ?_) fun _ => id
    cases h with
    | request h => exact absurd (hOther h) (by decide)
    | event _ _ hExpected' => exact hExpected _ hExpected'

end Check

/-- What is read as a check is described as one; only the name of a type that is too long crashes.
-/
theorem Check.reads_ofFields (data : Object) (place : Place) :
    Reads (ofFields data place) (Value.DescribesCheck data)
      (fun c => c = .tooLongToWrite ∧ (Value.field data "type").IsLongName Value.typeNames) := by
  unfold ofFields
  -- one of the two types, or a name that has to be shown in the refusal
  split
  · next hType =>
    refine (reads_requestOfFields data place hType).congr (fun _ => Iff.rfl) fun c => ?_
    exact iff_of_false id fun h => Value.not_isLongName hType (by decide) h.2
  · next hType =>
    refine (reads_eventOfFields data place hType).congr (fun _ => Iff.rfl) fun c => ?_
    exact iff_of_false id fun h => Value.not_isLongName hType (by decide) h.2
  · next hRequest hEvent =>
    refine reads_unknown (List.forall_mem_cons.mpr ⟨hRequest, ?_⟩) fun c h => ?_
    · exact List.forall_mem_singleton.mpr hEvent
    · cases h with
      | request hType => exact hRequest hType
      | event hType => exact hEvent hType

/-- What is read as an assertion is described as one. -/
theorem Assertion.reads_ofValue (v : Value) (place : Place) :
    Reads (ofValue v place) v.DescribesAssertion v.CrashesAssertion := by
  unfold ofValue
  split
  · next data hData =>
    refine ((Check.reads_ofFields data place).bind fun check _ => .pure _).congr
      (fun a => ?_) fun c => ?_
    -- the id, the name and the description are taken as they are
    · constructor
      · rintro ⟨check, hCheck, rfl⟩
        exact ⟨data, hData, hCheck, rfl, rfl, rfl⟩
      · rintro ⟨data', hData', hCheck, hId, hName, hDescription⟩
        obtain rfl := Option.mem_unique hData' hData
        refine ⟨a.check, hCheck, ?_⟩
        rw [← hId, ← hName, ← hDescription]
    · -- what is read behind the check cannot crash
      simp only [and_false, exists_false, or_false]
      constructor
      · rintro ⟨rfl, hLong⟩
        exact .type hData hLong
      · intro h
        cases h with
        | type hData' hLong =>
          obtain rfl := Option.mem_unique hData' hData
          exact ⟨rfl, hLong⟩
  · next hData =>
    refine .of_refused (fun a => ?_) fun c h => ?_
    · rintro ⟨data, h, -⟩
      exact hData data h
    · cases h with
      | type h => exact hData _ h

/-! ## Steps -/

namespace Value

section Actions

variable {data : Object} {s : Step}

theorem describesAction_goto_iff (hAction : field data "action" = .text "goto") :
    DescribesAction data s ↔ ∃ url, HasText data "value" url ∧ s = .goto url := by
  constructor
  · intro h
    -- every other constructor asks for another action, here and below
    cases h with
    | goto _ hUrl => exact ⟨_, hUrl, rfl⟩
    | click h | pause h | awaitElement h | type h | awaitRequests h | check h =>
      exact absurd (text_inj h hAction) (by decide)
  · rintro ⟨url, hUrl, rfl⟩
    exact .goto hAction hUrl

theorem describesAction_click_iff (hAction : field data "action" = .text "click") :
    DescribesAction data s ↔
      ∃ selector, HasText data "element" selector ∧ s = .click selector := by
  constructor
  · intro h
    cases h with
    | click _ hElement => exact ⟨_, hElement, rfl⟩
    | goto h | pause h | awaitElement h | type h | awaitRequests h | check h =>
      exact absurd (text_inj h hAction) (by decide)
  · rintro ⟨selector, hElement, rfl⟩
    exact .click hAction hElement

/-- A step waits for an element or for a time, by the kind of its value. -/
theorem describesAction_wait_iff (hAction : field data "action" = .text "wait") :
    DescribesAction data s ↔
      (∃ selector, HasText data "value" selector ∧ s = .awaitElement selector) ∨
        ∃ n, field data "value" = .number n ∧ n.AtLeastZero ∧ s = .pause n := by
  constructor
  · intro h
    -- the same action waits for a time or for an element, by the kind of its value
    cases h with
    | pause _ hLength hAtLeast => exact .inr ⟨_, hLength, hAtLeast, rfl⟩
    | awaitElement _ hElement => exact .inl ⟨_, hElement, rfl⟩
    | goto h | click h | type h | awaitRequests h | check h =>
      exact absurd (text_inj h hAction) (by decide)
  · rintro (⟨selector, hElement, rfl⟩ | ⟨n, hLength, hAtLeast, rfl⟩)
    · exact .awaitElement hAction hElement
    · exact .pause hAction hLength hAtLeast

/-- A text that is typed may be empty, and is looked at before the element. -/
theorem describesAction_type_iff (hAction : field data "action" = .text "type") :
    DescribesAction data s ↔
      ∃ typed, field data "value" = .text typed ∧ ∃ selector, HasText data "element" selector ∧
        ∃ clear, HasFlag data "clear" false clear ∧ s = .type selector typed clear := by
  constructor
  · intro h
    cases h with
    | type _ hTyped hElement hClear => exact ⟨_, hTyped, _, hElement, _, hClear, rfl⟩
    | goto h | click h | pause h | awaitElement h | awaitRequests h | check h =>
      exact absurd (text_inj h hAction) (by decide)
  · rintro ⟨typed, hTyped, selector, hElement, clear, hClear, rfl⟩
    exact .type hAction hTyped hElement hClear

/-- Of a step that waits for requests the count comes first, then the tracker, then the time. -/
theorem describesAction_awaitRequests_iff
    (hAction : field data "action" = .text "waitForRequest") :
    DescribesAction data s ↔
      ∃ count, DescribesCount data count ∧ ∃ tracker, HasText data "for" tracker ∧
        ∃ timeout, HasDuration data "timeout" Default.requestTimeout timeout ∧
          s = .awaitRequests tracker count timeout := by
  constructor
  · intro h
    -- every other action has another name
    cases h with
    | awaitRequests _ hTracker hCount hTimeout => exact ⟨_, hCount, _, hTracker, _, hTimeout, rfl⟩
    | goto h | click h | pause h | awaitElement h | type h | check h =>
      exact absurd (text_inj h hAction) (by decide)
  · rintro ⟨count, hCount, tracker, hTracker, timeout, hTimeout, rfl⟩
    exact .awaitRequests hAction hTracker hCount hTimeout

theorem describesAction_check_iff (hAction : field data "action" = .text "test") :
    DescribesAction data s ↔
      ∃ a, (field data "test").DescribesAssertion a ∧ s = .check a := by
  constructor
  · intro h
    cases h with
    | check _ hAssertion => exact ⟨_, hAssertion, rfl⟩
    | goto h | click h | pause h | awaitElement h | type h | awaitRequests h =>
      exact absurd (text_inj h hAction) (by decide)
  · rintro ⟨a, hAssertion, rfl⟩
    exact .check hAction hAssertion

/-- Steps are described under known actions only. -/
theorem DescribesAction.known (h : DescribesAction data s) :
    ∃ name ∈ actionNames, field data "action" = .text name := by
  cases h with
  | goto h | click h | pause h | awaitElement h | type h | awaitRequests h | check h =>
    exact ⟨_, by decide, h⟩

end Actions

end Value

namespace Step

variable (data : Object) (place : Place)

/-- What a wait is read as: a pause can have not-a-number as its length. -/
theorem reads_waitOfFields (hAction : Value.field data "action" = .text "wait") :
    Reads (waitOfFields data place)
      (fun s => Value.DescribesAction data s ∨
        Value.field data "value" = .float .nan ∧ s = .pause (.float .nan)) Never := by
  simp only [Value.describesAction_wait_iff hAction]
  unfold waitOfFields HasText
  split
  · next t hValue =>
    -- a text is a selector, unless it is empty
    rw [hValue]
    split
    · next hEmpty =>
      refine .of_refused (fun s => ?_) fun _ => id
      rintro ((⟨selector, ⟨h, hSome⟩, -⟩ | ⟨n, h, -⟩) | ⟨h, -⟩)
      · cases h
        exact hSome hEmpty
      · cases h
      · cases h
    · next hSome =>
      refine .of_ok (.inl (.inl ⟨t, ⟨rfl, hSome⟩, rfl⟩)) (fun s => ?_) fun _ => id
      rintro ((⟨selector, ⟨h, -⟩, rfl⟩ | ⟨n, h, -⟩) | ⟨h, -⟩)
      · cases h
        rfl
      · cases h
      · cases h
  · next n hValue =>
    rw [hValue]
    -- whatever is read of it, it is a pause of this length
    have hPasses := Number.isBelowZero_eq_false_iff n
    split
    · next hBelow =>
      refine .of_refused (fun s => ?_) fun _ => id
      rintro ((⟨selector, ⟨h, -⟩, -⟩ | ⟨m, h, hAtLeast, -⟩) | ⟨h, -⟩)
      · cases h
      · cases h
        rw [hPasses.mpr (.inl hAtLeast)] at hBelow
        cases hBelow
      · cases h
        cases hBelow
    · next hPassed =>
      refine .of_ok ?_ (fun s => ?_) fun _ => id
      · rcases hPasses.mp (Bool.eq_false_iff.mpr hPassed) with hAtLeast | rfl
        · exact .inl (.inr ⟨n, rfl, hAtLeast, rfl⟩)
        · exact .inr ⟨rfl, rfl⟩
      · rintro ((⟨selector, ⟨h, -⟩, -⟩ | ⟨m, h, -, rfl⟩) | ⟨h, rfl⟩)
        · cases h
        · cases h
          rfl
        · cases h
          rfl
  · next hText hNumber =>
    -- all that can be waited for is a text or a number
    refine .of_refused (fun s => ?_) fun _ => id
    rintro ((⟨selector, ⟨h, -⟩, -⟩ | ⟨n, h, -⟩) | ⟨h, -⟩)
    · exact hText _ h
    · exact hNumber _ h
    · exact hNumber _ h

/-- What is read as typing is described as that. -/
theorem reads_typeOfFields (hAction : Value.field data "action" = .text "type") :
    Reads (typeOfFields data place) (Value.DescribesAction data) Never := by
  unfold typeOfFields
  -- the text to type is looked at before the other two fields are read
  split
  · next typed hTyped =>
    refine ((reads_text data "element" place).bind_never fun selector _ =>
      (reads_flag data "clear" place false).bind_never fun clear _ =>
        .pure (type selector typed clear)).congr (fun s => ?_) fun _ => Iff.rfl
    rw [Value.describesAction_type_iff hAction]
    constructor
    · exact fun h => ⟨typed, hTyped, h⟩
    · rintro ⟨typed', hTyped', h⟩
      obtain rfl := Value.text_inj hTyped hTyped'
      exact h
  · next hTyped =>
    refine .of_refused (fun s h => ?_) fun _ => id
    obtain ⟨typed, h, -⟩ := (Value.describesAction_type_iff hAction).mp h
    exact hTyped _ h

/-- What is read as a count is described as one. -/
theorem reads_countOfFields : Reads (countOfFields data place) (Value.DescribesCount data) Never := by
  unfold countOfFields
  split
  · next hCount =>
    -- without a count it is one request
    refine .of_ok (.missing hCount) (fun n h => ?_) fun _ => id
    cases h with
    | missing => rfl
    | given h => rw [hCount] at h; cases h
  · next i hCount =>
    split
    · next hNone =>
      refine .of_refused (fun n h => ?_) fun _ => id
      cases h with
      | missing h => rw [hCount] at h; cases h
      | given h hSome =>
        rw [hCount] at h
        cases h
        omega
    · next hSome =>
      obtain ⟨n, rfl⟩ := Int.eq_ofNat_of_zero_le (show 0 ≤ i by omega)
      refine .of_ok (.given hCount (by omega)) (fun m h => ?_) fun _ => id
      cases h with
      | missing h => rw [hCount] at h; cases h
      | given h =>
        rw [hCount] at h
        cases h
        rfl
  · next v hInteger hCount =>
    refine .of_refused (fun n h => ?_) fun _ => id
    cases h with
    | missing h => rw [hCount] at h; cases h
    | given h =>
      rw [hCount] at h
      cases h
      exact hInteger _ rfl

/-- What is read as waiting for requests is described as that; the time may crash behind the rest.
-/
theorem reads_awaitRequestsOfFields
    (hAction : Value.field data "action" = .text "waitForRequest") :
    Reads (awaitRequestsOfFields data place) (Value.DescribesAction data)
      (fun c => ∃ count, Value.DescribesCount data count ∧ ∃ tracker, HasText data "for" tracker ∧
        HasUnmeasurable data "timeout" c) := by
  refine ((reads_countOfFields data place).bind fun count _ =>
    (reads_text data "for" place).bind fun tracker _ =>
      (reads_duration data "timeout" place Default.requestTimeout).bind fun timeout _ =>
        .pure (awaitRequests tracker count timeout)).congr (fun s => ?_) fun c => ?_
  · rw [Value.describesAction_awaitRequests_iff hAction]
  · simp only [and_false, exists_false, or_false, false_or]

end Step

namespace Value

variable {v : Value} {data : Object} {s : Step} {c : Crash}

/-- What an object is read as, by its fields. -/
theorem becomesStep_iff (hData : v.entries? = some data) :
    v.BecomesStep s ↔
      DescribesAction data s ∨ field data "action" = .text "wait" ∧
        field data "value" = .float .nan ∧ s = .pause (.float .nan) := by
  simp only [BecomesStep, DescribesStep, IsEndlessPause, hData, Option.some.injEq, exists_eq_left']

/-- Only a wait can be a pause without end. -/
theorem becomesStep_iff_of_ne {name : Text} (hData : v.entries? = some data)
    (hAction : field data "action" = .text name) (hName : name ≠ "wait") :
    v.BecomesStep s ↔ DescribesAction data s := by
  rw [becomesStep_iff hData]
  refine or_iff_left fun hPause => hName ?_
  exact text_inj hAction hPause.1

/-- When reading an object crashes, by its fields. -/
theorem crashesStep_iff (hData : v.entries? = some data) :
    v.CrashesStep c ↔
      c = .tooLongToWrite ∧ (field data "action").IsLongName actionNames ∨
        field data "action" = .text "test" ∧ (field data "test").CrashesAssertion c ∨
        field data "action" = .text "waitForRequest" ∧
          ∃ count, DescribesCount data count ∧ ∃ tracker, HasText data "for" tracker ∧
            HasUnmeasurable data "timeout" c := by
  constructor
  · intro h
    -- three places where a number is shown or measured: the action, the assertion, the timeout
    cases h with
    | action hData' hLong =>
      obtain rfl := Option.mem_unique hData' hData
      exact .inl ⟨rfl, hLong⟩
    | assertion hData' hAction hAssertion =>
      obtain rfl := Option.mem_unique hData' hData
      exact .inr (.inl ⟨hAction, hAssertion⟩)
    | timeout hData' hAction hTracker hCount hTimeout =>
      obtain rfl := Option.mem_unique hData' hData
      exact .inr (.inr ⟨hAction, _, hCount, _, hTracker, hTimeout⟩)
  · rintro (⟨rfl, hLong⟩ | ⟨hAction, hAssertion⟩ |
      ⟨hAction, count, hCount, tracker, hTracker, hTimeout⟩)
    · exact .action hData hLong
    · exact .assertion hData hAction hAssertion
    · exact .timeout hData hAction hTracker hCount hTimeout

/-- Only an assertion and the wait for requests can crash under a known action. -/
theorem not_crashesStep {name : Text} (hData : v.entries? = some data)
    (hAction : field data "action" = .text name) (hMem : name ∈ actionNames)
    (hTest : name ≠ "test") (hAwait : name ≠ "waitForRequest") : ¬ v.CrashesStep c := by
  rw [crashesStep_iff hData]
  rintro (⟨-, hLong⟩ | ⟨h, -⟩ | ⟨h, -⟩)
  · exact not_isLongName hAction hMem hLong
  · exact hTest (text_inj hAction h)
  · exact hAwait (text_inj hAction h)

/-- Under the action of an assertion only the crash of the assertion is left. -/
theorem crashesStep_iff_assertion (hData : v.entries? = some data)
    (hAction : field data "action" = .text "test") :
    v.CrashesStep c ↔ (field data "test").CrashesAssertion c := by
  rw [crashesStep_iff hData]
  constructor
  · rintro (⟨-, hLong⟩ | ⟨-, h⟩ | ⟨h, -⟩)
    · exact absurd hLong (not_isLongName hAction (by decide))
    · exact h
    · exact absurd (text_inj hAction h) (by decide)
  · exact fun h => .inr (.inl ⟨hAction, h⟩)

/-- Under the action of a wait for requests only the crash of the timeout is left. -/
theorem crashesStep_iff_timeout (hData : v.entries? = some data)
    (hAction : field data "action" = .text "waitForRequest") :
    v.CrashesStep c ↔ ∃ count, DescribesCount data count ∧ ∃ tracker, HasText data "for" tracker ∧
      HasUnmeasurable data "timeout" c := by
  rw [crashesStep_iff hData]
  constructor
  · rintro (⟨-, hLong⟩ | ⟨h, -⟩ | ⟨-, h⟩)
    · exact absurd hLong (not_isLongName hAction (by decide))
    · exact absurd (text_inj hAction h) (by decide)
    · exact h
  · exact fun h => .inr (.inr ⟨hAction, h⟩)

/-- Under an action that is unknown only the crash of the action is left. -/
theorem crashesStep_iff_action (hData : v.entries? = some data)
    (hUnknown : ∀ name ∈ actionNames, field data "action" ≠ .text name) :
    v.CrashesStep c ↔ c = .tooLongToWrite ∧ (field data "action").IsLongName actionNames := by
  rw [crashesStep_iff hData]
  refine or_iff_left ?_
  rintro (⟨h, -⟩ | ⟨h, -⟩)
  · exact hUnknown _ (by decide) h
  · exact hUnknown _ (by decide) h

/-- Nothing becomes a step under an action that is unknown. -/
theorem not_becomesStep (hData : v.entries? = some data)
    (hUnknown : ∀ name ∈ actionNames, field data "action" ≠ .text name) : ¬ v.BecomesStep s := by
  rw [becomesStep_iff hData]
  rintro (h | ⟨h, -⟩)
  · obtain ⟨name, hMem, h⟩ := h.known
    exact hUnknown name hMem h
  · exact hUnknown _ (by decide) h

end Value

namespace Step

/-- **What a step is read as.** -/
theorem reads_ofValue (v : Value) (index : Int) :
    Reads (ofValue v index) v.BecomesStep v.CrashesStep := by
  unfold ofValue
  simp only []
  split
  · next data hData =>
    -- one case for each action, in the order in which they are looked for
    split
    · next hAction =>
      refine ((reads_text data "value" _).bind_never fun url _ => .pure (goto url)).congr
        (fun s => ?_) fun c => ?_
      · rw [Value.becomesStep_iff_of_ne hData hAction (by decide),
          Value.describesAction_goto_iff hAction]
      · exact iff_of_false id
          (Value.not_crashesStep hData hAction (by decide) (by decide) (by decide))
    · next hAction =>
      refine ((reads_text data "element" _).bind_never fun selector _ =>
        .pure (click selector)).congr (fun s => ?_) fun c => ?_
      · rw [Value.becomesStep_iff_of_ne hData hAction (by decide),
          Value.describesAction_click_iff hAction]
      · exact iff_of_false id
          (Value.not_crashesStep hData hAction (by decide) (by decide) (by decide))
    · next hAction =>
      refine (reads_waitOfFields data _ hAction).congr (fun s => ?_) fun c => ?_
      · rw [Value.becomesStep_iff hData, and_iff_right hAction]
      · exact iff_of_false id
          (Value.not_crashesStep hData hAction (by decide) (by decide) (by decide))
    · next hAction =>
      refine (reads_typeOfFields data _ hAction).congr (fun s => ?_) fun c => ?_
      · rw [Value.becomesStep_iff_of_ne hData hAction (by decide)]
      · exact iff_of_false id
          (Value.not_crashesStep hData hAction (by decide) (by decide) (by decide))
    · next hAction =>
      refine ((Assertion.reads_ofValue (Value.field data "test") _).bind fun a _ =>
        .pure (check a)).congr (fun s => ?_) fun c => ?_
      · rw [Value.becomesStep_iff_of_ne hData hAction (by decide),
          Value.describesAction_check_iff hAction]
      · rw [Value.crashesStep_iff_assertion hData hAction]
        simp only [and_false, exists_false, or_false]
    · next hAction =>
      refine (reads_awaitRequestsOfFields data _ hAction).congr (fun s => ?_) fun c => ?_
      · rw [Value.becomesStep_iff_of_ne hData hAction (by decide)]
      · rw [Value.crashesStep_iff_timeout hData hAction]
    · next hGoto hClick hWait hType hTest hAwait =>
      -- the action is none of the known ones
      have hUnknown : ∀ name ∈ Value.actionNames, Value.field data "action" ≠ .text name := by
        simp only [Value.actionNames, List.forall_mem_cons]
        exact ⟨hGoto, hClick, hWait, hType, hTest, hAwait, List.forall_mem_nil _⟩
      refine (reads_unknown hUnknown fun s => Value.not_becomesStep hData hUnknown).congr
        (fun _ => Iff.rfl) fun c => ?_
      rw [Value.crashesStep_iff_action hData hUnknown]
  · next hData =>
    refine .of_refused (fun s => ?_) fun c h => ?_
    · rintro (⟨data, h, -⟩ | ⟨data, h, -⟩)
      · exact hData data h
      · exact hData data h
    · cases h with
      | action h | assertion h | timeout h => exact hData _ h

/-- **What steps are read as**: each is read as if it were alone, and what is behind a step that
crashes does not matter. -/
theorem reads_listOfValues (values : List Value) (index : Nat) :
    Reads (listOfValues index values) (List.Forall₂ Value.BecomesStep values)
      (fun c => ∃ before raw behind, values = before ++ raw :: behind ∧
        (∀ r ∈ before, ∃ s, r.BecomesStep s) ∧ raw.CrashesStep c) := by
  -- the index only shows in messages, and grows from step to step
  induction values generalizing index with
  | nil =>
    refine .of_ok .nil (fun steps h => ?_) fun c => ?_
    · cases h
      rfl
    · rintro ⟨before, raw, behind, h, -⟩
      cases before <;> cases h
  | cons v rest ih =>
    refine ((reads_ofValue v index).bind fun step _ => (ih (index + 1)).bind fun steps _ =>
      .pure (step :: steps)).congr (fun steps => ?_) fun c => ?_
    · rw [List.forall₂_cons_left_iff]
      constructor
      · rintro ⟨step, hStep, others, hOthers, rfl⟩
        exact ⟨step, others, hStep, hOthers, rfl⟩
      · rintro ⟨step, others, hStep, hOthers, rfl⟩
        exact ⟨step, hStep, others, hOthers, rfl⟩
    · rw [exists_first_cons]
      simp only [and_false, exists_false, or_false, exists_and_right]

end Step

/-! ## Tests -/

namespace Value

/-- A value that counts as false can be shown, and so can what stands in for it. -/
theorem holdsLong_orEmpty (v : Value) : (orEmpty v).HoldsLong ↔ v.HoldsLong := by
  unfold orEmpty
  split
  · exact Iff.rfl
  · next hFalsy =>
    refine iff_of_false ?_ (not_holdsLong_of_falsy (Bool.eq_false_iff.mpr hFalsy))
    exact not_holdsLong_of_falsy rfl

variable {v : Value} {data : Object} {steps : List Value} {c : Crash}

/-- What an object is read as, by its name and its steps. -/
theorem becomesTest_iff_of_steps (hData : v.entries? = some data)
    (hSteps : (field data "steps").items? = some steps) {t : TestDefinition} :
    v.BecomesTest t ↔
      (orEmpty (field data "name")).display = .ok t.name ∧
        List.Forall₂ BecomesStep steps t.steps := by
  constructor
  · rintro ⟨data', steps', hData', hSteps', h⟩
    obtain rfl := Option.mem_unique hData' hData
    obtain rfl := Option.mem_unique hSteps' hSteps
    exact h
  · exact fun h => ⟨data, steps, hData, hSteps, h⟩

/-- When reading an object crashes: its name cannot be shown, or it can and a step crashes behind
steps that are read. -/
theorem crashesTest_iff_of_steps (hData : v.entries? = some data)
    (hSteps : (field data "steps").items? = some steps) :
    v.CrashesTest c ↔
      c = .tooLongToWrite ∧ (field data "name").HoldsLong ∨
        ¬ (field data "name").HoldsLong ∧ ∃ before raw behind, steps = before ++ raw :: behind ∧
          (∀ r ∈ before, ∃ s, r.BecomesStep s) ∧ raw.CrashesStep c := by
  constructor
  · intro h
    -- the name is read before the steps, and the steps up to the first that crashes
    cases h with
    | name hData' _ hLong =>
      obtain rfl := Option.mem_unique hData' hData
      exact .inl ⟨rfl, hLong⟩
    | step hData' hSteps' hName hBefore hStep =>
      obtain rfl := Option.mem_unique hData' hData
      obtain rfl := Option.mem_unique hSteps' hSteps
      exact .inr ⟨hName, _, _, _, rfl, hBefore, hStep⟩
  · rintro (⟨rfl, hLong⟩ | ⟨hName, before, raw, behind, rfl, hBefore, hStep⟩)
    · exact .name hData hSteps hLong
    · exact .step hData hSteps hName hBefore hStep

end Value

/-- **What a test is read as.** -/
theorem TestDefinition.reads_ofValue (v : Value) :
    Reads (ofValue v) v.BecomesTest v.CrashesTest := by
  unfold ofValue
  split
  · next data hData =>
    split
    · next steps hSteps =>
      -- the name is shown before any step is read, so its crash is the first
      have hShows := (orEmpty (Value.field data "name")).failsIff_display.congr
        (Value.holdsLong_orEmpty _)
      refine ((reads_safely _).bind fun name _ => (Step.reads_listOfValues steps 0).bind
        fun read _ => .pure (⟨name, read⟩ : TestDefinition)).congr (fun t => ?_) fun c => ?_
      · rw [Value.becomesTest_iff_of_steps hData hSteps]
        constructor
        · rintro ⟨name, hName, read, hRead, rfl⟩
          exact ⟨hName, hRead⟩
        · exact fun ⟨hName, hRead⟩ => ⟨t.name, hName, t.steps, hRead, rfl⟩
      · rw [Value.crashesTest_iff_of_steps hData hSteps, hShows c, ← hShows.exists_ok_iff]
        simp only [and_false, exists_false, or_false, exists_and_right]
    · next hSteps =>
      refine .of_refused (fun t => ?_) fun c h => ?_
      · rintro ⟨data', steps, hData', h, -⟩
        obtain rfl := Option.mem_unique hData' hData
        exact hSteps _ h
      · cases h with
        | name hData' h | step hData' h =>
          obtain rfl := Option.mem_unique hData' hData
          exact hSteps _ h
  · next hData =>
    refine .of_refused (fun t => ?_) fun c h => ?_
    · rintro ⟨data, -, h, -⟩
      exact hData data h
    · cases h with
      | name h | step h => exact hData _ h

end BeaconCheck
