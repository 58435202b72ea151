import Mathlib
import BeaconCheck.Proofs.Computation
import BeaconCheck.Proofs.Definition.Fields
import BeaconCheck.Proofs.Definition.Reading

/-!
# Null in place of a missing field

Whoever writes a definition may leave an optional field out, or may write null for it. Most fields
are read the same either way: a field is looked up with null as what a missing one gives. Two fields
are looked up otherwise, and for them null is refused: the count of requests to wait for, and the
name of the event layer.

* `Value.ThinsTest`, `Value.ThinsOptions` — some null entries of optional names are left out.
* `Value.EntriesThin.field?` — what is under a name before and behind.
* `Step.ofValue_thins`, `Step.listOfValues_thins` — one step, and all steps.
* `TestDefinition.ofValue_thins`, `RunOptions.ofValue_thins` — when what is read stays the same.
* `ofValue_without_nulls`    — both, for every choice of nulls.
-/

namespace BeaconCheck

open FieldReading

namespace Value

/-! ## Leaving null entries out -/

/-- Some null entries of optional names are left out of an object, and some of the named values that
stay have become others. No key has two entries. -/
inductive EntriesThin (optional : List Text) (part : Text → Value → Value → Prop) :
    Object → Object → Prop
  | nil : EntriesThin optional part [] []
  | drop {name : Text} {data data' : Object} (hName : name ∈ optional)
      (hOnce : field? data name = none) (h : EntriesThin optional part data data') :
      EntriesThin optional part ((.text name, .null) :: data) data'
  | keep {data data' : Object} (e : Scalar × Value) (h : EntriesThin optional part data data') :
      EntriesThin optional part (e :: data) (e :: data')
  | change {name : Text} {v v' : Value} {data data' : Object} (hPart : part name v v')
      (h : EntriesThin optional part data data') :
      EntriesThin optional part ((.text name, v) :: data) ((.text name, v') :: data')

/-- A value stays, or it is an object that is thinned. -/
inductive Thins (optional : List Text) (part : Text → Value → Value → Prop) :
    Value → Value → Prop
  | same (v : Value) : Thins optional part v v
  | object {data data' : Object} (h : EntriesThin optional part data data') :
      Thins optional part (.object data) (.object data')

/-- A value stays, or it is a list whose items are thinned. -/
inductive ThinsEach (item : Value → Value → Prop) : Value → Value → Prop
  | same (v : Value) : ThinsEach item v v
  | list {items items' : List Value} (h : List.Forall₂ item items items') :
      ThinsEach item (.list items) (.list items')

/-- The options of a request assertion. -/
def ThinsMatching : Value → Value → Prop :=
  Thins ["matchAnyRequest"] fun _ _ _ => False

/-- An assertion. -/
def ThinsAssertion : Value → Value → Prop :=
  Thins ["options", "name", "description"] fun name v v' => name = "options" ∧ v.ThinsMatching v'

/-- A step. -/
def ThinsStep : Value → Value → Prop :=
  Thins ["clear", "count", "timeout"] fun name v v' => name = "test" ∧ v.ThinsAssertion v'

/-- A test. -/
def ThinsTest : Value → Value → Prop :=
  Thins [] fun name v v' => name = "steps" ∧ ThinsEach ThinsStep v v'

/-- A tracker. -/
def ThinsTracker : Value → Value → Prop :=
  Thins ["abortRequest"] fun _ _ _ => False

/-- Options. -/
def ThinsOptions : Value → Value → Prop :=
  Thins ["headless", "trackRequests", "settleDelay", "typeDelay", "timeout", "dataLayerName"]
    fun name v v' => name = "trackRequests" ∧ ThinsEach ThinsTracker v v'

/-- The null under a name was left out. -/
def DropsNull (name : Text) (v v' : Value) : Prop :=
  ∃ data data', v.entries? = some data ∧ v'.entries? = some data' ∧
    field? data name = some .null ∧ field? data' name = none

/-- The null count of a wait for requests was left out. -/
def DropsCount (v v' : Value) : Prop :=
  v.DropsNull "count" v' ∧
    ∃ data, v.entries? = some data ∧ field data "action" = .text "waitForRequest"

/-- The step of a test with an index. -/
def stepAt? (v : Value) (index : Nat) : Option Value :=
  (v.entries?.bind fun data => (field data "steps").items?).bind (·[index]?)

/-- The null count of the step with an index was left out. -/
def DropsCountAt (index : Nat) (v v' : Value) : Prop :=
  ∃ step step', v.stepAt? index = some step ∧ v'.stepAt? index = some step' ∧
    step.DropsCount step'

/-! ## What is under a name -/

section Fields

variable {optional : List Text} {part : Text → Value → Value → Prop} {data data' : Object}

/-- What is under a name stays, or it is an optional null that is left out, or a value that has
become another. -/
theorem EntriesThin.field? (h : EntriesThin optional part data data') (name : Text) :
    field? data' name = field? data name ∨
      (name ∈ optional ∧ field? data name = some .null ∧ field? data' name = none) ∨
      ∃ v v', part name v v' ∧ field? data name = some v ∧ field? data' name = some v' := by
  unfold Value.field?
  induction h with
  | nil => exact .inl rfl
  | @drop other data data' hName hOnce h ih =>
    simp only [Entries.get?, text_beq_text_iff]
    split
    · next hSame =>
      -- nothing else is under the name, and nothing comes in when more is left out
      obtain rfl := hSame
      rw [show Entries.get? data (Scalar.text other) = none from hOnce] at ih
      refine .inr (.inl ⟨hName, rfl, ?_⟩)
      rcases ih with hNone | ⟨-, hSome, -⟩ | ⟨_, _, -, hSome, -⟩
      · exact hNone
      · cases hSome
      · cases hSome
    · exact ih
  | keep e h ih =>
    simp only [Entries.get?]
    split
    · exact .inl rfl
    · exact ih
  | @change other v v' data data' hPart h ih =>
    simp only [Entries.get?, text_beq_text_iff]
    split
    · next hSame =>
      obtain rfl := hSame
      exact .inr (.inr ⟨v, v', hPart, rfl, rfl⟩)
    · exact ih

/-- A field without parts of its own is null before if it is missing behind. -/
theorem EntriesThin.field (h : EntriesThin optional part data data') {name : Text}
    (hPart : ∀ v v', ¬ part name v v') : Value.field data' name = Value.field data name := by
  rw [Value.field, Value.field]
  rcases h.field? name with hSame | ⟨-, hNull, hNone⟩ | ⟨v, v', h, -⟩
  · rw [hSame]
  · rw [hNull, hNone]
    rfl
  · exact absurd h (hPart v v')

/-- A field that is not optional is still there. -/
theorem EntriesThin.field?_eq (h : EntriesThin optional part data data') {name : Text}
    (hName : name ∉ optional) (hPart : ∀ v v', ¬ part name v v') :
    Value.field? data' name = Value.field? data name := by
  rcases h.field? name with hSame | ⟨hOptional, -⟩ | ⟨v, v', h, -⟩
  · exact hSame
  · exact absurd hOptional hName
  · exact absurd h (hPart v v')

/-- A field with parts has become another value in this way. -/
theorem EntriesThin.field_part (h : EntriesThin optional part data data') {name : Text}
    {R : Value → Value → Prop} (hPart : ∀ v v', part name v v' → R v v') (hSame : ∀ v, R v v) :
    R (Value.field data name) (Value.field data' name) := by
  rw [Value.field, Value.field]
  rcases h.field? name with hStays | ⟨-, hNull, hNone⟩ | ⟨v, v', h, hBefore, hBehind⟩
  · rw [hStays]
    exact hSame _
  · rw [hNull, hNone]
    exact hSame _
  · rw [hBefore, hBehind]
    exact hPart v v' h

end Fields

end Value

/-! ## What single fields are read as -/

namespace FieldReading

variable {data data' : Object} {name : String}

/-- A text is read from its field alone. -/
theorem text_congr (h : Value.field data' name = Value.field data name) (place : Place) :
    text data' name place = text data name place := by
  rw [text, text, h]

/-- So is a flag. -/
theorem flag_congr (h : Value.field data' name = Value.field data name) (place : Place)
    (default : Bool) : flag data' name place default = flag data name place default := by
  rw [flag, flag, h]

/-- So is a duration. -/
theorem duration_congr (h : Value.field data' name = Value.field data name) (place : Place)
    (default : Nat) : duration data' name place default = duration data name place default := by
  rw [duration, duration, h]

end FieldReading

/-! ## Assertions -/

section Assertions

variable {v v' : Value} {data data' : Object}

/-- The object that the options of a request assertion are read from is thinned with them, also if
nothing is left. -/
theorem Value.ThinsMatching.entries (h : v.ThinsMatching v') :
    (if v'.isTruthy then v'.entries? else some []) = (if v.isTruthy then v.entries? else some []) ∨
      ∃ data data', (if v.isTruthy then v.entries? else some []) = some data ∧
        (if v'.isTruthy then v'.entries? else some []) = some data' ∧
        EntriesThin ["matchAnyRequest"] (fun _ _ _ => False) data data' := by
  -- an object without entries is not truthy, and stands for no entries all the same
  have hObject (entries : Object) :
      (if (Value.object entries).isTruthy then (Value.object entries).entries? else some []) =
        some entries := by
    cases entries <;> rfl
  cases h with
  | same => exact .inl rfl
  | object h => exact .inr ⟨_, _, hObject _, hObject _, h⟩

/-- A check of requests is read from its own fields and the options inside. -/
theorem Check.requestOfFields_thins
    (h : Value.EntriesThin ["options", "name", "description"]
      (fun name v v' => name = "options" ∧ v.ThinsMatching v') data data') (place : Place) :
    requestOfFields data' place = requestOfFields data place := by
  -- only within the entry named options anything is dropped, so all other fields are the same
  have hField {name : String} (hName : name ≠ "options") :
      Value.field data' name = Value.field data name :=
    h.field fun _ _ hPart => hName (Text.whole.inj hPart.1)
  have hMatching : (Value.field data "options").ThinsMatching (Value.field data' "options") :=
    h.field_part (fun _ _ hPart => hPart.2) .same
  unfold requestOfFields
  rw [hField (by decide : "match" ≠ "options")]
  simp only [text_congr (hField (by decide : "for" ≠ "options"))]
  -- and in the options it is not the flag, whose reader takes null for its default
  rcases hMatching.entries with hSame | ⟨options, options', hBefore, hBehind, hOptions⟩
  · rw [hSame]
  · rw [hBefore, hBehind]
    have hAny : Value.field options' "matchAnyRequest" = Value.field options "matchAnyRequest" :=
      hOptions.field fun _ _ => id
    simp only [flag_congr hAny]

/-- An assertion is read alike without the nulls in it. -/
theorem Assertion.ofValue_thins (h : v.ThinsAssertion v') (place : Place) :
    ofValue v' place = ofValue v place := by
  cases h with
  | same => rfl
  | @object data data' h =>
    have hField {name : String} (hName : name ≠ "options") :
        Value.field data' name = Value.field data name :=
      h.field fun _ _ hPart => hName (Text.whole.inj hPart.1)
    have hValue : Value.field? data' "value" = Value.field? data "value" :=
      h.field?_eq (by decide) fun _ _ hPart => absurd hPart.1 (by decide)
    have hEvent : Check.eventOfFields data' place = Check.eventOfFields data place := by
      unfold Check.eventOfFields
      rw [hValue, text_congr (hField (by decide))]
    -- the check is read first, and each of its two kinds reads the same fields
    have hCheck : Check.ofFields data' place = Check.ofFields data place := by
      unfold Check.ofFields
      rw [hField (by decide), Check.requestOfFields_thins h, hEvent]
    show (Check.ofFields data' place >>= fun check => _) = Check.ofFields data place >>= fun check => _
    rw [hCheck, hField (by decide : "id" ≠ "options"), hField (by decide : "name" ≠ "options"),
      hField (by decide : "description" ≠ "options")]

end Assertions

/-! ## Steps -/

namespace Step

variable {v v' : Value} {data data' : Object}

/-- The count is read the same, unless the null that was left out is it. -/
theorem countOfFields_thins {part : Text → Value → Value → Prop}
    (h : Value.EntriesThin ["clear", "count", "timeout"] part data data')
    (hPart : ∀ v v', ¬ part "count" v v') (place : Place) :
    countOfFields data' place = countOfFields data place ∨
      (Value.field? data "count" = some .null ∧ Value.field? data' "count" = none) := by
  rcases h.field? "count" with hSame | ⟨-, hNull, hNone⟩ | ⟨v, v', hChange, -⟩
  · exact .inl (by rw [countOfFields, countOfFields, hSame])
  · exact .inr ⟨hNull, hNone⟩
  · exact absurd hChange (hPart v v')

/-- A step that waits for requests is read from the fields of one. -/
theorem ofValue_waiting {index : Int} (hData : v.entries? = some data)
    (hAction : Value.field data "action" = .text "waitForRequest") :
    ofValue v index = awaitRequestsOfFields data (.step index) := by
  unfold ofValue
  simp only [hData, hAction]

/-- **One step** is read the same, unless it is a wait for requests whose count was null. The null
is refused. -/
theorem ofValue_thins (h : v.ThinsStep v') (index : Nat) :
    ofValue v' index = ofValue v index ∨
      v.DropsCount v' ∧ ofValue v index = .error (.refused (.noCount (.step index))) := by
  cases h with
  | same => exact .inl rfl
  | @object data data' h =>
    have hField {name : String} (hName : name ≠ "test") :
        Value.field data' name = Value.field data name :=
      h.field fun _ _ hPart => hName (Text.whole.inj hPart.1)
    have hAssertion : Assertion.ofValue (Value.field data' "test") (.step index) =
        Assertion.ofValue (Value.field data "test") (.step index) :=
      Assertion.ofValue_thins (h.field_part (fun _ _ hPart => hPart.2) .same) _
    have hWait : waitOfFields data' (.step index) = waitOfFields data (.step index) := by
      rw [waitOfFields, waitOfFields, hField (by decide)]
    have hType : typeOfFields data' (.step index) = typeOfFields data (.step index) := by
      unfold typeOfFields
      rw [hField (by decide : "value" ≠ "test"), text_congr (hField (by decide)),
        flag_congr (hField (by decide))]
    have hTimeout : ∀ default, duration data' "timeout" (.step index) default =
        duration data "timeout" (.step index) default :=
      fun default => duration_congr (hField (by decide)) _ default
    -- so only the wait for requests can differ
    have hRead (hRequests : Value.field data "action" = .text "waitForRequest" →
        countOfFields data' (.step index) = countOfFields data (.step index)) :
        ofValue (.object data') index = ofValue (.object data) index := by
      unfold ofValue
      simp only [Value.entries?, hField (by decide : "action" ≠ "test")]
      split
      · rw [text_congr (hField (by decide))]
      · rw [text_congr (hField (by decide))]
      · rw [hWait]
      · rw [hType]
      · rw [hAssertion]
      · next hAction =>
        unfold awaitRequestsOfFields
        rw [hRequests hAction, text_congr (hField (by decide)), hTimeout]
      · rfl
    rcases countOfFields_thins h (fun _ _ hPart => absurd hPart.1 (by decide)) (.step index) with
      hCount | ⟨hNull, hNone⟩
    · exact .inl (hRead fun _ => hCount)
    · by_cases hAction : Value.field data "action" = .text "waitForRequest"
      · refine .inr ⟨⟨⟨data, data', rfl, rfl, hNull, hNone⟩, data, rfl, hAction⟩, ?_⟩
        rw [ofValue_waiting rfl hAction, awaitRequestsOfFields, countOfFields, hNull]
        rfl
      · exact .inl (hRead fun h => absurd h hAction)

end Step

/-! ## Refusals of other fields -/

namespace FieldReading

variable {α β : Type}

/-- If the definition is refused, then neither for a count nor for the name of the event layer. -/
def Spares (r : ReadResult α) : Prop :=
  ∀ e, r = .error (.refused e) → e ≠ .noLayerName ∧ ∀ place, e ≠ .noCount place

/-- Readings in turn leave these two refusals to others, if each of them does. -/
theorem Spares.bind {r : ReadResult α} {next : α → ReadResult β} (hFirst : Spares r)
    (hNext : ∀ a, Spares (next a)) : Spares (r >>= next) := by
  intro e h
  rcases bind_eq_error.mp h with h | ⟨a, -, h⟩
  · exact hFirst e h
  · exact hNext a e h

theorem spares_ok (a : α) : Spares (.ok a : ReadResult α) := nofun

/-- Any other refusal is none of the two. -/
theorem spares_refuse {e : InputError} (h : e ≠ .noLayerName ∧ ∀ place, e ≠ .noCount place) :
    Spares (refuse e : ReadResult α) := by
  rintro _ ⟨⟩
  exact h

/-- A crash is none of the two. -/
theorem spares_safely (r : Except Crash α) : Spares (safely r) := by
  intro e h
  cases r <;> cases h

variable (data : Object) (field : String) (place : Place)

theorem spares_text : Spares (text data field place) := by
  unfold text
  split
  · split
    · exact spares_refuse ⟨nofun, nofun⟩
    · exact spares_ok _
  · exact spares_refuse ⟨nofun, nofun⟩

theorem spares_flag (default : Bool) : Spares (flag data field place default) := by
  unfold flag
  split
  · exact spares_ok _
  · exact spares_ok _
  · exact spares_refuse ⟨nofun, nofun⟩

theorem spares_duration (default : Nat) : Spares (duration data field place default) := by
  unfold duration
  split
  · exact spares_ok _
  · split
    · exact spares_refuse ⟨nofun, nofun⟩
    · next n _ _ => exact fun e h => spares_safely n.truncate e (map_eq_error_iff.mp h)
  · exact spares_refuse ⟨nofun, nofun⟩

theorem spares_request : Spares (Check.requestOfFields data place) := by
  unfold Check.requestOfFields
  split
  · simp only []
    split
    · split
      · exact (spares_text _ _ _).bind fun _ => (spares_text _ _ _).bind fun _ =>
          (spares_flag _ _ _ _).bind fun _ => spares_ok _
      · exact spares_refuse ⟨nofun, nofun⟩
    · exact spares_refuse ⟨nofun, nofun⟩
  · exact spares_refuse ⟨nofun, nofun⟩

theorem spares_event : Spares (Check.eventOfFields data place) := by
  unfold Check.eventOfFields
  split
  · exact (spares_text _ _ _).bind fun _ => spares_ok _
  · exact spares_refuse ⟨nofun, nofun⟩

/-- No assertion is refused for its count or for the name of the layer. -/
theorem spares_assertion (v : Value) : Spares (Assertion.ofValue v place) := by
  have hCheck (data : Object) : Spares (Check.ofFields data place) := by
    unfold Check.ofFields
    split
    · exact spares_request data place
    · exact spares_event data place
    · exact (spares_safely _).bind fun _ => spares_refuse ⟨nofun, nofun⟩
  unfold Assertion.ofValue
  split
  · exact (hCheck _).bind fun _ => spares_ok _
  · exact spares_refuse ⟨nofun, nofun⟩

theorem spares_tracker (v : Value) (index : Nat) : Spares (Tracker.ofValue v index) := by
  unfold Tracker.ofValue
  split
  · exact (spares_text _ _ _).bind fun _ => (spares_text _ _ _).bind fun _ =>
      (spares_flag _ _ _ _).bind fun _ => spares_ok _
  · exact spares_refuse ⟨nofun, nofun⟩

/-- No tracker is, either. -/
theorem spares_trackers (items : List Value) (earlier : List Text) (index : Nat) :
    Spares (Tracker.listOfValues earlier index items) := by
  -- by induction on the trackers, with the names that were there before
  induction items generalizing earlier index with
  | nil => exact spares_ok _
  | cons v rest ih =>
    unfold Tracker.listOfValues
    refine (spares_tracker v index).bind fun tracker => ?_
    split
    · show Spares (refuse (.repeatedTracker (.tracker index) tracker.name))
      exact spares_refuse ⟨nofun, nofun⟩
    · show Spares (Tracker.listOfValues (tracker.name :: earlier) (index + 1) rest >>= fun trackers =>
        .ok (tracker :: trackers))
      exact (ih _ _).bind fun _ => spares_ok _

end FieldReading

namespace Step

/-- A step is refused for its count only where there is one, and the refusal names the step. -/
theorem count_of_refused {v : Value} {index : Int} {place : Place}
    (h : ofValue v index = .error (.refused (.noCount place))) :
    place = .step index ∧ ∃ data count, v.entries? = some data ∧
      Value.field? data "count" = some count := by
  unfold ofValue at h
  split at h
  · next data hData =>
    -- no other field is refused as a count is
    have hSpares {r : ReadResult Step} (hr : Spares r) :
        r ≠ .error (.refused (.noCount place)) := fun hr' => (hr _ hr').2 place rfl
    simp only [] at h
    split at h
    · exact absurd h (hSpares ((spares_text _ _ _).bind fun _ => spares_ok _))
    · exact absurd h (hSpares ((spares_text _ _ _).bind fun _ => spares_ok _))
    · unfold waitOfFields at h
      split at h
      · split at h <;> cases h
      · split at h <;> cases h
      · cases h
    · unfold typeOfFields at h
      split at h
      · exact absurd h (hSpares ((spares_text _ _ _).bind fun _ =>
          (spares_flag _ _ _ _).bind fun _ => spares_ok _))
      · cases h
    · exact absurd h (hSpares ((spares_assertion _ _).bind fun _ => spares_ok _))
    · -- the count is looked at first
      rcases bind_eq_error.mp h with h | ⟨count, -, h⟩
      · unfold countOfFields at h
        split at h
        · cases h
        · next n hCount =>
          split at h <;> cases h
          exact ⟨rfl, data, _, hData, hCount⟩
        · next c _ hCount =>
          cases h
          exact ⟨rfl, data, c, hData, hCount⟩
      · exact absurd h (hSpares ((spares_text _ _ _).bind fun _ =>
          (spares_duration _ _ _ _).bind fun _ => spares_ok _))
    · rcases bind_eq_error.mp h with h | ⟨shown, -, h⟩
      · exact absurd rfl ((spares_safely _ _ h).2 place)
      · cases h
  · cases h

/-- Steps are refused for the count of the step that is named. -/
theorem count_of_listOfValues {items : List Value} {index : Nat} {place : Place}
    (h : listOfValues index items = .error (.refused (.noCount place))) :
    ∃ k step data count, items[k]? = some step ∧ place = .step ↑(index + k) ∧
      step.entries? = some data ∧ Value.field? data "count" = some count := by
  -- by induction on the steps: the refusal is about the first that cannot be read
  induction items generalizing index with
  | nil => cases h
  | cons v rest ih =>
    rcases bind_eq_error.mp h with h | ⟨step, -, h⟩
    · obtain ⟨hPlace, data, count, hData, hCount⟩ := count_of_refused h
      exact ⟨0, v, data, count, rfl, hPlace, hData, hCount⟩
    · rcases bind_eq_error.mp h with h | ⟨steps, -, h⟩
      · obtain ⟨k, step, data, count, hStep, hPlace, hData, hCount⟩ := ih h
        refine ⟨k + 1, step, data, count, hStep, ?_, hData, hCount⟩
        rw [hPlace, Nat.add_right_comm, Nat.add_assoc]
      · cases h

/-- **All steps** are read the same, unless they are refused for a null count that was left out. -/
theorem listOfValues_thins {items items' : List Value}
    (h : List.Forall₂ Value.ThinsStep items items') (index : Nat) :
    listOfValues index items' = listOfValues index items ∨
      ∃ k step step', items[k]? = some step ∧ items'[k]? = some step' ∧ step.DropsCount step' ∧
        listOfValues index items = .error (.refused (.noCount (.step ↑(index + k)))) := by
  -- by induction on the steps side by side: the first one that is read differently decides
  induction h generalizing index with
  | nil => exact .inl rfl
  | @cons v v' rest rest' hStep hRest ih =>
    rcases ofValue_thins hStep index with hSame | ⟨hDrops, hRefused⟩
    · have hTail : (∃ step, ofValue v index = .ok step) ∨ ∃ f, ofValue v index = .error f := by
        cases ofValue v index with
        | ok step => exact .inl ⟨step, rfl⟩
        | error f => exact .inr ⟨f, rfl⟩
      rw [listOfValues, listOfValues, hSame]
      rcases hTail with ⟨step, hRead⟩ | ⟨f, hFails⟩
      · -- the first step is read the same, so it is up to the others
        rw [hRead]
        rcases ih (index + 1) with hSame | ⟨k, w, w', hBefore, hBehind, hDrops, hRefused⟩
        · exact .inl (by rw [hSame])
        · refine .inr ⟨k + 1, w, w', hBefore, hBehind, hDrops, ?_⟩
          rw [hRefused, Nat.add_right_comm, Nat.add_assoc]
          rfl
      · rw [hFails]
        exact .inl rfl
    · -- the first step is refused, and the others are not read
      refine .inr ⟨0, v, v', rfl, rfl, hDrops, ?_⟩
      rw [listOfValues, hRefused]
      rfl

end Step

/-! ## Tests -/

namespace Value

variable {v v' : Value}

/-- A value without the entry dropped is another one. -/
theorem not_dropsNull_self {name : Text} : ¬ v.DropsNull name v := by
  rintro ⟨data, data', hData, hData', hNull, hNone⟩
  rw [hData] at hData'
  obtain rfl := Option.some.inj hData'
  rw [hNull] at hNone
  cases hNone

/-- Nothing was left out of steps that are the same. -/
theorem not_dropsCountAt {index : Nat} (h : v'.stepAt? index = v.stepAt? index) :
    ¬ v.DropsCountAt index v' := by
  rintro ⟨step, step', hBefore, hBehind, hDrops, -⟩
  rw [h, hBefore] at hBehind
  obtain rfl := Option.some.inj hBehind
  exact not_dropsNull_self hDrops

end Value

/-- The steps of a test are counted from the first one. -/
theorem Value.stepAt?_object {data : Object} {steps : Value} {items : List Value}
    (hSteps : field data "steps" = steps) (hItems : steps.items? = some items) (index : Nat) :
    stepAt? (.object data) index = items[index]? := by
  rw [stepAt?, show entries? (.object data) = some data from rfl, Option.bind_some, hSteps, hItems]
  rfl

/-- A test is read from the items of its list of steps. -/
theorem TestDefinition.ofValue_object {data : Object} {steps : Value} {items : List Value}
    (hSteps : Value.field data "steps" = steps) (hItems : steps.items? = some items) :
    ofValue (.object data) = (do
      let name ← safely (orEmpty (Value.field data "name")).display
      return { name, steps := ← Step.listOfValues 0 items }) := by
  unfold ofValue
  simp only [Value.entries?, hSteps, hItems]

/-- **A test** is read the same exactly if it is not for a null count that was left out that it is
refused. -/
theorem TestDefinition.ofValue_thins {v v' : Value} (h : v.ThinsTest v') :
    ofValue v' = ofValue v ↔ ∀ index : Nat, v.DropsCountAt index v' →
      ofValue v ≠ .error (.refused (.noCount (.step index))) := by
  cases h with
  | same => exact iff_of_true rfl fun index h => absurd h (Value.not_dropsCountAt rfl)
  | @object data data' h =>
    have hName : Value.field data' "name" = Value.field data "name" :=
      h.field fun _ _ hPart => absurd hPart.1 (by decide)
    have hSteps : Value.ThinsEach Value.ThinsStep (Value.field data "steps")
        (Value.field data' "steps") :=
      h.field_part (fun _ _ hPart => hPart.2) .same
    generalize hBefore : Value.field data "steps" = steps at hSteps
    generalize hBehind : Value.field data' "steps" = steps' at hSteps
    cases hSteps with
    | same =>
      refine iff_of_true ?_ fun index h => absurd h (Value.not_dropsCountAt ?_)
      · unfold ofValue
        simp only [Value.entries?, hBefore, hBehind, hName]
      · simp only [Value.stepAt?, Value.entries?, Option.bind_some, hBefore, hBehind]
    | @list items items' hItems =>
      rw [ofValue_object hBefore rfl, ofValue_object hBehind rfl, hName]
      constructor
      · rintro hSame index ⟨step, step', -, hStep, ⟨⟨_, _, -, hEntries, -, hNone⟩, -⟩⟩ hRefused
        -- then the step would be refused for a count that it does not have
        rw [← hSame] at hRefused
        rcases bind_eq_error.mp hRefused with h | ⟨name, -, h⟩
        · exact (spares_safely _ _ h).2 _ rfl
        · rcases bind_eq_error.mp h with h | ⟨steps, -, h⟩
          · obtain ⟨k, w, entries, count, hAt, hPlace, hData, hCount⟩ := Step.count_of_listOfValues h
            obtain rfl : index = k := by
              rw [Place.step.injEq, Nat.zero_add] at hPlace
              exact Int.ofNat.inj hPlace
            rw [Value.stepAt?_object hBehind rfl, hAt] at hStep
            obtain rfl := Option.some.inj hStep
            rw [hData] at hEntries
            obtain rfl := Option.some.inj hEntries
            rw [hCount] at hNone
            cases hNone
          · cases h
      · intro hSpares
        rcases Step.listOfValues_thins hItems 0 with hSame | ⟨k, w, w', hAt, hAt', hDrops, hRefused⟩
        · rw [hSame]
        · -- the name is read first, and may crash
          cases hRead : safely (orEmpty (Value.field data "name")).display with
          | error f => rfl
          | ok name =>
            refine absurd ?_ (hSpares k ⟨w, w', ?_, ?_, hDrops⟩)
            · rw [hRead, hRefused, Nat.zero_add]
              rfl
            · rw [Value.stepAt?_object hBefore rfl, hAt]
            · rw [Value.stepAt?_object hBehind rfl, hAt']

/-! ## Options -/

namespace Tracker

variable {v v' : Value}

theorem ofValue_thins (h : v.ThinsTracker v') (index : Nat) : ofValue v' index = ofValue v index := by
  cases h with
  | same => rfl
  | @object data data' h =>
    have hField (name : Text) : Value.field data' name = Value.field data name :=
      h.field fun _ _ => id
    unfold ofValue
    simp only [Value.entries?, text_congr (hField _), flag_congr (hField _)]

theorem listOfValues_thins {items items' : List Value}
    (h : List.Forall₂ Value.ThinsTracker items items') (earlier : List Text) (index : Nat) :
    listOfValues earlier index items' = listOfValues earlier index items := by
  induction h generalizing earlier index with
  | nil => rfl
  | cons hTracker hRest ih =>
    unfold listOfValues
    simp only [ofValue_thins hTracker, ih]

/-- So is a list of them. -/
theorem listOfValue_thins (h : Value.ThinsEach Value.ThinsTracker v v') :
    listOfValue v' = listOfValue v := by
  cases h with
  | same => rfl
  | list h => exact listOfValues_thins h [] 0

end Tracker

namespace RunOptions

variable {v v' : Value} {data data' : Object}

/-- What is read behind the name of the event layer. -/
def settingsOfFields (data : Object) (layerName : Text) : ReadResult RunOptions := do
  let headless ← flag data "headless" .options Default.headless
  let trackers ← Tracker.listOfValue (Value.field data "trackRequests")
  let settleDelay ← duration data "settleDelay" .options Default.settleDelay
  let typeDelay ← duration data "typeDelay" .options Default.typeDelay
  let timeout ← duration data "timeout" .options Default.timeout
  return { headless, trackers, settleDelay, typeDelay, timeout, layerName }

theorem ofValue_object :
    ofValue (.object data) = layerNameOfFields data >>= settingsOfFields data := rfl

/-- Behind the name of the layer no option is refused for it. -/
theorem spares_settingsOfFields (layerName : Text) : Spares (settingsOfFields data layerName) := by
  have hTrackers : Spares (Tracker.listOfValue (Value.field data "trackRequests")) := by
    unfold Tracker.listOfValue
    split
    · exact spares_ok _
    · split
      · exact spares_trackers _ _ _
      · exact spares_refuse ⟨nofun, nofun⟩
  exact (spares_flag _ _ _ _).bind fun _ => hTrackers.bind fun _ =>
    (spares_duration _ _ _ _).bind fun _ => (spares_duration _ _ _ _).bind fun _ =>
      (spares_duration _ _ _ _).bind fun _ => spares_ok _

/-- **Options** are read the same exactly if no null name of the event layer was left out. With the
null they are refused. -/
theorem ofValue_thins (h : v.ThinsOptions v') :
    (ofValue v' = ofValue v ↔ ¬ v.DropsNull "dataLayerName" v') ∧
      (v.DropsNull "dataLayerName" v' → ofValue v = .error (.refused .noLayerName)) := by
  cases h with
  | same => exact ⟨iff_of_true rfl Value.not_dropsNull_self, fun h => absurd h Value.not_dropsNull_self⟩
  | @object data data' h =>
    have hField {name : String} (hName : name ≠ "trackRequests") :
        Value.field data' name = Value.field data name :=
      h.field fun _ _ hPart => hName (Text.whole.inj hPart.1)
    have hTrackers : Tracker.listOfValue (Value.field data' "trackRequests") =
        Tracker.listOfValue (Value.field data "trackRequests") :=
      Tracker.listOfValue_thins (h.field_part (fun _ _ hPart => hPart.2) .same)
    rcases h.field? "dataLayerName" with hSame | ⟨-, hNull, hNone⟩ | ⟨_, _, hPart, -⟩
    · have hLayer : layerNameOfFields data' = layerNameOfFields data := by
        rw [layerNameOfFields, layerNameOfFields, hSame]
      have hStays : ¬ (Value.object data).DropsNull "dataLayerName" (.object data') := by
        rintro ⟨_, _, ⟨⟩, ⟨⟩, hNull, hNone⟩
        rw [hSame, hNull] at hNone
        cases hNone
      refine ⟨iff_of_true ?_ hStays, fun h => absurd h hStays⟩
      have hRest : settingsOfFields data' = settingsOfFields data := by
        funext layerName
        unfold settingsOfFields
        rw [hTrackers, flag_congr (hField (by decide)),
          duration_congr (hField (by decide : "settleDelay" ≠ "trackRequests")),
          duration_congr (hField (by decide : "typeDelay" ≠ "trackRequests")),
          duration_congr (hField (by decide : "timeout" ≠ "trackRequests"))]
      rw [ofValue_object, ofValue_object, hLayer, hRest]
    · have hDrops : (Value.object data).DropsNull "dataLayerName" (.object data') :=
        ⟨data, data', rfl, rfl, hNull, hNone⟩
      have hRefused : ofValue (.object data) = .error (.refused .noLayerName) := by
        rw [ofValue_object, layerNameOfFields, hNull]
        rfl
      refine ⟨iff_of_false (fun hSame => ?_) (not_not_intro hDrops), fun _ => hRefused⟩
      -- without the null a default is there for the name, and nothing else is refused as it is
      rw [hRefused, ofValue_object, layerNameOfFields, hNone] at hSame
      exact (spares_settingsOfFields Default.layerName _ hSame).1 rfl
    · exact absurd hPart.1 (by decide)

end RunOptions

/-! ## Definitions without their nulls -/

/-- **Null stands for a missing field, with two exceptions.** Whichever null entries of optional
names are left out, in options and their trackers, in the steps of a test, in the assertions and in
the options of these, what is read stays the same, and so does a refusal.

The exceptions are the name of the event layer and the count of requests to wait for. With null as
the name, options are refused, and without it never for that reason. A test changes exactly if it
was refused for a null count that was left out. -/
theorem ofValue_without_nulls (v v' : Value) :
    (v.ThinsOptions v' →
      (RunOptions.ofValue v' = RunOptions.ofValue v ↔ ¬ v.DropsNull "dataLayerName" v') ∧
      (v.DropsNull "dataLayerName" v' → RunOptions.ofValue v = .error (.refused .noLayerName))) ∧
    (v.ThinsTest v' →
      (TestDefinition.ofValue v' = TestDefinition.ofValue v ↔
        ∀ index : Nat, v.DropsCountAt index v' →
          TestDefinition.ofValue v ≠ .error (.refused (.noCount (.step index))))) :=
  ⟨RunOptions.ofValue_thins, TestDefinition.ofValue_thins⟩

namespace Value

/-- A test with null in four optional fields, and options with null in two. -/
def nullTest : Value :=
  ofFields [("steps", .list [
    ofFields [("action", .text "type"), ("element", .text "#q"), ("value", .text "shoes"),
      ("clear", .null)],
    ofFields [("action", .text "test"), ("test", ofFields [
      ("id", .int 1), ("name", .null), ("type", .text "requestMatchRegex"), ("for", .text "ga"),
      ("match", ofFields [("key", .text "ev"), ("value", .text "buy")]),
      ("options", ofFields [("matchAnyRequest", .null)]), ("description", .null)])]])]

@[inherit_doc nullTest]
def nullOptions : Value :=
  ofFields [("typeDelay", .null), ("dataLayerName", .null)]

/-- The same without the nulls. -/
def plainTest : Value :=
  ofFields [("steps", .list [
    ofFields [("action", .text "type"), ("element", .text "#q"), ("value", .text "shoes")],
    ofFields [("action", .text "test"), ("test", ofFields [
      ("id", .int 1), ("type", .text "requestMatchRegex"), ("for", .text "ga"),
      ("match", ofFields [("key", .text "ev"), ("value", .text "buy")]), ("options", ofFields [])])]])]

theorem thinsTest_plainTest : nullTest.ThinsTest plainTest := by
  have hMatching : (ofFields [("matchAnyRequest", .null)]).ThinsMatching (ofFields []) :=
    .object (.drop (by decide) rfl .nil)
  refine .object (.change ⟨rfl, .list (.cons ?_ (.cons ?_ .nil))⟩ .nil)
  · exact .object (.keep _ (.keep _ (.keep _ (.drop (by decide) rfl .nil))))
  · refine .object (.keep _ (.change ⟨rfl, .object ?_⟩ .nil))
    exact .keep _ (.drop (by decide) rfl (.keep _ (.keep _ (.keep _ (.change ⟨rfl, hMatching⟩
      (.drop (by decide) rfl .nil))))))

end Value

/-- The test is read the same without its nulls. The options are not: null was the name of their
event layer. -/
theorem ofValue_without_nulls_shop :
    Value.nullTest.ThinsTest Value.plainTest ∧
    TestDefinition.ofValue Value.plainTest = TestDefinition.ofValue Value.nullTest ∧
    Value.nullOptions.ThinsOptions (.object []) ∧
    RunOptions.ofValue (.object []) ≠ RunOptions.ofValue Value.nullOptions := by
  have hOptions : Value.nullOptions.ThinsOptions (.object []) :=
    .object (.drop (by decide) rfl (.drop (by decide) rfl .nil))
  have hDrops : Value.nullOptions.DropsNull "dataLayerName" (.object []) :=
    ⟨_, _, rfl, rfl, rfl, rfl⟩
  -- the test has no step that waits, so that no count can have been dropped
  have hRead : TestDefinition.ofValue Value.nullTest = .ok ⟨"", [
      .type "#q" "shoes" false, .check ⟨.int 1, .text "", .null, .request "ga" "ev" "buy" false⟩]⟩ :=
    rfl
  refine ⟨Value.thinsTest_plainTest, ?_, hOptions, ?_⟩
  · refine ((ofValue_without_nulls _ _).2 Value.thinsTest_plainTest).mpr fun index _ => ?_
    rw [hRead]
    nofun
  · exact fun hSame => (((ofValue_without_nulls _ _).1 hOptions).1.mp hSame) hDrops

/-- A count that is null is refused where a missing one is one request, and the same goes for the
name of the event layer. -/
theorem ofValue_null_refused :
    let wait : List (String × Value) := [("action", .text "waitForRequest"), ("for", .text "ga")]
    let test (step : List (String × Value)) : Value :=
      .ofFields [("steps", .list [.ofFields step])]
    (test (wait ++ [("count", .null)])).ThinsTest (test wait) ∧
    TestDefinition.ofValue (test wait) = .ok ⟨"", [.awaitRequests "ga" 1 10000]⟩ ∧
    TestDefinition.ofValue (test (wait ++ [("count", .null)])) =
      .error (.refused (.noCount (.step 0))) ∧
    (Value.ofFields [("dataLayerName", .null)]).ThinsOptions (.ofFields []) ∧
    RunOptions.ofValue (.ofFields []) = .ok {} ∧
    RunOptions.ofValue (.ofFields [("dataLayerName", .null)]) = .error (.refused .noLayerName) := by
  intro wait test
  refine ⟨.object (.change ⟨rfl, .list (.cons ?_ .nil)⟩ .nil), rfl, rfl, ?_, rfl, rfl⟩
  · exact .object (.keep _ (.keep _ (.drop (by decide) rfl .nil)))
  · exact .object (.drop (by decide) rfl .nil)

end BeaconCheck
