import BeaconCheck.Browser.Action
import BeaconCheck.Proofs.World.Course

/-!
# Performing calls

A computation performs a list of calls if it makes all of them and succeeds, or makes them
up to one whose failure is fatal and fails with what that failure is turned into. Only the
failure to read an event layer may be survived. Performances compose, so the calls of an
action are read off the way it is built.

* `AnsweredCall.isFatal` — the failures that end a step.
* `Executor.raised`      — what a fatal failure is turned into.
* `RunM.Does`            — what a computation gives, with the calls of its course.
* `Performed`            — all of the calls, or those up to a fatal failure.
* `Performed.bind`       — one performance after another.
* `goto_performed`, … , `pause_performed` — the calls of the actions on a page.
-/

namespace BeaconCheck

/-! ## Fatal failures -/

/-- A failed call that ends its step. The failure to read an event layer is left to the
assertion, unless the page is gone or it is not one of the browser's own. -/
def AnsweredCall.isFatal : AnsweredCall → Bool
  | ⟨_, none⟩ => false
  | ⟨.readLayer _, some e⟩ => !e.kind.isOwn || Executor.saysClosed e
  | ⟨_, some _⟩ => true

namespace Executor

/-- What a step fails with when a call of it has failed. -/
def raised (x : Executor) (c : Call) (e : BrowserError) : Failure :=
  if e.kind.isOwn then
    match c with
    | .goto url _ => .step (.navigation url e.message)
    | .waitForSelector selector _ =>
      if e.kind = .timeout then
        match integerText x.options.timeout with
        | .ok shown => .step (.missingElement selector s!"not attached after {shown}ms")
        | .error crash => .crash crash
      else .step (.missingElement selector e.message)
    | .click selector => .step (.missingElement selector ("click failed: " ++ e.message))
    | .clear selector => .step (.missingElement selector ("clear failed: " ++ e.message))
    | .type selector .. => .step (.missingElement selector ("typing failed: " ++ e.message))
    | .readLayer name => .step (.pageClosed name e.message)
    | _ => .browser e
  else .browser e

end Executor

/-! ## What a computation does -/

namespace RunM

variable {α β : Type}

/-- Whatever the world, the computation takes a course to the world that it leaves, and its
result and the calls of the course are as stated. -/
def Does (m : RunM α) (P : Except Failure α → List AnsweredCall → Prop) : Prop :=
  ∀ w, ∃ made, World.Course w made (m.run w).2 ∧ P (m.run w).1 made

variable {P Q : Except Failure α → List AnsweredCall → Prop}

/-- What is done can be put in weaker words. -/
theorem Does.mono {m : RunM α} (hm : Does m P) (h : ∀ r made, P r made → Q r made) :
    Does m Q := by
  intro w
  obtain ⟨made, hCourse, hP⟩ := hm w
  exact ⟨made, hCourse, h _ _ hP⟩

theorem Does.pure {a : α} (h : P (.ok a) []) : Does (pure a) P :=
  fun w => ⟨[], .done w, h⟩

theorem Does.throw {f : Failure} (h : P (.error f) []) : Does (throw f) P :=
  fun w => ⟨[], .done w, h⟩

/-- A computation that leaves the world alone makes no call. -/
theorem Does.of_run {m : RunM α} {r : World → Except Failure α}
    (hm : ∀ w, m.run w = (r w, w)) (h : ∀ w, P (r w) []) : Does m P := by
  intro w
  rw [hm w]
  exact ⟨[], .done w, h w⟩

theorem Does.log {P : Except Failure PUnit → List AnsweredCall → Prop} {level : LogLevel}
    {message : Text} (h : P (.ok ()) []) : Does (RunM.log level message) P :=
  fun w => ⟨[], .one (.logged w _), h⟩

/-- What is read from the world can be anything. -/
theorem Does.get {f : World → RunM α} (h : ∀ w, Does (f w) P) :
    Does (MonadState.get >>= f) P := by
  intro w
  rw [run_bind, run_get]
  exact h w w

/-- What two computations in turn do is made up of what each of them does. -/
theorem Does.bind {R : Except Failure β → List AnsweredCall → Prop} {m : RunM α}
    {f : α → RunM β} {S : α → Except Failure β → List AnsweredCall → Prop}
    (hm : Does m P) (hf : ∀ a, Does (f a) (S a))
    (hOk : ∀ a made r more, P (.ok a) made → S a r more → R r (made ++ more))
    (hError : ∀ e made, P (.error e) made → R (.error e) made) : Does (m >>= f) R := by
  intro w
  obtain ⟨made, hCourse, hP⟩ := hm w
  rw [run_bind]
  -- where the first part fails, the second makes no calls
  rcases h : m.run w with ⟨e | a, w'⟩
  · rw [h] at hCourse hP
    exact ⟨made, hCourse, hError e made hP⟩
  · rw [h] at hCourse hP
    obtain ⟨more, hCourse', hS⟩ := hf a w'
    exact ⟨made ++ more, hCourse.trans hCourse', hOk a made _ more hP hS⟩

/-- What is done with the failure of another computation comes behind its calls. -/
theorem Does.tryCatch {m : RunM α} {handler : Failure → RunM α}
    {S : Failure → Except Failure α → List AnsweredCall → Prop} (hm : Does m P)
    (hHandler : ∀ e, Does (handler e) (S e))
    (hOk : ∀ a made, P (.ok a) made → Q (.ok a) made)
    (hError : ∀ e made r more, P (.error e) made → S e r more → Q r (made ++ more)) :
    Does (tryCatch m handler) Q := by
  intro w
  obtain ⟨made, hCourse, hP⟩ := hm w
  rw [run_tryCatch]
  -- where it fails, the handler makes its calls behind those that were made
  rcases h : m.run w with ⟨e | a, w'⟩
  · rw [h] at hCourse hP
    obtain ⟨more, hCourse', hS⟩ := hHandler e w'
    exact ⟨made ++ more, hCourse.trans hCourse', hError e made _ more hP hS⟩
  · rw [h] at hCourse hP
    exact ⟨made, hCourse, hOk a made hP⟩

end RunM

/-! ## Performances -/

/-- All of the calls were made and none of them failed fatally, or the calls up to one that
did, or the calls before the first one that could not be made for lack of a page. -/
inductive Performed {α : Type} (x : Executor) (cs : List Call) :
    Except Failure α → List AnsweredCall → Prop
  | all {a : α} {made : List AnsweredCall} (hCalls : made.map AnsweredCall.call = cs)
      (hGood : ∀ p ∈ made, p.isFatal = false) : Performed x cs (.ok a) made
  | stopped {done : List AnsweredCall} {c : Call} {e : BrowserError}
      (hPrefix : done.map AnsweredCall.call ++ [c] <+: cs)
      (hGood : ∀ p ∈ done, p.isFatal = false)
      (hFatal : AnsweredCall.isFatal ⟨c, some e⟩ = true) :
      Performed x cs (.error (x.raised c e)) (done ++ [⟨c, some e⟩])
  | pageless {f : Failure} {made : List AnsweredCall} (hPage : x.hasPage = false)
      (hPrefix : made.map AnsweredCall.call <+: cs)
      (hGood : ∀ p ∈ made, p.isFatal = false) : Performed x cs (.error f) made

namespace Performed

variable {α β : Type} {x : Executor} {cs more : List Call}

/-- Of the calls that are to be performed the first ones are made. -/
theorem calls_prefix {r : Except Failure α} {made : List AnsweredCall}
    (h : Performed x cs r made) : made.map AnsweredCall.call <+: cs := by
  cases h with
  | all hCalls => exact hCalls ▸ List.prefix_rfl
  | stopped hPrefix => simpa using hPrefix
  | pageless _ hPrefix => exact hPrefix

/-- A performance that has ended is one of any further calls, too. -/
theorem extend {f : Failure} {made : List AnsweredCall}
    (h : Performed (α := α) x cs (.error f) made) (more : List Call) :
    Performed (α := β) x (cs ++ more) (.error f) made := by
  cases h with
  | stopped hPrefix hGood hFatal =>
    exact .stopped (hPrefix.trans (List.prefix_append cs more)) hGood hFatal
  | pageless hPage hPrefix hGood =>
    exact .pageless hPage (hPrefix.trans (List.prefix_append cs more)) hGood

/-- What is performed behind a performance that succeeded. -/
theorem append {a : α} {r : Except Failure β} {made others : List AnsweredCall}
    (h : Performed x cs (.ok a) made) (h' : Performed x more r others) :
    Performed x (cs ++ more) r (made ++ others) := by
  -- the first performance succeeded, so it made all of its calls
  obtain ⟨hCalls, hGood⟩ := h
  subst hCalls
  -- the second decides how both of them end
  cases h' with
  | all hCalls' hGood' =>
    exact .all (by rw [List.map_append, hCalls']) (List.forall_mem_append.mpr ⟨hGood, hGood'⟩)
  | stopped hPrefix hGood' hFatal =>
    rw [← List.append_assoc]
    refine .stopped ?_ (List.forall_mem_append.mpr ⟨hGood, hGood'⟩) hFatal
    rw [List.map_append, List.append_assoc]
    exact (List.prefix_append_right_inj _).mpr hPrefix
  | pageless hPage hPrefix hGood' =>
    refine .pageless hPage ?_ (List.forall_mem_append.mpr ⟨hGood, hGood'⟩)
    rw [List.map_append]
    exact (List.prefix_append_right_inj _).mpr hPrefix

/-- **One performance after another.** -/
theorem bind {m : RunM α} {f : α → RunM β} (hm : RunM.Does m (Performed x cs))
    (hf : ∀ a, RunM.Does (f a) (Performed x more)) :
    RunM.Does (m >>= f) (Performed x (cs ++ more)) :=
  hm.bind hf (fun _ _ _ _ h h' => h.append h') fun _ _ h => h.extend more

/-- A call and what is performed behind it. -/
theorem cons {c : Call} {m : RunM α} {f : α → RunM β} (hm : RunM.Does m (Performed x [c]))
    (hf : ∀ a, RunM.Does (f a) (Performed x more)) :
    RunM.Does (m >>= f) (Performed x (c :: more)) :=
  bind hm hf

/-- A performance whose first call failed fatally. -/
theorem stoppedAt {c : Call} {e : BrowserError} (hPrefix : [c] <+: cs)
    (hFatal : AnsweredCall.isFatal ⟨c, some e⟩ = true) :
    Performed (α := α) x cs (.error (x.raised c e)) [⟨c, some e⟩] := by
  have hNone : ([] : List AnsweredCall).map AnsweredCall.call ++ [c] <+: cs := hPrefix
  exact .stopped hNone (by simp) hFatal

theorem done (a : α) : Performed x [] (.ok a) [] :=
  .all rfl (by simp)

/-- A record in the log makes no call. -/
theorem afterLog {level : LogLevel} {message : Text} {f : Unit → RunM β}
    (hf : RunM.Does (f ()) (Performed x cs)) :
    RunM.Does (RunM.log level message >>= f) (Performed x cs) := by
  have hLog : RunM.Does (RunM.log level message) (Performed x []) := .log (done ())
  exact bind hLog fun _ => hf

/-- A performance whose result is left out. -/
theorem finish {m : RunM α} (hm : RunM.Does m (Performed x cs)) (b : β) :
    RunM.Does (m >>= fun _ => pure b) (Performed x cs) := by
  have hBoth : RunM.Does (m >>= fun _ => pure b) (Performed x (cs ++ [])) :=
    bind hm fun _ => .pure (done b)
  rwa [List.append_nil] at hBoth

end Performed

/-! ## Single calls -/

/-- A call is made once, and fails if the page has it so. -/
theorem RunM.call_does (c : Call) :
    RunM.Does (RunM.call c) fun r made =>
      (r = .ok () ∧ made = [⟨c, none⟩]) ∨
        ∃ e, r = .error (.browser e) ∧ made = [⟨c, some e⟩] := by
  intro w
  rw [RunM.run_call]
  cases h : Page.failAt c w.page.failures with
  | none => exact ⟨_, World.respond_course h, .inl ⟨rfl, rfl⟩⟩
  | some p => exact ⟨_, .one (.failed h), .inr ⟨p.1, rfl, rfl⟩⟩

namespace Executor

variable (x : Executor)

/-- **A call to the page** is answered, or fails, or cannot be made. -/
theorem call_does (c : Call) :
    RunM.Does (x.call c) fun r made =>
      (r = .ok () ∧ made = [⟨c, none⟩]) ∨
      (∃ e, r = .error (.browser e) ∧ made = [⟨c, some e⟩]) ∨
      (x.hasPage = false ∧ r = .error (.crash (.noPage c.operation)) ∧ made = []) := by
  unfold call
  split
  · exact (RunM.call_does c).mono fun _ _ h => h.imp_right .inl
  · next h => exact .throw (.inr (.inr ⟨by simpa using h, rfl, rfl⟩))

variable {x}

/-- A failure that is not the browser's own is passed on as it is. -/
theorem raised_of_not_own {c : Call} {e : BrowserError} (h : e.kind.isOwn = false) :
    x.raised c e = .browser e := by
  unfold raised
  rw [h]
  rfl

/-- A call whose failures are all fatal and are turned into what the step raises. -/
theorem tryCall_performed {c : Call} {handler : Failure → RunM Unit}
    (hFatal : ∀ e, AnsweredCall.isFatal ⟨c, some e⟩ = true)
    (hRaised : ∀ e w, (handler (.browser e)).run w = (.error (x.raised c e), w))
    (hCrash : ∀ crash w, (handler (.crash crash)).run w = (.error (.crash crash), w)) :
    RunM.Does (tryCatch (x.call c) handler) (Performed x [c]) := by
  intro w
  obtain ⟨made, hCourse, hCall⟩ := x.call_does c w
  rw [RunM.run_tryCatch]
  rcases h : (x.call c).run w with ⟨r, w'⟩
  rw [h] at hCourse hCall
  -- the call was answered, or failed, or there is no page
  rcases hCall with ⟨rfl, rfl⟩ | ⟨e, rfl, rfl⟩ | ⟨hPage, rfl, rfl⟩
  · exact ⟨_, hCourse, .all rfl (by simp [AnsweredCall.isFatal])⟩
  · simp only [hRaised]
    refine ⟨_, hCourse, ?_⟩
    exact .stoppedAt List.prefix_rfl (hFatal e)
  · simp only [hCrash]
    exact ⟨_, hCourse, .pageless hPage (by simp) (by simp)⟩

/-- A call whose own failures are explained is performed. -/
theorem explaining_performed {c : Call} {f : BrowserError → StepError}
    (hFatal : ∀ e, AnsweredCall.isFatal ⟨c, some e⟩ = true)
    (hRaised : ∀ e, e.kind.isOwn = true → x.raised c e = .step (f e)) :
    RunM.Does (RunM.explaining (x.call c) f) (Performed x [c]) := by
  refine tryCall_performed hFatal (fun e w => ?_) fun crash w => rfl
  cases h : e.kind.isOwn with
  | true => simp only [h, if_true, hRaised e h]; rfl
  | false => simp only [h, raised_of_not_own h]; rfl

/-! ## Actions -/

theorem goto_performed (url : Text) :
    RunM.Does (x.goto url) (Performed x [.goto url x.options.timeout]) :=
  explaining_performed (fun _ => rfl) fun e h => by simp [raised, h]

theorem awaitElement_performed (selector : Text) :
    RunM.Does (x.awaitElement selector)
      (Performed x [.waitForSelector selector x.options.timeout]) := by
  refine tryCall_performed (fun _ => rfl) (fun e w => ?_) fun crash w => rfl
  cases h : e.kind.isOwn with
  | false => simp only [h, raised_of_not_own h]; rfl
  | true =>
    simp only [h, if_true, notAttached, raised]
    -- the text of a timeout names its length, which may be too long to write
    split
    · rw [RunM.run_bind, RunM.run_safely]
      cases integerText x.options.timeout <;> rfl
    · rfl

/-- An element is waited for before it is clicked. -/
theorem click_performed (selector : Text) :
    RunM.Does (x.click selector)
      (Performed x [.waitForSelector selector x.options.timeout, .click selector]) :=
  Performed.bind (awaitElement_performed selector) fun _ =>
    explaining_performed (fun _ => rfl) fun e h => by simp [raised, h]

theorem clear_performed (selector : Text) :
    RunM.Does (x.clear selector) (Performed x [.clear selector]) :=
  explaining_performed (fun _ => rfl) fun e h => by simp [raised, h]

/-- An element is waited for, and cleared if asked for, before anything is typed. -/
theorem typeText_performed (selector text : Text) (empty : Bool) :
    RunM.Does (x.typeText selector text empty)
      (Performed x (.waitForSelector selector x.options.timeout ::
        (if empty then [.clear selector] else []) ++
          [.type selector text x.options.typeDelay x.options.timeout])) := by
  have hType : RunM.Does (RunM.explaining
      (x.call (.type selector text x.options.typeDelay x.options.timeout))
      fun e => .missingElement selector ("typing failed: " ++ e.message))
      (Performed x [.type selector text x.options.typeDelay x.options.timeout]) :=
    explaining_performed (fun _ => rfl) fun e h => by simp [raised, h]
  unfold typeText
  refine Performed.cons (awaitElement_performed selector) fun _ => ?_
  -- the field is emptied in between if that is asked for
  cases empty with
  | true => exact Performed.cons (clear_performed selector) fun _ => hType
  | false => exact hType

theorem pause_performed (length : Number) :
    RunM.Does (x.pause length) (Performed x [.waitForTimeout length]) := by
  refine (x.call_does (.waitForTimeout length)).mono fun r made h => ?_
  rcases h with ⟨rfl, rfl⟩ | ⟨e, rfl, rfl⟩ | ⟨hPage, rfl, rfl⟩
  · exact .all rfl (by simp [AnsweredCall.isFatal])
  -- a pause explains nothing: its failure stays the browser's
  · have hRaised : x.raised (.waitForTimeout length) e = .browser e := by
      unfold raised
      split <;> rfl
    rw [← hRaised]
    exact .stoppedAt List.prefix_rfl rfl
  · exact .pageless hPage (by simp) (by simp)

/-- Reading the event layer: its failure is left to who asked for it. -/
theorem readLayer_does :
    RunM.Does x.readLayer fun r made =>
      (∃ v, r = .ok v ∧ made = [⟨.readLayer x.options.layerName, none⟩]) ∨
      (∃ e, r = .error (if e.kind.isOwn then unreadable x.options.layerName e else .browser e) ∧
        made = [⟨.readLayer x.options.layerName, some e⟩]) ∨
      (x.hasPage = false ∧ made = [] ∧ ∃ crash, r = .error (.crash crash)) := by
  unfold readLayer
  intro w
  obtain ⟨made, hCourse, hCall⟩ := x.call_does (.readLayer x.options.layerName) w
  rw [RunM.run_bind, RunM.run_tryCatch]
  rcases h : (x.call (.readLayer x.options.layerName)).run w with ⟨r, w'⟩
  rw [h] at hCourse hCall
  -- the call succeeds, fails, or is not made for want of a page; only a failure of its own kind is
  -- put in other words
  rcases hCall with ⟨rfl, rfl⟩ | ⟨e, rfl, rfl⟩ | ⟨hPage, rfl, rfl⟩
  · exact ⟨_, hCourse, .inl ⟨_, rfl, rfl⟩⟩
  · exact ⟨_, hCourse, .inr (.inl ⟨e, rfl, rfl⟩)⟩
  · exact ⟨_, hCourse, .inr (.inr ⟨hPage, rfl, _, rfl⟩)⟩

end Executor

end BeaconCheck
