import BeaconCheck.Proofs.Capture.Deadline

/-!
# What a page has due

A call takes no time unless it is a pause. The page reacts to it at once, or puts something off,
which finds its place among what is due already. A pause then lets everything happen that is due
by its end, in the order of time, and leaves the rest due.

* `Page.sentAtOnce`, `Page.putOff` — what a page does in reaction to a call.
* `World.Instant`                  — a stretch that takes no time, with what is sent and put off.
* `World.respondAll_instant`       — calls without a pause are such a stretch.
* `World.elapse_spec`              — what letting time pass does.
* `World.Lapse`                    — a stretch at the end of which time passes.
* `World.respondAll_lapse`         — calls with a pause at the end are such a stretch.
-/

namespace BeaconCheck

/-! ## Reactions -/

namespace Reaction

/-- The requests that are sent at once. -/
def sent (r : Reaction) : List String :=
  if r.delay.isNone then r.happening.urls else []

/-- What is put off, at a time. -/
def due? (now : Rat) (r : Reaction) : Option Due :=
  r.delay.map fun delay => ⟨now + delay, r.happening⟩

end Reaction

namespace Page

/-- The requests that a page sends at once in reaction to a call. -/
def sentAtOnce (p : Page) (c : Call) : List String :=
  (p.reactionsTo c).flatMap Reaction.sent

/-- What a page puts off in reaction to a call that is made at a time. -/
def putOff (p : Page) (now : Rat) (c : Call) : List Due :=
  (p.reactionsTo c).filterMap (Reaction.due? now)

/-- A reaction with a delay is put off by it. -/
theorem mem_putOff {p : Page} {now delay : Rat} {c : Call} {r : Reaction}
    (hReaction : r ∈ p.reactionsTo c) (hDelay : r.delay = some delay) :
    ⟨now + delay, r.happening⟩ ∈ p.putOff now c := by
  refine List.mem_filterMap.mpr ⟨r, hReaction, ?_⟩
  rw [Reaction.due?, hDelay]
  rfl

/-- Only the script of its reactions decides what a page does. -/
theorem reacts_alike {p q : Page} (h : p.reactions = q.reactions) :
    p.sentAtOnce = q.sentAtOnce ∧ p.putOff = q.putOff := by
  have hSame : p.reactionsTo = q.reactionsTo := by
    funext c
    rw [reactionsTo, reactionsTo, h]
  constructor
  · funext c
    rw [sentAtOnce, sentAtOnce, hSame]
  · funext now c
    rw [putOff, putOff, hSame]

end Page

/-- The call is a pause. -/
def Call.isPause : Call → Bool
  | .waitForTimeout _ => true
  | _ => false

namespace World

/-! ## Stretches without time -/

/-- A stretch in which no time passes, on a page that is watched, with the requests that are
sent in it and with what is put off. -/
structure Instant (w : World) (sent : List String) (due : List Due) (v : World) : Prop where
  now : v.now = w.now
  handlers : v.handlers = w.handlers
  reactions : v.page.reactions = w.page.reactions
  handled : v.handled = w.handled ++ sent
  pending : v.pending.Perm (w.pending ++ due)
  ordered : w.Ordered → v.Ordered

namespace Instant

variable {w u v : World} {sent sent' : List String} {due due' : List Due}

/-- Nothing of this is done to the world. -/
theorem of_same (hNow : v.now = w.now) (hHandlers : v.handlers = w.handlers)
    (hReactions : v.page.reactions = w.page.reactions) (hHandled : v.handled = w.handled)
    (hPending : v.pending = w.pending) : Instant w [] [] v where
  now := hNow
  handlers := hHandlers
  reactions := hReactions
  handled := by rw [hHandled, List.append_nil]
  pending := by rw [hPending, List.append_nil]
  ordered h := by rwa [Ordered, hPending]

theorem refl (w : World) : Instant w [] [] w :=
  of_same rfl rfl rfl rfl rfl

/-- What is done at one instant can be followed by what is done at the same. -/
theorem trans (h : Instant w sent due u) (h' : Instant u sent' due' v) :
    Instant w (sent ++ sent') (due ++ due') v where
  now := h'.now.trans h.now
  handlers := h'.handlers.trans h.handlers
  reactions := h'.reactions.trans h.reactions
  handled := by rw [h'.handled, h.handled, List.append_assoc]
  pending := by
    rw [← List.append_assoc]
    exact h'.pending.trans (h.pending.append_right due')
  ordered hw := h'.ordered (h.ordered hw)

/-- The page reacts to calls behind the stretch as it would have in front of it. -/
theorem putOff_eq (h : Instant w sent due u) :
    u.page.sentAtOnce = w.page.sentAtOnce ∧ u.page.putOff u.now = w.page.putOff w.now := by
  obtain ⟨hSent, hDue⟩ := Page.reacts_alike h.reactions
  exact ⟨hSent, by rw [hDue, h.now]⟩

end Instant

variable {w : World}

/-- A record of a call, or in the log, is no more than that. -/
theorem addTrace_instant (w : World) (c : Call) : Instant w [] [] (w.addTrace (.call c)) := by
  refine .of_same rfl rfl rfl ?_ rfl
  rw [World.handled, World.handled, addTrace, List.filterMap_append]
  exact List.append_nil _

/-- Logging takes no time, and sends and puts off nothing. -/
theorem addLog_instant (w : World) (records : List LogRecord) :
    Instant w [] [] (w.addLog records) :=
  .of_same rfl rfl rfl rfl rfl

/-- Nothing changes what a page reacts to. -/
theorem Course.reactions_eq {w w' : World} {made : List AnsweredCall} (h : Course w made w') :
    w'.page.reactions = w.page.reactions := by
  refine h.invariant (P := fun v => v.page.reactions = w.page.reactions) ?_ rfl
  intro v made v' first hv
  rw [← hv]
  cases first <;> rfl

/-- What happens sends its requests at once. -/
theorem happen_instant (hw : w.handlers = 1) (h : Happening) :
    Instant w h.urls [] (w.happen h) where
  now := (happen_clock w h).1
  handlers := (happen_course w h).frame.handlers
  reactions := (happen_course w h).reactions_eq
  handled := happen_handled hw h
  pending := by rw [(happen_clock w h).2, List.append_nil]
  ordered hOrdered := by rwa [Ordered, (happen_clock w h).2]

/-- What is put off is due after its delay. -/
theorem schedule_instant (w : World) (delay : Rat) (h : Happening) :
    Instant w [] [⟨w.now + delay, h⟩] (w.schedule delay h) where
  now := rfl
  handlers := rfl
  reactions := rfl
  handled := (List.append_nil _).symm
  pending := (insertDue_perm _ _).trans (List.perm_append_singleton _ _).symm
  ordered := pairwise_insertDue

/-- A reaction sends its requests at once, or is put off. -/
theorem react_instant (hw : w.handlers = 1) (r : Reaction) :
    Instant w r.sent (r.due? w.now).toList (w.react r) := by
  unfold react Reaction.sent Reaction.due?
  cases r.delay with
  | none => exact happen_instant hw r.happening
  | some delay => exact schedule_instant w delay r.happening

/-- Reactions in turn send and put off what each of them does. -/
theorem reactAll_instant (rs : List Reaction) (hw : w.handlers = 1) :
    Instant w (rs.flatMap Reaction.sent) (rs.filterMap (Reaction.due? w.now))
      (rs.foldl react w) := by
  induction rs generalizing w with
  | nil => exact .refl w
  | cons r rest ih =>
    have hFirst := react_instant hw r
    have hRest := ih (w := w.react r) (hFirst.handlers.trans hw)
    -- the others are put off at the same time as the first
    rw [hFirst.now] at hRest
    rw [List.flatMap_cons, List.filterMap_cons]
    cases hDue : r.due? w.now <;> rw [hDue] at hFirst <;> exact hFirst.trans hRest

/-- The reactions to a call, before any time passes. -/
theorem reacted_instant (hw : w.handlers = 1) (c : Call) :
    Instant w (w.page.sentAtOnce c) (w.page.putOff w.now c)
      ((w.page.reactionsTo c).foldl react (w.addTrace (.call c))) :=
  (addTrace_instant w c).trans (reactAll_instant (w.page.reactionsTo c) hw)

/-- A call that is no pause takes no time. -/
theorem respond_instant (hw : w.handlers = 1) {c : Call} (hc : c.isPause = false) :
    Instant w (w.page.sentAtOnce c) (w.page.putOff w.now c) (w.respond c) := by
  have hRespond : w.respond c =
      (w.page.reactionsTo c).foldl react (w.addTrace (.call c)) := by
    -- only a pause does more than react
    cases c <;> first | rfl | cases hc
  rw [hRespond]
  exact reacted_instant hw c

/-- **Calls without a pause** take no time: the page does what it does in reaction to each. -/
theorem respondAll_instant {cs : List Call} (hw : w.handlers = 1)
    (hcs : ∀ c ∈ cs, c.isPause = false) :
    Instant w (cs.flatMap w.page.sentAtOnce) (cs.flatMap (w.page.putOff w.now))
      (cs.foldl respond w) := by
  -- by induction on the calls, each of which lets no time pass
  induction cs generalizing w with
  | nil => exact .refl w
  | cons c rest ih =>
    have hFirst := respond_instant hw (hcs c List.mem_cons_self)
    have hRest := ih (w := w.respond c) (hFirst.handlers.trans hw)
      fun d hd => hcs d (List.mem_cons_of_mem c hd)
    rw [hFirst.putOff_eq.1, hFirst.putOff_eq.2] at hRest
    rw [List.flatMap_cons, List.flatMap_cons]
    exact hFirst.trans hRest

/-! ## Letting time pass -/

/-- What letting time pass up to a deadline does: everything that is due by then happens in its
order, and the rest stays due. -/
theorem awaitIn_never {deadline : Rat} {pending : List Due} :
    ∀ {w : World}, w.handlers = 1 → w.now ≤ deadline →
      pending.Pairwise (fun d e => d.time ≤ e.time) →
      let v := (awaitIn deadline (fun _ => false) pending w).2
      v.now = deadline ∧ v.handled = w.handled ++ urlsBy pending deadline ∧
        v.pending = pending.filter fun d => deadline < d.time := by
  induction pending with
  | nil =>
    intro w _ hNow _
    exact ⟨if_pos hNow, (List.append_nil _).symm, rfl⟩
  | cons d rest ih =>
    intro w hw hNow hOrdered
    obtain ⟨hFirst, hRest⟩ := List.pairwise_cons.mp hOrdered
    simp only [awaitIn]
    by_cases hDue : d.time ≤ deadline
    · rw [if_pos hDue, if_neg Bool.false_ne_true, filter_cons_of_le hDue, urlsBy_cons hDue]
      -- the first batch happens at its time, or now if that is over
      let atDue : World := { w with pending := rest }.advance d.time
      have hAtDue : atDue.handlers = 1 := hw
      have hAdvanced : atDue.now ≤ deadline := by
        show (if w.now ≤ d.time then d.time else w.now) ≤ deadline
        split
        · exact hDue
        · exact hNow
      obtain ⟨hEnd, hHandled, hPending⟩ := ih (w := atDue.happen d.happening)
        ((happen_course atDue d.happening).frame.handlers.trans hAtDue)
        ((happen_clock atDue d.happening).1.trans_le hAdvanced) hRest
      refine ⟨hEnd, ?_, hPending⟩
      rw [hHandled, happen_handled hAtDue, List.append_assoc]
      rfl
    · -- neither the first batch is due by the deadline nor any behind it
      rw [if_neg hDue]
      have hLater : ∀ e ∈ d :: rest, deadline < e.time := by
        intro e he
        rcases List.mem_cons.mp he with rfl | he
        · exact not_le.mp hDue
        · exact (not_le.mp hDue).trans_le (hFirst e he)
      refine ⟨if_pos hNow, ?_, ?_⟩
      · rw [urlsBy_eq_nil hLater]
        exact (List.append_nil _).symm
      · exact (List.filter_eq_self.mpr fun e he => decide_eq_true (hLater e he)).symm

/-- **What letting time pass does.** -/
theorem elapse_spec (hw : w.handlers = 1) (hOrdered : w.Ordered) {length : Rat}
    (hLength : 0 ≤ length) :
    (w.elapse length).now = w.now + length ∧
      (w.elapse length).handled = w.handled ++ w.dueBy (w.now + length) ∧
      (w.elapse length).pending = w.pending.filter fun d => w.now + length < d.time :=
  awaitIn_never hw (le_add_of_nonneg_right hLength) hOrdered

/-- A stretch at the end of which some time passes, on a page that is watched, with the requests
that are sent at its start, with what is put off there, and with what has happened by its end
of all that was due. -/
structure Lapse (w : World) (sent : List String) (due : List Due) (length : Rat)
    (happened : List Due) (v : World) : Prop where
  now : v.now = w.now + length
  sorted : happened.Pairwise fun d e => d.time ≤ e.time
  happened_perm : happened.Perm ((w.pending ++ due).filter fun d => d.time ≤ w.now + length)
  handled : v.handled = w.handled ++ sent ++ happened.flatMap fun d => d.happening.urls
  pending_perm : v.pending.Perm ((w.pending ++ due).filter fun d => w.now + length < d.time)

/-- What a page puts off in reaction to a call, for less than the time that passes, happens. -/
theorem Lapse.mem_happened {sent : List String} {p : Page} {cs : List Call} {length : Rat}
    {happened : List Due} {v : World}
    (h : Lapse w sent (cs.flatMap (p.putOff w.now)) length happened v) {c : Call} (hc : c ∈ cs)
    {r : Reaction} (hReaction : r ∈ p.reactionsTo c) {delay : Rat}
    (hDelay : r.delay = some delay) (hSoon : delay < length) :
    ⟨w.now + delay, r.happening⟩ ∈ happened := by
  have hPutOff : ⟨w.now + delay, r.happening⟩ ∈ cs.flatMap (p.putOff w.now) :=
    List.mem_flatMap.mpr ⟨c, hc, Page.mem_putOff hReaction hDelay⟩
  have hByThen : w.now + delay ≤ w.now + length := add_le_add_right hSoon.le _
  refine h.happened_perm.mem_iff.mpr (List.mem_filter.mpr ⟨?_, decide_eq_true hByThen⟩)
  exact List.mem_append_right _ hPutOff

/-- Time that passes behind a stretch that took none. -/
theorem Instant.elapse {sent : List String} {due : List Due} {u : World}
    (h : Instant w sent due u) (hw : w.handlers = 1) (hOrdered : w.Ordered) {length : Rat}
    (hLength : 0 ≤ length) :
    Lapse w sent due length (u.pending.filter fun d => d.time ≤ w.now + length)
      (u.elapse length) := by
  have hThere : u.Ordered := h.ordered hOrdered
  -- a first part of what is due behind the stretch happens, and the rest stays
  obtain ⟨hNow, hHandled, hPending⟩ := elapse_spec (h.handlers.trans hw) hThere hLength
  rw [h.now] at hNow hHandled hPending
  refine ⟨hNow, hThere.sublist List.filter_sublist, h.pending.filter _, ?_, ?_⟩
  · rw [hHandled, h.handled]
    rfl
  · rw [hPending]
    exact h.pending.filter _

/-- **Calls with a pause at the end** let its time pass: what is put off by them is among what
is due then. -/
theorem respondAll_lapse {cs : List Call} (hw : w.handlers = 1) (hOrdered : w.Ordered)
    (hcs : ∀ c ∈ cs, c.isPause = false) {length : Number} {ms : Rat}
    (hLength : length.toRat? = some ms) (hPositive : 0 < ms) (hShort : ms ≤ 3600000) :
    let all : List Call := cs ++ [.waitForTimeout length]
    ∃ happened, Lapse w (all.flatMap w.page.sentAtOnce) (all.flatMap (w.page.putOff w.now)) ms
      happened (all.foldl respond w) := by
  intro all
  have hFirst := respondAll_instant hw hcs
  let u : World := cs.foldl respond w
  have hReacted := reacted_instant (w := u) (hFirst.handlers.trans hw) (.waitForTimeout length)
  rw [hFirst.putOff_eq.1, hFirst.putOff_eq.2] at hReacted
  -- the pause lets its time pass behind the reactions to it
  have hAll : all.foldl respond w =
      ((u.page.reactionsTo (.waitForTimeout length)).foldl react
        (u.addTrace (.call (.waitForTimeout length)))).elapse ms := by
    rw [List.foldl_append, List.foldl_cons, List.foldl_nil]
    simp only [respond, hLength]
    rw [if_pos ⟨hPositive, hShort⟩]
  rw [hAll, List.flatMap_append, List.flatMap_append, List.flatMap_singleton,
    List.flatMap_singleton]
  exact ⟨_, (hFirst.trans hReacted).elapse hw hOrdered hPositive.le⟩

end World

end BeaconCheck
