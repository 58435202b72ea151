import BeaconCheck.World

/-!
# Running computations

What a computation gives in a world and the world it leaves, for each way of building a
computation. Later proofs open a `do` block by these and by nothing else.
-/

namespace BeaconCheck

/-! ## Computations without a world -/

section

variable {ε α β : Type}

/-- What succeeds in two parts has a first part that succeeds. -/
theorem bind_eq_ok {m : Except ε α} {f : α → Except ε β} {b : β} :
    m >>= f = .ok b ↔ ∃ a, m = .ok a ∧ f a = .ok b := by
  cases m with
  | error e => exact ⟨(nomatch ·), fun ⟨_, h, _⟩ => nomatch h⟩
  | ok a =>
    refine ⟨fun h => ⟨a, rfl, h⟩, fun ⟨a', h, h'⟩ => ?_⟩
    cases h
    exact h'

/-- What fails in two parts fails in the first, or in the second behind the first. -/
theorem bind_eq_error {m : Except ε α} {f : α → Except ε β} {e : ε} :
    m >>= f = .error e ↔ m = .error e ∨ ∃ a, m = .ok a ∧ f a = .error e := by
  cases m with
  | error e' =>
    refine ⟨fun h => .inl (congrArg Except.error (Except.error.inj h)), ?_⟩
    rintro (h | ⟨a, h, -⟩)
    · exact congrArg Except.error (Except.error.inj h)
    · cases h
  | ok a =>
    refine ⟨fun h => .inr ⟨a, rfl, h⟩, ?_⟩
    rintro (h | ⟨a', h, hSecond⟩)
    · cases h
    · cases h
      exact hSecond

/-- Where the second part fails or not whatever the first gives, both fail together if one of
them fails. -/
theorem exists_bind_eq_error_iff {m : Except ε α} {f : α → Except ε β} {fails : Prop}
    (hSecond : ∀ a, (∃ e, f a = .error e) ↔ fails) :
    (∃ e, m >>= f = .error e) ↔ (∃ e, m = .error e) ∨ fails := by
  cases m with
  | error e => exact iff_of_true ⟨e, rfl⟩ (.inl ⟨e, rfl⟩)
  | ok a => exact (hSecond a).trans (or_iff_right nofun).symm

theorem map_eq_ok_iff {f : α → β} {r : Except ε α} {b : β} :
    r.map f = .ok b ↔ ∃ a, r = .ok a ∧ f a = b := by
  cases r with
  | ok a => simp [Except.map]
  | error _ => exact iff_of_false nofun nofun

theorem map_eq_error_iff {f : α → β} {r : Except ε α} {e : ε} :
    r.map f = .error e ↔ r = .error e := by
  cases r with
  | ok a => exact iff_of_false nofun nofun
  | error _ => simp only [Except.map, Except.error.injEq]

theorem mapError_eq_ok_iff {ε' : Type} {f : ε → ε'} {r : Except ε α} {a : α} :
    r.mapError f = .ok a ↔ r = .ok a := by
  cases r with
  | ok b =>
    show (Except.ok b : Except ε' α) = .ok a ↔ (Except.ok b : Except ε α) = .ok a
    rw [Except.ok.injEq, Except.ok.injEq]
  | error e =>
    refine iff_of_false (fun h => ?_) fun h => ?_
    · cases h
    · cases h

/-- All failures are of a kind. -/
def FailsOnly (P : ε → Prop) (r : Except ε α) : Prop := ∀ ⦃e : ε⦄, r = .error e → P e

namespace FailsOnly

variable {P : ε → Prop}

theorem ok (a : α) : FailsOnly P (.ok a : Except ε α) := nofun

theorem error {e : ε} (h : P e) : FailsOnly P (.error e : Except ε α) := by
  rintro _ ⟨⟩
  exact h

theorem bind {m : Except ε α} {f : α → Except ε β} (h : FailsOnly P m)
    (hNext : ∀ a, FailsOnly P (f a)) : FailsOnly P (m >>= f) := by
  intro e hRun
  rcases bind_eq_error.mp hRun with hFirst | ⟨a, -, hSecond⟩
  · exact h hFirst
  · exact hNext a hSecond

theorem map {r : Except ε α} (h : FailsOnly P r) (f : α → β) : FailsOnly P (r.map f) :=
  fun _ hRun => h (map_eq_error_iff.mp hRun)

theorem mapM {f : α → Except ε β} (h : ∀ a, FailsOnly P (f a)) :
    ∀ as : List α, FailsOnly P (as.mapM f)
  | [] => by
    rw [List.mapM_nil]
    exact ok _
  | a :: as => by
    rw [List.mapM_cons]
    exact (h a).bind fun _ => (mapM h as).bind fun _ => ok _

end FailsOnly

end

namespace RunM

variable {α β : Type}

/-- Success without a value can be read off a computed result. -/
theorem eq_ok_of_isOk {r : Except Failure Unit} (h : r.isOk = true) : r = .ok () := by
  cases r with
  | error f => cases h
  | ok a => rfl

/-- Success can be read off a computed result. -/
theorem exists_run_eq {m : RunM α} {w : World} (h : (m.run w).1.isOk = true) :
    ∃ a v, m.run w = (.ok a, v) := by
  rcases hRun : m.run w with ⟨f | a, v⟩
  · rw [hRun] at h
    cases h
  · exact ⟨a, v, rfl⟩

/-! ## Single computations -/

@[simp] theorem run_pure (a : α) (w : World) : (pure a : RunM α).run w = (.ok a, w) := rfl

@[simp] theorem run_get (w : World) : (get : RunM World).run w = (.ok w, w) := rfl

@[simp] theorem run_set (v w : World) : (set v : RunM PUnit).run w = (.ok (), v) := rfl

@[simp] theorem run_modify (f : World → World) (w : World) :
    (modify f : RunM PUnit).run w = (.ok (), f w) := rfl

@[simp] theorem run_log (level : LogLevel) (message : Text) (w : World) :
    (log level message).run w = (.ok (), w.addLog [⟨level, message⟩]) := rfl

theorem mapError_ok {ε ε' : Type} (f : ε → ε') (a : α) :
    (.ok a : Except ε α).mapError f = .ok a := rfl

/-- A step that can only crash leaves the world alone. -/
theorem run_safely (result : Except Crash α) (w : World) :
    (safely result).run w = (result.mapError .crash, w) := by
  cases result <;> rfl

/-- A result that is known already leaves the world alone. -/
theorem run_result (known : Except Failure α) (w : World) :
    (result known).run w = (known, w) := by
  cases known <;> rfl

/-! ## One computation after another -/

theorem run_bind (m : RunM α) (f : α → RunM β) (w : World) :
    (m >>= f).run w =
      match m.run w with
      | (.ok a, w') => (f a).run w'
      | (.error e, w') => (.error e, w') := by
  change ExceptT.bindCont f (m.run w).1 (m.run w).2 = _
  cases m.run w with
  | mk r w' => cases r <;> rfl

/-- How two computations in turn end, by how the first of them does. -/
theorem run_bind_fst (m : RunM α) (f : α → RunM β) (w : World) :
    ((m >>= f).run w).1 =
      match (m.run w).1 with
      | .ok a => ((f a).run (m.run w).2).1
      | .error e => .error e := by
  rw [run_bind]
  rcases m.run w with ⟨e | a, v⟩ <;> rfl

/-- Where two computations in turn succeed, each of them does. -/
theorem of_run_bind_ok {m : RunM α} {f : α → RunM β} {w v : World} {b : β}
    (h : (m >>= f).run w = (.ok b, v)) :
    ∃ a u, m.run w = (.ok a, u) ∧ (f a).run u = (.ok b, v) := by
  rw [run_bind] at h
  rcases hFirst : m.run w with ⟨e | a, u⟩
  · rw [hFirst] at h
    cases h
  · rw [hFirst] at h
    exact ⟨a, u, rfl, h⟩

theorem run_tryCatch (m : RunM α) (handler : Failure → RunM α) (w : World) :
    (tryCatch m handler).run w =
      match m.run w with
      | (.ok a, w') => (.ok a, w')
      | (.error e, w') => (handler e).run w' := by
  show (ExceptT.tryCatch m handler).run w = _
  simp only [ExceptT.tryCatch, ExceptT.run, ExceptT.mk, bind, StateT.bind]
  cases m w with
  | mk r w' => cases r <;> rfl

/-- How a computation whose failures are handled ends, by how it does without that. -/
theorem run_tryCatch_fst (m : RunM α) (handler : Failure → RunM α) (w : World) :
    ((tryCatch m handler).run w).1 =
      match (m.run w).1 with
      | .ok a => .ok a
      | .error e => ((handler e).run (m.run w).2).1 := by
  rw [run_tryCatch]
  rcases m.run w with ⟨e | a, v⟩ <;> rfl

theorem run_map (f : α → β) (m : RunM α) (w : World) :
    (f <$> m).run w = ((m.run w).1.map f, (m.run w).2) := by
  rw [map_eq_pure_bind, run_bind]
  rcases m.run w with ⟨a | e, w'⟩ <;> rfl

theorem run_discard (m : RunM α) (w : World) :
    (discard m).run w = ((m.run w).1.map fun _ => (), (m.run w).2) :=
  run_map _ m w

end RunM

end BeaconCheck
