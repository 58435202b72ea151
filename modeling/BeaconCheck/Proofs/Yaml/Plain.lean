import BeaconCheck.Proofs.Yaml.Cursor
import BeaconCheck.Yaml.Scalar
import Mathlib.Data.Bool.AllAny

/-!
# Plain scalars in documents

A word between what ends plain scalars is a plain scalar: blanks, and inside of brackets also
commas and the ends of brackets. Reading it takes some of the white space behind it along.

* `Yaml.IsPlain`, `Yaml.EndsPlain` — the characters of words, and those that end them.
* `Yaml.plain_word`                — the plain scalar that is a word.
-/

namespace BeaconCheck.Yaml

/-- A character that a plain scalar goes on with, wherever it is. -/
def IsPlain (ch : Char) : Prop :=
  isBlank ch = false ∧ ch ∉ ":#,?[]\x7b\x7d".toList

instance (ch : Char) : Decidable (IsPlain ch) :=
  inferInstanceAs (Decidable (_ ∧ _))

/-- A character that a plain scalar ends at. -/
def EndsPlain (flow : Bool) (ch : Char) : Prop :=
  isBlank ch = true ∨ flow = true ∧ ch ∈ ",]\x7d".toList

variable {flow : Bool} {c : Cursor} {word behind : List Char}

/-- A run of plain characters ends where a word does. -/
theorem plainRun_behind (h : ∀ ch ∈ behind.head?, EndsPlain flow ch) : plainRun flow behind = [] := by
  cases behind with
  | nil => rfl
  | cons ch behind =>
    rw [plainRun]
    refine if_pos ?_
    -- the run ends at a blank, or within brackets at one of their marks
    rcases h ch rfl with hBlank | ⟨rfl, hMark⟩
    · rw [hBlank]
      rfl
    · have hAll : ∀ ch ∈ ",]\x7d".toList, decide (ch ∈ ",?[]\x7b\x7d".toList) = true :=
        List.all_iff_forall_prop.mp (by decide)
      rw [String.contains_char_eq, hAll ch hMark, Bool.and_true, Bool.or_true]

/-- A word is one run. -/
theorem plainRun_append (hWord : ∀ ch ∈ word, IsPlain ch)
    (hBehind : ∀ ch ∈ behind.head?, EndsPlain flow ch) : plainRun flow (word ++ behind) = word := by
  -- by induction on the word, none of whose characters can end it
  induction word with
  | nil => exact plainRun_behind hBehind
  | cons ch word ih =>
    obtain ⟨⟨hBlank, hMark⟩, hMore⟩ := List.forall_mem_cons.mp hWord
    have hColon : (ch == ':') = false := by
      rw [beq_eq_false_iff_ne]
      rintro rfl
      exact hMark (by decide)
    have hFlow : decide (ch ∈ ",?[]\x7b\x7d".toList) = false := by
      rw [decide_eq_false_iff_not]
      intro hMem
      have hAll : ∀ ch ∈ ",?[]\x7b\x7d".toList, ch ∈ ":#,?[]\x7b\x7d".toList :=
        List.all_iff_forall_prop.mp (by decide)
      exact hMark (hAll ch hMem)
    rw [List.cons_append, plainRun]
    simp only [hBlank, hColon, Bool.false_and, Bool.or_false, String.contains_char_eq, hFlow,
      Bool.and_false, Bool.false_eq_true, if_false, ih hMore]

/-! ## White space behind a word -/

/-- A place that is reached over white space only. -/
def Passes (c c' : Cursor) : Prop :=
  ∃ white, (∀ ch ∈ white, isWhite ch = true) ∧ c.rest = white ++ c'.rest ∧
    c' = c.skip white.length

namespace Passes

theorem refl (c : Cursor) : Passes c c := ⟨[], nofun, rfl, rfl⟩

/-- What is passed in two parts is passed. -/
theorem trans {c c' c'' : Cursor} (h : Passes c c') (h' : Passes c' c'') : Passes c c'' := by
  obtain ⟨white, hWhite, hRest, hSkip⟩ := h
  obtain ⟨white', hWhite', hRest', hSkip'⟩ := h'
  refine ⟨white ++ white', List.forall_mem_append.mpr ⟨hWhite, hWhite'⟩, ?_, ?_⟩
  · rw [hRest, hRest', List.append_assoc]
  · rw [hSkip', hSkip, Cursor.skip_skip, List.length_append]

/-- One white character can be passed. -/
theorem next {ch : Char} {rest : List Char} (h : c.rest = ch :: rest) (hWhite : isWhite ch = true) :
    Passes c c.next :=
  ⟨[ch], List.forall_mem_singleton.mpr hWhite, by rw [Cursor.rest_next, h]; rfl, rfl⟩

/-- The end of a line can be passed. -/
theorem lineBreak? {b : Char} {after : Cursor} (h : c.lineBreak? = some (b, after)) :
    Passes c after := by
  -- a line end is white, so that passing over it passes over nothing else
  unfold Cursor.lineBreak? at h
  split at h
  · next ch hPeek =>
    split at h
    · next hBreak =>
      obtain ⟨-, rfl⟩ := Prod.mk.inj (Option.some.inj h)
      obtain ⟨rest, hRest⟩ := List.head?_eq_some_iff.mp hPeek
      exact next hRest (isWhite_of_isBreak hBreak)
    · cases h
  · cases h

/-- Line ends behind a plain scalar are passed. -/
theorem plainBreaks (fuel : Nat) (breaks : List Char) :
    Passes c (Yaml.plainBreaks fuel breaks c).2 := by
  -- by induction on the fuel: line ends and spaces are passed over one at a time
  induction fuel generalizing breaks c with
  | zero => exact refl c
  | succ fuel ih =>
    rw [Yaml.plainBreaks]
    split
    · next hLine =>
      split
      · exact lineBreak? hLine
      · exact (lineBreak? hLine).trans (ih _)
    · split
      · next hSpace =>
        obtain ⟨rest, hRest⟩ := List.head?_eq_some_iff.mp hSpace
        exact (next hRest rfl).trans (ih _)
      · exact refl c

/-- Reading on behind a word passes over nothing but white space. -/
theorem plainSpaces (c : Cursor) : Passes c (Yaml.plainSpaces c).2.2 := by
  have hSpaces : Passes c (c.span (· == ' ')).2 := by
    refine ⟨c.rest.takeWhile (· == ' '), fun ch hMem => ?_, ?_, rfl⟩
    · have hSpace := List.all_eq_true.mp List.all_takeWhile ch hMem
      rw [beq_iff_eq.mp hSpace]
      rfl
    · rw [Cursor.span, Cursor.rest_skip]
      have hSplit : c.rest = c.rest.takeWhile (· == ' ') ++ c.rest.dropWhile (· == ' ') :=
        List.takeWhile_append_dropWhile.symm
      exact hSplit.trans (congrArg _ ((congrArg _ hSplit).trans List.drop_left).symm)
  -- behind the spaces there is at most one line end, and then breaks and spaces
  rw [Yaml.plainSpaces]
  rcases hSpan : c.span (· == ' ') with ⟨spaces, c'⟩
  rw [hSpan] at hSpaces
  simp only []
  split
  · exact hSpaces
  · next after hLine =>
    have hAfter := hSpaces.trans (lineBreak? hLine)
    split
    · exact hAfter
    · have hBreaks := plainBreaks (c := after) (after.rest.length + 1) []
      split
      · next hRead => rw [hRead] at hBreaks; exact hAfter.trans hBreaks
      · next hRead => rw [hRead] at hBreaks; exact hAfter.trans hBreaks

/-- Whatever white space is passed, behind all of it is the same place. -/
theorem behindWhite {c' : Cursor} (h : Passes c c') : c'.behindWhite = c.behindWhite := by
  obtain ⟨white, hWhite, hRest, hSkip⟩ := h
  rw [hSkip]
  exact Cursor.behindWhite_skip hRest hWhite

/-- Passing does not go back. -/
theorem length_le {c' : Cursor} (h : Passes c c') : c'.rest.length ≤ c.rest.length := by
  obtain ⟨white, -, hRest, -⟩ := h
  rw [hRest, List.length_append]
  exact Nat.le_add_left _ _

end Passes

/-- **A word is a plain scalar**, if what is behind it and behind the white space ends it. -/
theorem plain_word (indent : Int) (h : c.rest = word ++ behind) (hThere : word ≠ [])
    (hWord : ∀ ch ∈ word, IsPlain ch) (hBehind : ∀ ch ∈ behind.head?, EndsPlain flow ch)
    (hWhite : ∀ ch ∈ (behind.dropWhile isWhite).head?, EndsPlain flow ch) :
    ∃ broken c', plain flow indent c = (word, broken, c') ∧ Passes (c.skip word.length) c' := by
  have hRun : plainRun flow c.rest = word := by rw [h, plainRun_append hWord hBehind]
  have hNoComment : c.peek ≠ some '#' := by
    obtain ⟨first, more, rfl⟩ := List.exists_cons_of_ne_nil hThere
    rw [Cursor.peek, h]
    rintro ⟨⟩
    exact (hWord _ List.mem_cons_self).2 (by decide)
  have hSpaces := Passes.plainSpaces (c.skip word.length)
  rcases hRead : plainSpaces (c.skip word.length) with ⟨spaces, broken, c'⟩
  rw [hRead] at hSpaces
  refine ⟨broken, c', ?_, hSpaces⟩
  -- there is nothing more of the scalar behind the white space
  have hNone : plainRun flow c'.rest = [] := by
    refine plainRun_behind fun ch hMem => ?_
    cases hWhiteCh : isWhite ch with
    | true =>
      left
      rcases Bool.or_eq_true_iff.mp hWhiteCh with hSpace | hBreak
      · rw [beq_iff_eq.mp hSpace]
        rfl
      · rw [isBlank, hBreak, Bool.or_true]
    | false =>
      refine hWhite ch ?_
      have hRest : c'.behindWhite.rest = behind.dropWhile isWhite := by
        rw [hSpaces.behindWhite, Cursor.rest_behindWhite, Cursor.rest_skip, h, List.drop_left]
      rw [← hRest, Cursor.behindWhite_of_head]
      · exact hMem
      · intro d hd
        rw [← Option.some.inj (hMem.symm.trans hd)]
        exact hWhiteCh
  obtain ⟨fuel, hFuel⟩ : ∃ fuel, c.rest.length = fuel + 1 := by
    obtain ⟨first, more, rfl⟩ := List.exists_cons_of_ne_nil hThere
    exact ⟨_, by rw [h]; rfl⟩
  have hFirst : (decide (c.peek = some '#') || word.isEmpty) = false := by
    rw [Bool.or_eq_false_iff]
    exact ⟨decide_eq_false hNoComment, by simpa using hThere⟩
  have hLast (text spaces : List Char) : plainRuns flow (indent + 1) (fuel + 1) text spaces broken c' =
      (text, broken, c') := by
    rw [plainRuns, hNone]
    simp only [List.isEmpty_nil, Bool.or_true, if_true]
  rw [plain, hFuel, plainRuns, hRun]
  simp only [hFirst, Bool.false_eq_true, if_false, List.nil_append, hRead, hLast, ite_self]

end BeaconCheck.Yaml
