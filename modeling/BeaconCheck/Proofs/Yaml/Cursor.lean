import BeaconCheck.Json.Reader
import BeaconCheck.Yaml.Document

/-!
# Moving through a document

What the cursor sees behind some characters, and behind white space. The white space of a document
is spaces and ends of lines; a tab, which is blank in JSON, is none.

* `Yaml.Cursor.span_append`      — the characters of a kind in front of something else.
* `Yaml.Cursor.behindWhite`      — the place behind white space.
* `Yaml.dropWhile_isWhite_append`, `Yaml.exists_tab` — blanks of JSON in a document, whose lines
  may end in different ways.
-/

namespace BeaconCheck.Yaml

namespace Cursor

variable (c : Cursor)

/-- Behind the next character is the tail of the rest. -/
@[simp]
theorem rest_next : c.next.rest = c.rest.tail := by
  unfold next
  split
  · next h => rw [h]; rfl
  · next h =>
    rw [h]
    split
    · rfl
    · split <;> rfl

/-- Skipping drops characters of the rest. -/
@[simp]
theorem rest_skip (n : Nat) : (c.skip n).rest = c.rest.drop n := by
  induction n generalizing c with
  | zero => rfl
  | succ n ih => rw [skip, ih, rest_next, List.drop_tail]

/-- To skip twice is to skip as much at once. -/
theorem skip_skip (m n : Nat) : (c.skip m).skip n = c.skip (m + n) := by
  induction m generalizing c with
  | zero => rw [Nat.zero_add]; rfl
  | succ m ih => rw [skip, ih, Nat.succ_add]; rfl

/-- The line is that many ends of lines further. -/
theorem line_skip (n : Nat) : (c.skip n).line = c.line + (c.rest.take n).countP isBreak := by
  -- by induction on the characters, each of which may end a line
  induction n generalizing c with
  | zero => rfl
  | succ n ih =>
    rw [skip, ih, rest_next]
    unfold next
    split
    · next h => rw [h, List.tail_nil, List.take_nil, List.take_nil]
    · next ch rest h =>
      rw [h, List.take_succ_cons, List.countP_cons, List.tail_cons]
      split
      · rw [Nat.add_assoc, Nat.add_comm 1]
      · split <;> rfl

/-- The index counts the characters that were skipped, as long as there are any. -/
theorem index_skip {n : Nat} (h : n ≤ c.rest.length) : (c.skip n).index = c.index + n := by
  -- by induction on the characters passed over, each of which counts as one, whatever it ends
  induction n generalizing c with
  | zero => rfl
  | succ n ih =>
    obtain ⟨ch, rest, hRest⟩ := List.exists_cons_of_length_pos (Nat.zero_lt_of_lt h)
    have hNext : c.next.index = c.index + 1 := by
      unfold next
      rw [hRest]
      simp only []
      split
      · rfl
      · split <;> rfl
    rw [skip, ih, hNext, Nat.add_assoc, Nat.add_comm 1]
    rw [rest_next, hRest, List.tail_cons]
    rw [hRest, List.length_cons] at h
    exact Nat.le_of_succ_le_succ h

variable {c}

/-- The characters of a kind in front of something else. -/
theorem span_append {p : Char → Bool} {front behind : List Char} (h : c.rest = front ++ behind)
    (hFront : ∀ ch ∈ front, p ch = true) (hBehind : ∀ ch ∈ behind.head?, p ch = false) :
    c.span p = (front, c.skip front.length) := by
  have hTaken : c.rest.takeWhile p = front := by
    rw [h, List.takeWhile_append_of_pos hFront]
    cases behind with
    | nil => exact List.append_nil front
    | cons ch behind =>
      rw [List.takeWhile_cons_of_neg (by rw [hBehind ch rfl]; exact Bool.false_ne_true),
        List.append_nil]
  rw [span, hTaken]

/-- A line ends at a character that ends one. -/
theorem lineBreak?_cons {ch : Char} {behind : List Char} (h : c.rest = ch :: behind) :
    c.lineBreak? = if isBreak ch then some (breakText ch, c.next) else none := by
  rw [lineBreak?, peek, h]
  rfl

/-- Only the mark itself starts a mark. -/
theorem atMarker_of_head {ch : Char} {behind : List Char} (h : c.rest = ch :: behind)
    (hNe : ch ≠ '-' ∧ ch ≠ '.') : c.atMarker = false := by
  -- a marker repeats one of the two characters, from the first one on
  have hMark {mark : Char} (hNe : ch ≠ mark) : c.isMarker mark = false := by
    unfold isMarker
    rw [h]
    split
    · next hText =>
      obtain ⟨rfl, -⟩ := List.cons.inj hText
      rw [beq_eq_false_iff_ne.mpr hNe]
      rfl
    · rfl
  rw [atMarker, hMark hNe.1, hMark hNe.2]
  rfl

end Cursor

/-! ## White space -/

/-- A space or the end of a line. -/
def isWhite (c : Char) : Bool := c == ' ' || isBreak c

theorem isWhite_of_isBreak {c : Char} (h : isBreak c = true) : isWhite c = true := by
  rw [isWhite, h, Bool.or_true]

namespace Document

/-- Any character but a carriage return stays what it is. -/
theorem unifyLineEnds_cons {c : Char} (h : c ≠ '\r') (text : List Char) :
    unifyLineEnds (c :: text) = c :: unifyLineEnds text := by
  rw [unifyLineEnds]
  · exact fun rest hText _ => h hText
  · exact fun hText => h hText

/-- What has no carriage returns stays as it is. -/
theorem unifyLineEnds_append {front : List Char} (h : ∀ c ∈ front, c ≠ '\r') (text : List Char) :
    unifyLineEnds (front ++ text) = front ++ unifyLineEnds text := by
  induction front with
  | nil => rfl
  | cons c front ih =>
    obtain ⟨hFirst, hMore⟩ := List.forall_mem_cons.mp h
    rw [List.cons_append, unifyLineEnds_cons hFirst, ih hMore]
    rfl

/-- A carriage return ends a line, together with a line feed behind it. -/
theorem exists_unifyLineEnds_return (text : List Char) :
    ∃ rest, unifyLineEnds ('\r' :: text) = '\n' :: unifyLineEnds rest ∧
      (text = rest ∨ text = '\n' :: rest) := by
  cases text with
  | nil => exact ⟨[], rfl, .inl rfl⟩
  | cons c text =>
    -- a return with a line feed behind it is one line end
    by_cases h : c = '\n'
    · subst h
      exact ⟨text, rfl, .inr rfl⟩
    · refine ⟨c :: text, ?_, .inl rfl⟩
      rw [unifyLineEnds]
      intro rest hText
      exact h (List.cons.inj hText).1

end Document

open Document Json

/-- The blanks of JSON apart from tabs. -/
theorem blank_cases {c : Char} (hBlank : Json.isBlank c = true) (hTab : c ≠ '\t') :
    c = ' ' ∨ c = '\n' ∨ c = '\r' := by
  have hKinds : ((c = ' ' ∨ c = '\t') ∨ c = '\n') ∨ c = '\r' := by
    simpa [Json.isBlank] using hBlank
  rcases hKinds with ((h | h) | h) | h
  · exact .inl h
  · exact absurd h hTab
  · exact .inr (.inl h)
  · exact .inr (.inr h)

/-- A text that begins with a blank begins with one in a document. -/
theorem exists_unifyLineEnds_blank {c : Char} (hBlank : Json.isBlank c = true) (text : List Char) :
    ∃ d rest, unifyLineEnds (c :: text) = d :: rest ∧ isBlank d = true := by
  by_cases hTab : c = '\t'
  · exact ⟨'\t', _, by rw [hTab, unifyLineEnds_cons (by decide)], rfl⟩
  · rcases blank_cases hBlank hTab with rfl | rfl | rfl
    · exact ⟨' ', _, unifyLineEnds_cons (by decide) text, rfl⟩
    · exact ⟨'\n', _, unifyLineEnds_cons (by decide) text, rfl⟩
    · obtain ⟨rest, hUnified, -⟩ := exists_unifyLineEnds_return text
      exact ⟨'\n', _, hUnified, rfl⟩

/-- A blank that is no tab is passed over, however its line ends. -/
theorem dropWhile_isWhite_cons {c : Char} (hBlank : Json.isBlank c = true) (hTab : c ≠ '\t')
    (text : List Char) :
    (unifyLineEnds (c :: text)).dropWhile isWhite = (unifyLineEnds text).dropWhile isWhite := by
  rcases blank_cases hBlank hTab with rfl | rfl | rfl
  · rw [unifyLineEnds_cons (by decide), List.dropWhile_cons_of_pos (by decide)]
  · rw [unifyLineEnds_cons (by decide), List.dropWhile_cons_of_pos (by decide)]
  · obtain ⟨rest, hUnified, hRest⟩ := exists_unifyLineEnds_return text
    rw [hUnified, List.dropWhile_cons_of_pos (by decide)]
    rcases hRest with rfl | rfl
    · rfl
    · rw [unifyLineEnds_cons (by decide), List.dropWhile_cons_of_pos (by decide)]

/-- White space in front of a text is passed over. -/
theorem dropWhile_isWhite_append {blanks : List Char} (h : ∀ c ∈ blanks, Json.isBlank c = true)
    (hTab : '\t' ∉ blanks) (text : List Char) :
    (unifyLineEnds (blanks ++ text)).dropWhile isWhite =
      (unifyLineEnds text).dropWhile isWhite := by
  induction blanks with
  | nil => rfl
  | cons c blanks ih =>
    obtain ⟨hFirst, hMore⟩ := List.forall_mem_cons.mp h
    obtain ⟨hNe, hNotMem⟩ := not_or.mp (mt List.mem_cons.mpr hTab)
    rw [List.cons_append, dropWhile_isWhite_cons hFirst (Ne.symm hNe), ih hMore hNotMem]

/-- White space ends at a tab. -/
theorem exists_tab {blanks : List Char} (h : ∀ c ∈ blanks, Json.isBlank c = true)
    (hTab : '\t' ∈ blanks) (text : List Char) :
    ∃ rest, (unifyLineEnds (blanks ++ text)).dropWhile isWhite = '\t' :: rest := by
  -- by induction on the blanks: those in front of the first tab are passed over
  induction blanks with
  | nil => cases hTab
  | cons c blanks ih =>
    obtain ⟨hFirst, hMore⟩ := List.forall_mem_cons.mp h
    by_cases hNe : c = '\t'
    · subst hNe
      refine ⟨unifyLineEnds (blanks ++ text), ?_⟩
      rw [List.cons_append, unifyLineEnds_cons (by decide), List.dropWhile_cons_of_neg (by decide)]
    · obtain ⟨rest, hRest⟩ := ih hMore ((List.mem_cons.mp hTab).resolve_left (Ne.symm hNe))
      exact ⟨rest, by rw [List.cons_append, dropWhile_isWhite_cons hFirst hNe, hRest]⟩

/-- Among blanks where a line ends there is an end of a line in the white space. -/
theorem any_isBreak_takeWhile {blanks : List Char} (h : ∀ c ∈ blanks, Json.isBlank c = true)
    (hTab : '\t' ∉ blanks) (hBreak : blanks.any isBreak = true) (text : List Char) :
    ((unifyLineEnds (blanks ++ text)).takeWhile isWhite).any isBreak = true := by
  -- by induction on the blanks, up to the first line end among them, however it is written
  induction blanks with
  | nil => cases hBreak
  | cons c blanks ih =>
    obtain ⟨hFirst, hMore⟩ := List.forall_mem_cons.mp h
    obtain ⟨hNe, hNotMem⟩ := not_or.mp (mt List.mem_cons.mpr hTab)
    have hLine (text : List Char) : (('\n' :: text).takeWhile isWhite).any isBreak = true := by
      rw [List.takeWhile_cons_of_pos (by decide)]
      rfl
    rcases blank_cases hFirst (Ne.symm hNe) with rfl | rfl | rfl
    · rw [List.cons_append, unifyLineEnds_cons (by decide), List.takeWhile_cons_of_pos (by decide)]
      exact ih hMore hNotMem hBreak
    · rw [List.cons_append, unifyLineEnds_cons (by decide)]
      exact hLine _
    · obtain ⟨rest, hUnified, -⟩ := exists_unifyLineEnds_return (blanks ++ text)
      rw [List.cons_append, hUnified]
      exact hLine _

/-- Blanks on one line are white space as they are. -/
theorem takeWhile_isWhite_append {blanks : List Char} (h : ∀ c ∈ blanks, Json.isBlank c = true)
    (hTab : '\t' ∉ blanks) (hBreak : blanks.any isBreak = false) {ch : Char}
    (hCh : isWhite ch = false ∧ ch ≠ '\r') (text : List Char) :
    (unifyLineEnds (blanks ++ ch :: text)).takeWhile isWhite = blanks := by
  -- without a tab and a line end all blanks are spaces, which stay as they are
  have hSpaces : ∀ c ∈ blanks, c = ' ' := by
    intro c hc
    have hNoBreak := List.any_eq_false.mp hBreak c hc
    rcases blank_cases (h c hc) (fun h => hTab (h ▸ hc)) with rfl | rfl | rfl
    · rfl
    · exact absurd rfl hNoBreak
    · exact absurd rfl hNoBreak
  have hReturn : ∀ c ∈ blanks, c ≠ '\r' := by
    intro c hc
    rw [hSpaces c hc]
    decide
  have hWhite : ∀ c ∈ blanks, isWhite c = true := by
    intro c hc
    rw [hSpaces c hc]
    rfl
  rw [unifyLineEnds_append hReturn, unifyLineEnds_cons hCh.2, List.takeWhile_append_of_pos hWhite,
    List.takeWhile_cons_of_neg (by rw [hCh.1]; exact Bool.false_ne_true), List.append_nil]

/-- The place behind white space. -/
def Cursor.behindWhite (c : Cursor) : Cursor :=
  c.skip (c.rest.takeWhile isWhite).length

/-- Behind white space is the rest without the white space in front. -/
theorem Cursor.rest_behindWhite (c : Cursor) : c.behindWhite.rest = c.rest.dropWhile isWhite := by
  rw [behindWhite, rest_skip]
  exact (congrArg (List.drop _) List.takeWhile_append_dropWhile.symm).trans (List.drop_left)

/-- Some of the white space may have been passed over before. -/
theorem Cursor.behindWhite_skip {c : Cursor} {front rest : List Char} (h : c.rest = front ++ rest)
    (hFront : ∀ ch ∈ front, isWhite ch = true) :
    (c.skip front.length).behindWhite = c.behindWhite := by
  rw [behindWhite, rest_skip, h, List.drop_left, skip_skip, behindWhite, h,
    List.takeWhile_append_of_pos hFront, List.length_append]

/-- Where no white space is, the cursor stays. -/
theorem Cursor.behindWhite_of_head {c : Cursor} (h : ∀ ch ∈ c.rest.head?, isWhite ch = false) :
    c.behindWhite = c := by
  have hNone : c.rest.takeWhile isWhite = [] := by
    cases hRest : c.rest with
    | nil => rfl
    | cons ch rest =>
      rw [hRest] at h
      exact List.takeWhile_cons_of_neg (by rw [h ch rfl]; exact Bool.false_ne_true)
  rw [behindWhite, hNone]
  rfl

end BeaconCheck.Yaml
