import Mathlib.Data.List.TakeWhile
import BeaconCheck.Query

/-!
# Cutting queries

How a URL and its query are cut at marks: where a mark stands for the first time, and at every
mark. A text that a mark is put behind is cut off there if the mark is not in it.

* `Query.cut?_append`    — the first mark is the one behind a text without it.
* `Query.splitAt_append` — the pieces of two texts with a mark between them.
* `Query.before_append`  — what is in front of the first mark.
* `Query.ofUrl?_append`  — the query of a URL is behind its first question mark.
* `Query.params_eq_ok_iff` — the parameters of a URL are those of its query.
-/

namespace BeaconCheck.Query

variable {mark : Char} {text : List Char}

/-- The first mark is the one behind a text that the mark is not in. -/
theorem cut?_append (h : mark ∉ text) (rest : List Char) :
    cut? mark (text ++ mark :: rest) = some (text, rest) := by
  induction text with
  | nil => exact if_pos rfl
  | cons c text ih =>
    obtain ⟨hFirst, hText⟩ := not_or.mp (mt List.mem_cons.mpr h)
    rw [List.cons_append, cut?, if_neg (Ne.symm hFirst), ih hText]
    rfl

/-- There is at least one piece. -/
theorem splitAt_ne_nil (mark : Char) (text : List Char) : splitAt mark text ≠ [] := by
  cases text with
  | nil => exact List.cons_ne_nil _ _
  | cons c text =>
    rw [splitAt]
    split
    · exact List.cons_ne_nil _ _
    · split <;> exact List.cons_ne_nil _ _

/-- **The pieces of two texts with a mark between them** are those of the one and those of the
other: no piece reaches across a mark. -/
theorem splitAt_append (mark : Char) (text rest : List Char) :
    splitAt mark (text ++ mark :: rest) = splitAt mark text ++ splitAt mark rest := by
  -- by induction on the text, which is cut at the same places whatever is behind it
  induction text with
  | nil => exact if_pos rfl
  | cons c text ih =>
    rw [List.cons_append, splitAt, splitAt, ih]
    split
    · rfl
    · -- the character is put to the first piece of the text, and there is one
      cases hPieces : splitAt mark text with
      | nil => exact absurd hPieces (splitAt_ne_nil mark text)
      | cons piece more => rfl

/-- A text without the mark is one piece. -/
theorem splitAt_of_not_mem (h : mark ∉ text) : splitAt mark text = [text] := by
  induction text with
  | nil => rfl
  | cons c text ih =>
    obtain ⟨hFirst, hText⟩ := not_or.mp (mt List.mem_cons.mpr h)
    rw [splitAt, if_neg (Ne.symm hFirst), ih hText]

/-- No character of a text without the mark ends what is in front of the mark. -/
theorem bne_of_not_mem (h : mark ∉ text) : ∀ c ∈ text, (c != mark) = true := by
  intro c hc
  rw [bne_iff_ne]
  rintro rfl
  exact h hc

/-- Up to a mark behind it, a text is in front of the first mark if the mark is not in it. -/
theorem before_append (h : mark ∉ text) (rest : List Char) :
    before mark (text ++ mark :: rest) = text := by
  rw [before, List.takeWhile_append_of_pos (bne_of_not_mem h),
    List.takeWhile_cons_of_neg (by simp), List.append_nil]

theorem before_of_not_mem (h : mark ∉ text) : before mark text = text :=
  List.takeWhile_eq_self_iff.mpr (bne_of_not_mem h)

/-- The pieces of a query in two parts. -/
theorem pieces_append (text rest : List Char) :
    pieces (text ++ '&' :: rest) = pieces text ++ pieces rest := by
  rw [pieces, splitAt_append, List.filter_append, List.map_append]
  rfl

/-! ## The query of a URL -/

/-- The mark is looked for behind a text that has none. -/
theorem cut?_append_of_not_mem (h : mark ∉ text) (rest : List Char) :
    cut? mark (text ++ rest) = (cut? mark rest).map fun p => (text ++ p.1, p.2) := by
  induction text with
  | nil => simp
  | cons c text ih =>
    obtain ⟨hFirst, hText⟩ := not_or.mp (mt List.mem_cons.mpr h)
    rw [List.cons_append, cut?, if_neg (Ne.symm hFirst), ih hText, Option.map_map]
    rfl

/-- What is in front of the first question mark makes no difference to the query. -/
theorem ofUrl?_append_of_not_mem (h : '?' ∉ text) (rest : List Char) :
    ofUrl? (text ++ rest) = ofUrl? rest := by
  rw [ofUrl?, ofUrl?, cut?_append_of_not_mem h, Option.map_map]
  rfl

/-- **The query is behind the first question mark**, up to the next hash. -/
theorem ofUrl?_append (h : '?' ∉ text) (rest : List Char) :
    ofUrl? (text ++ '?' :: rest) = some (before '#' rest) := by
  rw [ofUrl?, cut?_append h]
  rfl

/-- A URL without a question mark has no query. -/
theorem ofUrl?_of_not_mem (h : '?' ∉ text) : ofUrl? text = none := by
  have hEnd : ofUrl? (text ++ []) = none := ofUrl?_append_of_not_mem h []
  rwa [List.append_nil] at hEnd

/-- **The parameters of a URL are those of its query**, if it has one that is not empty. -/
theorem params_eq_ok_iff {url : String} {found : Params} :
    params url = .ok found ↔ ∃ query ps, ofUrl? url.toList = some query ∧ query ≠ [] ∧
      pairs query = .ok ps ∧ found = Entries.ofPairs ps := by
  unfold params
  rcases ofUrl? url.toList with _ | ⟨_ | ⟨c, rest⟩⟩
  · simp
  · simp
  · cases hPairs : pairs (c :: rest) with
    | error fault => simp [hPairs]
    | ok ps => simp [hPairs, eq_comm]

end BeaconCheck.Query
