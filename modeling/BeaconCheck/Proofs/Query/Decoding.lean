import BeaconCheck.Proofs.Computation
import BeaconCheck.Proofs.Query.Cutting
import BeaconCheck.Proofs.Text.Utf8

/-!
# Names and values that cannot be decoded

In a name or a value each run of ASCII characters is decoded by itself: its escapes are replaced by
the bytes that they stand for, which have to be UTF-8. So a text cannot be decoded exactly if this
fails for one of its runs, and nothing else in the text matters to that run, be it another run or a
character between two of them.

* `Query.IsAsciiRun`                     — the runs of ASCII characters that cannot be made longer.
* `Query.Undecodable`                    — one of them is not unescaped to UTF-8.
* `Query.exists_decodeText_eq_error_iff` — these are the texts that cannot be decoded.
* `Query.exists_decodePair_eq_error_iff` — a pair cannot be if its name or its value cannot.
-/

namespace BeaconCheck.Query

/-! ## Runs of ASCII characters -/

/-- The run is a part of the text, of ASCII characters only, that cannot be made longer: it is not
empty, and on either side of it the text ends or has a character that is not ASCII. -/
def IsAsciiRun (text run : List Char) : Prop :=
  run ≠ [] ∧ (∀ c ∈ run, isAscii c = true) ∧ ∃ before behind, text = before ++ (run ++ behind) ∧
    (∀ c ∈ before.getLast?, isAscii c = false) ∧ ∀ c ∈ behind.head?, isAscii c = false

variable {text run front rest : List Char} {c : Char}

/-- A part that ends at a character that is not ASCII is empty if it has no such character. -/
theorem eq_nil_of_getLast? (hAscii : ∀ c ∈ text, isAscii c = true)
    (hLast : ∀ c ∈ text.getLast?, isAscii c = false) : text = [] := by
  by_contra hSome
  have hMem := List.getLast?_eq_some_getLast hSome
  have hNot := hLast _ hMem
  rw [hAscii _ (List.getLast_mem hSome)] at hNot
  cases hNot

/-- So is a part that begins with one. -/
theorem eq_nil_of_head? (hAscii : ∀ c ∈ text, isAscii c = true)
    (hHead : ∀ c ∈ text.head?, isAscii c = false) : text = [] := by
  cases text with
  | nil => rfl
  | cons c text =>
    have hNot := hHead c rfl
    rw [hAscii c List.mem_cons_self] at hNot
    cases hNot

/-- The only run of a text of ASCII characters is the text. -/
theorem isAsciiRun_of_ascii (hAscii : ∀ c ∈ text, isAscii c = true) :
    IsAsciiRun text run ↔ run = text ∧ text ≠ [] := by
  constructor
  · rintro ⟨hSome, -, before, behind, rfl, hBefore, hBehind⟩
    obtain rfl : before = [] :=
      eq_nil_of_getLast? (fun c h => hAscii c (List.mem_append_left _ h)) hBefore
    obtain rfl : behind = [] :=
      eq_nil_of_head? (fun c h => hAscii c (List.mem_append_right run h)) hBehind
    simpa using hSome
  · rintro ⟨rfl, hSome⟩
    exact ⟨hSome, hAscii, [], [], by simp, by simp, by simp⟩

/-- Where a text in two parts is cut: in the first part, or behind the character between them. -/
theorem append_cons_eq_append {before behind : List Char}
    (h : front ++ c :: rest = before ++ behind) :
    (∃ more, front = before ++ more ∧ behind = more ++ c :: rest) ∨
      ∃ more, before = front ++ c :: more ∧ rest = more ++ behind := by
  rcases List.append_eq_append_iff.mp h with ⟨more, hBefore, hMore⟩ | ⟨more, hFront, hBehind⟩
  · cases more with
    | nil => exact .inl ⟨[], by simpa using hBefore.symm, by simpa using hMore.symm⟩
    | cons d more =>
      obtain ⟨rfl, hRest⟩ := List.cons.inj hMore
      exact .inr ⟨more, hBefore, hRest⟩
  · exact .inl ⟨more, hFront, hBehind⟩

/-- **The runs of a text that a character divides** which is not ASCII: the part in front of it, if
that is ASCII and not empty, and the runs of the part behind it. -/
theorem isAsciiRun_append_cons (hFront : ∀ c ∈ front, isAscii c = true)
    (hc : isAscii c = false) :
    IsAsciiRun (front ++ c :: rest) run ↔ (run = front ∧ front ≠ []) ∨ IsAsciiRun rest run := by
  constructor
  · rintro ⟨hSome, hAscii, before, behind, hText, hBefore, hBehind⟩
    rcases append_cons_eq_append hText with ⟨more, rfl, hRun⟩ | ⟨more, rfl, hRest⟩
    · -- the run begins in front of the character, so it begins where the text does
      obtain rfl : before = [] :=
        eq_nil_of_getLast? (fun d h => hFront d (List.mem_append_left _ h)) hBefore
      rcases append_cons_eq_append hRun.symm with ⟨others, rfl, rfl⟩ | ⟨others, rfl, -⟩
      · have hNone : others = [] := by
          refine eq_nil_of_head? (fun d h => hFront d ?_) fun d h => hBehind d ?_
          · exact List.mem_append_right _ (List.mem_append_right _ h)
          · rw [List.head?_append, h]
            rfl
        subst hNone
        exact .inl (by simpa using hSome)
      · -- it does not reach across the character
        rw [hAscii c (by simp)] at hc
        cases hc
    · -- it begins behind the character, and is one of the runs there
      refine .inr ⟨hSome, hAscii, more, behind, hRest, fun d h => hBefore d ?_, hBehind⟩
      rw [List.getLast?_append, List.getLast?_cons, h]
      rfl
  · rintro (⟨rfl, hSome⟩ | ⟨hSome, hAscii, before, behind, rfl, hBefore, hBehind⟩)
    · exact ⟨hSome, hFront, [], c :: rest, rfl, by simp, by simpa using hc⟩
    · refine ⟨hSome, hAscii, front ++ c :: before, behind, by simp, fun d h => ?_, hBehind⟩
      rw [List.getLast?_append, List.getLast?_cons] at h
      cases hLast : before.getLast? with
      | none =>
        obtain rfl : c = d := by simpa [hLast] using h
        exact hc
      | some e =>
        obtain rfl : e = d := by simpa [hLast] using h
        exact hBefore e hLast

/-! ## Decoding a text -/

/-- A run of the text is not unescaped to UTF-8. -/
def HasBrokenRun (text : List Char) : Prop :=
  ∃ run, IsAsciiRun text run ∧ ¬ Utf8.IsValid (unescape run)

/-- A text that is a run, or empty, is broken if it is not unescaped to UTF-8: no characters are
unescaped to no bytes. -/
theorem exists_broken_iff (text : List Char) :
    (∃ run, (run = text ∧ text ≠ []) ∧ ¬ Utf8.IsValid (unescape run)) ↔
      ¬ Utf8.IsValid (unescape text) := by
  constructor
  · rintro ⟨run, ⟨rfl, -⟩, hBroken⟩
    exact hBroken
  · refine fun hBroken => ⟨text, ⟨rfl, fun hNone => hBroken ?_⟩, hBroken⟩
    rw [hNone]
    exact ⟨[], rfl⟩

/-- A text of ASCII is one run. -/
theorem hasBrokenRun_of_ascii (hAscii : ∀ c ∈ text, isAscii c = true) :
    HasBrokenRun text ↔ ¬ Utf8.IsValid (unescape text) := by
  simp only [HasBrokenRun, isAsciiRun_of_ascii hAscii, exists_broken_iff]

/-- A run ends at the first character that is not ASCII. -/
theorem hasBrokenRun_append_cons (hFront : ∀ c ∈ front, isAscii c = true)
    (hc : isAscii c = false) :
    HasBrokenRun (front ++ c :: rest) ↔ ¬ Utf8.IsValid (unescape front) ∨ HasBrokenRun rest := by
  simp only [HasBrokenRun, isAsciiRun_append_cons hFront hc, or_and_right, exists_or,
    exists_broken_iff]

/-- Decoding fails exactly at a broken run, where the ASCII characters that were collected belong
to the first run. -/
theorem exists_decodeRuns_eq_error_iff (hRun : ∀ c ∈ run, isAscii c = true) :
    (∃ fault, decodeRuns run text = .error fault) ↔ HasBrokenRun (run.reverse ++ text) := by
  -- by induction on the text, with the run that was begun held in reverse
  induction text generalizing run with
  | nil =>
    have hReverse : ∀ c ∈ run.reverse ++ [], isAscii c = true := by simpa using hRun
    rw [decodeRuns, Utf8.exists_decode_eq_error_iff, hasBrokenRun_of_ascii hReverse,
      List.append_nil]
  | cons c text ih =>
    rw [decodeRuns]
    by_cases hc : isAscii c = true
    · -- the run goes on
      rw [if_pos hc, ih (List.forall_mem_cons.mpr ⟨hc, hRun⟩), List.reverse_cons,
        List.append_assoc]
      rfl
    · -- the run ends, and another begins behind the character
      have hReverse : ∀ c ∈ run.reverse, isAscii c = true := by simpa using hRun
      rw [if_neg hc, hasBrokenRun_append_cons hReverse (Bool.eq_false_iff.mpr hc),
        ← Utf8.exists_decode_eq_error_iff]
      refine exists_bind_eq_error_iff fun decoded => ?_
      exact (exists_congr fun fault => map_eq_error_iff).trans (ih (List.forall_mem_nil _))

/-- The name or the value has a broken run, once its pluses are spaces. -/
def Undecodable (text : List Char) : Prop :=
  HasBrokenRun (text.map plusToSpace)

/-- **Which names and values cannot be decoded.** -/
theorem exists_decodeText_eq_error_iff (text : List Char) :
    (∃ fault, decodeText text = .error fault) ↔ Undecodable text := by
  simp only [decodeText, map_eq_error_iff]
  exact exists_decodeRuns_eq_error_iff (List.forall_mem_nil _)

/-- **A pair cannot be decoded** exactly if its name cannot, or its value cannot. -/
theorem exists_decodePair_eq_error_iff (pair : List Char × List Char) :
    (∃ fault, decodePair pair = .error fault) ↔ Undecodable pair.1 ∨ Undecodable pair.2 := by
  rw [← exists_decodeText_eq_error_iff, ← exists_decodeText_eq_error_iff]
  exact exists_bind_eq_error_iff fun name => exists_congr fun fault => map_eq_error_iff

end BeaconCheck.Query
