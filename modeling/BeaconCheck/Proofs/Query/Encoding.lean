import BeaconCheck.Proofs.Entries
import BeaconCheck.Proofs.Query.Cutting
import BeaconCheck.Proofs.Text.Utf8

/-!
# Decoding form-encoded queries

A query that was written from names and values gives these back. In a name or a value each
character may be written in several ways: as itself unless it is reserved, as the escapes of its
UTF-8 bytes with digits of either case, and a space also as a plus.

The decoder collects ASCII characters in a run and decodes a run only where it ends. The escapes
of a character are ASCII and never reach across the end of a run, so the proof goes over the
written characters with this invariant: whatever follows it, the run is unescaped to the encoded
text that was written so far.

* `Query.WritesText`, `Query.WritesPair`, `Query.WritesQuery` — the ways to write.
* `Query.decodeText_of_writesText` — a name or value is read as it was meant.
* `Query.pairs_of_writesQuery`     — so are all the pairs of a query, in their order.
* `Query.params_of_writesQuery`    — each name has the value of its last pair.
-/

namespace BeaconCheck.Query

/-! ## Writing -/

/-- The digits of value `n` in base sixteen: one, or a letter in either case. -/
inductive IsHexDigit (n : Nat) : Char → Prop
  | lower : IsHexDigit n (Nat.digitChar n)
  | upper : IsHexDigit n (Nat.digitChar n).toUpper

/-- Each byte is written as a percent sign and its two digits. -/
inductive Escapes : List UInt8 → List Char → Prop
  | nil : Escapes [] []
  | cons {byte : UInt8} {high low : Char} {bytes : List UInt8} {written : List Char} :
      IsHexDigit (byte.toNat / 16) high → IsHexDigit (byte.toNat % 16) low →
      Escapes bytes written → Escapes (byte :: bytes) ('%' :: high :: low :: written)

/-- The ways to write a character where some characters are reserved. -/
inductive Writes (reserved : List Char) (c : Char) : List Char → Prop
  | raw : c ∉ reserved → Writes reserved c [c]
  | plus : c = ' ' → Writes reserved c ['+']
  | escaped {written : List Char} :
      Escapes (String.utf8EncodeChar c) written → Writes reserved c written

/-- The characters of a text are written one after the other, each in a way of its own. -/
inductive WritesText (reserved : List Char) : List Char → List Char → Prop
  | nil : WritesText reserved [] []
  | cons {c : Char} {text one written : List Char} :
      Writes reserved c one → WritesText reserved text written →
      WritesText reserved (c :: text) (one ++ written)

/-- What is not written as itself in a value. -/
def valueReserved : List Char := ['&', '+', '%', '#']

/-- What is not written as itself in a name, which ends at an equals sign. -/
def nameReserved : List Char := '=' :: valueReserved

/-- A name, an equals sign, and a value. -/
inductive WritesPair (p : String × String) : List Char → Prop
  | mk {name value : List Char} :
      WritesText nameReserved p.1.toList name → WritesText valueReserved p.2.toList value →
      WritesPair p (name ++ '=' :: value)

/-- The pairs are written in their order, with an ampersand between two of them. -/
inductive WritesQuery : List (String × String) → List Char → Prop
  | last {p : String × String} {written : List Char} :
      WritesPair p written → WritesQuery [p] written
  | more {p : String × String} {pairs : List (String × String)} {written rest : List Char} :
      WritesPair p written → WritesQuery pairs rest →
      WritesQuery (p :: pairs) (written ++ '&' :: rest)

/-! ## Reading digits and escapes -/

variable {n : Nat} {c high low : Char} {bytes : List UInt8} {reserved : List Char}
  {text written : List Char}

/-- A hexadecimal digit is read, be it large or small. -/
theorem asciiDigit?_of_isHexDigit (hn : n < 16) (h : IsHexDigit n c) :
    asciiDigit? 16 c = some n := by
  have hDigits : ∀ k < 16, asciiDigit? 16 (Nat.digitChar k) = some k ∧
      asciiDigit? 16 (Nat.digitChar k).toUpper = some k := by decide
  cases h with
  | lower => exact (hDigits n hn).1
  | upper => exact (hDigits n hn).2

theorem isAscii_of_isHexDigit (hn : n < 16) (h : IsHexDigit n c) : isAscii c = true := by
  have hDigits : ∀ k < 16, isAscii (Nat.digitChar k) = true ∧
      isAscii (Nat.digitChar k).toUpper = true := by decide
  cases h with
  | lower => exact (hDigits n hn).1
  | upper => exact (hDigits n hn).2

/-- A percent sign with two digits is one byte. -/
theorem unescape_percent {a b : Nat} (ha : asciiDigit? 16 high = some a)
    (hb : asciiDigit? 16 low = some b) (more : List Char) :
    unescape ('%' :: high :: low :: more) = UInt8.ofNat (16 * a + b) :: unescape more := by
  rw [unescape, ha, hb]

/-- Any other character is a byte by itself. -/
theorem unescape_cons (hc : c ≠ '%') (more : List Char) :
    unescape (c :: more) = UInt8.ofNat c.toNat :: unescape more := by
  rw [unescape]
  rintro a b rest rfl
  exact absurd rfl hc

/-- An ASCII character is one byte in UTF-8, which unescaping leaves alone. -/
theorem unescape_ascii (hAscii : isAscii c = true) (hc : c ≠ '%') (more : List Char) :
    unescape (c :: more) = String.utf8EncodeChar c ++ unescape more := by
  have hOne : String.utf8EncodeChar c = [UInt8.ofNat c.toNat] := by
    have hSmall : c.val.toNat ≤ 127 := by
      have hBelow : c.toNat < 0x80 := of_decide_eq_true hAscii
      exact Nat.le_of_lt_succ hBelow
    rw [String.utf8EncodeChar, if_pos hSmall]
    rfl
  rw [unescape_cons hc, hOne]
  rfl

/-- Escapes are unescaped to their bytes. -/
theorem unescape_of_escapes (h : Escapes bytes written) (more : List Char) :
    unescape (written ++ more) = bytes ++ unescape more := by
  -- by induction on the bytes, each of which comes back from its two digits
  induction h with
  | nil => rfl
  | @cons byte high low bytes written hHigh hLow hRest ih =>
    have hByte : byte.toNat < 256 := byte.toNat_lt
    have ha := asciiDigit?_of_isHexDigit (by omega) hHigh
    have hb := asciiDigit?_of_isHexDigit (by omega) hLow
    have hWhole : 16 * (byte.toNat / 16) + byte.toNat % 16 = byte.toNat := by omega
    rw [List.cons_append, List.cons_append, List.cons_append, unescape_percent ha hb, ih, hWhole,
      UInt8.ofNat_toNat]
    rfl

/-- Escapes are ASCII, and no plus is among them. -/
theorem of_mem_escapes (h : Escapes bytes written) :
    ∀ x ∈ written, isAscii x = true ∧ (x = '%' ∨ (asciiDigit? 16 x).isSome) := by
  -- by induction on the bytes, each of them written with a percent sign and two digits
  induction h with
  | nil => intro x hx; cases hx
  | @cons byte high low bytes written hHigh hLow hRest ih =>
    have hByte : byte.toNat < 256 := byte.toNat_lt
    have hDigit {k : Nat} {x : Char} (hk : k < 16) (hx : IsHexDigit k x) :
        isAscii x = true ∧ (x = '%' ∨ (asciiDigit? 16 x).isSome) := by
      refine ⟨isAscii_of_isHexDigit hk hx, .inr ?_⟩
      rw [asciiDigit?_of_isHexDigit hk hx]
      rfl
    intro x hx
    rcases List.mem_cons.mp hx with rfl | hx
    · exact ⟨by decide, .inl rfl⟩
    rcases List.mem_cons.mp hx with rfl | hx
    · exact hDigit (by omega) hHigh
    rcases List.mem_cons.mp hx with rfl | hx
    · exact hDigit (by omega) hLow
    · exact ih x hx

/-! ## Marks -/

/-- A character that stands only for itself: it is reserved, and no part of an escape. -/
structure IsMark (reserved : List Char) (mark : Char) : Prop where
  mem : mark ∈ reserved
  ne_plus : mark ≠ '+'
  ne_percent : mark ≠ '%'
  no_digit : asciiDigit? 16 mark = none

/-- A mark of values is one of names, too. -/
theorem IsMark.inName {mark : Char} (h : IsMark valueReserved mark) : IsMark nameReserved mark :=
  ⟨List.mem_cons_of_mem _ h.mem, h.ne_plus, h.ne_percent, h.no_digit⟩

theorem isMark_ampersand : IsMark valueReserved '&' :=
  ⟨by decide, by decide, by decide, by decide⟩

theorem isMark_hash : IsMark valueReserved '#' :=
  ⟨by decide, by decide, by decide, by decide⟩

theorem isMark_equals : IsMark nameReserved '=' :=
  ⟨by decide, by decide, by decide, by decide⟩

/-- A mark is never written as itself. -/
theorem not_mem_of_writes {mark : Char} (hMark : IsMark reserved mark)
    (h : Writes reserved c written) : mark ∉ written := by
  intro hMem
  -- a mark is reserved, so that it is not written as it is, and it is no part of an escape
  cases h with
  | raw hc =>
    rw [List.mem_singleton] at hMem
    exact hc (hMem ▸ hMark.mem)
  | plus => exact hMark.ne_plus (List.mem_singleton.mp hMem)
  | escaped hEscapes =>
    rcases (of_mem_escapes hEscapes mark hMem).2 with hPercent | hDigit
    · exact hMark.ne_percent hPercent
    · rw [hMark.no_digit] at hDigit
      cases hDigit

/-- So there is none in a text that is written. -/
theorem not_mem_of_writesText {mark : Char} (hMark : IsMark reserved mark)
    (h : WritesText reserved text written) : mark ∉ written := by
  induction h with
  | nil => exact List.not_mem_nil
  | cons hOne hText ih =>
    rw [List.mem_append, not_or]
    exact ⟨not_mem_of_writes hMark hOne, ih⟩

/-! ## Decoding a text -/

/-- ASCII characters are put to the run. -/
theorem decodeRuns_append {one : List Char} (hOne : ∀ x ∈ one, isAscii x = true)
    (run rest : List Char) :
    decodeRuns run (one ++ rest) = decodeRuns (one.reverse ++ run) rest := by
  induction one generalizing run with
  | nil => rfl
  | cons x one ih =>
    obtain ⟨hx, hOne⟩ := List.forall_mem_cons.mp hOne
    rw [List.cons_append, decodeRuns, if_pos hx, ih hOne, List.reverse_cons, List.append_assoc]
    rfl

/-- What a written character adds to the text that is decoded: ASCII characters that are unescaped
to its bytes, or itself, which ends the run. -/
inductive Adds (c : Char) (chars : List Char) : Prop
  | bytes (hAscii : ∀ x ∈ chars, isAscii x = true)
      (hBytes : ∀ more, unescape (chars ++ more) = String.utf8EncodeChar c ++ unescape more)
  | itself (hSelf : chars = [c]) (hOther : ¬isAscii c = true)

/-- A character that is no percent sign can be kept as it is. -/
theorem adds_self (hc : c ≠ '%') : Adds c [c] := by
  by_cases hAscii : isAscii c = true
  · refine .bytes (fun x hx => ?_) (unescape_ascii hAscii hc)
    rw [List.mem_singleton.mp hx]
    exact hAscii
  · exact .itself rfl hAscii

/-- However a character is written, this is what it adds once pluses are spaces. -/
theorem adds_of_writes (hPlus : '+' ∈ reserved) (hPercent : '%' ∈ reserved)
    (h : Writes reserved c written) : Adds c (written.map plusToSpace) := by
  cases h with
  | raw hc =>
    have hNotPlus : c ≠ '+' := fun h => hc (h ▸ hPlus)
    have hNotPercent : c ≠ '%' := fun h => hc (h ▸ hPercent)
    rw [List.map_singleton, plusToSpace, if_neg hNotPlus]
    exact adds_self hNotPercent
  | plus hc =>
    rw [hc]
    exact adds_self (by decide)
  | escaped hEscapes =>
    have hChars := of_mem_escapes hEscapes
    -- an escape holds no plus
    have hMap : written.map plusToSpace = written := by
      refine (List.map_congr_left fun x hx => ?_).trans (List.map_id written)
      refine if_neg ?_
      rintro rfl
      rcases (hChars '+' hx).2 with h | h
      · exact absurd h (by decide)
      · exact absurd h (by decide)
    rw [hMap]
    exact .bytes (fun x hx => (hChars x hx).1) (unescape_of_escapes hEscapes)

/-- The run stands for a text: whatever follows, it is unescaped to the encoded text. -/
def StandsFor (run text : List Char) : Prop :=
  ∀ more, unescape (run.reverse ++ more) =
    text.flatMap String.utf8EncodeChar ++ unescape more

/-- At first there is no run and no text. -/
theorem standsFor_nil : StandsFor [] [] :=
  fun _ => rfl

/-- A run is decoded to the text that it stands for. -/
theorem decode_of_standsFor {run : List Char} (h : StandsFor run text) :
    Utf8.decode (unescape run.reverse) = .ok text := by
  have hAll := h []
  rw [unescape, List.append_nil, List.append_nil] at hAll
  rw [hAll, Utf8.decode_flatMap_utf8EncodeChar]

/-- The invariant: after a run that stands for a text, this text is followed by what was
written. -/
theorem decodeRuns_of_writesText (hPlus : '+' ∈ reserved) (hPercent : '%' ∈ reserved)
    (h : WritesText reserved text written) {run earlier : List Char}
    (hRun : StandsFor run earlier) :
    decodeRuns run (written.map plusToSpace) = .ok (earlier ++ text) := by
  induction h generalizing run earlier with
  | nil =>
    rw [List.map_nil, decodeRuns, decode_of_standsFor hRun, List.append_nil]
  | @cons c text one written hOne hText ih =>
    rw [List.map_append]
    cases adds_of_writes hPlus hPercent hOne with
    | bytes hAscii hBytes =>
      -- the run grows, and stands for one character more
      have hNext : StandsFor ((one.map plusToSpace).reverse ++ run) (earlier ++ [c]) := by
        intro more
        rw [List.reverse_append, List.reverse_reverse, List.append_assoc, hRun, hBytes,
          List.flatMap_append, List.flatMap_singleton, List.append_assoc]
      rw [decodeRuns_append hAscii, ih hNext, List.append_assoc]
      rfl
    | itself hSelf hOther =>
      -- the run is decoded, the character stands behind it, and a new run begins
      rw [hSelf, List.singleton_append, decodeRuns, if_neg hOther, decode_of_standsFor hRun,
        ih standsFor_nil]
      rfl

/-- **A text is read as it was meant**, however its characters are written. -/
theorem decodeText_of_writesText (hPlus : '+' ∈ reserved) (hPercent : '%' ∈ reserved)
    {s : String} (h : WritesText reserved s.toList written) : decodeText written = .ok s := by
  rw [decodeText, decodeRuns_of_writesText hPlus hPercent h standsFor_nil, List.nil_append]
  exact congrArg Except.ok String.ofList_toList

/-! ## Reading a query -/

variable {p : String × String} {pairs : List (String × String)}

/-- A mark of values stands nowhere in a written pair. -/
theorem not_mem_of_writesPair {mark : Char} (hMark : IsMark valueReserved mark)
    (h : WritesPair p written) : mark ∉ written := by
  obtain ⟨hFirst, hSecond⟩ := h
  have hEquals : mark ≠ '=' := by
    rintro rfl
    exact absurd hMark.mem (by decide)
  rw [List.mem_append, List.mem_cons, not_or, not_or]
  exact ⟨not_mem_of_writesText hMark.inName hFirst, hEquals, not_mem_of_writesText hMark hSecond⟩

/-- A query has no mark of a fragment in it. -/
theorem hash_not_mem (h : WritesQuery pairs written) : '#' ∉ written := by
  induction h with
  | last hPair => exact not_mem_of_writesPair isMark_hash hPair
  | more hPair hRest ih =>
    rw [List.mem_append, List.mem_cons, not_or, not_or]
    exact ⟨not_mem_of_writesPair isMark_hash hPair, by decide, ih⟩

/-- A query that pairs are written to is not empty: a pair has an equals sign. -/
theorem ne_nil_of_writesQuery (h : WritesQuery pairs written) : written ≠ [] := by
  cases h with
  | last hPair =>
    obtain ⟨hName, hValue⟩ := hPair
    exact List.append_ne_nil_of_right_ne_nil _ (List.cons_ne_nil _ _)
  | more hPair hRest => exact List.append_ne_nil_of_right_ne_nil _ (List.cons_ne_nil _ _)

/-- A pair as it is written is one piece, and its name and value are read from it. -/
theorem pairs_of_writesPair (h : WritesPair p written) :
    ∃ piece, pieces written = [piece] ∧ decodePair piece = .ok p := by
  have hOne : splitAt '&' written = [written] :=
    splitAt_of_not_mem (not_mem_of_writesPair isMark_ampersand h)
  cases h with
  | @mk name value hName hValue =>
    -- the first equals sign is the one between the name and the value
    have hEquals : '=' ∉ name := not_mem_of_writesText isMark_equals hName
    have hKept : [name ++ '=' :: value].filter (!·.isEmpty) = [name ++ '=' :: value] := by simp
    have hRead : decodeText name = .ok p.1 ∧ decodeText value = .ok p.2 :=
      ⟨decodeText_of_writesText (by decide) (by decide) hName,
        decodeText_of_writesText (by decide) (by decide) hValue⟩
    refine ⟨(name, value), ?_, ?_⟩
    · rw [pieces, hOne, hKept, List.map_singleton, cut?_append hEquals]
      rfl
    · rw [decodePair, hRead.1, hRead.2]
      rfl

/-- **The pairs of a query are read in their order**, repeated names included. -/
theorem pairs_of_writesQuery (h : WritesQuery pairs written) :
    Query.pairs written = .ok pairs := by
  rw [Query.pairs]
  -- by induction on the pairs, with an ampersand between each and the next
  induction h with
  | last hPair =>
    obtain ⟨piece, hPieces, hDecoded⟩ := pairs_of_writesPair hPair
    rw [hPieces, List.mapM_cons, hDecoded]
    rfl
  | more hPair hRest ih =>
    obtain ⟨piece, hPieces, hDecoded⟩ := pairs_of_writesPair hPair
    rw [pieces_append, hPieces, List.singleton_append, List.mapM_cons, hDecoded, ih]
    rfl

/-- The query of a URL that has one, with or without a fragment behind it. -/
theorem ofUrl?_eq {base query : String} (hBase : '?' ∉ base.toList)
    (hQuery : '#' ∉ query.toList) (fragment : Option String) :
    ofUrl? (base ++ "?" ++ query ++ (fragment.map ("#" ++ ·)).getD "").toList =
      some query.toList := by
  have hUrl : (base ++ "?" ++ query ++ (fragment.map ("#" ++ ·)).getD "").toList =
      base.toList ++ '?' :: (query.toList ++ ((fragment.map ("#" ++ ·)).getD "").toList) := by
    simp [String.toList_append]
  rw [hUrl, ofUrl?, cut?_append hBase, Option.map_some]
  congr 1
  -- without a fragment nothing is cut off
  cases fragment with
  | none =>
    show before '#' (query.toList ++ []) = _
    rw [List.append_nil, before_of_not_mem hQuery]
  | some rest =>
    show before '#' (query.toList ++ ("#" ++ rest).toList) = _
    rw [String.toList_append]
    exact before_append hQuery rest.toList

/-- **Decoding undoes form encoding.** Behind any prefix without a question mark, and in front of
any fragment, a query that pairs were written to is decoded to the entries that give each name the
value of its last pair, and that have every name of a pair once and no other. -/
theorem params_of_writesQuery {base query : String} (hBase : '?' ∉ base.toList)
    (hQuery : WritesQuery pairs query.toList) (fragment : Option String) :
    ∃ params,
      Query.params (base ++ "?" ++ query ++ (fragment.map ("#" ++ ·)).getD "") = .ok params ∧
      (params.map Prod.fst).Nodup ∧
      ∀ name, Entries.get? params name =
        ((pairs.filter (·.1 == name)).getLast?).map Prod.snd := by
  have hFound := ofUrl?_eq hBase (hash_not_mem hQuery) fragment
  have hPairs := pairs_of_writesQuery hQuery
  -- the query is not empty, so that it is one
  obtain ⟨c, rest, hFilled⟩ := List.exists_cons_of_ne_nil (ne_nil_of_writesQuery hQuery)
  refine ⟨Entries.ofPairs pairs, ?_, Entries.nodup_keys_ofPairs pairs,
    Entries.get?_ofPairs pairs⟩
  rw [hFilled] at hFound hPairs
  rw [params, hFound]
  simp only [hPairs]

/-- A name twice, with escaped marks, letters written in both ways, and a fragment. -/
theorem params_of_writesQuery_mixed :
    ∃ params,
      Query.params ("https://t.example/g" ++ "?" ++ "q=é+b&k%3d=1%262&q=%C3%bc=%2B" ++
        ((some "x?").map ("#" ++ ·)).getD "") = .ok params ∧
      (params.map Prod.fst).Nodup ∧
      ∀ name, Entries.get? params name =
        (([("q", "é b"), ("k=", "1&2"), ("q", "ü=+")].filter (·.1 == name)).getLast?).map
          Prod.snd := by
  refine params_of_writesQuery (by decide) ?_ (some "x?")
  have hName : WritesText nameReserved ['q'] ['q'] := .cons (.raw (by decide)) .nil
  -- a space as a plus, and letters of other alphabets as they are
  have hFirst : WritesPair ("q", "é b") (['q'] ++ '=' :: ['é', '+', 'b']) :=
    .mk hName (.cons (.raw (by decide)) (.cons (.plus rfl) (.cons (.raw (by decide)) .nil)))
  -- marks as escapes
  have hEquals : Writes nameReserved '=' ['%', '3', 'd'] := .escaped (.cons .lower .lower .nil)
  have hAmpersand : Writes valueReserved '&' ['%', '2', '6'] :=
    .escaped (.cons .lower .lower .nil)
  have hSecond : WritesPair ("k=", "1&2")
      (['k', '%', '3', 'd'] ++ '=' :: ['1', '%', '2', '6', '2']) :=
    .mk (.cons (.raw (by decide)) (.cons hEquals .nil))
      (.cons (.raw (by decide)) (.cons hAmpersand (.cons (.raw (by decide)) .nil)))
  -- digits in both cases, and an equals sign that is not the first
  have hUmlaut : Writes valueReserved 'ü' ['%', 'C', '3', '%', 'b', 'c'] :=
    .escaped (.cons .upper .lower (.cons .lower .lower .nil))
  have hPlus : Writes valueReserved '+' ['%', '2', 'B'] := .escaped (.cons .lower .upper .nil)
  have hThird : WritesPair ("q", "ü=+")
      (['q'] ++ '=' :: ['%', 'C', '3', '%', 'b', 'c', '=', '%', '2', 'B']) :=
    .mk hName (.cons hUmlaut (.cons (.raw (by decide)) (.cons hPlus .nil)))
  exact .more hFirst (.more hSecond (.last hThird))

end BeaconCheck.Query
