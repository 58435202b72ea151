import BeaconCheck.Proofs.Text.Utf8

/-!
# Decoding in blocks

A file is decoded block by block, and a character may begin in one block and end in the next.
What was decoded of the first bytes does not change when more come, so a text that was encoded
is decoded whole, wherever the blocks end.

* `Utf8.front_append`        — more bytes change nothing but an unexpected end.
* `Utf8.decodeWhole_prefix`  — the first bytes of a text are those of a part of it, and of a
  character that breaks off.
* `Utf8.decodeBlocks_encoded` — decoding in blocks undoes encoding,
* `Utf8.decodeBlocks_eq_ok_iff` — and succeeds for nothing but what was encoded.
-/

namespace BeaconCheck.Utf8

/-- **More bytes change nothing but an unexpected end.** -/
theorem front_append (a : UInt8) (bytes more : List UInt8) :
    (∃ length, front a bytes = .bad .unexpectedEnd length) ∨
      front a (bytes ++ more) = front a bytes := by
  rw [front_eq, front_eq]
  -- how long the sequence is, and how many bytes of it are there
  split
  · exact .inr rfl
  split
  · exact .inr rfl
  split
  · cases bytes with
    | nil => exact .inl ⟨1, rfl⟩
    | cons b bytes => exact .inr rfl
  split
  · rcases bytes with _ | ⟨b, _ | ⟨c, bytes⟩⟩
    · exact .inl ⟨1, rfl⟩
    · simp only [front3, List.cons_append, List.nil_append]
      split
      · exact .inl ⟨2, rfl⟩
      · exact .inr rfl
    · exact .inr rfl
  split
  · rcases bytes with _ | ⟨b, _ | ⟨c, _ | ⟨d, bytes⟩⟩⟩
    · exact .inl ⟨1, rfl⟩
    · simp only [front4, List.cons_append, List.nil_append]
      split
      · exact .inl ⟨2, rfl⟩
      · exact .inr rfl
    · simp only [front4, List.cons_append, List.nil_append]
      split
      · split
        · exact .inl ⟨3, rfl⟩
        · exact .inr rfl
      · exact .inr rfl
    · exact .inr rfl
  · exact .inr rfl

/-- A character that breaks off is an unexpected end. -/
theorem decodeFrom_broken {c : Char} {a : UInt8} {begun left : List UInt8}
    (h : String.utf8EncodeChar c = a :: (begun ++ left)) (hLeft : left ≠ []) (position : Nat) :
    ∃ fault, decodeFrom position 0 (a :: begun) = .error fault ∧
      fault.problem = .unexpectedEnd ∧ fault.position = position := by
  -- the sequence breaks off, unless its front were complete without the bytes that are left
  rcases front_append a begun left with ⟨length, hFront⟩ | hSame
  · refine ⟨⟨position, length, a, .unexpectedEnd⟩, ?_, rfl, rfl⟩
    rw [decodeFrom, hFront]
  · -- otherwise the character would be there already
    obtain ⟨first, more, hBytes, hFront⟩ := front_utf8EncodeChar c []
    rw [h] at hBytes
    obtain ⟨rfl, rfl⟩ := List.cons.inj hBytes
    rw [List.append_nil, hSame] at hFront
    obtain ⟨taken, behind, hBegun, -, hLength⟩ := eq_append_of_front hFront
    have hShort : left.length = 0 := by
      rw [hBegun, List.length_append, List.length_append] at hLength
      omega
    exact absurd (List.length_eq_zero_iff.mp hShort) hLeft

/-- **The first bytes of a text** are those of a part of it, and perhaps some of a character
that breaks off. -/
theorem decodeFrom_prefix {text : List Char} {bytes behind : List UInt8}
    (h : bytes ++ behind = text.flatMap String.utf8EncodeChar) (position : Nat) :
    ∃ read left begun, text = read ++ left ∧
      bytes = read.flatMap String.utf8EncodeChar ++ begun ∧
      (begun = [] ∨ ∃ fault, decodeFrom position 0 bytes = .error fault ∧
        fault.problem = .unexpectedEnd ∧
        fault.position = position + (read.flatMap String.utf8EncodeChar).length) := by
  -- by induction on the text: the bytes end within its first character or behind it
  induction text generalizing bytes position with
  | nil =>
    obtain ⟨rfl, -⟩ := List.append_eq_nil_iff.mp h
    exact ⟨[], [], [], rfl, rfl, .inl rfl⟩
  | cons c text ih =>
    rw [List.flatMap_cons] at h
    rcases List.append_eq_append_iff.mp h with ⟨left, hChar, -⟩ | ⟨more, rfl, hMore⟩
    · -- the bytes end inside of the first character, or right behind it
      by_cases hLeft : left = []
      · rw [hLeft, List.append_nil] at hChar
        refine ⟨[c], text, [], rfl, ?_, .inl rfl⟩
        rw [← hChar, List.flatMap_singleton, List.append_nil]
      · cases bytes with
        | nil => exact ⟨[], c :: text, [], rfl, rfl, .inl rfl⟩
        | cons a begun =>
          obtain ⟨fault, hFault, hProblem, hPosition⟩ := decodeFrom_broken hChar hLeft position
          exact ⟨[], c :: text, a :: begun, rfl, rfl, .inr ⟨fault, hFault, hProblem, hPosition⟩⟩
    · -- the first character is whole, and the bytes end behind it
      obtain ⟨read, left, begun, rfl, rfl, hEnd⟩ :=
        ih hMore.symm (position + (String.utf8EncodeChar c).length)
      refine ⟨c :: read, left, begun, rfl, ?_, hEnd.imp_right ?_⟩
      · rw [List.flatMap_cons, List.append_assoc]
      · rintro ⟨fault, hFault, hProblem, hPosition⟩
        refine ⟨fault, ?_, hProblem, ?_⟩
        · rw [decodeFrom_utf8EncodeChar_append, hFault]
          rfl
        · rw [hPosition, List.flatMap_cons, List.length_append, Nat.add_assoc]

/-- A block of an encoded text is some characters, and the beginning of another one. -/
theorem decodeWhole_prefix {text : List Char} {bytes behind : List UInt8}
    (h : bytes ++ behind = text.flatMap String.utf8EncodeChar) :
    ∃ read left begun, text = read ++ left ∧ decodeWhole bytes = .ok (read, begun) ∧
      begun ++ behind = left.flatMap String.utf8EncodeChar := by
  obtain ⟨read, left, begun, rfl, rfl, hEnd⟩ := decodeFrom_prefix h 0
  refine ⟨read, left, begun, rfl, ?_, ?_⟩
  -- the bytes decode as they are, or up to the fault, which is where the last character begins
  · rcases hEnd with rfl | ⟨fault, hFault, hProblem, hPosition⟩
    · rw [List.append_nil, decodeWhole, decode_flatMap_utf8EncodeChar]
    · rw [Nat.zero_add] at hPosition
      rw [decodeWhole, decode, hFault]
      simp only [hProblem, if_true, hPosition, List.take_left, List.drop_left]
      rw [decode_flatMap_utf8EncodeChar]
      rfl
  · rw [List.flatMap_append, List.append_assoc] at h
    exact List.append_cancel_left h

/-- **Decoding in blocks undoes encoding**, wherever the blocks end. -/
theorem decodeBlocks_encoded {size : Nat → Nat} (hSize : ∀ left, 0 < size left) {fuel : Nat}
    {text : List Char} {begun bytes : List UInt8} (hFuel : bytes.length < fuel)
    (h : begun ++ bytes = text.flatMap String.utf8EncodeChar) :
    decodeBlocks size fuel begun bytes = .ok text := by
  induction fuel generalizing text begun bytes with
  | zero => cases hFuel
  | succ fuel ih =>
    rw [decodeBlocks]
    cases bytes with
    | nil =>
      rw [List.append_nil] at h
      rw [h, decode_flatMap_utf8EncodeChar]
      rfl
    | cons b bytes =>
      have hNext := hSize (b :: bytes).length
      generalize size (b :: bytes).length = next at hNext ⊢
      -- what is left of a character at the end of the block is read with the next one
      have hBlock : (begun ++ (b :: bytes).take next) ++ (b :: bytes).drop next =
          text.flatMap String.utf8EncodeChar := by
        rw [List.append_assoc, List.take_append_drop, h]
      obtain ⟨read, left, begun', rfl, hRead, hLeft⟩ := decodeWhole_prefix hBlock
      have hLess : ((b :: bytes).drop next).length < fuel := by
        rw [List.length_drop, List.length_cons]
        rw [List.length_cons] at hFuel
        omega
      simp only [List.isEmpty_cons, Bool.false_eq_true, if_false, hRead]
      rw [ih hLess hLeft]
      rfl

/-- What is decoded of a block was encoded, with the bytes that are given back behind it. -/
theorem eq_append_of_decodeWhole {bytes begun : List UInt8} {text : List Char}
    (h : decodeWhole bytes = .ok (text, begun)) :
    bytes = text.flatMap String.utf8EncodeChar ++ begun := by
  rw [decodeWhole] at h
  split at h
  · next hText =>
    cases h
    rw [List.append_nil]
    exact decode_eq_ok_iff.mp hText
  · next fault _ =>
    split at h
    · -- the bytes before the character that breaks off are decoded once more
      cases hText : decode (bytes.take fault.position) with
      | error fault' =>
        rw [hText] at h
        cases h
      | ok text' =>
        rw [hText] at h
        cases h
        rw [← decode_eq_ok_iff.mp hText, List.take_append_drop]
    · cases h

/-- **What can be decoded in blocks is what was encoded**, wherever the blocks end. -/
theorem decodeBlocks_eq_ok_iff {size : Nat → Nat} (hSize : ∀ left, 0 < size left) {fuel : Nat}
    {text : List Char} {begun bytes : List UInt8} (hFuel : bytes.length < fuel) :
    decodeBlocks size fuel begun bytes = .ok text ↔
      begun ++ bytes = text.flatMap String.utf8EncodeChar := by
  refine ⟨fun h => ?_, decodeBlocks_encoded hSize hFuel⟩
  induction fuel generalizing text begun bytes with
  | zero => cases hFuel
  | succ fuel ih =>
    rw [decodeBlocks] at h
    cases bytes with
    | nil =>
      rw [List.append_nil]
      exact decode_eq_ok_iff.mp h
    | cons b bytes =>
      have hNext := hSize (b :: bytes).length
      generalize size (b :: bytes).length = next at hNext h
      simp only [List.isEmpty_cons, Bool.false_eq_true, if_false] at h
      split at h
      · cases h
      · next read begun' hRead =>
        -- a block takes at least one byte, so the fuel lasts
        have hLess : ((b :: bytes).drop next).length < fuel := by
          rw [List.length_drop, List.length_cons]
          rw [List.length_cons] at hFuel
          omega
        cases hRest : decodeBlocks size fuel begun' ((b :: bytes).drop next) with
        | error fault =>
          rw [hRest] at h
          cases h
        | ok left =>
          rw [hRest] at h
          cases h
          rw [List.flatMap_append, ← ih hLess hRest, ← List.append_assoc,
            ← eq_append_of_decodeWhole hRead, List.append_assoc, List.take_append_drop]

end BeaconCheck.Utf8
