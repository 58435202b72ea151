import BeaconCheck.Text.Utf8

/-!
# Decoding what was encoded

The bytes that stand for a character in UTF-8 are read as this character, whatever stands behind
them. Text is therefore decoded from its bytes, one character after the other, and nothing is
left over. No other bytes are read as a character, so the bytes that can be decoded are those
that stand for some text.

* `Utf8.front_utf8EncodeChar`             — the bytes of a character are read as it.
* `Utf8.decodeFrom_utf8EncodeChar_append` — and decoding goes on behind them.
* `Utf8.decode_flatMap_utf8EncodeChar`    — decoding undoes encoding.
* `Utf8.decode_eq_ok_iff`                 — and gives nothing but what was encoded.
-/

namespace BeaconCheck.Utf8

/-! ## Bytes by their numbers -/

theorem toNat_ofNat {n : Nat} (h : n < 256) : (UInt8.ofNat n).toNat = n := by
  rw [UInt8.toNat_ofNat']
  exact Nat.mod_eq_of_lt h

/-- A byte that continues a character begins with the bits one and zero. -/
theorem isContinuation_iff {b : UInt8} :
    isContinuation b = true ↔ 0x80 ≤ b.toNat ∧ b.toNat < 0xc0 := by
  rw [isContinuation, Bool.and_eq_true, decide_eq_true_eq, decide_eq_true_eq,
    UInt8.le_iff_toNat_le, UInt8.lt_iff_toNat_lt]
  rfl

/-- A byte may follow exactly if it goes on with a sequence that is no longer than needed, is no
surrogate, and is a code point up to the last. -/
theorem mayFollow_iff {a b : UInt8} :
    mayFollow a b = true ↔ isContinuation b = true ∧ (a.toNat = 0xe0 → 0xa0 ≤ b.toNat) ∧
      (a.toNat = 0xf0 → 0x90 ≤ b.toNat) ∧ (a.toNat = 0xed → b.toNat < 0xa0) ∧
      (a.toNat = 0xf4 → b.toNat < 0x90) := by
  -- the comparisons of bytes are put into numbers, and the rest is arithmetic
  have hByte (k : UInt8) : (a == k) = true ↔ a.toNat = k.toNat := by
    rw [beq_iff_eq, UInt8.toNat_inj]
  have hBelow (k : UInt8) : decide (b < k) = true ↔ b.toNat < k.toNat := by
    rw [decide_eq_true_eq, UInt8.lt_iff_toNat_lt]
  have hFrom (k : UInt8) : decide (k ≤ b) = true ↔ k.toNat ≤ b.toNat := by
    rw [decide_eq_true_eq, UInt8.le_iff_toNat_le]
  simp only [mayFollow, Bool.and_eq_true, Bool.not_eq_true', Bool.eq_false_iff, ne_eq, hByte,
    hBelow, hFrom, UInt8.reduceToNat, and_assoc]
  refine and_congr_right fun _ => ?_
  omega

/-! ## Reading a character -/

/-- How long a sequence is, by the number of its first byte. -/
theorem front_eq (a : UInt8) (rest : List UInt8) :
    front a rest =
      if a.toNat < 0x80 then .char (Char.ofNat a.toNat) 1
      else if a.toNat < 0xc2 then .bad .invalidStart 1
      else if a.toNat < 0xe0 then
        match rest with
        | [] => .bad .unexpectedEnd 1
        | b :: _ =>
          if isContinuation b then .char (Char.ofNat (a.toNat % 32 * 64 + payload b)) 2
          else .bad .invalidContinuation 1
      else if a.toNat < 0xf0 then front3 a rest
      else if a.toNat < 0xf5 then front4 a rest
      else .bad .invalidStart 1 :=
  rfl

/-- A small byte is a character. -/
theorem front_one {a : UInt8} (rest : List UInt8) (ha : a.toNat < 0x80) :
    front a rest = .char (Char.ofNat a.toNat) 1 := by
  rw [front_eq, if_pos ha]

/-- A character of two bytes. -/
theorem front_two {a b : UInt8} (rest : List UInt8) (ha : 0xc2 ≤ a.toNat ∧ a.toNat < 0xe0)
    (hb : isContinuation b = true) :
    front a (b :: rest) = .char (Char.ofNat (a.toNat % 32 * 64 + payload b)) 2 := by
  rw [front_eq, if_neg (by omega), if_neg (by omega), if_pos (by omega)]
  exact if_pos hb

/-- A character of three bytes. -/
theorem front_three {a b c : UInt8} (rest : List UInt8)
    (ha : 0xe0 ≤ a.toNat ∧ a.toNat < 0xf0) (hb : mayFollow a b = true)
    (hc : isContinuation c = true) :
    front a (b :: c :: rest) =
      .char (Char.ofNat (a.toNat % 16 * 4096 + payload b * 64 + payload c)) 3 := by
  rw [front_eq, if_neg (by omega), if_neg (by omega), if_neg (by omega), if_pos (by omega),
    front3, if_pos hb]
  exact if_pos hc

/-- A character of four bytes. -/
theorem front_four {a b c d : UInt8} (rest : List UInt8)
    (ha : 0xf0 ≤ a.toNat ∧ a.toNat < 0xf5) (hb : mayFollow a b = true)
    (hc : isContinuation c = true) (hd : isContinuation d = true) :
    front a (b :: c :: d :: rest) =
      .char (Char.ofNat (a.toNat % 8 * 262144 + payload b * 4096 + payload c * 64 + payload d))
        4 := by
  rw [front_eq, if_neg (by omega), if_neg (by omega), if_neg (by omega), if_neg (by omega),
    if_pos (by omega), front4, if_pos hb]
  simp only [hc, hd, if_true]

/-- How many bytes a character has, by its code point, and which. -/
theorem utf8EncodeChar_eq (c : Char) :
    String.utf8EncodeChar c =
      if c.toNat ≤ 127 then [UInt8.ofNat c.toNat]
      else if c.toNat ≤ 2047 then
        [UInt8.ofNat (c.toNat / 64 % 32 + 192), UInt8.ofNat (c.toNat % 64 + 128)]
      else if c.toNat ≤ 65535 then
        [UInt8.ofNat (c.toNat / 4096 % 16 + 224), UInt8.ofNat (c.toNat / 64 % 64 + 128),
          UInt8.ofNat (c.toNat % 64 + 128)]
      else
        [UInt8.ofNat (c.toNat / 262144 % 8 + 240), UInt8.ofNat (c.toNat / 4096 % 64 + 128),
          UInt8.ofNat (c.toNat / 64 % 64 + 128), UInt8.ofNat (c.toNat % 64 + 128)] :=
  rfl

/-- A byte that goes on with a sequence says six bits of the code point. -/
theorem isContinuation_ofNat (k : Nat) : isContinuation (UInt8.ofNat (k % 64 + 128)) = true := by
  rw [isContinuation_iff, toNat_ofNat (by omega)]
  omega

/-- Six bits are carried by a byte that continues a character. -/
theorem payload_ofNat (k : Nat) : payload (UInt8.ofNat (k % 64 + 128)) = k % 64 := by
  rw [payload, toNat_ofNat (by omega)]
  omega

theorem front_encoded_two {n : Nat} (rest : List UInt8) (hFrom : 127 < n) (hTo : n ≤ 2047) :
    front (UInt8.ofNat (n / 64 % 32 + 192)) (UInt8.ofNat (n % 64 + 128) :: rest) =
      .char (Char.ofNat n) 2 := by
  have hLead : (UInt8.ofNat (n / 64 % 32 + 192)).toNat = n / 64 % 32 + 192 :=
    toNat_ofNat (by omega)
  have hWhole : (n / 64 % 32 + 192) % 32 * 64 + n % 64 = n := by omega
  rw [front_two _ (by omega) (isContinuation_ofNat n), hLead, payload_ofNat, hWhole]

/-- Without the surrogates, the second of three bytes may follow the first. -/
theorem front_encoded_three {n : Nat} (rest : List UInt8) (hFrom : 2047 < n) (hTo : n ≤ 65535)
    (hValid : n < 0xd800 ∨ 0xdfff < n) :
    front (UInt8.ofNat (n / 4096 % 16 + 224))
        (UInt8.ofNat (n / 64 % 64 + 128) :: UInt8.ofNat (n % 64 + 128) :: rest) =
      .char (Char.ofNat n) 3 := by
  -- the bytes are numbers again, with the bits of the code point in them
  have hLead : (UInt8.ofNat (n / 4096 % 16 + 224)).toNat = n / 4096 % 16 + 224 :=
    toNat_ofNat (by omega)
  have hSecond : (UInt8.ofNat (n / 64 % 64 + 128)).toNat = n / 64 % 64 + 128 :=
    toNat_ofNat (by omega)
  have hFollows : mayFollow (UInt8.ofNat (n / 4096 % 16 + 224))
      (UInt8.ofNat (n / 64 % 64 + 128)) = true := by
    rw [mayFollow_iff, hLead, hSecond]
    exact ⟨isContinuation_ofNat (n / 64), by omega, by omega, by omega, by omega⟩
  -- put together they give the code point
  have hWhole : (n / 4096 % 16 + 224) % 16 * 4096 + n / 64 % 64 * 64 + n % 64 = n := by omega
  rw [front_three _ (by omega) hFollows (isContinuation_ofNat n), hLead, payload_ofNat,
    payload_ofNat, hWhole]

/-- Up to the last code point, the second of four bytes may follow the first. -/
theorem front_encoded_four {n : Nat} (rest : List UInt8) (hFrom : 65535 < n)
    (hTo : n < 0x110000) :
    front (UInt8.ofNat (n / 262144 % 8 + 240))
        (UInt8.ofNat (n / 4096 % 64 + 128) :: UInt8.ofNat (n / 64 % 64 + 128) ::
          UInt8.ofNat (n % 64 + 128) :: rest) =
      .char (Char.ofNat n) 4 := by
  -- as for three bytes, with six bits more
  have hLead : (UInt8.ofNat (n / 262144 % 8 + 240)).toNat = n / 262144 % 8 + 240 :=
    toNat_ofNat (by omega)
  have hSecond : (UInt8.ofNat (n / 4096 % 64 + 128)).toNat = n / 4096 % 64 + 128 :=
    toNat_ofNat (by omega)
  have hFollows : mayFollow (UInt8.ofNat (n / 262144 % 8 + 240))
      (UInt8.ofNat (n / 4096 % 64 + 128)) = true := by
    rw [mayFollow_iff, hLead, hSecond]
    exact ⟨isContinuation_ofNat (n / 4096), by omega, by omega, by omega, by omega⟩
  have hWhole : (n / 262144 % 8 + 240) % 8 * 262144 + n / 4096 % 64 * 4096 + n / 64 % 64 * 64 +
      n % 64 = n := by omega
  rw [front_four _ (by omega) hFollows (isContinuation_ofNat (n / 64)) (isContinuation_ofNat n),
    hLead, payload_ofNat, payload_ofNat, payload_ofNat, hWhole]

/-- **The bytes of a character are read as it**, whatever stands behind them. -/
theorem front_utf8EncodeChar (c : Char) (rest : List UInt8) :
    ∃ a more, String.utf8EncodeChar c = a :: more ∧
      front a (more ++ rest) = .char c (more.length + 1) := by
  have hValid : c.toNat < 0xd800 ∨ 0xdfff < c.toNat ∧ c.toNat < 0x110000 := c.valid
  have hChar : Char.ofNat c.toNat = c := Char.ofNat_toNat c
  rw [utf8EncodeChar_eq]
  -- one case for each length, by the size of the code point
  generalize c.toNat = n at hValid hChar ⊢
  split
  · next hOne =>
    have hByte : (UInt8.ofNat n).toNat = n := toNat_ofNat (by omega)
    refine ⟨_, _, rfl, ?_⟩
    rw [front_one _ (by omega), hByte, hChar]
    rfl
  split
  · exact ⟨_, _, rfl, hChar ▸ front_encoded_two rest (by omega) (by omega)⟩
  split
  · exact ⟨_, _, rfl, hChar ▸ front_encoded_three rest (by omega) (by omega) (by omega)⟩
  · exact ⟨_, _, rfl, hChar ▸ front_encoded_four rest (by omega) (by omega)⟩

/-! ## Decoding text -/

/-- Bytes that belong to a character that was read are passed over. -/
theorem decodeFrom_skip (bytes rest : List UInt8) (position : Nat) :
    decodeFrom position bytes.length (bytes ++ rest) =
      decodeFrom (position + bytes.length) 0 rest := by
  induction bytes generalizing position with
  | nil => rfl
  | cons b bytes ih =>
    rw [List.length_cons, List.cons_append, decodeFrom, ih]
    congr 1
    omega

/-- Behind the bytes of a character decoding goes on. -/
theorem decodeFrom_utf8EncodeChar_append (c : Char) (rest : List UInt8) (position : Nat) :
    decodeFrom position 0 (String.utf8EncodeChar c ++ rest) =
      (decodeFrom (position + (String.utf8EncodeChar c).length) 0 rest).map (c :: ·) := by
  obtain ⟨a, more, hBytes, hFront⟩ := front_utf8EncodeChar c rest
  rw [hBytes, List.cons_append, decodeFrom, hFront]
  simp only [Nat.add_sub_cancel]
  rw [decodeFrom_skip, List.length_cons]
  congr 2
  omega

/-- **Decoding undoes encoding.** -/
theorem decode_flatMap_utf8EncodeChar (text : List Char) :
    decode (text.flatMap String.utf8EncodeChar) = .ok text := by
  -- positions only matter to faults, of which there are none
  have hFrom (position : Nat) :
      decodeFrom position 0 (text.flatMap String.utf8EncodeChar) = .ok text := by
    induction text generalizing position with
    | nil => rfl
    | cons c text ih =>
      rw [List.flatMap_cons, decodeFrom_utf8EncodeChar_append, ih]
      rfl
  exact hFrom 0

/-! ## Nothing else is read -/

/-- A code point has a character, whose code point it is. -/
theorem toNat_char_ofNat {n : Nat} (h : n.isValidChar) : (Char.ofNat n).toNat = n := by
  rw [Char.ofNat, dif_pos h]
  rfl

theorem ofNat_eq {n : Nat} {b : UInt8} (h : n = b.toNat) : UInt8.ofNat n = b := by
  rw [h, UInt8.ofNat_toNat]

/-- The payload of a byte that goes on with a sequence is what is behind its two leading bits. -/
theorem payload_eq {b : UInt8} (h : isContinuation b = true) :
    payload b = b.toNat - 128 ∧ 128 ≤ b.toNat ∧ b.toNat < 192 := by
  rw [isContinuation_iff] at h
  unfold payload
  omega

/-- What a sequence of three bytes must be to be read as a character. -/
theorem of_front3_eq_char {a : UInt8} {rest : List UInt8} {c : Char} {length : Nat}
    (h : front3 a rest = .char c length) :
    ∃ b d behind, rest = b :: d :: behind ∧ mayFollow a b = true ∧ isContinuation d = true ∧
      c = Char.ofNat (a.toNat % 16 * 4096 + payload b * 64 + payload d) ∧ length = 3 := by
  unfold front3 at h
  -- a byte that may follow, and then a continuation; anything else breaks the character off
  split at h
  · cases h
  · split at h
    · next b rest hb =>
      split at h
      · cases h
      · split at h
        · next d behind hd =>
          cases h
          exact ⟨b, d, behind, rfl, hb, hd, rfl, rfl⟩
        · cases h
    · cases h

/-- What a sequence of four bytes must be to be read as a character. -/
theorem of_front4_eq_char {a : UInt8} {rest : List UInt8} {c : Char} {length : Nat}
    (h : front4 a rest = .char c length) :
    ∃ b d e behind, rest = b :: d :: e :: behind ∧ mayFollow a b = true ∧
      isContinuation d = true ∧ isContinuation e = true ∧
      c = Char.ofNat (a.toNat % 8 * 262144 + payload b * 4096 + payload d * 64 + payload e) ∧
      length = 4 := by
  unfold front4 at h
  -- as for three bytes, with one continuation more
  split at h
  · cases h
  · split at h
    · next b rest hb =>
      split at h
      · cases h
      · split at h
        · next d rest hd =>
          split at h
          · cases h
          · split at h
            · next e behind he =>
              cases h
              exact ⟨b, d, e, behind, rfl, hb, hd, he, rfl, rfl⟩
            · cases h
        · cases h
    · cases h

/-- **Only its bytes are read as a character.** -/
theorem eq_append_of_front {a : UInt8} {rest : List UInt8} {c : Char} {length : Nat}
    (h : front a rest = .char c length) :
    ∃ more behind, rest = more ++ behind ∧ String.utf8EncodeChar c = a :: more ∧
      length = more.length + 1 := by
  rw [front_eq] at h
  -- in each case the code point is put together from the payloads, and gives the bytes back
  split at h
  · next hOne =>
    cases h
    have hPoint : (Char.ofNat a.toNat).toNat = a.toNat := toNat_char_ofNat (.inl (by omega))
    refine ⟨[], rest, rfl, ?_, rfl⟩
    rw [utf8EncodeChar_eq, hPoint, if_pos (by omega), UInt8.ofNat_toNat]
  split at h
  · cases h
  split at h
  · next hLow hTwo =>
    split at h
    · cases h
    · split at h
      · next b behind hb =>
        cases h
        obtain ⟨hPayload, hFrom, hBelow⟩ := payload_eq hb
        have hPoint := toNat_char_ofNat (n := a.toNat % 32 * 64 + payload b) (.inl (by omega))
        refine ⟨[b], behind, rfl, ?_, rfl⟩
        rw [utf8EncodeChar_eq, hPoint, if_neg (by omega), if_pos (by omega),
          ofNat_eq (b := a) (by omega), ofNat_eq (b := b) (by omega)]
      · cases h
  split at h
  · next hLow hThree =>
    obtain ⟨b, d, behind, rfl, hb, hd, rfl, rfl⟩ := of_front3_eq_char h
    obtain ⟨hContinues, hShortest, -, hNoSurrogate, -⟩ := mayFollow_iff.mp hb
    obtain ⟨hPayload, hFrom, hBelow⟩ := payload_eq hContinues
    obtain ⟨hPayload', hFrom', hBelow'⟩ := payload_eq hd
    have hValid : (a.toNat % 16 * 4096 + payload b * 64 + payload d).isValidChar := by
      unfold Nat.isValidChar
      omega
    refine ⟨[b, d], behind, rfl, ?_, rfl⟩
    rw [utf8EncodeChar_eq, toNat_char_ofNat hValid, if_neg (by omega), if_neg (by omega),
      if_pos (by omega), ofNat_eq (b := a) (by omega), ofNat_eq (b := b) (by omega),
      ofNat_eq (b := d) (by omega)]
  split at h
  · next hLow hFour =>
    obtain ⟨b, d, e, behind, rfl, hb, hd, he, rfl, rfl⟩ := of_front4_eq_char h
    obtain ⟨hContinues, -, hShortest, -, hLast⟩ := mayFollow_iff.mp hb
    obtain ⟨hPayload, hFrom, hBelow⟩ := payload_eq hContinues
    obtain ⟨hPayload', hFrom', hBelow'⟩ := payload_eq hd
    obtain ⟨hPayload'', hFrom'', hBelow''⟩ := payload_eq he
    have hValid : (a.toNat % 8 * 262144 + payload b * 4096 + payload d * 64 +
        payload e).isValidChar := by
      unfold Nat.isValidChar
      omega
    refine ⟨[b, d, e], behind, rfl, ?_, rfl⟩
    rw [utf8EncodeChar_eq, toNat_char_ofNat hValid, if_neg (by omega), if_neg (by omega),
      if_neg (by omega), ofNat_eq (b := a) (by omega), ofNat_eq (b := b) (by omega),
      ofNat_eq (b := d) (by omega), ofNat_eq (b := e) (by omega)]
  · cases h

/-- What is decoded was encoded, behind the bytes that are passed over. -/
theorem drop_eq_of_decodeFrom {bytes : List UInt8} {position skip : Nat} {text : List Char}
    (h : decodeFrom position skip bytes = .ok text) :
    bytes.drop skip = text.flatMap String.utf8EncodeChar := by
  induction bytes generalizing position skip text with
  | nil =>
    cases skip <;> cases h <;> rfl
  | cons a rest ih =>
    cases skip with
    | succ skip => exact ih h
    | zero =>
      rw [decodeFrom] at h
      split at h
      · next c length hFront =>
        obtain ⟨more, behind, rfl, hBytes, rfl⟩ := eq_append_of_front hFront
        cases hRest : decodeFrom (position + 1) (more.length + 1 - 1) (more ++ behind) with
        | error fault =>
          rw [hRest] at h
          cases h
        | ok others =>
          rw [hRest] at h
          cases h
          -- the bytes of the character are passed over, and the others are decoded behind them
          have hOthers := ih hRest
          rw [Nat.add_sub_cancel, List.drop_left] at hOthers
          rw [List.flatMap_cons, hBytes, hOthers]
          rfl
      · cases h

/-- **What can be decoded is what was encoded.** -/
theorem decode_eq_ok_iff {bytes : List UInt8} {text : List Char} :
    decode bytes = .ok text ↔ bytes = text.flatMap String.utf8EncodeChar := by
  constructor
  · exact fun h => drop_eq_of_decodeFrom h
  · rintro rfl
    exact decode_flatMap_utf8EncodeChar text

/-- The bytes are the UTF-8 form of some text. -/
def IsValid (bytes : List UInt8) : Prop :=
  ∃ text : List Char, bytes = text.flatMap String.utf8EncodeChar

/-- Decoding fails exactly for bytes that are the UTF-8 form of no text. -/
theorem exists_decode_eq_error_iff {bytes : List UInt8} :
    (∃ fault, decode bytes = .error fault) ↔ ¬ IsValid bytes := by
  have hValid : IsValid bytes ↔ ∃ text, decode bytes = .ok text :=
    exists_congr fun text => decode_eq_ok_iff.symm
  rw [hValid]
  cases decode bytes with
  | error fault => simp
  | ok text => simp

end BeaconCheck.Utf8
