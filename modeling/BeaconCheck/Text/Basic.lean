/-!
# Texts

A text is a row of letters. A letter is a character or a half of a surrogate pair, which
no encoding has bytes for, but which a document can name by its code. Most texts hold no
half, and are kept as strings; a text that does is broken, and is cut at its first half.

* `Text.letters` and `Text.ofLetters` turn texts into rows of letters and back.
* `Text.append` and `Text.flatMap` build texts. A half stays beside another half what it
  is: two halves never become a character.
-/

namespace BeaconCheck

/-- A character, or a half of a surrogate pair. The halves are counted from the first of
their code points. -/
inductive Letter where
  | char (c : Char)
  | half (place : Fin 2048)
deriving DecidableEq, Repr, Inhabited

instance : Coe Char Letter := ⟨.char⟩

namespace Letter

/-- The code point of the first half. -/
def firstHalf : Nat := 0xd800

/-- The code point of a letter. -/
def code : Letter → Nat
  | .char c => c.toNat
  | .half place => firstHalf + place

/-- The letter of a code point. -/
def ofCode (code : Nat) : Letter :=
  if h : firstHalf ≤ code ∧ code < firstHalf + 2048 then
    .half ⟨code - firstHalf, by omega⟩
  else .char (Char.ofNat code)

/-- The character that a letter is shown as: a half is shown as the replacement
character. -/
def glyph : Letter → Char
  | .char c => c
  | .half _ => '\ufffd'

/-- The letter is a character of which `p` holds. -/
def satisfies (p : Char → Bool) : Letter → Bool
  | .char c => p c
  | .half _ => false

/-- The letter is a half of a surrogate pair. -/
def isHalf : Letter → Bool
  | .char _ => false
  | .half _ => true

/-- Each character is replaced by some others; a half stays. -/
def flatMap (f : Char → List Char) : Letter → List Letter
  | .char c => (f c).map .char
  | .half place => [.half place]

@[simp] theorem glyph_char (c : Char) : (Letter.char c).glyph = c := rfl

@[simp] theorem satisfies_char (p : Char → Bool) (c : Char) :
    (Letter.char c).satisfies p = p c := rfl

@[simp] theorem isHalf_char (c : Char) : (Letter.char c).isHalf = false := rfl

@[simp] theorem flatMap_char (f : Char → List Char) (c : Char) :
    (Letter.char c).flatMap f = (f c).map .char := rfl

/-- Characters are different letters. -/
theorem char_injective : Function.Injective Letter.char :=
  fun _ _ same => Letter.char.inj same

/-- Characters are shown as they are. -/
@[simp] theorem map_glyph_char (cs : List Char) : (cs.map Letter.char).map glyph = cs := by
  rw [List.map_map]
  exact List.map_id cs

end Letter

/-- A text: a string, or the characters before a first half, the half, and the letters
behind it. -/
inductive Text where
  | whole (s : String)
  | broken (front : List Char) (place : Fin 2048) (rest : List Letter)
deriving DecidableEq, Repr, Inhabited

instance : Coe String Text := ⟨.whole⟩

namespace Text

/-- The letters of a text. -/
def letters : Text → List Letter
  | .whole s => s.toList.map .char
  | .broken front place rest => front.map .char ++ .half place :: rest

/-- The characters up to the first half, and the half with what is behind it. -/
def cutAtHalf : List Letter → List Char × Option (Fin 2048 × List Letter)
  | [] => ([], none)
  | .char c :: rest =>
    let (front, behind) := cutAtHalf rest
    (c :: front, behind)
  | .half place :: rest => ([], some (place, rest))

/-- The text of some letters. -/
def ofLetters (letters : List Letter) : Text :=
  match cutAtHalf letters with
  | (front, none) => .whole (String.ofList front)
  | (front, some (place, rest)) => .broken front place rest

/-- The string that a text is, if it holds no half. -/
def string? : Text → Option String
  | .whole s => some s
  | .broken .. => none

/-- The text holds no half of a surrogate pair. -/
def isWhole : Text → Bool
  | .whole _ => true
  | .broken .. => false

/-- The text as it is shown. -/
def shown : Text → String
  | .whole s => s
  | .broken front place rest =>
    String.ofList (front ++ (Letter.half place :: rest).map Letter.glyph)

/-- One text behind another. -/
def append : Text → Text → Text
  | .whole a, .whole b => .whole (a ++ b)
  | .whole a, .broken front place rest => .broken (a.toList ++ front) place rest
  | .broken front place rest, t => .broken front place (rest ++ t.letters)

instance : Append Text := ⟨append⟩

/-- Texts one behind the other, with a separator between them. -/
def intercalate (separator : String) : List Text → Text
  | [] => .whole ""
  | [last] => last
  | first :: rest => first ++ .whole separator ++ intercalate separator rest

/-- Each character of a text is replaced by some others; the halves stay. -/
def flatMap (f : Char → List Char) : Text → Text
  | .whole s => .whole (String.ofList (s.toList.flatMap f))
  | .broken front place rest =>
    .broken (front.flatMap f) place (rest.flatMap (Letter.flatMap f))

/-! ## Letters of texts -/

@[simp] theorem letters_whole (s : String) : letters (.whole s) = s.toList.map .char := rfl

@[simp] theorem isWhole_whole (s : String) : isWhole (.whole s) = true := rfl

@[simp] theorem isWhole_broken (front : List Char) (place : Fin 2048) (rest : List Letter) :
    isWhole (.broken front place rest) = false := rfl

@[simp] theorem string?_whole (s : String) : string? (.whole s) = some s := rfl

@[simp] theorem shown_whole (s : String) : shown (.whole s) = s := rfl

@[simp] theorem whole_append (a b : String) : whole a ++ whole b = whole (a ++ b) := rfl

@[simp] theorem flatMap_whole (f : Char → List Char) (s : String) :
    flatMap f (.whole s) = .whole (String.ofList (s.toList.flatMap f)) := rfl

/-- Characters in front of a half go to the front. -/
theorem cutAtHalf_chars (cs : List Char) (rest : List Letter) :
    cutAtHalf (cs.map .char ++ rest) = (cs ++ (cutAtHalf rest).1, (cutAtHalf rest).2) := by
  induction cs with
  | nil => rfl
  | cons c cs ih => simp [cutAtHalf, ih]

/-- A row of characters is a string. -/
@[simp] theorem ofLetters_chars (cs : List Char) :
    ofLetters (cs.map .char) = .whole (String.ofList cs) := by
  have cut := cutAtHalf_chars cs []
  simp only [List.append_nil] at cut
  simp [ofLetters, cut, cutAtHalf]

/-- A row of letters is cut at its first half. -/
theorem ofLetters_broken (front : List Char) (place : Fin 2048) (rest : List Letter) :
    ofLetters (front.map .char ++ .half place :: rest) = .broken front place rest := by
  simp [ofLetters, cutAtHalf_chars, cutAtHalf]

/-- A text is told by its letters. -/
@[simp] theorem ofLetters_letters (t : Text) : ofLetters t.letters = t := by
  cases t with
  | whole s => simp
  | broken front place rest => exact ofLetters_broken front place rest

/-- Any letters are those of a text. -/
@[simp] theorem letters_ofLetters (letters : List Letter) :
    (ofLetters letters).letters = letters := by
  -- by induction on the letters: a half begins a text of its own behind the characters in front of
  -- it
  induction letters with
  | nil => rfl
  | cons first rest ih =>
    cases first with
    | half place => rfl
    | char c =>
      cases cut : cutAtHalf rest with
      | mk front behind =>
        rw [ofLetters, cut] at ih
        rw [ofLetters, cutAtHalf, cut]
        cases behind with
        | none => simpa [letters] using ih
        | some behind => simpa [letters] using ih

/-- Different rows are different texts. -/
theorem ofLetters_injective : Function.Injective ofLetters := fun a b same => by
  rw [← letters_ofLetters a, same, letters_ofLetters]

@[simp] theorem letters_append (s t : Text) : (s ++ t).letters = s.letters ++ t.letters := by
  cases s with
  | whole a =>
    cases t with
    | whole b => simp
    | broken front place rest =>
      show (broken (a.toList ++ front) place rest).letters = _
      simp [letters]
  | broken front place rest =>
    show (broken front place (rest ++ t.letters)).letters = _
    simp [letters]

/-! ## Texts without halves -/

/-- The whole texts are the strings. -/
theorem isWhole_iff {t : Text} : t.isWhole = true ↔ ∃ s, t = .whole s := by
  cases t <;> simp

/-- What is put together holds no half exactly if none of the parts does. -/
@[simp] theorem isWhole_append (s t : Text) : (s ++ t).isWhole = (s.isWhole && t.isWhole) := by
  cases s <;> cases t <;> rfl

@[simp] theorem isWhole_flatMap (f : Char → List Char) (t : Text) :
    (t.flatMap f).isWhole = t.isWhole := by
  cases t <;> rfl

/-- Separators add no half. -/
theorem isWhole_intercalate (separator : String) (parts : List Text) :
    (intercalate separator parts).isWhole = parts.all isWhole := by
  induction parts with
  | nil => rfl
  | cons first rest ih =>
    cases rest with
    | nil => simp [intercalate]
    | cons second rest => simp [intercalate, ih]

end Text

end BeaconCheck
