import BeaconCheck.Pattern.Token
import BeaconCheck.Number.Numeral
import BeaconCheck.Text.CharName

/-!
# Escapes of a pattern

What a backslash with a character stands for: a class of characters, an anchor, a
character by its code or name, a reference to a group, or the character itself. Inside
a character set `\b` is the backspace, and there are neither anchors nor references.
-/

namespace BeaconCheck.Pattern

/-- The letters of the escapes for characters without a glyph. -/
def controlEscape? : Char → Option Nat
  | 'a' => some 0x07
  | 'f' => some 0x0c
  | 'n' => some 0x0a
  | 'r' => some 0x0d
  | 't' => some 0x09
  | 'v' => some 0x0b
  | '\\' => some 0x5c
  | _ => none

/-- The letters of the escapes for classes; a capital stands for the complement. -/
def classEscape? : Char → Option SetItem
  | 'd' => some (.cls .digit false)
  | 'D' => some (.cls .digit true)
  | 's' => some (.cls .blank false)
  | 'S' => some (.cls .blank true)
  | 'w' => some (.cls .word false)
  | 'W' => some (.cls .word true)
  | _ => none

/-- The letters of the escapes for anchors. -/
def anchorEscape? : Char → Option Anchor
  | 'A' => some .textStart
  | 'b' => some .boundary
  | 'B' => some .nonBoundary
  | 'Z' => some .textEnd
  | _ => none

/-- An ASCII digit below the base. -/
def isAsciiDigit (base : Nat) (c : Char) : Bool :=
  (asciiDigit? base c).isSome

/-- The number that ASCII digits spell. -/
def numberOf (base : Nat) (digits : List Char) : Nat :=
  Numeral.ofDigits base (digits.filterMap (asciiDigit? base))

/-- An ASCII letter. -/
def isAsciiLetter (c : Char) : Bool :=
  ('a' ≤ c && c ≤ 'z') || ('A' ≤ c && c ≤ 'Z')

/-- An escape as it was written. -/
def escapeText (c : Char) (more : List Char) : String :=
  String.ofList ('\\' :: c :: more)

open ReadM

/-- Refuses an escape that was taken. -/
def badEscape {α : Type} (c : Char) (more : List Char) : ReadM α :=
  failBack (.badEscape (escapeText c more)) (more.length + 2)

/-- A character by exactly `width` hexadecimal digits. -/
def hexEscape (c : Char) (width : Nat) : ReadM Nat := do
  let digits ← takeWhile (isAsciiDigit 16) width
  if digits.length < width then
    failBack (.incompleteEscape (escapeText c digits)) (digits.length + 2)
  let point := numberOf 16 digits
  if 0x7fffffff < point then throw (.crash (.codePointTooLarge false))
  if 0x10ffff < point then badEscape c digits
  return point

/-- A character by its name between braces. -/
def nameEscape : ReadM Nat := do
  if !(← accept '\x7b') then failBack .missingBrace 0
  let name ← name '\x7d' .character
  match namedPoint? (name.map Letter.glyph) with
  | some point => return point
  | none => failBack (.unknownCharacter (.ofLetters name)) (name.length + 4)

/-- The escapes that name a character by code or name. -/
def codeEscape? (c : Char) : Option (ReadM Nat) :=
  match c with
  | 'x' => some (hexEscape 'x' 2)
  | 'u' => some (hexEscape 'u' 4)
  | 'U' => some (hexEscape 'U' 8)
  | 'N' => some nameEscape
  | _ => none

/-- The character of octal digits, which is one of the first 256. -/
def octalPoint (c : Char) (more : List Char) : ReadM Nat := do
  let point := numberOf 8 (c :: more)
  if 0o377 < point then
    failBack (.octalTooLarge (escapeText c more)) (more.length + 2)
  return point

/-- An escape of a character inside a character set, whose token was taken. -/
def setCharEscape (c : Char) : ReadM SetItem := do
  if c = 'b' then return .char 0x08
  match controlEscape? c, classEscape? c, codeEscape? c with
  | some point, _, _ => return .char point
  | _, some item, _ => return item
  | _, _, some read => return .char (← read)
  | none, none, none =>
    if isAsciiDigit 8 c then
      let more ← takeWhile (isAsciiDigit 8) 2
      return .char (← octalPoint c more)
    else if isAsciiDigit 10 c || isAsciiLetter c then badEscape c []
    else return .char c.toNat

/-- An escape inside a character set, whose token was taken. -/
def setEscape : Letter → ReadM SetItem
  | .char c => setCharEscape c
  | .half place => return .char (Letter.half place).code

/-- A reference to a group that must be closed. -/
def backreference (digits : List Char) : ReadM Node := do
  let group := numberOf 10 digits
  if group < (← nextGroup) then
    if !(← isClosed group) then failBack .openGroup (digits.length + 1)
    checkLookbehind group
    return .backref group
  else failBack (.invalidReference group) digits.length

/-- An escape that starts with a digit other than zero: three octal digits are a
character, one or two digits of any kind a reference. -/
def digitEscape (c : Char) : ReadM Node := do
  let second ← takeWhile (isAsciiDigit 10) 1
  let octal := (c :: second).all (isAsciiDigit 8)
  if octal && !second.isEmpty && (← isAhead (isAsciiDigit 8)) then
    let third ← takeWhile (isAsciiDigit 8) 1
    return .char (← octalPoint c (second ++ third))
  else backreference (c :: second)

/-- An escape of a character outside of character sets, whose token was taken. -/
def nodeCharEscape (c : Char) : ReadM Node := do
  match classEscape? c, anchorEscape? c, controlEscape? c, codeEscape? c with
  | some item, _, _, _ => return .set false [item]
  | _, some a, _, _ => return .anchor a
  | _, _, some point, _ => return .char point
  | _, _, _, some read => return .char (← read)
  | none, none, none, none =>
    if c = '0' then
      let more ← takeWhile (isAsciiDigit 8) 2
      return .char (numberOf 8 more)
    else if isAsciiDigit 10 c then digitEscape c
    else if isAsciiLetter c then badEscape c []
    else return .char c.toNat

/-- An escape outside of character sets, whose token was taken. -/
def nodeEscape : Letter → ReadM Node
  | .char c => nodeCharEscape c
  | .half place => return .char (Letter.half place).code

end BeaconCheck.Pattern
