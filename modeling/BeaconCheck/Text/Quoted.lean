import BeaconCheck.Text.Basic
import BeaconCheck.Text.Printable

/-!
# Quoted text

How messages show a piece of text: between quotes, with the quote character, the
backslash and everything unprintable escaped, the halves of surrogate pairs among it.
Single quotes are used unless the text has a single quote and no double quote.
-/

namespace BeaconCheck.Quoted

/-- The lower-case hexadecimal digits of `n`, with zeros in front up to `width`. -/
def hex (width n : Nat) : List Char :=
  let digits := Nat.toDigits 16 n
  List.replicate (width - digits.length) '0' ++ digits

/-- The quote character that surrounds a text of some characters. -/
def quoteFor (text : List Char) : Char :=
  if text.contains '\x27' && !text.contains '"' then '"' else '\x27'

/-- One character inside quotes. -/
def escape (quote c : Char) : List Char :=
  if c = quote ∨ c = '\\' then ['\\', c]
  else if c = '\t' then ['\\', 't']
  else if c = '\n' then ['\\', 'n']
  else if c = '\r' then ['\\', 'r']
  else if CharSet.printable.contains c then [c]
  else if c.toNat < 0x100 then '\\' :: 'x' :: hex 2 c.toNat
  else if c.toNat < 0x10000 then '\\' :: 'u' :: hex 4 c.toNat
  else '\\' :: 'U' :: hex 8 c.toNat

/-- One letter inside quotes. -/
def escapeLetter (quote : Char) : Letter → List Char
  | .char c => escape quote c
  | .half place => '\\' :: 'u' :: hex 4 (Letter.half place).code

end Quoted

/-- The text between quotes. -/
def quoted (text : Text) : String :=
  let quote := Quoted.quoteFor (text.letters.map Letter.glyph)
  String.ofList (quote :: text.letters.flatMap (Quoted.escapeLetter quote) ++ [quote])

end BeaconCheck
