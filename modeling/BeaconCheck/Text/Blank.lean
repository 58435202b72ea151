import BeaconCheck.Text.CharSet

/-!
# Blank characters

White space as text is trimmed by it and as a pattern matches it: the characters of the
Unicode property White_Space and the four information separators.
-/

namespace BeaconCheck

/-- The blank characters. -/
def CharSet.blank : CharSet where
  bounds := [
    0x9, 0xe, 0x1c, 0x21, 0x85, 0x86, 0xa0, 0xa1, 0x1680, 0x1681, 0x2000, 0x200b, 0x2028,
    0x202a, 0x202f, 0x2030, 0x205f, 0x2060, 0x3000, 0x3001]

/-- The text without the blank characters at either end. -/
def trimBlank (text : List Char) : List Char :=
  ((text.dropWhile CharSet.blank.contains).reverse.dropWhile CharSet.blank.contains).reverse

end BeaconCheck
