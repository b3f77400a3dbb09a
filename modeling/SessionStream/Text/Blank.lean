/-!
# Blank characters

The white space of texts that come from a peer: the characters of the Unicode category for
spaces and separators, the ASCII line and field controls and the next-line control.

## Main definitions

- `Text.isBlank` — the class of blank characters
- `Text.trim` — a text without the blanks at its two ends
-/

namespace SessionStream.Text

/-- Blank characters, by code point. -/
def isBlank (c : Char) : Bool :=
  let n := c.toNat
  (0x09 ≤ n && n ≤ 0x0d) || (0x1c ≤ n && n ≤ 0x20) || n == 0x85 || n == 0xa0 || n == 0x1680 ||
    (0x2000 ≤ n && n ≤ 0x200a) || n == 0x2028 || n == 0x2029 || n == 0x202f || n == 0x205f ||
    n == 0x3000

/-- The text without the blanks at its start and its end. -/
def trim (cs : List Char) : List Char :=
  ((cs.dropWhile isBlank).reverse.dropWhile isBlank).reverse

end SessionStream.Text
