import SessionStream.Text.Blank
import SessionStream.Text.Decimal

/-!
# Integers as people write them

An integer on a command line is more liberal than one on the wire. Blanks may stand around it, a
plus sign and zeros in front of it, single low lines between its digits, and a point with zeros
behind it. All of this is taken away, one thing after the other, and what is left has to be an
integer in plain form.

## Main definitions

- `Text.readPlain?` — the integer that a text in plain form spells
- `Text.plainForm?` — the plain form of a text that spells an integer more liberally
- `Text.readNumeral?` — the integer that a text spells

## Design notes

The information separators of ASCII are blanks in a reply, but not around an integer. A minus sign
may have zeros in front of it or behind it, but not both. Texts with too many digits are refused.
-/

namespace SessionStream.Text

-- ════════════════════════════════════════════════════════════════════════
-- Plain form
-- ════════════════════════════════════════════════════════════════════════

/-- The value of one or more digits, if there are not too many, with a zero in front only if it
stands alone. -/
def readDigits? (cs : List Char) : Option Nat :=
  if maxDigits < cs.length then none
  else if cs.head? = some '0' ∧ cs.length ≠ 1 then none
  else readNatural? cs

/-- The integer that a text in plain form spells: digits, or a minus sign and digits. -/
def readPlain? : List Char → Option Int
  | '-' :: ds => (readDigits? ds).map fun n => -Int.ofNat n
  | ds => (readDigits? ds).map Int.ofNat

-- ════════════════════════════════════════════════════════════════════════
-- From a liberal form to the plain one
-- ════════════════════════════════════════════════════════════════════════

/-- The characters that may stand around an integer. -/
def isMargin (c : Char) : Bool :=
  isBlank c && !(0x1c ≤ c.toNat && c.toNat ≤ 0x1f)

/-- The text without the margins at its two ends. -/
def dropMargins (cs : List Char) : List Char :=
  ((cs.dropWhile isMargin).reverse.dropWhile isMargin).reverse

/-- The text without a plus sign in front. Two signs of different kinds spell no integer. -/
def dropPlus? : List Char → Option (List Char)
  | '+' :: '-' :: _ => none
  | '+' :: cs => some cs
  | cs => some cs

/-- What follows zeros, and low lines among them, the last of which is `last`. If neither a digit
nor a minus sign follows them, `last` stays in front of the rest. -/
def afterZeros (last : Char) : List Char → Option (List Char)
  | [] => some [last]
  | c :: cs =>
    if c = '0' ∨ c = '_' then afterZeros c cs
    else if c = '-' ∨ c.isDigit then some (c :: cs)
    else if c = '.' then some (last :: c :: cs)
    else none

/-- The text without the zeros at its start, or behind a minus sign at its start. A text in which
no digit stands there spells no integer. -/
def dropZeros? : List Char → Option (List Char)
  | [] => none
  | '-' :: cs => (dropZeros? cs).map ('-' :: ·)
  | c :: cs =>
    if c = '0' then afterZeros c cs
    else if c.isDigit then some (c :: cs)
    else none

/-- The text up to its first point, if zeros follow the point, and nothing else. -/
def dropFraction (cs : List Char) : List Char :=
  let fraction := (cs.dropWhile (· ≠ '.')).tail
  if fraction ≠ [] ∧ fraction.all (· = '0') then cs.takeWhile (· ≠ '.') else cs

/-- The text without its low lines, if each of them stands between two other characters. -/
def joinDigits? (cs : List Char) : Option (List Char) :=
  if cs.head? = some '_' ∨ cs.getLast? = some '_' ∨ ('_', '_') ∈ cs.zip cs.tail then none
  else some (cs.filter (· ≠ '_'))

/-- The plain form of a text that spells an integer more liberally. -/
def plainForm? (cs : List Char) : Option (List Char) := do
  let unsigned ← dropPlus? (dropMargins cs)
  let trimmed ← dropZeros? unsigned
  joinDigits? (dropFraction trimmed)

/-- The integer that a text spells. -/
def readNumeral? (text : String) : Option Int := do
  readPlain? (← plainForm? text.toList)

end SessionStream.Text
