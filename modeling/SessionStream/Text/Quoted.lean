import SessionStream.Text.Printable

/-!
# Quoted texts

A text inside a message stands between quotes, with everything that would not show written as an
escape. The quote is the single one, or the double one when the text holds single quotes and no
double ones.

## Main definitions

- `Text.hexDigits` — a number in lower-case hexadecimal, padded to a width
- `Text.quoted` — a text between quotes
-/

namespace SessionStream.Text

/-- The last `width` hexadecimal digits of `n`, in lower case. -/
def hexDigits (width n : Nat) : List Char :=
  (List.range width).reverse.map fun place => Nat.digitChar (n / Nat.pow 16 place % 16)

/-- The quote that a text is put between. -/
def quoteMark (cs : List Char) : Char :=
  if cs.contains '\x27' && !cs.contains '\x22' then '\x22' else '\x27'

/-- The form of one character between quotes `mark`: backslash and quote get a backslash, line
feed, carriage return and tab their letters, and any other unprintable character the shortest
of the three hexadecimal escapes that holds it. -/
def quotedChar (mark c : Char) : List Char :=
  if c = mark || c = '\x5c' then ['\x5c', c]
  else if c = '\n' then ['\x5c', 'n']
  else if c = '\r' then ['\x5c', 'r']
  else if c = '\t' then ['\x5c', 't']
  else if isPrintable c then [c]
  else if c.toNat ≤ 0xff then '\x5c' :: 'x' :: hexDigits 2 c.toNat
  else if c.toNat ≤ 0xffff then '\x5c' :: 'u' :: hexDigits 4 c.toNat
  else '\x5c' :: 'U' :: hexDigits 8 c.toNat

/-- A text between quotes. -/
def quoted (text : String) : String :=
  let mark := quoteMark text.toList
  String.ofList (mark :: text.toList.flatMap (quotedChar mark) ++ [mark])

end SessionStream.Text
