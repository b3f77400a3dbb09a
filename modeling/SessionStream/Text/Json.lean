import SessionStream.Text.Quoted

/-!
# Characters of JSON strings

A string of a JSON text is in ASCII only: what is not printable ASCII is escaped, and a character
beyond the sixteen-bit range as the pair of its surrogates.

## Main definitions

- `Text.codeUnits` — the UTF-16 form of a character
- `Text.jsonChar` — a character inside a JSON string
-/

namespace SessionStream.Text

/-- The UTF-16 form of a character: one unit, or a pair of surrogates. -/
def codeUnits (c : Char) : List Nat :=
  let n := c.toNat
  if n < 0x10000 then [n]
  else [0xd800 + (n - 0x10000) / 0x400, 0xdc00 + (n - 0x10000) % 0x400]

/-- The form of one character inside a JSON string. -/
def jsonChar (c : Char) : List Char :=
  if c = '\x22' || c = '\x5c' then ['\x5c', c]
  else if c = '\n' then ['\x5c', 'n']
  else if c = '\r' then ['\x5c', 'r']
  else if c = '\t' then ['\x5c', 't']
  else if c = '\x08' then ['\x5c', 'b']
  else if c = '\x0c' then ['\x5c', 'f']
  else if 0x20 ≤ c.toNat && c.toNat < 0x7f then [c]
  else (codeUnits c).flatMap fun unit => '\x5c' :: 'u' :: hexDigits 4 unit

end SessionStream.Text
