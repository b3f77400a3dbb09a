/-!
# Bytes

Everything that crosses a connection is a list of bytes. Text is put on the wire as its UTF-8
form, one character after the other, so that facts about lines and socket names reduce to facts
about single characters.

## Main definitions

- `Bytes` — a finite sequence of bytes
- `utf8` — the UTF-8 form of a text
- `asciiText` — the text of bytes that ought to be ASCII
-/

namespace SessionStream

/-- A finite sequence of bytes. -/
abbrev Bytes := List UInt8

/-- The UTF-8 form of a text, character by character. -/
def utf8 (text : String) : Bytes :=
  text.toList.flatMap String.utf8EncodeChar

/-- The character an ASCII byte stands for; any other byte becomes the replacement character. -/
def asciiChar (b : UInt8) : Char :=
  if b < 128 then Char.ofNat b.toNat else '\uFFFD'

/-- Bytes read as ASCII, one character for each byte. -/
def asciiText (bs : Bytes) : String :=
  String.ofList (bs.map asciiChar)

end SessionStream
