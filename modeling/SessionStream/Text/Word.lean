import SessionStream.Text.Json
import SessionStream.Text.Quoted

/-!
# Words

A text as it comes from outside may be broken: it holds half of a pair of surrogates without the
other half. Such a word can be quoted and written into a JSON text, where the stray half is escaped,
but it has no UTF-8 form.

## Main definitions

- `Surrogate` — half of a pair
- `Word` — a text, or one with a stray surrogate
- `Word.quoted`, `Word.json` — a word in a message and in a JSON text
-/

namespace SessionStream

/-- Half of a pair that stands for a character beyond the sixteen-bit range. -/
structure Surrogate where
  index : Fin 2048
  deriving DecidableEq, Repr

/-- The code point of a surrogate. -/
def Surrogate.codePoint (half : Surrogate) : Nat :=
  0xd800 + half.index

/-- The escape that stands for a surrogate. -/
def Surrogate.escape (half : Surrogate) : List Char :=
  '\x5c' :: 'u' :: Text.hexDigits 4 half.codePoint

/-- A text as it comes from outside. -/
inductive Word where
  /-- A text of whole characters. -/
  | text (whole : String)
  /-- A text up to a surrogate on its own, and all that is behind that. -/
  | broken (before : String) (stray : Surrogate) (behind : List (Char ⊕ Surrogate))
  deriving DecidableEq, Repr

instance : Coe String Word := ⟨Word.text⟩

namespace Word

/-- The characters of a word. -/
def characters : Word → List Char
  | text whole => whole.toList
  | broken before _ behind => before.toList ++ behind.filterMap Sum.getLeft?

/-- A word in which each character stands in the form that `f` gives it, and each surrogate is
escaped. -/
def spelled (f : Char → List Char) : Word → List Char
  | text whole => whole.toList.flatMap f
  | broken before stray behind =>
    before.toList.flatMap f ++ stray.escape ++ behind.flatMap (Sum.elim f Surrogate.escape)

/-- A word as it is shown. -/
def shown (word : Word) : String :=
  String.ofList (word.spelled fun c => [c])

/-- A word between quotes. -/
def quoted (word : Word) : String :=
  let mark := Text.quoteMark word.characters
  String.ofList (mark :: word.spelled (Text.quotedChar mark) ++ [mark])

/-- A word as a JSON string. -/
def json (word : Word) : String :=
  String.ofList ('\x22' :: word.spelled Text.jsonChar ++ ['\x22'])

end Word

end SessionStream
