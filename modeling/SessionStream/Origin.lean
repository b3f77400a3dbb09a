/-!
# Origins of a seek

What the offset of a seek counts from. Callers name an origin by its number.

## Main definitions

- `Origin` — the origins, and the query for the size that moves nothing
- `Origin.ofCode?` — the origin with a given number
-/

namespace SessionStream

/-- What the offset of a seek counts from. -/
inductive Origin where
  /-- The start of the data. -/
  | start
  /-- The position of the stream. -/
  | current
  /-- The end of the data, as the server reports it. -/
  | finish
  /-- No move at all: the answer is the size that the server reports. -/
  | size
  deriving DecidableEq, Repr

namespace Origin

/-- The number callers use for an origin. -/
def code : Origin → Int
  | start => 0
  | current => 1
  | finish => 2
  | size => 65536

/-- The origin with a given number. -/
def ofCode? (n : Int) : Option Origin :=
  [start, current, finish, size].find? fun origin => origin.code == n

/-- The numbers of the origins are the only valid ones. -/
theorem ofCode?_eq_some_iff {n : Int} {w : Origin} : ofCode? n = some w ↔ n = w.code := by
  constructor
  · intro h
    have found := List.find?_some h
    exact (beq_iff_eq.1 found).symm
  · rintro rfl
    cases w <;> decide

end Origin

end SessionStream
