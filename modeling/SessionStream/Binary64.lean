/-!
# Binary floating point

Numbers in the binary64 format, by their 64 bits, and the rounding of exact numbers to the nearest
of them. A tie goes to the neighbour whose last digit is even. All arithmetic is exact, on natural
numbers.

## Main definitions

- `Binary64` — a number in the format
- `Binary64.bound` — how far the format reaches
- `Binary64.nearest` — a quotient rounded to an integer
- `Binary64.roundNat` — a natural number rounded to the precision of the format
- `Binary64.ofRatio` — a ratio of natural numbers, rounded into the format
-/

namespace SessionStream

/-- A binary64 number. -/
structure Binary64 where
  /-- Sign, exponent and significand, from the highest bit to the lowest. -/
  bits : UInt64
  deriving DecidableEq, Repr

namespace Binary64

/-- The digits of a significand. -/
def precision : Nat := 53

/-- The place of the lowest digit of the smallest positive number. -/
def lowestPlace : Int := -1074

/-- Every finite number of the format is closer to zero than this. -/
def bound : Nat := Nat.pow 2 1024

/-- The quotient rounded to the nearest integer, a tie to the even one. -/
def nearest (num den : Nat) : Nat :=
  let quotient := num / den
  let twice := 2 * (num % den)
  if twice < den then quotient
  else if den < twice then quotient + 1
  else quotient + quotient % 2

/-- A natural number rounded to as many digits as a significand has. -/
def roundNat (n : Nat) : Nat :=
  let place := n.log2 + 1 - precision
  nearest n (Nat.pow 2 place) * Nat.pow 2 place

/-- The place of the highest binary digit of a positive ratio. -/
def highestPlace (num den : Nat) : Int :=
  let guess : Int := num.log2 - den.log2
  let below :=
    if 0 ≤ guess then num < den * Nat.pow 2 guess.toNat
    else num * Nat.pow 2 (-guess).toNat < den
  if below then guess - 1 else guess

/-- A ratio rounded into the format. The significand and the exponent are joined by addition, so
that a significand that is rounded up to the next power of two steps the exponent. -/
def ofRatio (num den : Nat) : Binary64 :=
  if num = 0 then ⟨0⟩
  else
    let place := max lowestPlace (highestPlace num den - (precision - 1 : Nat))
    let significand :=
      if 0 ≤ place then nearest num (den * Nat.pow 2 place.toNat)
      else nearest (num * Nat.pow 2 (-place).toNat) den
    ⟨UInt64.ofNat ((place - lowestPlace).toNat * Nat.pow 2 (precision - 1) + significand)⟩

/-- The number with the sign bit set, if it is to be negative. -/
def withSign (x : Binary64) (negative : Bool) : Binary64 :=
  if negative then ⟨x.bits ||| 0x8000000000000000⟩ else x

/-- A number within the precision is not changed by rounding. -/
theorem roundNat_of_lt {n : Nat} (h : n < Nat.pow 2 precision) : roundNat n = n := by
  have place : n.log2 + 1 - precision = 0 := by
    by_cases zero : n = 0
    · subst zero; decide
    · have := (Nat.log2_lt zero).2 h
      omega
  simp [roundNat, place, nearest, Nat.mod_one]

end Binary64

end SessionStream
