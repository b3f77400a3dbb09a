/-!
# Decimal integers

The decimal form of an integer is an optional sign followed by one or more ASCII digits. Leading
zeros are allowed; nothing else may stand before, between or after the digits. The time to write an
integer grows with the square of its length, so one with very many digits is not written at all.

## Main definitions

- `Text.maxDigits` — how many digits are not yet too many
- `Text.Writable` — the integers that are written
- `Text.readNatural?` — one or more ASCII digits
- `Text.readInteger?` — an optional sign, then one or more ASCII digits
-/

namespace SessionStream.Text

/-- The most digits of an integer that is written down. -/
def maxDigits : Nat := 4300

/-- The smallest natural number with too many digits. -/
@[irreducible] def textBound : Nat := Nat.pow 10 maxDigits

/-- The integers that are written down; the sign is no digit. -/
def Writable (n : Int) : Prop :=
  n.natAbs < textBound

instance (n : Int) : Decidable (Writable n) :=
  inferInstanceAs (Decidable (_ < _))

/-- Every integer of 64 bits is written down. -/
theorem writable_of_natAbs_lt {n : Int} (h : n.natAbs < Nat.pow 2 64) : Writable n := by
  have bits : Nat.pow 2 64 ≤ Nat.pow 10 20 := by decide
  have digits : Nat.pow 10 20 ≤ textBound := by
    unfold textBound
    rw [Nat.pow_eq, Nat.pow_eq]
    exact Nat.pow_le_pow_right (by decide) (by decide : 20 ≤ maxDigits)
  exact Nat.lt_of_lt_of_le h (Nat.le_trans bits digits)

/-- The value of one or more ASCII digits; `none` for any other text. -/
def readNatural? (cs : List Char) : Option Nat :=
  if cs ≠ [] ∧ cs.all Char.isDigit then some (Nat.ofDigitChars 10 cs 0) else none

/-- The value of an optional single sign followed by one or more ASCII digits; `none` for any
other text. -/
def readInteger? : List Char → Option Int
  | '+' :: ds => (readNatural? ds).map Int.ofNat
  | '-' :: ds => (readNatural? ds).map fun n => -Int.ofNat n
  | ds => (readNatural? ds).map Int.ofNat

/-- The decimal digits of a natural number read back as that number. -/
theorem readNatural?_toDigits (n : Nat) : readNatural? (Nat.toDigits 10 n) = some n := by
  have all : (Nat.toDigits 10 n).all Char.isDigit = true :=
    List.all_eq_true.2 fun _ hc => Nat.isDigit_of_mem_toDigits (by decide) (by decide) hc
  rw [readNatural?, if_pos ⟨Nat.toDigits_ne_nil, all⟩,
    Nat.ofDigitChars_toDigits (by decide) (by decide)]

end SessionStream.Text
