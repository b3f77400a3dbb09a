import Mathlib.Data.List.TakeWhile
import SessionStream.Proofs.Decoding

/-!
# Numerals

The integers in a reply, as a grammar: an optional sign and one or more digits, with blanks around
them. A text is read by this grammar exactly, and so is the answer to a query for the size.

## Main definitions

- `Text.decimalValue` — the number that digits stand for, by their places
- `Text.Numeral` — a sign and digits, and the integer that they stand for
- `Text.Spells` — a numeral with blanks around it

## Main results

- `Text.readInteger?_eq_some_iff` — what is read without blanks
- `Text.readInteger?_trim_eq_some_iff` — what is read with blanks around it
- `Reply.size_eq_ok_iff`, `Reply.size_eq_error_iff` — the answers that report a size
- `Reply.size_of_not_ascii` — a byte that is not ASCII spoils an answer
-/

namespace SessionStream

namespace Text

variable {cs ds : List Char} {c : Char} {n : Int}

-- ════════════════════════════════════════════════════════════════════════
-- Digits
-- ════════════════════════════════════════════════════════════════════════

/-- The number that digits stand for: each counts by its place from the right. -/
def decimalValue : List Char → Nat
  | [] => 0
  | d :: ds => (d.toNat - '0'.toNat) * Nat.pow 10 ds.length + decimalValue ds

theorem ofDigitChars_eq_decimalValue (ds : List Char) :
    Nat.ofDigitChars 10 ds 0 = decimalValue ds := by
  induction ds with
  | nil => rfl
  | cons d ds ih =>
    rw [Nat.ofDigitChars_cons, Nat.ofDigitChars_eq_ofDigitChars_zero, ih, decimalValue]
    simp [Nat.mul_comm]

/-- A natural number is read from digits, and from nothing else. -/
theorem readNatural?_eq_some_iff {m : Nat} :
    readNatural? ds = some m ↔
      ds ≠ [] ∧ (∀ d ∈ ds, d.isDigit = true) ∧ m = decimalValue ds := by
  unfold readNatural?
  rw [ofDigitChars_eq_decimalValue]
  constructor
  · intro h
    split at h
    · next plain =>
      cases h
      exact ⟨plain.1, List.all_eq_true.1 plain.2, rfl⟩
    · cases h
  · rintro ⟨some, digits, rfl⟩
    rw [if_pos ⟨some, List.all_eq_true.2 digits⟩]

-- ════════════════════════════════════════════════════════════════════════
-- A sign and digits
-- ════════════════════════════════════════════════════════════════════════

/-- An optional single sign and one or more digits, and the integer that they stand for. -/
inductive Numeral : List Char → Int → Prop
  | unsigned {ds : List Char} (some : ds ≠ []) (digits : ∀ d ∈ ds, d.isDigit = true) :
      Numeral ds (decimalValue ds)
  | plus {ds : List Char} (some : ds ≠ []) (digits : ∀ d ∈ ds, d.isDigit = true) :
      Numeral ('+' :: ds) (decimalValue ds)
  | minus {ds : List Char} (some : ds ≠ []) (digits : ∀ d ∈ ds, d.isDigit = true) :
      Numeral ('-' :: ds) (-decimalValue ds)

theorem Numeral.ne_nil (h : Numeral cs n) : cs ≠ [] := by
  cases h with
  | unsigned some => exact some
  | plus => exact List.cons_ne_nil _ _
  | minus => exact List.cons_ne_nil _ _

theorem Numeral.mem (h : Numeral cs n) (mem : c ∈ cs) : c.isDigit = true ∨ c = '+' ∨ c = '-' := by
  cases h with
  | unsigned _ digits => exact .inl (digits c mem)
  | plus _ digits =>
    rcases List.mem_cons.1 mem with rfl | mem
    · exact .inr (.inl rfl)
    · exact .inl (digits c mem)
  | minus _ digits =>
    rcases List.mem_cons.1 mem with rfl | mem
    · exact .inr (.inr rfl)
    · exact .inl (digits c mem)

/-- Without a sign in front, only digits are read. -/
theorem readInteger?_of_digits (digits : ∀ d ∈ ds, d.isDigit = true) :
    readInteger? ds = (readNatural? ds).map Int.ofNat := by
  unfold readInteger?
  split
  · exact absurd (digits '+' (List.mem_cons_self ..)) (by decide)
  · exact absurd (digits '-' (List.mem_cons_self ..)) (by decide)
  · rfl

/-- **Reading is exact**: an integer is read from its numerals, and from nothing else. -/
theorem readInteger?_eq_some_iff : readInteger? cs = some n ↔ Numeral cs n := by
  constructor
  · intro h
    unfold readInteger? at h
    split at h
    · obtain ⟨m, read, rfl⟩ := Option.map_eq_some_iff.1 h
      obtain ⟨some, digits, rfl⟩ := readNatural?_eq_some_iff.1 read
      exact .plus some digits
    · obtain ⟨m, read, rfl⟩ := Option.map_eq_some_iff.1 h
      obtain ⟨some, digits, rfl⟩ := readNatural?_eq_some_iff.1 read
      exact .minus some digits
    · obtain ⟨m, read, rfl⟩ := Option.map_eq_some_iff.1 h
      obtain ⟨some, digits, rfl⟩ := readNatural?_eq_some_iff.1 read
      exact .unsigned some digits
  · intro h
    cases h with
    | unsigned some digits =>
      rw [readInteger?_of_digits digits, readNatural?_eq_some_iff.2 ⟨some, digits, rfl⟩]
      rfl
    | plus some digits =>
      rw [readInteger?, readNatural?_eq_some_iff.2 ⟨some, digits, rfl⟩]
      rfl
    | minus some digits =>
      rw [readInteger?, readNatural?_eq_some_iff.2 ⟨some, digits, rfl⟩]
      rfl

-- ════════════════════════════════════════════════════════════════════════
-- Blanks
-- ════════════════════════════════════════════════════════════════════════

section Blanks

variable {before after : List Char}

/-- What is trimmed away are blanks, on both sides. -/
theorem exists_eq_append_trim (cs : List Char) :
    ∃ before after, cs = before ++ trim cs ++ after ∧
      (∀ c ∈ before, isBlank c = true) ∧ ∀ c ∈ after, isBlank c = true := by
  let rest := cs.dropWhile isBlank
  refine ⟨cs.takeWhile isBlank, (rest.reverse.takeWhile isBlank).reverse, ?_,
    fun c mem => List.mem_takeWhile_imp mem,
    fun c mem => List.mem_takeWhile_imp (List.mem_reverse.1 mem)⟩
  have whole : trim cs ++ (rest.reverse.takeWhile isBlank).reverse = rest := by
    rw [trim, ← List.reverse_append, List.takeWhile_append_dropWhile, List.reverse_reverse]
  rw [List.append_assoc, whole, List.takeWhile_append_dropWhile]

/-- Where a text does not begin with a blank, there is nothing to drop. -/
theorem dropWhile_isBlank_append (some : cs ≠ []) (dark : ∀ c ∈ cs, isBlank c = false) :
    (cs ++ after).dropWhile isBlank = cs ++ after := by
  cases cs with
  | nil => exact absurd rfl some
  | cons c cs => simp [dark c (List.mem_cons_self ..)]

/-- The blanks around a text without blanks are trimmed away. -/
theorem trim_append (some : cs ≠ []) (dark : ∀ c ∈ cs, isBlank c = false)
    (hbefore : ∀ c ∈ before, isBlank c = true) (hafter : ∀ c ∈ after, isBlank c = true) :
    trim (before ++ cs ++ after) = cs := by
  have first : (before ++ cs ++ after).dropWhile isBlank = cs ++ after := by
    rw [List.append_assoc, List.dropWhile_append_of_pos hbefore, dropWhile_isBlank_append some dark]
  have last : (cs ++ after).reverse.dropWhile isBlank = cs.reverse := by
    have alone : (cs.reverse ++ []).dropWhile isBlank = cs.reverse ++ [] :=
      dropWhile_isBlank_append (by simpa using some) (by simpa using dark)
    rw [List.append_nil] at alone
    rw [List.reverse_append,
      List.dropWhile_append_of_pos fun c mem => hafter c (List.mem_reverse.1 mem), alone]
  rw [trim, first, last, List.reverse_reverse]

end Blanks

/-- A text spells an integer: it is a numeral of that integer with blanks around it. -/
def Spells (text : List Char) (n : Int) : Prop :=
  ∃ before numeral after, text = before ++ numeral ++ after ∧
    (∀ c ∈ before, isBlank c = true) ∧ (∀ c ∈ after, isBlank c = true) ∧ Numeral numeral n

theorem Spells.mem (h : Spells cs n) (mem : c ∈ cs) :
    isBlank c = true ∨ c.isDigit = true ∨ c = '+' ∨ c = '-' := by
  obtain ⟨before, numeral, after, rfl, hbefore, hafter, spelt⟩ := h
  simp only [List.mem_append] at mem
  rcases mem with (mem | mem) | mem
  · exact .inl (hbefore c mem)
  · exact .inr (spelt.mem mem)
  · exact .inl (hafter c mem)

/-- No part of a numeral is blank. -/
theorem Numeral.isBlank_eq_false (h : Numeral cs n) (mem : c ∈ cs) : isBlank c = false := by
  rcases h.mem mem with digit | rfl | rfl
  · have place : 48 ≤ c.toNat ∧ c.toNat ≤ 57 := Char.isDigit_iff_toNat.1 digit
    simp [isBlank]
    omega
  · decide
  · decide

/-- **Reading with blanks around is exact** as well. -/
theorem readInteger?_trim_eq_some_iff : readInteger? (trim cs) = some n ↔ Spells cs n := by
  rw [readInteger?_eq_some_iff]
  constructor
  · intro h
    obtain ⟨before, after, whole, hbefore, hafter⟩ := exists_eq_append_trim cs
    exact ⟨before, trim cs, after, whole, hbefore, hafter, h⟩
  · rintro ⟨before, numeral, after, rfl, hbefore, hafter, h⟩
    rwa [trim_append h.ne_nil (fun c => h.isBlank_eq_false) hbefore hafter]

end Text

-- ════════════════════════════════════════════════════════════════════════
-- Answers to the query for the size
-- ════════════════════════════════════════════════════════════════════════

namespace Reply

variable {reply : String}

/-- An answer reports a size if it spells it, and the size fits. -/
theorem size_eq_ok_iff {n : Int} :
    size reply = .ok n ↔ Text.Spells reply.toList n ∧ InRange n := by
  rw [← Text.readInteger?_trim_eq_some_iff]
  unfold size
  cases Text.readInteger? (Text.trim reply.toList) with
  | none => simp
  | some m =>
    dsimp only
    split
    · next fits =>
      constructor
      · intro h
        cases h
        exact ⟨rfl, fits⟩
      · rintro ⟨h, -⟩
        cases h
        rfl
    · next large =>
      constructor
      · intro h
        cases h
      · rintro ⟨h, fits⟩
        cases h
        exact absurd fits large

/-- Any other answer is refused: it spells no integer, or one that does not fit. -/
theorem size_eq_error_iff {e : Failure} :
    size reply = .error e ↔
      e = .unparseableSize reply ∧ (∀ n, ¬Text.Spells reply.toList n) ∨
        e = .sizeOutOfRange reply ∧ ∃ n, Text.Spells reply.toList n ∧ ¬InRange n := by
  simp only [← Text.readInteger?_trim_eq_some_iff]
  unfold size
  cases Text.readInteger? (Text.trim reply.toList) with
  | none => simp [eq_comm]
  | some m =>
    dsimp only
    split
    · next fits => simp [fits]
    · next large => simp [large, eq_comm]

/-- A byte that is not ASCII reads as a character that is in no numeral, and no blank. -/
theorem size_of_not_ascii {line : Bytes} (h : ∃ b ∈ line, 128 ≤ b) :
    size (asciiText line) = .error (.unparseableSize (asciiText line)) := by
  rw [size_eq_error_iff]
  refine .inl ⟨rfl, fun n spells => ?_⟩
  obtain ⟨b, mem, large⟩ := h
  have there : '\uFFFD' ∈ (asciiText line).toList := by
    rw [asciiText, String.toList_ofList, List.mem_map]
    exact ⟨b, mem, if_neg (UInt8.not_lt.2 large)⟩
  rcases spells.mem there with blank | digit | sign | sign
  · exact absurd blank (by decide)
  · exact absurd digit (by decide)
  · exact absurd sign (by decide)
  · exact absurd sign (by decide)

end Reply

end SessionStream
