import SessionStream.Command
import SessionStream.Reply

/-!
# Reading commands

The far side of a connection reads a line as words between single blanks. This file is that reading,
and the proof that every command is read back from its own line.

## Main definitions

- `Command.words` — a command as words
- `Command.ofWords?`, `Command.ofLine?` — the command that words or a line stand for
-/

namespace SessionStream

/-- A text put together with separators holds nothing but its parts and the separator. -/
theorem mem_intercalate {α : Type} {sep a : α} {parts : List (List α)}
    (h : a ∈ [sep].intercalate parts) : a = sep ∨ ∃ part ∈ parts, a ∈ part := by
  induction parts with
  | nil => cases h
  | cons part later ih =>
    cases later with
    | nil => exact .inr ⟨part, List.mem_cons_self .., by simpa [List.intercalate] using h⟩
    | cons next later =>
      have h : a ∈ part ∨ a = sep ∨ a ∈ [sep].intercalate (next :: later) := by
        simpa [List.intercalate] using h
      rcases h with h | rfl | h
      · exact .inr ⟨part, List.mem_cons_self .., h⟩
      · exact .inl rfl
      · refine (ih h).imp id ?_
        rintro ⟨part', hpart, ha⟩
        exact ⟨part', List.mem_cons_of_mem _ hpart, ha⟩

/-- An ASCII character is one byte. -/
theorem utf8EncodeChar_of_ascii {c : Char} (h : c.toNat < 128) :
    String.utf8EncodeChar c = [UInt8.ofNat c.toNat] := by
  have low : c.val.toNat ≤ 0x7f := Nat.le_of_lt_succ h
  unfold String.utf8EncodeChar
  exact if_pos low

theorem asciiChar_ofNat {c : Char} (h : c.toNat < 128) : asciiChar (UInt8.ofNat c.toNat) = c := by
  have value : (UInt8.ofNat c.toNat).toNat = c.toNat := by
    rw [UInt8.toNat_ofNat']
    exact Nat.mod_eq_of_lt (by omega)
  have small : UInt8.ofNat c.toNat < 128 := by
    rw [UInt8.lt_iff_toNat_lt, value]
    exact h
  rw [asciiChar, if_pos small, value, Char.ofNat_toNat]

/-- An ASCII character comes from no byte but its own. -/
theorem eq_ofNat_of_asciiChar {b : UInt8} (h : (asciiChar b).toNat < 128) :
    b = UInt8.ofNat (asciiChar b).toNat := by
  unfold asciiChar at h ⊢
  split
  · next small =>
    have small : b.toNat < 128 := UInt8.lt_iff_toNat_lt.1 small
    have valid : b.toNat.isValidChar := .inl (by omega)
    have value : (Char.ofNat b.toNat).toNat = b.toNat := by
      rw [Char.ofNat, dif_pos valid]
      rfl
    rw [value, UInt8.ofNat_toNat]
  · next large =>
    rw [if_neg large] at h
    exact absurd h (by decide)

/-- Bytes that read as an ASCII text are the bytes of that text. -/
theorem eq_utf8_of_asciiText {bs : Bytes} {text : String} (h : asciiText bs = text)
    (ascii : ∀ c ∈ text.toList, c.toNat < 128) : bs = utf8 text := by
  subst h
  unfold utf8
  rw [asciiText, String.toList_ofList] at ascii ⊢
  induction bs with
  | nil => rfl
  | cons b bs ih =>
    rw [List.map_cons] at ascii ⊢
    have hb := ascii _ (List.mem_cons_self ..)
    rw [List.flatMap_cons, utf8EncodeChar_of_ascii hb, ← eq_ofNat_of_asciiChar hb,
      ← ih fun c hc => ascii c (List.mem_cons_of_mem _ hc)]
    rfl

/-- A text in ASCII is read back from its bytes. -/
theorem asciiText_flatMap {cs : List Char} (h : ∀ c ∈ cs, c.toNat < 128) :
    asciiText (cs.flatMap String.utf8EncodeChar) = String.ofList cs := by
  unfold asciiText
  congr 1
  induction cs with
  | nil => rfl
  | cons c cs ih =>
    have hc := h c (List.mem_cons_self ..)
    rw [List.flatMap_cons, utf8EncodeChar_of_ascii hc, List.map_append,
      ih fun c hc => h c (List.mem_cons_of_mem _ hc), List.map_singleton, asciiChar_ofNat hc]
    rfl

-- ════════════════════════════════════════════════════════════════════════
-- Numbers
-- ════════════════════════════════════════════════════════════════════════

/-- The text of an integer, as characters. -/
def numeral (n : Int) : List Char :=
  (toString n).toList

theorem numeral_eq (n : Int) : numeral n =
    if 0 ≤ n then Nat.toDigits 10 n.toNat else '-' :: Nat.toDigits 10 (-n).toNat := by
  unfold numeral
  rw [Int.toString_eq_repr, Int.repr_eq_if]
  split
  · exact Nat.toList_repr
  · rw [String.toList_append, Nat.toList_repr]
    rfl

/-- The text of an integer holds nothing but digits and a sign. -/
theorem isDigit_of_mem_numeral {n : Int} {c : Char} (h : c ∈ numeral n) :
    c.isDigit = true ∨ c = '-' := by
  have digits : ∀ {m : Nat}, c ∈ Nat.toDigits 10 m → c.isDigit = true :=
    fun h => Nat.isDigit_of_mem_toDigits (by decide) (by decide) h
  rw [numeral_eq] at h
  split at h
  · exact .inl (digits h)
  · rcases List.mem_cons.1 h with rfl | h
    · exact .inr rfl
    · exact .inl (digits h)

/-- An integer is read back from its text. -/
theorem readInteger?_numeral (n : Int) : Text.readInteger? (numeral n) = some n := by
  rw [numeral_eq]
  split
  · next nonneg =>
    have digits : ∀ c ∈ Nat.toDigits 10 n.toNat, c.isDigit = true :=
      fun c hc => Nat.isDigit_of_mem_toDigits (by decide) (by decide) hc
    have read := Text.readNatural?_toDigits n.toNat
    unfold Text.readInteger?
    split
    · next ds start =>
      rw [start] at digits
      exact absurd (digits '+' (List.mem_cons_self ..)) (by decide)
    · next ds start =>
      rw [start] at digits
      exact absurd (digits '-' (List.mem_cons_self ..)) (by decide)
    · rw [read]
      simp only [Option.map_some, Int.ofNat_eq_natCast, Int.toNat_of_nonneg nonneg]
  · next negative =>
    simp only [Text.readInteger?, Text.readNatural?_toDigits, Option.map_some, Option.some.injEq,
      Int.ofNat_eq_natCast]
    omega

-- ════════════════════════════════════════════════════════════════════════
-- Words
-- ════════════════════════════════════════════════════════════════════════

/-- The direction that a word names. -/
def Direction.ofWord? (word : List Char) : Option Direction :=
  if word = "read".toList then some .read
  else if word = "write".toList then some .write
  else none

theorem Direction.ofWord?_word (direction : Direction) :
    ofWord? direction.word.toList = some direction := by
  cases direction <;> decide

namespace Command

/-- The words of a command. -/
def words : Command → List (List Char)
  | newSession direction id => ["new_session".toList, direction.word.toList, numeral id]
  | runSession id => ["run_session".toList, numeral id]
  | transfer direction offset => [direction.word.toList, numeral offset]
  | stat => ["stat".toList]

/-- The command that words stand for. -/
def ofWords? : List (List Char) → Option Command
  | [word] => if word = "stat".toList then some stat else none
  | [word, number] => do
    let n ← Text.readInteger? number
    if word = "run_session".toList then some (runSession n)
    else
      let direction ← Direction.ofWord? word
      some (transfer direction n)
  | [word, direction, number] =>
    if word = "new_session".toList then do
      let direction ← Direction.ofWord? direction
      let n ← Text.readInteger? number
      some (newSession direction n)
    else none
  | _ => none

/-- The command that a line stands for. -/
def ofLine? (line : Bytes) : Option Command :=
  if line.getLast? = some Reply.lineEnd then
    ofWords? ((asciiText line.dropLast).toList.splitOn ' ')
  else none

theorem ofWords?_words (command : Command) : ofWords? command.words = some command := by
  cases command with
  | newSession direction id =>
    simp [words, ofWords?, Direction.ofWord?_word, readInteger?_numeral]
  | runSession id => simp [words, ofWords?, readInteger?_numeral]
  | transfer direction offset =>
    have other : direction.word.toList ≠ "run_session".toList := by cases direction <;> decide
    simp only [words, ofWords?, readInteger?_numeral, Option.bind_eq_bind, Option.bind_some,
      if_neg other, Direction.ofWord?_word]
  | stat => simp [words, ofWords?]

/-- The text of a command is its words with single blanks between them. -/
theorem toList_text (command : Command) :
    command.text.toList = [' '].intercalate command.words := by
  cases command with
  | newSession direction id =>
    simp [text, words, numeral, toString, List.intercalate]
  | runSession id => simp [text, words, numeral, toString, List.intercalate]
  | transfer direction offset => simp [text, words, numeral, toString, List.intercalate]
  | stat => rfl

/-- Printable ASCII characters but for the blank. -/
def IsDark (c : Char) : Prop :=
  32 < c.toNat ∧ c.toNat < 128

theorem isDark_numeral {n : Int} {c : Char} (h : c ∈ numeral n) : IsDark c := by
  rcases isDigit_of_mem_numeral h with h | rfl
  · simp only [Char.isDigit, Bool.and_eq_true, decide_eq_true_eq, UInt32.le_iff_toNat_le] at h
    unfold IsDark
    change 48 ≤ c.toNat ∧ c.toNat ≤ 57 at h
    omega
  · exact ⟨by decide, by decide⟩

theorem isDark_of_mem_words {command : Command} {word : List Char} (hw : word ∈ command.words)
    {c : Char} (hc : c ∈ word) : IsDark c := by
  have fixed : ∀ text ∈ ["new_session", "run_session", "stat", "read", "write"],
      ∀ c ∈ text.toList, 32 < c.toNat ∧ c.toNat < 128 := by simp
  have direction : ∀ direction : Direction, ∀ c ∈ direction.word.toList, IsDark c := by
    intro direction
    cases direction
    · exact fixed "read" (by simp)
    · exact fixed "write" (by simp)
  cases command with
  | newSession d id =>
    simp only [words, List.mem_cons, List.not_mem_nil, or_false] at hw
    rcases hw with rfl | rfl | rfl
    · exact fixed "new_session" (by simp) c hc
    · exact direction d c hc
    · exact isDark_numeral hc
  | runSession id =>
    simp only [words, List.mem_cons, List.not_mem_nil, or_false] at hw
    rcases hw with rfl | rfl
    · exact fixed "run_session" (by simp) c hc
    · exact isDark_numeral hc
  | transfer d offset =>
    simp only [words, List.mem_cons, List.not_mem_nil, or_false] at hw
    rcases hw with rfl | rfl
    · exact direction d c hc
    · exact isDark_numeral hc
  | stat =>
    simp only [words, List.mem_cons, List.not_mem_nil, or_false] at hw
    subst hw
    exact fixed "stat" (by simp) c hc

/-- The words are found again between the blanks. -/
theorem splitOn_text (command : Command) : command.text.toList.splitOn ' ' = command.words := by
  rw [toList_text]
  refine List.splitOn_intercalate ' ' (fun word hw blank => ?_) ?_
  · exact absurd (isDark_of_mem_words hw blank).1 (by decide)
  · cases command <;> exact List.cons_ne_nil _ _

/-- The text of a command is printable ASCII. -/
theorem printable_of_mem_text {command : Command} {c : Char} (h : c ∈ command.text.toList) :
    32 ≤ c.toNat ∧ c.toNat < 128 := by
  rw [toList_text] at h
  rcases mem_intercalate h with rfl | ⟨word, hw, hc⟩
  · exact ⟨by decide, by decide⟩
  · obtain ⟨low, high⟩ := isDark_of_mem_words hw hc
    exact ⟨Nat.le_of_lt low, high⟩

/-- The line of a command ends with the only line feed in it. -/
theorem lineEnd_not_mem_utf8_text (command : Command) : Reply.lineEnd ∉ utf8 command.text := by
  unfold utf8
  rw [List.mem_flatMap]
  rintro ⟨c, hc, hb⟩
  obtain ⟨low, high⟩ := printable_of_mem_text hc
  rw [utf8EncodeChar_of_ascii high, List.mem_singleton] at hb
  have value := congrArg UInt8.toNat hb
  rw [UInt8.toNat_ofNat', Nat.mod_eq_of_lt (by omega)] at value
  have feed : Reply.lineEnd.toNat = 10 := rfl
  omega

theorem line_ne_nil (command : Command) : command.line ≠ [] :=
  List.append_ne_nil_of_right_ne_nil _ (List.cons_ne_nil _ _)

/-- A part of a line that leaves something of it does not reach its end. -/
theorem lineEnd_not_mem_of_line_eq {command : Command} {bytes left : Bytes}
    (h : command.line = bytes ++ left) (hleft : left ≠ []) : Reply.lineEnd ∉ bytes := by
  have htext : utf8 command.text = bytes ++ left.dropLast := by
    rw [← List.dropLast_append_of_ne_nil hleft, ← h]
    exact List.dropLast_concat.symm
  intro hmem
  refine lineEnd_not_mem_utf8_text command ?_
  rw [htext]
  exact List.mem_append_left _ hmem

/-- **Reading**: every command is read back from its line. -/
theorem ofLine?_line (command : Command) : ofLine? command.line = some command := by
  have hend : command.line.getLast? = some Reply.lineEnd := List.getLast?_concat
  have hbegin : command.line.dropLast = utf8 command.text := List.dropLast_concat
  have ascii : ∀ c ∈ command.text.toList, c.toNat < 128 := fun c hc => (printable_of_mem_text hc).2
  unfold ofLine?
  rw [if_pos hend, hbegin, utf8, asciiText_flatMap ascii, String.toList_ofList, splitOn_text,
    ofWords?_words]

/-- Two commands with the same line are the same. -/
theorem line_injective {a b : Command} (h : a.line = b.line) : a = b := by
  have both := congrArg ofLine? h
  rw [ofLine?_line, ofLine?_line] at both
  exact Option.some.inj both

end Command

end SessionStream
