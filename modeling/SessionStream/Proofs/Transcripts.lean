import SessionStream.Proofs.Decoding
import SessionStream.Proofs.Numerals

/-!
# Transcripts

Commands that are sent one behind the other make a transcript. The server cuts it behind every line
feed and reads each line by its words: the first one says which command it is, a direction is a word
of its own, and a number is a decimal integer. What it reads are the commands that were sent.

The server is more liberal than `Command.ofLine?`, which reads nothing but the lines of commands:
blanks around the words do not matter to it, nor do further words in the first line of a connection.
On the other hand it does not read a number of more digits than it would write.

## Main definitions

- `Wire.linesOf` — bytes cut into lines
- `Text.wordsOf`, `Text.integer?` — the words of a text, and the integer that a word stands for
- `Command.ofServer?` — a line as the server reads it
- `Command.transcript` — the lines of commands, one behind the other

## Main results

- `Wire.linesOf_append` — the first line, and the lines behind it
- `Command.ofServer?_line` — the server reads a command back from its line
- `Command.transcript_decodes` — the server reads commands back from their transcript
- `Command.transcript_of_long_id` — a command that has no line
-/

namespace SessionStream

-- ════════════════════════════════════════════════════════════════════════
-- Lines
-- ════════════════════════════════════════════════════════════════════════

/-- Bytes cut behind every line feed. What is left behind the last one is a line as well. -/
def Wire.linesOf : Bytes → List Bytes
  | [] => []
  | b :: later =>
    if b = Reply.lineEnd then [b] :: linesOf later
    else
      match linesOf later with
      | [] => [[b]]
      | line :: lines => (b :: line) :: lines

theorem Wire.linesOf_append {text rest : Bytes} (plain : Reply.lineEnd ∉ text) :
    linesOf (text ++ Reply.lineEnd :: rest) = (text ++ [Reply.lineEnd]) :: linesOf rest := by
  induction text with
  | nil => rw [List.nil_append, linesOf, if_pos rfl, List.nil_append]
  | cons b text ih =>
    rw [List.mem_cons, not_or] at plain
    rw [List.cons_append, linesOf, if_neg (Ne.symm plain.1), ih plain.2]
    rfl

-- ════════════════════════════════════════════════════════════════════════
-- Words
-- ════════════════════════════════════════════════════════════════════════

namespace Text

variable {cs after : List Char} {words : List (List Char)} {c : Char} {n : Int}

/-- The words of a text: what stands between its blanks. -/
def wordsOf (cs : List Char) : List (List Char) :=
  (cs.splitOnP isBlank).filter (· ≠ [])

/-- The integer that a text stands for, with or without blanks around it. One with too many digits
is not read. -/
def integer? (cs : List Char) : Option Int :=
  if cs.countP Char.isDigit ≤ maxDigits then readInteger? (trim cs) else none

/-- Words that hold something, and no blanks. -/
def AreDark (words : List (List Char)) : Prop :=
  ∀ word ∈ words, word ≠ [] ∧ ∀ c ∈ word, isBlank c = false

/-- Words are found again between single blanks. -/
theorem wordsOf_intercalate (dark : AreDark words) : wordsOf ([' '].intercalate words) = words := by
  unfold wordsOf
  induction words with
  | nil => rfl
  | cons word later ih =>
    obtain ⟨some, whole⟩ := dark word (List.mem_cons_self ..)
    have kept (rest : List (List Char)) :
        (word :: rest).filter (· ≠ []) = word :: rest.filter (· ≠ []) :=
      List.filter_cons_of_pos (decide_eq_true some)
    cases later with
    | nil =>
      rw [List.intercalate_singleton, List.splitOnP_eq_singleton whole, kept, List.filter_nil]
    | cons next later =>
      rw [List.intercalate_cons_cons, List.append_assoc, List.singleton_append,
        List.splitOnP_append_cons_of_forall_mem whole ' ' (by decide), kept,
        ih fun w mem => dark w (List.mem_cons_of_mem _ mem)]

/-- Words with single blanks between them begin with one of the words, and end with one. -/
theorem exists_intercalate_eq_append (some : words ≠ []) :
    (∃ word ∈ words, ∃ later, [' '].intercalate words = word ++ later) ∧
      ∃ word ∈ words, ∃ front, [' '].intercalate words = front ++ word := by
  induction words with
  | nil => exact absurd rfl some
  | cons word words ih =>
    cases words with
    | nil =>
      rw [List.intercalate_singleton]
      exact ⟨⟨word, List.mem_cons_self .., [], (List.append_nil _).symm⟩,
        word, List.mem_cons_self .., [], rfl⟩
    | cons next words =>
      obtain ⟨-, last, mem, front, ends⟩ := ih (List.cons_ne_nil _ _)
      rw [List.intercalate_cons_cons, ends, ← List.append_assoc]
      exact ⟨⟨word, List.mem_cons_self .., [' '] ++ front ++ last, by simp⟩,
        last, List.mem_cons_of_mem _ mem, _, rfl⟩

/-- Behind words with single blanks between them, only the blanks at the end are trimmed away. -/
theorem trim_intercalate_append (dark : AreDark words) (some : words ≠ [])
    (hafter : ∀ c ∈ after, isBlank c = true) :
    trim ([' '].intercalate words ++ after) = [' '].intercalate words := by
  obtain ⟨⟨first, mem, later, begins⟩, last, mem', front, ends⟩ :=
    exists_intercalate_eq_append some
  have left : ([' '].intercalate words ++ after).dropWhile isBlank =
      [' '].intercalate words ++ after := by
    rw [begins, List.append_assoc]
    exact dropWhile_isBlank_append (dark first mem).1 (dark first mem).2
  have right : ([' '].intercalate words ++ after).reverse.dropWhile isBlank =
      ([' '].intercalate words).reverse := by
    rw [List.reverse_append,
      List.dropWhile_append_of_pos fun c mem => hafter c (List.mem_reverse.1 mem), ends,
      List.reverse_append]
    exact dropWhile_isBlank_append (by simpa using (dark last mem').1)
      (by simpa using (dark last mem').2)
  rw [trim, left, right, List.reverse_reverse]

theorem countP_isDigit_toDigits_le {m k : Nat} (some : 0 < k) (small : m < Nat.pow 10 k) :
    (Nat.toDigits 10 m).countP Char.isDigit ≤ k :=
  List.countP_le_length.trans ((Nat.length_toDigits_le_iff (by decide) some).2 small)

/-- An integer that is written down is read back from its text. -/
theorem integer?_numeral (writable : Writable n) : integer? (numeral n) = some n := by
  have numeral_n : Numeral (numeral n) n := readInteger?_eq_some_iff.1 (readInteger?_numeral n)
  have short {m : Nat} (le : m ≤ n.natAbs) :
      (Nat.toDigits 10 m).countP Char.isDigit ≤ maxDigits := by
    have small : m < textBound := Nat.lt_of_le_of_lt le writable
    unfold textBound at small
    exact countP_isDigit_toDigits_le (by decide) small
  have few : (numeral n).countP Char.isDigit ≤ maxDigits := by
    rw [numeral_eq]
    split
    · exact short (by omega)
    · rw [List.countP_cons_of_neg (by decide)]
      exact short (by omega)
  have bare : trim (numeral n) = numeral n := by
    have alone : trim ([] ++ numeral n ++ []) = numeral n :=
      trim_append numeral_n.ne_nil (fun c => numeral_n.isBlank_eq_false) nofun nofun
    rwa [List.nil_append, List.append_nil] at alone
  rw [integer?, if_pos few, bare, readInteger?_numeral]

end Text

-- ════════════════════════════════════════════════════════════════════════
-- The server
-- ════════════════════════════════════════════════════════════════════════

namespace Command

variable {command : Command} {commands : List Command} {c : Char} {b : UInt8}

/-- The command that binds a connection to a session, by its words. Further words do not matter. -/
def ofHandshake? : List (List Char) → Option Command
  | [] => none
  | kind :: arguments =>
    if kind = "new_session".toList then do
      let direction ← arguments[0]? >>= Direction.ofWord?
      let id ← arguments[1]? >>= Text.integer?
      some (newSession direction id)
    else if kind = "run_session".toList then
      (arguments[0]? >>= Text.integer?).map runSession
    else none

/-- The command on a control connection. Its word ends before the first space, and what is behind
that is its number. -/
def ofRequest? (text : List Char) : Option Command :=
  let kind := text.takeWhile (· ≠ ' ')
  if kind = "stat".toList then some stat
  else do
    let direction ← Direction.ofWord? kind
    let offset ← Text.integer? ((text.dropWhile (· ≠ ' ')).drop 1)
    some (transfer direction offset)

/-- A line as the server reads it. A byte that is not ASCII spoils it, and blanks around it do not
matter. -/
def ofServer? (line : Bytes) : Option Command :=
  if line.all (· < 128) then
    let text := Text.trim (asciiText line).toList
    ofHandshake? (Text.wordsOf text) <|> ofRequest? text
  else none

/-- The lines of commands, one behind the other, if all of them can be written down. -/
def transcript : List Command → Except Failure Bytes
  | [] => .ok []
  | command :: later => do
    let line ← command.write
    let lines ← transcript later
    pure (line ++ lines)

theorem isBlank_of_isDark (dark : IsDark c) : Text.isBlank c = false := by
  obtain ⟨low, high⟩ := dark
  simp [Text.isBlank]
  omega

/-- The words of a command hold something, and no blanks. -/
theorem areDark_words (command : Command) : Text.AreDark command.words := by
  have number (n : Int) : [] ≠ numeral n :=
    (Text.readInteger?_eq_some_iff.1 (readInteger?_numeral n)).ne_nil.symm
  have way (direction : Direction) : [] ≠ direction.word.toList := by cases direction <;> decide
  intro word mem
  refine ⟨?_, fun c inside => isBlank_of_isDark (isDark_of_mem_words mem inside)⟩
  rintro rfl
  cases command with
  | newSession direction id => simp [words, way, number] at mem
  | runSession id => simp [words, number] at mem
  | transfer direction offset => simp [words, way, number] at mem
  | stat => simp [words] at mem

/-- The line of a command is ASCII. -/
theorem lt_of_mem_line (mem : b ∈ command.line) : b < 128 := by
  rw [line, List.mem_append, List.mem_singleton] at mem
  rcases mem with mem | rfl
  · obtain ⟨c, inside, there⟩ := List.mem_flatMap.1 mem
    have ascii := (printable_of_mem_text inside).2
    rw [utf8EncodeChar_of_ascii ascii, List.mem_singleton] at there
    rw [there, UInt8.lt_iff_toNat_lt, UInt8.toNat_ofNat', Nat.mod_eq_of_lt (by omega)]
    exact ascii
  · decide

/-- The text that the server gets to see. -/
theorem toList_asciiText_line (command : Command) :
    (asciiText command.line).toList = [' '].intercalate command.words ++ ['\n'] := by
  have ascii : ∀ c ∈ command.text.toList ++ ['\n'], c.toNat < 128 := by
    intro c mem
    rcases List.mem_append.1 mem with mem | mem
    · exact (printable_of_mem_text mem).2
    · rw [List.mem_singleton.1 mem]
      decide
  have bytes : command.line = (command.text.toList ++ ['\n']).flatMap String.utf8EncodeChar := by
    rw [List.flatMap_append]
    rfl
  rw [bytes, asciiText_flatMap ascii, String.toList_ofList, toList_text]

/-- The announcement of a transfer is read by the space between its two words. -/
theorem ofRequest?_transfer {direction : Direction} {offset : Int}
    (writable : Text.Writable offset) :
    ofRequest? ([' '].intercalate (transfer direction offset).words) =
      some (transfer direction offset) := by
  have plain : ∀ c ∈ direction.word.toList, decide (c ≠ ' ') = true := by
    intro c inside
    have there : direction.word.toList ∈ (transfer direction offset).words := List.mem_cons_self ..
    refine decide_eq_true fun space => ?_
    exact absurd (space ▸ isDark_of_mem_words there inside).1 (by decide)
  have other : direction.word.toList ≠ "stat".toList := by cases direction <;> decide
  have first (rest : List Char) :
      (direction.word.toList ++ ' ' :: rest).takeWhile (· ≠ ' ') = direction.word.toList := by
    rw [List.takeWhile_append_of_pos plain, List.takeWhile_cons_of_neg (by decide), List.append_nil]
  have second (rest : List Char) :
      (direction.word.toList ++ ' ' :: rest).dropWhile (· ≠ ' ') = ' ' :: rest := by
    rw [List.dropWhile_append_of_pos plain, List.dropWhile_cons_of_neg (by decide)]
  rw [words, List.intercalate_cons_cons, List.intercalate_singleton, List.append_assoc,
    List.singleton_append, ofRequest?, first, second, if_neg other, Direction.ofWord?_word,
    List.drop_one, List.tail_cons, Text.integer?_numeral writable]
  rfl

/-- **Reading a line**: the server reads a command back from its line. -/
theorem ofServer?_line (writable : command.Writable) : ofServer? command.line = some command := by
  have trimmed : Text.trim (asciiText command.line).toList = [' '].intercalate command.words := by
    rw [toList_asciiText_line]
    exact Text.trim_intercalate_append (areDark_words command)
      (by cases command <;> exact List.cons_ne_nil _ _) (List.forall_mem_singleton.2 (by decide))
  have ascii : command.line.all (· < 128) = true :=
    List.all_eq_true.2 fun b mem => decide_eq_true (lt_of_mem_line mem)
  rw [ofServer?, if_pos ascii]
  dsimp only
  rw [trimmed, Text.wordsOf_intercalate (areDark_words command)]
  cases command with
  | newSession direction id =>
    simp [words, ofHandshake?, Direction.ofWord?_word, Text.integer?_numeral writable]
  | runSession id => simp [words, ofHandshake?, Text.integer?_numeral writable]
  | transfer direction offset =>
    have unbound : ofHandshake? (transfer direction offset).words = none := by
      cases direction <;> rfl
    rw [unbound, ofRequest?_transfer writable]
    rfl
  | stat => decide

-- ════════════════════════════════════════════════════════════════════════
-- Commands one behind the other
-- ════════════════════════════════════════════════════════════════════════

/-- A transcript is made of lines, unless a command has none. -/
theorem transcript_eq (commands : List Command) :
    transcript commands = if ∀ command ∈ commands, command.Writable then
      .ok (commands.flatMap line) else .error .numberTooLong := by
  induction commands with
  | nil => rfl
  | cons command later ih =>
    rw [transcript, ih, write, requireWritable]
    by_cases first : command.Writable
    · by_cases others : ∀ other ∈ later, other.Writable
      · rw [if_pos first, if_pos others, if_pos (List.forall_mem_cons.2 ⟨first, others⟩)]
        rfl
      · rw [if_pos first, if_neg others, if_neg fun all => others (List.forall_mem_cons.1 all).2]
        rfl
    · rw [if_neg first, if_neg fun all => first (List.forall_mem_cons.1 all).1]
      rfl

/-- The lines of a transcript are those of its commands. -/
theorem linesOf_flatMap_line (commands : List Command) :
    Wire.linesOf (commands.flatMap line) = commands.map line := by
  induction commands with
  | nil => rfl
  | cons command later ih =>
    have cut : Wire.linesOf (utf8 command.text ++ Reply.lineEnd :: later.flatMap line) = _ :=
      Wire.linesOf_append (lineEnd_not_mem_utf8_text command)
    rw [List.flatMap_cons, line, List.append_assoc, List.singleton_append, List.map_cons, ← ih]
    exact cut

/-- **Reading back**: a server that cuts a transcript into lines and reads each of them gets the
commands again, so that no other commands have the same transcript; and each line is ASCII, with one
line feed, at its end. There is a transcript unless the number of a command has too many digits to
be written down. -/
theorem transcript_decodes (commands : List Command) :
    (∀ e, transcript commands = .error e ↔
      e = .numberTooLong ∧ ∃ command ∈ commands, ¬command.Writable) ∧
      ∀ bytes, transcript commands = .ok bytes →
        (Wire.linesOf bytes).map ofServer? = commands.map some ∧
          (∀ others, transcript others = .ok bytes → others = commands) ∧
          ∀ line ∈ Wire.linesOf bytes, (∀ b ∈ line, b < 128) ∧
            ∃ text, line = text ++ [Reply.lineEnd] ∧ Reply.lineEnd ∉ text := by
  have read {commands : List Command} {bytes : Bytes} (made : transcript commands = .ok bytes) :
      Wire.linesOf bytes = commands.map line ∧
        (Wire.linesOf bytes).map ofServer? = commands.map some := by
    rw [transcript_eq] at made
    split at made
    · next writable =>
      cases made
      refine ⟨linesOf_flatMap_line commands, ?_⟩
      rw [linesOf_flatMap_line, List.map_map]
      exact List.map_congr_left fun command mem => ofServer?_line (writable command mem)
    · cases made
  refine ⟨fun e => ?_, fun bytes made => ⟨(read made).2, fun others made' => ?_, ?_⟩⟩
  · rw [transcript_eq]
    split
    · next writable => simpa using fun _ => writable
    · next long => simpa [eq_comm] using fun _ => long
  · have same := (read made').2.symm.trans (read made).2
    exact (List.map_inj_right fun _ _ => Option.some.inj).1 same
  · intro line' mem
    rw [(read made).1] at mem
    obtain ⟨command, -, rfl⟩ := List.mem_map.1 mem
    exact ⟨fun b => lt_of_mem_line, utf8 command.text, rfl, lineEnd_not_mem_utf8_text command⟩

/-- All kinds of commands, with numbers on both sides of zero and a number that just can be
written. -/
theorem transcript_decodes_kinds :
    let commands : List Command := [newSession .write (-7), runSession 0, stat,
      transfer .read (Nat.pow 10 4300 - 1 : Nat), stat]
    ∃ bytes, transcript commands = .ok bytes ∧
      (Wire.linesOf bytes).map ofServer? = commands.map some := by
  intro commands
  cases made : transcript commands with
  | error e =>
    obtain ⟨-, command, mem, long⟩ := ((transcript_decodes commands).1 e).1 made
    have writable : ∀ command ∈ commands, command.Writable := by decide +kernel
    exact absurd (writable command mem) long
  | ok bytes => exact ⟨bytes, rfl, ((transcript_decodes commands).2 bytes made).1⟩

/-- A session whose number has one digit too many: there is no line that creates it. -/
theorem transcript_of_long_id :
    transcript [newSession .write (Nat.pow 10 4300)] = .error .numberTooLong := by
  decide +kernel

end Command

end SessionStream
