/-!
# Control sequences of terminals

A terminal does not show a control sequence but obeys it: it moves, erases or colours. One starts
with the escape character and an opening bracket, goes on with digits, semicolons and question
marks, and ends with a letter. A message that may go elsewhere than to a terminal is freed of them.

## Main definitions

- `Text.afterSequence?` — what follows a control sequence at the start of a text
- `Text.withoutSequences` — a text without its control sequences

## Design notes

A sequence that comes about only when another one has been taken away stays. So does one that is
cut short, and one with a character that is neither a parameter nor an ASCII letter.
-/

namespace SessionStream.Text

/-- The characters between the opening bracket of a control sequence and its last letter. -/
def isParameter (c : Char) : Bool :=
  c.isDigit || c = ';' || c = '?'

/-- What follows the control sequence at the start of a text, if there is one. -/
def afterSequence? : List Char → Option (List Char)
  | '\x1b' :: '[' :: cs =>
    match cs.dropWhile isParameter with
    | c :: later => if c.isAlpha then some later else none
    | [] => none
  | _ => none

/-- A control sequence is not empty. -/
theorem length_lt_of_afterSequence? {cs later : List Char} (h : afterSequence? cs = some later) :
    later.length < cs.length := by
  unfold afterSequence? at h
  split at h
  · next rest =>
    have fewer := (List.dropWhile_suffix (l := rest) isParameter).length_le
    split at h
    · next c following parameters =>
      rw [parameters] at fewer
      split at h
      · cases h
        simp only [List.length_cons] at fewer ⊢
        omega
      · cases h
    · cases h
  · cases h

/-- The text without its control sequences. -/
def withoutSequences (cs : List Char) : List Char :=
  match found : afterSequence? cs with
  | some later =>
    have := length_lt_of_afterSequence? found
    withoutSequences later
  | none =>
    match cs with
    | [] => []
    | c :: later => c :: withoutSequences later
termination_by cs.length

end SessionStream.Text
