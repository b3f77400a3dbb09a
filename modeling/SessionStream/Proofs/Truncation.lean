import SessionStream.Address

/-!
# Targets that are too long

The room in the system's address structure is counted in bytes, and a target that does not fit is
cut behind as many of its bytes as do. The cut can go through the bytes of a character. What is kept
is the text that the remaining bytes spell, without the character that was cut apart, and that is
the longest beginning of the target that fits. An address can be named by its own target again.

## Main definitions

- `firstChar?` — the character whose bytes come first
- `legible` — the text that bytes spell, without the bytes that spell nothing
- `Address.Keeps` — what an address keeps of the name that it was given

## Main results

- `legible_utf8` — a text is read back from its bytes
- `Address.legible_take` — to cut the bytes is to keep the longest beginning that fits
- `Address.keeps_of_ofTarget` — the address of a target
- `Address.longest_beginning` — the targets that have an address, and which one it is
-/

namespace SessionStream

variable {bs : Bytes} {b : UInt8} {c : Char} {cs p : List Char} {room n : Nat}

-- ════════════════════════════════════════════════════════════════════════
-- The text that bytes spell
-- ════════════════════════════════════════════════════════════════════════

/-- The character whose bytes come first. -/
def firstChar? (bs : Bytes) : Option Char :=
  bs.toByteArray.utf8DecodeChar? 0

theorem firstChar?_eq_some_iff : firstChar? bs = some c ↔ String.utf8EncodeChar c <+: bs := by
  unfold firstChar?
  constructor
  · intro read
    obtain ⟨rest, whole⟩ := ByteArray.exists_of_utf8DecodeChar?_eq_some read
    have listed := congrArg (fun bytes : ByteArray => bytes.data.toList) whole
    simp only [ByteArray.data_append, List.toList_data_toByteArray, Array.toList_append] at listed
    exact ⟨rest.data.toList, listed.symm⟩
  · rintro ⟨rest, rfl⟩
    rw [List.toByteArray_append]
    exact ByteArray.utf8DecodeChar?_utf8EncodeChar_append

/-- The text that bytes spell. A byte at which no character begins is left out. -/
def legible : Bytes → List Char
  | [] => []
  | b :: bs =>
    match firstChar? (b :: bs) with
    | some c => c :: legible (bs.drop (c.utf8Size - 1))
    | none => legible bs
termination_by bs => bs.length
decreasing_by
  all_goals simp only [List.length_drop, List.length_cons]; omega

/-- The bytes of a character spell it. -/
theorem legible_append (c : Char) (rest : Bytes) :
    legible (String.utf8EncodeChar c ++ rest) = c :: legible rest := by
  have read : firstChar? (String.utf8EncodeChar c ++ rest) = some c :=
    firstChar?_eq_some_iff.2 (List.prefix_append ..)
  have size : (String.utf8EncodeChar c).length = c.utf8Size := String.length_utf8EncodeChar c
  cases spelt : String.utf8EncodeChar c with
  | nil =>
    rw [spelt] at size
    exact absurd size.symm (Nat.ne_of_gt c.utf8Size_pos)
  | cons b bs =>
    rw [spelt, List.cons_append] at read
    rw [spelt, List.length_cons] at size
    rw [List.cons_append, legible, read]
    dsimp only
    rw [← size, Nat.add_sub_cancel, List.drop_left]

/-- **Reading back**: a text is what its bytes spell. -/
theorem legible_utf8 (text : String) : legible (utf8 text) = text.toList := by
  unfold utf8
  induction text.toList with
  | nil => rw [List.flatMap_nil, legible]
  | cons c cs ih => rw [List.flatMap_cons, legible_append, ih]

/-- A character begins with a byte at which characters can begin. -/
theorem isUTF8FirstByte_of_firstChar? (read : firstChar? (b :: bs) = some c) :
    b.IsUTF8FirstByte := by
  obtain ⟨rest, spelt⟩ := firstChar?_eq_some_iff.1 read
  have some : 0 < (String.utf8EncodeChar c).length := by
    rw [String.length_utf8EncodeChar]
    exact c.utf8Size_pos
  have first : b = (String.utf8EncodeChar c)[0] := by
    have same := congrArg (·[0]?) spelt
    rw [List.getElem?_append_left some, List.getElem?_eq_getElem some] at same
    exact (Option.some.inj same).symm
  rw [first]
  exact UInt8.isUTF8FirstByte_getElem_zero_utf8EncodeChar

/-- Bytes at which no character can begin spell nothing. -/
theorem legible_eq_nil (inner : ∀ b ∈ bs, ¬b.IsUTF8FirstByte) : legible bs = [] := by
  induction bs with
  | nil => rw [legible]
  | cons b bs ih =>
    have unread : firstChar? (b :: bs) = none := by
      rw [Option.eq_none_iff_forall_ne_some]
      intro c read
      exact inner b (List.mem_cons_self ..) (isUTF8FirstByte_of_firstChar? read)
    rw [legible, unread]
    exact ih fun b mem => inner b (List.mem_cons_of_mem _ mem)

/-- No character is read from a part of the bytes of one. -/
theorem firstChar?_take_char (short : n < c.utf8Size) :
    firstChar? ((String.utf8EncodeChar c).take n) = none := by
  rw [Option.eq_none_iff_forall_ne_some]
  intro d read
  have begins := (firstChar?_eq_some_iff.1 read).trans (List.take_prefix ..)
  have whole : firstChar? (String.utf8EncodeChar c) = some c :=
    firstChar?_eq_some_iff.2 (List.prefix_refl _)
  -- It could only be the character itself, and there are not enough bytes for that.
  rw [← firstChar?_eq_some_iff, whole] at begins
  cases begins
  have longer := (firstChar?_eq_some_iff.1 read).length_le
  rw [List.length_take, String.length_utf8EncodeChar] at longer
  omega

/-- A part of the bytes of a character that is not all of them spells nothing. -/
theorem legible_take_char (short : n < c.utf8Size) :
    legible ((String.utf8EncodeChar c).take n) = [] := by
  have unread := firstChar?_take_char short
  cases spelt : (String.utf8EncodeChar c).take n with
  | nil => rw [legible]
  | cons b bs =>
    have begins : b :: bs <+: String.utf8EncodeChar c := spelt ▸ List.take_prefix ..
    rw [spelt] at unread
    rw [legible, unread]
    -- Behind the first byte of a character no other one can begin.
    refine legible_eq_nil fun d mem => ?_
    obtain ⟨i, inside, rfl⟩ := List.getElem_of_mem mem
    have there : i + 1 < (b :: bs).length := Nat.succ_lt_succ inside
    rw [show bs[i] = (b :: bs)[i + 1] from rfl, begins.getElem there,
      UInt8.isUTF8FirstByte_getElem_utf8EncodeChar]
    exact Nat.succ_ne_zero i

-- ════════════════════════════════════════════════════════════════════════
-- The longest beginning that fits
-- ════════════════════════════════════════════════════════════════════════

namespace Address

/-- **Cutting bytes.** What the bytes up to a cut spell is the longest beginning that fits. -/
theorem legible_take (room : Nat) (cs : List Char) :
    legible ((cs.flatMap String.utf8EncodeChar).take room) = prefixWithin room cs := by
  induction cs generalizing room with
  | nil => rw [List.flatMap_nil, List.take_nil, legible, prefixWithin]
  | cons c cs ih =>
    have size : (String.utf8EncodeChar c).length = c.utf8Size := String.length_utf8EncodeChar c
    rw [List.flatMap_cons, prefixWithin]
    split
    · next fits =>
      rw [List.take_append, List.take_of_length_le (size ▸ fits), size, legible_append, ih]
    · next large =>
      rw [List.take_append_of_le_length (by omega), legible_take_char (Nat.lt_of_not_le large)]

theorem prefixWithin_isPrefix (room : Nat) (cs : List Char) : prefixWithin room cs <+: cs := by
  induction cs generalizing room with
  | nil => exact List.prefix_refl _
  | cons c cs ih =>
    rw [prefixWithin]
    split
    · exact (List.prefix_cons_inj c).2 (ih _)
    · exact List.nil_prefix

/-- A beginning that fits is a beginning of the longest one. -/
theorem prefix_prefixWithin (begins : p <+: cs)
    (fits : (p.flatMap String.utf8EncodeChar).length ≤ room) : p <+: prefixWithin room cs := by
  induction cs generalizing p room with
  | nil => exact begins
  | cons c cs ih =>
    cases p with
    | nil => exact List.nil_prefix
    | cons d p =>
      obtain ⟨rfl, later⟩ := List.cons_prefix_cons.1 begins
      rw [List.flatMap_cons, List.length_append, String.length_utf8EncodeChar] at fits
      rw [prefixWithin, if_pos (by omega)]
      exact (List.prefix_cons_inj d).2 (ih later (by omega))

/-- What fits is kept. -/
theorem prefixWithin_of_length_le (fits : (cs.flatMap String.utf8EncodeChar).length ≤ room) :
    prefixWithin room cs = cs := by
  have all := prefix_prefixWithin (List.prefix_refl cs) fits
  exact (prefixWithin_isPrefix room cs).eq_of_length_le all.length_le

/-- Where something does not fit, less room is left than one character may take. -/
theorem lt_length_prefixWithin (large : room < (cs.flatMap String.utf8EncodeChar).length) :
    room < ((prefixWithin room cs).flatMap String.utf8EncodeChar).length + 4 := by
  induction cs generalizing room with
  | nil => exact absurd large (Nat.not_lt_zero _)
  | cons c cs ih =>
    rw [List.flatMap_cons, List.length_append, String.length_utf8EncodeChar] at large
    rw [prefixWithin]
    split
    · next fits =>
      have later := @ih (room - c.utf8Size) (by omega)
      rw [List.flatMap_cons, List.length_append, String.length_utf8EncodeChar]
      omega
    · next large => exact Nat.lt_of_lt_of_le (Nat.lt_of_not_le large) c.utf8Size_le_four

-- ════════════════════════════════════════════════════════════════════════
-- Addresses
-- ════════════════════════════════════════════════════════════════════════

variable {target : String} {a : Address}

theorem withoutScheme_append (cs : List Char) : withoutScheme (scheme ++ cs) = cs := by
  have begins : scheme.isPrefixOf (scheme ++ cs) = true :=
    List.isPrefixOf_iff_prefix.2 (List.prefix_append ..)
  rw [withoutScheme, if_pos begins, List.drop_left]

/-- An address is known by its target. -/
theorem eq_of_target_eq {a b : Address} (same : a.target = b.target) : a = b := by
  cases a
  cases b
  cases same
  rfl

theorem ofTarget_eq_ok_iff : ofTarget target = .ok a ↔ withoutScheme target.toList ≠ [] ∧
    a.target = String.ofList (prefixWithin 107 (withoutScheme target.toList)) := by
  unfold ofTarget
  dsimp only
  split
  · next some =>
    constructor
    · intro made
      cases made
      exact ⟨some, rfl⟩
    · rintro ⟨-, same⟩
      exact congrArg Except.ok (eq_of_target_eq same.symm)
  · next none =>
    refine iff_of_false (fun made => ?_) fun made => none made.1
    cases made

theorem ofTarget_eq_error_iff {e : Failure} :
    ofTarget target = .error e ↔ withoutScheme target.toList = [] ∧ e = .emptyTarget := by
  unfold ofTarget
  dsimp only
  split
  · next some =>
    refine iff_of_false (fun made => ?_) fun made => some made.1
    cases made
  · next none => simp [Classical.not_not.1 none, eq_comm]

/-- What an address keeps of the name that it was given. -/
structure Keeps (name : String) (a : Address) : Prop where
  /-- The target is a beginning of the name, in whole characters. -/
  begins : a.target.toList <+: name.toList
  /-- The target leaves room for the terminating byte. -/
  fits : (utf8 a.target).length ≤ 107
  /-- Every other beginning that does so is shorter. -/
  longest : ∀ text : String, text.toList <+: name.toList → (utf8 text).length ≤ 107 →
    text.toList <+: a.target.toList
  /-- A name that fits is kept as it is. -/
  whole : (utf8 name).length ≤ 107 → a.target = name
  /-- Of a name that does not fit, all is kept but for the last few bytes of the room. -/
  full : 107 < (utf8 name).length → 104 ≤ (utf8 a.target).length
  /-- The target is what the bytes of the name up to the cut spell. -/
  spelt : legible ((utf8 name).take 107) = a.target.toList
  /-- Something is kept. -/
  ne_empty : a.target ≠ ""

/-- What is kept begins as the name does. -/
theorem Keeps.head?_eq {name : String} (h : Keeps name a) :
    a.target.toList.head? = name.toList.head? := by
  obtain ⟨later, whole⟩ := h.begins
  obtain ⟨c, rest, listed⟩ := List.exists_cons_of_ne_nil fun none =>
    h.ne_empty (String.toList_eq_nil_iff.1 none)
  rw [← whole, listed]
  rfl

/-- The address of a target keeps the longest beginning of its name that fits. -/
theorem keeps_of_ofTarget (made : ofTarget target = .ok a) :
    Keeps (String.ofList (withoutScheme target.toList)) a := by
  obtain ⟨some, same⟩ := ofTarget_eq_ok_iff.1 made
  have listed : a.target.toList = prefixWithin 107 (withoutScheme target.toList) := by
    rw [same, String.toList_ofList]
  have bytes : utf8 a.target =
      (prefixWithin 107 (withoutScheme target.toList)).flatMap String.utf8EncodeChar := by
    rw [utf8, listed]
  constructor
  · rw [listed, String.toList_ofList]
    exact prefixWithin_isPrefix ..
  · exact Nat.le_of_lt_succ a.length_utf8_target
  · intro text begins fits
    rw [String.toList_ofList] at begins
    rw [listed]
    exact prefix_prefixWithin begins fits
  · intro fits
    rw [utf8, String.toList_ofList] at fits
    rw [same, prefixWithin_of_length_le fits]
  · intro large
    rw [utf8, String.toList_ofList] at large
    have left := lt_length_prefixWithin large
    rw [bytes]
    omega
  · rw [utf8, String.toList_ofList, listed, legible_take]
  · exact a.target_ne_empty

/-- The target of an address, with the prefix in front, names this address. -/
theorem ofTarget_scheme_append (a : Address) : ofTarget ("unix-y:" ++ a.target) = .ok a := by
  have name : withoutScheme ("unix-y:" ++ a.target).toList = a.target.toList := by
    rw [String.toList_append]
    exact withoutScheme_append _
  have fits : (a.target.toList.flatMap String.utf8EncodeChar).length ≤ 107 :=
    Nat.le_of_lt_succ a.length_utf8_target
  refine ofTarget_eq_ok_iff.2 ⟨fun empty => a.target_ne_empty ?_, ?_⟩
  · rw [name] at empty
    exact String.toList_eq_nil_iff.1 empty
  · rw [name, prefixWithin_of_length_le fits, String.ofList_toList]

/-- A target with the marker in front is an address in the abstract namespace. -/
theorem abstract_of_toList_eq {rest : List Char}
    (marked : a.target.toList = abstractMarker :: rest) :
    a.isAbstract = true ∧ a.socketName = .abstract (0 :: utf8 (String.ofList rest)) ∧
      a.length = (utf8 a.target).length + 2 := by
  have abstract : a.isAbstract = true := by
    rw [isAbstract, marked]
    exact beq_self_eq_true _
  have name : a.abstractName = String.ofList rest := by
    rw [abstractName, marked]
    rfl
  refine ⟨abstract, ?_, ?_⟩
  · rw [socketName, if_pos abstract, name]
  · rw [length, if_pos abstract]
    rfl

/-- **The longest beginning that fits.** A target names an address unless nothing is behind the
optional prefix. The address keeps the longest beginning of the name, in whole characters, whose
bytes leave room for the terminating byte: it is what the bytes of the name up to the cut spell. If
the name begins with the marker, a zero byte takes the place of the marker, and as many bytes of the
address structure count as the target and the family take. To name the address by its own target,
with the prefix in front, changes nothing. -/
theorem longest_beginning (target : String) :
    let name := String.ofList (withoutScheme target.toList)
    (∀ e, ofTarget target = .error e ↔ name = "" ∧ e = .emptyTarget) ∧
      (name ≠ "" → ∃ a, ofTarget target = .ok a ∧ Keeps name a ∧
        (name.toList.head? = some '0' → ∃ rest : String, a.target = "0" ++ rest ∧
          a.isAbstract = true ∧ a.socketName = .abstract (0 :: utf8 rest) ∧
          a.length = (utf8 a.target).length + 2 ∧ a.length ≤ 109) ∧
        ofTarget ("unix-y:" ++ a.target) = .ok a) := by
  intro name
  have empty : name = "" ↔ withoutScheme target.toList = [] := String.ofList_eq_empty_iff
  refine ⟨fun e => by rw [empty, ofTarget_eq_error_iff], fun some => ?_⟩
  cases made : ofTarget target with
  | error e => exact absurd (empty.2 (ofTarget_eq_error_iff.1 made).1) some
  | ok a =>
    have keeps : Keeps name a := keeps_of_ofTarget made
    refine ⟨a, rfl, keeps, fun marked => ?_, ofTarget_scheme_append a⟩
    rw [← keeps.head?_eq] at marked
    obtain ⟨rest, listed⟩ := List.head?_eq_some_iff.1 marked
    obtain ⟨abstract, socket, counted⟩ := abstract_of_toList_eq listed
    refine ⟨String.ofList rest, ?_, abstract, socket, counted, ?_⟩
    · rw [← String.toList_inj, listed]
      simp
    · have fits := keeps.fits
      omega

/-- A name in the abstract namespace, of 111 bytes: the cut goes through a character of four. -/
theorem longest_beginning_cut :
    let name := '0' :: (List.replicate 35 '€' ++ ['𝄞', 'x'])
    let target := "unix-y:" ++ String.ofList name
    String.ofList (withoutScheme target.toList) ≠ "" ∧ ∃ a, ofTarget target = .ok a ∧
      a.target.toList = '0' :: List.replicate 35 '€' ∧ a.length = 108 := by
  intro name target
  have behind : (String.ofList name).toList = name := String.toList_ofList
  have named : withoutScheme target.toList = name := by
    rw [String.toList_append, behind]
    exact withoutScheme_append name
  have some : String.ofList (withoutScheme target.toList) ≠ "" := by
    rw [named, ne_eq, String.ofList_eq_empty_iff]
    exact List.cons_ne_nil _ _
  obtain ⟨a, made, -, marked, -⟩ := (longest_beginning target).2 some
  have kept : a.target.toList = '0' :: List.replicate 35 '€' := by
    rw [(ofTarget_eq_ok_iff.1 made).2, String.toList_ofList, named]
    decide +kernel
  rw [named, behind] at marked
  obtain ⟨rest, -, -, -, counted, -⟩ := marked rfl
  refine ⟨some, a, made, kept, ?_⟩
  rw [counted, utf8, kept]
  decide +kernel

end Address

end SessionStream
