import SessionStream.Bytes
import SessionStream.Failure

/-!
# Socket addresses

A target names a local socket: either a path in the file system, or, behind the marker `0`, a name
in the abstract namespace. The address structure of the system has room for a bounded number of
bytes, so a long target is cut to the longest prefix of whole characters that fits.

## Main definitions

- `Address` — a target that fits, and is not empty
- `Address.ofTarget` — the address a target names
- `Word.address` — the address of a target as it comes from outside
- `Address.socketName` — what the system is asked to connect to
- `Address.length` — how many bytes of the address structure count
-/

namespace SessionStream

/-- The name the system knows a local socket by. -/
inductive SocketName where
  /-- A path in the file system. -/
  | path (path : String)
  /-- A name in the abstract namespace, as the bytes of the address. -/
  | abstract (name : Bytes)
  deriving DecidableEq, Repr

/-- The bytes of a socket name, as they are handed to the system. -/
def SocketName.bytes : SocketName → Bytes
  | path p => utf8 p
  | abstract name => name

namespace Address

/-- The optional prefix of a target. -/
def scheme : List Char := "unix-y:".toList

/-- The first character of a target in the abstract namespace. -/
def abstractMarker : Char := '0'

/-- Where the name starts in the system's address structure, after the family. -/
def nameOffset : Nat := 2

/-- The room for a name in the system's address structure, with its terminating byte. -/
def nameRoom : Nat := 108

/-- The longest prefix of whole characters whose UTF-8 form takes at most `room` bytes. -/
def prefixWithin (room : Nat) : List Char → List Char
  | [] => []
  | c :: cs => if c.utf8Size ≤ room then c :: prefixWithin (room - c.utf8Size) cs else []

/-- A target without the optional prefix. -/
def withoutScheme (target : List Char) : List Char :=
  if scheme.isPrefixOf target then target.drop scheme.length else target

theorem prefixWithin_ne_nil {room : Nat} {cs : List Char} (big : 4 ≤ room) (some : cs ≠ []) :
    prefixWithin room cs ≠ [] := by
  cases cs with
  | nil => exact absurd rfl some
  | cons c cs =>
    have small : c.utf8Size ≤ room := Nat.le_trans (Char.utf8Size_le_four c) big
    simp [prefixWithin, small]

theorem length_utf8_prefixWithin (room : Nat) (cs : List Char) :
    ((prefixWithin room cs).flatMap String.utf8EncodeChar).length ≤ room := by
  induction cs generalizing room with
  | nil => simp [prefixWithin]
  | cons c cs ih =>
    by_cases h : c.utf8Size ≤ room
    · have rest := ih (room - c.utf8Size)
      simp only [prefixWithin, if_pos h, List.flatMap_cons, List.length_append,
        String.length_utf8EncodeChar]
      omega
    · simp [prefixWithin, h]

end Address

/-- The target of a local socket: at least one character, and few enough bytes to leave room for
the terminating byte in the system's address structure. -/
structure Address where
  /-- The target, without the optional prefix. -/
  target : String
  /-- An address names something. -/
  target_ne_empty : target ≠ ""
  /-- The target fits the system's address structure. -/
  length_utf8_target : (utf8 target).length < Address.nameRoom
  deriving DecidableEq, Repr

namespace Address

/-- The address that a target names. A target that names nothing is refused. -/
def ofTarget (target : String) : Except Failure Address :=
  let name := withoutScheme target.toList
  if some : name ≠ [] then
    .ok {
      target := String.ofList (prefixWithin (nameRoom - 1) name)
      target_ne_empty := fun empty =>
        prefixWithin_ne_nil (by decide) some (String.ofList_eq_empty_iff.1 empty)
      length_utf8_target := by
        have fits := length_utf8_prefixWithin (nameRoom - 1) name
        simp only [utf8, String.toList_ofList]
        exact Nat.lt_of_le_of_lt fits (by decide) }
  else
    .error .emptyTarget

end Address

/-- The address that a target names, as it comes from outside. One that is broken has no bytes that
the system could be given. -/
def Word.address : Word → Except Failure Address
  | text target => Address.ofTarget target
  | broken before stray behind =>
    .error (.unencodable (Address.withoutScheme before.toList).length stray
      (behind.takeWhile Sum.isRight).length)

/-- What is wrong with a target that names no address. -/
theorem Word.address_cases {target : Word} {e : Failure} (h : target.address = .error e) :
    e = .emptyTarget ∨ ∃ position stray more, e = .unencodable position stray more := by
  cases target with
  | text target =>
    unfold address Address.ofTarget at h
    dsimp only at h
    split at h
    · cases h
    · exact .inl (Except.error.inj h).symm
  | broken before stray behind => exact .inr ⟨_, _, _, (Except.error.inj h).symm⟩

namespace Address

/-- Whether an address lies in the abstract namespace. -/
def isAbstract (a : Address) : Bool :=
  a.target.toList.head? == some abstractMarker

/-- The name behind the marker of an abstract address. -/
def abstractName (a : Address) : String :=
  String.ofList (a.target.toList.drop 1)

/-- What the system is asked to connect to. In the abstract namespace the marker gives way to a
zero byte. -/
def socketName (a : Address) : SocketName :=
  if a.isAbstract then .abstract (0 :: utf8 a.abstractName) else .path a.target

/-- How many bytes of the system's address structure count: all of it for a path, and what the
name takes in the abstract namespace. -/
def length (a : Address) : Nat :=
  if a.isAbstract then (utf8 a.target).length + nameOffset else nameOffset + nameRoom

end Address

end SessionStream
