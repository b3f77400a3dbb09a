import SessionStream.Text.Blank
import SessionStream.Text.Decimal
import SessionStream.Failure

/-!
# Replies of the line protocol

The server answers the announcement of a transfer with `ok`, and a size query with a decimal
integer of 64 signed bits. Blanks around the integer do not matter.

## Main definitions

- `Reply.limit` — how many bytes a reply may take, with the end of its line
- `Reply.requireAdmission` — refuses any answer but `ok`
- `Reply.size` — the size that an answer reports
-/

namespace SessionStream.Reply

/-- How many bytes a reply may take, with the end of its line. -/
def limit : Nat := 50

/-- The limit is short enough to be named. -/
theorem writable_limit : Text.Writable limit :=
  Text.writable_of_natAbs_lt (by decide)

/-- The byte that ends a reply. -/
def lineEnd : UInt8 := 10

/-- The answer that admits a transfer. -/
def admission : String := "ok"

/-- Refuses any answer but the one that admits a transfer. -/
def requireAdmission (reply : String) : Except Failure Unit :=
  if reply = admission then .ok () else .error (.rejected reply)

/-- The sizes that fit in 64 signed bits. -/
def InRange (size : Int) : Prop :=
  -0x8000000000000000 ≤ size ∧ size ≤ 0x7fffffffffffffff

instance (size : Int) : Decidable (InRange size) :=
  inferInstanceAs (Decidable (_ ∧ _))

/-- The size that an answer to a size query reports. -/
def size (reply : String) : Except Failure Int :=
  match Text.readInteger? (Text.trim reply.toList) with
  | none => .error (.unparseableSize reply)
  | some size => if InRange size then .ok size else .error (.sizeOutOfRange reply)

end SessionStream.Reply
