import SessionStream.Failure

/-!
# Buffers

Room for bytes that are about to be received. It has to be there before anything is asked of the
network. How much room there is depends on the machine.

## Main definitions

- `Buffer.indexBound` — what limits the size of every buffer
- `Buffer.Fits` — the sizes that a memory has room for
- `Buffer.reserve` — makes room for a number of bytes
-/

namespace SessionStream.Buffer

/-- The first number that does not count bytes: an index has 63 binary digits. -/
def indexBound : Nat := Nat.pow 2 63

/-- There is room for `size` bytes, in a memory with room for at most `memory` bytes at once. -/
def Fits (memory size : Nat) : Prop :=
  size < indexBound ∧ size ≤ memory

instance (memory size : Nat) : Decidable (Fits memory size) :=
  inferInstanceAs (Decidable (_ ∧ _))

/-- Where a buffer fits, a smaller one does. -/
theorem Fits.of_le {memory size less : Nat} (h : Fits memory size) (le : less ≤ size) :
    Fits memory less :=
  ⟨Nat.lt_of_le_of_lt le h.1, Nat.le_trans le h.2⟩

/-- Makes room for `size` bytes, in a memory with room for at most `memory` bytes at once. -/
def reserve (memory size : Nat) : Except Failure Unit :=
  if indexBound ≤ size then .error .sizeNotIndex
  else if memory < size then .error .outOfMemory
  else .ok ()

theorem reserve_eq_ok_iff {memory size : Nat} :
    reserve memory size = .ok () ↔ Fits memory size := by
  unfold reserve Fits
  split
  · simp only [reduceCtorEq, false_iff]
    omega
  · split
    · simp only [reduceCtorEq, false_iff]
      omega
    · simp only [true_iff]
      omega

end SessionStream.Buffer
