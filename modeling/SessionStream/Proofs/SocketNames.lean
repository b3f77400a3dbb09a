import SessionStream.Proofs.Truncation

/-!
# The sockets that addresses name

What the system is asked to connect to are bytes. In the abstract namespace they begin with a zero
byte, which stands for the marker of the target; a path is handed over as it is written. A path can
begin with a zero character of its own, and then its bytes are those of a name in the abstract
namespace. No other two addresses go by the same bytes.

## Main definitions

- `Address.systemName` — what the system reads
- `Address.ZeroLed` — an address whose target begins with the zero character
- `Address.Shadows` — an address that goes by the bytes of one in the abstract namespace

## Main results

- `utf8_inj` — different texts have different bytes
- `Address.bytes_eq_iff` — the addresses that go by the same bytes
- `Address.one_socket_iff` — where bytes tell addresses and namespaces apart
- `Address.zero_led_shadow` — two addresses of one socket
-/

namespace SessionStream

variable {s t : String}

/-- Different texts have different bytes. -/
theorem utf8_inj : utf8 s = utf8 t ↔ s = t := by
  constructor
  · intro same
    have spelt := congrArg legible same
    rwa [legible_utf8, legible_utf8, String.toList_inj] at spelt
  · rintro rfl
    rfl

theorem utf8_zero_append (name : String) : utf8 ("\x00" ++ name) = 0 :: utf8 name := by
  unfold utf8
  rw [String.toList_append, List.flatMap_append]
  rfl

/-- Only the zero character begins with a zero byte. -/
theorem head?_utf8_eq_zero_iff : (utf8 s).head? = some 0 ↔ s.toList.head? = some '\x00' := by
  constructor
  · intro zero
    obtain ⟨rest, bytes⟩ := List.head?_eq_some_iff.1 zero
    have spelt : legible (utf8 s) = '\x00' :: legible rest := bytes ▸ legible_append '\x00' rest
    rw [← legible_utf8, spelt]
    rfl
  · intro zero
    obtain ⟨rest, listed⟩ := List.head?_eq_some_iff.1 zero
    unfold utf8
    rw [listed]
    rfl

namespace Address

variable {a b : Address}

/-- What the system reads: the zero character takes the place of the marker. -/
def systemName (a : Address) : String :=
  if a.isAbstract then "\x00" ++ a.abstractName else a.target

/-- The target begins with the zero character. -/
def ZeroLed (a : Address) : Prop :=
  a.target.toList.head? = some '\x00'

/-- The first address is that of a path, and has the zero character where the second one, in the
abstract namespace, has the marker. -/
def Shadows (a b : Address) : Prop :=
  ∃ name : String, a.target = "\x00" ++ name ∧ b.target = "0" ++ name

theorem bytes_socketName (a : Address) : a.socketName.bytes = utf8 a.systemName := by
  unfold socketName systemName
  split
  · exact (utf8_zero_append _).symm
  · rfl

theorem isAbstract_iff : a.isAbstract = true ↔ a.target = "0" ++ a.abstractName := by
  unfold isAbstract abstractName
  rw [beq_iff_eq, List.head?_eq_some_iff, ← String.toList_inj]
  simp only [String.toList_append, String.toList_ofList]
  constructor
  · rintro ⟨rest, listed⟩
    rw [listed]
    rfl
  · intro listed
    exact ⟨_, listed⟩

theorem ZeroLed.not_isAbstract (zero : a.ZeroLed) : ¬a.isAbstract = true := by
  intro abstract
  unfold isAbstract at abstract
  rw [zero] at abstract
  exact absurd abstract (by decide)

theorem Shadows.zeroLed (h : Shadows a b) : a.ZeroLed := by
  obtain ⟨name, led, -⟩ := h
  unfold ZeroLed
  rw [led, String.toList_append]
  rfl

theorem Shadows.isAbstract (h : Shadows a b) : b.isAbstract = true := by
  obtain ⟨name, -, marked⟩ := h
  unfold Address.isAbstract
  rw [marked, String.toList_append]
  rfl

/-- The bytes of an address begin with a zero byte in the abstract namespace, and for a path that
begins with the zero character. -/
theorem head?_bytes_eq_zero_iff :
    a.socketName.bytes.head? = some 0 ↔ a.isAbstract = true ∨ a.ZeroLed := by
  rw [bytes_socketName, head?_utf8_eq_zero_iff]
  unfold systemName
  split
  · next abstract => simp [abstract]
  · next path => simp [path, ZeroLed]

/-- **The addresses of one socket** are the same, or one of them shadows the other. -/
theorem bytes_eq_iff : a.socketName.bytes = b.socketName.bytes ↔
    a = b ∨ Shadows a b ∨ Shadows b a := by
  rw [bytes_socketName, bytes_socketName, utf8_inj]
  unfold systemName
  constructor
  · intro same
    split at same
    · next abstract =>
      rw [isAbstract_iff] at abstract
      split at same
      · next abstract' =>
        rw [isAbstract_iff] at abstract'
        have names : a.abstractName = b.abstractName := (String.append_right_inj _).1 same
        exact .inl (eq_of_target_eq (by rw [abstract, abstract', names]))
      · exact .inr (.inr ⟨a.abstractName, same.symm, abstract⟩)
    · split at same
      · next abstract' => exact .inr (.inl ⟨b.abstractName, same, isAbstract_iff.1 abstract'⟩)
      · exact .inl (eq_of_target_eq same)
  · have shadow {a b : Address} (h : Shadows a b) : a.target = "\x00" ++ b.abstractName := by
      have marked := isAbstract_iff.1 h.isAbstract
      obtain ⟨name, led, marked'⟩ := h
      rw [led, (String.append_right_inj _).1 (marked'.symm.trans marked)]
    rintro (rfl | hides | hidden)
    · rfl
    · rw [if_neg hides.zeroLed.not_isAbstract, if_pos hides.isAbstract]
      exact shadow hides
    · rw [if_neg hidden.zeroLed.not_isAbstract, if_pos hidden.isAbstract]
      exact (shadow hidden).symm

/-- **One socket for each address, of the kind that it says.** For the addresses of two targets:
they are the same exactly if their bytes are, and each is marked as abstract exactly if its bytes
begin with a zero byte, just where neither target begins with the zero character behind the optional
prefix. In general the same bytes are those of one address, or of two of which one shadows the
other. -/
theorem one_socket_iff (made : ofTarget s = .ok a) (made' : ofTarget t = .ok b) :
    (((a = b ↔ a.socketName.bytes = b.socketName.bytes) ∧
        (a.isAbstract = true ↔ a.socketName.bytes.head? = some 0) ∧
        (b.isAbstract = true ↔ b.socketName.bytes.head? = some 0)) ↔
      (withoutScheme s.toList).head? ≠ some '\x00' ∧
        (withoutScheme t.toList).head? ≠ some '\x00') ∧
      (a.socketName.bytes = b.socketName.bytes ↔ a = b ∨ Shadows a b ∨ Shadows b a) := by
  refine ⟨?_, bytes_eq_iff⟩
  have led {s : String} {a : Address} (made : ofTarget s = .ok a) :
      a.ZeroLed ↔ (withoutScheme s.toList).head? = some '\x00' := by
    unfold ZeroLed
    rw [(keeps_of_ofTarget made).head?_eq, String.toList_ofList]
  have kind (a : Address) :
      (a.isAbstract = true ↔ a.socketName.bytes.head? = some 0) ↔ ¬a.ZeroLed := by
    rw [head?_bytes_eq_zero_iff]
    constructor
    · intro marked zero
      exact zero.not_isAbstract (marked.2 (.inr zero))
    · intro plain
      exact ⟨.inl, fun either => either.resolve_right plain⟩
  rw [kind, kind, bytes_eq_iff, led made, led made']
  constructor
  · rintro ⟨-, plain, plain'⟩
    exact ⟨plain, plain'⟩
  · rintro ⟨plain, plain'⟩
    refine ⟨⟨.inl, ?_⟩, plain, plain'⟩
    rintro (same | hides | hidden)
    · exact same
    · exact absurd ((led made).1 hides.zeroLed) plain
    · exact absurd ((led made').1 hidden.zeroLed) plain'

/-- A name in the abstract namespace, and a path of the same name. -/
theorem one_socket_iff_bus :
    let a : Address := ⟨"0bus", by decide, by decide⟩
    let b : Address := ⟨"bus", by decide, by decide⟩
    ofTarget "unix-y:0bus" = .ok a ∧ ofTarget "bus" = .ok b ∧
      (withoutScheme "unix-y:0bus".toList).head? ≠ some '\x00' ∧
      (withoutScheme "bus".toList).head? ≠ some '\x00' ∧
      a.socketName.bytes ≠ b.socketName.bytes ∧
      (a.isAbstract = true ↔ a.socketName.bytes.head? = some 0) ∧
      (b.isAbstract = true ↔ b.socketName.bytes.head? = some 0) := by
  intro a b
  have made : ofTarget "unix-y:0bus" = .ok a := by decide
  have made' : ofTarget "bus" = .ok b := by decide
  have plain : (withoutScheme "unix-y:0bus".toList).head? ≠ some '\x00' := by decide
  have plain' : (withoutScheme "bus".toList).head? ≠ some '\x00' := by decide
  obtain ⟨same, kind, kind'⟩ := (one_socket_iff made made').1.2 ⟨plain, plain'⟩
  exact ⟨made, made', plain, plain', fun bytes => absurd (same.2 bytes) (by decide), kind, kind'⟩

/-- A path that begins with the zero character goes by the bytes of another address, in the abstract
namespace, and is not marked as abstract. -/
theorem zero_led_shadow :
    let a : Address := ⟨"0bus", by decide, by decide⟩
    let b : Address := ⟨"\x00bus", by decide, by decide⟩
    ofTarget "0bus" = .ok a ∧ ofTarget "\x00bus" = .ok b ∧ a ≠ b ∧
      a.socketName.bytes = b.socketName.bytes ∧ b.socketName.bytes.head? = some 0 ∧
      b.isAbstract = false := by
  decide

end Address

end SessionStream
