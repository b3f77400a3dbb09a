import SessionStream.Failure

/-!
# Actions

An action runs on a state and ends with a value or with a failure. What it has done to the state
stays done when it fails: a connection that was opened before the failure is still there.

## Main definitions

- `Act` — actions on a state
- `Act.zoom` — an action on a part of the state
- `Act.rescue` — an action with an answer to system failures
- `Act.ofExcept` — a result as an action that leaves the state alone
-/

namespace SessionStream

/-- Actions on a state of type `σ` that end with a value of type `α` or with a failure, and keep
their effects in both cases. -/
abbrev Act (σ : Type) := EStateM Failure σ

namespace Act

/-- An action on a part of the state, as an action on the whole of it. -/
def zoom {σ τ α : Type} (part : σ → τ) (put : τ → σ → σ) (act : Act τ α) : Act σ α := fun s =>
  match act (part s) with
  | .ok a t => .ok a (put t s)
  | .error e t => .error e (put t s)

/-- Runs an action, and `answer` after a system failure of it. Any other failure passes. -/
def rescue {σ α : Type} (act : Act σ α) (answer : Failure → Act σ α) : Act σ α := fun s =>
  match act s with
  | .ok a t => .ok a t
  | .error e t => if e.isSystem then answer e t else .error e t

/-- A result as an action that leaves the state alone. -/
def ofExcept {σ α : Type} : Except Failure α → Act σ α
  | .ok a => pure a
  | .error e => throw e

end Act

end SessionStream
