import SessionStream.Proofs.Effect
import SessionStream.Proofs.Decoding

/-!
# What the record tells

The record of all calls holds everything that was said on a connection. This file reads it: which
lines were offered, how much of each was accepted and what was received after it, which bytes of
payload moved, and which transfer a connection was made for. All of it is computed from the record
alone, so that it means the same to anyone who looks at it, and not only to the stream.

## Main definitions

- `Exchange` — a line that was offered, and what was received after it
- `dialogue` — all exchanges of a connection
- `received`, `delivered`, `accepted`, `payload` — the bytes that crossed a connection
- `admission?` — the transfer that has just been admitted on a connection
- `transferOn` — the transfer that a connection was made for
- `Untouched` — no call was on a connection

## Design notes

A line goes out in sends that each offer what is left of it. A send that takes a part of what is
left is followed by one that offers the rest, so a send belongs to the line before it exactly if
that line was taken in part by the send before; a line with a send that took nothing or failed is
over.
-/

namespace SessionStream

variable {c k : ConnectionId} {es fs trace : List Event}

/-- A line that was offered, and what was received after it. -/
structure Exchange where
  /-- The line, as it was offered first. -/
  line : Bytes
  /-- What has not been accepted of it. -/
  left : Bytes
  /-- Whether the next send goes on with it. -/
  sending : Bool
  /-- What was received after it. -/
  heard : Bytes := []
  deriving DecidableEq, Repr

namespace Exchange

/-- A line before its first send. -/
def start (line : Bytes) : Exchange :=
  { line, left := line, sending := true }

/-- An exchange after one more send of its line, with this result. -/
def offer (x : Exchange) : Option Nat → Exchange
  | some (count + 1) =>
    { x with left := x.left.drop (count + 1), sending := !(x.left.drop (count + 1)).isEmpty }
  | _ => { x with sending := false }

/-- The whole line was accepted. -/
def Sent (x : Exchange) : Prop :=
  x.left = []

/-- The end of a reply was received. -/
def Answered (x : Exchange) : Prop :=
  Reply.lineEnd ∈ x.heard

instance (x : Exchange) : Decidable x.Sent :=
  inferInstanceAs (Decidable (_ = _))

instance (x : Exchange) : Decidable x.Answered :=
  inferInstanceAs (Decidable (_ ∈ _))

/-- The transfer that the line announces, if it does. -/
def transfer? (x : Exchange) : Option (Direction × Nat) :=
  match Command.ofLine? x.line with
  | some (.transfer direction (.ofNat offset)) => some (direction, offset)
  | _ => none

/-- The transfer that the line announces, if the reply to it was the admission and no more. -/
def admitted? (x : Exchange) : Option (Direction × Nat) :=
  if x.left = [] ∧ x.heard = utf8 Reply.admission ++ [Reply.lineEnd] then x.transfer? else none

end Exchange

/-- The exchanges of a connection, the latest first, after one more call. -/
def converse (k : ConnectionId) (xs : List Exchange) : Event → List Exchange
  | .send c offered result =>
    if c = k then
      match xs with
      | [] => [(Exchange.start offered).offer result]
      | x :: earlier =>
        if x.sending then x.offer result :: earlier
        else (Exchange.start offered).offer result :: x :: earlier
    else xs
  | .receive c _ (some bytes) =>
    if c = k then
      match xs with
      | [] => []
      | x :: earlier => { x with heard := x.heard ++ bytes } :: earlier
    else xs
  | _ => xs

/-- All exchanges of a connection, the latest first. -/
def dialogue (k : ConnectionId) (trace : List Event) : List Exchange :=
  trace.foldl (converse k) []

theorem dialogue_append (k : ConnectionId) (trace es : List Event) :
    dialogue k (trace ++ es) = es.foldl (converse k) (dialogue k trace) :=
  List.foldl_append

-- ════════════════════════════════════════════════════════════════════════
-- Bytes
-- ════════════════════════════════════════════════════════════════════════

/-- The bytes that one call received from a connection for the caller. -/
def Event.received (c : ConnectionId) : Event → Bytes
  | .receiveInto c' _ (some bytes) => if c' = c then bytes else []
  | _ => []

/-- The bytes that one call received from a connection for a reply. -/
def Event.delivered (c : ConnectionId) : Event → Bytes
  | .receive c' _ (some bytes) => if c' = c then bytes else []
  | _ => []

/-- The bytes of one call that a connection accepted. -/
def Event.accepted (c : ConnectionId) : Event → Bytes
  | .send c' offered (some count) => if c' = c then offered.take count else []
  | _ => []

/-- All bytes received from a connection for the caller. -/
def received (c : ConnectionId) (trace : List Event) : Bytes :=
  trace.flatMap (Event.received c)

/-- All bytes received from a connection for replies. -/
def delivered (c : ConnectionId) (trace : List Event) : Bytes :=
  trace.flatMap (Event.delivered c)

/-- All bytes that a connection accepted. -/
def accepted (c : ConnectionId) (trace : List Event) : Bytes :=
  trace.flatMap (Event.accepted c)

/-- The bytes behind the first line. -/
def behindLine (bytes : Bytes) : Bytes :=
  (bytes.dropWhile (· ≠ Reply.lineEnd)).drop 1

/-- The payload that a connection accepted: everything behind its first line. -/
def payload (c : ConnectionId) (trace : List Event) : Bytes :=
  behindLine (accepted c trace)

@[simp] theorem received_nil (c : ConnectionId) : received c [] = [] := rfl

@[simp] theorem delivered_nil (c : ConnectionId) : delivered c [] = [] := rfl

@[simp] theorem accepted_nil (c : ConnectionId) : accepted c [] = [] := rfl

@[simp] theorem received_append (c : ConnectionId) (es fs : List Event) :
    received c (es ++ fs) = received c es ++ received c fs :=
  List.flatMap_append

@[simp] theorem delivered_append (c : ConnectionId) (es fs : List Event) :
    delivered c (es ++ fs) = delivered c es ++ delivered c fs :=
  List.flatMap_append

@[simp] theorem accepted_append (c : ConnectionId) (es fs : List Event) :
    accepted c (es ++ fs) = accepted c es ++ accepted c fs :=
  List.flatMap_append

@[simp] theorem received_cons_self (c : ConnectionId) (limit : Nat) (result : Option Bytes)
    (es : List Event) :
    received c (.receiveInto c limit result :: es) = result.getD [] ++ received c es := by
  cases result <;> simp [received, Event.received]

@[simp] theorem delivered_cons_self (c : ConnectionId) (limit : Nat) (result : Option Bytes)
    (es : List Event) :
    delivered c (.receive c limit result :: es) = result.getD [] ++ delivered c es := by
  cases result <;> simp [delivered, Event.delivered]

@[simp] theorem accepted_cons_self (c : ConnectionId) (offered : Bytes) (result : Option Nat)
    (es : List Event) :
    accepted c (.send c offered result :: es) = offered.take (result.getD 0) ++ accepted c es := by
  cases result <;> simp [accepted, Event.accepted]

/-- Behind a whole line stands what follows it. -/
theorem behindLine_line (command : Command) (rest : Bytes) :
    behindLine (command.line ++ rest) = rest := by
  have inside : ∀ b ∈ utf8 command.text, (decide (b ≠ Reply.lineEnd)) = true := by
    intro b hb
    refine decide_eq_true fun hend => Command.lineEnd_not_mem_utf8_text command ?_
    rwa [hend] at hb
  unfold behindLine Command.line
  rw [List.append_assoc, List.dropWhile_append_of_pos inside]
  rfl

/-- Nothing stands behind a line that has no end. -/
theorem behindLine_of_not_mem {bytes : Bytes} (h : Reply.lineEnd ∉ bytes) :
    behindLine bytes = [] := by
  have inside : ∀ b ∈ bytes, (decide (b ≠ Reply.lineEnd)) = true := by
    intro b hb
    refine decide_eq_true fun hend => h ?_
    rwa [hend] at hb
  have none : (bytes ++ []).dropWhile (· ≠ Reply.lineEnd) = [] :=
    List.dropWhile_append_of_pos inside
  rw [List.append_nil] at none
  unfold behindLine
  rw [none]
  rfl

-- ════════════════════════════════════════════════════════════════════════
-- Transfers
-- ════════════════════════════════════════════════════════════════════════

/-- The transfer that has just been admitted on a connection: the last call received the end of
the reply to it. -/
def admission? (k : ConnectionId) (trace : List Event) : Option (Direction × Nat) :=
  match trace.getLast? with
  | some (.receive c _ _) =>
    if c = k then (dialogue k trace).head?.bind Exchange.admitted? else none
  | _ => none

/-- The calls before the one that made a connection. -/
def beforeOpening (c : ConnectionId) (trace : List Event) : List Event :=
  trace.takeWhile (·.opened? ≠ some c)

/-- The transfer that a connection was made for: the one that had just been admitted on `k` when
the connection was made. -/
def transferOn (k c : ConnectionId) (trace : List Event) : Option (Direction × Nat) :=
  if c ∈ opened trace then admission? k (beforeOpening c trace) else none

/-- No transfer has just been admitted. -/
def Settled (trace : List Event) : Prop :=
  ∀ k, admission? k trace = none

/-- A transfer is admitted on one connection only. -/
theorem admission?_unique {p q : Direction × Nat} {k' : ConnectionId}
    (h : admission? k trace = some p) (h' : admission? k' trace = some q) : k = k' := by
  unfold admission? at h h'
  split at h
  · next last =>
    rw [last] at h'
    dsimp only at h'
    split at h
    · split at h'
      · subst k
        assumption
      · cases h'
    · cases h
  · cases h

/-- A connection is made for one transfer only. -/
theorem transferOn_unique {p q : Direction × Nat} {k' : ConnectionId}
    (h : transferOn k c trace = some p) (h' : transferOn k' c trace = some q) : k = k' := by
  unfold transferOn at h h'
  split at h
  · next made =>
    rw [if_pos made] at h'
    exact admission?_unique h h'
  · cases h

theorem mem_opened_of_transferOn {p : Direction × Nat} (h : transferOn k c trace = some p) :
    c ∈ opened trace := by
  unfold transferOn at h
  split at h
  · assumption
  · cases h

-- ════════════════════════════════════════════════════════════════════════
-- Later calls
-- ════════════════════════════════════════════════════════════════════════

/-- No call of these was on the connection. -/
def Untouched (c : ConnectionId) (es : List Event) : Prop :=
  ∀ e ∈ es, e.target? ≠ some c

theorem Untouched.nil (c : ConnectionId) : Untouched c [] :=
  fun _ h => absurd h List.not_mem_nil

/-- A connection without a call is not made. -/
theorem Untouched.not_mem_opened (h : Untouched c es) : c ∉ opened es := by
  intro hc
  obtain ⟨e, he, hopen⟩ := List.mem_filterMap.1 hc
  exact h e he (Event.target?_of_opened? hopen)

theorem Untouched.flatMap_eq_nil {f : Event → Bytes} (h : Untouched c es)
    (hf : ∀ e : Event, e.target? ≠ some c → f e = []) : es.flatMap f = [] :=
  List.flatMap_eq_nil_iff.2 fun e he => hf e (h e he)

theorem Event.received_of_target? {e : Event} (h : e.target? ≠ some c) : e.received c = [] := by
  unfold Event.received
  split
  · exact if_neg fun hc => h (congrArg some hc)
  · rfl

theorem Event.delivered_of_target? {e : Event} (h : e.target? ≠ some c) : e.delivered c = [] := by
  unfold Event.delivered
  split
  · exact if_neg fun hc => h (congrArg some hc)
  · rfl

theorem Event.accepted_of_target? {e : Event} (h : e.target? ≠ some c) : e.accepted c = [] := by
  unfold Event.accepted
  split
  · exact if_neg fun hc => h (congrArg some hc)
  · rfl

theorem Untouched.received_eq_nil (h : Untouched c es) : received c es = [] :=
  h.flatMap_eq_nil fun _ => Event.received_of_target?

theorem Untouched.delivered_eq_nil (h : Untouched c es) : delivered c es = [] :=
  h.flatMap_eq_nil fun _ => Event.delivered_of_target?

theorem Untouched.accepted_eq_nil (h : Untouched c es) : accepted c es = [] :=
  h.flatMap_eq_nil fun _ => Event.accepted_of_target?

theorem converse_of_target? {e : Event} (h : e.target? ≠ some k) (xs : List Exchange) :
    converse k xs e = xs := by
  unfold converse
  split
  · exact if_neg fun hc => h (congrArg some hc)
  · exact if_neg fun hc => h (congrArg some hc)
  · rfl

/-- Calls on other connections leave a dialogue as it is. -/
theorem Untouched.foldl_converse (h : Untouched k es) (xs : List Exchange) :
    es.foldl (converse k) xs = xs := by
  induction es generalizing xs with
  | nil => rfl
  | cons e es ih =>
    rw [List.foldl_cons, converse_of_target? (h e (List.mem_cons_self ..))]
    exact ih (fun e he => h e (List.mem_cons_of_mem _ he)) xs

theorem Untouched.dialogue_append (h : Untouched k es) (trace : List Event) :
    dialogue k (trace ++ es) = dialogue k trace := by
  rw [SessionStream.dialogue_append, h.foldl_converse]

/-- Behind a call on another connection, nothing has just been admitted. -/
theorem Untouched.admission?_append (h : Untouched k es) (hes : es ≠ []) (trace : List Event) :
    admission? k (trace ++ es) = none := by
  have untouched := h _ (List.getLast_mem hes)
  unfold admission?
  rw [List.getLast?_append, List.getLast?_eq_some_getLast hes, Option.some_or]
  split
  · next last =>
    rw [Option.some.inj last] at untouched
    exact if_neg fun hc => untouched (congrArg some hc)
  · rfl

/-- The calls before a connection was made stay the same. -/
theorem beforeOpening_append (hc : c ∈ opened trace) (es : List Event) :
    beforeOpening c (trace ++ es) = beforeOpening c trace := by
  induction trace with
  | nil => cases hc
  | cons e trace ih =>
    unfold beforeOpening at ih ⊢
    rw [List.cons_append, List.takeWhile_cons, List.takeWhile_cons]
    by_cases he : e.opened? = some c
    · simp only [he, ne_eq, not_true_eq_false, decide_false, Bool.false_eq_true, if_false]
    · have later : c ∈ opened trace := by
        rw [opened_cons, List.mem_append] at hc
        exact hc.resolve_left fun h => he (Option.mem_toList.1 h)
      rw [ih later]

/-- The calls before a connection is made go on until it is made. -/
theorem beforeOpening_append_right (hc : c ∉ opened trace) (es : List Event) :
    beforeOpening c (trace ++ es) = trace ++ beforeOpening c es := by
  have others : ∀ e ∈ trace, (decide (e.opened? ≠ some c)) = true :=
    fun e h => decide_eq_true fun hopen => hc (List.mem_filterMap.2 ⟨e, h, hopen⟩)
  unfold beforeOpening
  rw [List.takeWhile_append_of_pos others]

theorem beforeOpening_cons {e : Event} (he : e.opened? = some c) (es : List Event) :
    beforeOpening c (e :: es) = [] := by
  unfold beforeOpening
  rw [List.takeWhile_cons]
  simp only [he, ne_eq, not_true_eq_false, decide_false, Bool.false_eq_true, if_false]

/-- What a connection was made for is known when it is made. -/
theorem transferOn_append (hc : c ∈ opened trace) (k : ConnectionId) (es : List Event) :
    transferOn k c (trace ++ es) = transferOn k c trace := by
  unfold transferOn
  rw [if_pos (mem_opened_append hc es), if_pos hc, beforeOpening_append hc]

/-- A connection that is made now is made for what has just been admitted. -/
theorem transferOn_opening (hc : c ∉ opened trace) {e : Event} (he : e.opened? = some c)
    (k : ConnectionId) (es : List Event) :
    transferOn k c (trace ++ e :: es) = admission? k trace := by
  have made : c ∈ opened (trace ++ e :: es) :=
    List.mem_filterMap.2 ⟨e, List.mem_append_right _ (List.mem_cons_self ..), he⟩
  unfold transferOn
  rw [if_pos made, beforeOpening_append_right hc, beforeOpening_cons he, List.append_nil]

/-- A connection made while others are called, with nothing just admitted, is for no transfer. -/
theorem transferOn_of_untouched (hc : c ∉ opened trace) (h : Untouched k es)
    (settled : admission? k trace = none) : transferOn k c (trace ++ es) = none := by
  unfold transferOn
  split
  · rw [beforeOpening_append_right hc]
    have calm : Untouched k (beforeOpening c es) :=
      fun e he => h e ((List.takeWhile_prefix _).subset he)
    by_cases first : beforeOpening c es = []
    · rw [first, List.append_nil]
      exact settled
    · exact calm.admission?_append first trace
  · rfl

/-- Without a call on `k`, no connection was made for a transfer on it. -/
theorem Untouched.transferOn_eq_none (h : Untouched k trace) (c : ConnectionId) :
    transferOn k c trace = none := by
  have none : transferOn k c ([] ++ trace) = none :=
    transferOn_of_untouched List.not_mem_nil h rfl
  rwa [List.nil_append] at none

end SessionStream
