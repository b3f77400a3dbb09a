import SessionStream.Proofs.Conversation

/-!
# The invariant of open streams

The position of an open stream, its data connection and its record fit together: the data
connection was made for the last transfer that was announced, and the position is the offset of that
transfer and the payload that has moved since. This file states that as an invariant of a stream and
the record, and proves that calls of others keep it.

## Main definitions

- `Orderly` — a record between two steps
- `Exchange.Misled` — an exchange whose reply was too long, or refused a transfer
- `Conversing` — the control connection fits to its record
- `Carries` — the data connection fits to its record
- `Link.Sound` — an open stream fits to its record

## Design notes

`Carries` does not speak of the events between the making of the data connection and now. It says
what the record tells of them: for which transfer the connection was made, which is the last
transfer, which bytes crossed the connection. All these only grow, so that every step keeps the
invariant for a reason of its own.
-/

namespace SessionStream

variable {c k control : ConnectionId} {es fs trace : List Event}

/-- A record between two steps: all calls were on connections on record, and no transfer has been
admitted that a data connection is still to be made for. -/
structure Orderly (trace : List Event) : Prop where
  contained : SelfContained trace
  settled : Settled trace

/-- A connection that is not on record has not been called on. -/
theorem Orderly.untouched (h : Orderly trace) (hc : c ∉ opened trace) : Untouched c trace :=
  h.contained.untouched hc

/-- Calls on a connection that is on record keep all calls on such connections. -/
theorem SelfContained.append_of_target (h : SelfContained trace) (hc : c ∈ opened trace)
    (htarget : ∀ e ∈ es, e.target? = some c) : SelfContained (trace ++ es) := by
  intro e he c' hc'
  refine mem_opened_append ?_ es
  rcases List.mem_append.1 he with he | he
  · exact h e he c' hc'
  · rw [htarget e he, Option.some.injEq] at hc'
    exact hc' ▸ hc

theorem SelfContained.append (h : SelfContained es) (h' : SelfContained fs) :
    SelfContained (es ++ fs) := by
  intro e he c hc
  rw [opened_append]
  rcases List.mem_append.1 he with he | he
  · exact List.mem_append_left _ (h e he c hc)
  · exact List.mem_append_right _ (h' e he c hc)

/-- A connection that is made now was not there before. -/
theorem not_mem_opened_of_nodup (nodup : (opened (trace ++ es)).Nodup) (hc : c ∈ opened es) :
    c ∉ opened trace := by
  rw [opened_append] at nodup
  exact fun old => (List.nodup_append.1 nodup).2.2 c old c hc rfl

/-- Connections were made once at every moment before. -/
theorem nodup_opened_left (nodup : (opened (trace ++ es)).Nodup) : (opened trace).Nodup := by
  rw [opened_append] at nodup
  exact (List.nodup_append.1 nodup).1

/-- Calls on connections that they have made are not on those that were there before. -/
theorem SelfContained.untouched_old (h : SelfContained es) (nodup : (opened (trace ++ es)).Nodup)
    (hc : c ∈ opened trace) : Untouched c es :=
  h.untouched fun new => not_mem_opened_of_nodup nodup new hc

/-- Behind a call that is not for a reply, nothing has just been admitted. -/
theorem settled_concat {e : Event} (h : ∀ c limit result, e ≠ .receive c limit result)
    (trace : List Event) : Settled (trace ++ [e]) := by
  intro k
  unfold admission?
  rw [List.getLast?_concat]
  split
  · next last => exact absurd (Option.some.inj last) (h _ _ _)
  · rfl

/-- Nothing has just been admitted if the latest exchange is not a transfer that was admitted. -/
theorem admission?_eq_none_of_head (h : (dialogue k trace).head?.bind Exchange.admitted? = none) :
    admission? k trace = none := by
  unfold admission?
  split
  · split
    · exact h
    · rfl
  · rfl

namespace Exchange

/-- An exchange whose reply was too long, or refused a transfer. -/
def Misled (x : Exchange) : Prop :=
  ¬x.Answered ∧ Reply.limit ≤ x.heard.length ∨
    x.Answered ∧ x.transfer? ≠ none ∧ x.admitted? = none

/-- The first exchange of a connection of the session: its binding line, to which there is no
reply. -/
def Greets (x : Exchange) (session : Session) : Prop :=
  ∃ before command, Session.Introduced before command session ∧
    x = { line := command.line, left := [], sending := false }

/-- The exchanges that a stream has on its control connection behind the first one. -/
structure Fits (x : Exchange) (direction : Direction) : Prop where
  ended : x.Over
  command : x.line = Command.stat.line ∨
    ∃ offset : Nat, x.line = (Command.transfer direction offset).line

theorem answered_of_heard {x : Exchange} {reply : Bytes}
    (h : x.heard = reply ++ [Reply.lineEnd]) : x.Answered := by
  unfold Answered
  rw [h]
  exact List.mem_append_right _ (List.mem_singleton.2 rfl)

theorem transfer?_stat {x : Exchange} (h : x.line = Command.stat.line) : x.transfer? = none := by
  unfold transfer?
  rw [h, Command.ofLine?_line]

theorem transfer?_transfer {x : Exchange} {direction : Direction} {offset : Nat}
    (h : x.line = (Command.transfer direction offset).line) :
    x.transfer? = some (direction, offset) := by
  unfold transfer?
  rw [h, Command.ofLine?_line]

theorem admitted?_of_transfer? {x : Exchange} (h : x.transfer? = none) : x.admitted? = none := by
  unfold admitted?
  split
  · exact h
  · rfl

/-- A transfer whose reply reads as the admission is admitted. -/
theorem Records.admitted? {x : Exchange} {line reply : Bytes} (h : x.Records line (.ok reply))
    (hreply : asciiText reply = Reply.admission) : x.admitted? = x.transfer? := by
  obtain ⟨sent, heard⟩ := h.answered reply rfl
  have bytes : reply = utf8 Reply.admission :=
    eq_utf8_of_asciiText hreply (by simp [Reply.admission])
  rw [bytes] at heard
  exact if_pos ⟨sent, heard⟩

/-- A transfer whose reply does not read as the admission is not admitted. -/
theorem Records.admitted?_of_rejected {x : Exchange} {line reply : Bytes}
    (h : x.Records line (.ok reply)) (hreply : asciiText reply ≠ Reply.admission) :
    x.admitted? = none := by
  obtain ⟨-, heard⟩ := h.answered reply rfl
  refine if_neg fun admitted => hreply ?_
  have same := heard.symm.trans admitted.2
  rw [List.append_cancel_right same]
  rfl

/-- An exchange without an answer is not admitted. -/
theorem Records.admitted?_of_error {x : Exchange} {line : Bytes} {e : Failure}
    (h : x.Records line (.error e)) : x.admitted? = none :=
  if_neg fun admitted => h.unanswered e rfl (answered_of_heard admitted.2)

/-- An exchange without an answer is only misled by a reply that is too long. -/
theorem Records.not_misled_of_error {x : Exchange} {line : Bytes} {e : Failure}
    (h : x.Records line (.error e)) : ¬x.Misled ↔ ∀ limit, e ≠ .replyTooLong limit := by
  have unanswered := h.unanswered e rfl
  rw [h.short e rfl, ← Nat.not_le]
  refine not_congr ⟨?_, fun long => .inl ⟨unanswered, long⟩⟩
  rintro (⟨-, long⟩ | ⟨answered, -⟩)
  · exact long
  · exact absurd answered unanswered

/-- A transfer whose reply does not read as the admission is misled. -/
theorem Records.misled_of_rejected {x : Exchange} {line reply : Bytes}
    (h : x.Records line (.ok reply)) (hx : x.transfer? ≠ none)
    (hreply : asciiText reply ≠ Reply.admission) : x.Misled := by
  obtain ⟨-, heard⟩ := h.answered reply rfl
  exact .inr ⟨answered_of_heard heard, hx, h.admitted?_of_rejected hreply⟩

/-- An answered exchange is not misled if it announces no transfer, or one that is admitted. -/
theorem Records.not_misled_of_ok {x : Exchange} {line reply : Bytes}
    (h : x.Records line (.ok reply)) (hx : x.admitted? = x.transfer?) : ¬x.Misled := by
  rintro (⟨unanswered, -⟩ | ⟨-, announces, refused⟩)
  · obtain ⟨-, heard⟩ := h.answered reply rfl
    exact unanswered (answered_of_heard heard)
  · exact announces (hx ▸ refused)

end Exchange

-- ════════════════════════════════════════════════════════════════════════
-- Control connections
-- ════════════════════════════════════════════════════════════════════════

/-- The exchanges `xs` are those of a control connection behind its first one, latest first. None
but the latest was misled, and that one exactly if it left the stream out of step. -/
structure Conversing (control : ConnectionId) (session : Session) (outOfStep : Option Failure)
    (trace : List Event) (xs : List Exchange) : Prop where
  dialogue_eq : ∃ first : Exchange, first.Greets session ∧ dialogue control trace = xs ++ [first]
  fits : ∀ x ∈ xs, x.Fits session.direction
  earlier : ∀ x ∈ xs.tail, ¬x.Misled
  latest : outOfStep = none ↔ ∀ x ∈ xs.head?, ¬x.Misled
  heard : delivered control trace = xs.reverse.flatMap Exchange.heard

section Conversing

variable {session : Session} {outOfStep : Option Failure} {xs : List Exchange}

theorem Conversing.frame (h : Conversing control session outOfStep trace xs)
    (untouched : Untouched control es) : Conversing control session outOfStep (trace ++ es) xs where
  dialogue_eq := by
    rw [untouched.dialogue_append]
    exact h.dialogue_eq
  fits := h.fits
  earlier := h.earlier
  latest := h.latest
  heard := by rw [delivered_append, untouched.delivered_eq_nil, List.append_nil, h.heard]

/-- No line of a control connection is in the middle. -/
theorem Conversing.paused (h : Conversing control session outOfStep trace xs) :
    Paused (dialogue control trace) := by
  obtain ⟨first, ⟨before, command, -, rfl⟩, hdialogue⟩ := h.dialogue_eq
  rw [hdialogue]
  intro x hx
  cases xs with
  | nil =>
    cases hx
    rfl
  | cons y later =>
    cases hx
    exact (h.fits _ (List.mem_cons_self ..)).ended.paused

/-- No exchange of a stream that is in step was misled. -/
theorem Conversing.not_misled (h : Conversing control session none trace xs) :
    ∀ x ∈ xs, ¬x.Misled := by
  intro x hx
  cases xs with
  | nil => cases hx
  | cons y later =>
    rcases List.mem_cons.1 hx with rfl | hx
    · exact h.latest.1 rfl _ rfl
    · exact h.earlier x hx

/-- A command of a stream that is in step is one more exchange. Whether the stream stays in step is
up to what the exchange shows. -/
theorem Conversing.exchange (h : Conversing control session none trace xs) {command : Command}
    (hcommand : command = .stat ∨ ∃ offset : Nat, command = .transfer session.direction offset)
    {r : Except Failure Bytes} (exchange : Wire.Exchanged control command.line es r) :
    ∃ x : Exchange, x.Records command.line r ∧
      dialogue control (trace ++ es) = x :: dialogue control trace ∧
      ∀ outOfStep, (outOfStep = none ↔ ¬x.Misled) →
        Conversing control session outOfStep (trace ++ es) (x :: xs) := by
  obtain ⟨x, hfold, hheard, records⟩ := exchange.foldl_converse command.line_ne_nil h.paused
  have hdialogue : dialogue control (trace ++ es) = x :: dialogue control trace := by
    rw [dialogue_append, hfold]
  refine ⟨x, records, hdialogue, fun outOfStep hmisled => ?_⟩
  obtain ⟨first, greets, hfirst⟩ := h.dialogue_eq
  refine ⟨⟨first, greets, ?_⟩, ?_, h.not_misled, ?_, ?_⟩
  · rw [hdialogue, hfirst]
    rfl
  · intro y hy
    rcases List.mem_cons.1 hy with rfl | hy
    · refine ⟨records.ended, ?_⟩
      rw [records.line_eq]
      rcases hcommand with rfl | ⟨offset, rfl⟩
      · exact .inl rfl
      · exact .inr ⟨offset, rfl⟩
    · exact h.fits y hy
  · exact hmisled.trans ⟨fun calm y hy => Option.some.inj hy ▸ calm, fun calm => calm x rfl⟩
  · rw [delivered_append, h.heard, hheard, List.reverse_cons, List.flatMap_append]
    simp only [List.flatMap_cons, List.flatMap_nil, List.append_nil]

end Conversing

-- ════════════════════════════════════════════════════════════════════════
-- Data connections
-- ════════════════════════════════════════════════════════════════════════

/-- The data connection `c` fits to its record: it was made for the last transfer that was
announced, it is bound to the session, and the position is the offset of the transfer and what has
moved since. -/
structure Carries (control c : ConnectionId) (session : Session) (position offset : Nat)
    (trace : List Event) : Prop where
  transfer : transferOn control c trace = some (session.direction, offset)
  last : ∃ newer x older, dialogue control trace = newer ++ x :: older ∧
    (∀ y ∈ newer, y.transfer? = none) ∧ dialogue control (beforeOpening c trace) = x :: older ∧
    x.line = (Command.transfer session.direction offset).line
  bound : ∃ id, session.id = some id ∧
    accepted c trace = (Command.runSession id).line ++ payload c trace
  position_eq : position = offset + (received c trace).length + (payload c trace).length
  oneWay : match session.direction with
    | .read => payload c trace = []
    | .write => received c trace = []
  newest : ∃ earlier later, opened trace = earlier ++ c :: later ∧
    ∀ c' ∈ later, transferOn control c' trace = none

section Carries

variable {session : Session} {position offset : Nat}

theorem Carries.mem_opened (h : Carries control c session position offset trace) :
    c ∈ opened trace :=
  mem_opened_of_transferOn h.transfer

/-- What a bound connection accepts from now on is payload. -/
theorem Carries.payload_append (h : Carries control c session position offset trace)
    (es : List Event) : payload c (trace ++ es) = payload c trace ++ accepted c es := by
  obtain ⟨id, -, haccepted⟩ := h.bound
  rw [payload, accepted_append, haccepted, List.append_assoc, behindLine_line]

/-- The data connection goes on to fit while payload moves in the direction of the stream, no
transfer is announced, and no connection is made for one. -/
theorem Carries.extend (h : Carries control c session position offset trace)
    {xs : List Exchange} (hdialogue : dialogue control (trace ++ es) = xs ++ dialogue control trace)
    (hxs : ∀ x ∈ xs, x.transfer? = none)
    (hnew : ∀ c' ∈ opened es, transferOn control c' (trace ++ es) = none)
    (hway : match session.direction with
      | .read => accepted c es = []
      | .write => received c es = []) :
    Carries control c session (position + (received c es).length + (accepted c es).length) offset
      (trace ++ es) where
  transfer := by rw [transferOn_append h.mem_opened, h.transfer]
  last := by
    obtain ⟨newer, x, older, hlast, hnewer, hbefore, hline⟩ := h.last
    refine ⟨xs ++ newer, x, older, ?_, ?_, ?_, hline⟩
    · rw [hdialogue, hlast, List.append_assoc]
    · exact fun y hy => (List.mem_append.1 hy).elim (hxs y) (hnewer y)
    · rw [beforeOpening_append h.mem_opened, hbefore]
  bound := by
    obtain ⟨id, hid, haccepted⟩ := h.bound
    exact ⟨id, hid, by rw [h.payload_append, accepted_append, haccepted, List.append_assoc]⟩
  position_eq := by
    rw [h.payload_append, received_append, List.length_append, List.length_append, h.position_eq]
    omega
  oneWay := by
    have hbefore := h.oneWay
    rw [h.payload_append, received_append]
    cases hdirection : session.direction with
    | read =>
      rw [hdirection] at hbefore hway
      dsimp only at hbefore hway ⊢
      rw [hbefore, hway, List.append_nil]
    | write =>
      rw [hdirection] at hbefore hway
      dsimp only at hbefore hway ⊢
      rw [hbefore, hway, List.append_nil]
  newest := by
    obtain ⟨earlier, later, hopened, hlater⟩ := h.newest
    refine ⟨earlier, later ++ opened es, ?_, ?_⟩
    · rw [opened_append, hopened, List.append_assoc, List.cons_append]
    · intro c' hc'
      rcases List.mem_append.1 hc' with hc' | hc'
      · have made : c' ∈ opened trace := by
          rw [hopened]
          exact List.mem_append_right _ (List.mem_cons_of_mem _ hc')
        rw [transferOn_append made, hlater c' hc']
      · exact hnew c' hc'

/-- The data connection goes on to fit while it is not called on. -/
theorem Carries.rest (h : Carries control c session position offset trace)
    (untouched : Untouched c es) {xs : List Exchange}
    (hdialogue : dialogue control (trace ++ es) = xs ++ dialogue control trace)
    (hxs : ∀ x ∈ xs, x.transfer? = none)
    (hnew : ∀ c' ∈ opened es, transferOn control c' (trace ++ es) = none) :
    Carries control c session position offset (trace ++ es) := by
  have same : Carries control c session
      (position + (received c es).length + (accepted c es).length) offset (trace ++ es) := by
    refine h.extend hdialogue hxs hnew ?_
    rw [untouched.accepted_eq_nil, untouched.received_eq_nil]
    cases session.direction <;> rfl
  rwa [untouched.accepted_eq_nil, untouched.received_eq_nil] at same

theorem Carries.frame (h : Carries control c session position offset trace)
    (nodup : (opened (trace ++ es)).Nodup) (settled : admission? control trace = none)
    (hcontrol : Untouched control es) (hc : Untouched c es) :
    Carries control c session position offset (trace ++ es) := by
  have same : dialogue control (trace ++ es) = [] ++ dialogue control trace :=
    hcontrol.dialogue_append trace
  refine h.rest hc same nofun fun c' hc' => ?_
  exact transferOn_of_untouched (not_mem_opened_of_nodup nodup hc') hcontrol settled

end Carries

namespace Link

/-- The connections that an open stream holds. -/
def connections (link : Link) : List ConnectionId :=
  link.control :: link.data.toList

/-- An open stream fits to its record. -/
structure Sound (link : Link) (trace : List Event) : Prop where
  mem_opened : link.control ∈ opened trace
  unannounced : ∀ k, transferOn k link.control trace = none
  assigned : link.session.assigned = true
  conversing : ∃ xs, Conversing link.control link.session link.outOfStep trace xs
  carries : ∀ c, link.data = some c →
    ∃ offset, Carries link.control c link.session link.position offset trace

variable {link : Link}

/-- The control connection carries no payload. -/
theorem Sound.control_ne (h : link.Sound trace) {offset position : Nat} {session : Session}
    (hc : Carries link.control c session position offset trace) : c ≠ link.control := by
  rintro rfl
  have announced := hc.transfer
  rw [h.unannounced] at announced
  cases announced

/-- The connections of an open stream are on record. -/
theorem Sound.connections_subset (h : link.Sound trace) : link.connections ⊆ opened trace := by
  intro c hc
  rcases List.mem_cons.1 hc with rfl | hc
  · exact h.mem_opened
  · obtain ⟨offset, carries⟩ := h.carries c (Option.mem_toList.1 hc)
    exact carries.mem_opened

/-- While the session and the control connection stay, only what was said on that connection and
what was moved since has to be looked at. -/
theorem Sound.append (h : link.Sound trace) {after : Link} (control : after.control = link.control)
    (session : after.session = link.session)
    (conversing : ∃ xs, Conversing after.control after.session after.outOfStep (trace ++ es) xs)
    (carries : ∀ c, after.data = some c →
      ∃ offset, Carries after.control c after.session after.position offset (trace ++ es)) :
    after.Sound (trace ++ es) where
  mem_opened := by
    rw [control]
    exact mem_opened_append h.mem_opened es
  unannounced k := by rw [control, transferOn_append h.mem_opened, h.unannounced]
  assigned := by
    rw [session]
    exact h.assigned
  conversing := conversing
  carries := carries

/-- **Frame**: calls that are on no connection of an open stream leave it fitting to its record. -/
theorem Sound.frame (h : link.Sound trace) (nodup : (opened (trace ++ es)).Nodup)
    (settled : link.data = none ∨ admission? link.control trace = none)
    (untouched : ∀ c ∈ link.connections, Untouched c es) : link.Sound (trace ++ es) := by
  have calm := untouched _ (List.mem_cons_self ..)
  refine h.append rfl rfl ?_ fun c hc => ?_
  · obtain ⟨xs, conversing⟩ := h.conversing
    exact ⟨xs, conversing.frame calm⟩
  · obtain ⟨offset, carries⟩ := h.carries c hc
    have settled := settled.resolve_left fun without => by rw [without] at hc; cases hc
    refine ⟨offset, carries.frame nodup settled calm ?_⟩
    exact untouched c (List.mem_cons_of_mem _ (Option.mem_toList.2 hc))

end Link

end SessionStream
