import GraphProtocol.Proofs.Connection.Answer

/-!
# What handling an event does

An event of the result that is being pulled either adds a record and lets the
pull go on, or ends the pull with a terminal response. A step of a batch handles
one event that is at hand, finds none, or loses the one it takes.
-/

set_option autoImplicit false

namespace GraphProtocol

variable {σ π : Type}

namespace Actor

def halted (a : Actor σ π) : Actor σ π := { a with pulling := none }

def emptied (a : Actor σ π) : Actor σ π := { a with session := { a.session with result := none } }

/-- What comes of an event of the pulled result, or of its end; the flag tells whether more may
follow. -/
inductive Handled (a : Actor σ π) (p : Pulling) : Option StreamEvent → Bool → Actor σ π → Prop where
  | record {fields : List Value} {handler : Handler} {delivery : Delivery} {outbox : Outbox} :
      p.handler.record a.outbox fields = (handler, .ok (delivery, outbox)) →
      Handled a p (some (.record fields)) true
        { a with outbox, pulling := some { p with handler } }
  | unsendable {fields : List Value} {handler : Handler} {e : ProtocolError} {b : Actor σ π} :
      p.handler.record a.outbox fields = (handler, .error (.error e)) →
      a.halted.failing.Answered handler (.failure (.ofStatus .requestInvalid e.message)) b →
      Handled a p (some (.record fields)) false b
  | done {metadata : Dict Value} {b : Actor σ π} :
      Answered { a.halted.emptied with session := a.halted.emptied.session.withState p.next }
        p.handler (.success (Act.summary a.session.version p.handler a.now metadata)) b →
      Handled a p (some (.done metadata)) false b
  | failed {f : Failure} {b : Actor σ π} :
      a.halted.emptied.failing.Answered p.handler (.failure f) b →
      Handled a p (some (.failed f)) false b
  | closed {b : Actor σ π} :
      a.halted.emptied.failing.Answered p.handler
        (.failure (.ofStatus .unknownError "result stream ended unexpectedly")) b →
      Handled a p none false b

def took (a : Actor σ π) (r : ResultStream π) : Actor σ π :=
  { a with session := { a.session with result := some r } }

def rested (a : Actor σ π) : Actor σ π := { a with batch := none, outbox := a.outbox.flush }

def batched (a : Actor σ π) (left : Nat) (goesOn : Bool) : Actor σ π :=
  let ends := !goesOn || a.outbox.isFull
  { a with
    batch := if ends then none else some left
    outbox := if ends then a.outbox.flush else a.outbox }

theorem batched_accepted (a : Actor σ π) (left : Nat) (goesOn : Bool) :
    (a.batched left goesOn).outbox.accepted = a.outbox.accepted := by
  unfold batched
  dsimp only
  split <;> rfl

theorem batched_version (a : Actor σ π) (left : Nat) (goesOn : Bool) :
    (a.batched left goesOn).outbox.version = a.outbox.version := by
  unfold batched
  dsimp only
  split <;> rfl

/-- What comes of a step of a batch while a result is being pulled. -/
inductive Pumped (a : Actor σ π) (p : Pulling) : Actor σ π → Prop where
  | first {r : ResultStream π} {event : StreamEvent} {ready : List StreamEvent} {goesOn : Bool}
      {b : Actor σ π} : a.batch = none → a.session.result = some r → r.ready = event :: ready →
      (a.took { r with ready }).Handled p (some event) goesOn b →
      Pumped a p (b.batched (Act.batchSize - 1) goesOn)
  | further {r : ResultStream π} {event : StreamEvent} {ready : List StreamEvent} {goesOn : Bool}
      {left : Nat} {b : Actor σ π} : a.batch = some (left + 1) → a.session.result = some r →
      r.ready = event :: ready → (a.took { r with ready }).Handled p (some event) goesOn b →
      Pumped a p (b.batched left goesOn)
  | lost {r : ResultStream π} {event : StreamEvent} {ready : List StreamEvent} :
      a.batch = some 0 → a.session.result = some r → r.ready = event :: ready →
      Pumped a p (a.took { r with ready }).rested
  | dry {left : Nat} : a.batch = some left → (∀ r, a.session.result = some r → r.ready = []) →
      Pumped a p a.rested
  | ended {goesOn : Bool} {b : Actor σ π} : a.batch = none →
      (∀ r, a.session.result = some r → r.ready = []) → a.Handled p none goesOn b →
      Pumped a p (b.batched (Act.batchSize - 1) goesOn)

/-- A record is passed over or put into the outbox. -/
theorem record_outbox {h handler : Handler} {out out' : Outbox} {fields : List Value}
    {delivery : Delivery} (recorded : h.record out fields = (handler, .ok (delivery, out'))) :
    out' = out ∨ out.queue (.record fields) = .ok out' := by
  unfold Handler.record at recorded
  split at recorded
  · cases recorded
    exact .inl rfl
  dsimp only at recorded
  split at recorded
  · cases room : out.queue (.record fields) with
    | error e => rw [room] at recorded; cases recorded
    | ok out'' =>
      rw [room] at recorded
      cases recorded
      exact .inr rfl
  · cases recorded
    exact .inl rfl

end Actor

namespace Act

variable {a b : Actor σ π} {p : Pulling}

theorem dropResult_bind {β : Type} (f : Unit → Act σ π β) (a : Actor σ π) :
    (dropResult >>= f) a = f () a.emptied := rfl

theorem record_outcome {fields : List Value} {goesOn : Bool} (hp : a.pulling = some p)
    (run : handleEvent (some (.record fields)) a = .ok goesOn b) :
    a.Handled p (some (.record fields)) goesOn b := by
  unfold handleEvent at run
  rw [get_bind, hp] at run
  simp only [modify_bind, get_bind] at run
  cases hr : p.handler.record a.outbox fields with | mk handler outcome =>
  rw [hr] at run
  cases outcome with
  | ok given =>
    cases run
    exact .record hr
  | error abort =>
    cases abort with
    | breakdown => cases run
    | error e =>
      cases fatal : e.isFatal with
      | true => simp only [fatal, if_true, fatal_bind] at run; cases run
      | false =>
        simp only [fatal] at run
        obtain ⟨⟨⟩, c, failed, rest⟩ := bind_ok run
        cases rest
        exact .unsendable hr (fail_outcome failed)

theorem handleEvent_outcome {event : Option StreamEvent} {goesOn : Bool} (hp : a.pulling = some p)
    (run : handleEvent event a = .ok goesOn b) : a.Handled p event goesOn b := by
  rcases event with _ | ⟨fields⟩ | ⟨metadata⟩ | ⟨f⟩
  · unfold handleEvent at run
    rw [get_bind, hp] at run
    simp only [modify_bind, dropResult_bind] at run
    obtain ⟨⟨⟩, c, failed, rest⟩ := bind_ok run
    cases rest
    exact .closed (fail_outcome failed)
  · exact record_outcome hp run
  · unfold handleEvent at run
    rw [get_bind, hp] at run
    simp only [modify_bind, dropResult_bind, get_bind, setState_bind] at run
    obtain ⟨⟨⟩, c, answered, rest⟩ := bind_ok run
    cases rest
    exact .done (respond_outcome answered)
  · unfold handleEvent at run
    rw [get_bind, hp] at run
    simp only [modify_bind, dropResult_bind] at run
    obtain ⟨⟨⟩, c, failed, rest⟩ := bind_ok run
    cases rest
    exact .failed (fail_outcome failed)

theorem handleInBatch_outcome {event : Option StreamEvent} {left : Nat} (hp : a.pulling = some p)
    (run : handleInBatch left event a = .ok () b) :
    ∃ goesOn c, a.Handled p event goesOn c ∧ b = c.batched left goesOn := by
  unfold handleInBatch at run
  obtain ⟨goesOn, c, handled, rest⟩ := bind_ok run
  refine ⟨goesOn, c, handleEvent_outcome hp handled, ?_⟩
  rw [get_bind] at rest
  split at rest
  · next ends => cases rest; simp only [Actor.batched, ends, if_true]
  · next goes => cases rest; simp only [Actor.batched, goes]; rfl

theorem takeEvent_none (h : ∀ r, a.session.result = some r → r.ready = []) :
    takeEvent a = .ok none a := by
  unfold takeEvent
  rw [get_bind]
  cases hr : a.session.result with
  | none => rfl
  | some r => simp only [Option.bind_some, ResultStream.takeReady?, h r hr]; rfl

theorem takeEvent_some {r : ResultStream π} {event : StreamEvent} {ready : List StreamEvent}
    (hr : a.session.result = some r) (h : r.ready = event :: ready) :
    takeEvent a = .ok (some event) (a.took { r with ready }) := by
  unfold takeEvent
  rw [get_bind]
  simp only [hr, Option.bind_some, ResultStream.takeReady?, h]
  rfl

theorem pump_outcome (hp : a.pulling = some p) (run : pump a = .ok () b) : a.Pumped p b := by
  unfold pump at run
  rw [get_bind] at run
  by_cases waiting : ∃ r event ready, a.session.result = some r ∧ r.ready = event :: ready
  · obtain ⟨r, event, ready, hr, he⟩ := waiting
    rw [bind_of_ok (takeEvent_some hr he)] at run
    cases hb : a.batch with
    | none =>
      rw [hb] at run
      obtain ⟨goesOn, c, handled, rfl⟩ :=
        handleInBatch_outcome (a := a.took { r with ready }) hp run
      exact .first hb hr he handled
    | some left =>
      rw [hb] at run
      cases left with
      | zero => cases run; exact .lost hb hr he
      | succ left =>
        obtain ⟨goesOn, c, handled, rfl⟩ :=
          handleInBatch_outcome (a := a.took { r with ready }) hp run
        exact .further hb hr he handled
  · have none_ready : ∀ r, a.session.result = some r → r.ready = [] := by
      intro r hr
      cases he : r.ready with
      | nil => rfl
      | cons event ready => exact absurd ⟨r, event, ready, hr, he⟩ waiting
    rw [bind_of_ok (takeEvent_none none_ready)] at run
    cases hb : a.batch with
    | none =>
      rw [hb] at run
      obtain ⟨goesOn, c, handled, rfl⟩ := handleInBatch_outcome hp run
      exact .ended hb none_ready handled
    | some left => rw [hb] at run; cases run; exact .dry hb none_ready

def room : Option Nat → Nat
  | none => batchSize
  | some left => left

theorem pump_handles {c : Actor σ π} {r : ResultStream π} {event : StreamEvent}
    {ready : List StreamEvent} {goesOn : Bool} (open_ : a.batch ≠ some 0)
    (held : a.session.result = some r) (waits : r.ready = event :: ready)
    (handled : handleEvent (some event) (a.took { r with ready }) = .ok goesOn c) :
    pump a = .ok () (c.batched (room a.batch - 1) goesOn) := by
  have inBatch (left : Nat) : handleInBatch left (some event) (a.took { r with ready }) =
      .ok () (c.batched left goesOn) := by
    unfold handleInBatch
    rw [bind_of_ok handled, get_bind]
    split
    · next ends => simp only [Actor.batched, ends, if_true]; rfl
    · next goes => simp only [Actor.batched, goes]; rfl
  unfold pump
  rw [get_bind, bind_of_ok (takeEvent_some held waits)]
  cases batch : a.batch with
  | none => exact inBatch _
  | some left =>
    cases left with
    | zero => exact absurd batch open_
    | succ left => exact inBatch left

theorem pump_loses {r : ResultStream π} {event : StreamEvent} {ready : List StreamEvent}
    (full : a.batch = some 0) (held : a.session.result = some r)
    (waits : r.ready = event :: ready) :
    pump a = .ok () (a.took { r with ready }).rested := by
  unfold pump
  rw [get_bind, bind_of_ok (takeEvent_some held waits), full]
  rfl

theorem handleEvent_record {fields : List Value} {handler : Handler} {delivery : Delivery}
    {outbox : Outbox} (hp : a.pulling = some p)
    (recorded : p.handler.record a.outbox fields = (handler, .ok (delivery, outbox))) :
    handleEvent (some (.record fields)) a =
      .ok true { a with outbox, pulling := some { p with handler } } := by
  unfold handleEvent
  rw [get_bind, hp]
  simp only [modify_bind, get_bind, recorded]
  rfl

theorem handleEvent_done {metadata : Dict Value} {outbox : Outbox}
    (hp : a.pulling = some p) (unanswered : p.handler.done = false)
    (loud : p.handler.reply ≠ .silent)
    (room : a.outbox.queue (.success (summary a.session.version p.handler a.now metadata)) =
      .ok outbox) :
    ∃ b, handleEvent (some (.done metadata)) a = .ok false b := by
  unfold handleEvent
  rw [get_bind, hp]
  simp only [modify_bind, dropResult_bind, get_bind, setState_bind]
  have sent := respond_sent (h := p.handler) (a := { a.halted.emptied with
    session := a.halted.emptied.session.withState p.next }) unanswered loud room
  exact ⟨_, bind_of_ok sent⟩

theorem handleEvent_failed {f : Failure} {outbox : Outbox} (hp : a.pulling = some p)
    (unanswered : p.handler.done = false) (loud : p.handler.reply ≠ .silent)
    (room : a.outbox.queue (.failure f) = .ok outbox) :
    ∃ b, handleEvent (some (.failed f)) a = .ok false b := by
  unfold handleEvent
  rw [get_bind, hp]
  simp only [modify_bind, dropResult_bind]
  have sent : fail p.handler f a.halted.emptied = _ :=
    respond_sent (a := a.halted.emptied.failing) unanswered loud room
  exact ⟨_, bind_of_ok sent⟩

end Act

end GraphProtocol
