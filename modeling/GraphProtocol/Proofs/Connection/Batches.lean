import GraphProtocol.Proofs.Connection.Pull

/-!
# Batches of a pull

A batch begins with the first event that is handled and has room for a fixed
number of them. The count of the batch tells how many it can still handle, so
that an event is lost only after a whole batch has been handled.
-/

set_option autoImplicit false

namespace GraphProtocol

variable {σ π : Type}

namespace Actor

variable {ctx : Context σ π} {a b c : Actor σ π} {p q : Pulling} {move : Move σ}

theorem received_batch {messages : List (List UInt8)} (received : a.Received messages b) :
    b.batch = a.batch := by
  induction received with
  | nothing => rfl
  | message first _ ih =>
    rw [ih]
    cases first with
    | plain => rfl
    | reset _ _ interrupted =>
      obtain ⟨outbox, metrics, rfl⟩ := interrupted_parts interrupted
      rfl

theorem dealt_batch {m : Inbound} (dealt : a.Dealt ctx m b) : b.batch = a.batch := by
  cases dealt with
  | unknown | resetWaits => rfl
  | invalidPassed _ answered | invalidRefused _ _ _ _ answered | passed _ _ answered
  | ignored _ _ answered | resetPassed _ _ answered | resetDone _ _ _ answered =>
    obtain ⟨outbox, metrics, rfl⟩ := answered_parts answered
    rfl
  | performed _ _ performed =>
    cases performed with
    | pulled => rfl
    | opened _ answered | ran _ answered | runFailed _ answered | nothingHeld _ _ answered
    | begun _ answered | beginFailed _ answered | noTx _ _ answered | committed _ _ answered
    | commitFailed _ _ answered | rolledBack _ _ answered | rollbackFailed _ _ answered =>
      obtain ⟨outbox, metrics, rfl⟩ := answered_parts answered
      rfl

theorem batched_batch {left left' : Nat} {goesOn : Bool}
    (within : (a.batched left goesOn).batch = some left') : goesOn = true ∧ left' = left := by
  unfold batched at within
  dsimp only at within
  split at within
  · cases within
  · next goes =>
    cases within
    simp only [Bool.or_eq_true, not_or, Bool.not_eq_true', Bool.not_eq_false] at goes
    exact ⟨goes.1, rfl⟩

theorem handled_stops {event : Option StreamEvent} {goesOn : Bool}
    (handled : a.Handled p event goesOn b) (ends : b.pulling = none) : goesOn = false := by
  cases handled with
  | record => cases ends
  | unsendable | done | failed | closed => rfl

theorem reachable_batch (reachable : Reachable ctx a) : a.pulling = none → a.batch = none := by
  induction reachable with
  | fresh => exact fun _ => rfl
  | @move a b move start moved ih =>
    intro idle
    obtain ⟨o, d, -, occurred, rfl⟩ | ⟨_, _, _, -, rfl⟩ := move_outcome moved
    · cases occurred with
      | received can received =>
        exact (received_batch received).trans (canRead_free can).2
      | turn can _ dealt =>
        exact (dealt_batch dealt).trans (ih (hasTurn_free can).2)
      | produced => exact ih idle
      | pumped _ hp pumped =>
        cases pumped with
        | lost | dry => rfl
        | first _ _ _ handled | further _ _ _ handled | ended _ _ handled =>
          cases handled_stops handled idle
          simp [poised, batched]
      | cleaned waits answered =>
        obtain ⟨outbox, metrics, rfl⟩ := answered_parts answered
        exact ih idle
    · exact ih idle

theorem turned_batch (reachable : Reachable ctx a) (turned : a.move? ctx (.here .turn) = some b) :
    b.batch = none := by
  obtain ⟨o, d, known, occurred, rfl⟩ | ⟨_, _, _, ⟨⟩, -⟩ := move_outcome turned
  cases known
  cases occurred with
  | turn can _ dealt =>
    have free : a.batch = none := reachable_batch reachable (hasTurn_free can).2
    exact (dealt_batch dealt).trans free

theorem taken_one {r : ResultStream π} {event : StreamEvent} {ready : List StreamEvent}
    (room : a.batch ≠ some 0) (held : a.session.result = some r)
    (waits : r.ready = event :: ready) :
    (a.handles (.here .pumped : Move σ)).length = 1 := by
  simp [handles, takes, room, Actor.ready, held, waits]

theorem move_batch {left : Nat} (hp : a.pulling = some p) (moved : a.move? ctx move = some b)
    (within : b.batch = some left) :
    (a.batch = none ∧ (a.handles move).length + left = Act.batchSize) ∨
    a.batch = some ((a.handles move).length + left) := by
  obtain ⟨o, d, rfl, occurred, rfl⟩ | ⟨_, _, _, rfl, rfl⟩ := move_outcome moved
  · have within : d.batch = some left := within
    cases occurred with
    | received can received =>
      cases within.symm.trans ((received_batch received).trans (canRead_free can).2)
    | turn turns => simp [Connection.hasTurn, hp] at turns
    | produced =>
      have same : a.batch = some left := within
      exact .inr (by simpa [handles, takes] using same)
    | pumped _ hp' pumped =>
      cases pumped with
      | first batch held waits handled =>
        obtain ⟨-, rfl⟩ := batched_batch within
        refine .inl ⟨batch, ?_⟩
        rw [taken_one (by simp [batch]) held waits]
        rfl
      | further batch held waits handled =>
        obtain ⟨-, rfl⟩ := batched_batch within
        refine .inr ?_
        rw [taken_one (by simp [batch]) held waits, batch, Nat.add_comm]
      | lost | dry => cases within
      | ended _ _ handled =>
        cases handled with
        | closed => cases (batched_batch within).1
    | cleaned waits answered =>
      obtain ⟨outbox, metrics, rfl⟩ := answered_parts answered
      have same : a.batch = some left := within
      exact .inr (by simpa [handles, takes] using same)
  · exact .inr (by simpa [handles, takes] using within)

/-- The events handled in the batch that is under way and those it still has room for make up a
whole batch. -/
theorem underway_batch {moves : List (Move σ)} {left : Nat} (underway : Underway ctx a moves c)
    (within : c.batch = some left) :
    (∃ before inside d, moves = before ++ inside ∧ a.run? ctx before = some d ∧ d.batch = none ∧
      (gather ctx handles d inside).length + left = Act.batchSize) ∨
    a.batch = some ((gather ctx handles a moves).length + left) := by
  induction underway with
  | still => exact .inr (by simpa [gather] using within)
  | @move a b c move moves pulls moved _ ih =>
    obtain ⟨p, hp⟩ := Option.isSome_iff_exists.mp pulls
    rcases ih within with ⟨before, inside, d, rfl, ran, free, whole⟩ | further
    · refine .inl ⟨move :: before, inside, d, rfl, ?_, free, whole⟩
      simp only [run?, moved, Option.bind_some, ran]
    · rcases move_batch hp moved further with ⟨free, whole⟩ | batch
      · refine .inl ⟨[], move :: moves, a, rfl, rfl, free, ?_⟩
        rw [gather_cons handles moved, List.length_append]
        omega
      · refine .inr ?_
        rw [batch, gather_cons handles moved, List.length_append, Nat.add_assoc]

/-- An event is lost only if its batch has already handled as many events as it may. -/
theorem lost_full {early : List (Move σ)} (fresh : a.batch = none)
    (underway : Underway ctx a early c) (lost : c.loses move ≠ []) :
    ∃ before inside d, early = before ++ inside ∧ a.run? ctx before = some d ∧ d.batch = none ∧
      (gather ctx handles d inside).length = Act.batchSize := by
  have full : c.batch = some 0 := by
    unfold loses at lost
    split at lost
    · assumption
    · exact absurd rfl lost
  rcases underway_batch underway full with outcome | already
  · exact outcome
  · cases fresh.symm.trans already

/-! ## Filling a batch -/

def Flows : Handler → Outbox → List (List Value) → Prop
  | _, _, [] => True
  | h, out, fields :: records => ∃ delivery out',
      h.record out fields = (h.further, .ok (delivery, out')) ∧ out'.isFull = false ∧
        Flows h.further out' records

theorem pumped_flows (ctx : Context σ π) {r : ResultStream π} {fields : List Value}
    {ready : List StreamEvent} {delivery : Delivery} {out : Outbox} (clean : a.cleanup = none)
    (hp : a.pulling = some p)
    (room : a.batch ≠ some 0) (held : a.session.result = some r)
    (waits : r.ready = .record fields :: ready)
    (recorded : p.handler.record a.outbox fields = (p.handler.further, .ok (delivery, out)))
    (free : out.isFull = false) :
    a.move? ctx (.here .pumped) = some { a.took { r with ready } with
      outbox := out, pulling := some { p with handler := p.handler.further },
      batch := some (Act.room a.batch - 1) } := by
  rw [Actor.pumped_record clean hp room held waits recorded]
  simp [poised, batched, free, Connection.isWaiting]

theorem batch_handles (ctx : Context σ π) {r : ResultStream π} {records : List (List Value)}
    {ready : List StreamEvent} (clean : a.cleanup = none) (hp : a.pulling = some p)
    (held : a.session.result = some r) (waits : r.ready = records.map .record ++ ready)
    (flows : Flows p.handler a.outbox records) (room : records.length ≤ Act.room a.batch) :
    ∃ outbox q batch, Underway ctx a (List.replicate records.length (.here .pumped))
        { a.took { r with ready } with outbox, pulling := some q, batch } ∧
      (records = [] ∨ batch = some (Act.room a.batch - records.length)) := by
  induction records generalizing a p r with
  | nil =>
    have same : { a.took { r with ready } with pulling := some p } = a := by
      rw [← hp, ← show r.ready = ready from waits]
      unfold took
      rw [← held]
    refine ⟨a.outbox, p, a.batch, ?_, .inl rfl⟩
    change Underway ctx a [] { a.took { r with ready } with pulling := some p }
    rw [same]
    exact .still (by simp [hp])
  | cons fields records ih =>
    obtain ⟨delivery, out, recorded, free, flows⟩ := flows
    have open_ : a.batch ≠ some 0 := by
      intro full
      simp [full, Act.room] at room
    have moved := pumped_flows ctx clean hp open_ held waits recorded free
    simp only [List.length_cons] at room
    have fits : records.length ≤ Act.room a.batch - 1 := by omega
    obtain ⟨outbox, q, batch, underway, left⟩ := ih (a := { a.took { r with
      ready := records.map .record ++ ready } with
        outbox := out, pulling := some { p with handler := p.handler.further },
        batch := some (Act.room a.batch - 1) }) clean rfl rfl rfl flows fits
    refine ⟨outbox, q, some (Act.room a.batch - (records.length + 1)), ?_, .inr rfl⟩
    have same : batch = some (Act.room a.batch - (records.length + 1)) := by
      rcases left with rfl | left
      · cases underway
        rfl
      · rw [left, Act.room]
        congr 1
        omega
    rw [← same]
    exact .move (by simp [hp]) moved underway

/-- The event that follows the records of a whole batch is lost if it is at hand. -/
theorem whole_batch_loses (ctx : Context σ π) {r : ResultStream π} {records : List (List Value)}
    {event : StreamEvent} {ready : List StreamEvent} (clean : a.cleanup = none)
    (hp : a.pulling = some p)
    (fresh : a.batch = none) (whole : records.length = Act.batchSize)
    (held : a.session.result = some r) (waits : r.ready = records.map .record ++ event :: ready)
    (flows : Flows p.handler a.outbox records) :
    ∃ outbox q, Underway ctx a (List.replicate (Act.batchSize + 1) (.here .pumped))
        { a.took { r with ready } with outbox, pulling := some q, batch := none } ∧
      event ∈ gather ctx loses a (List.replicate (Act.batchSize + 1) (.here .pumped)) := by
  have fits : records.length ≤ Act.room a.batch := by
    rw [fresh, whole]
    exact Nat.le_refl _
  obtain ⟨outbox, q, batch, underway, left⟩ :=
    batch_handles ctx clean hp held waits flows fits
  have full : batch = some 0 := by
    rcases left with rfl | left
    · cases whole
    · rw [left, fresh, whole]
      rfl
  subst full
  rw [whole] at underway
  have can : allows ctx { a.took { r with ready := event :: ready } with
      outbox, pulling := some q, batch := some 0 } .pumped = true := by
    simp [allows, Connection.canPump, took, clean]
  have moved := move_here can (bind_of_ok (Act.pump_loses rfl rfl rfl))
  rw [List.replicate_succ']
  refine ⟨_, q, underway_append underway (.move rfl moved (.still rfl)), ?_⟩
  rw [gather_append loses (underway_run underway).1]
  refine List.mem_append_right _ ?_
  simp [gather, loses, takes, Actor.ready, took]

end Actor

end GraphProtocol
