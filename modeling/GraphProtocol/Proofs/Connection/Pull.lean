import GraphProtocol.Proofs.Connection.Phase

/-!
# Runs of a pull

While a result is pulled, its producer gives events at any moment and the
connection takes them off in batches. An event that is taken is handled, unless
it is at hand when a batch has no room left: then it is lost. An event after which
the pull goes on is a record, and it has been sent if the pull sends records.
-/

set_option autoImplicit false

namespace GraphProtocol

variable {σ π : Type}

def StreamEvent.isRecord : StreamEvent → Bool
  | .record _ => true
  | _ => false

def Pulling.shown (p : Pulling) (records : List (List Value)) : List (List Value) :=
  if p.handler.kind = .pullAll then records else []

namespace Actor

def ready (a : Actor σ π) : List StreamEvent := (a.session.result.map ResultStream.ready).getD []

def sends (ctx : Context σ π) (a : Actor σ π) : Move σ → List StreamEvent
  | .here (.produced count) =>
    match a.session.result with
    | some r => (r.fill ctx.engine a.now a.session.cancel count).ready.drop r.ready.length
    | none => []
  | _ => []

def takes (a : Actor σ π) : Move σ → List StreamEvent
  | .here .pumped => a.ready.take 1
  | _ => []

/-- The event that a move loses: one that is taken when the batch has no room left. -/
def loses (a : Actor σ π) (move : Move σ) : List StreamEvent :=
  if a.batch = some 0 then a.takes move else []

def handles (a : Actor σ π) (move : Move σ) : List StreamEvent :=
  if a.batch = some 0 then [] else a.takes move

/-- Runs during which a result is being pulled, without an end. -/
inductive Underway (ctx : Context σ π) : Actor σ π → List (Move σ) → Actor σ π → Prop where
  | still {a : Actor σ π} : a.pulling.isSome = true → Underway ctx a [] a
  | move {a b c : Actor σ π} {move : Move σ} {moves : List (Move σ)} :
      a.pulling.isSome = true → a.move? ctx move = some b → Underway ctx b moves c →
      Underway ctx a (move :: moves) c

/-- A pull that has gone on while these records have been handled. -/
structure Carried (a : Actor σ π) (p : Pulling) (records : List (List Value)) (b : Actor σ π)
    (q : Pulling) : Prop where
  sent : b.outbox.accepted.reverse = a.outbox.accepted.reverse ++ (p.shown records).map .record
  version : b.outbox.version = a.outbox.version
  next : q.next = p.next
  handler : q.handler = { p.handler with records := q.handler.records }

def ending (a : Actor σ π) (p : Pulling) : Option StreamEvent → Response
  | some (.done metadata) =>
    .success (Act.summary a.session.version p.handler a.now metadata)
  | some (.failed f) => .failure f
  | some (.record _) | none =>
    .failure (.ofStatus .unknownError "result stream ended unexpectedly")

variable {ctx : Context σ π} {a b c : Actor σ π} {p q : Pulling} {move : Move σ}

theorem shown_append (p : Pulling) (early late : List (List Value)) :
    p.shown (early ++ late) = p.shown early ++ p.shown late := by
  unfold Pulling.shown
  split <;> rfl

theorem carried_refl (a : Actor σ π) (p : Pulling) : Carried a p [] a p where
  sent := by
    unfold Pulling.shown
    split <;> simp
  version := rfl
  next := rfl
  handler := rfl

theorem carried_trans {s : Pulling} {early late : List (List Value)}
    (first : Carried a p early b q) (second : Carried b q late c s) :
    Carried a p (early ++ late) c s where
  sent := by
    have kind : q.handler.kind = p.handler.kind := by rw [first.handler]
    have same : q.shown late = p.shown late := by
      unfold Pulling.shown
      rw [kind]
    rw [second.sent, first.sent, same, shown_append, List.map_append, List.append_assoc]
  version := second.version.trans first.version
  next := second.next.trans first.next
  handler := by
    rw [second.handler, first.handler]

theorem received_pulling {messages : List (List UInt8)} (received : a.Received messages b)
    (hq : b.pulling = some q) :
    a.pulling = some q ∧ b.outbox = a.outbox ∧ b.session.result = a.session.result := by
  induction received with
  | nothing => exact ⟨hq, rfl, rfl⟩
  | message first _ ih =>
    obtain ⟨pulling, outbox, result⟩ := ih hq
    cases first with
    | plain => exact ⟨pulling, outbox, result⟩
    | reset _ _ interrupted =>
      obtain ⟨outbox, metrics, rfl⟩ := interrupted_parts interrupted
      cases pulling

theorem fill_ready (r : ResultStream π) (engine : QueryEngine σ π) (now : Instant)
    (signal : CancelSignal) (count : Nat) :
    (r.fill engine now signal count).ready =
      r.ready ++ (r.fill engine now signal count).ready.drop r.ready.length := by
  unfold ResultStream.fill
  split <;> simp

theorem carried_still (accepted : b.outbox.accepted = a.outbox.accepted)
    (version : b.outbox.version = a.outbox.version) : Carried a p [] b p := by
  refine ⟨?_, version, rfl, rfl⟩
  rw [accepted]
  exact (carried_refl a p).sent

theorem record_queued {out out' : Outbox} {h handler : Handler} {fields : List Value}
    {delivery : Delivery} (recorded : h.record out fields = (handler, .ok (delivery, out'))) :
    out'.version = out.version := by
  rcases record_outbox recorded with rfl | room
  · rfl
  · exact (queue_accepted room).2

/-- An event after which the pull goes on is a record, and it is sent if the pull sends records. -/
theorem handled_carried {event : Option StreamEvent} {goesOn : Bool} (pulls : p.handler.Pulls)
    (handled : a.Handled p event goesOn b) (hq : b.pulling = some q) :
    ∃ fields, event = some (.record fields) ∧ Carried a p [fields] b q ∧
      b.session.result = a.session.result := by
  cases handled with
  | @record fields handler delivery outbox recorded =>
    obtain ⟨rfl, sent⟩ := record_sent pulls recorded
    cases hq
    refine ⟨fields, rfl, ⟨?_, record_queued recorded, rfl, rfl⟩, rfl⟩
    unfold Pulling.shown
    rcases sent with ⟨stream, accepted⟩ | ⟨discard, rfl⟩
    · simp [stream, accepted]
    · simp [discard]
  | unsendable _ answered | done answered | failed answered | closed answered =>
    obtain ⟨outbox, metrics, rfl⟩ := answered_parts answered
    cases hq

theorem carried_batched {records : List (List Value)} {left : Nat} {goesOn : Bool}
    (carried : Carried a p records b q) : Carried a p records (b.batched left goesOn) q where
  sent := by
    rw [batched_accepted]
    exact carried.sent
  version := (batched_version b left goesOn).trans carried.version
  next := carried.next
  handler := carried.handler

/-- A move of the run of a pull: what is handled are records, and what is taken leaves the front
of what is at hand. -/
structure Carries (ctx : Context σ π) (a : Actor σ π) (p : Pulling) (move : Move σ)
    (b : Actor σ π) (q : Pulling) (records : List (List Value)) : Prop where
  handled : a.handles move = records.map .record
  carried : Carried a p records b q
  queue : a.ready ++ a.sends ctx move = a.takes move ++ b.ready

theorem ready_empty (none_ready : ∀ r, a.session.result = some r → r.ready = []) :
    a.ready = [] := by
  unfold Actor.ready
  cases held : a.session.result with
  | none => rfl
  | some r => exact none_ready r held

theorem taken_carries {r : ResultStream π} {event : StreamEvent} {ready : List StreamEvent}
    {goesOn : Bool} {left : Nat} (pulls : p.handler.Pulls) (room : a.batch ≠ some 0)
    (held : a.session.result = some r) (waits : r.ready = event :: ready)
    (handled : (a.took { r with ready }).Handled p (some event) goesOn c)
    (hq : c.pulling = some q) :
    ∃ records, Carries ctx a p (.here .pumped) (c.batched left goesOn) q records := by
  obtain ⟨fields, known, carried, kept⟩ := handled_carried pulls handled hq
  cases known
  have left : (c.batched left goesOn).ready = ready := by
    change (c.session.result.map ResultStream.ready).getD [] = ready
    rw [kept]
    rfl
  have front : a.ready = .record fields :: ready := by simp [Actor.ready, held, waits]
  refine ⟨[fields], ?_, carried_batched ⟨carried.sent, carried.version, carried.next,
    carried.handler⟩, ?_⟩
  · simp [handles, takes, room, front]
  · simp [takes, sends, front, left]

theorem pumped_carries (ctx : Context σ π) (sound : a.IsSound) (hp : a.pulling = some p)
    (pumped : a.Pumped p b) (hq : b.pulling = some q) :
    ∃ records, Carries ctx a p (.here .pumped) b q records := by
  have pulls := sound.pulls p hp
  cases pumped with
  | first batch held waits handled =>
    exact taken_carries pulls (by simp [batch]) held waits handled hq
  | further batch held waits handled =>
    exact taken_carries pulls (by simp [batch]) held waits handled hq
  | lost batch held waits =>
    cases hp.symm.trans hq
    refine ⟨[], ?_, carried_still rfl rfl, ?_⟩
    · simp [handles, batch]
    · simp [takes, sends, Actor.ready, took, rested, held, waits]
  | dry batch none_ready =>
    cases hp.symm.trans hq
    have empty := ready_empty none_ready
    have still : a.rested.ready = [] := empty
    refine ⟨[], ?_, carried_still rfl rfl, ?_⟩
    · simp [handles, takes, empty]
    · simp [takes, sends, empty, still]
  | ended batch none_ready handled =>
    obtain ⟨fields, known, -⟩ := handled_carried pulls handled hq
    cases known

theorem move_carries (sound : a.IsSound) (hp : a.pulling = some p)
    (moved : a.move? ctx move = some b) (hq : b.pulling = some q) :
    ∃ records, Carries ctx a p move b q records := by
  obtain ⟨o, d, rfl, occurred, rfl⟩ | ⟨_, _, _, rfl, rfl⟩ := move_outcome moved
  · cases occurred with
    | received _ received =>
      obtain ⟨pulling, outbox, result⟩ := received_pulling received hq
      cases hp.symm.trans pulling
      refine ⟨[], by simp [handles, takes], carried_still ?_ ?_, ?_⟩
      · rw [poised_accepted, outbox]
        rfl
      · rw [poised_version, outbox]
        rfl
      · change a.ready ++ [] = [] ++ (d.session.result.map ResultStream.ready).getD []
        rw [result]
        simp [Actor.ready, fed]
    | turn turns => simp [Connection.hasTurn, hp] at turns
    | @produced count r held =>
      cases hp.symm.trans hq
      refine ⟨[], by simp [handles, takes],
        carried_still (poised_accepted _) (poised_version _), ?_⟩
      have grown := fill_ready r ctx.engine a.now a.session.cancel count
      change a.ready ++ _ = [] ++ (r.fill ctx.engine a.now a.session.cancel count).ready
      simp only [sends, held, Actor.ready, List.nil_append]
      exact grown.symm
    | pumped _ hp' pumped =>
      cases hp.symm.trans hp'
      obtain ⟨records, carries⟩ := pumped_carries ctx sound hp pumped hq
      refine ⟨records, carries.handled, ⟨?_, ?_, carries.carried.next, carries.carried.handler⟩,
        carries.queue⟩
      · rw [poised_accepted]
        exact carries.carried.sent
      · rw [poised_version]
        exact carries.carried.version
    | cleaned waits => cases (pulling_calm sound hp).2.symm.trans waits
  · cases hp.symm.trans hq
    refine ⟨[], by simp [handles, takes], carried_still rfl rfl, ?_⟩
    change a.ready ++ [] = [] ++ a.ready
    simp

theorem underway_run {moves : List (Move σ)} (underway : Underway ctx a moves c) :
    a.run? ctx moves = some c ∧ c.pulling.isSome = true := by
  induction underway with
  | still pulls => exact ⟨rfl, pulls⟩
  | move _ moved _ ih => exact ⟨by simp only [run?, moved, Option.bind_some, ih.1], ih.2⟩

/-- The run of a pull that goes on: what was handled are records, they have been sent, and every
event that was at hand or came in has been taken or is at hand. -/
theorem underway_carries {moves : List (Move σ)} (underway : Underway ctx a moves c)
    (reachable : Reachable ctx a) (hp : a.pulling = some p) :
    ∃ records q, c.pulling = some q ∧ Carried a p records c q ∧
      gather ctx handles a moves = records.map .record ∧
      a.ready ++ gather ctx (sends ctx) a moves = gather ctx takes a moves ++ c.ready := by
  induction underway generalizing p with
  | still => exact ⟨[], p, hp, carried_refl _ p, rfl, by simp [gather]⟩
  | @move a b c move moves _ moved rest ih =>
    obtain ⟨q, hq⟩ : ∃ q, b.pulling = some q := by
      cases rest with
      | still pulls | move pulls => exact Option.isSome_iff_exists.mp pulls
    obtain ⟨early, carries⟩ := move_carries (reachable_sound reachable) hp moved hq
    obtain ⟨late, s, hs, carried, handled, queue⟩ := ih (reachable.move moved) hq
    refine ⟨early ++ late, s, hs, carried_trans carries.carried carried, ?_, ?_⟩
    · rw [gather_cons handles moved, carries.handled, handled, List.map_append]
    · rw [gather_cons (sends ctx) moved, gather_cons takes moved, ← List.append_assoc,
        carries.queue, List.append_assoc, queue, List.append_assoc]

theorem record_sendable {h : Handler} {out : Outbox} {fields : List Value}
    (sendable : (Response.record fields).Sendable out.version) :
    ∃ handler delivery out', h.record out fields = (handler, .ok (delivery, out')) := by
  obtain ⟨out', room⟩ := queue_sendable sendable
  obtain ⟨kind, reply, started, records, done⟩ := h
  cases done <;> cases reply <;> simp [Handler.record, room, Except.map]

theorem handled_finish {event : Option StreamEvent} {goesOn : Bool} (pulls : p.handler.Pulls)
    (handled : a.Handled p event goesOn b) (ends : b.pulling = none)
    (sendable : ∀ fields, event = some (.record fields) →
      (Response.record fields).Sendable a.outbox.version) :
    (∀ e, event = some e → e.isRecord = false) ∧
      b.outbox.accepted = a.ending p event :: a.outbox.accepted := by
  cases handled with
  | record => cases ends
  | @unsendable fields _ _ _ recorded =>
    obtain ⟨handler, delivery, out', sent⟩ := record_sendable (h := p.handler) (sendable fields rfl)
    cases recorded.symm.trans sent
  | done answered | failed answered =>
    obtain ⟨outbox, metrics, rfl, accepted⟩ :=
      answered_sent pulls.unanswered (pulls_loud pulls) answered
    exact ⟨by rintro e ⟨⟩; rfl, accepted⟩
  | closed answered =>
    obtain ⟨outbox, metrics, rfl, accepted⟩ :=
      answered_sent pulls.unanswered (pulls_loud pulls) answered
    exact ⟨by rintro e ⟨⟩, accepted⟩

/-- The move that ends a pull: it handles an event that is no record, or finds that no event can
follow, and the terminal response says so. -/
structure Finishes (a : Actor σ π) (p : Pulling) (last : Option StreamEvent) (b : Actor σ π) :
    Prop where
  terminal : ∀ event, last = some event → event.isRecord = false
  handled : a.handles (.here .pumped : Move σ) = last.toList
  taken : a.takes (.here .pumped : Move σ) = last.toList
  accepted : b.outbox.accepted = a.ending p last :: a.outbox.accepted

theorem taken_finishes {r : ResultStream π} {event : StreamEvent} {ready : List StreamEvent}
    {goesOn : Bool} {left : Nat} (pulls : p.handler.Pulls) (room : a.batch ≠ some 0)
    (held : a.session.result = some r) (waits : r.ready = event :: ready)
    (handled : (a.took { r with ready }).Handled p (some event) goesOn c) (ends : c.pulling = none)
    (sendable : ∀ fields, .record fields ∈ a.ready →
      (Response.record fields).Sendable a.outbox.version) :
    a.Finishes p (some event) (c.batched left goesOn) := by
  have front : a.ready = event :: ready := by simp [Actor.ready, held, waits]
  obtain ⟨terminal, accepted⟩ := handled_finish pulls handled ends fun fields known => by
    cases known
    exact sendable fields (by rw [front]; exact List.mem_cons_self)
  refine ⟨terminal, ?_, ?_, (batched_accepted c left goesOn).trans accepted⟩
  · simp [handles, takes, room, front]
  · simp [takes, front]

theorem pumped_finishes (sound : a.IsSound) (hp : a.pulling = some p) (pumped : a.Pumped p b)
    (ends : b.pulling = none)
    (sendable : ∀ fields, .record fields ∈ a.ready →
      (Response.record fields).Sendable a.outbox.version) :
    ∃ last, a.Finishes p last b := by
  have pulls := sound.pulls p hp
  cases pumped with
  | first batch held waits handled | further batch held waits handled =>
    exact ⟨_, taken_finishes pulls (by simp [batch]) held waits handled ends sendable⟩
  | lost => cases hp.symm.trans ends
  | dry => cases hp.symm.trans ends
  | ended batch none_ready handled =>
    obtain ⟨terminal, accepted⟩ := handled_finish pulls handled ends (by rintro fields ⟨⟩)
    have empty := ready_empty none_ready
    refine ⟨none, terminal, ?_, ?_, (batched_accepted _ _ _).trans accepted⟩
    · simp [handles, takes, empty]
    · simp [takes, empty]

theorem move_finishes (sound : a.IsSound) (hp : a.pulling = some p)
    (moved : a.move? ctx (.here .pumped) = some b) (ends : b.pulling = none)
    (sendable : ∀ fields, .record fields ∈ a.ready →
      (Response.record fields).Sendable a.outbox.version) :
    ∃ last, a.Finishes p last b := by
  obtain ⟨o, d, known, occurred, rfl⟩ | ⟨_, _, _, ⟨⟩, -⟩ := move_outcome moved
  cases known
  cases occurred with
  | pumped _ hp' pumped =>
    cases hp.symm.trans hp'
    obtain ⟨last, finishes⟩ := pumped_finishes sound hp pumped ends sendable
    exact ⟨last, finishes.terminal, finishes.handled, finishes.taken,
      (poised_accepted d).trans finishes.accepted⟩

theorem ending_carried {records : List (List Value)} (carried : Carried a p records b q)
    (last : Option StreamEvent) : b.ending q last = b.ending p last := by
  have handler := carried.handler
  cases last with
  | none => rfl
  | some event =>
    cases event with
    | record | failed => rfl
    | done metadata =>
      unfold ending
      rw [handler]
      rfl

theorem underway_append {early late : List (Move σ)} (first : Underway ctx a early b)
    (second : Underway ctx b late c) : Underway ctx a (early ++ late) c := by
  induction first with
  | still => exact second
  | move pulls moved _ ih => exact .move pulls moved (ih second)

theorem underway_split {early late : List (Move σ)} {d : Actor σ π}
    (underway : Underway ctx a (early ++ late) c) (run : a.run? ctx early = some d) :
    Underway ctx a early d ∧ Underway ctx d late c := by
  induction early generalizing a with
  | nil =>
    cases run
    refine ⟨.still ?_, underway⟩
    cases underway with
    | still pulls | move pulls => exact pulls
  | cons move early ih =>
    cases underway with
    | move pulls moved rest =>
      simp only [run?, moved, Option.bind_some] at run
      obtain ⟨first, second⟩ := ih rest run
      exact ⟨.move pulls moved first, second⟩

theorem event_handled {event : StreamEvent} (pulls : p.handler.Pulls) (hp : a.pulling = some p)
    (record : ∀ fields, event = .record fields → (Response.record fields).Sendable a.outbox.version)
    (terminal : event.isRecord = false → (a.ending p (some event)).Sendable a.outbox.version) :
    ∃ goesOn c, Act.handleEvent (some event) a = .ok goesOn c := by
  cases event with
  | record fields =>
    obtain ⟨handler, delivery, outbox, recorded⟩ :=
      record_sendable (h := p.handler) (record fields rfl)
    exact ⟨_, _, Act.handleEvent_record hp recorded⟩
  | done metadata =>
    obtain ⟨outbox, room⟩ := queue_sendable (terminal rfl)
    exact ⟨_, Act.handleEvent_done hp pulls.unanswered (pulls_loud pulls) room⟩
  | failed f =>
    obtain ⟨outbox, room⟩ := queue_sendable (terminal rfl)
    exact ⟨_, Act.handleEvent_failed hp pulls.unanswered (pulls_loud pulls) room⟩

theorem pull_goes_on {event : StreamEvent} {rest : List StreamEvent} (sound : a.IsSound)
    (hp : a.pulling = some p) (front : a.ready = event :: rest)
    (record : ∀ fields, event = .record fields → (Response.record fields).Sendable a.outbox.version)
    (terminal : event.isRecord = false → (a.ending p (some event)).Sendable a.outbox.version) :
    ∃ b, a.move? ctx (.here .pumped) = some b := by
  obtain ⟨r, held, waits⟩ : ∃ r, a.session.result = some r ∧ r.ready = event :: rest := by
    unfold Actor.ready at front
    cases held : a.session.result with
    | none => simp [held] at front
    | some r => exact ⟨r, rfl, by simpa [held] using front⟩
  have can : a.allows ctx .pumped = true := by
    simp [allows, Connection.canPump, (pulling_calm sound hp).2, hp, held, waits]
  have pumped : ∃ b, Act.pump a = .ok () b := by
    by_cases full : a.batch = some 0
    · exact ⟨_, Act.pump_loses full held waits⟩
    · obtain ⟨goesOn, c, handled⟩ := event_handled (a := a.took { r with ready := rest })
        (sound.pulls p hp) hp record fun ends => by
          have same : (a.took { r with ready := rest }).ending p (some event) =
              a.ending p (some event) := by cases event <;> rfl
          exact same ▸ terminal ends
      exact ⟨_, Act.pump_handles full held waits handled⟩
  obtain ⟨b, pumped⟩ := pumped
  exact ⟨_, move_here can (bind_of_ok pumped)⟩

/-- The run of a pull goes on as long as an event is at hand and can be answered. -/
theorem underway_goes_on {moves : List (Move σ)} {event : StreamEvent} {rest : List StreamEvent}
    (underway : Underway ctx a moves c) (reachable : Reachable ctx a) (hp : a.pulling = some p)
    (sendable : ∀ fields, .record fields ∈ a.ready ++ gather ctx (sends ctx) a moves →
      (Response.record fields).Sendable a.outbox.version)
    (front : c.ready = event :: rest)
    (terminal : event.isRecord = false → (c.ending p (some event)).Sendable a.outbox.version) :
    ∃ b, c.move? ctx (.here .pumped) = some b := by
  obtain ⟨run, -⟩ := underway_run underway
  obtain ⟨records, q, hq, carried, -, queue⟩ := underway_carries underway reachable hp
  refine pull_goes_on (reachable_sound (run_reachable reachable run)) hq front ?_ ?_
  · rintro fields rfl
    rw [carried.version]
    exact sendable fields (by rw [queue, front]; simp)
  · intro stops
    rw [carried.version, ending_carried carried]
    exact terminal stops

theorem terminal_ends {event : StreamEvent} {rest : List StreamEvent} (sound : a.IsSound)
    (hp : a.pulling = some p) (front : a.ready = event :: rest) (stops : event.isRecord = false)
    (room : a.batch ≠ some 0) (moved : a.move? ctx (.here .pumped) = some b) :
    b.pulling = none := by
  cases hq : b.pulling with
  | none => rfl
  | some q =>
    obtain ⟨records, carries⟩ := move_carries sound hp moved hq
    have handled : [event] = records.map .record := by
      rw [← carries.handled]
      simp [handles, takes, room, front]
    obtain ⟨fields, -, rfl⟩ := List.mem_map.mp (handled ▸ List.mem_cons_self)
    cases stops

end Actor

end GraphProtocol
