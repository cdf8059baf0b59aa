import GraphProtocol.Proofs.Connection.Sharing
import GraphProtocol.Proofs.Message.Records
import GraphProtocol.Proofs.Message.Successors
import GraphProtocol.Proofs.Query.Values

/-!
# Records that a connection sends

The parameters of a decoded statement are regular. If the engine makes regular records of regular
parameters, then every record that is queued is regular, and a client can read it back unless one of
its fields takes up all the levels that values may nest.
-/

set_option autoImplicit false

namespace GraphProtocol

variable {σ π : Type}

/-! ## Regular engines -/

/-- An engine that makes regular records of regular parameters, by producers that are told apart. -/
structure QueryEngine.GivesRegular (engine : QueryEngine σ π) (fine : π → Prop) : Prop where
  execute : ∀ {now : Instant} {query : Query} {tx : Option TxId} {cancelled : Bool} {s later : σ}
    {columns : List String} {producer : π},
    engine.execute now query tx cancelled s = (.ok (columns, producer), later) →
    (Value.map query.parameters).IsRegular → fine producer
  produce : ∀ {now : Instant} {cancelled : Bool} {producer rest : π} {event : StreamEvent},
    engine.produce now cancelled producer = .event event rest → fine producer →
    fine rest ∧ event.IsRegular

theorem Literal.engine_regular : Literal.engine.GivesRegular Literal.Production.IsRegular where
  execute := by
    intro now query tx cancelled s later columns production given regular
    have given : told (Abort.map QueryFault.failure) (s.execute now query tx) =
        (.ok (columns, production), later) := given
    cases found : s.execute now query tx with | mk outcome left =>
    rw [found] at given
    cases outcome with
    | error fault => cases given
    | ok answer =>
      cases given
      exact Store.execute_regular regular found
  produce := fun given regular => Production.next_regular regular given

structure ResultStream.IsRegular (fine : π → Prop) (r : ResultStream π) : Prop where
  ready : ∀ event ∈ r.ready, event.IsRegular
  producer : ∀ producer, r.producer = some producer → fine producer

section Events

variable {engine : QueryEngine σ π} {fine : π → Prop} {good : StreamEvent → Prop}
  (gives : ∀ {now : Instant} {cancelled : Bool} {producer rest : π} {event : StreamEvent},
    engine.produce now cancelled producer = .event event rest → fine producer →
    fine rest ∧ good event)
include gives

theorem produceOnto_all {now : Instant} {cancelled : Bool} {room : Nat} {producer : π}
    {events after : List StreamEvent} {rest : Option π} (is : fine producer)
    (before : ∀ event ∈ events, good event)
    (given : ResultStream.produceOnto engine now cancelled room producer events = (after, rest)) :
    (∀ event ∈ after, good event) ∧ ∀ producer, rest = some producer → fine producer := by
  induction room generalizing producer events with
  | zero =>
    cases given
    refine ⟨before, ?_⟩
    rintro _ ⟨⟩
    exact is
  | succ room ih =>
    unfold ResultStream.produceOnto at given
    split at given
    · next produced =>
      obtain ⟨is, event⟩ := gives produced is
      exact ih is (List.forall_mem_cons.mpr ⟨event, before⟩) given
    · cases given
      exact ⟨before, by rintro _ ⟨⟩⟩
    · cases given
      refine ⟨before, ?_⟩
      rintro _ ⟨⟩
      exact is

/-- What holds of every event that fine producers give holds of the events at hand. -/
theorem fill_all {now : Instant} {signal : CancelSignal} {count : Nat} {r : ResultStream π}
    (ready : ∀ event ∈ r.ready, good event) (kept : ∀ producer, r.producer = some producer →
      fine producer) : (∀ event ∈ (r.fill engine now signal count).ready, good event) ∧
    ∀ producer, (r.fill engine now signal count).producer = some producer → fine producer := by
  unfold ResultStream.fill
  split
  · exact ⟨ready, kept⟩
  · next producer held =>
    dsimp only
    cases given : ResultStream.produceOnto engine now (signal.isCancelled r.token)
        (min count (engine.capacity - r.ready.length)) producer [] with | mk events rest =>
    obtain ⟨further, left⟩ := produceOnto_all gives (kept producer held)
      (List.forall_mem_nil _) given
    refine ⟨?_, left⟩
    intro event among
    rcases List.mem_append.mp among with old | new
    · exact ready event old
    · exact further event (List.mem_reverse.mp new)

end Events

theorem fill_regular {engine : QueryEngine σ π} {fine : π → Prop} (gives : engine.GivesRegular fine)
    {now : Instant} {signal : CancelSignal} {count : Nat} {r : ResultStream π}
    (regular : r.IsRegular fine) : (r.fill engine now signal count).IsRegular fine := by
  have filled : (∀ event ∈ (r.fill engine now signal count).ready, event.IsRegular) ∧ _ :=
    fill_all gives.produce regular.ready regular.producer
  exact ⟨filled.1, filled.2⟩

/-! ## Connections -/

def Inbound.IsRegular : Inbound → Prop
  | .request (.run _ parameters _) _ => (Value.map parameters).IsRegular
  | _ => True

theorem read_regular {version : Version} {now : Instant} {message : List UInt8} {m : Inbound}
    (read : Inbound.read? version now message = some m) : m.IsRegular := by
  unfold Inbound.read? at read
  split at read
  next r reply decoded =>
    split at read <;> cases read
    cases r with
    | run => exact (Request.decode_parameters decoded).regular
    | _ => trivial
  · cases read; trivial
  · cases read; trivial
  · cases read

def Outbox.RecordsRegular (o : Outbox) : Prop :=
  ∀ fields, .record fields ∈ o.accepted →
    (∀ v ∈ fields, v.IsRegular) ∧ (Response.record fields).Sendable o.version

/-- What holds of a connection with a regular engine. -/
structure Tame (fine : π → Prop) (version : Version) (inbox : List Inbound)
    (result : Option (ResultStream π)) (outbox : Outbox) : Prop where
  inbox : ∀ m ∈ inbox, m.IsRegular
  result : ∀ r, result = some r → r.IsRegular fine
  version : outbox.version = version
  records : outbox.RecordsRegular

theorem queue_records {o out : Outbox} {r : Response} (before : o.RecordsRegular)
    (regular : ∀ fields, r = .record fields → ∀ v ∈ fields, v.IsRegular)
    (room : o.queue r = .ok out) : out.RecordsRegular := by
  obtain ⟨accepted, version⟩ := queue_accepted room
  intro fields among
  rw [accepted] at among
  rw [version]
  rcases List.mem_cons.mp among with rfl | old
  · refine ⟨regular fields rfl, ?_⟩
    unfold Outbox.queue at room
    split at room
    · next message encoded => exact ⟨message, encoded⟩
    · cases room
  · exact before fields old

namespace Actor

abbrev IsTame (fine : π → Prop) (a : Actor σ π) : Prop :=
  Tame fine a.session.version a.inbox a.session.result a.outbox

variable {ctx : Context σ π} {fine : π → Prop} {a b : Actor σ π}

theorem answered_tame {h : Handler} {r : Response} (answered : a.Answered h r b)
    (tame : a.IsTame fine) (plain : r.kind ≠ .record) : b.IsTame fine := by
  cases answered with
  | dropped => exact tame
  | sent room =>
    refine ⟨tame.inbox, tame.result, (queue_accepted room).2.trans tame.version, ?_⟩
    refine queue_records tame.records ?_ room
    rintro fields rfl
    exact absurd rfl plain

theorem handled_tame {p : Pulling} {event : Option StreamEvent} {goesOn : Bool}
    (tame : a.IsTame fine) (regular : ∀ e, event = some e → e.IsRegular)
    (handled : a.Handled p event goesOn b) : b.IsTame fine := by
  have emptied : Tame fine a.session.version a.inbox (none : Option (ResultStream π)) a.outbox :=
    ⟨tame.inbox, by rintro _ ⟨⟩, tame.version, tame.records⟩
  cases handled with
  | @record fields handler delivery outbox recorded =>
    rcases record_outbox recorded with rfl | room
    · exact tame
    · refine ⟨tame.inbox, tame.result, (queue_accepted room).2.trans tame.version, ?_⟩
      refine queue_records tame.records ?_ room
      rintro _ ⟨⟩
      exact regular _ rfl fields rfl
  | unsendable _ answered => exact answered_tame answered tame (by rintro ⟨⟩)
  | done answered | failed answered | closed answered =>
    exact answered_tame answered emptied (by rintro ⟨⟩)

theorem flushed_tame {version : Version} {inbox : List Inbound} {result : Option (ResultStream π)}
    {outbox outbox' : Outbox} (tame : Tame fine version inbox result outbox)
    (accepted : outbox'.accepted = outbox.accepted) (same : outbox'.version = outbox.version) :
    Tame fine version inbox result outbox' := by
  refine ⟨tame.inbox, tame.result, same.trans tame.version, ?_⟩
  intro fields among
  rw [accepted] at among
  rw [same]
  exact tame.records fields among

theorem taken_tame {r : ResultStream π} {event : StreamEvent} {ready : List StreamEvent}
    (tame : a.IsTame fine) (held : a.session.result = some r) (waits : r.ready = event :: ready) :
    (a.took { r with ready }).IsTame fine ∧ event.IsRegular := by
  have regular := tame.result r held
  obtain ⟨first, rest⟩ := List.forall_mem_cons.mp (waits ▸ regular.ready)
  refine ⟨⟨tame.inbox, ?_, tame.version, tame.records⟩, first⟩
  rintro _ ⟨⟩
  exact ⟨rest, regular.producer⟩

theorem pumped_tame {p : Pulling} (tame : a.IsTame fine) (pumped : a.Pumped p b) :
    b.IsTame fine := by
  cases pumped with
  | first _ held waits handled | further _ held waits handled =>
    obtain ⟨taken, event⟩ := taken_tame tame held waits
    have after := handled_tame taken (by rintro _ ⟨⟩; exact event) handled
    exact flushed_tame after (batched_accepted ..) (batched_version ..)
  | lost _ held waits => exact flushed_tame (taken_tame tame held waits).1 rfl rfl
  | dry => exact flushed_tame tame rfl rfl
  | ended _ _ handled =>
    have after := handled_tame tame (by rintro _ ⟨⟩) handled
    exact flushed_tame after (batched_accepted ..) (batched_version ..)

theorem interrupt_version (s : Session π) : s.interrupt.version = s.version := by
  unfold Session.interrupt
  dsimp only
  split <;> rfl

theorem interrupt_result (s : Session π) : s.interrupt.result = s.result := by
  unfold Session.interrupt
  dsimp only
  split <;> rfl

theorem interrupted_tame (tame : a.IsTame fine) (interrupted : a.Interrupted b) :
    b.IsTame fine := by
  have disturbed : a.disturbed.halted.IsTame fine := by
    change Tame fine a.session.interrupt.version a.inbox a.session.interrupt.result a.outbox
    rw [interrupt_version, interrupt_result]
    exact tame
  cases interrupted with
  | calm => exact disturbed
  | cut _ answered => exact answered_tame answered disturbed (by rintro ⟨⟩)

theorem enqueued_tame {m : Inbound} (tame : a.IsTame fine) (regular : m.IsRegular) :
    (a.enqueued m).IsTame fine := by
  refine ⟨?_, tame.result, tame.version, tame.records⟩
  intro m' among
  rcases List.mem_append.mp among with old | new
  · exact tame.inbox m' old
  · exact List.mem_singleton.mp new ▸ regular

theorem received_tame {messages : List (List UInt8)} (received : a.Received messages b)
    (tame : a.IsTame fine) : b.IsTame fine := by
  induction received with
  | nothing => exact tame
  | message admitted _ ih =>
    apply ih
    cases admitted with
    | @plain m read => exact enqueued_tame (m := m) tame (read_regular read)
    | @reset m c read _ interrupted =>
      have counted : (Actor.counted _ m).IsTame fine := tame
      exact enqueued_tame (interrupted_tame counted interrupted) (read_regular read)

section Engine

variable (gives : ctx.engine.GivesRegular fine)
include gives

theorem performed_tame {h : Handler} {action : Action} {next : ConnectionState} {request : Request}
    (tame : a.IsTame fine) (regular : (Inbound.request request h).IsRegular)
    (performed : a.Performed ctx h next action request b) : b.IsTame fine := by
  cases performed with
  | @ran _ parameters _ columns producer engine _ called answered =>
    have started : (a.started next columns producer engine).IsTame fine := by
      refine ⟨tame.inbox, ?_, tame.version, tame.records⟩
      rintro _ ⟨⟩
      refine ⟨List.forall_mem_nil _, ?_⟩
      rintro _ ⟨⟩
      exact gives.execute called regular
    exact answered_tame answered started (by rintro ⟨⟩)
  | pulled => exact tame
  | opened _ answered | runFailed _ answered | nothingHeld _ _ answered | begun _ answered
  | beginFailed _ answered | noTx _ _ answered | committed _ _ answered
  | commitFailed _ _ answered | rolledBack _ _ answered | rollbackFailed _ _ answered =>
    exact answered_tame answered tame (by rintro ⟨⟩)

theorem dealt_tame {m : Inbound} (tame : a.IsTame fine) (regular : m.IsRegular)
    (dealt : a.Dealt ctx m b) : b.IsTame fine := by
  cases dealt with
  | unknown _ room =>
    refine ⟨tame.inbox, tame.result, (queue_accepted room).2.trans tame.version, ?_⟩
    exact queue_records tame.records (by rintro _ ⟨⟩) room
  | invalidPassed _ answered | passed _ _ answered | ignored _ _ answered
  | invalidRefused _ _ _ _ answered | resetPassed _ _ answered | resetDone _ _ _ answered =>
    exact answered_tame answered tame (by rintro ⟨⟩)
  | performed _ _ performed => exact performed_tame gives tame regular performed
  | resetWaits => exact ⟨tame.inbox, by rintro _ ⟨⟩, tame.version, tame.records⟩

theorem occurred_tame {o : Occurrence} (tame : a.IsTame fine) (occurred : a.Occurred ctx o b) :
    b.IsTame fine := by
  cases occurred with
  | @received bytes _ _ received =>
    have fed : (a.fed bytes).IsTame fine := tame
    exact received_tame received fed
  | @turn m rest _ _ full dealt =>
    obtain ⟨first, further⟩ := List.forall_mem_cons.mp (full ▸ tame.inbox)
    have popped : Tame fine a.session.version rest a.session.result a.outbox :=
      ⟨further, tame.result, tame.version, tame.records⟩
    exact dealt_tame gives (a := { a with inbox := rest }) popped first dealt
  | produced held =>
    refine ⟨tame.inbox, ?_, tame.version, tame.records⟩
    rintro _ ⟨⟩
    exact fill_regular gives (tame.result _ held)
  | pumped _ _ pumped => exact pumped_tame tame pumped
  | cleaned _ answered => exact answered_tame answered tame (by rintro ⟨⟩)

/-- Every open connection with a regular engine is tame. -/
theorem reachable_tame (reachable : Reachable ctx a) : a.IsTame fine := by
  induction reachable with
  | fresh =>
    exact ⟨List.forall_mem_nil _, by rintro _ ⟨⟩, rfl, fun _ among => nomatch among⟩
  | move _ moved ih =>
    obtain ⟨o, c, -, occurred, rfl⟩ | ⟨_, _, _, -, rfl⟩ := move_outcome moved
    · have after : c.IsTame fine := occurred_tame gives ih occurred
      exact flushed_tame after (poised_accepted c) (poised_version c)
    · exact ih

end Engine

/-! ## Reading records back -/

/-- Every record that a connection with the literal engine sends is read back by the client, and
exactly its bytes, if and only if none of its fields nests thirty-two levels deep. -/
theorem records_return_iff {ctx : Context Literal.Store Literal.Production}
    {a : Actor Literal.Store Literal.Production} {fields : List Value}
    (literal : ctx.engine = Literal.engine) (reachable : Reachable ctx a)
    (sent : .record fields ∈ a.outbox.accepted) :
    ∃ message, (Response.record fields).encode a.session.version = .ok message ∧
      ((∃ cursor, Response.read a.session.version (.start message) =
        .ok (.record fields) cursor ∧ cursor.rest = []) ↔ ∀ v ∈ fields, v.nesting ≤ 31) := by
  have tame := reachable_tame (literal ▸ Literal.engine_regular) reachable
  obtain ⟨regular, message, encoded⟩ := tame.records fields sent
  rw [tame.version] at encoded
  refine ⟨message, encoded, (Response.record_returns_iff regular encoded).trans ?_⟩
  exact forall₂_congr fun v _ => Nat.lt_succ_iff

end Actor

/-! ## A sample -/

namespace Actor

variable {ctx : Context σ π} {a b : Actor σ π}

/-- A record that is at hand is sent. -/
theorem pumped_sends (ctx : Context σ π) {p : Pulling} {q : ResultStream π} {fields : List Value}
    {ready : List StreamEvent} (clean : a.cleanup = none) (hp : a.pulling = some p)
    (open_ : a.batch ≠ some 0) (unanswered : p.handler.done = false)
    (streams : p.handler.reply = .stream) (held : a.session.result = some q)
    (waits : q.ready = .record fields :: ready)
    (sendable : (Response.record fields).Sendable a.outbox.version) :
    ∃ outbox batch, outbox.version = a.outbox.version ∧
      outbox.accepted = .record fields :: a.outbox.accepted ∧
      (batch = none ∨ batch = some (Act.room a.batch - 1)) ∧
      a.move? ctx (.here .pumped) = some { a.took { q with ready } with
        outbox, batch, pulling := some { p with handler := p.handler.further } } := by
  obtain ⟨outbox, room⟩ := queue_sendable sendable
  obtain ⟨accepted, version⟩ := queue_accepted room
  have recorded : p.handler.record a.outbox fields =
      (p.handler.further, .ok (.sent .record, outbox)) := by
    simp [Handler.record, Handler.further, unanswered, streams, room, Except.map]
  refine ⟨_, _, (poised_version _).trans ((batched_version ..).trans version),
    (poised_accepted _).trans ((batched_accepted ..).trans accepted), ?_,
    pumped_record clean hp open_ held waits recorded⟩
  change (if _ then none else some _) = none ∨ (if _ then none else some _) = _
  split
  · exact .inl rfl
  · exact .inr rfl

end Actor

namespace Literal

def nested : Nat → Value
  | 0 => .null
  | levels + 1 => .list [nested levels]

theorem nesting_nested (levels : Nat) : (nested levels).nesting = levels := by
  induction levels with
  | zero => rw [nested, Value.nesting]
  | succ levels ih => rw [nested, Value.nesting]; simp [around, ih]

theorem nested_sendable (levels : Nat) (version : Version) :
    (nested levels).IsSendable version := by
  induction levels with
  | zero => exact ⟨by cbv, by cbv, by rw [nested, Value.requiresExtended]; rintro ⟨⟩⟩
  | succ levels ih =>
    refine Value.sendable_iff.mpr ⟨?_, rfl, by rintro ⟨⟩, ?_⟩
    · exact List.forall_mem_cons.mpr ⟨show 1 < UInt32.size by decide, List.forall_mem_nil _⟩
    · exact List.forall_mem_cons.mpr ⟨ih, List.forall_mem_nil _⟩

theorem record_sendable (levels : Nat) (version : Version) :
    (Response.record [nested levels]).Sendable version := by
  have clear : ((Value.list [nested levels]).write version).abort = none :=
    Value.write_clear.mpr (nested_sendable (levels + 1) version)
  refine ⟨((Response.record [nested levels]).write version).bytes, ?_⟩
  unfold Response.encode Wire.Written.result
  rw [Response.record_write, Wire.Written.append_abort.mpr ⟨rfl, clear⟩]

def sampleQuery (x : Value) : Query :=
  ⟨"UNWIND [$x, [$x]] AS y RETURN y", ⟨[("x", x)]⟩, .default⟩

def sampleAsking : List (List UInt8) :=
  [[0xB2, 0x01, 0x81, 0x61, 0xA0],
    [0xB2, 0x10, 0xD0, 0x1F] ++ Wire.utf8 "UNWIND [$x, [$x]] AS y RETURN y" ++ [0xA1, 0x81, 0x78] ++
      List.replicate 31 0x91 ++ [0xC0], [0xB0, 0x3F]]

def askingBytes : List UInt8 := sampleAsking.flatMap Frame.Chunker.largest.encode

def askingInbox (x : Value) : List Inbound :=
  [.request (.init "a" .empty) (.fresh .init .summary 0),
    .request (.run (sampleQuery x).statement (sampleQuery x).parameters .default)
      (.fresh .run .summary 0),
    .request .pullAll (.fresh .pullAll .stream 0)]

def askingFresh : Actor Store Production := .fresh ⟨.v1, .fresh 1024, .largest⟩ "id" .empty .fresh 0

def asking (session : Session Production) (inbox : List Inbound) (outbox : Outbox) (store : Store)
    (metrics : Metrics) : Actor Store Production :=
  { askingFresh with session, inbox, outbox, engine := store, metrics }

def askingEarly : Session Production := { Session.fresh "id" .v1 0 with requestCount := 3 }

def askingReady : Session Production :=
  (askingEarly.authenticate .anonymous (some "a")).withState .ready

def askingLeft (taken : Nat) : Frame.Dechunker :=
  (Frame.Dechunker.fresh 1024).extend (askingBytes.drop taken)

theorem asking_drained :
    (askingFresh.dechunker.extend askingBytes).drain = (sampleAsking, none, .fresh 1024) := by
  have first : (askingLeft 0).next = (.ok (some (sampleAsking.getD 0 [])), askingLeft 9) := by cbv
  have second : (askingLeft 9).next = (.ok (some (sampleAsking.getD 1 [])), askingLeft 83) := by cbv
  have third : (askingLeft 83).next = (.ok (some [0xB0, 0x3F]), askingLeft 89) := by cbv
  have last : (askingLeft 89).next = (.ok none, .fresh 1024) := by cbv
  change (askingLeft 0).drainOnto [] = _
  rw [Frame.Dechunker.drainOnto_some first, Frame.Dechunker.drainOnto_some second,
    Frame.Dechunker.drainOnto_some third, Frame.Dechunker.drainOnto_none last]
  rfl

set_option maxRecDepth 20000 in
theorem asking_received : ∃ metrics, askingFresh.move? sampleServer
    (.here (.received askingBytes)) =
      some (asking askingEarly (askingInbox (nested 31)) askingFresh.outbox .empty metrics) := by
  have fed : askingFresh.fed askingBytes = askingFresh := by
    unfold Actor.fed
    rw [asking_drained]
    rfl
  have taken : ∃ metrics, Act.receiveMessages sampleAsking askingFresh = .ok .proceed
      (asking askingEarly (askingInbox (nested 31)) askingFresh.outbox .empty metrics) := by
    refine ⟨?_, ?_⟩
    rotate_left
    · cbv
      rfl
  obtain ⟨metrics, taken⟩ := taken
  rw [← fed] at taken
  exact ⟨metrics, Actor.move_here (o := .received askingBytes) rfl
    (Actor.received_done asking_drained taken)⟩

theorem asking_opened (metrics : Metrics) (x : Value) : ∃ outbox metrics', outbox.version = .v1 ∧
    (asking askingEarly (askingInbox x) askingFresh.outbox .empty metrics).move? sampleServer
      (.here .turn) = some (asking askingReady (askingInbox x).tail outbox .empty metrics') := by
  have sendable : (Response.success (Act.welcome sampleServer askingReady)).Sendable .v1 := by
    refine ⟨?_, ?_⟩
    rotate_left
    · cbv
      rfl
  obtain ⟨outbox, version, -, moved⟩ := Actor.turn_answered sampleServer
    (h := .fresh .init .summary 0)
    (a := asking askingEarly (askingInbox x) askingFresh.outbox .empty metrics)
    (b := asking askingReady (askingInbox x).tail askingFresh.outbox .empty metrics) rfl rfl rfl
    (by decide) (fun _ answered => bind_of_ok answered) sendable
  exact ⟨outbox, _, version, moved⟩

def samplePlan : Plan :=
  ⟨some (.list [.parameter "x", .list [.parameter "x"]], "y"), [(.variable "y", "y")]⟩

def sampleProduction (x : Value) : Production :=
  ⟨samplePlan, ⟨[("x", x)]⟩, none, some "graphwire:bookmark:v1:tx1", .unstarted⟩

theorem sample_executed (x : Value) : engine.execute 0 (sampleQuery x) none false .empty =
    (.ok (["y"], sampleProduction x), ⟨[], 0, 1⟩) := by
  cbv

def askingStreaming (x : Value) : Session Production :=
  { askingReady with
    result := some (.start ["y"] askingReady.cancel.token (sampleProduction x)),
    state := .streaming }

def sampleColumns : Dict Value :=
  ⟨[("fields", .list [.string "y"]), ("result_available_after", .integer 0)]⟩

theorem asking_started (before : Outbox) (metrics : Metrics) (x : Value) :
    Act.run sampleServer (.run (sampleQuery x).statement (sampleQuery x).parameters .default)
        .streaming (.fresh .run .summary 0)
        (asking askingReady (askingInbox x).tail.tail before .empty metrics) =
      Act.respond (.fresh .run .summary 0) (.success sampleColumns)
        (asking (askingStreaming x) (askingInbox x).tail.tail before ⟨[], 0, 1⟩ metrics) := by
  have columns : (Dict.empty.insert "fields" (.list (["y"].map .string))).insert
      Version.v1.availableKey ((Handler.fresh .run .summary 0).millis 0) = sampleColumns := rfl
  rw [← columns]
  exact Act.run_started (a := asking askingReady (askingInbox x).tail.tail before .empty metrics)
    (sample_executed x)

theorem asking_ran (before : Outbox) (metrics : Metrics) (x : Value)
    (version : before.version = .v1) : ∃ outbox metrics', outbox.version = .v1 ∧
    (asking askingReady (askingInbox x).tail before .empty metrics).move? sampleServer
      (.here .turn) =
        some (asking (askingStreaming x) (askingInbox x).tail.tail outbox ⟨[], 0, 1⟩ metrics') := by
  have sendable : (Response.success sampleColumns).Sendable before.version := by
    rw [version]
    refine ⟨?_, ?_⟩
    rotate_left
    · cbv
      rfl
  have started := asking_started before metrics x
  obtain ⟨outbox, same, -, moved⟩ := Actor.turn_answered sampleServer
    (h := .fresh .run .summary 0)
    (a := asking askingReady (askingInbox x).tail before .empty metrics)
    (b := asking (askingStreaming x) (askingInbox x).tail.tail before ⟨[], 0, 1⟩ metrics)
    rfl rfl rfl (by decide) (fun _ answered => bind_of_ok (started.trans answered)) sendable
  exact ⟨outbox, _, same.trans version, moved⟩

def askingPulling (x : Value) (outbox : Outbox) (metrics : Metrics) : Actor Store Production :=
  { asking (askingStreaming x) [] outbox ⟨[], 0, 1⟩ metrics with
    pulling := some ⟨.fresh .pullAll .stream 0, .ready⟩ }

theorem asking_pulled (before : Outbox) (metrics : Metrics) (x : Value) :
    (asking (askingStreaming x) (askingInbox x).tail.tail before ⟨[], 0, 1⟩ metrics).move?
      sampleServer (.here .turn) = some (askingPulling x before.flush metrics) := by
  have done : Act.processNext sampleServer
      (asking (askingStreaming x) (askingInbox x).tail.tail before ⟨[], 0, 1⟩ metrics) = _ :=
    Act.processNext_cons rfl
  exact Actor.move_here (o := .turn) rfl done

def sampleStream (x : Value) : ResultStream Production :=
  ⟨["y"], askingReady.cancel.token, [.record [x], .record [.list [x]]],
    some { sampleProduction x with phase := .rows (.values []) }⟩

theorem asking_produced (before : Outbox) (metrics : Metrics) (x : Value) :
    (askingPulling x before metrics).move? sampleServer (.here (.produced 2)) =
      some ((askingPulling x before.flush metrics).took (sampleStream x)) := by
  have filled : (ResultStream.start ["y"] askingReady.cancel.token (sampleProduction x)).fill engine
      0 askingReady.cancel 2 = sampleStream x := by cbv
  have done : Actor.occur sampleServer (.produced 2) (askingPulling x before metrics) =
      .ok .proceed ((askingPulling x before metrics).took (sampleStream x)) := by
    rw [← filled]
    rfl
  exact Actor.move_here (o := .produced 2) rfl done

/-- The connection has sent a record with thirty-one levels and one with thirty-two. -/
theorem asking_sent : ∃ a, Actor.Reachable sampleServer a ∧ a.session.version = .v1 ∧
    .record [nested 31] ∈ a.outbox.accepted ∧ .record [nested 32] ∈ a.outbox.accepted := by
  obtain ⟨metrics, received⟩ := asking_received
  obtain ⟨outbox, metrics, version, opened⟩ := asking_opened metrics (nested 31)
  obtain ⟨outbox, metrics, version, ran⟩ := asking_ran outbox metrics (nested 31) version
  have pulled := asking_pulled outbox metrics (nested 31)
  have produced := asking_produced outbox.flush metrics (nested 31)
  have reached : Actor.Reachable sampleServer _ :=
    ((((Actor.Reachable.fresh.move received).move opened).move ran).move pulled).move produced
  obtain ⟨early, batch, same, first, room, sent⟩ := Actor.pumped_sends sampleServer
    (a := (askingPulling (nested 31) outbox.flush.flush metrics).took (sampleStream (nested 31)))
    rfl rfl (by rintro ⟨⟩) rfl rfl rfl rfl (record_sendable 31 _)
  have open_ : batch ≠ some 0 := by
    rcases room with rfl | rfl
    · rintro ⟨⟩
    · change some 255 ≠ some 0
      decide
  obtain ⟨late, batch', same', second, -, sent'⟩ := Actor.pumped_sends sampleServer
    (a := { (askingPulling (nested 31) early metrics).took
        { sampleStream (nested 31) with ready := [.record [nested 32]] } with
      batch, pulling := some ⟨(Handler.fresh .pullAll .stream 0).further, .ready⟩ })
    rfl rfl open_ rfl rfl rfl rfl (record_sendable 32 _)
  refine ⟨_, (reached.move sent).move sent', rfl, ?_, ?_⟩
  · have before : .record [nested 31] ∈ early.accepted := first ▸ List.mem_cons_self
    rw [second]
    exact List.mem_cons_of_mem _ before
  · rw [second]
    exact List.mem_cons_self

end Literal

namespace Actor

open Literal

/-- The first record of the sample is read back, and the second is not. -/
theorem sample_returns_iff : ∃ a, Reachable sampleServer a ∧ a.session.version = .v1 ∧
    (∃ message cursor, (Response.record [nested 31]).encode .v1 = .ok message ∧
      Response.read .v1 (.start message) = .ok (.record [nested 31]) cursor ∧ cursor.rest = []) ∧
    ∃ message, (Response.record [nested 32]).encode .v1 = .ok message ∧
      ¬∃ cursor, Response.read .v1 (.start message) = .ok (.record [nested 32]) cursor ∧
        cursor.rest = [] := by
  obtain ⟨a, reachable, version, first, second⟩ := asking_sent
  obtain ⟨message, encoded, returns⟩ := records_return_iff rfl reachable first
  obtain ⟨message', encoded', returns'⟩ := records_return_iff rfl reachable second
  rw [version] at encoded returns encoded' returns'
  refine ⟨a, reachable, version, ?_, message', encoded', ?_⟩
  · obtain ⟨cursor, read, whole⟩ := returns.mpr
      (List.forall_mem_cons.mpr ⟨(nesting_nested 31).le, List.forall_mem_nil _⟩)
    exact ⟨message, cursor, encoded, read, whole⟩
  · intro read
    have shallow := returns'.mp read _ List.mem_cons_self
    rw [nesting_nested] at shallow
    omega

/-- Not every record that is sent can be read back. -/
theorem sample_unreadable : ¬∀ (a : Actor Store Production) (fields : List Value),
    Reachable sampleServer a → .record fields ∈ a.outbox.accepted →
    ∃ message cursor, (Response.record fields).encode a.session.version = .ok message ∧
      Response.read a.session.version (.start message) = .ok (.record fields) cursor ∧
      cursor.rest = [] := by
  intro all
  obtain ⟨a, reachable, version, -, sent⟩ := asking_sent
  obtain ⟨message, cursor, encoded, read, whole⟩ := all a _ reachable sent
  have regular : ∀ v ∈ [nested 32], v.IsRegular :=
    ((reachable_tame engine_regular reachable).records _ sent).1
  have shallow := (Response.record_returns_iff regular encoded).mp ⟨cursor, read, whole⟩ _
    List.mem_cons_self
  rw [nesting_nested] at shallow
  exact absurd shallow (by decide)

end Actor

end GraphProtocol
