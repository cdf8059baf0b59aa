import GraphProtocol.Proofs.Connection.Reception
import GraphProtocol.Query.Script

/-!
# What an occurrence does, and runs

A possible occurrence that leaves the connection open has one of five outcomes.
Between occurrences the engine, the metrics and the clock may change in any way,
because other connections share them. A run is a list of such moves. Whatever
holds of a new connection and is kept by every outcome holds after every run.
-/

set_option autoImplicit false

namespace GraphProtocol

variable {σ π : Type}

namespace Actor

def dismissed (a : Actor σ π) : Actor σ π := { a with cleanup := none }

/-- What a possible occurrence does, if the connection stays open; waiting responses are not
yet written. -/
inductive Occurred (ctx : Context σ π) (a : Actor σ π) : Occurrence → Actor σ π → Prop where
  | received {bytes : List UInt8} {b : Actor σ π} : a.canRead = true →
      (a.fed bytes).Received (a.completed bytes) b → Occurred ctx a (.received bytes) b
  | turn {m : Inbound} {rest : List Inbound} {b : Actor σ π} : a.hasTurn = true →
      a.inbox = m :: rest → Dealt ctx { a with inbox := rest } m b → Occurred ctx a .turn b
  | produced {count : Nat} {r : ResultStream π} : a.session.result = some r →
      Occurred ctx a (.produced count) (a.took (r.fill ctx.engine a.now a.session.cancel count))
  | pumped {p : Pulling} {b : Actor σ π} : a.canPump = true → a.pulling = some p →
      a.Pumped p b → Occurred ctx a .pumped b
  | cleaned {c : Cleanup π} {b : Actor σ π} : a.cleanup = some c →
      (a.dismissed.cleared ctx).Answered c.handler (.success .empty) b → Occurred ctx a .cleaned b

def poised (a : Actor σ π) : Actor σ π :=
  { a with outbox := if a.isWaiting then a.outbox.flush else a.outbox }

theorem poised_accepted (a : Actor σ π) : a.poised.outbox.accepted = a.outbox.accepted := by
  unfold poised
  split <;> rfl

theorem poised_version (a : Actor σ π) : a.poised.outbox.version = a.outbox.version := by
  unfold poised
  split <;> rfl

theorem poised_chunker (a : Actor σ π) : a.poised.outbox.chunker = a.outbox.chunker := by
  unfold poised
  split <;> rfl

theorem canRead_free {c : Connection π} (can : c.canRead = true) :
    c.cleanup = none ∧ c.batch = none := by
  simp only [Connection.canRead, Connection.isWaiting, Bool.and_eq_true,
    Option.isNone_iff_eq_none] at can
  exact can.1.1

theorem hasTurn_free {c : Connection π} (can : c.hasTurn = true) :
    c.cleanup = none ∧ c.pulling = none := by
  simp only [Connection.hasTurn, Bool.and_eq_true, Option.isNone_iff_eq_none] at can
  exact can.1

/-- A client that is turned away has been told so, even if it cannot hear it. -/
theorem occur_unheard {ctx : Context σ π} {a : Actor σ π} (away : a.turnsAway ctx = true)
    (fault : TransportFault) (text : String) :
    ∃ e b, Act.processNext ctx a = .error (.error e) b ∧
      occur ctx (.unheard fault text) a = .error (.error (.transport fault text)) b := by
  unfold turnsAway at away
  dsimp only [occur]
  cases came : Act.processNext ctx a with
  | ok flow b => simp [came] at away
  | error abort b =>
    cases abort with
    | error e => exact ⟨e, b, rfl, rfl⟩
    | breakdown => simp [came] at away

theorem allows_unheard {ctx : Context σ π} {a : Actor σ π} {fault : TransportFault} {text : String}
    (can : a.allows ctx (.unheard fault text) = true) :
    a.hasTurn = true ∧ a.turnsAway ctx = true := by
  simpa only [allows, Bool.and_eq_true] using can

theorem occur_outcome {ctx : Context σ π} {a b : Actor σ π} {o : Occurrence}
    (can : a.allows ctx o = true) (run : occur ctx o a = .ok .proceed b) : a.Occurred ctx o b := by
  cases o with
  | received bytes => exact .received can (Act.receive_outcome run)
  | turn =>
    cases full : a.inbox with
    | nil => simp [allows, Connection.hasTurn, full] at can
    | cons m rest =>
      exact .turn can full (Act.process_outcome ((Act.processNext_cons full).symm.trans run))
  | produced count =>
    cases held : a.session.result with
    | none => simp [allows, held] at can
    | some r =>
      cases run
      have outcome : a.Occurred ctx (.produced count) _ := .produced held
      simpa [took, held] using outcome
  | pumped =>
    obtain ⟨⟨⟩, c, ran, rest⟩ := bind_ok run
    cases rest
    cases hp : a.pulling with
    | none => simp [allows, Connection.canPump, hp] at can
    | some p => exact .pumped can hp (Act.pump_outcome hp ran)
  | cleaned =>
    obtain ⟨⟨⟩, c, ran, rest⟩ := bind_ok run
    cases rest
    unfold Act.finishCleanup at ran
    rw [Act.get_bind] at ran
    cases waits : a.cleanup with
    | none => simp [allows, waits] at can
    | some c =>
      rw [waits] at ran
      exact .cleaned waits (Act.finishReset_outcome ran)
  | endOfInput | cleanupExpired | idled | untimed | shutDown | broken => cases run
  | unheard fault text =>
    obtain ⟨e, c, -, failed⟩ := occur_unheard (allows_unheard can).2 fault text
    cases failed.symm.trans run

theorem step_outcome {ctx : Context σ π} {a b : Actor σ π} {o : Occurrence}
    (can : a.allows ctx o = true) (run : a.step ctx o = (.running, b)) :
    ∃ c, a.Occurred ctx o c ∧ b = c.poised := by
  unfold step at run
  cases came : occur ctx o a with
  | error abort c =>
    rw [came] at run
    cases abort with
    | error e => simp only [conclude] at run; split at run <;> cases run
    | breakdown => cases run
  | ok flow c =>
    rw [came] at run
    cases flow with
    | close => simp only [conclude] at run; split at run <;> cases run
    | proceed =>
      cases run
      refine ⟨c, occur_outcome can came, ?_⟩
      unfold poised
      split <;> rfl

end Actor

inductive Move (σ : Type) where
  | here (occurrence : Occurrence)
  | elsewhere (engine : σ) (metrics : Metrics) (now : Instant)

namespace Actor

variable (ctx : Context σ π)

def move? (a : Actor σ π) : Move σ → Option (Actor σ π)
  | .here occurrence =>
    if a.allows ctx occurrence then
      match a.step ctx occurrence with
      | (.running, b) => some b
      | (.ended _, _) | (.brokenDown, _) => none
    else none
  | .elsewhere engine metrics now => some { a with engine, metrics, now }

def run? (a : Actor σ π) : List (Move σ) → Option (Actor σ π)
  | [] => some a
  | move :: moves => (a.move? ctx move).bind fun b => b.run? moves

def gather {α : Type} (f : Actor σ π → Move σ → List α) (a : Actor σ π) : List (Move σ) → List α
  | [] => []
  | move :: moves =>
    f a move ++ ((a.move? ctx move).map fun b => b.gather f moves).getD []

end Actor

namespace Actor

variable {ctx : Context σ π} {a b : Actor σ π} {move : Move σ}

theorem move_outcome (h : a.move? ctx move = some b) :
    (∃ o c, move = .here o ∧ a.Occurred ctx o c ∧ b = c.poised) ∨
    ∃ engine metrics now, move = .elsewhere engine metrics now ∧
      b = { a with engine, metrics, now } := by
  cases move with
  | elsewhere engine metrics now => cases h; exact .inr ⟨engine, metrics, now, rfl, rfl⟩
  | here o =>
    by_cases can : a.allows ctx o = true
    · simp only [move?, if_pos can] at h
      cases stepped : a.step ctx o with | mk progress c =>
      rw [stepped] at h
      cases progress with
      | ended | brokenDown => cases h
      | running =>
        cases h
        obtain ⟨d, occurred, rfl⟩ := step_outcome can stepped
        exact .inl ⟨o, d, rfl, occurred, rfl⟩
    · simp [move?, can] at h

def fresh (pipeline : Pipeline) (id : String) (engine : σ) (metrics : Metrics) (now : Instant) :
    Actor σ π :=
  { Connection.fresh pipeline id now with engine, metrics, now }

/-- The actors of open connections. -/
inductive Reachable (ctx : Context σ π) : Actor σ π → Prop where
  | fresh {pipeline : Pipeline} {id : String} {engine : σ} {metrics : Metrics} {now : Instant} :
      Reachable ctx (fresh pipeline id engine metrics now)
  | move {a b : Actor σ π} {move : Move σ} : Reachable ctx a → a.move? ctx move = some b →
      Reachable ctx b

theorem reachable_elsewhere (reachable : Reachable ctx a)
    (same : a.toConnection = b.toConnection) : Reachable ctx b := by
  have moved : a.move? ctx (.elsewhere b.engine b.metrics b.now) = some b := by
    obtain ⟨c, engine, metrics, now⟩ := b
    cases same
    rfl
  exact reachable.move moved

theorem run_reachable {moves : List (Move σ)} (start : Reachable ctx a)
    (run : a.run? ctx moves = some b) : Reachable ctx b := by
  induction moves generalizing a with
  | nil => cases run; exact start
  | cons move moves ih =>
    obtain ⟨c, first, rest⟩ := Option.bind_eq_some_iff.mp run
    exact ih (start.move first) rest

theorem run_append {early late : List (Move σ)} (run : a.run? ctx early = some b) :
    a.run? ctx (early ++ late) = b.run? ctx late := by
  induction early generalizing a with
  | nil => cases run; rfl
  | cons move early ih =>
    obtain ⟨c, moved, further⟩ := Option.bind_eq_some_iff.mp run
    simp only [List.cons_append, run?, moved, Option.bind_some, ih further]

theorem gather_cons {α : Type} (f : Actor σ π → Move σ → List α) {moves : List (Move σ)}
    (moved : a.move? ctx move = some b) :
    gather ctx f a (move :: moves) = f a move ++ gather ctx f b moves := by
  simp [gather, moved]

theorem gather_append {α : Type} (f : Actor σ π → Move σ → List α) {early late : List (Move σ)}
    (run : a.run? ctx early = some b) :
    gather ctx f a (early ++ late) = gather ctx f a early ++ gather ctx f b late := by
  induction early generalizing a with
  | nil => cases run; rfl
  | cons move early ih =>
    obtain ⟨c, moved, further⟩ := Option.bind_eq_some_iff.mp run
    rw [List.cons_append, gather_cons f moved, gather_cons f moved, ih further, List.append_assoc]

theorem move_here {o : Occurrence} (can : a.allows ctx o = true)
    (done : occur ctx o a = .ok .proceed b) : a.move? ctx (.here o) = some b.poised := by
  simp only [move?, can, if_true, step, done, poised]
  split <;> rfl

/-- A message that has its turn is answered. -/
theorem turn_answered (ctx : Context σ π) {m : Inbound} {rest : List Inbound} {h : Handler}
    {r : Response} (can : a.hasTurn = true) (full : a.inbox = m :: rest)
    (unanswered : h.done = false) (loud : h.reply ≠ .silent)
    (done : ∀ c, Act.respond h r b = .ok () c →
      Act.process ctx m { a with inbox := rest } = .ok .proceed c)
    (sendable : r.Sendable b.outbox.version) :
    ∃ outbox, outbox.version = b.outbox.version ∧ outbox.chunker = b.outbox.chunker ∧
      a.move? ctx (.here .turn) =
        some { b with outbox, metrics := b.metrics.answered h r b.now } := by
  obtain ⟨outbox, room⟩ := queue_sendable sendable
  have processed : occur ctx .turn a = .ok .proceed
      { b with outbox, metrics := b.metrics.answered h r b.now } :=
    (Act.processNext_cons full).trans (done _ (Act.respond_sent unanswered loud room))
  have moved := move_here (o := .turn) can processed
  refine ⟨_, ?_, ?_, moved⟩
  · exact (poised_version _).trans (queue_accepted room).2
  · exact (poised_chunker _).trans (queue_chunker room)

/-- A record that is at hand is handled. -/
theorem pumped_record {p : Pulling} {q : ResultStream π} {fields : List Value}
    {ready : List StreamEvent} {handler : Handler} {delivery : Delivery} {outbox : Outbox}
    (clean : a.cleanup = none) (hp : a.pulling = some p) (open_ : a.batch ≠ some 0)
    (held : a.session.result = some q) (waits : q.ready = .record fields :: ready)
    (recorded : p.handler.record a.outbox fields = (handler, .ok (delivery, outbox))) :
    a.move? ctx (.here .pumped) = some (batched { a.took { q with ready } with
      outbox, pulling := some { p with handler } } (Act.room a.batch - 1) true).poised := by
  have can : a.allows ctx .pumped = true := by
    simp [allows, Connection.canPump, clean, hp, held, waits]
  have handled := Act.handleEvent_record (a := a.took { q with ready }) hp recorded
  exact move_here can (bind_of_ok (Act.pump_handles open_ held waits handled))

theorem received_done {bytes : List UInt8} {messages : List (List UInt8)} {d : Frame.Dechunker}
    (drained : (a.dechunker.extend bytes).drain = (messages, none, d))
    (taken : Act.receiveMessages messages (a.fed bytes) = .ok .proceed b) :
    Act.receive bytes a = .ok .proceed b := by
  unfold Act.receive
  simp only [Act.get_bind, Act.modifySession_bind, Act.modify_bind, drained]
  unfold fed at taken
  rw [drained] at taken
  rw [bind_of_ok taken]
  rfl

end Actor

/-! ## A sample connection -/

def sampleContext : Context Script.Stage Script.Run where
  engine := Script.engine
  authenticate _ := .ok .anonymous
  serverAgent := "server"
  idleTimeout := .ofSeconds 60
  resetTimeout := .ofSeconds 60

def sampleRun (events : List StreamEvent) : Script.Run := ⟨["x"], events, .stall⟩

def sampleMessages : List (List UInt8) :=
  [[0xB2, 0x01, 0x81, 0x61, 0xA0], [0xB2, 0x10, 0x81, 0x78, 0xA0], [0xB0, 0x3F]]

def sampleBytes : List UInt8 := sampleMessages.flatMap Frame.Chunker.largest.encode

def sampleInbox : List Inbound :=
  [.request (.init "a" .empty) (.fresh .init .summary 0),
    .request (.run "x" .empty .default) (.fresh .run .summary 0),
    .request .pullAll (.fresh .pullAll .stream 0)]

namespace Actor

def sample (events : List StreamEvent) : Actor Script.Stage Script.Run :=
  .fresh ⟨.v1, .fresh 1024, .largest⟩ "id" ⟨[.ok (sampleRun events)], [], [], [], 0, []⟩ .fresh 0

def sampled (events : List StreamEvent) (session : Session Script.Run) (inbox : List Inbound)
    (outbox : Outbox) (engine : Script.Stage) (metrics : Metrics) :
    Actor Script.Stage Script.Run :=
  { sample events with session, inbox, outbox, engine, metrics }

def sampleEarly : Session Script.Run :=
  { Session.fresh "id" .v1 0 with requestCount := 3 }

def sampleReady : Session Script.Run :=
  (sampleEarly.authenticate .anonymous (some "a")).withState .ready

def sampleStreaming (events : List StreamEvent) : Session Script.Run :=
  { sampleReady with
    result := some (.start ["x"] sampleReady.cancel.token (sampleRun events)), state := .streaming }

def sampleLeft (taken : Nat) : Frame.Dechunker :=
  (Frame.Dechunker.fresh 1024).extend (sampleBytes.drop taken)

theorem sample_drained (events : List StreamEvent) :
    ((sample events).dechunker.extend sampleBytes).drain =
      (sampleMessages, none, .fresh 1024) := by
  have first : (sampleLeft 0).next =
      (.ok (some [0xB2, 0x01, 0x81, 0x61, 0xA0]), sampleLeft 9) := by cbv
  have second : (sampleLeft 9).next =
      (.ok (some [0xB2, 0x10, 0x81, 0x78, 0xA0]), sampleLeft 18) := by cbv
  have third : (sampleLeft 18).next = (.ok (some [0xB0, 0x3F]), sampleLeft 24) := by cbv
  have last : (sampleLeft 24).next = (.ok none, .fresh 1024) := by cbv
  change (sampleLeft 0).drainOnto [] = _
  rw [Frame.Dechunker.drainOnto_some first, Frame.Dechunker.drainOnto_some second,
    Frame.Dechunker.drainOnto_some third, Frame.Dechunker.drainOnto_none last]
  rfl

def sampleCounted : Metrics :=
  ((Metrics.fresh.countRequest "INIT").countRequest "RUN").countRequest "PULL_ALL"

theorem sample_received (events : List StreamEvent) :
    (sample events).move? sampleContext (.here (.received sampleBytes)) =
      some (sampled events sampleEarly sampleInbox (sample events).outbox
        (sample events).engine sampleCounted) := by
  have fed : (sample events).fed sampleBytes = sample events := by
    unfold fed
    rw [sample_drained]
    rfl
  have taken : Act.receiveMessages sampleMessages (sample events) =
      .ok .proceed (sampled events sampleEarly sampleInbox (sample events).outbox
        (sample events).engine sampleCounted) := by cbv
  rw [← fed] at taken
  exact move_here (o := .received sampleBytes) rfl (received_done (sample_drained events) taken)

def sampleWelcomed (metrics : Metrics) : Metrics :=
  metrics.answered (.fresh .init .summary 0) (.success (Act.welcome sampleContext sampleReady)) 0

theorem sample_opened (events : List StreamEvent) (metrics : Metrics) : ∃ outbox : Outbox,
    outbox.version = .v1 ∧ outbox.chunker = .largest ∧
    (sampled events sampleEarly sampleInbox (sample events).outbox (sample events).engine
        metrics).move? sampleContext (.here .turn) =
      some (sampled events sampleReady sampleInbox.tail outbox (sample events).engine
        (sampleWelcomed metrics)) := by
  have sendable : (Response.success (Act.welcome sampleContext sampleReady)).Sendable .v1 := by
    refine ⟨?_, ?_⟩
    rotate_left
    · cbv
      rfl
  exact turn_answered sampleContext (h := .fresh .init .summary 0) (b := sampled events sampleReady
    sampleInbox.tail (sample events).outbox (sample events).engine metrics) rfl rfl rfl (by decide)
    (fun _ answered => bind_of_ok answered) sendable

def sampleColumns : Dict Value :=
  ⟨[("fields", .list [.string "x"]), ("result_available_after", .integer 0)]⟩

def sampleEngine (events : List StreamEvent) : Script.Stage :=
  ((sample events).engine.execute ⟨"x", .empty, .default⟩ none false).2

theorem sample_started (events : List StreamEvent) (outbox : Outbox) (metrics : Metrics) :
    Act.run sampleContext (.run "x" .empty .default) .streaming (.fresh .run .summary 0)
        (sampled events sampleReady sampleInbox.tail.tail outbox (sample events).engine metrics) =
      Act.respond (.fresh .run .summary 0) (.success sampleColumns)
        (sampled events (sampleStreaming events) sampleInbox.tail.tail outbox
          (sampleEngine events) metrics) := by
  have called : Script.engine.execute 0 ⟨"x", .empty, .default⟩ none false (sample events).engine =
      (.ok (["x"], sampleRun events), sampleEngine events) := rfl
  have columns : (Dict.empty.insert "fields" (.list (["x"].map .string))).insert
      Version.v1.availableKey ((Handler.fresh .run .summary 0).millis 0) = sampleColumns := rfl
  rw [← columns]
  exact Act.run_started (a := sampled events sampleReady sampleInbox.tail.tail outbox
    (sample events).engine metrics) called

def sampleRan (metrics : Metrics) : Metrics :=
  metrics.answered (.fresh .run .summary 0) (.success sampleColumns) 0

theorem sample_ran (events : List StreamEvent) (before : Outbox) (metrics : Metrics)
    (version : before.version = .v1) (chunker : before.chunker = .largest) :
    ∃ outbox : Outbox, outbox.version = .v1 ∧ outbox.chunker = .largest ∧
    (sampled events sampleReady sampleInbox.tail before (sample events).engine metrics).move?
        sampleContext (.here .turn) =
      some (sampled events (sampleStreaming events) sampleInbox.tail.tail outbox
        (sampleEngine events) (sampleRan metrics)) := by
  have sendable : Response.encode .v1 (.success sampleColumns) = .ok [0xB1, 0x70, 0xA2, 0x86, 0x66,
      0x69, 0x65, 0x6C, 0x64, 0x73, 0x91, 0x81, 0x78, 0xD0, 0x16, 0x72, 0x65, 0x73, 0x75, 0x6C,
      0x74, 0x5F, 0x61, 0x76, 0x61, 0x69, 0x6C, 0x61, 0x62, 0x6C, 0x65, 0x5F, 0x61, 0x66, 0x74,
      0x65, 0x72, 0x00] := by cbv
  obtain ⟨outbox, same, same', moved⟩ := turn_answered sampleContext
    (h := .fresh .run .summary 0)
    (a := sampled events sampleReady sampleInbox.tail before (sample events).engine metrics)
    (b := sampled events (sampleStreaming events) sampleInbox.tail.tail before
      (sampleEngine events) metrics) rfl rfl rfl (by decide)
    (fun _ answered => bind_of_ok ((sample_started events before metrics).trans answered))
    ⟨_, version.symm ▸ sendable⟩
  exact ⟨outbox, same.trans version, same'.trans chunker, moved⟩

def samplePulling (events : List StreamEvent) (outbox : Outbox) (metrics : Metrics) :
    Actor Script.Stage Script.Run :=
  { sampled events (sampleStreaming events) [] outbox (sampleEngine events) metrics with
    pulling := some ⟨.fresh .pullAll .stream 0, .ready⟩ }

theorem sample_pulled (events : List StreamEvent) (outbox : Outbox) (metrics : Metrics) :
    (sampled events (sampleStreaming events) sampleInbox.tail.tail outbox (sampleEngine events)
        metrics).move? sampleContext (.here .turn) =
      some (samplePulling events outbox.flush metrics) := by
  have done : Act.processNext sampleContext (sampled events (sampleStreaming events)
      sampleInbox.tail.tail outbox (sampleEngine events) metrics) = _ := Act.processNext_cons rfl
  exact move_here (o := .turn) rfl done

def sampleOpening : List (Move Script.Stage) :=
  [.here (.received sampleBytes), .here .turn, .here .turn]

def sampleTold : Metrics := sampleRan (sampleWelcomed sampleCounted)

theorem sample_turned (events : List StreamEvent) : ∃ (a : Actor _ _) (outbox : Outbox),
    outbox.version = .v1 ∧ outbox.chunker = .largest ∧
    (sample events).run? sampleContext sampleOpening = some a ∧
    a.move? sampleContext (.here .turn) = some (samplePulling events outbox sampleTold) := by
  have received := sample_received events
  obtain ⟨outbox, version, chunker, opened⟩ := sample_opened events sampleCounted
  obtain ⟨outbox, version, chunker, ran⟩ :=
    sample_ran events outbox (sampleWelcomed sampleCounted) version chunker
  refine ⟨_, outbox.flush, version, chunker, ?_, sample_pulled events outbox sampleTold⟩
  simp only [sampleOpening, run?, received, opened, ran, Option.bind_some]
  rfl

def sampleMoves : List (Move Script.Stage) := sampleOpening ++ [.here .turn]

theorem sample_run (events : List StreamEvent) : ∃ outbox : Outbox, outbox.version = .v1 ∧
    (sample events).run? sampleContext sampleMoves =
      some (samplePulling events outbox sampleTold) := by
  obtain ⟨a, outbox, version, -, run, pulled⟩ := sample_turned events
  refine ⟨outbox, version, ?_⟩
  rw [sampleMoves, run_append run]
  simp only [run?, pulled, Option.bind_some]

theorem sample_pulls (events : List StreamEvent) : ∃ outbox metrics, outbox.version = .v1 ∧
    Reachable sampleContext (samplePulling events outbox metrics) := by
  obtain ⟨outbox, version, run⟩ := sample_run events
  exact ⟨outbox, sampleTold, version, run_reachable .fresh run⟩

end Actor

end GraphProtocol
