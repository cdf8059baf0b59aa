import GraphProtocol.Proofs.Connection.Authority
import GraphProtocol.Proofs.Query.Clients

/-!
# Connections that share the literal engine

Any number of connections take their steps in any order, and between two steps any
time may pass. What a connection asks the engine is always due. Therefore the calls
of all connections are books in order: every open transaction is kept by exactly one
connection, which has not ended.
-/

set_option autoImplicit false

namespace GraphProtocol

open EngineCall (Dues dues_append dues_singleton)

/-! ## What a step asks is due -/

namespace Actor

variable {σ π : Type} {ctx : Context σ π} {a : Actor σ π} {o : Occurrence}

theorem dues_givingUp (engine : QueryEngine σ π) (now : Instant) (s : σ) :
    Dues engine now a.session.tx s a.givingUp := by
  unfold givingUp
  cases held : a.session.tx with
  | none => trivial
  | some tx => exact dues_singleton rfl

theorem dues_resetting (engine : QueryEngine σ π) (now : Instant) (s : σ) :
    Dues engine now a.session.tx s a.resetting := by
  unfold resetting
  split
  · trivial
  · exact dues_givingUp engine now s

theorem dues_performed {action : Action} {request : Request} {next : ConnectionState} {h : Handler}
    (sound : a.IsSound) (performs : a.Performs action request next h) :
    Dues ctx.engine a.now a.session.tx a.engine (action.calls ctx a request) := by
  have supplied := performs_supplied sound performs
  cases action with
  | authenticate | pull | discard | reset => trivial
  | run =>
    cases request with
    | run statement parameters metadata =>
      apply dues_singleton
      unfold Act.currentTx
      split
      · exact .inr rfl
      · exact .inl rfl
    | _ => trivial
  | begin =>
    cases request with
    | begin metadata => exact dues_singleton ⟨supplied.2, rfl⟩
    | _ => trivial
  | commit =>
    unfold Action.calls
    cases held : a.session.tx with
    | none => trivial
    | some tx => exact dues_singleton rfl
  | rollback => exact dues_givingUp _ _ _

theorem dues_asked (sound : a.IsSound) (can : a.allows ctx o = true) :
    Dues ctx.engine a.now a.session.tx a.engine (a.asked ctx o) := by
  cases o with
  | turn =>
    rcases turn_work ctx can with ⟨action, request, next, h, performs, asked⟩ |
      ⟨-, -, -, -, -, -, asked⟩ | asked <;> rw [asked]
    · exact dues_performed sound performs
    · exact dues_resetting _ _ _
    · trivial
  | cleaned =>
    change Dues _ _ _ _ (if a.cleanup.isSome then a.givingUp else [])
    split
    · exact dues_givingUp _ _ _
    · trivial
  | unheard fault text =>
    rw [unheard_asked can]
    trivial
  | received | endOfInput | produced | pumped | cleanupExpired | idled | untimed | shutDown
  | broken => trivial

/-- At the end of a connection the transaction is given up that the work has left. -/
theorem dues_calls (sound : a.IsSound) (can : a.allows ctx o = true) :
    Dues ctx.engine a.now a.session.tx a.engine (a.calls ctx o) := by
  rw [calls_eq]
  apply dues_append (dues_asked sound can)
  split
  · rw [← (occur_asks o a).passes.held]
    exact dues_givingUp _ _ _
  · trivial

end Actor

/-! ## Services -/

namespace Literal

/-- A connection that has been accepted at some time, and what it has asked the engine. -/
structure Member where
  connection : Connection Production
  progress : GraphProtocol.Progress
  calls : List EngineCall

structure Service where
  members : Nat → Option Member
  store : Store

namespace Member

def fresh (pipeline : Pipeline) (id : String) (now : Instant) : Member :=
  ⟨.fresh pipeline id now, .running, []⟩

def actor (m : Member) (store : Store) (metrics : Metrics) (now : Instant) :
    Actor Store Production :=
  { m.connection with engine := store, metrics, now }

def after (ctx : Context Store Production) (m : Member) (a : Actor Store Production)
    (o : Occurrence) : Member :=
  ⟨(a.step ctx o).2.toConnection, (a.step ctx o).1, m.calls ++ a.calls ctx o⟩

structure Kept (ctx : Context Store Production) (m : Member) : Prop where
  reachable : m.progress = .running → ∀ store metrics now, (m.actor store metrics now).Reachable ctx
  held : m.connection.session.tx = held m.calls
  ended : m.progress.hasEnded = true → m.connection.session.tx = none

end Member

namespace Service

def empty : Service := ⟨fun _ => none, .empty⟩

def put (s : Service) (i : Nat) (m : Member) (store : Store) : Service :=
  ⟨Function.update s.members i (some m), store⟩

/-- A connection is accepted, or one of those that are open takes a step. -/
inductive Step (ctx : Context Store Production) (s : Service) : Service → Prop where
  | join {i : Nat} (pipeline : Pipeline) (id : String) (now : Instant) : s.members i = none →
      Step ctx s (s.put i (.fresh pipeline id now) s.store)
  | act {i : Nat} {m : Member} {o : Occurrence} (metrics : Metrics) (now : Instant) :
      s.members i = some m → m.progress = .running →
        (m.actor s.store metrics now).allows ctx o = true →
      Step ctx s (s.put i (m.after ctx (m.actor s.store metrics now) o)
        ((m.actor s.store metrics now).step ctx o).2.engine)

abbrev Steps (ctx : Context Store Production) : Service → Service → Prop :=
  Relation.ReflTransGen (Step ctx)

def Holds (s : Service) (i : Nat) (tx : TxId) : Prop :=
  ∃ m, s.members i = some m ∧ m.progress = .running ∧ m.connection.session.tx = some tx

def BrokenDown (s : Service) (i : Nat) : Prop :=
  ∃ m, s.members i = some m ∧ m.progress = .brokenDown

/-- The session of a connection that has not ended has this transaction. -/
def Keeps (s : Service) (i : Nat) (tx : TxId) : Prop :=
  ∃ m, s.members i = some m ∧ m.progress.hasEnded = false ∧ m.connection.session.tx = some tx

def books (s : Service) : Books := fun i => ((s.members i).map Member.calls).getD []

structure Sound (ctx : Context Store Production) (s : Service) : Prop where
  kept : ∀ i m, s.members i = some m → m.Kept ctx
  orderly : Orderly s.books s.store

end Service

variable {ctx : Context Store Production} {s t : Service}

namespace Member

theorem kept_fresh (pipeline : Pipeline) (id : String) (now : Instant) :
    (fresh pipeline id now).Kept ctx where
  reachable _ store metrics later := by
    have first : Actor.Reachable ctx ((fresh pipeline id now).actor store metrics now) := .fresh
    exact Actor.reachable_elsewhere first rfl
  held := rfl
  ended := nofun

theorem kept_after {m : Member} {store : Store} {metrics : Metrics} {now : Instant} {o : Occurrence}
    (kept : m.Kept ctx) (running : m.progress = .running)
    (can : (m.actor store metrics now).allows ctx o = true) :
    (m.after ctx (m.actor store metrics now) o).Kept ctx := by
  have reached := kept.reachable running store metrics now
  constructor
  · intro goesOn store' metrics' now'
    have stepped : (m.actor store metrics now).step ctx o =
        (.running, ((m.actor store metrics now).step ctx o).2) := Prod.ext goesOn rfl
    exact Actor.reachable_elsewhere (reached.move (Actor.step_moves can stepped)) rfl
  · unfold after Literal.held
    rw [List.foldl_append]
    change ((m.actor store metrics now).step ctx o).2.session.tx = _
    rw [(Actor.step_passes o).held]
    exact congrArg (List.foldl _ · _) kept.held
  · intro ends
    unfold after at ends ⊢
    cases came : (m.actor store metrics now).step ctx o with | mk progress b =>
    rw [came] at ends
    cases progress with
    | running | brokenDown => cases ends
    | ended outcome =>
      rcases Actor.step_ended came with ⟨c, -, -, rfl⟩ | ⟨e, c, -, -, rfl⟩ <;> rfl

end Member

namespace Service

theorem books_put (i : Nat) (m : Member) (store : Store) :
    (s.put i m store).books = Function.update s.books i m.calls := by
  funext j
  by_cases here : j = i
  · subst here
    simp [books, put]
  · simp [books, put, here]

theorem books_some {i : Nat} {m : Member} (known : s.members i = some m) : s.books i = m.calls := by
  simp [books, known]

theorem kept_put {i : Nat} {m : Member} {store : Store} (sound : s.Sound ctx) (kept : m.Kept ctx) :
    ∀ j n, (s.put i m store).members j = some n → n.Kept ctx := by
  intro j n known
  by_cases here : j = i
  · subst here
    cases (Function.update_self ..).symm.trans known
    exact kept
  · exact sound.kept j n ((Function.update_of_ne here ..).symm.trans known)

theorem sound_empty : empty.Sound ctx where
  kept := by rintro i m ⟨⟩
  orderly := orderly_empty

theorem step_sound (literal : ctx.engine = engine) (sound : s.Sound ctx) (step : Step ctx s t) :
    t.Sound ctx := by
  cases step with
  | @join i pipeline id now free =>
    refine ⟨kept_put sound (Member.kept_fresh pipeline id now), ?_⟩
    have same : s.books i = (Member.fresh pipeline id now).calls := by
      simp [books, free, Member.fresh]
    rw [books_put, ← same, Function.update_eq_self]
    exact sound.orderly
  | @act i m o metrics now known running can =>
    have kept := sound.kept i m known
    refine ⟨kept_put sound (Member.kept_after kept running can), ?_⟩
    have reached := kept.reachable running s.store metrics now
    have dues := Actor.dues_calls (Actor.reachable_sound reached) can
    have passes : (m.actor s.store metrics now).Passes ctx.engine _ _ := Actor.step_passes o
    have after := passes.engine
    rw [literal] at dues after
    -- The session and the book agree on what is held, so what is due by one is due by the other.
    have before : (m.actor s.store metrics now).session.tx = held (s.books i) :=
      kept.held.trans (by rw [books_some known])
    rw [before] at dues
    rw [books_put, after]
    have orderly := orderly_calls sound.orderly dues
    rw [books_some known] at orderly
    exact orderly

theorem steps_sound (literal : ctx.engine = engine) (sound : s.Sound ctx) (steps : Steps ctx s t) :
    t.Sound ctx := by
  induction steps with
  | refl => exact sound
  | tail _ step ih => exact step_sound literal ih step

/-- What has been obtained stays obtained. -/
theorem step_obtained {i : Nat} {tx : TxId} (step : Step ctx s t)
    (obtained : Obtained (s.books i) tx) : Obtained (t.books i) tx := by
  cases step with
  | @join j pipeline id now free =>
    rw [books_put]
    by_cases here : i = j
    · subst here
      simp [books, free, Obtained] at obtained
    · rwa [Function.update_of_ne here]
  | @act j m o metrics now known running can =>
    rw [books_put]
    by_cases here : i = j
    · subst here
      rw [Function.update_self]
      rw [books_some known] at obtained
      obtain ⟨metadata, among⟩ := obtained
      exact ⟨metadata, List.mem_append_left _ among⟩
    · rwa [Function.update_of_ne here]

theorem steps_obtained {i : Nat} {tx : TxId} (steps : Steps ctx s t)
    (obtained : Obtained (s.books i) tx) : Obtained (t.books i) tx := by
  induction steps with
  | refl => exact obtained
  | tail _ step ih => exact step_obtained step ih

/-- A connection that keeps a transaction holds it, unless it has broken down. -/
theorem keeps_holds {i : Nat} {tx : TxId} (keeps : s.Keeps i tx) :
    s.Holds i tx ∨ s.BrokenDown i := by
  obtain ⟨m, known, goesOn, has⟩ := keeps
  cases progress : m.progress with
  | running => exact .inl ⟨m, known, progress, has⟩
  | brokenDown => exact .inr ⟨m, known, progress⟩
  | ended outcome =>
    rw [progress] at goesOn
    cases goesOn

theorem holds_keeps {i : Nat} {tx : TxId} (holds : s.Holds i tx) : s.Keeps i tx := by
  obtain ⟨m, known, running, has⟩ := holds
  exact ⟨m, known, by rw [running]; rfl, has⟩

theorem keeps_held {i : Nat} {tx : TxId} (sound : s.Sound ctx) (keeps : s.Keeps i tx) :
    held (s.books i) = some tx := by
  obtain ⟨m, known, -, has⟩ := keeps
  rw [books_some known, ← (sound.kept i m known).held]
  exact has

theorem held_keeps {i : Nat} {tx : TxId} (sound : s.Sound ctx)
    (has : held (s.books i) = some tx) : s.Keeps i tx := by
  cases known : s.members i with
  | none => simp [books, known, held] at has
  | some m =>
    have kept := sound.kept i m known
    rw [books_some known, ← kept.held] at has
    refine ⟨m, known, ?_, has⟩
    by_contra ended
    cases (kept.ended (by simpa using ended)).symm.trans has

theorem keeps_obtained {i : Nat} {tx : TxId} (sound : s.Sound ctx) (keeps : s.Keeps i tx) :
    Obtained (s.books i) tx :=
  (sound.orderly.has i tx (keeps_held sound keeps)).obtained

end Service

/-! ## A sample service -/

def sampleServer : Context Store Production where
  engine := engine
  authenticate _ := .ok .anonymous
  serverAgent := "server"
  idleTimeout := .ofSeconds 60
  resetTimeout := .ofSeconds 60

def sampleWishes : List (List UInt8) :=
  [[0xB1, 0x01, 0xA1, 0x8A, 0x75, 0x73, 0x65, 0x72, 0x5F, 0x61, 0x67, 0x65, 0x6E, 0x74, 0x81, 0x61],
    [0xB1, 0x11, 0xA0]]

def wishBytes : List UInt8 := sampleWishes.flatMap Frame.Chunker.largest.encode

def wishInbox : List Inbound :=
  [.request (.hello ⟨[("user_agent", .string "a")]⟩) (.fresh .hello .summary 0),
    .request (.begin .default) (.fresh .begin .summary 0)]

def sampleMember : Member := .fresh ⟨.v3, .fresh 1024, .largest⟩ "id" 0

def wishing (session : Session Production) (inbox : List Inbound) (outbox : Outbox) (store : Store)
    (metrics : Metrics) : Actor Store Production :=
  { sampleMember.actor store metrics 0 with session, inbox, outbox }

def wishFresh : Actor Store Production := sampleMember.actor .empty .fresh 0

def wishEarly : Session Production := { Session.fresh "id" .v3 0 with requestCount := 2 }

def wishReady : Session Production :=
  (wishEarly.authenticate .anonymous (some "a")).withState .ready

def wishTx : TxId := ⟨1⟩

def wishBegun : Session Production := { wishReady with tx := some wishTx, state := .txReady }

def wishStore : Store := (Store.empty.begin 0 .default).2

def wishLeft (taken : Nat) : Frame.Dechunker :=
  (Frame.Dechunker.fresh 1024).extend (wishBytes.drop taken)

theorem wish_drained :
    (wishFresh.dechunker.extend wishBytes).drain = (sampleWishes, none, .fresh 1024) := by
  have first : (wishLeft 0).next = (.ok (some (sampleWishes.getD 0 [])), wishLeft 20) := by cbv
  have second : (wishLeft 20).next = (.ok (some [0xB1, 0x11, 0xA0]), wishLeft 27) := by cbv
  have last : (wishLeft 27).next = (.ok none, .fresh 1024) := by cbv
  change (wishLeft 0).drainOnto [] = _
  rw [Frame.Dechunker.drainOnto_some first, Frame.Dechunker.drainOnto_some second,
    Frame.Dechunker.drainOnto_none last]
  rfl

theorem wish_received : ∃ metrics, Actor.occur sampleServer (.received wishBytes) wishFresh =
    .ok .proceed (wishing wishEarly wishInbox wishFresh.outbox .empty metrics) := by
  have fed : wishFresh.fed wishBytes = wishFresh := by
    unfold Actor.fed
    rw [wish_drained]
    rfl
  have taken : ∃ metrics, Act.receiveMessages sampleWishes wishFresh =
      .ok .proceed (wishing wishEarly wishInbox wishFresh.outbox .empty metrics) := by
    refine ⟨?_, ?_⟩
    rotate_left
    · cbv
      rfl
  obtain ⟨metrics, taken⟩ := taken
  rw [← fed] at taken
  exact ⟨metrics, Actor.received_done wish_drained taken⟩

theorem wish_opened (metrics : Metrics) : ∃ outbox metrics', outbox.version = .v3 ∧
    Actor.occur sampleServer .turn (wishing wishEarly wishInbox wishFresh.outbox .empty metrics) =
      .ok .proceed (wishing wishReady wishInbox.tail outbox .empty metrics') := by
  obtain ⟨outbox, room⟩ : ∃ outbox, wishFresh.outbox.queue
      (.success (Act.welcome sampleServer wishReady)) = .ok outbox := by
    refine ⟨?_, ?_⟩
    rotate_left
    · cbv
      rfl
  have answered := Act.respond_sent (h := .fresh .hello .summary 0)
    (a := wishing wishReady wishInbox.tail wishFresh.outbox .empty metrics) rfl (by decide) room
  have done : Act.processNext sampleServer (wishing wishEarly wishInbox wishFresh.outbox .empty
      metrics) = _ := (Act.processNext_cons rfl).trans (bind_of_ok answered)
  exact ⟨outbox, _, (queue_accepted room).2, done⟩

theorem wish_begun (before : Outbox) (metrics : Metrics) (version : before.version = .v3) :
    ∃ outbox metrics',
    Actor.occur sampleServer .turn (wishing wishReady wishInbox.tail before .empty metrics) =
      .ok .proceed (wishing wishBegun [] outbox wishStore metrics') := by
  have sendable : Response.encode .v3 (.success .empty) = .ok [0xB1, 0x70, 0xA0] := by cbv
  obtain ⟨outbox, room⟩ := queue_sendable (o := before) ⟨_, version.symm ▸ sendable⟩
  have answered := Act.respond_sent (h := .fresh .begin .summary 0)
    (a := wishing wishBegun [] before wishStore metrics) rfl (by decide) room
  have called : engine.begin 0 .default .empty = (.ok wishTx, wishStore) := rfl
  have begun : Act.beginTx sampleServer (.begin .default) .txReady (.fresh .begin .summary 0)
      (wishing wishReady [] before .empty metrics) = _ := (Act.beginTx_begun called).trans answered
  have done : Act.processNext sampleServer (wishing wishReady wishInbox.tail before .empty
      metrics) = (Act.beginTx sampleServer (.begin .default) .txReady (.fresh .begin .summary 0) >>=
        fun _ => pure .proceed) (wishing wishReady [] before .empty metrics) := rfl
  exact ⟨outbox, _, done.trans (bind_of_ok begun)⟩

namespace Service

theorem put_put (s : Service) (i : Nat) (m n : Member) (store later : Store) :
    (s.put i m store).put i n later = s.put i n later := by
  unfold put
  rw [Function.update_idem]

/-- A member takes a step that leaves it open. -/
theorem step_here {a b : Actor Store Production} {o : Occurrence} (s : Service) (i : Nat)
    (calls : List EngineCall) (can : a.allows ctx o = true)
    (done : Actor.occur ctx o a = .ok .proceed b) :
    ∃ further, Step ctx (s.put i ⟨a.toConnection, .running, calls⟩ a.engine)
      (s.put i ⟨b.poised.toConnection, .running, further⟩ b.engine) := by
  have known : (s.put i ⟨a.toConnection, .running, calls⟩ a.engine).members i =
      some ⟨a.toConnection, .running, calls⟩ := Function.update_self ..
  have step : Step ctx _ _ := .act a.metrics a.now known rfl can
  rw [put_put] at step
  have moved := Actor.move_here can done
  simp only [Actor.move?, if_pos can] at moved
  change Step ctx _ (s.put i ⟨(a.step ctx o).2.toConnection, (a.step ctx o).1, _⟩
    (a.step ctx o).2.engine) at step
  cases came : a.step ctx o with | mk progress c =>
  rw [came] at moved step
  cases progress with
  | ended | brokenDown => cases moved
  | running =>
    cases moved
    exact ⟨_, step⟩

/-- One client has begun a transaction, and another has come. -/
theorem sample_service : ∃ s, Steps sampleServer .empty s ∧ s.Holds 0 wishTx ∧
    s.store.IsOpen wishTx ∧ s.members 1 = some sampleMember := by
  have joined : Step sampleServer .empty (empty.put 0 sampleMember .empty) := .join _ _ _ rfl
  obtain ⟨metrics, received⟩ := wish_received
  obtain ⟨calls, first⟩ := step_here empty 0 [] rfl received
  obtain ⟨outbox, metrics, version, opened⟩ := wish_opened metrics
  obtain ⟨calls, second⟩ := step_here empty 0 calls rfl opened
  obtain ⟨outbox, metrics, begun⟩ := wish_begun outbox metrics version
  obtain ⟨calls, third⟩ := step_here empty 0 calls rfl begun
  have other (m : Member) : Step sampleServer (empty.put 0 m wishStore)
      ((empty.put 0 m wishStore).put 1 sampleMember wishStore) := .join _ _ _ rfl
  have steps := ((Relation.ReflTransGen.single joined).tail first).tail second
  exact ⟨_, (steps.tail third).tail (other _), ⟨_, rfl, rfl, rfl⟩, rfl, rfl⟩

/-! ## Ownership -/

end Service

end Literal

end GraphProtocol
