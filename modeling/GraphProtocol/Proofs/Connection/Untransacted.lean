import GraphProtocol.Proofs.Connection.Opening
import GraphProtocol.Proofs.Connection.Records

/-!
# Connections of the first versions

The first two versions know no transactions. Their connections hold none, whatever
bytes arrive and whatever the engine does. The only calls they make are statements
outside of transactions, with default options, and no success that they send has a
bookmark. All of this is kept by every piece of work, whether or not it fails.
-/

set_option autoImplicit false

namespace GraphProtocol

variable {σ π : Type}

/-! ## What the first versions know -/

section

variable {version : Version} (early : version ≠ .v3)
include early

theorem early_greets : version.usesHello = false := by
  cases version <;> first | rfl | exact absurd rfl early

theorem early_transitions : Transition.ofVersion version = Transition.base := by
  cases version <;> first | rfl | exact absurd rfl early

/-- Nothing that is accepted begins a transaction, ends one or leads into one. -/
theorem accept_early {s next : ConnectionState} {k : RequestKind} {action : Action}
    (accepted : Decision.of version s k = .accept action next) :
    next.inTransaction = false ∧ action ≠ .begin ∧ action ≠ .commit ∧ action ≠ .rollback := by
  rcases accept_listed accepted with ⟨-, -, rfl, rfl⟩ | ⟨-, -, rfl, rfl⟩ | listed
  · decide
  · decide
  · rw [early_transitions early] at listed
    simp only [Transition.base, List.mem_cons, Transition.mk.injEq, List.not_mem_nil,
      or_false] at listed
    rcases listed with ⟨-, -, rfl, rfl⟩ | ⟨-, -, rfl, rfl⟩ | ⟨-, -, rfl, rfl⟩ <;> decide

/-- A statement has no options of its own. -/
theorem decode_default {message : List UInt8} {reply : ReplyStrategy} {statement : String}
    {parameters : Dict Value} {metadata : TxMetadata}
    (given : Request.decode version message = .ok (.run statement parameters metadata, reply)) :
    metadata = .default := by
  obtain ⟨layout, listed, values, made, -⟩ := Request.decode_made given
  have kind : layout.kind = .run := (fields_kind made).symm
  have two : layout.fields = 2 := by
    rw [layout_arity listed, kind]
    simp [RequestKind.arity, early_greets early]
  unfold Request.ofFields at made
  simp only [kind, two] at made
  obtain ⟨text, -, made⟩ := except_bind_ok made
  obtain ⟨d, -, made⟩ := except_bind_ok made
  cases made
  rfl

/-- The bookmark is taken out of the engine's summary. -/
theorem summary_unmarked (h : Handler) (now : Instant) {metadata : Dict Value}
    (distinct : metadata.DistinctKeys) :
    (Act.summary version h now metadata).get? bookmarkKey = none := by
  have other : ¬version.consumedKey = bookmarkKey := by cases version <;> decide
  have type : ¬("type" = bookmarkKey) := by decide
  have gone := Dict.get?_erase distinct bookmarkKey
  unfold Act.summary
  simp only [early_greets early, Bool.false_eq_true, if_false]
  split
  · rfl
  · rw [Dict.get?_insert, if_neg other]
    split
    · exact gone
    · rw [Dict.get?_insert, if_neg type, gone]

end

theorem welcome_unmarked (ctx : Context σ π) (s : Session π) :
    (Act.welcome ctx s).get? bookmarkKey = none := by
  have server : ¬("server" = bookmarkKey) := by decide
  have id : ¬("connection_id" = bookmarkKey) := by decide
  unfold Act.welcome
  split <;> simp [Dict.get?_insert, server, id]

/-- In the first versions the welcome does not tell how the connection is called. -/
theorem welcome_nameless (ctx : Context σ π) {s : Session π} (early : s.version ≠ .v3) :
    (Act.welcome ctx s).get? "connection_id" = none := by
  have server : ¬("server" = "connection_id") := by decide
  unfold Act.welcome
  simp [early_greets early, Dict.get?_insert, server]

theorem columns_unmarked (version : Version) (fields available : Value) :
    ((Dict.empty.insert "fields" fields).insert version.availableKey available).get? bookmarkKey =
      none := by
  have other : ¬version.availableKey = bookmarkKey := by cases version <;> decide
  have columns : ¬("fields" = bookmarkKey) := by decide
  simp [Dict.get?_insert, other, columns]

/-! ## Engines whose summaries are dictionaries -/

def StreamEvent.HasDistinctKeys : StreamEvent → Prop
  | .done summary => summary.DistinctKeys
  | .record _ | .failed _ => True

/-- An engine whose summaries have distinct keys. -/
def QueryEngine.GivesDistinct (engine : QueryEngine σ π) : Prop :=
  ∀ {now : Instant} {cancelled : Bool} {producer rest : π} {event : StreamEvent},
    engine.produce now cancelled producer = .event event rest → event.HasDistinctKeys

namespace Literal.Production

variable {p rest : Production} {event : StreamEvent} {now : Instant} {cancelled : Bool}

theorem summary_distinct (p : Production) : p.summary.DistinctKeys := by
  unfold summary
  cases p.bookmark with
  | none => exact List.nodup_nil
  | some b => exact List.nodup_singleton bookmarkKey

theorem fromRows_distinct {rows : Rows}
    (given : p.fromRows rows now cancelled = .event event rest) :
    event.HasDistinctKeys := by
  unfold fromRows at given
  split at given
  · split at given <;> cases given
    exact p.summary_distinct
  split at given
  · cases given
    trivial
  split at given
  · cases given
  split at given <;> cases given <;> trivial

theorem next_distinct (given : p.next now cancelled = .event event rest) :
    event.HasDistinctKeys := by
  unfold next at given
  split at given
  · cases given
  · exact fromRows_distinct given
  · split at given
    · exact fromRows_distinct given
    · cases given
      trivial

end Literal.Production

theorem Literal.engine_distinct : Literal.engine.GivesDistinct :=
  fun given => Production.next_distinct given

/-! ## What is kept -/

def Inbound.HasDefaults : Inbound → Prop
  | .request (.run _ _ metadata) _ => metadata = .default
  | _ => True

def Outbox.Unmarked (o : Outbox) : Prop :=
  ∀ metadata, .success metadata ∈ o.accepted → metadata.get? bookmarkKey = none

def Response.Unmarked (r : Response) : Prop :=
  ∀ metadata, r = .success metadata → metadata.get? bookmarkKey = none

structure Untransacted (session : Session π) (inbox : List Inbound) (pulling : Option Pulling)
    (outbox : Outbox) : Prop where
  early : session.version ≠ .v3
  outside : session.state.inTransaction = false
  free : session.tx = none
  result : ∀ r, session.result = some r → ∀ event ∈ r.ready, event.HasDistinctKeys
  inbox : ∀ m ∈ inbox, m.HasDefaults
  pulling : ∀ p, pulling = some p → p.next.inTransaction = false
  outbox : outbox.Unmarked

abbrev Actor.IsUntransacted (a : Actor σ π) : Prop :=
  Untransacted a.session a.inbox a.pulling a.outbox

theorem queue_unmarked {o out : Outbox} {r : Response} (before : o.Unmarked) (plain : r.Unmarked)
    (room : o.queue r = .ok out) : out.Unmarked := by
  intro metadata among
  rw [(queue_accepted room).1] at among
  rcases List.mem_cons.mp among with new | old
  · exact plain metadata new.symm
  · exact before metadata old

theorem interrupt_outside {s : Session π} (outside : s.state.inTransaction = false) :
    s.interrupt.state.inTransaction = false := by
  unfold Session.interrupt
  dsimp only
  split
  · exact outside
  · rfl

namespace Act

variable {α β : Type}

def Keeps (I : Actor σ π → Prop) (x : Act σ π α) : Prop := ∀ a, I a → I (after (x a))

variable {I : Actor σ π → Prop}

theorem keeps_bind {x : Act σ π α} {f : α → Act σ π β} (first : Keeps I x)
    (further : ∀ u, Keeps I (f u)) : Keeps I (x >>= f) := by
  intro a before
  show I (after (EStateM.bind x f a))
  unfold EStateM.bind
  have kept := first a before
  cases came : x a with
  | error e b => rw [came] at kept; exact kept
  | ok u b => rw [came] at kept; exact further u b kept

theorem keeps_get {f : Actor σ π → Act σ π β} (further : ∀ c, I c → Keeps I (f c)) :
    Keeps I (get >>= f) := fun a before => further a before a before

theorem keeps_pure (v : α) : Keeps I (pure v : Act σ π α) := fun _ before => before

theorem keeps_throw (e : Abort ServerError) : Keeps I (throw e : Act σ π α) :=
  fun _ before => before

theorem keeps_modify {g : Actor σ π → Actor σ π} (kept : ∀ a, I a → I (g a)) :
    Keeps I (modify g) := kept

/-! ## Answers -/

variable {h : Handler} {ctx : Context σ π}

/-- What every answer keeps is also kept if there is none. -/
theorem keeps_answered {r : Response} (kept : ∀ a b, I a → a.Answered h r b → I b) :
    Keeps I (respond h r : Act σ π Unit) := by
  intro a before
  have goes := respond_after h r a
  generalize after (respond h r a) = b at goes ⊢
  rcases goes with rfl | answered
  · exact before
  · exact kept a b before answered

/-- What a turn keeps is also kept if the client cannot hear of it. -/
theorem keeps_unheard {fault : TransportFault} {text : String} (turn : Keeps I (processNext ctx)) :
    Keeps I (Actor.occur ctx (.unheard fault text)) := by
  intro a before
  have kept := turn a before
  dsimp only [Actor.occur]
  cases came : processNext ctx a <;> rw [came] at kept <;> exact kept

theorem keeps_respond {r : Response} (plain : r.Unmarked) :
    Keeps Actor.IsUntransacted (respond h r : Act σ π Unit) :=
  keeps_answered fun a b before answered => by
    cases answered with
    | dropped => exact before
    | sent room => exact { before with outbox := queue_unmarked before.outbox plain room }

theorem ignored_unmarked : Response.ignored.Unmarked := by rintro _ ⟨⟩

theorem failure_unmarked (f : Failure) : (Response.failure f).Unmarked := by rintro _ ⟨⟩

theorem success_unmarked {metadata : Dict Value} (unmarked : metadata.get? bookmarkKey = none) :
    (Response.success metadata).Unmarked := by
  rintro _ ⟨⟩
  exact unmarked

theorem keeps_ignore : Keeps Actor.IsUntransacted (ignore h : Act σ π Unit) :=
  keeps_respond ignored_unmarked

theorem keeps_queue {r : Response} (plain : r.Unmarked) :
    Keeps Actor.IsUntransacted (queue r : Act σ π Unit) := by
  intro a before
  unfold queue
  cases room : a.outbox.queue r with
  | ok outbox => exact { before with outbox := queue_unmarked before.outbox plain room }
  | error e => exact before

theorem keeps_flush : Keeps Actor.IsUntransacted (flush : Act σ π Unit) :=
  keeps_modify fun _ before => { before with outbox := before.outbox }

theorem keeps_call (f : Instant → σ → α × σ) :
    Keeps Actor.IsUntransacted (call f : Act σ π α) := fun _ before => before

theorem keeps_metrics (f : Metrics → Metrics) :
    Keeps Actor.IsUntransacted (modifyMetrics f : Act σ π Unit) :=
  keeps_modify fun _ before => before

theorem keeps_state {state : ConnectionState} (outside : state.inTransaction = false) :
    Keeps Actor.IsUntransacted (setState state : Act σ π Unit) :=
  keeps_modify fun _ before => { before with outside }

theorem keeps_session {f : Session π → Session π}
    (same : ∀ s, (f s).version = s.version ∧ (f s).state = s.state ∧ (f s).tx = s.tx ∧
      (f s).result = s.result) : Keeps Actor.IsUntransacted (modifySession f : Act σ π Unit) := by
  intro a before
  obtain ⟨version, state, tx, result⟩ := same a.session
  have early : (f a.session).version ≠ .v3 := version ▸ before.early
  have outside : (f a.session).state.inTransaction = false := state ▸ before.outside
  exact { before with
    early, outside, free := tx.trans before.free, result := result ▸ before.result }

theorem keeps_cancel :
    Keeps Actor.IsUntransacted (modifySession (·.cancelExecution) : Act σ π Unit) :=
  keeps_session fun _ => ⟨rfl, rfl, rfl, rfl⟩

theorem keeps_fail (f : Failure) : Keeps Actor.IsUntransacted (fail h f : Act σ π Unit) := by
  apply keeps_bind keeps_cancel
  intro _
  apply keeps_bind (keeps_state rfl)
  intro _
  exact keeps_respond (failure_unmarked f)

/-! ## Requests -/

theorem keeps_authenticate (request : Request) :
    Keeps Actor.IsUntransacted (authenticate ctx request h) := by
  unfold authenticate
  split
  · refine keeps_bind (keeps_session ?_) fun _ => ?_
    · exact fun _ => ⟨rfl, rfl, rfl, rfl⟩
    apply keeps_get
    intro c _
    have outside : (if 0 < c.session.interrupts then ConnectionState.interrupted
        else .ready).inTransaction = false := by split <;> rfl
    apply keeps_bind (keeps_state outside)
    intro _
    apply keeps_get
    intro d _
    exact keeps_respond (success_unmarked (welcome_unmarked ctx d.session))
  · apply keeps_bind (keeps_respond (failure_unmarked _))
    intro _
    exact keeps_bind keeps_flush fun _ => keeps_throw _

theorem keeps_run (request : Request) {next : ConnectionState}
    (outside : next.inTransaction = false) :
    Keeps Actor.IsUntransacted (Act.run ctx request next h) := by
  cases request with
  | run statement parameters metadata =>
    apply keeps_get
    intro c _
    apply keeps_bind (keeps_call _)
    intro answer
    split
    · next fields producer =>
      apply keeps_bind
      · apply keeps_modify
        intro a before
        have fresh : ∀ r, some (ResultStream.start fields c.session.cancel.token producer) =
            some r → ∀ event ∈ r.ready, event.HasDistinctKeys := by
          rintro _ ⟨⟩
          exact List.forall_mem_nil _
        exact { before with outside, result := fresh }
      · intro _
        apply keeps_get
        intro d _
        exact keeps_respond (success_unmarked (columns_unmarked _ _ _))
    · exact keeps_fail _
    · exact keeps_throw _
  | init | hello | pullAll | discardAll | reset | begin | commit | rollback | goodbye =>
    exact keeps_throw _

theorem keeps_pull {next : ConnectionState} (outside : next.inTransaction = false) :
    Keeps Actor.IsUntransacted (pull next h : Act σ π Unit) := by
  apply keeps_get
  intro c _
  split
  · apply keeps_modify
    intro a before
    refine { before with pulling := ?_ }
    rintro _ ⟨⟩
    exact outside
  · exact keeps_fail _

/-- The work behind what a connection without transactions accepts. -/
theorem keeps_perform {action : Action} (request : Request) {next : ConnectionState}
    (outside : next.inTransaction = false) (begins : action ≠ .begin) (commits : action ≠ .commit)
    (rolls : action ≠ .rollback) :
    Keeps Actor.IsUntransacted (perform ctx action request next h) := by
  cases action with
  | authenticate => exact keeps_authenticate request
  | run => exact keeps_run request outside
  | pull => exact keeps_pull outside
  | discard => exact keeps_pull outside
  | begin => exact absurd rfl begins
  | commit => exact absurd rfl commits
  | rollback => exact absurd rfl rolls
  | reset => exact keeps_throw _

theorem keeps_finishReset : Keeps Actor.IsUntransacted (finishReset ctx h) := by
  intro a before
  rw [finishReset_eq]
  have cleared : (a.cleared ctx).IsUntransacted := { before with outside := rfl, free := rfl }
  exact keeps_respond (success_unmarked rfl) _ cleared

theorem keeps_dropResult : Keeps Actor.IsUntransacted (dropResult : Act σ π Unit) :=
  keeps_modify fun _ before => { before with result := by rintro _ ⟨⟩ }

theorem keeps_reset : Keeps Actor.IsUntransacted (reset ctx h) := by
  refine keeps_bind (keeps_session ?_) fun _ => ?_
  · exact fun _ => ⟨rfl, rfl, rfl, rfl⟩
  apply keeps_get
  intro c _
  split
  · exact keeps_ignore
  apply keeps_bind keeps_cancel
  intro _
  apply keeps_get
  intro d _
  split
  · exact keeps_finishReset
  · exact keeps_bind keeps_dropResult fun _ => keeps_modify fun _ before => before

theorem keeps_finishCleanup : Keeps Actor.IsUntransacted (finishCleanup ctx) := by
  apply keeps_get
  intro c _
  split
  · exact keeps_pure ()
  · exact keeps_bind (keeps_modify fun _ before => before) fun _ => keeps_finishReset

theorem keeps_unknown (signature : UInt8) :
    Keeps Actor.IsUntransacted (processUnknown signature : Act σ π Unit) := by
  apply keeps_get
  intro c _
  split
  · exact keeps_bind (keeps_throw _) fun _ =>
      keeps_bind (keeps_queue ignored_unmarked) fun _ => keeps_metrics _
  · exact keeps_bind (keeps_queue ignored_unmarked) fun _ => keeps_metrics _

theorem keeps_invalid (fault : RequestFault) :
    Keeps Actor.IsUntransacted (processInvalid h fault : Act σ π Unit) := by
  apply keeps_get
  intro c _
  dsimp only
  split
  · apply keeps_bind (keeps_respond (failure_unmarked _))
    intro _
    exact keeps_bind keeps_flush fun _ => keeps_throw _
  · split
    · exact keeps_ignore
    · exact keeps_fail _

theorem keeps_goodbye : Keeps Actor.IsUntransacted (goodbye : Act σ π Unit) := by
  apply keeps_bind keeps_cancel
  intro _
  apply keeps_modify
  intro a before
  exact { before with inbox := List.forall_mem_nil _, pulling := by rintro _ ⟨⟩ }

theorem keeps_request (request : Request) :
    Keeps Actor.IsUntransacted (processRequest ctx request h) := by
  apply keeps_get
  intro c before
  dsimp only
  split
  · exact keeps_bind keeps_ignore fun _ => keeps_pure _
  cases decided : Decision.of c.session.version c.session.state h.kind with
  | close => exact keeps_bind keeps_goodbye fun _ => keeps_pure _
  | fatal => exact keeps_throw _
  | ignore => exact keeps_bind keeps_ignore fun _ => keeps_pure _
  | accept action next =>
    obtain ⟨outside, begins, commits, rolls⟩ := accept_early before.early decided
    cases action with
    | reset => exact keeps_bind keeps_reset fun _ => keeps_pure _
    | authenticate | run | pull | discard | begin | commit | rollback =>
      exact keeps_bind (keeps_perform request outside begins commits rolls) fun _ => keeps_pure _

theorem keeps_process (m : Inbound) : Keeps Actor.IsUntransacted (process ctx m) := by
  cases m with
  | request request h => exact keeps_request request
  | unknown signature => exact keeps_bind (keeps_unknown signature) fun _ => keeps_pure _
  | invalid h fault => exact keeps_bind (keeps_invalid fault) fun _ => keeps_pure _

theorem keeps_processNext : Keeps Actor.IsUntransacted (processNext ctx) := by
  apply keeps_get
  intro c before
  split
  · exact keeps_pure _
  · next m rest full =>
    have further : ∀ m ∈ rest, m.HasDefaults := by
      intro m' among
      exact before.inbox m' (full ▸ List.mem_cons_of_mem _ among)
    exact keeps_bind (keeps_modify fun _ before => { before with inbox := further }) fun _ =>
      keeps_process m

/-! ## Results -/

theorem keeps_takeEvent {f : Option StreamEvent → Act σ π β}
    (further : ∀ event, (∀ e, event = some e → e.HasDistinctKeys) →
      Keeps Actor.IsUntransacted (f event)) : Keeps Actor.IsUntransacted (takeEvent >>= f) := by
  intro a before
  by_cases waiting : ∃ r event ready, a.session.result = some r ∧ r.ready = event :: ready
  · obtain ⟨r, event, ready, held, waits⟩ := waiting
    rw [bind_of_ok (takeEvent_some held waits)]
    obtain ⟨first, rest⟩ := List.forall_mem_cons.mp (waits ▸ before.result r held)
    apply further
    · rintro _ ⟨⟩
      exact first
    · refine { before with result := ?_ }
      rintro _ ⟨⟩
      exact rest
  · have dry : ∀ r, a.session.result = some r → r.ready = [] := by
      intro r held
      cases waits : r.ready with
      | nil => rfl
      | cons event ready => exact absurd ⟨r, event, ready, held, waits⟩ waiting
    rw [bind_of_ok (takeEvent_none dry)]
    exact further none (by rintro _ ⟨⟩) a before

theorem keeps_halt :
    Keeps Actor.IsUntransacted (modify fun a => { a with pulling := none } : Act σ π Unit) := by
  intro a before
  exact { before with pulling := by rintro _ ⟨⟩ }

theorem record_unmarked {handler : Handler} {out out' : Outbox} {fields : List Value}
    {delivery : Delivery} (before : out.Unmarked)
    (recorded : h.record out fields = (handler, .ok (delivery, out'))) : out'.Unmarked := by
  rcases Actor.record_outbox recorded with rfl | room
  · exact before
  · exact queue_unmarked before (by rintro _ ⟨⟩) room

theorem keeps_handleEvent {event : Option StreamEvent}
    (distinct : ∀ e, event = some e → e.HasDistinctKeys) :
    Keeps Actor.IsUntransacted (handleEvent event : Act σ π Bool) := by
  apply keeps_get
  intro c before
  split
  · exact keeps_pure _
  next p held =>
  have outside := before.pulling p held
  apply keeps_bind keeps_halt
  intro _
  split
  · next fields =>
    apply keeps_get
    intro d kept
    cases recorded : p.handler.record d.outbox fields with | mk handler outcome =>
    cases outcome with
    | ok given =>
      obtain ⟨delivery, outbox⟩ := given
      have unmarked := record_unmarked kept.outbox recorded
      have resumed : ∀ q, some ({ p with handler } : Pulling) = some q →
          q.next.inTransaction = false := by
        rintro _ ⟨⟩
        exact outside
      apply keeps_bind
      · apply keeps_modify
        intro a before
        exact { before with pulling := resumed, outbox := unmarked }
      · exact fun _ => keeps_pure _
    | error abort =>
      cases abort with
      | breakdown => exact keeps_throw _
      | error e =>
        dsimp only
        split
        · exact keeps_bind (keeps_throw _) fun _ =>
            keeps_bind (keeps_fail _) fun _ => keeps_pure _
        · exact keeps_bind (keeps_fail _) fun _ => keeps_pure _
  · next metadata =>
    apply keeps_bind keeps_dropResult
    intro _
    apply keeps_get
    intro d kept
    apply keeps_bind (keeps_state outside)
    intro _
    have unmarked := summary_unmarked kept.early p.handler d.now (distinct _ rfl)
    exact keeps_bind (keeps_respond (success_unmarked unmarked)) fun _ => keeps_pure _
  · apply keeps_bind keeps_dropResult
    intro _
    exact keeps_bind (keeps_fail _) fun _ => keeps_pure _
  · apply keeps_bind keeps_dropResult
    intro _
    exact keeps_bind (keeps_fail _) fun _ => keeps_pure _

theorem keeps_endBatch : Keeps Actor.IsUntransacted (endBatch : Act σ π Unit) :=
  keeps_bind (keeps_modify fun _ before => before) fun _ => keeps_flush

theorem keeps_handleInBatch {event : Option StreamEvent} (left : Nat)
    (distinct : ∀ e, event = some e → e.HasDistinctKeys) :
    Keeps Actor.IsUntransacted (handleInBatch left event : Act σ π Unit) := by
  apply keeps_bind (keeps_handleEvent distinct)
  intro goesOn
  apply keeps_get
  intro c _
  split
  · exact keeps_endBatch
  · exact keeps_modify fun _ before => before

theorem keeps_pump : Keeps Actor.IsUntransacted (pump : Act σ π Unit) := by
  apply keeps_get
  intro c _
  apply keeps_takeEvent
  intro event distinct
  split
  · exact keeps_handleInBatch _ distinct
  · exact keeps_endBatch
  · exact keeps_endBatch
  · exact keeps_handleInBatch _ distinct

/-! ## Messages -/

theorem keeps_interrupt : Keeps Actor.IsUntransacted (interrupt : Act σ π Unit) := by
  apply keeps_bind
  · apply keeps_modify
    intro a before
    have early : a.session.interrupt.version ≠ .v3 :=
      (Actor.interrupt_version a.session).symm ▸ before.early
    have free : a.session.interrupt.tx = none :=
      (Session.interrupt_tx a.session).trans before.free
    have result := (Actor.interrupt_result a.session).symm ▸ before.result
    exact { before with early, outside := interrupt_outside before.outside, free, result }
  · intro _
    apply keeps_get
    intro c _
    split
    · exact keeps_pure ()
    · exact keeps_bind keeps_halt fun _ => keeps_ignore

theorem keeps_enqueue {m : Inbound} (defaults : m.HasDefaults) :
    Keeps Actor.IsUntransacted (enqueue m : Act σ π Unit) := by
  apply keeps_modify
  intro a before
  refine { before with inbox := ?_ }
  intro m' among
  rcases List.mem_append.mp among with old | new
  · exact before.inbox m' old
  · exact List.mem_singleton.mp new ▸ defaults

theorem keeps_receiveMessage (message : List UInt8) :
    Keeps Actor.IsUntransacted (receiveMessage message : Act σ π Flow) := by
  apply keeps_get
  intro c _
  refine keeps_bind (keeps_session ?_) fun _ => ?_
  · exact fun _ => ⟨rfl, rfl, rfl, rfl⟩
  apply keeps_get
  intro d kept
  split
  · next request reply decoded =>
    apply keeps_bind (keeps_metrics _)
    intro _
    split
    · exact keeps_bind keeps_goodbye fun _ => keeps_pure _
    have defaults : (Inbound.request request (.fresh request.kind reply c.now)).HasDefaults := by
      cases request with
      | run => exact decode_default kept.early decoded
      | _ => trivial
    split
    · exact keeps_bind keeps_interrupt fun _ =>
        keeps_bind (keeps_enqueue defaults) fun _ => keeps_pure _
    · exact keeps_bind (keeps_enqueue defaults) fun _ => keeps_pure _
  · exact keeps_bind (keeps_metrics _) fun _ =>
      keeps_bind (keeps_enqueue trivial) fun _ => keeps_pure _
  · exact keeps_bind (keeps_metrics _) fun _ =>
      keeps_bind (keeps_enqueue trivial) fun _ => keeps_pure _
  · exact keeps_throw _

theorem keeps_receiveMessages (messages : List (List UInt8)) :
    Keeps Actor.IsUntransacted (receiveMessages messages : Act σ π Flow) := by
  induction messages with
  | nil => exact keeps_pure _
  | cons message rest ih =>
    apply keeps_bind (keeps_receiveMessage message)
    intro flow
    cases flow with
    | close => exact keeps_pure _
    | proceed => exact ih

theorem keeps_receive (bytes : List UInt8) :
    Keeps Actor.IsUntransacted (receive bytes : Act σ π Flow) := by
  apply keeps_get
  intro c _
  refine keeps_bind (keeps_session ?_) fun _ => ?_
  · exact fun _ => ⟨rfl, rfl, rfl, rfl⟩
  apply keeps_get
  intro d _
  refine keeps_bind (keeps_modify ?_) fun _ => ?_
  · exact fun _ before => before
  apply keeps_bind (keeps_receiveMessages _)
  intro flow
  cases flow with
  | close => exact keeps_pure _
  | proceed =>
    dsimp only
    split
    · exact keeps_throw _
    · exact keeps_pure _

end Act

namespace Actor

variable {ctx : Context σ π} {a b : Actor σ π}

/-! ## Runs -/

/-- Whatever happens to a connection without transactions, it stays one. -/
theorem occur_untransacted (distinct : ctx.engine.GivesDistinct) (o : Occurrence) :
    Act.Keeps Actor.IsUntransacted (occur ctx o) := by
  cases o with
  | received bytes => exact Act.keeps_receive bytes
  | turn => exact Act.keeps_processNext
  | produced count =>
    apply Act.keeps_get
    intro c _
    apply Act.keeps_bind
    · apply Act.keeps_modify
      intro a before
      refine { before with result := ?_ }
      intro r filled
      obtain ⟨q, held, rfl⟩ := Option.map_eq_some_iff.mp filled
      have gives {now : Instant} {cancelled : Bool} {producer rest : π} {event : StreamEvent}
          (given : ctx.engine.produce now cancelled producer = .event event rest)
          (_ : True) : True ∧ event.HasDistinctKeys := ⟨trivial, distinct given⟩
      exact (fill_all gives (before.result q held) fun _ _ => trivial).1
    · exact fun _ => Act.keeps_pure _
  | pumped => exact Act.keeps_bind Act.keeps_pump fun _ => Act.keeps_pure _
  | cleaned => exact Act.keeps_bind Act.keeps_finishCleanup fun _ => Act.keeps_pure _
  | unheard fault text => exact Act.keeps_unheard Act.keeps_processNext
  | endOfInput | idled => exact Act.keeps_pure _
  | cleanupExpired | untimed | shutDown | broken => exact Act.keeps_throw _

/-- Whether or not the connection goes on, a step leaves it without transactions. -/
theorem step_untransacted (distinct : ctx.engine.GivesDistinct) {o : Occurrence}
    (before : a.IsUntransacted) : (a.step ctx o).2.IsUntransacted := by
  have kept := occur_untransacted distinct o a before
  have released {c : Actor σ π} (kept : c.IsUntransacted) : (c.released ctx).IsUntransacted :=
    { kept with free := rfl, result := by rintro _ ⟨⟩, pulling := by rintro _ ⟨⟩ }
  unfold step
  cases came : occur ctx o a with
  | error abort c =>
    rw [came] at kept
    cases abort with
    | breakdown => exact kept
    | error e =>
      simp only [conclude_eq]
      exact released kept
  | ok flow c =>
    rw [came] at kept
    cases flow with
    | proceed =>
      by_cases waits : c.isWaiting = true
      · simp only [waits, if_true]
        exact { kept with outbox := kept.outbox }
      · simp only [waits]
        exact kept
    | close =>
      simp only [conclude_eq]
      exact released { kept with outbox := kept.outbox }

theorem run_untransacted (distinct : ctx.engine.GivesDistinct) {moves : List (Move σ)}
    (before : a.IsUntransacted) (run : a.run? ctx moves = some b) : b.IsUntransacted := by
  induction moves generalizing a with
  | nil => cases run; exact before
  | cons move moves ih =>
    obtain ⟨c, moved, rest⟩ := Option.bind_eq_some_iff.mp run
    refine ih ?_ rest
    cases move with
    | elsewhere engine metrics now => cases moved; exact before
    | here o =>
      have after : (a.step ctx o).2.IsUntransacted := step_untransacted distinct before
      rw [(moved_step moved).2] at after
      exact after

theorem fresh_untransacted {pipeline : Pipeline} (early : pipeline.version ≠ .v3) (id : String)
    (engine : σ) (metrics : Metrics) (now : Instant) :
    (fresh (π := π) pipeline id engine metrics now).IsUntransacted where
  early := early
  outside := rfl
  free := rfl
  result := by rintro _ ⟨⟩
  inbox := List.forall_mem_nil _
  pulling := by rintro _ ⟨⟩
  outbox := by rintro _ ⟨⟩

/-! ## What is asked -/

theorem givingUp_free (free : a.session.tx = none) : a.givingUp = [] := by
  unfold givingUp
  rw [free]
  rfl

end Actor

def EngineCall.IsPlain : EngineCall → Prop
  | .execute query tx _ => query.metadata = .default ∧ tx = none
  | .begin _ _ | .commit _ | .rollback _ => False

namespace Actor

variable {ctx : Context σ π} {a b : Actor σ π} {o : Occurrence}

theorem performs_plain {action : Action} {request : Request} {next : ConnectionState} {h : Handler}
    (before : a.IsUntransacted) (performs : a.Performs action request next h) :
    ∀ call ∈ action.calls ctx a request, call.IsPlain := by
  obtain ⟨-, begins, commits, rolls⟩ := accept_early before.early performs.accepted
  have defaults := before.inbox _ (List.mem_of_mem_head? performs.first)
  cases action with
  | authenticate | pull | discard | reset => exact List.forall_mem_nil _
  | run =>
    cases request with
    | run statement parameters metadata =>
      have outside : Act.currentTx a.session = none := by
        unfold Act.currentTx
        rw [before.outside]
        rfl
      exact List.forall_mem_singleton.mpr ⟨defaults, outside⟩
    | init | hello | pullAll | discardAll | reset | begin | commit | rollback | goodbye =>
      exact List.forall_mem_nil _
  | begin => exact absurd rfl begins
  | commit => exact absurd rfl commits
  | rollback => exact absurd rfl rolls

theorem asked_plain (before : a.IsUntransacted) (can : a.allows ctx o = true) :
    ∀ call ∈ a.asked ctx o, call.IsPlain := by
  have nothing := givingUp_free before.free
  cases o with
  | turn =>
    rcases turn_work ctx can with ⟨action, request, next, h, performs, asked⟩ |
      ⟨-, -, -, -, -, -, asked⟩ | asked <;> rw [asked]
    · exact performs_plain before performs
    · unfold resetting
      rw [nothing, ite_self]
      exact List.forall_mem_nil _
    · exact List.forall_mem_nil _
  | cleaned =>
    show ∀ call ∈ (if a.cleanup.isSome then a.givingUp else []), call.IsPlain
    rw [nothing, ite_self]
    exact List.forall_mem_nil _
  | unheard fault text =>
    rw [unheard_asked can]
    exact List.forall_mem_nil _
  | received | endOfInput | produced | pumped | cleanupExpired | idled | untimed | shutDown
  | broken => exact List.forall_mem_nil _

/-- There is nothing to give up at the end. -/
theorem calls_plain (distinct : ctx.engine.GivesDistinct) (before : a.IsUntransacted)
    (can : a.allows ctx o = true) : ∀ call ∈ a.calls ctx o, call.IsPlain := by
  have free := (occur_untransacted distinct o a before).free
  intro call asked
  rw [calls_eq, givingUp_free free, ite_self, List.append_nil] at asked
  exact asked_plain before can call asked

/-! ## Connections of the first versions -/

/-- A connection that holds no transaction and has told no bookmark. -/
structure TransactionFree (a : Actor σ π) : Prop where
  ready : a.session.state ≠ .txReady
  streaming : a.session.state ≠ .txStreaming
  free : a.session.tx = none
  unmarked : a.outbox.Unmarked

theorem untransacted_free (kept : a.IsUntransacted) : a.TransactionFree where
  ready state := by
    have outside := kept.outside
    rw [state] at outside
    cases outside
  streaming state := by
    have outside := kept.outside
    rw [state] at outside
    cases outside
  free := kept.free
  unmarked := kept.outbox

/-- Connections of the first two versions never hold a transaction and never ask the engine for
one, and neither bookmarks nor the name of the connection are told. -/
theorem run_transactionFree {pipeline : Pipeline} {id : String} {engine : σ} {metrics : Metrics}
    {now : Instant} {moves : List (Move σ)} (distinct : ctx.engine.GivesDistinct)
    (early : pipeline.version ≠ .v3)
    (run : (fresh pipeline id engine metrics now).run? ctx moves = some a) :
    a.TransactionFree ∧ ∀ o, a.allows ctx o = true →
      (a.step ctx o).2.TransactionFree ∧
      (∀ call ∈ a.calls ctx o, call.IsPlain) ∧
      (a.session.state = .connected → ∀ metadata,
        .success metadata ∈ (a.step ctx o).2.outbox.accepted →
        metadata.get? "connection_id" = none) := by
  have kept := run_untransacted distinct (fresh_untransacted early id engine metrics now) run
  refine ⟨untransacted_free kept, ?_⟩
  intro o can
  refine ⟨untransacted_free (step_untransacted distinct kept), calls_plain distinct kept can, ?_⟩
  intro opening metadata said
  obtain ⟨s, version, rfl⟩ := opening_says (run_reachable .fresh run) opening can said
  exact welcome_nameless ctx (version ▸ kept.early)

end Actor

/-! ## A sample -/

namespace Literal

def askingResult (x : Value) : ResultStream Production :=
  ⟨["y"], askingReady.cancel.token,
    [.record [x], .record [.list [x]],
      .done ⟨[(bookmarkKey, .string "graphwire:bookmark:v1:tx1")]⟩],
    some { sampleProduction x with phase := .ended }⟩

def askingMoves : List (Move Store) :=
  [.here (.received askingBytes), .here .turn, .here .turn, .here .turn, .here (.produced 3)]

theorem asking_finished (before : Outbox) (metrics : Metrics) (x : Value) :
    (askingPulling x before metrics).move? sampleServer (.here (.produced 3)) =
      some ((askingPulling x before.flush metrics).took (askingResult x)) := by
  have filled : (ResultStream.start ["y"] askingReady.cancel.token (sampleProduction x)).fill engine
      0 askingReady.cancel 3 = askingResult x := by cbv
  have done : Actor.occur sampleServer (.produced 3) (askingPulling x before metrics) =
      .ok .proceed ((askingPulling x before metrics).took (askingResult x)) := by
    rw [← filled]
    rfl
  exact Actor.move_here (o := .produced 3) rfl done

theorem asking_run : ∃ a, askingFresh.run? sampleServer askingMoves = some a ∧
    a.session.result = some (askingResult (nested 31)) := by
  obtain ⟨metrics, received⟩ := asking_received
  obtain ⟨outbox, metrics, version, opened⟩ := asking_opened metrics (nested 31)
  obtain ⟨outbox, metrics, version, ran⟩ := asking_ran outbox metrics (nested 31) version
  have pulled := asking_pulled outbox metrics (nested 31)
  have finished := asking_finished outbox.flush metrics (nested 31)
  refine ⟨(askingPulling (nested 31) outbox.flush.flush metrics).took (askingResult (nested 31)),
    ?_, rfl⟩
  simp only [askingMoves, Actor.run?, received, opened, ran, pulled, finished, Option.bind_some]

end Literal

namespace Actor

open Literal

/-- A result with a bookmark waits to be sent, and the bookmark is never told. -/
theorem sample_transactionFree : ∃ a, askingFresh.run? sampleServer askingMoves = some a ∧
    a.session.result = some (askingResult (nested 31)) ∧
    ∀ moves b, a.run? sampleServer moves = some b → b.TransactionFree := by
  obtain ⟨a, run, result⟩ := asking_run
  refine ⟨a, run, result, ?_⟩
  intro moves b further
  have whole := (run_append run).trans further
  exact (run_transactionFree engine_distinct (by decide) whole).1

end Actor

end GraphProtocol
