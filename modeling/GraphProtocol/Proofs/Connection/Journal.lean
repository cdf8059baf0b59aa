import GraphProtocol.Proofs.Connection.Moves
import GraphProtocol.Proofs.Query.Calls

/-!
# What a connection asks the engine

An engine can be given a journal of its calls. What is in the journal after a step
is what the step has asked. A connection does the same with the journal as without
it: every piece of work is run side by side on both engines. Receiving messages and
sending a result ask nothing.
-/

set_option autoImplicit false

namespace GraphProtocol

variable {σ π : Type}

abbrev Noted (σ : Type) := σ × List EngineCall

def QueryEngine.noting (engine : QueryEngine σ π) : QueryEngine (Noted σ) π where
  execute now query tx cancelled s :=
    let (answer, next) := engine.execute now query tx cancelled s.1
    (answer, next, s.2 ++ [.execute query tx cancelled])
  begin now metadata s :=
    let (answer, next) := engine.begin now metadata s.1
    (answer, next, s.2 ++ [.begin metadata answer])
  commit now tx s :=
    let (answer, next) := engine.commit now tx s.1
    (answer, next, s.2 ++ [.commit tx])
  rollback now tx s :=
    let (answer, next) := engine.rollback now tx s.1
    (answer, next, s.2 ++ [.rollback tx])
  produce := engine.produce
  stops := engine.stops
  capacity := engine.capacity

def Context.noting (ctx : Context σ π) : Context (Noted σ) π where
  engine := ctx.engine.noting
  authenticate := ctx.authenticate
  serverAgent := ctx.serverAgent
  idleTimeout := ctx.idleTimeout
  resetTimeout := ctx.resetTimeout

theorem Session.interrupt_tx (s : Session π) : s.interrupt.tx = s.tx := by
  by_cases early : s.state = .connected <;>
    simp [Session.interrupt, early, Session.cancelExecution, Session.withState]

namespace Actor

def noting (a : Actor σ π) (journal : List EngineCall) : Actor (Noted σ) π :=
  { a.toConnection with engine := (a.engine, journal), metrics := a.metrics, now := a.now }

theorem noting_connection (a : Actor σ π) (journal : List EngineCall) :
    (a.noting journal).toConnection = a.toConnection := rfl

theorem noting_now (a : Actor σ π) (journal : List EngineCall) :
    (a.noting journal).now = a.now := rfl

def calls (ctx : Context σ π) (a : Actor σ π) (o : Occurrence) : List EngineCall :=
  ((a.noting []).step ctx.noting o).2.engine.2

def givingUp (a : Actor σ π) : List EngineCall := a.session.tx.toList.map .rollback

structure Passes (a : Actor σ π) (engine : QueryEngine σ π) (calls : List EngineCall)
    (b : Actor σ π) : Prop where
  now : b.now = a.now
  held : b.session.tx = calls.foldl EngineCall.hold a.session.tx
  engine : b.engine = calls.foldl (EngineCall.effect engine a.now) a.engine

theorem Passes.trans {engine : QueryEngine σ π} {early late : List EngineCall} {a b c : Actor σ π}
    (first : a.Passes engine early b) (second : b.Passes engine late c) :
    a.Passes engine (early ++ late) c where
  now := second.now.trans first.now
  held := by rw [second.held, first.held, List.foldl_append]
  engine := by rw [second.engine, first.engine, first.now, List.foldl_append]

end Actor

namespace Act

variable {α β : Type}

def after : EStateM.Result (Abort ServerError) (Actor σ π) α → Actor σ π
  | .ok _ a => a
  | .error _ a => a

def noted (journal : List EngineCall) :
    EStateM.Result (Abort ServerError) (Actor σ π) α →
      EStateM.Result (Abort ServerError) (Actor (Noted σ) π) α
  | .ok v a => .ok v (a.noting journal)
  | .error e a => .error e (a.noting journal)

/-- From this actor, the work with the journal does what the work without it does, and asks
this. -/
structure AsksFrom (engine : QueryEngine σ π) (x' : Act (Noted σ) π α) (x : Act σ π α)
    (a : Actor σ π) (calls : List EngineCall) : Prop where
  noted : ∀ journal, x' (a.noting journal) = Act.noted (journal ++ calls) (x a)
  passes : a.Passes engine calls (after (x a))

def Asks (engine : QueryEngine σ π) (x' : Act (Noted σ) π α) (x : Act σ π α)
    (calls : Actor σ π → List EngineCall) : Prop :=
  ∀ a, AsksFrom engine x' x a (calls a)

abbrev Quiet (engine : QueryEngine σ π) (x' : Act (Noted σ) π α) (x : Act σ π α) : Prop :=
  Asks engine x' x fun _ => []

variable {engine : QueryEngine σ π} {calls : Actor σ π → List EngineCall}

theorem quiet_of {x' : Act (Noted σ) π α} {x : Act σ π α}
    (same : ∀ a journal, x' (a.noting journal) = noted journal (x a))
    (passes : ∀ a : Actor σ π, a.Passes engine [] (after (x a))) : Quiet engine x' x := by
  intro a
  constructor
  · intro journal
    rw [List.append_nil]
    exact same a journal
  · exact passes a

/-- Work that has asked something and goes on. -/
theorem asks_trans {x' y' : Act (Noted σ) π α} {x y : Act σ π α} {a : Actor σ π}
    {early late : List EngineCall} (b : Actor σ π)
    (noted : ∀ journal, x' (a.noting journal) = y' (b.noting (journal ++ early)))
    (plain : x a = y b) (passes : a.Passes engine early b)
    (further : AsksFrom engine y' y b late) : AsksFrom engine x' x a (early ++ late) := by
  constructor
  · intro journal
    rw [noted, plain, further.noted, List.append_assoc]
  · rw [plain]
    exact passes.trans further.passes

/-- Work that has asked something and goes on quietly. -/
theorem asks_from {x' y' : Act (Noted σ) π α} {x y : Act σ π α} {a : Actor σ π}
    {calls : List EngineCall} (b : Actor σ π)
    (noted : ∀ journal, x' (a.noting journal) = y' (b.noting (journal ++ calls)))
    (plain : x a = y b) (passes : a.Passes engine calls b) (further : Quiet engine y' y) :
    AsksFrom engine x' x a calls := by
  have asks := asks_trans b noted plain passes (further b)
  rw [List.append_nil] at asks
  exact asks

/-- Work that goes on after a change that asks nothing. -/
theorem asks_past {x' y' : Act (Noted σ) π α} {x y : Act σ π α} {a : Actor σ π}
    {calls : List EngineCall} (b : Actor σ π)
    (noted : ∀ journal, x' (a.noting journal) = y' (b.noting journal))
    (plain : x a = y b) (passes : a.Passes engine [] b) (further : AsksFrom engine y' y b calls) :
    AsksFrom engine x' x a calls := by
  apply asks_trans b _ plain passes further
  intro journal
  rw [List.append_nil]
  exact noted journal

/-- After work whose calls are known, work that asks nothing. -/
theorem asks_bind {x' : Act (Noted σ) π α} {x : Act σ π α} {f' : α → Act (Noted σ) π β}
    {f : α → Act σ π β} (first : Asks engine x' x calls)
    (further : ∀ u, Quiet engine (f' u) (f u)) : Asks engine (x' >>= f') (x >>= f) calls := by
  intro a
  constructor
  · intro journal
    change EStateM.bind x' f' (a.noting journal) = Act.noted _ (EStateM.bind x f a)
    unfold EStateM.bind
    rw [(first a).noted]
    cases x a with
    | error e b => rfl
    | ok u b =>
      -- The second act is quiet, so the journal of both is that of the first.
      have rest := (further u b).noted (journal ++ calls a)
      rw [List.append_nil] at rest
      exact rest
  · change a.Passes engine _ (after (EStateM.bind x f a))
    unfold EStateM.bind
    have passes := (first a).passes
    cases came : x a with
    | error e b => rw [came] at passes; exact passes
    | ok u b =>
      rw [came] at passes
      have rest := passes.trans (further u b).passes
      rw [List.append_nil] at rest
      exact rest

theorem asks_get {f' : Actor (Noted σ) π → Act (Noted σ) π β} {f : Actor σ π → Act σ π β}
    (calls : Actor σ π → Actor σ π → List EngineCall)
    (further : ∀ c journal, Asks engine (f' (c.noting journal)) (f c) (calls c)) :
    Asks engine (get >>= f') (get >>= f) fun a => calls a a := by
  intro a
  constructor
  · intro journal
    exact (further a journal a).noted journal
  · exact (further a [] a).passes

theorem quiet_get {f' : Actor (Noted σ) π → Act (Noted σ) π β} {f : Actor σ π → Act σ π β}
    (further : ∀ c journal, Quiet engine (f' (c.noting journal)) (f c)) :
    Quiet engine (get >>= f') (get >>= f) :=
  asks_get _ further

theorem quiet_pure (v : α) : Quiet engine (pure v : Act (Noted σ) π α) (pure v) :=
  quiet_of (fun _ _ => rfl) fun _ => ⟨rfl, rfl, rfl⟩

theorem quiet_throw (e : Abort ServerError) :
    Quiet engine (throw e : Act (Noted σ) π α) (throw e) :=
  quiet_of (fun _ _ => rfl) fun _ => ⟨rfl, rfl, rfl⟩

theorem quiet_modify {g' : Actor (Noted σ) π → Actor (Noted σ) π} {g : Actor σ π → Actor σ π}
    (same : ∀ a journal, g' (a.noting journal) = (g a).noting journal)
    (passes : ∀ a : Actor σ π, a.Passes engine [] (g a)) : Quiet engine (modify g') (modify g) := by
  apply quiet_of _ passes
  intro a journal
  change EStateM.Result.ok () (g' (a.noting journal)) = _
  rw [same]
  rfl

theorem quiet_session {f : Session π → Session π} (kept : ∀ s, (f s).tx = s.tx) :
    Quiet engine (modifySession f : Act (Noted σ) π Unit) (modifySession f) :=
  quiet_modify (fun _ _ => rfl) fun a => ⟨rfl, kept a.session, rfl⟩

theorem quiet_metrics (f : Metrics → Metrics) :
    Quiet engine (modifyMetrics f : Act (Noted σ) π Unit) (modifyMetrics f) :=
  quiet_modify (fun _ _ => rfl) fun _ => ⟨rfl, rfl, rfl⟩

theorem quiet_state (state : ConnectionState) :
    Quiet engine (setState state : Act (Noted σ) π Unit) (setState state) :=
  quiet_session fun _ => rfl

theorem quiet_flush : Quiet engine (flush : Act (Noted σ) π Unit) flush :=
  quiet_modify (fun _ _ => rfl) fun _ => ⟨rfl, rfl, rfl⟩

theorem quiet_queue (r : Response) : Quiet engine (queue r : Act (Noted σ) π Unit) (queue r) := by
  apply quiet_of <;> intro a
  · intro journal
    simp only [queue, Actor.noting_connection]
    cases a.outbox.queue r <;> rfl
  · unfold queue
    cases a.outbox.queue r <;> exact ⟨rfl, rfl, rfl⟩

theorem quiet_respond (h : Handler) (r : Response) :
    Quiet engine (respond h r : Act (Noted σ) π Unit) (respond h r) := by
  apply quiet_get
  intro c journal
  simp only [Actor.noting_connection]
  split
  · exact quiet_throw _
  · exact quiet_pure ()
  · exact quiet_modify (fun _ _ => rfl) fun _ => ⟨rfl, rfl, rfl⟩

theorem quiet_fail (h : Handler) (f : Failure) :
    Quiet engine (fail h f : Act (Noted σ) π Unit) (fail h f) :=
  asks_bind (quiet_session fun _ => rfl) fun _ =>
    asks_bind (quiet_state _) fun _ => quiet_respond h _

/-! ## Receiving -/

theorem quiet_interrupt : Quiet engine (interrupt : Act (Noted σ) π Unit) interrupt := by
  apply asks_bind (quiet_session Session.interrupt_tx)
  intro _
  apply quiet_get
  intro c journal
  simp only [Actor.noting_connection]
  split
  · exact quiet_pure ()
  · exact asks_bind (quiet_modify (fun _ _ => rfl) fun _ => ⟨rfl, rfl, rfl⟩) fun _ =>
      quiet_respond _ _

theorem quiet_goodbye : Quiet engine (goodbye : Act (Noted σ) π Unit) goodbye :=
  asks_bind (quiet_session fun _ => rfl) fun _ =>
    quiet_modify (fun _ _ => rfl) fun _ => ⟨rfl, rfl, rfl⟩

theorem quiet_enqueue (m : Inbound) :
    Quiet engine (enqueue m : Act (Noted σ) π Unit) (enqueue m) :=
  quiet_modify (fun _ _ => rfl) fun _ => ⟨rfl, rfl, rfl⟩

theorem quiet_receiveMessage (message : List UInt8) :
    Quiet engine (receiveMessage message : Act (Noted σ) π Flow) (receiveMessage message) := by
  apply quiet_get
  intro c journal
  dsimp only
  apply asks_bind (quiet_session (f := (·.recordRequest c.now)) fun _ => rfl)
  intro _
  apply quiet_get
  intro d journal'
  simp only [Actor.noting_connection, Actor.noting_now]
  split
  · apply asks_bind (quiet_metrics _)
    intro _
    split
    · exact asks_bind quiet_goodbye fun _ => quiet_pure _
    · split
      · exact asks_bind quiet_interrupt fun _ =>
          asks_bind (quiet_enqueue _) fun _ => quiet_pure _
      · exact asks_bind (quiet_enqueue _) fun _ => quiet_pure _
  · exact asks_bind (quiet_metrics _) fun _ =>
      asks_bind (quiet_enqueue _) fun _ => quiet_pure _
  · exact asks_bind (quiet_metrics _) fun _ =>
      asks_bind (quiet_enqueue _) fun _ => quiet_pure _
  · exact quiet_throw _

theorem quiet_receiveMessages (messages : List (List UInt8)) :
    Quiet engine (receiveMessages messages : Act (Noted σ) π Flow) (receiveMessages messages) := by
  induction messages with
  | nil => exact quiet_pure _
  | cons message rest ih =>
    apply asks_bind (quiet_receiveMessage message)
    intro flow
    cases flow with
    | close => exact quiet_pure _
    | proceed => exact ih

theorem quiet_receive (bytes : List UInt8) :
    Quiet engine (receive bytes : Act (Noted σ) π Flow) (receive bytes) := by
  apply quiet_get
  intro c journal
  dsimp only
  apply asks_bind (quiet_session (f := fun s => { s with lastActivity := c.now }) fun _ => rfl)
  intro _
  apply quiet_get
  intro d journal'
  simp only [Actor.noting_connection]
  refine asks_bind (quiet_modify (fun _ _ => rfl) fun _ => ⟨rfl, rfl, rfl⟩) fun _ => ?_
  apply asks_bind (quiet_receiveMessages _)
  intro flow
  split
  · exact quiet_pure _
  · split
    · exact quiet_throw _
    · exact quiet_pure _

/-! ## Sending a result -/

theorem quiet_dropResult : Quiet engine (dropResult : Act (Noted σ) π Unit) dropResult :=
  quiet_session fun _ => rfl

theorem quiet_takeEvent :
    Quiet engine (takeEvent : Act (Noted σ) π (Option StreamEvent)) takeEvent := by
  apply quiet_get
  intro c journal
  simp only [Actor.noting_connection]
  split
  · exact quiet_pure _
  · exact asks_bind (quiet_session fun _ => rfl) fun _ => quiet_pure _

theorem quiet_handleEvent (event : Option StreamEvent) :
    Quiet engine (handleEvent event : Act (Noted σ) π Bool) (handleEvent event) := by
  apply quiet_get
  intro c journal
  simp only [Actor.noting_connection]
  split
  · exact quiet_pure _
  next p _ =>
  refine asks_bind (quiet_modify (fun _ _ => rfl) fun _ => ⟨rfl, rfl, rfl⟩) fun _ => ?_
  split
  · apply quiet_get
    intro d journal'
    simp only [Actor.noting_connection]
    split
    · exact asks_bind (quiet_modify (fun _ _ => rfl) fun _ => ⟨rfl, rfl, rfl⟩) fun _ =>
        quiet_pure _
    · exact quiet_throw _
    · split
      · exact asks_bind (quiet_throw _) fun _ => asks_bind (quiet_fail _ _) fun _ => quiet_pure _
      · exact asks_bind (quiet_fail _ _) fun _ => quiet_pure _
  · apply asks_bind quiet_dropResult
    intro _
    apply quiet_get
    intro d journal'
    exact asks_bind (quiet_state _) fun _ => asks_bind (quiet_respond _ _) fun _ => quiet_pure _
  · exact asks_bind quiet_dropResult fun _ => asks_bind (quiet_fail _ _) fun _ => quiet_pure _
  · exact asks_bind quiet_dropResult fun _ => asks_bind (quiet_fail _ _) fun _ => quiet_pure _

theorem quiet_endBatch : Quiet engine (endBatch : Act (Noted σ) π Unit) endBatch :=
  asks_bind (quiet_modify (fun _ _ => rfl) fun _ => ⟨rfl, rfl, rfl⟩) fun _ => quiet_flush

theorem quiet_handleInBatch (left : Nat) (event : Option StreamEvent) :
    Quiet engine (handleInBatch left event : Act (Noted σ) π Unit) (handleInBatch left event) := by
  apply asks_bind (quiet_handleEvent event)
  intro goesOn
  apply quiet_get
  intro c journal
  by_cases ends : (!goesOn || c.outbox.isFull) = true
  · simp only [Actor.noting_connection, ends, if_true]
    exact quiet_endBatch
  · simp only [Actor.noting_connection, ends]
    exact quiet_modify (fun _ _ => rfl) fun _ => ⟨rfl, rfl, rfl⟩

theorem quiet_pump : Quiet engine (pump : Act (Noted σ) π Unit) pump := by
  apply quiet_get
  intro c journal
  apply asks_bind quiet_takeEvent
  intro event
  simp only [Actor.noting_connection]
  split
  · exact quiet_handleInBatch _ _
  · exact quiet_endBatch
  · exact quiet_endBatch
  · exact quiet_handleInBatch _ _

end Act

end GraphProtocol
