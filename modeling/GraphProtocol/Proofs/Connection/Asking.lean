import GraphProtocol.Proofs.Connection.Journal

/-!
# The calls of a step

The calls that the work behind each request makes, those of a turn, and those of
a whole step: what the occurrence asks and, if the connection ends, the end of the
transaction that is still held. From the calls alone it can be told which
transaction is held afterwards and what has become of the engine.
-/

set_option autoImplicit false

namespace GraphProtocol

variable {σ π : Type}

def Action.calls (ctx : Context σ π) (a : Actor σ π) (request : Request) :
    Action → List EngineCall
  | .run =>
    match request with
    | .run statement parameters metadata =>
      [.execute ⟨statement, parameters, metadata⟩ (Act.currentTx a.session) a.session.isCancelled]
    | _ => []
  | .begin =>
    match request with
    | .begin metadata => [.begin metadata (ctx.engine.begin a.now metadata a.engine).1]
    | _ => []
  | .commit => a.session.tx.toList.map .commit
  | .rollback => a.givingUp
  | .authenticate | .pull | .discard | .reset => []

namespace Act

variable {α : Type} {ctx : Context σ π} {calls : Actor σ π → List EngineCall} {h : Handler}

theorem run_failed {a : Actor σ π} {statement : String} {parameters : Dict Value}
    {metadata : TxMetadata} {next : ConnectionState} {failure : Failure} {engine : σ}
    (called : ctx.engine.execute a.now ⟨statement, parameters, metadata⟩
      (currentTx a.session) a.session.isCancelled a.engine = (.error (.error failure), engine)) :
    run ctx (.run statement parameters metadata) next h a = fail h failure { a with engine } := by
  unfold run
  simp only [get_bind, call_bind]
  rw [called]

theorem run_breaks {a : Actor σ π} {statement : String} {parameters : Dict Value}
    {metadata : TxMetadata} {next : ConnectionState} {engine : σ}
    (called : ctx.engine.execute a.now ⟨statement, parameters, metadata⟩
      (currentTx a.session) a.session.isCancelled a.engine = (.error .breakdown, engine)) :
    run ctx (.run statement parameters metadata) next h a =
      (throw .breakdown : Act σ π Unit) { a with engine } := by
  unfold run
  simp only [get_bind, call_bind]
  rw [called]

theorem quiet_misrouted {engine : QueryEngine σ π} (request : Request) (action : Action) :
    Quiet engine (misrouted request action : Act (Noted σ) π α) (misrouted request action) :=
  quiet_throw _

theorem quiet_authenticate (request : Request) :
    Quiet ctx.engine (authenticate ctx.noting request h) (authenticate ctx request h) := by
  unfold authenticate
  have same : ctx.noting.authenticate = ctx.authenticate := rfl
  rw [same]
  cases ctx.authenticate (request.authToken?.getD .empty) with
  | ok principal =>
    refine asks_bind (quiet_session fun _ => rfl) fun _ => ?_
    apply quiet_get
    intro c journal
    apply asks_bind (quiet_state _)
    intro _
    apply quiet_get
    intro d journal'
    exact quiet_respond _ _
  | error e =>
    exact asks_bind (quiet_respond _ _) fun _ => asks_bind quiet_flush fun _ => quiet_throw _

theorem quiet_pull {engine : QueryEngine σ π} (next : ConnectionState) :
    Quiet engine (pull next h : Act (Noted σ) π Unit) (pull next h) := by
  apply quiet_get
  intro c journal
  by_cases held : c.session.result.isSome = true
  · simp only [Actor.noting_connection, held, if_true]
    exact quiet_modify (fun _ _ => rfl) fun _ => ⟨rfl, rfl, rfl⟩
  · simp only [Actor.noting_connection, held]
    exact quiet_fail _ _

theorem asks_run (request : Request) (next : ConnectionState) :
    Asks ctx.engine (run ctx.noting request next h) (run ctx request next h)
      fun a => Action.run.calls ctx a request := by
  cases request with
  | run statement parameters metadata =>
    intro a
    cases called : ctx.engine.execute a.now ⟨statement, parameters, metadata⟩
      (currentTx a.session) a.session.isCancelled a.engine with | mk answer engine =>
    have effect : engine = (ctx.engine.execute a.now ⟨statement, parameters, metadata⟩
      (currentTx a.session) a.session.isCancelled a.engine).2 := by rw [called]
    have called' journal : ctx.noting.engine.execute a.now ⟨statement, parameters, metadata⟩
        (currentTx a.session) a.session.isCancelled (a.engine, journal) =
          (answer, engine,
            journal ++ Action.run.calls ctx a (.run statement parameters metadata)) := by
      simp only [Context.noting, QueryEngine.noting, called, Action.calls]
    cases answer with
    | ok given =>
      obtain ⟨fields, producer⟩ := given
      refine asks_from (a.started next fields producer engine) ?_ (run_started called)
        ⟨rfl, rfl, effect⟩ (quiet_respond _ _)
      intro journal
      exact run_started (a := a.noting journal) (called' journal)
    | error abort =>
      cases abort with
      | error failure =>
        refine asks_from { a with engine } ?_ (run_failed called) ⟨rfl, rfl, effect⟩
          (quiet_fail _ _)
        intro journal
        exact run_failed (a := a.noting journal) (called' journal)
      | breakdown =>
        refine asks_from { a with engine } ?_ (run_breaks called) ⟨rfl, rfl, effect⟩ (quiet_throw _)
        intro journal
        exact run_breaks (a := a.noting journal) (called' journal)
  | init | hello | pullAll | discardAll | reset | begin | commit | rollback | goodbye =>
    exact quiet_throw _

theorem beginTx_begun {a : Actor σ π} {metadata : TxMetadata} {next : ConnectionState} {tx : TxId}
    {engine : σ} (called : ctx.engine.begin a.now metadata a.engine = (.ok tx, engine)) :
    beginTx ctx (.begin metadata) next h a = succeed h .empty (a.tied next tx engine) := by
  unfold beginTx
  simp only [call_bind]
  rw [called]
  rfl

theorem beginTx_failed {a : Actor σ π} {metadata : TxMetadata} {next : ConnectionState}
    {failure : Failure} {engine : σ}
    (called : ctx.engine.begin a.now metadata a.engine = (.error failure, engine)) :
    beginTx ctx (.begin metadata) next h a = fail h failure { a with engine } := by
  unfold beginTx
  simp only [call_bind]
  rw [called]

theorem asks_beginTx (request : Request) (next : ConnectionState) :
    Asks ctx.engine (beginTx ctx.noting request next h) (beginTx ctx request next h)
      fun a => Action.begin.calls ctx a request := by
  cases request with
  | begin metadata =>
    intro a
    cases called : ctx.engine.begin a.now metadata a.engine with | mk answer engine =>
    have effect : engine = (ctx.engine.begin a.now metadata a.engine).2 := by rw [called]
    have asked : Action.begin.calls ctx a (.begin metadata) = [.begin metadata answer] := by
      simp only [Action.calls, called]
    have called' journal : ctx.noting.engine.begin a.now metadata (a.engine, journal) =
        (answer, engine, journal ++ [.begin metadata answer]) := by
      simp only [Context.noting, QueryEngine.noting, called]
    change AsksFrom _ _ _ _ (Action.begin.calls ctx a (.begin metadata))
    rw [asked]
    cases answer with
    | ok tx =>
      refine asks_from (a.tied next tx engine) ?_ (beginTx_begun called) ⟨rfl, rfl, effect⟩
        (quiet_respond _ _)
      intro journal
      exact beginTx_begun (a := a.noting journal) (called' journal)
    | error failure =>
      refine asks_from { a with engine } ?_ (beginTx_failed called) ⟨rfl, rfl, effect⟩
        (quiet_fail _ _)
      intro journal
      exact beginTx_failed (a := a.noting journal) (called' journal)
  | init | hello | pullAll | discardAll | reset | run | commit | rollback | goodbye =>
    exact quiet_throw _

section

variable {a : Actor σ π} {close : Instant → TxId → σ → Except Failure α × σ}
  {metadata : α → Dict Value} {next : ConnectionState} {tx : TxId} {engine : σ}

theorem endTx_free (free : a.session.tx = none) : endTx close metadata next h a =
    fail h (.ofStatus .transactionNotFound "no open transaction") a.untied := by
  unfold endTx
  rw [takeTx_bind, free]

theorem endTx_closed {answer : α} (held : a.session.tx = some tx)
    (called : close a.now tx a.engine = (.ok answer, engine)) :
    endTx close metadata next h a = succeed h (metadata answer) (a.settled next engine) := by
  have called : close a.untied.now tx a.untied.engine = (.ok answer, engine) := called
  unfold endTx
  rw [takeTx_bind, held]
  dsimp only
  rw [call_bind, called]
  rfl

theorem endTx_failed {failure : Failure} (held : a.session.tx = some tx)
    (called : close a.now tx a.engine = (.error failure, engine)) :
    endTx close metadata next h a = fail h failure { a.untied with engine } := by
  have called : close a.untied.now tx a.untied.engine = (.error failure, engine) := called
  unfold endTx
  rw [takeTx_bind, held]
  dsimp only
  rw [call_bind, called]

end

/-- Ending the held transaction asks the engine for that, if one is held. -/
theorem asks_endTx {close' : Instant → TxId → Noted σ → Except Failure α × Noted σ}
    {close : Instant → TxId → σ → Except Failure α × σ} {metadata : α → Dict Value}
    {engine : QueryEngine σ π} (note : TxId → EngineCall) (next : ConnectionState)
    (noted : ∀ now tx s journal, close' now tx (s, journal) =
      ((close now tx s).1, (close now tx s).2, journal ++ [note tx]))
    (effect : ∀ now tx s, (note tx).effect engine now s = (close now tx s).2)
    (hold : ∀ tx held, (note tx).hold held = none) :
    Asks engine (endTx close' metadata next h : Act (Noted σ) π Unit)
      (endTx close metadata next h) fun a => a.session.tx.toList.map note := by
  intro a
  cases held : a.session.tx with
  | none =>
    simp only [held, Option.toList_none, List.map_nil]
    refine asks_from a.untied ?_ (endTx_free held) ⟨rfl, held.symm, rfl⟩ (quiet_fail _ _)
    intro journal
    rw [List.append_nil]
    exact endTx_free (a := a.noting journal) held
  | some tx =>
    simp only [held, Option.toList_some, List.map_cons, List.map_nil]
    cases called : close a.now tx a.engine with | mk answer left =>
    have effect : left = (note tx).effect engine a.now a.engine := by rw [effect, called]
    have called' journal : close' a.now tx (a.engine, journal) =
        (answer, left, journal ++ [note tx]) := by rw [noted, called]
    cases answer with
    | ok answer =>
      refine asks_from (a.settled next left) ?_ (endTx_closed held called)
        ⟨rfl, (hold tx _).symm, effect⟩ (quiet_respond _ _)
      intro journal
      exact endTx_closed (a := a.noting journal) held (called' journal)
    | error failure =>
      refine asks_from { a.untied with engine := left } ?_ (endTx_failed held called)
        ⟨rfl, (hold tx _).symm, effect⟩ (quiet_fail _ _)
      intro journal
      exact endTx_failed (a := a.noting journal) held (called' journal)

theorem asks_perform (action : Action) (request : Request) (next : ConnectionState) :
    Asks ctx.engine (perform ctx.noting action request next h) (perform ctx action request next h)
      fun a => action.calls ctx a request := by
  cases action with
  | authenticate => exact quiet_authenticate request
  | run => exact asks_run request next
  | pull => exact quiet_pull next
  | discard => exact quiet_pull next
  | begin => exact asks_beginTx request next
  | commit =>
    exact asks_endTx .commit next (fun _ _ _ _ => rfl) (fun _ _ _ => rfl) fun _ _ => rfl
  | rollback =>
    exact asks_endTx .rollback next (fun _ _ _ _ => rfl) (fun _ _ _ => rfl) fun _ _ => rfl
  | reset => exact quiet_misrouted request .reset

/-! ## Resets, turns and the end -/

theorem finishReset_eq (a : Actor σ π) :
    finishReset ctx h a = succeed h .empty (a.cleared ctx) := by
  unfold finishReset
  rw [rollbackHeld_bind, modifySession_bind, setState_bind]
  rfl

end Act

namespace Actor

variable {ctx : Context σ π}

def resetting (a : Actor σ π) : List EngineCall :=
  if 0 < a.acknowledged.session.interrupts ∨ a.session.result.isSome then [] else a.givingUp

def released (ctx : Context σ π) (a : Actor σ π) : Actor σ π :=
  { a with
    engine := a.rolledBack ctx
    session := { a.session.cancelExecution with result := none, tx := none }
    pulling := none
    cleanup := none }

/-- Giving up the held transaction is asked of the engine. -/
theorem rolledBack_noting (a : Actor σ π) (journal : List EngineCall) :
    (a.noting journal).rolledBack ctx.noting = (a.rolledBack ctx, journal ++ a.givingUp) := by
  unfold rolledBack givingUp
  rw [noting_connection]
  cases a.session.tx with
  | none => simp [noting]
  | some tx => rfl

theorem cleared_noting (a : Actor σ π) (journal : List EngineCall) :
    (a.noting journal).cleared ctx.noting = (a.cleared ctx).noting (journal ++ a.givingUp) := by
  unfold cleared
  rw [rolledBack_noting]
  rfl

theorem passes_givingUp {a b : Actor σ π} (now : b.now = a.now) (held : b.session.tx = none)
    (engine : b.engine = a.rolledBack ctx) : a.Passes ctx.engine a.givingUp b := by
  unfold rolledBack at engine
  unfold givingUp
  constructor
  · exact now
  · rw [held]
    cases a.session.tx <;> rfl
  · rw [engine]
    cases a.session.tx <;> rfl

end Actor

def Inbound.calls (ctx : Context σ π) (a : Actor σ π) : Inbound → List EngineCall
  | .request r h =>
    if Act.isInterrupted a.session && h.kind != .reset then [] else
      match Decision.of a.session.version a.session.state h.kind with
      | .accept .reset _ => a.resetting
      | .accept action _ => action.calls ctx a r
      | .close | .fatal | .ignore => []
  | .unknown _ | .invalid _ _ => []

def Actor.asked (ctx : Context σ π) (a : Actor σ π) : Occurrence → List EngineCall
  | .turn | .unheard _ _ =>
    match a.inbox with
    | [] => []
    | m :: _ => m.calls ctx a
  | .cleaned => if a.cleanup.isSome then a.givingUp else []
  | .received _ | .endOfInput | .produced _ | .pumped | .cleanupExpired | .idled | .untimed
  | .shutDown | .broken _ _ => []

namespace Act

variable {ctx : Context σ π} {h : Handler}

theorem finishCleanup_calm {a : Actor σ π} (calm : a.cleanup = none) :
    finishCleanup ctx a = .ok () a := by
  unfold finishCleanup
  rw [get_bind, calm]
  rfl

theorem finishCleanup_waits {a : Actor σ π} {c : Cleanup π} (waits : a.cleanup = some c) :
    finishCleanup ctx a = finishReset ctx c.handler a.dismissed := by
  unfold finishCleanup
  rw [get_bind, waits]
  rfl

theorem asks_finishReset :
    Asks ctx.engine (finishReset ctx.noting h) (finishReset ctx h) Actor.givingUp := by
  intro a
  refine asks_from (a.cleared ctx) ?_ (finishReset_eq a) (Actor.passes_givingUp rfl rfl rfl)
    (quiet_respond _ _)
  intro journal
  rw [finishReset_eq, Actor.cleared_noting]
  rfl

theorem asks_reset : Asks ctx.engine (reset ctx.noting h) (reset ctx h) Actor.resetting := by
  intro a
  unfold Actor.resetting
  by_cases more : 0 < a.acknowledged.session.interrupts
  · rw [if_pos (.inl more)]
    refine asks_from a.acknowledged ?_ (reset_more more) ⟨rfl, rfl, rfl⟩ (quiet_respond _ _)
    intro journal
    rw [List.append_nil]
    exact reset_more (a := a.noting journal) more
  have last : a.acknowledged.session.interrupts = 0 := Nat.eq_zero_of_not_pos more
  cases held : a.session.result with
  | none =>
    rw [if_neg (by simp [more])]
    refine asks_past a.acknowledged.cancelled ?_ (reset_free last held)
      ⟨rfl, rfl, rfl⟩ (asks_finishReset _)
    intro journal
    exact reset_free (a := a.noting journal) last held
  | some r =>
    rw [if_pos (.inr rfl)]
    refine asks_from _ ?_ (reset_held last held) ⟨rfl, rfl, rfl⟩ (quiet_pure ())
    intro journal
    rw [List.append_nil]
    exact reset_held (a := a.noting journal) last held

theorem asks_finishCleanup : Asks ctx.engine (finishCleanup ctx.noting) (finishCleanup ctx)
    fun a => if a.cleanup.isSome then a.givingUp else [] := by
  intro a
  cases waits : a.cleanup with
  | none =>
    simp only [waits, Option.isSome_none, Bool.false_eq_true, if_false]
    refine asks_from a ?_ ?_ ⟨rfl, rfl, rfl⟩ (quiet_pure ())
    · intro journal
      rw [List.append_nil]
      exact finishCleanup_calm (a := a.noting journal) waits
    · exact finishCleanup_calm waits
  | some c =>
    simp only [waits, Option.isSome_some, if_true]
    refine asks_past a.dismissed ?_ (finishCleanup_waits waits) ⟨rfl, rfl, rfl⟩
      (asks_finishReset (h := c.handler) _)
    intro journal
    exact finishCleanup_waits (a := a.noting journal) waits

theorem quiet_unknown {engine : QueryEngine σ π} (signature : UInt8) :
    Quiet engine (processUnknown signature : Act (Noted σ) π Unit) (processUnknown signature) := by
  apply quiet_get
  intro c journal
  by_cases early : c.session.state = .connected
  · simp only [Actor.noting_connection, early, if_true]
    exact asks_bind (quiet_throw _) fun _ =>
      asks_bind (quiet_queue _) fun _ => quiet_metrics _
  · simp only [Actor.noting_connection, early, if_false]
    exact asks_bind (quiet_queue _) fun _ => quiet_metrics _

theorem quiet_invalid {engine : QueryEngine σ π} (fault : RequestFault) :
    Quiet engine (processInvalid h fault : Act (Noted σ) π Unit) (processInvalid h fault) := by
  apply quiet_get
  intro c journal
  simp only [Actor.noting_connection]
  by_cases early : c.session.state = .connected
  · simp only [early, if_true]
    exact asks_bind (quiet_respond _ _) fun _ => asks_bind quiet_flush fun _ => quiet_throw _
  simp only [early, if_false]
  by_cases passed : (isInterrupted c.session || c.session.state == .failed ||
    c.session.state == .interrupted) = true
  · simp only [passed, if_true]
    exact quiet_respond _ _
  · simp only [passed]
    exact quiet_fail _ _

/-- A request that is passed over is ignored. -/
theorem asks_request (request : Request) : Asks ctx.engine (processRequest ctx.noting request h)
    (processRequest ctx request h) fun a => Inbound.calls ctx a (.request request h) := by
  apply asks_get fun c a => if isInterrupted c.session && h.kind != .reset then [] else
    match Decision.of c.session.version c.session.state h.kind with
    | .accept .reset _ => a.resetting
    | .accept action _ => action.calls ctx a request
    | .close | .fatal | .ignore => []
  intro c journal
  simp only [Actor.noting_connection]
  by_cases passed : (isInterrupted c.session && h.kind != .reset) = true
  · simp only [passed, if_true]
    exact asks_bind (quiet_respond _ _) fun _ => quiet_pure _
  simp only [passed]
  cases Decision.of c.session.version c.session.state h.kind with
  | close => exact asks_bind quiet_goodbye fun _ => quiet_pure _
  | fatal => exact quiet_throw _
  | ignore => exact asks_bind (quiet_respond _ _) fun _ => quiet_pure _
  | accept action next =>
    cases action with
    | reset => exact asks_bind asks_reset fun _ => quiet_pure _
    | authenticate | run | pull | discard | begin | commit | rollback =>
      exact asks_bind (asks_perform _ request next) fun _ => quiet_pure _

theorem asks_process (m : Inbound) : Asks ctx.engine (process ctx.noting m) (process ctx m)
    (Inbound.calls ctx · m) := by
  cases m with
  | request request h => exact asks_request request
  | unknown signature => exact asks_bind (quiet_unknown signature) fun _ => quiet_pure _
  | invalid h fault => exact asks_bind (quiet_invalid fault) fun _ => quiet_pure _

theorem asks_processNext : Asks ctx.engine (processNext ctx.noting) (processNext ctx)
    (Actor.asked ctx · .turn) := by
  intro a
  cases full : a.inbox with
  | nil =>
    have asked : a.asked ctx .turn = [] := by simp only [Actor.asked, full]
    have none {τ : Type} {ctx : Context τ π} {c : Actor τ π} (empty : c.inbox = []) :
        processNext ctx c = (pure Flow.proceed : Act τ π Flow) c := by
      unfold processNext
      rw [get_bind, empty]
    change AsksFrom _ _ _ a (a.asked ctx .turn)
    rw [asked]
    refine asks_from a ?_ (none full) ⟨rfl, rfl, rfl⟩ (quiet_pure Flow.proceed)
    intro journal
    rw [List.append_nil]
    exact none (c := a.noting journal) full
  | cons m rest =>
    have asked : a.asked ctx .turn = m.calls ctx { a with inbox := rest } := by
      simp only [Actor.asked, full]
      cases m <;> rfl
    change AsksFrom _ _ _ a (a.asked ctx .turn)
    rw [asked]
    refine asks_past { a with inbox := rest } ?_ (processNext_cons full)
      ⟨rfl, rfl, rfl⟩ (asks_process m _)
    intro journal
    exact processNext_cons (a := a.noting journal) full

/-- Nothing fails at the end of a connection. -/
theorem release_eq (a : Actor σ π) : release ctx a = .ok () (a.released ctx) := by
  have left : (rollbackHeld ctx >>= pure) _ = _ :=
    rollbackHeld_bind pure { a.cancelled.emptied with pulling := none, cleanup := none }
  rw [bind_pure] at left
  exact left

end Act

namespace Actor

variable {ctx : Context σ π} {a b : Actor σ π}

theorem fill_noting (engine : QueryEngine σ π) (now : Instant) (signal : CancelSignal) (count : Nat)
    (r : ResultStream π) :
    r.fill engine.noting now signal count = r.fill engine now signal count := by
  have same (cancelled : Bool) (room : Nat) (producer : π) (events : List StreamEvent) :
      ResultStream.produceOnto engine.noting now cancelled room producer events =
        ResultStream.produceOnto engine now cancelled room producer events := by
    induction room generalizing producer events with
    | zero => rfl
    | succ room ih =>
      unfold ResultStream.produceOnto
      have same : engine.noting.produce = engine.produce := rfl
      rw [same]
      cases engine.produce now cancelled producer with
      | event event rest => exact ih rest (event :: events)
      | finished => rfl
      | waiting => rfl
  unfold ResultStream.fill
  cases r.producer with
  | none => rfl
  | some producer =>
    simp only [same]
    rfl

/-- What is asked at a turn is asked whether or not the client hears of it. -/
theorem unheard_asks (fault : TransportFault) (text : String) :
    Act.Asks ctx.engine (occur ctx.noting (.unheard fault text)) (occur ctx (.unheard fault text))
      (asked ctx · .turn) := by
  have asks : Act.Asks ctx.engine (Act.processNext ctx.noting) (Act.processNext ctx)
      (asked ctx · .turn) := Act.asks_processNext
  intro a
  have turn := asks a
  constructor
  · intro journal
    dsimp only [occur]
    rw [turn.noted]
    cases Act.processNext ctx a <;> rfl
  · have passes := turn.passes
    dsimp only [occur]
    cases came : Act.processNext ctx a <;> rw [came] at passes <;> exact passes

theorem occur_asks (o : Occurrence) :
    Act.Asks ctx.engine (occur ctx.noting o) (occur ctx o) (asked ctx · o) := by
  cases o with
  | received bytes => exact Act.quiet_receive bytes
  | turn => exact Act.asks_processNext
  | produced count =>
    apply Act.quiet_get
    intro c journal
    have same : ctx.noting.engine = ctx.engine.noting := rfl
    simp only [noting_now, same, fill_noting]
    exact Act.asks_bind (Act.quiet_session fun _ => rfl) fun _ => Act.quiet_pure _
  | pumped => exact Act.asks_bind Act.quiet_pump fun _ => Act.quiet_pure _
  | cleaned => exact Act.asks_bind Act.asks_finishCleanup fun _ => Act.quiet_pure _
  | unheard fault text => exact unheard_asks fault text
  | endOfInput | idled => exact Act.quiet_pure _
  | cleanupExpired | untimed | shutDown | broken => exact Act.quiet_throw _

theorem released_noting (a : Actor σ π) (journal : List EngineCall) :
    (a.noting journal).released ctx.noting = (a.released ctx).noting (journal ++ a.givingUp) := by
  unfold released
  rw [rolledBack_noting]
  rfl

theorem conclude_eq (outcome : Except ServerError Unit) (a : Actor σ π) :
    conclude ctx outcome a = (.ended outcome, a.released ctx) := by
  unfold conclude
  rw [Act.release_eq]

/-- With the journal a step does what it does without, and this is what it asks: the work of the
occurrence, and at the end of the connection the end of the transaction that is still held. -/
theorem step_noting (o : Occurrence) (journal : List EngineCall) :
    (a.noting journal).step ctx.noting o =
      ((a.step ctx o).1, (a.step ctx o).2.noting (journal ++ (a.asked ctx o ++
        if (a.step ctx o).1.hasEnded then (Act.after (occur ctx o a)).givingUp else []))) := by
  unfold step
  rw [(occur_asks o a).noted]
  cases occur ctx o a with
  | ok flow c =>
    cases flow with
    | proceed =>
      simp only [Act.noted, Progress.hasEnded, Bool.false_eq_true, if_false, List.append_nil,
        noting_connection]
      by_cases waits : c.isWaiting = true
      · simp only [waits, if_true]
        rfl
      · simp only [waits]
        rfl
    | close =>
      simp only [Act.noted, conclude_eq, Progress.hasEnded, if_true, Act.after,
        ← List.append_assoc]
      exact congrArg _ (released_noting { c with outbox := c.outbox.flush } _)
  | error abort c =>
    cases abort with
    | breakdown =>
      simp only [Act.noted, Progress.hasEnded, Bool.false_eq_true, if_false, List.append_nil]
    | error e =>
      simp only [Act.noted, conclude_eq, Progress.hasEnded, if_true, Act.after,
        ← List.append_assoc]
      exact congrArg _ (released_noting c _)

theorem calls_eq (o : Occurrence) : a.calls ctx o = a.asked ctx o ++
    if (a.step ctx o).1.hasEnded then (Act.after (occur ctx o a)).givingUp else [] := by
  unfold calls
  rw [step_noting, List.nil_append]
  rfl

theorem step_passes (o : Occurrence) :
    a.Passes ctx.engine (a.calls ctx o) (a.step ctx o).2 := by
  have worked : a.Passes ctx.engine (a.asked ctx o) _ := (occur_asks o a).passes
  rw [calls_eq]
  unfold step
  cases came : occur ctx o a with
  | ok flow c =>
    rw [came] at worked
    cases flow with
    | proceed =>
      simp only [Progress.hasEnded, Bool.false_eq_true, if_false, List.append_nil]
      by_cases waits : c.isWaiting = true
      · simp only [waits, if_true]
        exact ⟨worked.now, worked.held, worked.engine⟩
      · simp only [waits]
        exact worked
    | close =>
      simp only [conclude_eq, Progress.hasEnded, if_true, Act.after]
      exact worked.trans (passes_givingUp rfl rfl rfl)
  | error abort c =>
    rw [came] at worked
    cases abort with
    | breakdown =>
      simp only [Progress.hasEnded, Bool.false_eq_true, if_false, List.append_nil]
      exact worked
    | error e =>
      simp only [conclude_eq, Progress.hasEnded, if_true, Act.after]
      exact worked.trans (passes_givingUp rfl rfl rfl)

/-- How a step goes that leaves the connection open. -/
theorem step_running {o : Occurrence} (stepped : a.step ctx o = (.running, b)) :
    ∃ c, occur ctx o a = .ok .proceed c ∧ b = c.poised := by
  unfold step at stepped
  cases came : occur ctx o a with
  | error abort c =>
    rw [came] at stepped
    cases abort with
    | error e => simp only [conclude_eq] at stepped; cases stepped
    | breakdown => cases stepped
  | ok flow c =>
    rw [came] at stepped
    cases flow with
    | close => simp only [conclude_eq] at stepped; cases stepped
    | proceed =>
      cases stepped
      refine ⟨c, rfl, ?_⟩
      unfold poised
      split <;> rfl

theorem step_brokenDown {o : Occurrence} (stepped : a.step ctx o = (.brokenDown, b)) :
    occur ctx o a = .error .breakdown b := by
  unfold step at stepped
  cases came : occur ctx o a with
  | ok flow c =>
    rw [came] at stepped
    cases flow with
    | proceed => cases stepped
    | close => simp only [conclude_eq] at stepped; cases stepped
  | error abort c =>
    rw [came] at stepped
    cases abort with
    | error e => simp only [conclude_eq] at stepped; cases stepped
    | breakdown =>
      cases stepped
      rfl

/-- A connection that has ended has given up everything. -/
theorem step_ended {o : Occurrence} {outcome : Except ServerError Unit}
    (stepped : a.step ctx o = (.ended outcome, b)) :
    (∃ c, occur ctx o a = .ok .close c ∧ outcome = .ok () ∧
      b = released ctx { c with outbox := c.outbox.flush }) ∨
    ∃ e c, occur ctx o a = .error (.error e) c ∧ outcome = .error e ∧ b = c.released ctx := by
  unfold step at stepped
  cases came : occur ctx o a with
  | ok flow c =>
    rw [came] at stepped
    cases flow with
    | proceed => cases stepped
    | close =>
      simp only [conclude_eq] at stepped
      cases stepped
      exact .inl ⟨c, rfl, rfl, rfl⟩
  | error abort c =>
    rw [came] at stepped
    cases abort with
    | error e =>
      simp only [conclude_eq] at stepped
      cases stepped
      exact .inr ⟨e, c, rfl, rfl, rfl⟩
    | breakdown => cases stepped

end Actor

end GraphProtocol
