import GraphProtocol.Proofs.Connection.Streaming

/-!
# What dealing with a message does

The outcomes of a message's turn that leave the connection open, one for each way
through the work: which state was found, what the engine said, what the actor was
changed into and how the request was answered.
-/

set_option autoImplicit false

namespace GraphProtocol

variable {σ π : Type}

namespace Actor

def opened (a : Actor σ π) (principal : Principal) (agent : Option String) : Actor σ π :=
  { a with
    session := (a.session.authenticate principal agent).withState
      (if 0 < a.session.interrupts then .interrupted else .ready) }

def started (a : Actor σ π) (next : ConnectionState) (fields : List String) (producer : π)
    (engine : σ) : Actor σ π :=
  { a with
    engine
    session := { a.session with
      result := some (.start fields a.session.cancel.token producer), state := next } }

def tied (a : Actor σ π) (next : ConnectionState) (tx : TxId) (engine : σ) : Actor σ π :=
  { a with engine, session := { a.session with tx := some tx, state := next } }

def untied (a : Actor σ π) : Actor σ π := { a with session := { a.session with tx := none } }

def settled (a : Actor σ π) (next : ConnectionState) (engine : σ) : Actor σ π :=
  { a with engine, session := { a.session with tx := none, state := next } }

/-- The outcomes of an accepted request other than a reset. -/
inductive Performed (ctx : Context σ π) (a : Actor σ π) (h : Handler) (next : ConnectionState) :
    Action → Request → Actor σ π → Prop where
  | opened {request : Request} {principal : Principal} {b : Actor σ π} :
      ctx.authenticate (request.authToken?.getD .empty) = .ok principal →
      (a.opened principal request.userAgent?).Answered h
        (.success (Act.welcome ctx (a.opened principal request.userAgent?).session)) b →
      Performed ctx a h next .authenticate request b
  | ran {statement : String} {parameters : Dict Value} {metadata : TxMetadata}
      {fields : List String} {producer : π} {engine : σ} {b : Actor σ π} :
      ctx.engine.execute a.now ⟨statement, parameters, metadata⟩ (Act.currentTx a.session)
        a.session.isCancelled a.engine = (.ok (fields, producer), engine) →
      (a.started next fields producer engine).Answered h
        (.success ((Dict.empty.insert "fields" (.list (fields.map .string))).insert
          a.session.version.availableKey (h.millis a.now))) b →
      Performed ctx a h next .run (.run statement parameters metadata) b
  | runFailed {statement : String} {parameters : Dict Value} {metadata : TxMetadata}
      {f : Failure} {engine : σ} {b : Actor σ π} :
      ctx.engine.execute a.now ⟨statement, parameters, metadata⟩ (Act.currentTx a.session)
        a.session.isCancelled a.engine = (.error (.error f), engine) →
      (failing { a with engine }).Answered h (.failure f) b →
      Performed ctx a h next .run (.run statement parameters metadata) b
  | pulled {action : Action} {request : Request} {r : ResultStream π} :
      action = .pull ∨ action = .discard → a.session.result = some r →
      Performed ctx a h next action request { a with pulling := some ⟨h, next⟩ }
  | nothingHeld {action : Action} {request : Request} {b : Actor σ π} :
      action = .pull ∨ action = .discard → a.session.result = none →
      a.failing.Answered h (.failure (.ofStatus .unknownError "no result to consume")) b →
      Performed ctx a h next action request b
  | begun {metadata : TxMetadata} {tx : TxId} {engine : σ} {b : Actor σ π} :
      ctx.engine.begin a.now metadata a.engine = (.ok tx, engine) →
      (a.tied next tx engine).Answered h (.success .empty) b →
      Performed ctx a h next .begin (.begin metadata) b
  | beginFailed {metadata : TxMetadata} {f : Failure} {engine : σ} {b : Actor σ π} :
      ctx.engine.begin a.now metadata a.engine = (.error f, engine) →
      (failing { a with engine }).Answered h (.failure f) b →
      Performed ctx a h next .begin (.begin metadata) b
  | noTx {action : Action} {request : Request} {b : Actor σ π} :
      action = .commit ∨ action = .rollback → a.session.tx = none →
      a.untied.failing.Answered h
        (.failure (.ofStatus .transactionNotFound "no open transaction")) b →
      Performed ctx a h next action request b
  | committed {request : Request} {tx : TxId} {bookmark : String} {engine : σ} {b : Actor σ π} :
      a.session.tx = some tx → ctx.engine.commit a.now tx a.engine = (.ok bookmark, engine) →
      (a.settled next engine).Answered h
        (.success (Dict.empty.insert bookmarkKey (.string bookmark))) b →
      Performed ctx a h next .commit request b
  | commitFailed {request : Request} {tx : TxId} {f : Failure} {engine : σ} {b : Actor σ π} :
      a.session.tx = some tx → ctx.engine.commit a.now tx a.engine = (.error f, engine) →
      (failing { a.untied with engine }).Answered h (.failure f) b →
      Performed ctx a h next .commit request b
  | rolledBack {request : Request} {tx : TxId} {engine : σ} {b : Actor σ π} :
      a.session.tx = some tx → ctx.engine.rollback a.now tx a.engine = (.ok (), engine) →
      (a.settled next engine).Answered h (.success .empty) b →
      Performed ctx a h next .rollback request b
  | rollbackFailed {request : Request} {tx : TxId} {f : Failure} {engine : σ} {b : Actor σ π} :
      a.session.tx = some tx → ctx.engine.rollback a.now tx a.engine = (.error f, engine) →
      (failing { a.untied with engine }).Answered h (.failure f) b →
      Performed ctx a h next .rollback request b

def rolledBack (ctx : Context σ π) (a : Actor σ π) : σ :=
  match a.session.tx with
  | none => a.engine
  | some tx => (ctx.engine.rollback a.now tx a.engine).2

def cleared (ctx : Context σ π) (a : Actor σ π) : Actor σ π :=
  { a with
    engine := a.rolledBack ctx
    session := ({ a.session with tx := none }.renewCancel).withState .ready }

def acknowledged (a : Actor σ π) : Actor σ π := { a with session := a.session.acknowledge }

def cancelled (a : Actor σ π) : Actor σ π := { a with session := a.session.cancelExecution }

/-- The outcomes of a message's turn, once it is out of the inbox. -/
inductive Dealt (ctx : Context σ π) (a : Actor σ π) : Inbound → Actor σ π → Prop where
  | unknown {signature : UInt8} {outbox : Outbox} : a.session.state ≠ .connected →
      a.outbox.queue .ignored = .ok outbox →
      Dealt ctx a (.unknown signature)
        { a with outbox, metrics := a.metrics.countIgnored Act.unknownName }
  | invalidPassed {h : Handler} {fault : RequestFault} {b : Actor σ π} :
      a.session.state ≠ .connected → a.Answered h .ignored b →
      Act.isInterrupted a.session = true ∨ a.session.state = .failed ∨
        a.session.state = .interrupted →
      Dealt ctx a (.invalid h fault) b
  | invalidRefused {h : Handler} {fault : RequestFault} {b : Actor σ π} :
      a.session.state ≠ .connected → Act.isInterrupted a.session = false →
      a.session.state ≠ .failed → a.session.state ≠ .interrupted →
      a.failing.Answered h (.failure (.ofStatus .requestInvalid fault.message)) b →
      Dealt ctx a (.invalid h fault) b
  | passed {request : Request} {h : Handler} {b : Actor σ π} :
      Act.isInterrupted a.session = true → h.kind ≠ .reset → a.Answered h .ignored b →
      Dealt ctx a (.request request h) b
  | ignored {request : Request} {h : Handler} {b : Actor σ π} :
      Act.isInterrupted a.session = false ∨ h.kind = .reset →
      Decision.of a.session.version a.session.state h.kind = .ignore → a.Answered h .ignored b →
      Dealt ctx a (.request request h) b
  | performed {request : Request} {h : Handler} {action : Action} {next : ConnectionState}
      {b : Actor σ π} : Act.isInterrupted a.session = false ∨ h.kind = .reset →
      Decision.of a.session.version a.session.state h.kind = .accept action next →
      a.Performed ctx h next action request b → Dealt ctx a (.request request h) b
  | resetPassed {request : Request} {h : Handler} {next : ConnectionState} {b : Actor σ π} :
      Decision.of a.session.version a.session.state h.kind = .accept .reset next →
      0 < a.acknowledged.session.interrupts → a.acknowledged.Answered h .ignored b →
      Dealt ctx a (.request request h) b
  | resetDone {request : Request} {h : Handler} {next : ConnectionState} {b : Actor σ π} :
      Decision.of a.session.version a.session.state h.kind = .accept .reset next →
      a.acknowledged.session.interrupts = 0 → a.session.result = none →
      (a.acknowledged.cancelled.cleared ctx).Answered h (.success .empty) b →
      Dealt ctx a (.request request h) b
  | resetWaits {request : Request} {h : Handler} {next : ConnectionState} {r : ResultStream π} :
      Decision.of a.session.version a.session.state h.kind = .accept .reset next →
      a.acknowledged.session.interrupts = 0 → a.session.result = some r →
      Dealt ctx a (.request request h)
        { a.acknowledged.cancelled.emptied with cleanup := some ⟨h, r, a.now⟩ }

end Actor

namespace Act

variable {ctx : Context σ π} {a b : Actor σ π} {h : Handler} {next : ConnectionState}
  {request : Request}

theorem authenticate_outcome (run : authenticate ctx request h a = .ok () b) :
    a.Performed ctx h next .authenticate request b := by
  unfold authenticate at run
  cases known : ctx.authenticate (request.authToken?.getD .empty) with
  | ok principal =>
    rw [known] at run
    simp only [modifySession_bind, get_bind, setState_bind] at run
    exact .opened known (respond_outcome run)
  | error e =>
    rw [known] at run
    obtain ⟨⟨⟩, c, -, rest⟩ := bind_ok run
    obtain ⟨⟨⟩, d, -, rest⟩ := bind_ok rest
    cases rest

theorem run_started {statement : String} {parameters : Dict Value} {metadata : TxMetadata}
    {fields : List String} {producer : π} {engine : σ}
    (called : ctx.engine.execute a.now ⟨statement, parameters, metadata⟩
      (currentTx a.session) a.session.isCancelled a.engine = (.ok (fields, producer), engine)) :
    Act.run ctx (.run statement parameters metadata) next h a =
      respond h (.success ((Dict.empty.insert "fields" (.list (fields.map .string))).insert
        a.session.version.availableKey (h.millis a.now)))
        (a.started next fields producer engine) := by
  unfold Act.run
  simp only [get_bind, call_bind]
  rw [called]
  rfl

theorem run_outcome (run : Act.run ctx request next h a = .ok () b) :
    a.Performed ctx h next .run request b := by
  unfold Act.run at run
  cases request with
  | run statement parameters metadata =>
    simp only [get_bind, call_bind] at run
    cases called : ctx.engine.execute a.now ⟨statement, parameters, metadata⟩
        (currentTx a.session) a.session.isCancelled a.engine with | mk answer engine =>
    rw [called] at run
    cases answer with
    | ok given => exact .ran called (respond_outcome run)
    | error abort =>
      cases abort with
      | error f => exact .runFailed called (fail_outcome run)
      | breakdown => cases run
  | init | hello | pullAll | discardAll | reset | begin | commit | rollback | goodbye => cases run

theorem pull_outcome {action : Action} (pulls : action = .pull ∨ action = .discard)
    (run : pull next h a = .ok () b) : a.Performed ctx h next action request b := by
  unfold pull at run
  rw [get_bind] at run
  cases held : a.session.result with
  | none => rw [held] at run; exact .nothingHeld pulls held (fail_outcome run)
  | some r => rw [held] at run; cases run; exact .pulled pulls held

theorem beginTx_outcome (run : beginTx ctx request next h a = .ok () b) :
    a.Performed ctx h next .begin request b := by
  unfold beginTx at run
  cases request with
  | begin metadata =>
    simp only [call_bind] at run
    cases called : ctx.engine.begin a.now metadata a.engine with | mk answer engine =>
    rw [called] at run
    cases answer with
    | ok tx => exact .begun called (respond_outcome run)
    | error f => exact .beginFailed called (fail_outcome run)
  | init | hello | pullAll | discardAll | reset | run | commit | rollback | goodbye => cases run

theorem takeTx_bind {β : Type} (f : Option TxId → Act σ π β) (a : Actor σ π) :
    (takeTx >>= f) a = f a.session.tx a.untied := rfl

theorem endTx_outcome {α : Type} {close : Instant → TxId → σ → Except Failure α × σ}
    {metadata : α → Dict Value} (run : endTx close metadata next h a = .ok () b) :
    (a.session.tx = none ∧ a.untied.failing.Answered h
      (.failure (.ofStatus .transactionNotFound "no open transaction")) b) ∨
    ∃ tx, a.session.tx = some tx ∧
      ((∃ answer engine, close a.now tx a.engine = (.ok answer, engine) ∧
        (a.settled next engine).Answered h (.success (metadata answer)) b) ∨
      ∃ f engine, close a.now tx a.engine = (.error f, engine) ∧
        (Actor.failing { a.untied with engine }).Answered h (.failure f) b) := by
  unfold endTx at run
  rw [takeTx_bind] at run
  cases held : a.session.tx with
  | none => rw [held] at run; exact .inl ⟨rfl, fail_outcome run⟩
  | some tx =>
    rw [held] at run
    refine .inr ⟨tx, rfl, ?_⟩
    simp only [call_bind] at run
    cases called : close a.untied.now tx a.untied.engine with | mk answer engine =>
    rw [called] at run
    cases answer with
    | ok answer => exact .inl ⟨answer, engine, called, respond_outcome run⟩
    | error f => exact .inr ⟨f, engine, called, fail_outcome run⟩

theorem perform_outcome {action : Action} (run : perform ctx action request next h a = .ok () b) :
    a.Performed ctx h next action request b := by
  cases action with
  | authenticate => exact authenticate_outcome run
  | run => exact run_outcome run
  | pull => exact pull_outcome (.inl rfl) run
  | discard => exact pull_outcome (.inr rfl) run
  | begin => exact beginTx_outcome run
  | commit =>
    obtain ⟨free, answered⟩ | ⟨tx, held, ⟨_, _, called, answered⟩ | ⟨_, _, called, answered⟩⟩ :=
      endTx_outcome run
    · exact .noTx (.inl rfl) free answered
    · exact .committed held called answered
    · exact .commitFailed held called answered
  | rollback =>
    obtain ⟨free, answered⟩ | ⟨tx, held, ⟨_, _, called, answered⟩ | ⟨_, _, called, answered⟩⟩ :=
      endTx_outcome run
    · exact .noTx (.inr rfl) free answered
    · exact .rolledBack held called answered
    · exact .rollbackFailed held called answered
  | reset => cases run

theorem rollbackHeld_bind {β : Type} (f : Unit → Act σ π β) (a : Actor σ π) :
    (rollbackHeld ctx >>= f) a = f () { a.untied with engine := a.rolledBack ctx } := by
  have left : rollbackHeld ctx a = .ok () { a.untied with engine := a.rolledBack ctx } := by
    unfold rollbackHeld Actor.rolledBack
    rw [takeTx_bind]
    cases held : a.session.tx with
    | none => rfl
    | some tx => rfl
  exact bind_of_ok left

theorem finishReset_outcome (run : finishReset ctx h a = .ok () b) :
    (a.cleared ctx).Answered h (.success .empty) b := by
  unfold finishReset at run
  rw [rollbackHeld_bind, modifySession_bind, setState_bind] at run
  exact respond_outcome run

theorem reset_more (more : 0 < a.acknowledged.session.interrupts) :
    reset ctx h a = ignore h a.acknowledged := by
  unfold reset
  rw [modifySession_bind, get_bind]
  have more : 0 < a.session.acknowledge.interrupts := more
  rw [if_pos more]
  rfl

theorem reset_last (last : a.acknowledged.session.interrupts = 0) :
    reset ctx h a = (match a.session.result with
      | none => finishReset ctx h
      | some result => do
        dropResult
        modify fun (a : Actor σ π) => { a with cleanup := some ⟨h, result, a.now⟩ })
      a.acknowledged.cancelled := by
  unfold reset
  rw [modifySession_bind, get_bind]
  have last : ¬0 < a.session.acknowledge.interrupts := Nat.not_lt.mpr (Nat.le_of_eq last)
  rw [if_neg last, modifySession_bind, get_bind]
  rfl

theorem reset_free (last : a.acknowledged.session.interrupts = 0) (free : a.session.result = none) :
    reset ctx h a = finishReset ctx h a.acknowledged.cancelled := by
  rw [reset_last last, free]

theorem reset_held {r : ResultStream π} (last : a.acknowledged.session.interrupts = 0)
    (held : a.session.result = some r) : reset ctx h a = .ok ()
      { a.acknowledged.cancelled.emptied with cleanup := some ⟨h, r, a.now⟩ } := by
  rw [reset_last last, held]
  rfl

theorem reset_outcome (run : reset ctx h a = .ok () b)
    (accepted : Decision.of a.session.version a.session.state h.kind = .accept .reset next) :
    a.Dealt ctx (.request request h) b := by
  by_cases more : 0 < a.acknowledged.session.interrupts
  · rw [reset_more more] at run
    exact .resetPassed accepted more (respond_outcome run)
  · have last : a.acknowledged.session.interrupts = 0 := Nat.eq_zero_of_not_pos more
    cases held : a.session.result with
    | none =>
      rw [reset_free last held] at run
      exact .resetDone accepted last held (finishReset_outcome run)
    | some r =>
      rw [reset_held last held] at run
      cases run
      exact .resetWaits accepted last held

theorem processUnknown_outcome {signature : UInt8} (run : processUnknown signature a = .ok () b) :
    a.Dealt ctx (.unknown signature) b := by
  unfold processUnknown at run
  rw [get_bind] at run
  by_cases early : a.session.state = .connected
  · rw [if_pos early, fatal_bind] at run; cases run
  · rw [if_neg early] at run
    obtain ⟨⟨⟩, c, queued, rest⟩ := bind_ok run
    unfold queue at queued
    cases room : a.outbox.queue .ignored with
    | ok outbox => rw [room] at queued; cases queued; cases rest; exact .unknown early room
    | error e => rw [room] at queued; cases queued

theorem processInvalid_outcome {fault : RequestFault} (run : processInvalid h fault a = .ok () b) :
    a.Dealt ctx (.invalid h fault) b := by
  unfold processInvalid at run
  rw [get_bind] at run
  by_cases early : a.session.state = .connected
  · simp only [if_pos early] at run
    obtain ⟨⟨⟩, c, -, rest⟩ := bind_ok run
    obtain ⟨⟨⟩, d, -, rest⟩ := bind_ok rest
    cases rest
  · simp only [if_neg early] at run
    by_cases passed : isInterrupted a.session || a.session.state == .failed ||
        a.session.state == .interrupted
    · rw [if_pos passed] at run
      exact .invalidPassed early (respond_outcome run) (by simpa [or_assoc] using passed)
    · rw [if_neg passed] at run
      simp only [Bool.or_eq_true, beq_iff_eq, not_or, Bool.not_eq_true] at passed
      exact .invalidRefused early passed.1.1 passed.1.2 passed.2 (fail_outcome run)

theorem processRequest_outcome (run : processRequest ctx request h a = .ok .proceed b) :
    a.Dealt ctx (.request request h) b := by
  unfold processRequest at run
  rw [get_bind] at run
  by_cases passed : (isInterrupted a.session && h.kind != .reset) = true
  · simp only [if_pos passed] at run
    obtain ⟨⟨⟩, c, ran, rest⟩ := bind_ok run
    cases rest
    simp only [Bool.and_eq_true, bne_iff_ne] at passed
    exact .passed passed.1 passed.2 (respond_outcome ran)
  · simp only [if_neg passed] at run
    have heard : isInterrupted a.session = false ∨ h.kind = .reset := by
      simpa [Decidable.or_iff_not_imp_left] using passed
    cases decided : Decision.of a.session.version a.session.state h.kind with
    | close =>
      rw [decided] at run
      obtain ⟨⟨⟩, c, -, rest⟩ := bind_ok run
      cases rest
    | fatal => rw [decided] at run; cases run
    | ignore =>
      rw [decided] at run
      obtain ⟨⟨⟩, c, ran, rest⟩ := bind_ok run
      cases rest
      exact .ignored heard decided (respond_outcome ran)
    | accept action next =>
      rw [decided] at run
      cases action with
      | reset =>
        obtain ⟨⟨⟩, c, ran, rest⟩ := bind_ok run
        cases rest
        exact reset_outcome ran decided
      | authenticate | run | pull | discard | begin | commit | rollback =>
        obtain ⟨⟨⟩, c, ran, rest⟩ := bind_ok run
        cases rest
        exact .performed heard decided (perform_outcome ran)

theorem process_outcome {m : Inbound} (run : process ctx m a = .ok .proceed b) :
    a.Dealt ctx m b := by
  cases m with
  | unknown signature =>
    obtain ⟨⟨⟩, c, ran, rest⟩ := bind_ok run
    cases rest
    exact processUnknown_outcome ran
  | invalid h fault =>
    obtain ⟨⟨⟩, c, ran, rest⟩ := bind_ok run
    cases rest
    exact processInvalid_outcome ran
  | request request h => exact processRequest_outcome run

theorem processNext_cons {m : Inbound} {rest : List Inbound} (full : a.inbox = m :: rest) :
    processNext ctx a = process ctx m { a with inbox := rest } := by
  unfold processNext
  rw [get_bind, full]
  rfl

end Act

end GraphProtocol
