import GraphProtocol.Proofs.Connection.Course

/-!
# What is said at the end of a connection

Work that fails has added no response before, because answering is the last thing
that can go wrong. There are two exceptions. A client that cannot introduce itself
is told so, and the connection ends after it. And a pull may be cut short by
messages in front of the one that ends the connection.
-/

set_option autoImplicit false

namespace GraphProtocol

variable {σ π : Type}

namespace Act

variable {α β : Type}

def Silent (x : Act σ π α) : Prop :=
  ∀ a : Actor σ π, (after (x a)).outbox.accepted = a.outbox.accepted

def Voiceless (x : Act σ π α) : Prop :=
  ∀ a e b, x a = .error e b → b.outbox.accepted = a.outbox.accepted

def Sure (x : Act σ π α) : Prop := ∀ a e b, x a ≠ .error e b

theorem sure_pure (v : α) : Sure (pure v : Act σ π α) := by rintro a e b ⟨⟩

theorem sure_modify (g : Actor σ π → Actor σ π) : Sure (modify g) := by rintro a e b ⟨⟩

theorem sure_bind {x : Act σ π α} {f : α → Act σ π β} (first : Sure x) (further : ∀ u, Sure (f u)) :
    Sure (x >>= f) := by
  intro a e b failed
  obtain failed | ⟨u, c, -, failed⟩ := bind_error failed
  · exact first a e b failed
  · exact further u c e b failed

theorem silent_get : Silent (get : Act σ π (Actor σ π)) := fun _ => rfl

theorem silent_modify {g : Actor σ π → Actor σ π} (same : ∀ a, (g a).outbox = a.outbox) :
    Silent (modify g) := fun a => congrArg Outbox.accepted (same a)

theorem silent_session (f : Session π → Session π) : Silent (modifySession f : Act σ π Unit) :=
  silent_modify fun _ => rfl

theorem silent_call (f : Instant → σ → α × σ) : Silent (call f : Act σ π α) := fun _ => rfl

theorem silent_throw (e : Abort ServerError) : Silent (throw e : Act σ π α) := fun _ => rfl

theorem voiceless_throw (e : Abort ServerError) : Voiceless (throw e : Act σ π α) := by
  rintro a e b ⟨⟩
  rfl

theorem voiceless_sure {x : Act σ π α} (sure : Sure x) : Voiceless x := by
  intro a e b failed
  exact absurd failed (sure a e b)

/-- What is said last may fail. -/
theorem voiceless_bind {x : Act σ π α} {f : α → Act σ π β} (first : Silent x)
    (further : ∀ u, Voiceless (f u)) : Voiceless (x >>= f) := by
  intro a e b failed
  have silent := first a
  obtain failed | ⟨u, c, came, failed⟩ := bind_error failed
  · rwa [failed] at silent
  · rw [came] at silent
    exact (further u c e b failed).trans silent

/-- Nothing fails after it has been said. -/
theorem voiceless_then {x : Act σ π α} {f : α → Act σ π β} (first : Voiceless x)
    (further : ∀ u, Sure (f u)) : Voiceless (x >>= f) := by
  intro a e b failed
  obtain failed | ⟨u, c, -, failed⟩ := bind_error failed
  · exact first a e b failed
  · exact absurd failed (further u c e b)

theorem voiceless_done {x : Act σ π α} (first : Voiceless x) (v : β) :
    Voiceless (x >>= fun _ => pure v) :=
  voiceless_then first fun _ => sure_pure v

variable {ctx : Context σ π} {h : Handler}

theorem voiceless_respond (h : Handler) (r : Response) :
    Voiceless (respond h r : Act σ π Unit) := by
  intro a e b failed
  unfold respond at failed
  rw [get_bind] at failed
  cases given : (h.terminal a.outbox r).2 with
  | error e => rw [given] at failed; cases failed; rfl
  | ok delivered => obtain ⟨_ | _, outbox⟩ := delivered <;> rw [given] at failed <;> cases failed

theorem voiceless_queue (r : Response) : Voiceless (queue r : Act σ π Unit) := by
  intro a e b failed
  unfold queue at failed
  cases came : a.outbox.queue r with
  | ok outbox => rw [came] at failed; cases failed
  | error e' => rw [came] at failed; cases failed; rfl

theorem voiceless_fail (h : Handler) (f : Failure) : Voiceless (fail h f : Act σ π Unit) :=
  voiceless_bind (silent_session _) fun _ =>
    voiceless_bind (silent_session _) fun _ => voiceless_respond h _

theorem voiceless_run (request : Request) (next : ConnectionState) :
    Voiceless (Act.run ctx request next h) := by
  cases request with
  | run statement parameters metadata =>
    apply voiceless_bind silent_get
    intro c
    apply voiceless_bind (silent_call _)
    intro answer
    split
    · apply voiceless_bind (silent_session _)
      intro _
      exact voiceless_bind silent_get fun _ => voiceless_respond h _
    · exact voiceless_fail h _
    · exact voiceless_throw _
  | init | hello | pullAll | discardAll | reset | begin | commit | rollback | goodbye =>
    exact voiceless_throw _

theorem voiceless_pull (next : ConnectionState) : Voiceless (pull next h : Act σ π Unit) := by
  apply voiceless_bind silent_get
  intro c
  split
  · exact voiceless_sure (sure_modify _)
  · exact voiceless_fail h _

theorem voiceless_beginTx (request : Request) (next : ConnectionState) :
    Voiceless (beginTx ctx request next h) := by
  cases request with
  | begin metadata =>
    apply voiceless_bind (silent_call _)
    intro answer
    split
    · exact voiceless_bind (silent_session _) fun _ => voiceless_respond h _
    · exact voiceless_fail h _
  | init | hello | pullAll | discardAll | reset | run | commit | rollback | goodbye =>
    exact voiceless_throw _

theorem silent_takeTx : Silent (takeTx : Act σ π (Option TxId)) := fun _ => rfl

theorem voiceless_endTx {close : Instant → TxId → σ → Except Failure α × σ}
    {metadata : α → Dict Value} {next : ConnectionState} :
    Voiceless (endTx close metadata next h : Act σ π Unit) := by
  apply voiceless_bind silent_takeTx
  intro tx
  split
  · exact voiceless_fail h _
  · apply voiceless_bind (silent_call _)
    intro answer
    split
    · exact voiceless_bind (silent_session _) fun _ => voiceless_respond h _
    · exact voiceless_fail h _

theorem voiceless_perform {action : Action} (request : Request) (next : ConnectionState)
    (open_ : action ≠ .authenticate) : Voiceless (perform ctx action request next h) := by
  cases action with
  | authenticate => exact absurd rfl open_
  | run => exact voiceless_run request next
  | pull => exact voiceless_pull next
  | discard => exact voiceless_pull next
  | begin => exact voiceless_beginTx request next
  | commit => exact voiceless_endTx
  | rollback => exact voiceless_endTx
  | reset => exact voiceless_throw _

theorem voiceless_finishReset : Voiceless (finishReset ctx h) := by
  intro a e b failed
  rw [finishReset_eq] at failed
  exact voiceless_respond h _ (a.cleared ctx) e b failed

theorem voiceless_reset : Voiceless (reset ctx h) := by
  apply voiceless_bind (silent_session _)
  intro _
  apply voiceless_bind silent_get
  intro c
  split
  · exact voiceless_respond h _
  apply voiceless_bind (silent_session _)
  intro _
  apply voiceless_bind silent_get
  intro d
  split
  · exact voiceless_finishReset
  · exact voiceless_sure (sure_bind (sure_modify _) fun _ => sure_modify _)

theorem voiceless_finishCleanup : Voiceless (finishCleanup ctx) := by
  apply voiceless_bind silent_get
  intro c
  split
  · exact voiceless_sure (sure_pure ())
  · exact voiceless_bind (silent_modify fun _ => rfl) fun _ => voiceless_finishReset

theorem voiceless_unknown (signature : UInt8) :
    Voiceless (processUnknown signature : Act σ π Unit) := by
  apply voiceless_bind silent_get
  intro c
  split
  · exact voiceless_bind (silent_throw _) fun _ =>
      voiceless_then (voiceless_queue _) fun _ => sure_modify _
  · exact voiceless_then (voiceless_queue _) fun _ => sure_modify _

theorem refused_error {a b : Actor σ π} {r : Response} {e : ServerError} {abort : Abort ServerError}
    (failed : (do respond h r; flush; fatal e : Act σ π Unit) a = .error abort b) :
    b.outbox.accepted = a.outbox.accepted ∨
      (abort ≠ .breakdown ∧ b.outbox.accepted = r :: a.outbox.accepted) := by
  cases came : respond h r a with
  | error met c =>
    have stopped : (do respond h r; flush; fatal e : Act σ π Unit) a = .error met c := by
      change EStateM.bind _ _ a = _
      unfold EStateM.bind
      rw [came]
    cases stopped.symm.trans failed
    exact .inl (voiceless_respond h r a _ _ came)
  | ok u c =>
    rw [bind_of_ok came] at failed
    cases failed
    cases respond_outcome came with
    | dropped => exact .inl rfl
    | sent room => exact .inr ⟨nofun, (queue_accepted room).1⟩

/-- Failing requests of a client that has not introduced itself end the connection. -/
theorem invalid_error {a b : Actor σ π} {fault : RequestFault} {e : Abort ServerError}
    (failed : processInvalid h fault a = .error e b) :
    b.outbox.accepted = a.outbox.accepted ∨ (a.session.state = .connected ∧ e ≠ .breakdown ∧
      ∃ f, b.outbox.accepted = .failure f :: a.outbox.accepted) := by
  unfold processInvalid at failed
  rw [get_bind] at failed
  by_cases early : a.session.state = .connected
  · simp only [if_pos early] at failed
    exact (refused_error failed).imp id fun told => ⟨early, told.1, _, told.2⟩
  · simp only [if_neg early] at failed
    left
    split at failed
    · exact voiceless_respond h _ a e b failed
    · exact voiceless_fail h _ a e b failed

theorem authenticate_error {a b : Actor σ π} {request : Request} {e : Abort ServerError}
    (failed : authenticate ctx request h a = .error e b) :
    b.outbox.accepted = a.outbox.accepted ∨
      e ≠ .breakdown ∧ ∃ f, b.outbox.accepted = .failure f :: a.outbox.accepted := by
  unfold authenticate at failed
  cases known : ctx.authenticate (request.authToken?.getD .empty) with
  | ok principal =>
    rw [known] at failed
    simp only [modifySession_bind, get_bind, setState_bind] at failed
    have same := voiceless_respond h _ _ e b failed
    exact .inl same
  | error why =>
    rw [known] at failed
    exact (refused_error failed).imp id fun told => ⟨told.1, _, told.2⟩

theorem voiceless_handleEvent (event : Option StreamEvent) :
    Voiceless (handleEvent event : Act σ π Bool) := by
  apply voiceless_bind silent_get
  intro c
  split
  · exact voiceless_sure (sure_pure _)
  refine voiceless_bind (silent_modify fun _ => rfl) fun _ => ?_
  split
  · apply voiceless_bind silent_get
    intro d
    dsimp only
    split
    · exact voiceless_sure (sure_bind (sure_modify _) fun _ => sure_pure _)
    · exact voiceless_throw _
    · split
      · exact voiceless_bind (silent_throw _) fun _ => voiceless_done (voiceless_fail _ _) _
      · exact voiceless_done (voiceless_fail _ _) _
  · apply voiceless_bind (silent_session _)
    intro _
    apply voiceless_bind silent_get
    intro d
    apply voiceless_bind (silent_session _)
    intro _
    exact voiceless_done (voiceless_respond _ _) _
  · exact voiceless_bind (silent_session _) fun _ => voiceless_done (voiceless_fail _ _) _
  · exact voiceless_bind (silent_session _) fun _ => voiceless_done (voiceless_fail _ _) _

theorem sure_get : Sure (get : Act σ π (Actor σ π)) := by rintro a e b ⟨⟩

theorem sure_endBatch : Sure (endBatch : Act σ π Unit) :=
  sure_bind (sure_modify _) fun _ => sure_modify _

theorem voiceless_handleInBatch (left : Nat) (event : Option StreamEvent) :
    Voiceless (handleInBatch left event : Act σ π Unit) := by
  apply voiceless_then (voiceless_handleEvent event)
  intro goesOn
  apply sure_bind sure_get
  intro c
  split
  · exact sure_endBatch
  · exact sure_modify _

theorem silent_takeEvent : Silent (takeEvent : Act σ π (Option StreamEvent)) := by
  intro a
  unfold takeEvent
  rw [get_bind]
  cases a.session.result.bind ResultStream.takeReady? with
  | none => rfl
  | some taken => rfl

theorem voiceless_pump : Voiceless (pump : Act σ π Unit) := by
  apply voiceless_bind silent_get
  intro c
  apply voiceless_bind silent_takeEvent
  intro event
  split
  · exact voiceless_handleInBatch _ _
  · exact voiceless_sure sure_endBatch
  · exact voiceless_sure sure_endBatch
  · exact voiceless_handleInBatch _ _

theorem done_error {x : Act σ π α} {v : β} {a b : Actor σ π} {e : Abort ServerError}
    (failed : (x >>= fun _ => pure v) a = .error e b) : x a = .error e b := by
  change EStateM.bind x _ a = _ at failed
  unfold EStateM.bind at failed
  cases came : x a with
  | ok u c => rw [came] at failed; cases failed
  | error e' c => rw [came] at failed; cases failed; rfl

theorem processRequest_error {a b : Actor σ π} {request : Request} {e : Abort ServerError}
    (failed : processRequest ctx request h a = .error e b) :
    b.outbox.accepted = a.outbox.accepted ∨ (a.session.state = .connected ∧ e ≠ .breakdown ∧
      ∃ f, b.outbox.accepted = .failure f :: a.outbox.accepted) := by
  unfold processRequest at failed
  rw [get_bind] at failed
  by_cases passed : (isInterrupted a.session && h.kind != .reset) = true
  · simp only [if_pos passed] at failed
    exact .inl (voiceless_respond h _ a e b (done_error failed))
  simp only [if_neg passed] at failed
  cases decided : Decision.of a.session.version a.session.state h.kind with
  | close =>
    rw [decided] at failed
    cases done_error failed
  | fatal => rw [decided] at failed; cases failed; exact .inl rfl
  | ignore =>
    rw [decided] at failed
    exact .inl (voiceless_respond h _ a e b (done_error failed))
  | accept action next =>
    rw [decided] at failed
    cases action with
    | reset => exact .inl (voiceless_reset a e b (done_error failed))
    | authenticate =>
      obtain ⟨early, -⟩ := accept_authenticate decided
      exact (authenticate_error (done_error failed)).imp id fun told => ⟨early, told⟩
    | run | pull | discard | begin | commit | rollback =>
      exact .inl (voiceless_perform request next (by decide) a e b (done_error failed))

theorem process_error {a b : Actor σ π} {m : Inbound} {e : Abort ServerError}
    (failed : process ctx m a = .error e b) :
    b.outbox.accepted = a.outbox.accepted ∨ (a.session.state = .connected ∧ e ≠ .breakdown ∧
      ∃ f, b.outbox.accepted = .failure f :: a.outbox.accepted) := by
  cases m with
  | unknown signature => exact .inl (voiceless_unknown signature a e b (done_error failed))
  | invalid h fault => exact invalid_error (done_error failed)
  | request request h => exact processRequest_error failed

theorem process_close {a b : Actor σ π} {m : Inbound} (closed : process ctx m a = .ok .close b) :
    b.outbox.accepted = a.outbox.accepted := by
  cases m with
  | unknown signature => obtain ⟨⟨⟩, c, -, rest⟩ := bind_ok closed; cases rest
  | invalid h fault => obtain ⟨⟨⟩, c, -, rest⟩ := bind_ok closed; cases rest
  | request request h =>
    change processRequest ctx request h a = _ at closed
    unfold processRequest at closed
    rw [get_bind] at closed
    by_cases passed : (isInterrupted a.session && h.kind != .reset) = true
    · simp only [if_pos passed] at closed
      obtain ⟨⟨⟩, c, -, rest⟩ := bind_ok closed
      cases rest
    simp only [if_neg passed] at closed
    cases decided : Decision.of a.session.version a.session.state h.kind with
    | close =>
      rw [decided] at closed
      obtain ⟨⟨⟩, c, left, rest⟩ := bind_ok closed
      cases rest
      cases left
      rfl
    | fatal => rw [decided] at closed; cases closed
    | ignore =>
      rw [decided] at closed
      obtain ⟨⟨⟩, c, -, rest⟩ := bind_ok closed
      cases rest
    | accept action next =>
      rw [decided] at closed
      cases action <;> (obtain ⟨⟨⟩, c, -, rest⟩ := bind_ok closed; cases rest)

end Act

namespace Actor

variable {ctx : Context σ π} {a b : Actor σ π}

theorem occur_error {c : Actor σ π} {o : Occurrence} {e : Abort ServerError}
    (can : a.allows ctx o = true) (failed : occur ctx o a = .error e c) :
    c.outbox.accepted = a.outbox.accepted ∨
    (c.outbox.accepted = .ignored :: a.outbox.accepted ∧ a.pulling.isSome = true) ∨
    (a.session.state = .connected ∧ e ≠ .breakdown ∧
      ∃ f, c.outbox.accepted = .failure f :: a.outbox.accepted) := by
  cases o with
  | received bytes =>
    have cut := Act.cuts_receive bytes a
    have failed : Act.receive bytes a = .error e c := failed
    rw [failed] at cut
    rcases cut.said with ⟨same, -⟩ | ⟨added, held, -⟩
    · exact .inl same
    · exact .inr (.inl ⟨added, held⟩)
  | turn =>
    cases full : a.inbox with
    | nil => simp [allows, Connection.hasTurn, full] at can
    | cons m rest =>
      exact (Act.process_error ((Act.processNext_cons full).symm.trans failed)).imp id .inr
  | pumped => exact .inl (Act.voiceless_pump a e c (Act.done_error failed))
  | cleaned => exact .inl (Act.voiceless_finishCleanup a e c (Act.done_error failed))
  | unheard fault text =>
    obtain ⟨turn, away⟩ := allows_unheard can
    obtain ⟨met, d, refused, unheard⟩ := occur_unheard away fault text
    cases unheard.symm.trans failed
    cases full : a.inbox with
    | nil => simp [Connection.hasTurn, full] at turn
    | cons m rest =>
      have expected : (.error (.transport fault text) : Abort ServerError) ≠ .breakdown := by
        intro broken
        cases broken
      exact (Act.process_error ((Act.processNext_cons full).symm.trans refused)).imp id
        fun told => .inr ⟨told.1, expected, told.2.2⟩
  | produced count => cases failed
  | endOfInput | idled => cases failed
  | cleanupExpired | untimed | shutDown | broken => cases failed; exact .inl rfl

theorem occur_close {c : Actor σ π} {o : Occurrence} (can : a.allows ctx o = true)
    (closed : occur ctx o a = .ok .close c) :
    c.outbox.accepted = a.outbox.accepted ∨
    (c.outbox.accepted = .ignored :: a.outbox.accepted ∧ a.pulling.isSome = true) := by
  cases o with
  | received bytes =>
    have cut := Act.cuts_receive bytes a
    have closed : Act.receive bytes a = .ok .close c := closed
    rw [closed] at cut
    rcases cut.said with ⟨same, -⟩ | ⟨added, held, -⟩
    · exact .inl same
    · exact .inr ⟨added, held⟩
  | turn =>
    cases full : a.inbox with
    | nil => simp [allows, Connection.hasTurn, full] at can
    | cons m rest =>
      have same := Act.process_close ((Act.processNext_cons full).symm.trans closed)
      exact .inl same
  | pumped | cleaned =>
    obtain ⟨⟨⟩, d, -, rest⟩ := bind_ok closed
    cases rest
  | produced count => cases closed
  | endOfInput | idled => cases closed; exact .inl rfl
  | unheard fault text =>
    obtain ⟨e, d, -, failed⟩ := occur_unheard (allows_unheard can).2 fault text
    cases failed.symm.trans closed
  | cleanupExpired | untimed | shutDown | broken => cases closed

/-- A connection that breaks down tells its client of no failure. -/
theorem broken_says {o : Occurrence} (can : a.allows ctx o = true)
    (stepped : a.step ctx o = (.brokenDown, b)) :
    b.outbox.accepted = a.outbox.accepted ∨
    (b.outbox.accepted = .ignored :: a.outbox.accepted ∧ a.pulling.isSome = true) :=
  (occur_error can (step_brokenDown stepped)).imp id
    fun said => said.elim id fun told => absurd rfl told.2.1

/-- What is said by a step that ends the connection: nothing, or that a pull is cut short, or, to
a client that has not introduced itself, a failure. -/
theorem ended_says {o : Occurrence} {outcome : Except ServerError Unit}
    (can : a.allows ctx o = true) (stepped : a.step ctx o = (.ended outcome, b)) :
    b.outbox.accepted = a.outbox.accepted ∨
    (b.outbox.accepted = .ignored :: a.outbox.accepted ∧ a.pulling.isSome = true) ∨
    (a.session.state = .connected ∧ outcome.isOk = false ∧
      ∃ f, b.outbox.accepted = .failure f :: a.outbox.accepted) := by
  obtain ⟨c, closed, -, rfl⟩ | ⟨e, c, failed, rfl, rfl⟩ := step_ended stepped
  · exact (occur_close can closed).imp id .inl
  · exact (occur_error can failed).imp id (.imp id fun told => ⟨told.1, rfl, told.2.2⟩)

end Actor

end GraphProtocol
