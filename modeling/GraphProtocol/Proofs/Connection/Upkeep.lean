import GraphProtocol.Proofs.Connection.Untransacted

/-!
# What work leaves behind

Work on a connection changes the metrics and the queued responses together, and in three
ways only: an answer is queued and counted, a record is queued, or a message that is not
known is ignored. What these three keep is kept by everything that a connection does
between two messages that it reads, whether or not it fails.
-/

set_option autoImplicit false

namespace GraphProtocol

variable {σ π : Type}

/-- What relates metrics and queued responses and is kept by every response. -/
structure Upheld (I : Metrics → List Response → Prop) : Prop where
  answered : ∀ {m : Metrics} {queued : List Response} (h : Handler) (r : Response) (now : Instant),
    I m queued → I (m.answered h r now) (r :: queued)
  record : ∀ {m : Metrics} {queued : List Response} (fields : List Value),
    I m queued → I m (.record fields :: queued)
  unknown : ∀ {m : Metrics} {queued : List Response},
    I m queued → I (m.countIgnored Act.unknownName) (.ignored :: queued)

def Actor.Upholds (I : Metrics → List Response → Prop) (a : Actor σ π) : Prop :=
  I a.metrics a.outbox.accepted

namespace Act

variable {ctx : Context σ π} {h : Handler} {α β : Type} {I : Metrics → List Response → Prop}

theorem upholds_session (f : Session π → Session π) :
    Keeps (Actor.Upholds (σ := σ) I) (modifySession f) := fun _ before => before

theorem upholds_call (f : Instant → σ → α × σ) :
    Keeps (Actor.Upholds I) (call f : Act σ π α) := fun _ before => before

theorem upholds_flush : Keeps (Actor.Upholds I) (flush : Act σ π Unit) := fun _ before => before

theorem upholds_halt :
    Keeps (Actor.Upholds I) (modify fun a => { a with pulling := none } : Act σ π Unit) :=
  fun _ before => before

theorem upholds_takeTx {f : Option TxId → Act σ π β}
    (further : ∀ tx, Keeps (Actor.Upholds I) (f tx)) : Keeps (Actor.Upholds I) (takeTx >>= f) :=
  fun a before => further a.session.tx a.untied before

theorem upholds_goodbye : Keeps (Actor.Upholds I) (goodbye : Act σ π Unit) :=
  keeps_bind (upholds_session _) fun _ => keeps_modify fun _ before => before

theorem upholds_endBatch : Keeps (Actor.Upholds I) (endBatch : Act σ π Unit) :=
  keeps_bind (keeps_modify fun _ before => before) fun _ => upholds_flush

theorem upholds_takeEvent :
    Keeps (Actor.Upholds I) (takeEvent : Act σ π (Option StreamEvent)) := by
  apply keeps_get
  intro c _
  split
  · exact keeps_pure _
  · exact keeps_bind (upholds_session _) fun _ => keeps_pure _

section

variable (upheld : Upheld I)
include upheld

/-! ## Answers -/

theorem upholds_respond (r : Response) : Keeps (Actor.Upholds I) (respond h r : Act σ π Unit) :=
  keeps_answered fun a b before answered => by
    cases answered with
    | dropped => exact before
    | @sent outbox room =>
      show I (a.metrics.answered h r a.now) outbox.accepted
      rw [(queue_accepted room).1]
      exact upheld.answered h r a.now before

theorem upholds_fail (f : Failure) : Keeps (Actor.Upholds I) (fail h f : Act σ π Unit) :=
  keeps_bind (upholds_session _) fun _ =>
    keeps_bind (upholds_session _) fun _ => upholds_respond upheld _

/-- What refuses an opening is answered before the connection ends. -/
theorem upholds_refuse (r : Response) (e : ServerError) :
    Keeps (Actor.Upholds I) (do respond h r; flush; fatal e : Act σ π α) :=
  keeps_bind (upholds_respond upheld r) fun _ => keeps_bind upholds_flush fun _ => keeps_throw _

/-! ## Requests -/

theorem upholds_authenticate (request : Request) :
    Keeps (Actor.Upholds I) (authenticate ctx request h) := by
  unfold authenticate
  split
  · apply keeps_bind (upholds_session _)
    intro _
    apply keeps_get
    intro c _
    apply keeps_bind (upholds_session _)
    intro _
    apply keeps_get
    intro d _
    exact upholds_respond upheld _
  · exact upholds_refuse upheld _ _

theorem upholds_run (request : Request) (next : ConnectionState) :
    Keeps (Actor.Upholds I) (Act.run ctx request next h) := by
  cases request with
  | run statement parameters metadata =>
    apply keeps_get
    intro c _
    apply keeps_bind (upholds_call _)
    intro answer
    split
    · apply keeps_bind (upholds_session _)
      intro _
      apply keeps_get
      intro d _
      exact upholds_respond upheld _
    · exact upholds_fail upheld _
    · exact keeps_throw _
  | init | hello | pullAll | discardAll | reset | begin | commit | rollback | goodbye =>
    exact keeps_throw _

theorem upholds_pull (next : ConnectionState) :
    Keeps (Actor.Upholds I) (pull next h : Act σ π Unit) := by
  apply keeps_get
  intro c _
  split
  · exact keeps_modify fun _ before => before
  · exact upholds_fail upheld _

theorem upholds_begin (request : Request) (next : ConnectionState) :
    Keeps (Actor.Upholds I) (beginTx ctx request next h) := by
  cases request with
  | begin metadata =>
    apply keeps_bind (upholds_call _)
    intro answer
    split
    · exact keeps_bind (upholds_session _) fun _ => upholds_respond upheld _
    · exact upholds_fail upheld _
  | init | hello | pullAll | discardAll | reset | run | commit | rollback | goodbye =>
    exact keeps_throw _

theorem upholds_end {close : Instant → TxId → σ → Except Failure α × σ} {metadata : α → Dict Value}
    (next : ConnectionState) :
    Keeps (Actor.Upholds I) (endTx close metadata next h : Act σ π Unit) := by
  apply upholds_takeTx
  intro tx
  split
  · exact upholds_fail upheld _
  · apply keeps_bind (upholds_call _)
    intro answer
    split
    · exact keeps_bind (upholds_session _) fun _ => upholds_respond upheld _
    · exact upholds_fail upheld _

theorem upholds_perform (action : Action) (request : Request) (next : ConnectionState) :
    Keeps (Actor.Upholds I) (perform ctx action request next h) := by
  cases action with
  | authenticate => exact upholds_authenticate upheld request
  | run => exact upholds_run upheld request next
  | pull | discard => exact upholds_pull upheld next
  | begin => exact upholds_begin upheld request next
  | commit | rollback => exact upholds_end upheld next
  | reset => exact keeps_throw _

theorem upholds_finishReset : Keeps (Actor.Upholds I) (finishReset ctx h) := by
  intro a before
  rw [finishReset_eq]
  exact upholds_respond upheld _ (a.cleared ctx) before

theorem upholds_reset : Keeps (Actor.Upholds I) (reset ctx h) := by
  apply keeps_bind (upholds_session _)
  intro _
  apply keeps_get
  intro c _
  split
  · exact upholds_respond upheld _
  apply keeps_bind (upholds_session _)
  intro _
  apply keeps_get
  intro d _
  split
  · exact upholds_finishReset upheld
  · exact keeps_bind (upholds_session _) fun _ => keeps_modify fun _ before => before

theorem upholds_finishCleanup : Keeps (Actor.Upholds I) (finishCleanup ctx) := by
  apply keeps_get
  intro c _
  split
  · exact keeps_pure ()
  · exact keeps_bind (keeps_modify fun _ before => before) fun _ => upholds_finishReset upheld

/-- A message that is not known is counted after its response is queued, if it is. -/
theorem upholds_pass : Keeps (Actor.Upholds I)
    (do queue .ignored; modifyMetrics (·.countIgnored unknownName) : Act σ π Unit) := by
  intro a before
  show (after (EStateM.bind (queue .ignored) _ a)).Upholds I
  unfold EStateM.bind queue
  cases room : a.outbox.queue .ignored with
  | error e => exact before
  | ok outbox =>
    show I (a.metrics.countIgnored unknownName) outbox.accepted
    rw [(queue_accepted room).1]
    exact upheld.unknown before

theorem upholds_unknown (signature : UInt8) :
    Keeps (Actor.Upholds I) (processUnknown signature : Act σ π Unit) := by
  apply keeps_get
  intro c _
  split
  · exact keeps_bind (keeps_throw _) fun _ => upholds_pass upheld
  · exact upholds_pass upheld

theorem upholds_invalid (fault : RequestFault) :
    Keeps (Actor.Upholds I) (processInvalid h fault : Act σ π Unit) := by
  apply keeps_get
  intro c _
  dsimp only
  split
  · exact upholds_refuse upheld _ _
  · split
    · exact upholds_respond upheld _
    · exact upholds_fail upheld _

theorem upholds_request (request : Request) :
    Keeps (Actor.Upholds I) (processRequest ctx request h) := by
  apply keeps_get
  intro c _
  dsimp only
  split
  · exact keeps_bind (upholds_respond upheld _) fun _ => keeps_pure _
  cases Decision.of c.session.version c.session.state h.kind with
  | close => exact keeps_bind upholds_goodbye fun _ => keeps_pure _
  | fatal => exact keeps_throw _
  | ignore => exact keeps_bind (upholds_respond upheld _) fun _ => keeps_pure _
  | accept action next =>
    cases action with
    | reset => exact keeps_bind (upholds_reset upheld) fun _ => keeps_pure _
    | authenticate | run | pull | discard | begin | commit | rollback =>
      exact keeps_bind (upholds_perform upheld _ _ _) fun _ => keeps_pure _

theorem upholds_process (m : Inbound) : Keeps (Actor.Upholds I) (process ctx m) := by
  cases m with
  | request request h => exact upholds_request upheld request
  | unknown signature => exact keeps_bind (upholds_unknown upheld signature) fun _ => keeps_pure _
  | invalid h fault => exact keeps_bind (upholds_invalid upheld fault) fun _ => keeps_pure _

theorem upholds_processNext : Keeps (Actor.Upholds I) (processNext ctx) := by
  apply keeps_get
  intro c _
  split
  · exact keeps_pure _
  · exact keeps_bind (keeps_modify fun _ before => before) fun _ => upholds_process upheld _

/-! ## Results -/

theorem upholds_record {p : Pulling} (fields : List Value) : Keeps (Actor.Upholds I) (do
    let (handler, outcome) := p.handler.record (← get).outbox fields
    match outcome with
    | .ok (_, outbox) =>
      modify fun a => { a with outbox, pulling := some { p with handler } }
      return true
    | .error .breakdown => throw .breakdown
    | .error (.error e) =>
      if e.isFatal then fatal (.protocol e)
      fail handler (.ofStatus .requestInvalid e.message)
      return false : Act σ π Bool) := by
  -- The record goes into the outbox that is read here, so the actor is fixed before the cases.
  intro a before
  rw [get_bind]
  cases recorded : p.handler.record a.outbox fields with | mk handler outcome =>
  cases outcome with
  | ok given =>
    obtain ⟨delivery, outbox⟩ := given
    show I a.metrics outbox.accepted
    rcases Actor.record_outbox recorded with rfl | room
    · exact before
    · rw [(queue_accepted room).1]
      exact upheld.record fields before
  | error abort =>
    cases abort with
    | breakdown => exact before
    | error e =>
      dsimp only
      split
      · exact before
      · exact keeps_bind (upholds_fail upheld _) (fun _ => keeps_pure _) a before

theorem upholds_handleEvent (event : Option StreamEvent) :
    Keeps (Actor.Upholds I) (handleEvent event : Act σ π Bool) := by
  apply keeps_get
  intro c _
  split
  · exact keeps_pure _
  apply keeps_bind upholds_halt
  intro _
  split
  · exact upholds_record upheld _
  · apply keeps_bind (upholds_session _)
    intro _
    apply keeps_get
    intro d _
    exact keeps_bind (upholds_session _) fun _ =>
      keeps_bind (upholds_respond upheld _) fun _ => keeps_pure _
  · exact keeps_bind (upholds_session _) fun _ =>
      keeps_bind (upholds_fail upheld _) fun _ => keeps_pure _
  · exact keeps_bind (upholds_session _) fun _ =>
      keeps_bind (upholds_fail upheld _) fun _ => keeps_pure _

theorem upholds_handleInBatch (left : Nat) (event : Option StreamEvent) :
    Keeps (Actor.Upholds I) (handleInBatch left event : Act σ π Unit) := by
  apply keeps_bind (upholds_handleEvent upheld event)
  intro goesOn
  apply keeps_get
  intro c _
  split
  · exact upholds_endBatch
  · exact keeps_modify fun _ before => before

theorem upholds_pump : Keeps (Actor.Upholds I) (pump : Act σ π Unit) := by
  apply keeps_get
  intro c _
  apply keeps_bind upholds_takeEvent
  intro event
  split
  · exact upholds_handleInBatch upheld _ _
  · exact upholds_endBatch
  · exact upholds_endBatch
  · exact upholds_handleInBatch upheld _ _

/-- A reset that is read cuts a pull short. -/
theorem upholds_interrupt : Keeps (Actor.Upholds I) (interrupt : Act σ π Unit) := by
  apply keeps_bind (upholds_session _)
  intro _
  apply keeps_get
  intro c _
  split
  · exact keeps_pure ()
  · exact keeps_bind upholds_halt fun _ => upholds_respond upheld _

end

end Act

/-! ## Steps -/

namespace Actor

variable {ctx : Context σ π} {a : Actor σ π} {I : Metrics → List Response → Prop}

/-- Everything that happens between two reads keeps what every response keeps. -/
theorem occur_upholds (upheld : Upheld I) {o : Occurrence} (unread : ∀ bytes, o ≠ .received bytes) :
    Act.Keeps (Actor.Upholds I) (occur ctx o) := by
  cases o with
  | received bytes => exact absurd rfl (unread bytes)
  | turn => exact Act.upholds_processNext upheld
  | produced count =>
    apply Act.keeps_get
    intro c _
    exact Act.keeps_bind (Act.upholds_session _) fun _ => Act.keeps_pure _
  | pumped => exact Act.keeps_bind (Act.upholds_pump upheld) fun _ => Act.keeps_pure _
  | cleaned => exact Act.keeps_bind (Act.upholds_finishCleanup upheld) fun _ => Act.keeps_pure _
  | unheard fault text => exact Act.keeps_unheard (Act.upholds_processNext upheld)
  | endOfInput | idled => exact Act.keeps_pure _
  | cleanupExpired | untimed | shutDown | broken => exact Act.keeps_throw _

/-- What comes after the work of an occurrence neither counts nor queues anything. -/
theorem step_upholds {o : Occurrence} (worked : (Act.after (occur ctx o a)).Upholds I) :
    (a.step ctx o).2.Upholds I := by
  unfold step
  cases came : occur ctx o a with
  | error abort c =>
    rw [came] at worked
    cases abort with
    | breakdown => exact worked
    | error e =>
      simp only [conclude_eq]
      exact worked
  | ok flow c =>
    rw [came] at worked
    cases flow with
    | proceed =>
      by_cases waits : c.isWaiting = true
      · simp only [waits, if_true]
        exact worked
      · simp only [waits]
        exact worked
    | close =>
      simp only [conclude_eq]
      exact worked

end Actor

end GraphProtocol
