import GraphProtocol.Proofs.Connection.Phase
import GraphProtocol.Proofs.Message.Responses

/-!
# What the work on a request finds

The table of states settles which branches of the work can be reached. Whenever a
turn gets as far as the work behind an accepted request, the request is of the
kind that the work is for, a result is there to be pulled, a transaction is there
to be ended, and none is in the way of a new one.
-/

set_option autoImplicit false

namespace GraphProtocol

variable {σ π : Type}

def ServerError.isMisrouted : ServerError → Bool
  | .protocol (.malformed (.misrouted _ _)) => true
  | _ => false

def Action.Supplied (action : Action) (request : Request) (s : Session π) : Prop :=
  match action with
  | .authenticate => request.kind.isHandshake = true
  | .run => request.kind = .run
  | .pull | .discard => s.result.isSome = true
  | .begin => request.kind = .begin ∧ s.tx = none
  | .commit | .rollback => s.tx.isSome = true
  | .reset => False

namespace Actor

/-- What a session holds in each state, as far as its clients can rely on it. -/
structure Holdings (a : Actor σ π) : Prop where
  outside : a.session.state = .connected ∨ a.session.state = .ready ∨
    a.session.state = .streaming → a.session.tx = none
  inside : a.session.state = .txReady ∨ a.session.state = .txStreaming →
    a.session.tx.isSome = true
  drained : a.session.state = .connected ∨ a.session.state = .ready ∨
    a.session.state = .txReady → a.session.result = none
  held : a.session.state = .streaming ∨ a.session.state = .txStreaming →
    a.session.result.isSome = true
  pull : ∀ p, a.pulling = some p →
    (a.session.state = .streaming ∧ p.next = .ready) ∨
    (a.session.state = .txStreaming ∧ p.next = .txReady)
  owner : a.session.principal.isSome = true ↔ a.session.state ≠ .connected

/-- A turn that gets as far as the work behind an accepted request. -/
structure Performs (a : Actor σ π) (action : Action) (request : Request)
    (next : ConnectionState) (h : Handler) : Prop where
  turn : a.hasTurn = true
  first : a.inbox.head? = some (.request request h)
  heard : Act.isInterrupted a.session = false ∨ h.kind = .reset
  accepted : Decision.of a.session.version a.session.state h.kind = .accept action next
  work : action ≠ .reset

variable {ctx : Context σ π} {a b : Actor σ π}

theorem sound_holdings (sound : a.IsSound) : a.Holdings := by
  have fits := sound.fits
  unfold Fits at fits
  constructor <;> cases state : a.session.state <;> simp_all [Calm]

theorem holdings_result (holdings : a.Holdings) (hp : a.pulling.isSome = true) :
    a.session.result.isSome = true := by
  obtain ⟨p, hp⟩ := Option.isSome_iff_exists.mp hp
  exact holdings.held ((holdings.pull p hp).imp And.left And.left)

theorem performs_supplied {action : Action} {request : Request} {next : ConnectionState}
    {h : Handler} (sound : a.IsSound) (performs : a.Performs action request next h) :
    action.Supplied request a.session := by
  obtain ⟨turn, first, heard, accepted, work⟩ := performs
  have holdings := sound_holdings sound
  have genuine : h.kind = request.kind :=
    (sound.genuine _ (List.mem_of_mem_head? first)).1
  cases action with
  | authenticate =>
    obtain ⟨-, opens⟩ := accept_authenticate accepted
    rw [genuine] at opens
    exact opens
  | run =>
    obtain ⟨-, kind, -⟩ | ⟨-, kind, -⟩ := accept_run accepted <;>
      exact genuine.symm.trans kind
  | pull =>
    obtain ⟨-, place⟩ := accept_pull (.inl rfl) accepted
    exact holdings.held (place.imp And.left And.left)
  | discard =>
    obtain ⟨-, place⟩ := accept_pull (.inr rfl) accepted
    exact holdings.held (place.imp And.left And.left)
  | begin =>
    obtain ⟨state, kind, -⟩ := accept_begin accepted
    exact ⟨genuine.symm.trans kind, holdings.outside (.inr (.inl state))⟩
  | commit => exact holdings.inside (.inl (accept_end (.inl rfl) accepted).1)
  | rollback => exact holdings.inside (.inl (accept_end (.inr rfl) accepted).1)
  | reset => exact absurd rfl work

end Actor

def Act.Only {α : Type} (P : Abort ServerError → Prop) (x : Act σ π α) : Prop :=
  ∀ a abort b, x a = .error abort b → P abort

namespace Act

variable {α β : Type} {ctx : Context σ π} {h : Handler} {P : Abort ServerError → Prop}

theorem only_bind {x : Act σ π α} {f : α → Act σ π β} (first : x.Only P)
    (further : ∀ u, (f u).Only P) : (x >>= f).Only P := by
  intro a abort b failed
  obtain failed | ⟨u, c, -, failed⟩ := bind_error failed
  · exact first a abort b failed
  · exact further u c abort b failed

theorem only_get : (get : Act σ π (Actor σ π)).Only P := by rintro a abort b ⟨⟩

theorem only_modify (f : Actor σ π → Actor σ π) : (modify f : Act σ π Unit).Only P := by
  rintro a abort b ⟨⟩

theorem only_pure (u : α) : (pure u : Act σ π α).Only P := by rintro a abort b ⟨⟩

theorem only_throw {abort : Abort ServerError} (holds : P abort) :
    (throw abort : Act σ π α).Only P := by
  rintro a _ b ⟨⟩
  exact holds

theorem only_call (f : Instant → σ → α × σ) : (call f : Act σ π α).Only P := by
  rintro a abort b ⟨⟩

theorem only_takeTx : (takeTx : Act σ π (Option TxId)).Only P :=
  only_bind only_get fun _ => only_bind (only_modify _) fun _ => only_pure _

/-! ## Answers

Nothing but a record can break down, so an answer fails only if it cannot be encoded. -/

theorem terminal_error {out : Outbox} {r : Response} {abort : Abort ProtocolError}
    (given : (h.terminal out r).2 = .error abort) : out.queue r = .error abort := by
  unfold Handler.terminal at given
  split at given
  · cases given
  · cases came : out.queue r <;> cases reply : h.reply <;> simp_all [Except.map]

/-- A response that is not sent leaves the connection with an error of its encoding. -/
theorem only_unsent {o : Outbox} {r : Response} {abort : Abort ProtocolError}
    (unsupported : ∀ cause, P (.error (.protocol (.unsupported cause))))
    (plain : ∀ fields, r ≠ .record fields) (unsent : o.queue r = .error abort) :
    (throw (abort.map .protocol) : Act σ π α).Only P := by
  apply only_throw
  unfold Outbox.queue at unsent
  split at unsent
  · cases unsent
  · next outcome =>
    cases unsent
    cases abort with
    | breakdown =>
      exact absurd outcome (Response.encode_prepared fun fields is => absurd is (plain fields))
    | error e =>
      obtain ⟨cause, rfl⟩ := Response.encode_unsupported outcome
      exact unsupported cause

section Answers

variable (unsupported : ∀ cause, P (.error (.protocol (.unsupported cause))))

include unsupported

theorem only_queue {r : Response} (plain : ∀ fields, r ≠ .record fields) :
    (queue r : Act σ π Unit).Only P := by
  intro a abort b failed
  unfold queue at failed
  cases came : a.outbox.queue r with
  | ok outbox => rw [came] at failed; cases failed
  | error met => rw [came] at failed; exact only_unsent unsupported plain came a abort b failed

theorem only_respond {r : Response} (plain : ∀ fields, r ≠ .record fields) :
    (respond h r : Act σ π Unit).Only P := by
  refine only_bind only_get fun a => ?_
  split
  · next given => exact only_unsent unsupported plain (terminal_error given)
  · exact only_pure ()
  · exact only_modify _

theorem only_succeed (metadata : Dict Value) : (succeed h metadata : Act σ π Unit).Only P :=
  only_respond unsupported nofun

theorem only_ignore : (ignore h : Act σ π Unit).Only P := only_respond unsupported nofun

theorem only_fail (f : Failure) : (fail h f : Act σ π Unit).Only P :=
  only_bind (only_modify _) fun _ => only_bind (only_modify _) fun _ =>
    only_respond unsupported nofun

end Answers

end Act

/-- No request has reached work that is not for it, and only so can the program break down. -/
def Abort.IsRouted (breaks : Prop) : Abort ServerError → Prop
  | .error e => e.isMisrouted = false
  | .breakdown => breaks

/-- Work that never fails because a request has reached work that is not for it, and that breaks
down only so. -/
abbrev Act.Routed {α : Type} (breaks : Prop) (x : Act σ π α) : Prop :=
  x.Only (Abort.IsRouted breaks)

namespace Act

variable {α β : Type} {ctx : Context σ π} {h : Handler} {breaks : Prop}

theorem routed_unsupported (cause : Unsupported) :
    (Abort.error (.protocol (.unsupported cause)) : Abort ServerError).IsRouted breaks := rfl

theorem routed_fatal {e : ServerError} (other : e.isMisrouted = false) :
    (fatal e : Act σ π α).Routed breaks := only_throw other

theorem routed_authenticate (request : Request) : (authenticate ctx request h).Routed breaks := by
  unfold authenticate
  split
  · refine only_bind (only_modify _) fun _ => only_bind only_get fun _ => ?_
    exact only_bind (only_modify _) fun _ => only_bind only_get fun _ =>
      only_succeed routed_unsupported _
  · refine only_bind (only_respond routed_unsupported nofun) fun _ => ?_
    exact only_bind (only_modify _) fun _ => routed_fatal rfl

theorem routed_run {request : Request} {next : ConnectionState} (kind : request.kind = .run)
    (may : breaks) : (Act.run ctx request next h).Routed breaks := by
  cases request <;> cases kind
  refine only_bind only_get fun _ => only_bind (only_call _) fun _ => ?_
  split
  · refine only_bind (only_modify _) fun _ => only_bind only_get fun _ => ?_
    exact only_succeed routed_unsupported _
  · exact only_fail routed_unsupported _
  · exact only_throw may

theorem routed_pull (next : ConnectionState) : (pull next h : Act σ π Unit).Routed breaks := by
  refine only_bind only_get fun _ => ?_
  split
  · exact only_modify _
  · exact only_fail routed_unsupported _

theorem routed_beginTx {request : Request} {next : ConnectionState} (kind : request.kind = .begin) :
    (beginTx ctx request next h).Routed breaks := by
  cases request <;> cases kind
  refine only_bind (only_call _) fun _ => ?_
  split
  · exact only_bind (only_modify _) fun _ => only_succeed routed_unsupported _
  · exact only_fail routed_unsupported _

theorem routed_endTx {close : Instant → TxId → σ → Except Failure α × σ}
    {metadata : α → Dict Value} {next : ConnectionState} :
    (endTx close metadata next h : Act σ π Unit).Routed breaks := by
  refine only_bind only_takeTx fun tx => ?_
  split
  · exact only_fail routed_unsupported _
  · refine only_bind (only_call _) fun _ => ?_
    split
    · exact only_bind (only_modify _) fun _ => only_succeed routed_unsupported _
    · exact only_fail routed_unsupported _

theorem routed_perform {action : Action} {request : Request} {next : ConnectionState}
    {s : Session π} (supplied : action.Supplied request s) (may : action = .run → breaks) :
    (perform ctx action request next h).Routed breaks := by
  cases action with
  | authenticate => exact routed_authenticate request
  | run => exact routed_run supplied (may rfl)
  | pull => exact routed_pull next
  | discard => exact routed_pull next
  | begin => exact routed_beginTx supplied.1
  | commit => exact routed_endTx
  | rollback => exact routed_endTx
  | reset => exact supplied.elim

theorem routed_finishReset : (finishReset ctx h).Routed breaks := by
  refine only_bind (only_bind only_takeTx fun tx => ?_) fun _ => ?_
  · split
    · exact only_pure ()
    · exact only_bind (only_call _) fun _ => only_pure ()
  · refine only_bind (only_modify _) fun _ => only_bind (only_modify _) fun _ => ?_
    exact only_succeed routed_unsupported _

theorem routed_reset : (reset ctx h).Routed breaks := by
  refine only_bind (only_modify _) fun _ => only_bind only_get fun _ => ?_
  split
  · exact only_ignore routed_unsupported
  · refine only_bind (only_modify _) fun _ => only_bind only_get fun _ => ?_
    split
    · exact routed_finishReset
    · exact only_bind (only_modify _) fun _ => only_modify _

theorem routed_passed :
    (do ignore h; return Flow.proceed : Act σ π Flow).Routed breaks :=
  only_bind (only_ignore routed_unsupported) fun _ => only_pure _

theorem routed_unknown (signature : UInt8) :
    (processUnknown signature : Act σ π Unit).Routed breaks := by
  have noted : (do queue .ignored; modifyMetrics (·.countIgnored unknownName) :
      Act σ π Unit).Routed breaks :=
    only_bind (only_queue routed_unsupported nofun) fun _ => only_modify _
  refine only_bind only_get fun _ => ?_
  split
  · exact only_bind (routed_fatal rfl) fun _ => noted
  · exact noted

theorem routed_invalid (fault : RequestFault) :
    (processInvalid h fault : Act σ π Unit).Routed breaks := by
  refine only_bind only_get fun _ => ?_
  dsimp only
  split
  · refine only_bind (only_respond routed_unsupported nofun) fun _ => ?_
    exact only_bind (only_modify _) fun _ => routed_fatal rfl
  · split
    · exact only_ignore routed_unsupported
    · exact only_fail routed_unsupported _

end Act

namespace Actor

variable {ctx : Context σ π} {a b : Actor σ π}

theorem performs_next {action : Action} {request : Request} {next : ConnectionState}
    {h : Handler} (performs : a.Performs action request next h) :
    Act.processNext ctx a =
      (Act.perform ctx action request next h >>= fun _ => pure Flow.proceed)
        { a with inbox := a.inbox.tail } := by
  obtain ⟨-, first, heard, accepted, work⟩ := performs
  have full : a.inbox = .request request h :: a.inbox.tail := by
    cases full : a.inbox with
    | nil => simp [full] at first
    | cons m rest => simpa [full] using first
  have goes : ¬(Act.isInterrupted a.session && h.kind != .reset) = true := by
    rcases heard with quiet | resets
    · simp [quiet]
    · simp [resets]
  rw [Act.processNext_cons full]
  change Act.processRequest ctx request h { a with inbox := a.inbox.tail } = _
  unfold Act.processRequest
  rw [Act.get_bind]
  simp only [if_neg goes, accepted]

/-- A turn breaks down only over a query. -/
theorem turn_routed {abort : Abort ServerError} (sound : a.IsSound) (turn : a.hasTurn = true)
    (failed : Act.processNext ctx a = .error abort b) :
    abort.IsRouted (∃ request next h, a.Performs .run request next h) := by
  cases full : a.inbox with
  | nil => simp [Connection.hasTurn, full] at turn
  | cons m rest =>
    have dealing : Act.process ctx m { a with inbox := rest } = .error abort b :=
      (Act.processNext_cons full).symm.trans failed
    cases m with
    | unknown signature =>
      exact Act.only_bind (Act.routed_unknown signature) (fun _ => Act.only_pure _) _ _ b dealing
    | invalid h fault =>
      exact Act.only_bind (Act.routed_invalid fault) (fun _ => Act.only_pure _) _ _ b dealing
    | request request h =>
      change Act.processRequest ctx request h _ = _ at dealing
      by_cases passed : (Act.isInterrupted a.session && h.kind != .reset) = true
      · unfold Act.processRequest at dealing
        rw [Act.get_bind] at dealing
        simp only [if_pos passed] at dealing
        exact Act.routed_passed _ _ b dealing
      have heard : Act.isInterrupted a.session = false ∨ h.kind = .reset := by
        simpa [Decidable.or_iff_not_imp_left] using passed
      cases decided : Decision.of a.session.version a.session.state h.kind with
      | accept action next =>
        by_cases work : action = .reset
        · unfold Act.processRequest at dealing
          rw [Act.get_bind] at dealing
          simp only [if_neg passed, decided, work] at dealing
          exact Act.only_bind Act.routed_reset (fun _ => Act.only_pure _) _ _ b dealing
        · have performs : a.Performs action request next h :=
            ⟨turn, by rw [full]; rfl, heard, decided, work⟩
          rw [performs_next performs] at failed
          refine Act.only_bind (Act.routed_perform (performs_supplied sound performs) ?_)
            (fun _ => Act.only_pure _) _ _ b failed
          rintro rfl
          exact ⟨request, next, h, performs⟩
      | ignore =>
        unfold Act.processRequest at dealing
        rw [Act.get_bind] at dealing
        simp only [if_neg passed, decided] at dealing
        exact Act.routed_passed _ _ b dealing
      | close | fatal =>
        unfold Act.processRequest at dealing
        rw [Act.get_bind] at dealing
        simp only [if_neg passed, decided] at dealing
        cases dealing
        try rfl

/-- In every open connection the state tells what is held, and no turn finds anything missing or
in its way. -/
theorem reachable_holdings (reachable : Reachable ctx a) :
    a.Holdings ∧
    (a.pulling.isSome = true → a.session.result.isSome = true) ∧
    (∀ action request next h, a.Performs action request next h →
      action.Supplied request a.session) ∧
    (a.hasTurn = true → ∀ e b, Act.processNext ctx a = .error (.error e) b →
      e.isMisrouted = false) := by
  have sound := reachable_sound reachable
  refine ⟨sound_holdings sound, holdings_result (sound_holdings sound), ?_, ?_⟩
  · intro action request next h performs
    exact performs_supplied sound performs
  · intro turn e b failed
    exact turn_routed sound turn failed

theorem sample_holdings : ∃ a, Reachable sampleContext a ∧
    a.session.state = .streaming ∧ a.pulling.isSome = true ∧ a.Holdings ∧
      a.session.result.isSome = true := by
  obtain ⟨outbox, metrics, -, reached⟩ := sample_pulls []
  obtain ⟨holdings, waits, -, -⟩ := reachable_holdings reached
  exact ⟨_, reached, rfl, rfl, holdings, waits rfl⟩

/-! ## Breakdowns -/

theorem only_interrupt : (Act.interrupt : Act σ π Unit).Only (· ≠ .breakdown) := by
  refine Act.only_bind (Act.only_modify _) fun _ => Act.only_bind Act.only_get fun c => ?_
  cases c.pulling with
  | none => exact Act.only_pure ()
  | some p =>
    exact Act.only_bind (Act.only_modify _) fun _ => Act.only_ignore fun _ => nofun

theorem only_receiveMessage (message : List UInt8) :
    (Act.receiveMessage message : Act σ π Flow).Only (· ≠ .breakdown) := by
  have kept (m : Inbound) : (do Act.enqueue m; return Flow.proceed : Act σ π Flow).Only
      (· ≠ .breakdown) := Act.only_bind (Act.only_modify _) fun _ => Act.only_pure _
  refine Act.only_bind Act.only_get fun _ => Act.only_bind (Act.only_modify _) fun _ =>
    Act.only_bind Act.only_get fun _ => ?_
  split
  · refine Act.only_bind (Act.only_modify _) fun _ => ?_
    dsimp only
    split
    · refine Act.only_bind ?_ fun _ => ?_
      · exact Act.only_bind (Act.only_modify _) fun _ => Act.only_modify _
      exact Act.only_pure _
    · split
      · exact Act.only_bind only_interrupt fun _ => kept _
      · exact kept _
  · exact Act.only_bind (Act.only_modify _) fun _ => kept _
  · exact Act.only_bind (Act.only_modify _) fun _ => kept _
  · exact Act.only_throw nofun

theorem only_receive (bytes : List UInt8) :
    (Act.receive bytes : Act σ π Flow).Only (· ≠ .breakdown) := by
  have messages (rest : List (List UInt8)) :
      (Act.receiveMessages rest : Act σ π Flow).Only (· ≠ .breakdown) := by
    induction rest with
    | nil => exact Act.only_pure _
    | cons message rest ih =>
      refine Act.only_bind (only_receiveMessage message) fun flow => ?_
      cases flow with
      | close => exact Act.only_pure _
      | proceed => exact ih
  refine Act.only_bind Act.only_get fun _ => Act.only_bind (Act.only_modify _) fun _ =>
    Act.only_bind Act.only_get fun _ => Act.only_bind (Act.only_modify _) fun _ => ?_
  refine Act.only_bind (messages _) fun flow => ?_
  cases flow with
  | close => exact Act.only_pure _
  | proceed =>
    dsimp only
    split
    · exact Act.only_throw nofun
    · exact Act.only_pure _

/-- A connection breaks down over a record, over a query, or while it waits with no deadline. -/
theorem occur_breakdown {o : Occurrence} (sound : a.IsSound) (can : a.allows ctx o = true)
    (broken : occur ctx o a = .error .breakdown b) :
    o = .pumped ∨ (o = .untimed ∧ b = a) ∨
      (o = .turn ∧ ∃ request next h, a.Performs .run request next h) := by
  cases o with
  | received bytes => exact absurd rfl (only_receive bytes a .breakdown b broken)
  | turn => exact .inr (.inr ⟨rfl, turn_routed sound can broken⟩)
  | pumped => exact .inl rfl
  | cleaned =>
    have steady : (Act.finishCleanup ctx).Routed False := by
      refine Act.only_bind Act.only_get fun c => ?_
      split
      · exact Act.only_pure ()
      · exact Act.only_bind (Act.only_modify _) fun _ => Act.routed_finishReset
    exact (Act.only_bind steady (fun _ => Act.only_pure Flow.proceed) a .breakdown b broken).elim
  | untimed =>
    cases broken
    exact .inr (.inl ⟨rfl, rfl⟩)
  | unheard fault text =>
    obtain ⟨e, c, -, failed⟩ := occur_unheard (allows_unheard can).2 fault text
    cases failed.symm.trans broken
  | produced | endOfInput | idled | cleanupExpired | shutDown | broken => cases broken

end Actor

end GraphProtocol
