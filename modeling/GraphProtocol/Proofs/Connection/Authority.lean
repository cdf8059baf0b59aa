import GraphProtocol.Proofs.Connection.Delivery
import GraphProtocol.Proofs.Connection.Ending
import GraphProtocol.Proofs.Connection.Holding

/-!
# When the engine is asked

The engine is asked for the sake of a client only when the client is known, no
reset waits and the state invites the request. A request that has failed bars all
others: until a later reset has succeeded everything is ignored and the engine is
not asked for anything. A client that cannot introduce itself hears nothing after
the failure.
-/

set_option autoImplicit false

namespace GraphProtocol

variable {σ π : Type}

def EngineCall.ends : EngineCall → Bool
  | commit _ | rollback _ => true
  | execute _ _ _ | begin _ _ => false

namespace Actor

/-- What there is behind a call that a client has asked for. -/
structure Authorized (ctx : Context σ π) (a : Actor σ π) (o : Occurrence) (call : EngineCall) :
    Prop where
  turn : o = .turn
  request : ∃ action request next h, a.Performs action request next h ∧
    call ∈ action.calls ctx a request
  owner : ∃ principal token, a.session.principal = some principal ∧
    ctx.authenticate token = .ok principal
  undisturbed : a.inbox.countP Inbound.isReset = 0
  clean : a.cleanup = none
  place : a.session.state = .ready ∨ a.session.state = .txReady
  ends : call.ends = true → a.session.state = .txReady

def Barred (a : Actor σ π) : Prop := a.session.state = .failed ∨ a.session.state = .interrupted

/-- The occurrence may give a reset its answer. -/
def AnswersReset (a : Actor σ π) : Occurrence → Prop
  | .turn => a.hasTurn = true ∧ ∃ m, a.inbox.head? = some m ∧ m.isReset = true
  | .cleaned => a.cleanup.isSome = true
  | _ => False

/-- A call that gives up the held transaction unasked, when a reset succeeds or the connection
ends. -/
structure CleansUp (ctx : Context σ π) (a : Actor σ π) (o : Occurrence) (call : EngineCall) :
    Prop where
  rollback : ∃ tx, call = .rollback tx
  cause : (a.step ctx o).1.hasEnded = true ∨ (a.AnswersReset o ∧ (a.step ctx o).2.Renewed)

inductive Shut (ctx : Context σ π) (a : Actor σ π) (o : Occurrence) :
    Progress × Actor σ π → Prop where
  | stays {b : Actor σ π} : b.Barred →
      b.outbox.accepted = a.outbox.accepted ∨ b.outbox.accepted = .ignored :: a.outbox.accepted →
      a.calls ctx o = [] → Shut ctx a o (.running, b)
  | renewed {b : Actor σ π} : a.AnswersReset o →
      b.outbox.accepted = .success .empty :: a.outbox.accepted → b.Renewed →
      a.calls ctx o = a.givingUp → Shut ctx a o (.running, b)
  | ended {outcome : Except ServerError Unit} {b : Actor σ π} :
      b.outbox.accepted = a.outbox.accepted → a.calls ctx o = a.givingUp →
      Shut ctx a o (.ended outcome, b)
  /-- The clock cannot tell how long to wait, and the connection is left as it is. -/
  | brokenDown : o = .untimed → a.calls ctx o = [] → Shut ctx a o (.brokenDown, a)

/-- At the moment `m` of a step everything is cancelled, and the failure is not yet told. -/
structure Fails (a : Actor σ π) (f : Failure) (b m : Actor σ π) : Prop where
  fired : m.session.cancel.fired = true
  unsaid : m.outbox.accepted = a.outbox.accepted
  answered : ∃ h c, m.Answered h (.failure f) c ∧ b.session = c.session ∧
    b.outbox.accepted = c.outbox.accepted

def history (ctx : Context σ π) (a : Actor σ π) (moves : List (Move σ)) : List EngineCall :=
  a.gather ctx (fun a move =>
    match move with
    | .here o => a.calls ctx o
    | .elsewhere _ _ _ => []) moves

/-- A run in which everything is ignored and nothing is asked. -/
structure Shuts (ctx : Context σ π) (a : Actor σ π) (moves : List (Move σ)) (b : Actor σ π) :
    Prop where
  run : a.run? ctx moves = some b
  barred : b.Barred
  ignored : ∃ n, b.outbox.accepted = List.replicate n .ignored ++ a.outbox.accepted
  unasked : a.history ctx moves = []

variable {ctx : Context σ π} {a b c : Actor σ π} {o : Occurrence}

/-! ## Calls -/

theorem mem_givingUp {call : EngineCall} (given : call ∈ a.givingUp) :
    ∃ tx, call = .rollback tx := by
  unfold givingUp at given
  obtain ⟨tx, -, rfl⟩ := List.mem_map.mp given
  exact ⟨tx, rfl⟩

/-- Where an accepted request that asks the engine finds the session. -/
theorem asking_place {action : Action} {request : Request} {next : ConnectionState} {h : Handler}
    {call : EngineCall} (performs : a.Performs action request next h)
    (asked : call ∈ action.calls ctx a request) :
    (a.session.state = .ready ∨ a.session.state = .txReady) ∧
      (call.ends = true → a.session.state = .txReady) := by
  have accepted := performs.accepted
  cases action with
  | authenticate | pull | discard | reset => cases asked
  | run =>
    cases request with
    | run statement parameters metadata =>
      cases List.mem_singleton.mp asked
      rcases accept_run accepted with ⟨state, -⟩ | ⟨state, -⟩
      · exact ⟨.inl state, nofun⟩
      · exact ⟨.inr state, nofun⟩
    | init | hello | pullAll | discardAll | reset | begin | commit | rollback | goodbye =>
      cases asked
  | begin =>
    cases request with
    | begin metadata =>
      cases List.mem_singleton.mp asked
      exact ⟨.inl (accept_begin accepted).1, nofun⟩
    | init | hello | pullAll | discardAll | reset | run | commit | rollback | goodbye =>
      cases asked
  | commit =>
    have state := (accept_end (.inl rfl) accepted).1
    exact ⟨.inr state, fun _ => state⟩
  | rollback =>
    have state := (accept_end (.inr rfl) accepted).1
    exact ⟨.inr state, fun _ => state⟩

theorem performs_authorized {action : Action} {request : Request} {next : ConnectionState}
    {h : Handler} {call : EngineCall} (reachable : Reachable ctx a)
    (performs : a.Performs action request next h) (asked : call ∈ action.calls ctx a request) :
    a.Authorized ctx .turn call := by
  have sound := reachable_sound reachable
  obtain ⟨place, ends⟩ := asking_place performs asked
  have late : a.session.state ≠ .connected := by
    rcases place with state | state <;> rw [state] <;> decide
  have clean := (hasTurn_free performs.turn).1
  obtain ⟨principal, owned⟩ := Option.isSome_iff_exists.mp (owned_of_late sound.fits late)
  obtain ⟨token, known⟩ := reachable_owner reachable owned
  refine ⟨rfl, ⟨action, request, next, h, performs, asked⟩, ⟨principal, token, owned, known⟩, ?_,
    clean, place, ends⟩
  rw [← sound.counted]
  have calm := (interrupted_iff sound late clean).not.mp
  rcases place with state | state <;> simpa [state] using calm

theorem turn_calls {m : Inbound} {rest : List Inbound} (full : a.inbox = m :: rest) :
    a.asked ctx .turn = m.calls ctx a := by
  simp only [asked, full]

theorem calls_early {m : Inbound} (early : a.session.state = .connected) : m.calls ctx a = [] := by
  cases m with
  | unknown signature => rfl
  | invalid h fault => rfl
  | request request h =>
    dsimp only [Inbound.calls]
    split
    · rfl
    · cases decided : Decision.of a.session.version a.session.state h.kind with
      | close | fatal | ignore => rfl
      | accept action next =>
        obtain ⟨-, -, rfl⟩ | ⟨late, -, -⟩ | listed := accept_cases decided
        · rfl
        · exact absurd early late
        · rw [early] at listed
          simp [Transition.base, Transition.transactional] at listed

/-- For a client that is turned away nothing is asked. -/
theorem unheard_asked {fault : TransportFault} {text : String}
    (can : a.allows ctx (.unheard fault text) = true) : a.asked ctx (.unheard fault text) = [] := by
  have away := (allows_unheard can).2
  have early : a.session.state = .connected := by
    unfold turnsAway at away
    exact of_decide_eq_true (Bool.and_eq_true_iff.mp away).1
  cases full : a.inbox with
  | nil => simp only [asked, full]
  | cons m rest =>
    simp only [asked, full]
    exact calls_early early

/-- A reset asks something only when it succeeds. -/
theorem reset_asks {m : Inbound} {rest : List Inbound} (sound : a.IsSound) (turn : a.hasTurn = true)
    (full : a.inbox = m :: rest) (late : a.session.state ≠ .connected) (resets : m.isReset = true) :
    (∃ b, a.step ctx .turn = (.running, b) ∧ b.session.state = a.session.state ∧
      (b.outbox.accepted = a.outbox.accepted ∨ b.outbox.accepted = .ignored :: a.outbox.accepted) ∧
      a.resetting = []) ∨
    ∃ b, a.step ctx .turn = (.running, b) ∧
      b.outbox.accepted = .success .empty :: a.outbox.accepted ∧ b.Renewed ∧
      a.resetting = a.givingUp := by
  have left := acknowledged_counted sound full resets
  have taken : a.ResetTaken ctx rest (a.step ctx .turn) := turn_resets sound turn full late resets
  unfold resetting
  rw [left]
  generalize a.step ctx .turn = result at taken ⊢
  cases taken with
  | passed more ignored =>
    left
    refine ⟨_, rfl, rfl, .inr ignored, ?_⟩
    rw [if_pos (.inl more)]
  | done last free accepted _ renewed =>
    right
    refine ⟨_, rfl, accepted, renewed, ?_⟩
    rw [if_neg (by simp [last, free])]
  | waits last held =>
    left
    refine ⟨_, rfl, rfl, .inl rfl, ?_⟩
    rw [if_pos (.inr (by rw [held]; rfl))]

theorem reset_calls {m : Inbound} (late : a.session.state ≠ .connected) (genuine : m.Genuine)
    (resets : m.isReset = true) : m.calls ctx a = a.resetting := by
  cases m with
  | unknown signature => cases resets
  | invalid h fault => cases resets
  | request request h =>
    have kind := (request_reset genuine).mp resets
    simp [Inbound.calls, kind, reset_accepted late]

/-- What a turn asks is asked by the work on a request, by a reset or not at all. -/
theorem turn_work (ctx : Context σ π) (turn : a.hasTurn = true) :
    (∃ action request next h, a.Performs action request next h ∧
      a.asked ctx .turn = action.calls ctx a request) ∨
    (∃ request h rest, a.inbox = .request request h :: rest ∧ h.kind = .reset ∧
      a.session.state ≠ .connected ∧ a.asked ctx .turn = a.resetting) ∨
    a.asked ctx .turn = [] := by
  cases full : a.inbox with
  | nil => simp [Connection.hasTurn, full] at turn
  | cons m rest =>
    rw [turn_calls full]
    cases m with
    | unknown signature => exact .inr (.inr rfl)
    | invalid h fault => exact .inr (.inr rfl)
    | request request h =>
      by_cases passed : (Act.isInterrupted a.session && h.kind != .reset) = true
      · exact .inr (.inr (by simp only [Inbound.calls, if_pos passed]))
      have heard : Act.isInterrupted a.session = false ∨ h.kind = .reset := by
        simpa [Decidable.or_iff_not_imp_left] using passed
      cases decided : Decision.of a.session.version a.session.state h.kind with
      | close | fatal | ignore =>
        exact .inr (.inr (by simp only [Inbound.calls, if_neg passed, decided]))
      | accept action next =>
        by_cases work : action = .reset
        · subst work
          obtain ⟨late, kind⟩ := accept_reset decided
          refine .inr (.inl ⟨request, h, rest, rfl, kind, late, ?_⟩)
          simp only [Inbound.calls, if_neg passed, decided]
        · left
          refine ⟨action, request, next, h, ⟨turn, by rw [full]; rfl, heard, decided, work⟩, ?_⟩
          simp only [Inbound.calls, if_neg passed, decided]

theorem performs_calls {action : Action} {request : Request} {next : ConnectionState} {h : Handler}
    (performs : a.Performs action request next h) :
    a.asked ctx .turn = action.calls ctx a request := by
  obtain ⟨rest, full⟩ := List.head?_eq_some_iff.mp performs.first
  have heard : ¬(Act.isInterrupted a.session && h.kind != .reset) = true := by
    rcases performs.heard with calm | resets
    · simp [calm]
    · simp [resets]
  have work := performs.work
  rw [turn_calls full]
  simp only [Inbound.calls, if_neg heard, performs.accepted]

/-- A reset is no work that a client asks the engine for. -/
theorem reset_performs {m : Inbound} {rest : List Inbound} (sound : a.IsSound)
    (full : a.inbox = m :: rest) (late : a.session.state ≠ .connected) (resets : m.isReset = true)
    {action : Action} {request : Request} {next : ConnectionState} {h : Handler} :
    ¬a.Performs action request next h := by
  intro performs
  obtain rfl : m = .request request h := by
    have first := performs.first
    rw [full] at first
    exact Option.some.inj first
  have genuine := sound.genuine _ (by rw [full]; exact List.mem_cons_self)
  have accepted := performs.accepted
  rw [(request_reset genuine).mp resets, reset_accepted late] at accepted
  cases accepted
  exact performs.work rfl

structure Renews (ctx : Context σ π) (a : Actor σ π) (o : Occurrence) : Prop where
  resets : a.AnswersReset o
  running : (a.step ctx o).1 = .running
  renewed : (a.step ctx o).2.Renewed
  asks : a.asked ctx o = a.givingUp
  unrequested : o = .turn → ∀ action request next h, ¬a.Performs action request next h

/-- What the turn of a message asks is asked for a client, or for a reset that succeeds. -/
theorem turn_asks (reachable : Reachable ctx a) (turn : a.hasTurn = true) :
    (∀ call ∈ a.asked ctx .turn, a.Authorized ctx .turn call) ∨ a.Renews ctx .turn := by
  have sound := reachable_sound reachable
  rcases turn_work ctx turn with ⟨action, request, next, h, performs, asked⟩ |
    ⟨request, h, rest, full, kind, late, asked⟩ | asked
  · left
    rw [asked]
    intro call given
    exact performs_authorized reachable performs given
  · have genuine := sound.genuine (.request request h) (by rw [full]; exact List.mem_cons_self)
    have resets := (request_reset genuine).mpr kind
    rcases reset_asks sound turn full late resets with ⟨b, -, -, -, none⟩ |
      ⟨b, stepped, -, renewed, asks⟩
    · left
      rw [asked, none]
      rintro call ⟨⟩
    · right
      constructor
      · exact ⟨turn, _, by rw [full]; rfl, resets⟩
      · rw [stepped]
      · rw [stepped]
        exact renewed
      · exact asked.trans asks
      · exact fun _ _ _ _ _ => reset_performs sound full late resets
  · left
    rw [asked]
    rintro call ⟨⟩

theorem length_givingUp (a : Actor σ π) : a.givingUp.length ≤ 1 := by
  unfold givingUp
  cases a.session.tx <;> simp

theorem cleaned_asks {c : Cleanup π} (waits : a.cleanup = some c) :
    a.asked ctx .cleaned = a.givingUp := by
  simp only [asked, waits, Option.isSome_some, if_true]

theorem occurrence_asks (reachable : Reachable ctx a) (can : a.allows ctx o = true) :
    (∀ call ∈ a.asked ctx o, a.Authorized ctx o call) ∨ a.Renews ctx o := by
  cases o with
  | turn => exact turn_asks reachable can
  | cleaned =>
    right
    obtain ⟨c, waits⟩ : ∃ c, a.cleanup = some c := by
      cases waits : a.cleanup with
      | none => simp [allows, waits] at can
      | some c => exact ⟨c, rfl⟩
    obtain ⟨b, stepped, -, -, renewed⟩ := cleaned_succeeds ctx (reachable_sound reachable) waits
    constructor
    · exact Option.isSome_of_eq_some waits
    · rw [stepped]
    · rw [stepped]
      exact renewed
    · exact cleaned_asks waits
    · intro turn
      cases turn
  | unheard fault text =>
    left
    rw [unheard_asked can]
    rintro call ⟨⟩
  | received | endOfInput | produced | pumped | cleanupExpired | idled | untimed | shutDown
  | broken =>
    left
    rintro call ⟨⟩

theorem step_calls (reachable : Reachable ctx a) (can : a.allows ctx o = true) :
    ∃ requested cleanup, a.calls ctx o = requested ++ cleanup ∧
      (∀ action request next h, o = .turn → a.Performs action request next h →
        requested = action.calls ctx a request) ∧
      (∀ call ∈ requested, a.Authorized ctx o call) ∧
      (∀ call ∈ cleanup, a.CleansUp ctx o call) ∧ cleanup.length ≤ 1 := by
  rw [calls_eq]
  have whole : ∀ action request next h, o = .turn → a.Performs action request next h →
      a.asked ctx o = action.calls ctx a request := by
    rintro action request next h rfl performs
    exact performs_calls performs
  by_cases ended : (a.step ctx o).1.hasEnded = true
  · rw [if_pos ended]
    rcases occurrence_asks reachable can with authorized | renews
    · refine ⟨_, _, rfl, whole, authorized, ?_, length_givingUp _⟩
      intro call given
      exact ⟨mem_givingUp given, .inl ended⟩
    · rw [renews.running] at ended
      cases ended
  · rw [if_neg ended, List.append_nil]
    rcases occurrence_asks reachable can with authorized | renews
    · exact ⟨_, [], (List.append_nil _).symm, whole, authorized, nofun, Nat.zero_le 1⟩
    · refine ⟨[], a.asked ctx o, rfl, ?_, nofun, ?_, ?_⟩
      · intro action request next h turn performs
        exact absurd performs (renews.unrequested turn action request next h)
      · intro call given
        rw [renews.asks] at given
        exact ⟨mem_givingUp given, .inr ⟨renews.resets, renews.renewed⟩⟩
      · rw [renews.asks]
        exact length_givingUp a

/-! ## Failures -/

theorem step_moves (can : a.allows ctx o = true) (stepped : a.step ctx o = (.running, b)) :
    a.move? ctx (.here o) = some b := by
  simp only [move?, can, if_true, stepped]

theorem words_unique {new : List Response} (words : List Response)
    (added : b.outbox.accepted = new ++ a.outbox.accepted)
    (said : b.outbox.accepted = words ++ a.outbox.accepted) : new = words :=
  List.append_cancel_right (added.symm.trans said)

theorem failure_step {new : List Response} {f : Failure} (can : a.allows ctx o = true)
    (stepped : a.step ctx o = (.running, b))
    (added : b.outbox.accepted = new ++ a.outbox.accepted) (told : .failure f ∈ new) :
    b.outbox.accepted = .failure f :: a.outbox.accepted ∧ b.session.state = .failed ∧
      b.session.principal = a.session.principal ∧ ∃ m, a.Fails f b m := by
  cases (step_course can stepped).voice with
  | nothing same =>
    rw [words_unique [] added same] at told
    cases told
  | @said _ r plain more =>
    rw [words_unique [r] added more] at told
    cases List.mem_singleton.mp told
    exact absurd rfl plain
  | @failed m _ c h g owner _ unsaid answered same said =>
    cases answered with
    | dropped =>
      rw [words_unique [] added (said.trans unsaid)] at told
      cases told
    | sent room =>
      have more : b.outbox.accepted = [.failure g] ++ a.outbox.accepted := by
        rw [said, (queue_accepted room).1]
        exact congrArg _ unsaid
      rw [words_unique [.failure g] added more] at told
      cases List.mem_singleton.mp told
      refine ⟨more, ?_, ?_, m.failing, rfl, unsaid, h, _, .sent room, same, said⟩
      · rw [same]; rfl
      · rw [same]; exact owner

/-- A breakdown is not told. -/
theorem broken_untold {new : List Response} {f : Failure} (can : a.allows ctx o = true)
    (stepped : a.step ctx o = (.brokenDown, b))
    (added : b.outbox.accepted = new ++ a.outbox.accepted) : .failure f ∉ new := by
  rcases broken_says can stepped with same | ⟨ignored, -⟩
  · rw [words_unique [] added same]
    exact List.not_mem_nil
  · rw [words_unique [.ignored] added ignored]
    simp

/-- A failure in an open session bars everything else. -/
theorem late_failure {new : List Response} {f : Failure} (reachable : Reachable ctx a)
    (can : a.allows ctx o = true) (late : a.session.state ≠ .connected)
    (added : (a.step ctx o).2.outbox.accepted = new ++ a.outbox.accepted)
    (told : .failure f ∈ new) :
    ∃ b, a.step ctx o = (.running, b) ∧ Reachable ctx b ∧
      b.outbox.accepted = .failure f :: a.outbox.accepted ∧ b.session.state = .failed ∧
      b.inbox.countP Inbound.isReset = 0 ∧ b.cleanup = none := by
  cases stepped : a.step ctx o with | mk progress b =>
  rw [stepped] at added
  cases progress with
  | ended outcome =>
    rcases ended_says can stepped with same | ⟨ignored, -⟩ | ⟨early, -⟩
    · rw [words_unique [] added same] at told
      cases told
    · rw [words_unique [.ignored] added ignored] at told
      simp at told
    · exact absurd early late
  | brokenDown => exact absurd told (broken_untold can stepped added)
  | running =>
    obtain ⟨same, state, -⟩ := failure_step can stepped added told
    have reached : Reachable ctx b := reachable.move (step_moves can stepped)
    have sound := reachable_sound reached
    have fits := sound.fits
    unfold Fits at fits
    simp only [state] at fits
    refine ⟨b, rfl, reached, same, state, ?_, fits.2.2.2⟩
    rw [← sound.counted]
    exact fits.2.1

/-- A failure before the session is open is the last response. -/
theorem early_failure {new : List Response} {f : Failure} (reachable : Reachable ctx a)
    (can : a.allows ctx o = true) (early : a.session.state = .connected)
    (added : (a.step ctx o).2.outbox.accepted = new ++ a.outbox.accepted)
    (told : .failure f ∈ new) :
    ∃ e b, a.step ctx o = (.ended (.error e), b) ∧
      b.outbox.accepted = .failure f :: a.outbox.accepted := by
  cases stepped : a.step ctx o with | mk progress b =>
  rw [stepped] at added
  cases progress with
  | ended outcome =>
    rcases ended_says can stepped with same | ⟨ignored, -⟩ | ⟨-, unwell, g, said⟩
    · rw [words_unique [] added same] at told
      cases told
    · rw [words_unique [.ignored] added ignored] at told
      simp at told
    · rw [words_unique [.failure g] added said] at told
      cases List.mem_singleton.mp told
      cases outcome with
      | ok done => cases unwell
      | error e => exact ⟨e, b, rfl, said⟩
  | brokenDown => exact absurd told (broken_untold can stepped added)
  | running =>
    obtain ⟨-, state, owner, -⟩ := failure_step can stepped added told
    have reached : Reachable ctx b := reachable.move (step_moves can stepped)
    have owned := owned_of_late (reachable_sound reached).fits (by rw [state]; decide)
    have fits := (reachable_sound reachable).fits
    unfold Fits at fits
    simp only [early] at fits
    rw [owner, fits.1] at owned
    cases owned

/-! ## After a failure -/

theorem barred_idle (sound : a.IsSound) (barred : a.Barred) : a.pulling = none := by
  have fits := sound.fits
  unfold Fits at fits
  rcases barred with state | state <;> simp only [state] at fits
  · exact fits.2.2.1
  · exact fits.2.1

theorem barred_late (barred : a.Barred) : a.session.state ≠ .connected := by
  rcases barred with state | state <;> rw [state] <;> decide

/-- After a failure only resets are accepted. -/
theorem barred_accepts {v : Version} {k : RequestKind} {action : Action} {next : ConnectionState}
    (barred : a.Barred) (accepted : Decision.of v a.session.state k = .accept action next) :
    action = .reset := by
  rcases accept_cases accepted with ⟨early, -⟩ | ⟨-, -, resets⟩ | listed
  · exact absurd early (barred_late barred)
  · exact resets
  · rcases barred with state | state <;> rw [state] at listed <;>
      simp [Transition.base, Transition.transactional] at listed

theorem received_barred {messages : List (List UInt8)} (received : a.Received messages b)
    (barred : a.Barred) (idle : a.pulling = none) : b.Barred := by
  induction received with
  | nothing => exact barred
  | @message a _ _ _ _ admitted _ ih =>
    cases admitted with
    | plain => exact ih barred idle
    | reset _ _ interrupted =>
      cases interrupted with
      | calm =>
        have late : (a.session.recordRequest a.now).state ≠ .connected := barred_late barred
        apply ih _ idle
        right
        change (a.session.recordRequest a.now).interrupt.state = .interrupted
        simp [Session.interrupt, late, Session.withState]
      | cut hp => cases idle.symm.trans hp

theorem answered_ignored {h : Handler} (answered : a.Answered h .ignored b) :
    b.session = a.session ∧
      (b.outbox.accepted = a.outbox.accepted ∨
        b.outbox.accepted = .ignored :: a.outbox.accepted) := by
  cases answered with
  | dropped => exact ⟨rfl, .inl rfl⟩
  | sent room => exact ⟨rfl, .inr (queue_accepted room).1⟩

/-- After a failure whatever has its turn is ignored, unless it is a reset. -/
theorem dealt_barred {m : Inbound} (barred : a.Barred) (genuine : m.Genuine)
    (plain : m.isReset = false) (dealt : a.Dealt ctx m b) :
    b.session = a.session ∧
      (b.outbox.accepted = a.outbox.accepted ∨
        b.outbox.accepted = .ignored :: a.outbox.accepted) := by
  cases dealt with
  | unknown _ room => exact ⟨rfl, .inr (queue_accepted room).1⟩
  | invalidPassed _ answered | passed _ _ answered | ignored _ _ answered =>
    exact answered_ignored answered
  | invalidRefused _ _ notFailed notInterrupted =>
    rcases barred with state | state
    · exact absurd state notFailed
    · exact absurd state notInterrupted
  | performed _ accepted performed =>
    cases barred_accepts barred accepted
    have resets := (accept_reset accepted).2
    exact absurd ((request_reset genuine).mpr resets) (by simp [plain])
  | resetPassed accepted | resetDone accepted | resetWaits accepted =>
    have resets := (accept_reset accepted).2
    exact absurd ((request_reset genuine).mpr resets) (by simp [plain])

theorem calls_barred {m : Inbound} (barred : a.Barred) (genuine : m.Genuine)
    (plain : m.isReset = false) : m.calls ctx a = [] := by
  cases m with
  | unknown signature => rfl
  | invalid h fault => rfl
  | request request h =>
    by_cases passed : (Act.isInterrupted a.session && h.kind != .reset) = true
    · simp only [Inbound.calls, if_pos passed]
    simp only [Inbound.calls, if_neg passed]
    cases decided : Decision.of a.session.version a.session.state h.kind with
    | close | fatal | ignore => rfl
    | accept action next =>
      cases barred_accepts barred decided
      have resets := (accept_reset decided).2
      exact absurd ((request_reset genuine).mpr resets) (by simp [plain])

theorem running_calls (stepped : a.step ctx o = (.running, b)) : a.calls ctx o = a.asked ctx o := by
  rw [calls_eq, stepped]
  simp [Progress.hasEnded]

/-- After a failure nothing but a reset asks anything. -/
theorem barred_asks (sound : a.IsSound) (barred : a.Barred) (can : a.allows ctx o = true)
    (other : ¬a.AnswersReset o) : a.asked ctx o = [] := by
  cases o with
  | turn =>
    cases full : a.inbox with
    | nil => simp only [asked, full]
    | cons m rest =>
      rw [turn_calls full]
      have genuine : m.Genuine := sound.genuine m (by rw [full]; exact List.mem_cons_self)
      apply calls_barred barred genuine
      by_contra resets
      exact other ⟨can, m, by rw [full]; rfl, by simpa using resets⟩
  | cleaned =>
    simp only [asked]
    exact if_neg other
  | unheard fault text => exact unheard_asked can
  | received | endOfInput | produced | pumped | cleanupExpired | idled | untimed | shutDown
  | broken => rfl

theorem barred_occurs (sound : a.IsSound) (barred : a.Barred) (other : ¬a.AnswersReset o)
    (occurred : a.Occurred ctx o b) : b.Barred ∧
      (b.outbox.accepted = a.outbox.accepted ∨
        b.outbox.accepted = .ignored :: a.outbox.accepted) := by
  cases occurred with
  | @received bytes _ can received =>
    have idle : a.pulling = none := barred_idle sound barred
    have same := received_silent received idle
    exact ⟨received_barred received barred idle, .inl (congrArg Outbox.accepted same)⟩
  | @turn m rest _ can full dealt =>
    have genuine : m.Genuine := sound.genuine m (by rw [full]; exact List.mem_cons_self)
    have plain : m.isReset = false := by
      by_contra resets
      exact other ⟨can, m, by rw [full]; rfl, by simpa using resets⟩
    obtain ⟨session, said⟩ :=
      dealt_barred (a := { a with inbox := rest }) barred genuine plain dealt
    refine ⟨?_, said⟩
    unfold Barred
    rw [session]
    exact barred
  | produced => exact ⟨barred, .inl rfl⟩
  | pumped _ hp => cases (barred_idle sound barred).symm.trans hp
  | cleaned waits => exact absurd (Option.isSome_of_eq_some waits) other

theorem barred_resets (sound : a.IsSound) (barred : a.Barred) (resets : a.AnswersReset o) :
    a.Shut ctx o (a.step ctx o) := by
  cases o with
  | turn =>
    obtain ⟨turn, m, first, reset⟩ := resets
    obtain ⟨rest, full⟩ : ∃ rest, a.inbox = m :: rest := List.head?_eq_some_iff.mp first
    have asked : a.asked ctx .turn = a.resetting := by
      rw [turn_calls full]
      have genuine := sound.genuine m (by rw [full]; exact List.mem_cons_self)
      exact reset_calls (barred_late barred) genuine reset
    rcases reset_asks sound turn full (barred_late barred) reset with
      ⟨b, stepped, state, said, none⟩ | ⟨b, stepped, said, renewed, asks⟩
    · rw [stepped]
      refine .stays ?_ said ((running_calls stepped).trans (asked.trans none))
      unfold Barred
      rw [state]
      exact barred
    · rw [stepped]
      exact .renewed ⟨turn, m, first, reset⟩ said renewed
        ((running_calls stepped).trans (asked.trans asks))
  | cleaned =>
    obtain ⟨c, waits⟩ := Option.isSome_iff_exists.mp resets
    obtain ⟨b, stepped, said, -, renewed⟩ := cleaned_succeeds ctx sound waits
    rw [stepped]
    exact .renewed resets said renewed ((running_calls stepped).trans (cleaned_asks waits))
  | received | endOfInput | produced | pumped | cleanupExpired | idled | untimed | shutDown | broken
  | unheard => exact resets.elim

theorem barred_step (reachable : Reachable ctx a) (barred : a.Barred)
    (can : a.allows ctx o = true) : a.Shut ctx o (a.step ctx o) := by
  have sound := reachable_sound reachable
  -- Only the answer to a reset can open the session again.
  by_cases resets : a.AnswersReset o
  · exact barred_resets sound barred resets
  have quiet := barred_asks sound barred can resets
  cases stepped : a.step ctx o with | mk progress b =>
  cases progress with
  | running =>
    obtain ⟨c, occurred, rfl⟩ := step_outcome can stepped
    obtain ⟨still, said⟩ := barred_occurs sound barred resets occurred
    rw [← poised_accepted c] at said
    exact .stays still said ((running_calls stepped).trans quiet)
  | ended outcome =>
    have said : b.outbox.accepted = a.outbox.accepted := by
      rcases ended_says can stepped with same | ⟨-, held⟩ | ⟨early, -⟩
      · exact same
      · rw [barred_idle sound barred] at held
        cases held
      · exact absurd early (barred_late barred)
    apply Shut.ended said
    have passes : a.Passes ctx.engine (a.asked ctx o) _ := (occur_asks o a).passes
    have kept := passes.held
    rw [quiet] at kept
    rw [calls_eq, quiet, stepped, List.nil_append]
    simp only [Progress.hasEnded, givingUp, kept]
    rfl
  | brokenDown =>
    have unasked : a.calls ctx o = [] := by
      rw [calls_eq, quiet, stepped]
      rfl
    obtain rfl | ⟨untimed, rfl⟩ | ⟨rfl, request, next, h, performs⟩ :=
      occur_breakdown sound can (step_brokenDown stepped)
    · simp [allows, Connection.canPump, barred_idle sound barred] at can
    · exact .brokenDown untimed unasked
    · cases barred_accepts barred performs.accepted

theorem shuts_trans {early late : List (Move σ)} (first : a.Shuts ctx early b)
    (rest : b.Shuts ctx late c) : a.Shuts ctx (early ++ late) c := by
  obtain ⟨n, said⟩ := first.ignored
  obtain ⟨m, more⟩ := rest.ignored
  constructor
  · rw [run_append first.run]
    exact rest.run
  · exact rest.barred
  · refine ⟨m + n, ?_⟩
    rw [more, said, ← List.append_assoc, List.replicate_append_replicate]
  · unfold history
    rw [gather_append _ first.run]
    exact List.append_eq_nil_iff.mpr ⟨first.unasked, rest.unasked⟩

theorem barred_move {move : Move σ} (reachable : Reachable ctx a) (barred : a.Barred)
    (moved : a.move? ctx move = some b) :
    a.Shuts ctx [move] b ∨ ∃ o, move = .here o ∧ a.AnswersReset o ∧
      b.outbox.accepted = .success .empty :: a.outbox.accepted ∧ b.Renewed ∧
      a.calls ctx o = a.givingUp := by
  have run : a.run? ctx [move] = some b := by simp only [run?, moved, Option.bind_some]
  cases move with
  | elsewhere engine metrics now =>
    cases moved
    exact .inl ⟨run, barred, ⟨0, rfl⟩, rfl⟩
  | here o =>
    obtain ⟨can, stepped⟩ := moved_step moved
    have shut := barred_step reachable barred can
    rw [stepped] at shut
    cases shut with
    | renewed resets said renewed asks => exact .inr ⟨o, rfl, resets, said, renewed, asks⟩
    | stays still said none =>
      left
      refine ⟨run, still, ?_, ?_⟩
      · rcases said with same | more
        · exact ⟨0, same⟩
        · exact ⟨1, more⟩
      · unfold history
        rw [gather_cons _ moved]
        exact List.append_eq_nil_iff.mpr ⟨none, rfl⟩

theorem barred_run {moves : List (Move σ)} (reachable : Reachable ctx a) (barred : a.Barred)
    (run : a.run? ctx moves = some b) :
    a.Shuts ctx moves b ∨ ∃ early o late c d, moves = early ++ .here o :: late ∧
      a.Shuts ctx early c ∧ c.move? ctx (.here o) = some d ∧ c.AnswersReset o ∧
      d.outbox.accepted = .success .empty :: c.outbox.accepted ∧ d.Renewed ∧
      c.calls ctx o = c.givingUp := by
  -- The induction goes as far as the session stays barred: a move that renews it ends it.
  induction moves generalizing a with
  | nil =>
    cases run
    exact .inl ⟨rfl, barred, ⟨0, rfl⟩, rfl⟩
  | cons move moves ih =>
    obtain ⟨c, moved, further⟩ := Option.bind_eq_some_iff.mp run
    rcases barred_move reachable barred moved with first | ⟨o, rfl, resets, said, renewed, asks⟩
    · rcases ih (reachable.move moved) first.barred further with rest |
        ⟨early, o, late, d, e, rfl, rest, last⟩
      · exact .inl (shuts_trans first rest)
      · exact .inr ⟨move :: early, o, late, d, e, rfl, shuts_trans first rest, last⟩
    · refine .inr ⟨[], o, moves, a, c, rfl, ⟨rfl, barred, ⟨0, rfl⟩, rfl⟩, moved, resets, said,
        renewed, asks⟩

/-- What is asked of the engine in every open connection, and what follows a failure. -/
theorem reachable_authority (reachable : Reachable ctx a) :
    (∀ o, a.allows ctx o = true → ∃ requested cleanup, a.calls ctx o = requested ++ cleanup ∧
      (∀ action request next h, o = .turn → a.Performs action request next h →
        requested = action.calls ctx a request) ∧
      (∀ call ∈ requested, a.Authorized ctx o call) ∧
      (∀ call ∈ cleanup, a.CleansUp ctx o call) ∧ cleanup.length ≤ 1) ∧
    (∀ o new f, a.allows ctx o = true →
      (a.step ctx o).2.outbox.accepted = new ++ a.outbox.accepted → .failure f ∈ new →
      a.session.state ≠ .connected →
      ∃ b, a.step ctx o = (.running, b) ∧ Reachable ctx b ∧
        b.outbox.accepted = .failure f :: a.outbox.accepted ∧ b.session.state = .failed ∧
        b.inbox.countP Inbound.isReset = 0 ∧ b.cleanup = none) ∧
    (a.Barred → (∀ o, a.allows ctx o = true → a.Shut ctx o (a.step ctx o)) ∧
      ∀ moves b, a.run? ctx moves = some b →
        a.Shuts ctx moves b ∨ ∃ early o late c d, moves = early ++ .here o :: late ∧
          a.Shuts ctx early c ∧ c.move? ctx (.here o) = some d ∧ c.AnswersReset o ∧
          d.outbox.accepted = .success .empty :: c.outbox.accepted ∧ d.Renewed ∧
          c.calls ctx o = c.givingUp) ∧
    (∀ o new f, a.allows ctx o = true →
      (a.step ctx o).2.outbox.accepted = new ++ a.outbox.accepted → .failure f ∈ new →
      a.session.state = .connected →
      ∃ e b, a.step ctx o = (.ended (.error e), b) ∧
        b.outbox.accepted = .failure f :: a.outbox.accepted) := by
  refine ⟨?_, ?_, ?_, ?_⟩
  · intro o can
    exact step_calls reachable can
  · intro o new f can added told late
    exact late_failure reachable can late added told
  · intro barred
    refine ⟨fun o can => barred_step reachable barred can, ?_⟩
    intro moves b run
    exact barred_run reachable barred run
  · intro o new f can added told early
    exact early_failure reachable can early added told

def sampleFailure : Failure := ⟨"c", "m"⟩

/-- A query that fails while its result is pulled. -/
theorem sample_fails : ∃ a b, Reachable sampleContext a ∧ a.session.state = .streaming ∧
    a.move? sampleContext (.here .pumped) = some b ∧
    b.outbox.accepted = .failure sampleFailure :: a.outbox.accepted := by
  obtain ⟨outbox, metrics, version, reached⟩ := sample_pulls [.failed sampleFailure]
  have given := sample_given [.failed sampleFailure] (by decide) outbox metrics
  have sound := reachable_sound (reached.move given)
  have sendable : (Response.failure sampleFailure).Sendable outbox.flush.version := by
    change (Response.failure sampleFailure).Sendable outbox.version
    rw [version]
    refine ⟨?_, ?_⟩
    rotate_left
    · cbv
      rfl
  obtain ⟨b, pumped⟩ : ∃ b, (sampleGiven [.failed sampleFailure] [.failed sampleFailure]
      outbox.flush metrics).move? sampleContext (.here .pumped) = some b :=
    pull_goes_on sound rfl rfl (by rintro fields ⟨⟩) fun _ => sendable
  have ends := terminal_ends sound rfl rfl rfl (by rintro ⟨⟩) pumped
  obtain ⟨last, finishes⟩ := move_finishes sound rfl pumped ends (by
    intro fields among
    cases List.mem_singleton.mp among)
  have taken : [StreamEvent.failed sampleFailure] = last.toList := finishes.taken
  cases last with
  | none => cases taken
  | some event =>
    cases taken
    exact ⟨_, b, reached.move given, rfl, pumped, finishes.accepted⟩

/-- After the failure of the sample everything is ignored until a reset succeeds. -/
theorem sample_bars : ∃ a b, Reachable sampleContext a ∧ Reachable sampleContext b ∧
    b.outbox.accepted = .failure sampleFailure :: a.outbox.accepted ∧ b.session.state = .failed ∧
    ∀ moves c, b.run? sampleContext moves = some c →
      b.Shuts sampleContext moves c ∨ ∃ early o late d e, moves = early ++ .here o :: late ∧
        b.Shuts sampleContext early d ∧ d.move? sampleContext (.here o) = some e ∧
        d.AnswersReset o ∧ e.outbox.accepted = .success .empty :: d.outbox.accepted ∧ e.Renewed ∧
        d.calls sampleContext o = d.givingUp := by
  obtain ⟨a, b, reached, state, moved, told⟩ := sample_fails
  obtain ⟨can, stepped⟩ := moved_step moved
  obtain ⟨-, failure, -, -⟩ := reachable_authority reached
  obtain ⟨c, same, here, said, failed, -⟩ :=
    failure .pumped [.failure sampleFailure] sampleFailure can
    (by rw [stepped]; exact told) List.mem_cons_self (by rw [state]; decide)
  cases stepped.symm.trans same
  obtain ⟨-, -, bars, -⟩ := reachable_authority here
  exact ⟨a, b, reached, here, said, failed, (bars (.inl failed)).2⟩

end Actor

end GraphProtocol
