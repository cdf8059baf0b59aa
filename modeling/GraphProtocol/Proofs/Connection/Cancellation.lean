import GraphProtocol.Proofs.Connection.Authority

/-!
# Cancelling

The tokens of an open session are live unless a request has failed or a reset
waits, so no execution begins with a token that has fired. A token that has fired
stays fired. The token of an execution fires before any reset that was read after
it is answered, before any failure is told, and when the connection ends.
-/

set_option autoImplicit false

namespace GraphProtocol

variable {σ π : Type}

namespace Actor

def Starts (ctx : Context σ π) (a : Actor σ π) (o : Occurrence) : Prop :=
  ∃ query tx cancelled, .execute query tx cancelled ∈ a.calls ctx o

variable {ctx : Context σ π} {a b c : Actor σ π} {o : Occurrence}

theorem unbarred_live (sound : a.IsSound) (unbarred : ¬a.Barred) :
    a.session.cancel.fired = false := by
  have fits := sound.fits
  unfold Fits at fits
  unfold Barred at unbarred
  cases state : a.session.state <;> simp_all [Calm]

theorem isCancelled_token (s : CancelSignal) : s.isCancelled s.token = s.fired := by
  simp [CancelSignal.isCancelled, CancelSignal.token]

/-- Executions begin in undisturbed sessions, with tokens that are live. -/
theorem starts_live {query : Query} {tx : Option TxId} {cancelled : Bool}
    (reachable : Reachable ctx a) (can : a.allows ctx o = true)
    (started : .execute query tx cancelled ∈ a.calls ctx o) :
    a.Authorized ctx o (.execute query tx cancelled) ∧ cancelled = false := by
  obtain ⟨requested, cleanup, split, -, authorized, cleans, -⟩ := step_calls reachable can
  rw [split] at started
  rcases List.mem_append.mp started with asked | left
  · have granted := authorized _ asked
    refine ⟨granted, ?_⟩
    obtain ⟨action, request, next, h, performs, given⟩ := granted.request
    have live : a.session.cancel.fired = false := by
      apply unbarred_live (reachable_sound reachable)
      rintro (state | state) <;> rcases granted.place with place | place <;>
        cases state.symm.trans place
    cases action with
    | run =>
      cases request with
      | run statement parameters metadata =>
        cases List.mem_singleton.mp given
        exact live
      | init | hello | pullAll | discardAll | reset | begin | commit | rollback | goodbye =>
        cases given
    | begin =>
      cases request with
      | begin metadata => cases List.mem_singleton.mp given
      | init | hello | pullAll | discardAll | reset | run | commit | rollback | goodbye =>
        cases given
    | commit | rollback => obtain ⟨tx, -, ⟨⟩⟩ := List.mem_map.mp given
    | authenticate | pull | discard | reset => cases given
  · obtain ⟨tx, ⟨⟩⟩ := (cleans _ left).rollback

/-! ## Resets -/

theorem answered_session {h : Handler} {r : Response} (answered : a.Answered h r b) :
    b.session = a.session := by
  obtain ⟨outbox, metrics, rfl⟩ := answered_parts answered
  rfl

theorem interrupt_fires {s : Session π} (late : s.state ≠ .connected) :
    s.interrupt.state = .interrupted ∧ s.interrupt.cancel.fired = true := by
  simp [Session.interrupt, late, Session.withState, Session.cancelExecution, CancelSignal.cancel]

/-- Reading a reset cancels whatever runs, and nothing else that is read changes the state. -/
theorem received_stops {messages : List (List UInt8)} (received : a.Received messages b)
    (late : a.session.state ≠ .connected) :
    b.session.cancel.fired = true ∨
      (b.session.state = a.session.state ∧ b.session.cancel = a.session.cancel) := by
  induction received with
  | nothing => exact .inr ⟨rfl, rfl⟩
  | @message a d c _ _ admitted _ ih =>
    cases admitted with
    | plain => exact ih late
    | @reset m e _ _ interrupted =>
      obtain ⟨outbox, metrics, rfl⟩ := interrupted_parts interrupted
      obtain ⟨state, fired⟩ := interrupt_fires (s := a.session.recordRequest a.now) late
      have late' : (a.session.recordRequest a.now).interrupt.state ≠ .connected := by
        rw [state]
        decide
      left
      rcases ih late' with done | ⟨-, same⟩
      · exact done
      · rw [same]
        exact fired

theorem performed_proceeds {h : Handler} {action : Action} {next : ConnectionState}
    {request : Request} (late : a.session.state ≠ .connected)
    (accepted : Decision.of a.session.version a.session.state h.kind = .accept action next)
    (calm : a.session.state ≠ .interrupted)
    (performed : a.Performed ctx h next action request b) : b.session.state ≠ .interrupted := by
  have proceeds : action ≠ .reset → next ≠ .interrupted := by
    intro work
    rcases accept_cases accepted with ⟨early, -⟩ | ⟨-, -, resets⟩ | listed
    · exact absurd early late
    · exact absurd resets work
    · rintro rfl
      simp [Transition.base, Transition.transactional] at listed
  cases performed with
  | opened => exact absurd (accept_authenticate accepted).1 late
  | pulled => exact calm
  | ran _ answered | begun _ answered | committed _ _ answered | rolledBack _ _ answered =>
    rw [answered_session answered]
    exact proceeds (by decide)
  | runFailed _ answered | nothingHeld _ _ answered | beginFailed _ answered | noTx _ _ answered
  | commitFailed _ _ answered | rollbackFailed _ _ answered =>
    rw [answered_session answered]
    change ConnectionState.failed ≠ .interrupted
    decide

theorem dealt_proceeds {m : Inbound} (late : a.session.state ≠ .connected)
    (calm : a.session.state ≠ .interrupted) (dealt : a.Dealt ctx m b) :
    b.session.state ≠ .interrupted := by
  cases dealt with
  | unknown => exact calm
  | invalidPassed _ answered | passed _ _ answered | ignored _ _ answered
  | resetPassed _ _ answered =>
    rw [answered_session answered]
    exact calm
  | invalidRefused _ _ _ _ answered =>
    rw [answered_session answered]
    change ConnectionState.failed ≠ .interrupted
    decide
  | performed _ accepted performed => exact performed_proceeds late accepted calm performed
  | resetDone _ _ _ answered =>
    rw [answered_session answered]
    change ConnectionState.ready ≠ .interrupted
    decide
  | resetWaits => exact calm

theorem handled_proceeds {p : Pulling} {event : Option StreamEvent} {goesOn : Bool}
    (calm : a.session.state ≠ .interrupted) (next : p.next ≠ .interrupted)
    (handled : a.Handled p event goesOn b) : b.session.state ≠ .interrupted := by
  cases handled with
  | record => exact calm
  | done answered =>
    rw [answered_session answered]
    exact next
  | unsendable _ answered | failed answered | closed answered =>
    rw [answered_session answered]
    change ConnectionState.failed ≠ .interrupted
    decide

theorem pumped_proceeds {p : Pulling} (calm : a.session.state ≠ .interrupted)
    (next : p.next ≠ .interrupted) (pumped : a.Pumped p b) : b.session.state ≠ .interrupted := by
  cases pumped with
  | first _ _ _ handled | further _ _ _ handled =>
    have proceeds := handled_proceeds (a := a.took _) calm next handled
    exact proceeds
  | ended _ _ handled =>
    have proceeds := handled_proceeds calm next handled
    exact proceeds
  | lost => exact calm
  | dry => exact calm

/-- An open session is interrupted only together with whatever runs. -/
theorem step_interrupts (sound : a.IsSound) (late : a.session.state ≠ .connected)
    (calm : a.session.state ≠ .interrupted) (occurred : a.Occurred ctx o b) :
    b.session.state ≠ .interrupted ∨ b.session.cancel.fired = true := by
  cases occurred with
  | received _ received =>
    rcases received_stops received late with fired | ⟨same, -⟩
    · exact .inr fired
    · left
      rw [same]
      exact calm
  | @turn _ rest _ _ _ dealt =>
    exact .inl (dealt_proceeds (a := { a with inbox := rest }) late calm dealt)
  | produced => exact .inl calm
  | pumped _ hp pumped =>
    left
    apply pumped_proceeds calm _ pumped
    rcases (sound_holdings sound).pull _ hp with ⟨-, next⟩ | ⟨-, next⟩ <;> rw [next] <;> decide
  | cleaned _ answered =>
    left
    rw [answered_session answered]
    change ConnectionState.ready ≠ .interrupted
    decide

theorem late_move {move : Move σ} (reachable : Reachable ctx a)
    (late : a.session.state ≠ .connected) (moved : a.move? ctx move = some b) :
    b.session.state ≠ .connected := by
  -- No step removes the principal, and a sound session without one has not been introduced.
  have owned := owned_of_late (reachable_sound reachable).fits late
  apply (sound_holdings (reachable_sound (reachable.move moved))).owner.mp
  obtain ⟨o, c, rfl, -, rfl⟩ | ⟨_, _, _, -, rfl⟩ := move_outcome moved
  · obtain ⟨can, stepped⟩ := moved_step moved
    rcases (step_course can stepped).owner with same | ⟨principal, -, fresh, -⟩
    · rw [same]
      exact owned
    · rw [fresh]
      rfl
  · exact owned

/-- What has run since a moment in an open session is cancelled as soon as the session is
interrupted. -/
theorem run_interrupts {moves : List (Move σ)} {token : CancelToken} (reachable : Reachable ctx a)
    (late : a.session.state ≠ .connected) (issued : a.session.cancel.Issued token)
    (before : a.session.state ≠ .interrupted ∨ a.session.cancel.isCancelled token = true)
    (run : a.run? ctx moves = some b) :
    b.session.state ≠ .interrupted ∨ b.session.cancel.isCancelled token = true := by
  induction moves generalizing a with
  | nil => cases run; exact before
  | cons move moves ih =>
    obtain ⟨c, moved, further⟩ := Option.bind_eq_some_iff.mp run
    have leads := move_signal moved
    -- A calm step that interrupts the session fires its signal, and the token is issued by then.
    apply ih (reachable.move moved) (late_move reachable late moved)
      (CancelSignal.leads_issued leads issued) _ further
    rcases before with calm | cancelled
    · obtain ⟨o, d, rfl, occurred, rfl⟩ | ⟨_, _, _, -, rfl⟩ := move_outcome moved
      · exact (step_interrupts (reachable_sound reachable) late calm occurred).imp id
          (CancelSignal.fired_cancelled token)
      · exact .inl calm
    · exact .inr (CancelSignal.leads_cancelled leads issued cancelled)

theorem waiting_interrupted {c : Cleanup π} (sound : a.IsSound) (waits : a.cleanup = some c) :
    a.session.state = .interrupted := by
  have fits := sound.fits
  rw [waits] at fits
  unfold Fits at fits
  cases state : a.session.state <;> simp_all

/-- Resets are answered in interrupted sessions. -/
theorem resets_interrupted (sound : a.IsSound) (late : a.session.state ≠ .connected)
    (resets : a.AnswersReset o) : a.session.state = .interrupted := by
  cases o with
  | turn =>
    obtain ⟨turn, m, first, reset⟩ := resets
    apply (interrupted_iff sound late (hasTurn_free turn).1).mpr
    rw [sound.counted]
    exact List.countP_pos_iff.mpr ⟨m, List.mem_of_mem_head? first, reset⟩
  | cleaned =>
    obtain ⟨c, waits⟩ := Option.isSome_iff_exists.mp resets
    exact waiting_interrupted sound waits
  | received | endOfInput | produced | pumped | cleanupExpired | idled | untimed | shutDown | broken
  | unheard => exact resets.elim

theorem late_run {moves : List (Move σ)} (reachable : Reachable ctx a)
    (late : a.session.state ≠ .connected) (run : a.run? ctx moves = some b) :
    b.session.state ≠ .connected := by
  induction moves generalizing a with
  | nil => cases run; exact late
  | cons move moves ih =>
    obtain ⟨c, moved, further⟩ := Option.bind_eq_some_iff.mp run
    exact ih (reachable.move moved) (late_move reachable late moved) further

theorem ended_fired {outcome : Except ServerError Unit}
    (stepped : a.step ctx o = (.ended outcome, b)) :
    b.session.cancel.fired = true := by
  obtain ⟨c, -, -, rfl⟩ | ⟨e, c, -, -, rfl⟩ := step_ended stepped <;> rfl

/-- A token that has fired stays fired, and no live session has it again. -/
theorem fired_stays {token : CancelToken} {moves : List (Move σ)} (reachable : Reachable ctx a)
    (issued : a.session.cancel.Issued token) (cancelled : a.session.cancel.isCancelled token = true)
    (run : a.run? ctx moves = some b) : b.session.cancel.isCancelled token = true ∧
      (¬b.Barred → b.session.cancel.token ≠ token) := by
  have still := CancelSignal.leads_cancelled (run_signal run) issued cancelled
  refine ⟨still, ?_⟩
  rintro unbarred rfl
  rw [isCancelled_token] at still
  have live := unbarred_live (reachable_sound (run_reachable reachable run)) unbarred
  cases live.symm.trans still

/-- When a reset is answered, whatever was started before it was read has been cancelled. -/
theorem reset_cancels {query : Query} {tx : Option TxId} {cancelled : Bool} {o' : Occurrence}
    {moves : List (Move σ)} (reachable : Reachable ctx a)
    (granted : a.Authorized ctx o (.execute query tx cancelled)) (run : a.run? ctx moves = some b)
    (resets : b.AnswersReset o') : b.session.cancel.isCancelled a.session.cancel.token = true := by
  have late : a.session.state ≠ .connected := by
    rcases granted.place with state | state <;> rw [state] <;> decide
  have calm : a.session.state ≠ .interrupted := by
    rcases granted.place with state | state <;> rw [state] <;> decide
  have interrupted := resets_interrupted (reachable_sound (run_reachable reachable run))
    (late_run reachable late run) resets
  have issued : a.session.cancel.Issued a.session.cancel.token := Nat.le_refl _
  rcases run_interrupts reachable late issued (.inl calm) run with other | done
  · exact absurd interrupted other
  · exact done

/-- A query that runs when a reset is read. -/
theorem sample_stops : ∃ a b, Reachable sampleContext a ∧ a.allows sampleContext .turn = true ∧
    a.Starts sampleContext .turn ∧
    a.run? sampleContext [.here .turn, .here .turn, .here (.received sampleReset)] = some b ∧
    b.allows sampleContext .turn = true ∧ b.AnswersReset .turn := by
  have received := sample_received []
  obtain ⟨outbox, version, chunker, opened⟩ := sample_opened [] sampleCounted
  obtain ⟨outbox', -, -, ran⟩ := sample_ran [] outbox (sampleWelcomed sampleCounted) version chunker
  have pulled := sample_pulled [] outbox' sampleTold
  obtain ⟨b, disturbed, -, turn, full⟩ := sample_disturbed outbox'.flush sampleTold
  refine ⟨_, b, (Reachable.fresh.move received).move opened, rfl, ?_, ?_, turn, turn, _,
    by rw [full]; rfl, rfl⟩
  · refine ⟨⟨"x", .empty, .default⟩, none, false, ?_⟩
    rw [calls_eq]
    exact List.mem_append_left _ (List.mem_singleton.mpr rfl)
  · unfold sampleTold at pulled disturbed
    simp only [run?, ran, pulled, disturbed, Option.bind_some]

end Actor

end GraphProtocol
