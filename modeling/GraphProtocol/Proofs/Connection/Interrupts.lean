import GraphProtocol.Proofs.Connection.Phase

/-!
# Resets

A reset acts twice. As soon as it is read it is counted and cuts short whatever
is being pulled; when its turn comes it is acknowledged, and the last one cleans
up. In between everything else is ignored. A reset that is read before the client
has introduced itself is counted as well, but the state changes only when the
session opens.
-/

set_option autoImplicit false

namespace GraphProtocol

variable {σ π : Type}

namespace Actor

/-- What a finished reset leaves behind. -/
structure Renewed (a : Actor σ π) : Prop where
  ready : a.session.state = .ready
  undisturbed : a.session.interrupts = 0
  noTx : a.session.tx = none
  noResult : a.session.result = none
  live : a.session.cancel.isCancelled a.session.cancel.token = false

/-- How the turn of a reset ends in an open session, with these messages behind it. -/
inductive ResetTaken (ctx : Context σ π) (a : Actor σ π) (rest : List Inbound) :
    Progress × Actor σ π → Prop where
  /-- Further resets wait. -/
  | passed {outbox : Outbox} {metrics : Metrics} : 0 < rest.countP Inbound.isReset →
      outbox.accepted = .ignored :: a.outbox.accepted →
      ResetTaken ctx a rest (.running, { a.acknowledged with inbox := rest, outbox, metrics })
  /-- Nothing runs any more. -/
  | done {b : Actor σ π} : rest.countP Inbound.isReset = 0 → a.session.result = none →
      b.outbox.accepted = .success .empty :: a.outbox.accepted → b.inbox = rest → b.Renewed →
      ResetTaken ctx a rest (.running, b)
  /-- A cancelled query has yet to end. -/
  | waits {h : Handler} {r : ResultStream π} : rest.countP Inbound.isReset = 0 →
      a.session.result = some r →
      ResetTaken ctx a rest (.running,
        { a.acknowledged.cancelled.emptied with inbox := rest, cleanup := some ⟨h, r, a.now⟩ })

def Recordless (a b : Actor σ π) : Prop :=
  ∃ responses, b.outbox.accepted = responses ++ a.outbox.accepted ∧
    ∀ r ∈ responses, r.kind ≠ .record

end Actor

theorem encode_ignored (version : Version) :
    Response.encode version .ignored = .ok [0xB0, 0x7E] := by
  cases version <;> rfl

theorem encode_plain (version : Version) :
    Response.encode version (.success .empty) = .ok [0xB1, 0x70, 0xA0] := by
  cases version <;> cbv

namespace Act

variable {a : Actor σ π} {h : Handler}

theorem ignore_sent (open_ : h.done = false) (loud : h.reply ≠ .silent) :
    ∃ outbox metrics, ignore h a = .ok () { a with outbox, metrics } ∧
      outbox.accepted = .ignored :: a.outbox.accepted := by
  obtain ⟨outbox, room⟩ := queue_sendable ⟨_, encode_ignored a.outbox.version⟩
  exact ⟨outbox, _, respond_sent open_ loud room, (queue_accepted room).1⟩

theorem succeed_sent (open_ : h.done = false) (loud : h.reply ≠ .silent) :
    ∃ outbox metrics, succeed h .empty a = .ok () { a with outbox, metrics } ∧
      outbox.accepted = .success .empty :: a.outbox.accepted := by
  obtain ⟨outbox, room⟩ := queue_sendable ⟨_, encode_plain a.outbox.version⟩
  exact ⟨outbox, _, respond_sent open_ loud room, (queue_accepted room).1⟩

end Act

namespace Actor

variable {ctx : Context σ π} {a b c : Actor σ π} {rest : List Inbound}

theorem step_proceeds {o : Occurrence} (done : occur ctx o a = .ok .proceed b) :
    a.step ctx o = (.running, b.poised) := by
  simp only [step, done, poised]
  split <;> rfl

theorem isInterrupted_iff : Act.isInterrupted a.session = true ↔
    a.session.state ≠ .connected ∧ 0 < a.session.interrupts := by
  simp [Act.isInterrupted]

/-- While resets wait, whatever else comes to its turn is ignored. -/
theorem process_ignores (ctx : Context σ π) {m : Inbound} (genuine : m.Genuine)
    (late : a.session.state ≠ .connected) (interrupted : 0 < a.session.interrupts)
    (plain : m.isReset = false) :
    ∃ outbox metrics, Act.process ctx m a = .ok .proceed { a with outbox, metrics } ∧
      outbox.accepted = .ignored :: a.outbox.accepted := by
  have passes := isInterrupted_iff.mpr ⟨late, interrupted⟩
  cases m with
  | unknown signature =>
    obtain ⟨outbox, room⟩ := queue_sendable ⟨_, encode_ignored a.outbox.version⟩
    refine ⟨outbox, a.metrics.countIgnored Act.unknownName, ?_, (queue_accepted room).1⟩
    refine bind_of_ok (u := ()) ?_
    unfold Act.processUnknown
    rw [Act.get_bind, if_neg late]
    refine bind_of_ok (u := ()) (b := { a with outbox }) ?_
    unfold Act.queue
    rw [room]
  | invalid h fault =>
    obtain ⟨outbox, metrics, ignored, accepted⟩ :=
      Act.ignore_sent (a := a) genuine.1 (by rw [genuine.2]; decide)
    refine ⟨outbox, metrics, bind_of_ok (u := ()) ?_, accepted⟩
    unfold Act.processInvalid
    rw [Act.get_bind]
    simp only [if_neg late, passes, Bool.true_or, if_true]
    exact ignored
  | request request h =>
    obtain ⟨outbox, metrics, ignored, accepted⟩ :=
      Act.ignore_sent (a := a) genuine.2.unanswered (untouched_loud genuine.2)
    refine ⟨outbox, metrics, ?_, accepted⟩
    have other : h.kind ≠ .reset := by
      simpa [Inbound.isReset, genuine.1] using plain
    change Act.processRequest ctx request h a = _
    unfold Act.processRequest
    rw [Act.get_bind]
    simp only [passes, Bool.true_and, bne_iff_ne, ne_eq, other, not_false_eq_true, if_true]
    exact bind_of_ok ignored

theorem turn_ignores {m : Inbound} (sound : a.IsSound) (full : a.inbox = m :: rest)
    (late : a.session.state ≠ .connected) (interrupted : 0 < a.session.interrupts)
    (plain : m.isReset = false) :
    ∃ outbox metrics, a.step ctx .turn = (.running, { a with inbox := rest, outbox, metrics }) ∧
      outbox.accepted = .ignored :: a.outbox.accepted := by
  have genuine : m.Genuine := sound.genuine m (by rw [full]; exact List.mem_cons_self)
  obtain ⟨outbox, metrics, done, accepted⟩ := process_ignores ctx
    (a := { a with inbox := rest }) genuine late interrupted plain
  have stepped := step_proceeds (o := .turn) ((Act.processNext_cons full).trans done)
  refine ⟨_, metrics, stepped, ?_⟩
  exact (poised_accepted _).trans accepted

theorem cleared_renewed (ctx : Context σ π) (undisturbed : a.session.interrupts = 0)
    (empty : a.session.result = none) :
    (a.cleared ctx).Renewed where
  ready := rfl
  undisturbed := undisturbed
  noTx := rfl
  noResult := empty
  live := by
    change (CancelSignal.renew a.session.cancel).isCancelled a.session.cancel.renew.token = false
    unfold CancelSignal.renew CancelSignal.isCancelled CancelSignal.token
    split
    · simp
    · next quiet => simpa using quiet

theorem finishReset_succeeds (ctx : Context σ π) {h : Handler} (untouched : h.Untouched)
    (undisturbed : a.session.interrupts = 0) (empty : a.session.result = none) :
    ∃ b, Act.finishReset ctx h a = .ok () b ∧
      b.outbox.accepted = .success .empty :: a.outbox.accepted ∧ b.inbox = a.inbox ∧ b.Renewed := by
  obtain ⟨outbox, metrics, done, accepted⟩ := Act.succeed_sent (a := a.cleared ctx)
    untouched.unanswered (untouched_loud untouched)
  refine ⟨{ a.cleared ctx with outbox, metrics }, ?_, accepted, rfl, ?_⟩
  · unfold Act.finishReset
    rw [Act.rollbackHeld_bind, Act.modifySession_bind, Act.setState_bind]
    exact done
  · have renewed := cleared_renewed ctx undisturbed empty
    exact ⟨renewed.ready, renewed.undisturbed, renewed.noTx, renewed.noResult, renewed.live⟩

theorem poised_renewed (renewed : a.Renewed) : a.poised.Renewed :=
  ⟨renewed.ready, renewed.undisturbed, renewed.noTx, renewed.noResult, renewed.live⟩

theorem process_resets {request : Request} {h : Handler} (late : a.session.state ≠ .connected)
    (kind : h.kind = .reset) : Act.process ctx (.request request h) a =
      (Act.reset ctx h >>= fun _ => pure Flow.proceed) a := by
  change Act.processRequest ctx request h a = _
  unfold Act.processRequest
  rw [Act.get_bind]
  simp [kind, reset_accepted late]

/-- The resets behind one whose turn it is. -/
theorem acknowledged_counted {m : Inbound} (sound : a.IsSound) (full : a.inbox = m :: rest)
    (resets : m.isReset = true) :
    a.acknowledged.session.interrupts = rest.countP Inbound.isReset := by
  have counted := sound.counted
  rw [full, List.countP_cons_of_pos resets] at counted
  simp [acknowledged, Session.acknowledge, counted]

theorem turn_resets {m : Inbound} (sound : a.IsSound) (turn : a.hasTurn = true)
    (full : a.inbox = m :: rest) (late : a.session.state ≠ .connected) (resets : m.isReset = true) :
    a.ResetTaken ctx rest (a.step ctx .turn) := by
  obtain ⟨clean, idle⟩ := hasTurn_free turn
  have genuine : m.Genuine := sound.genuine m (by rw [full]; exact List.mem_cons_self)
  have left := acknowledged_counted sound full resets
  cases m with
  | unknown signature => cases resets
  | invalid h fault => cases resets
  | request request h =>
    have kind : h.kind = .reset := (request_reset genuine).mp resets
    have dealing : Act.processNext ctx a = _ := (Act.processNext_cons full).trans
      (process_resets (a := { a with inbox := rest }) late kind)
    by_cases more : 0 < rest.countP Inbound.isReset
    · obtain ⟨outbox, metrics, ignored, accepted⟩ :=
        Act.ignore_sent (a := { a.acknowledged with inbox := rest }) genuine.2.unanswered
          (untouched_loud genuine.2)
      have reset : Act.reset ctx h { a with inbox := rest } = _ :=
        (Act.reset_more (left ▸ more)).trans ignored
      rw [step_proceeds (o := .turn) (dealing.trans (bind_of_ok reset))]
      exact .passed more ((poised_accepted _).trans accepted)
    have last : rest.countP Inbound.isReset = 0 := Nat.eq_zero_of_not_pos more
    cases held : a.session.result with
    | none =>
      obtain ⟨b, done, accepted, inbox, renewed⟩ := finishReset_succeeds ctx
        (a := { a.acknowledged.cancelled with inbox := rest }) genuine.2 (left.trans last) held
      have reset : Act.reset ctx h { a with inbox := rest } = _ :=
        (Act.reset_free (a := { a with inbox := rest }) (left.trans last) held).trans done
      rw [step_proceeds (o := .turn) (dealing.trans (bind_of_ok reset))]
      exact .done last held ((poised_accepted b).trans accepted) inbox (poised_renewed renewed)
    | some r =>
      have reset : Act.reset ctx h { a with inbox := rest } = _ :=
        Act.reset_held (a := { a with inbox := rest }) (left.trans last) held
      rw [step_proceeds (o := .turn) (dealing.trans (bind_of_ok reset))]
      exact .waits last held

theorem cleaned_succeeds (ctx : Context σ π) {c : Cleanup π} (sound : a.IsSound)
    (waits : a.cleanup = some c) :
    ∃ b, a.step ctx .cleaned = (.running, b) ∧
      b.outbox.accepted = .success .empty :: a.outbox.accepted ∧ b.inbox = a.inbox ∧ b.Renewed := by
  obtain ⟨-, -, undisturbed, empty⟩ := waiting_fits sound waits
  obtain ⟨b, done, accepted, inbox, renewed⟩ := finishReset_succeeds ctx
    (a := a.dismissed) (sound.cleans c waits).1 undisturbed empty
  have finished : Act.finishCleanup ctx a = .ok () b := by
    unfold Act.finishCleanup
    rw [Act.get_bind, waits]
    exact done
  have stepped : a.step ctx .cleaned = _ := step_proceeds (bind_of_ok finished)
  exact ⟨b.poised, stepped, (poised_accepted b).trans accepted, inbox, poised_renewed renewed⟩

theorem waiting_steps {c : Cleanup π} {o : Occurrence} (sound : a.IsSound)
    (waits : a.cleanup = some c) (can : a.allows ctx o = true)
    (stepped : a.step ctx o = (.running, b)) : o = .cleaned := by
  obtain ⟨-, -, -, empty⟩ := waiting_fits sound waits
  obtain ⟨d, occurred, -⟩ := step_outcome can stepped
  cases occurred with
  | received reads => simp [Connection.canRead, Connection.isWaiting, waits] at reads
  | turn turns => simp [Connection.hasTurn, waits] at turns
  | produced held => cases empty.symm.trans held
  | pumped pumps => simp [Connection.canPump, waits] at pumps
  | cleaned => rfl

/-! ## Records -/

theorem recordless_refl (a : Actor σ π) : a.Recordless a := ⟨[], rfl, by simp⟩

theorem recordless_trans (first : a.Recordless b) (second : b.Recordless c) : a.Recordless c := by
  obtain ⟨early, grown, plain⟩ := first
  obtain ⟨late, further, plain'⟩ := second
  refine ⟨late ++ early, by rw [further, grown, List.append_assoc], ?_⟩
  intro r hr
  rcases List.mem_append.mp hr with hr | hr
  · exact plain' r hr
  · exact plain r hr

theorem answered_recordless {h : Handler} {r : Response} (plain : r.kind ≠ .record)
    (answered : a.Answered h r b) : a.Recordless b ∧ b.session = a.session := by
  cases answered with
  | dropped => exact ⟨recordless_refl a, rfl⟩
  | sent room => exact ⟨⟨[r], (queue_accepted room).1, by simpa using plain⟩, rfl⟩

theorem received_recordless {messages : List (List UInt8)} (received : a.Received messages b) :
    a.Recordless b ∧ a.session.interrupts ≤ b.session.interrupts := by
  induction received with
  | nothing => exact ⟨recordless_refl _, Nat.le_refl _⟩
  | message admitted _ ih =>
    refine ⟨recordless_trans ?_ ih.1, Nat.le_trans ?_ ih.2⟩
    · cases admitted with
      | plain => exact recordless_refl _
      | reset _ _ interrupted =>
        cases interrupted with
        | calm => exact recordless_refl _
        | cut _ answered =>
          have cut := (answered_recordless (by decide) answered).1
          exact cut
    · cases admitted with
      | plain => exact Nat.le_refl _
      | reset _ _ interrupted =>
        obtain ⟨outbox, metrics, rfl⟩ := interrupted_parts interrupted
        change _ ≤ (Session.interrupt _).interrupts
        rw [interrupt_count]
        exact Nat.le_succ _

theorem performed_recordless {h : Handler} {action : Action} {next : ConnectionState}
    {request : Request} (performed : a.Performed ctx h next action request b) :
    a.Recordless b ∧ b.session.interrupts = a.session.interrupts := by
  cases performed with
  | pulled => exact ⟨recordless_refl a, rfl⟩
  | opened _ answered | ran _ answered | runFailed _ answered | nothingHeld _ _ answered
  | begun _ answered | beginFailed _ answered | noTx _ _ answered | committed _ _ answered
  | commitFailed _ _ answered | rolledBack _ _ answered | rollbackFailed _ _ answered =>
    obtain ⟨plain, same⟩ := answered_recordless (by simp [Response.kind]) answered
    exact ⟨plain, by rw [same]; rfl⟩

/-- While a reset waits, no record is added, and either it still waits or no result is held. -/
theorem disturbed_step {o : Occurrence} (sound : a.IsSound) (disturbed : 0 < a.session.interrupts)
    (occurred : a.Occurred ctx o b) :
    a.Recordless b ∧ (0 < b.session.interrupts ∨ b.session.result = none) := by
  cases occurred with
  | received _ received =>
    obtain ⟨plain, grown⟩ := received_recordless received
    exact ⟨plain, .inl (Nat.lt_of_lt_of_le disturbed grown)⟩
  | turn _ _ dealt =>
    cases dealt with
    | unknown late room =>
      exact ⟨⟨[.ignored], (queue_accepted room).1, by decide⟩, .inl disturbed⟩
    | invalidPassed _ answered | invalidRefused _ _ _ _ answered | passed _ _ answered
    | ignored _ _ answered =>
      obtain ⟨plain, same⟩ := answered_recordless (by simp [Response.kind]) answered
      exact ⟨plain, .inl (by rw [same]; exact disturbed)⟩
    | performed _ _ performed =>
      obtain ⟨plain, same⟩ := performed_recordless performed
      exact ⟨plain, .inl (by rw [same]; exact disturbed)⟩
    | resetPassed _ more answered =>
      obtain ⟨plain, same⟩ := answered_recordless (by decide) answered
      exact ⟨plain, .inl (by rw [same]; exact more)⟩
    | resetDone _ _ free answered =>
      obtain ⟨plain, same⟩ := answered_recordless (by decide) answered
      exact ⟨plain, .inr (by rw [same]; exact free)⟩
    | resetWaits => exact ⟨recordless_refl a, .inr rfl⟩
  | produced held => exact ⟨recordless_refl a, .inl disturbed⟩
  | pumped _ hp =>
    have calm := (pulling_calm sound hp).1.2.1
    omega
  | cleaned waits =>
    have calm := (waiting_fits sound waits).2.2.1
    omega

theorem disturbed_move {move : Move σ} (sound : a.IsSound) (disturbed : 0 < a.session.interrupts)
    (moved : a.move? ctx move = some b) :
    a.Recordless b ∧ (0 < b.session.interrupts ∨ b.session.result = none) := by
  obtain ⟨o, d, -, occurred, rfl⟩ | ⟨_, _, _, -, rfl⟩ := move_outcome moved
  · obtain ⟨⟨responses, grown, plain⟩, left⟩ := disturbed_step sound disturbed occurred
    exact ⟨⟨responses, (poised_accepted d).trans grown, plain⟩, left⟩
  · exact ⟨recordless_refl _, .inl disturbed⟩

/-- After a reset has been read, the first record comes only after a moment at which no result
is held. -/
theorem disturbed_run {moves : List (Move σ)} (reachable : Reachable ctx a)
    (disturbed : 0 < a.session.interrupts) (run : a.run? ctx moves = some b) :
    a.Recordless b ∨ ∃ early late c, moves = early ++ late ∧ a.run? ctx early = some c ∧
      a.Recordless c ∧ c.session.result = none := by
  induction moves generalizing a with
  | nil => cases run; exact .inl (recordless_refl _)
  | cons move moves ih =>
    obtain ⟨d, moved, further⟩ := Option.bind_eq_some_iff.mp run
    obtain ⟨plain, waits | free⟩ := disturbed_move (reachable_sound reachable) disturbed moved
    · rcases ih (reachable.move moved) waits further with none | ⟨early, late, c, rfl, ran, last⟩
      · exact .inl (recordless_trans plain none)
      · refine .inr ⟨move :: early, late, c, rfl, ?_, recordless_trans plain last.1, last.2⟩
        simp only [run?, moved, Option.bind_some, ran]
    · refine .inr ⟨[move], moves, d, rfl, ?_, plain, free⟩
      simp only [run?, moved, Option.bind_some]

theorem interrupted_iff (sound : a.IsSound) (late : a.session.state ≠ .connected)
    (clean : a.cleanup = none) :
    a.session.state = .interrupted ↔ 0 < a.session.interrupts := by
  have fits := sound.fits
  rw [clean] at fits
  unfold Fits at fits
  cases state : a.session.state <;> simp_all [Calm]

theorem disturbed_idle (sound : a.IsSound) (disturbed : 0 < a.session.interrupts) :
    a.pulling = none := by
  cases hp : a.pulling with
  | none => rfl
  | some p =>
    have calm := (pulling_calm sound hp).1.2.1
    omega

theorem receive_reset {message : List UInt8} {reply : ReplyStrategy}
    (decoded : Request.decode a.session.version message = .ok (.reset, reply))
    (cut : Act.interrupt (a.counted (.request .reset (.fresh .reset reply a.now))) = .ok () b) :
    Act.receiveMessages [message] a =
      .ok .proceed (b.enqueued (.request .reset (.fresh .reset reply a.now))) := by
  unfold Act.receiveMessages
  refine bind_of_ok (u := Flow.proceed) ?_
  unfold Act.receiveMessage
  simp only [Act.get_bind, Act.modifySession_bind, Session.recordRequest, decoded]
  exact bind_of_ok cut

def sampleReset : List UInt8 := [0x00, 0x02, 0xB0, 0x0F, 0x00, 0x00]

theorem sample_disturbed (outbox : Outbox) (metrics : Metrics) : ∃ a,
    (samplePulling [] outbox metrics).move? sampleContext (.here (.received sampleReset)) = some a ∧
    a.session.state = .interrupted ∧ a.hasTurn = true ∧
    a.inbox = [.request .reset (.fresh .reset .summary 0)] := by
  have drained : ((samplePulling [] outbox metrics).dechunker.extend sampleReset).drain =
      ([[0xB0, 0x0F]], none, .fresh 1024) := by
    have first : ((Frame.Dechunker.fresh 1024).extend sampleReset).next =
        (.ok (some [0xB0, 0x0F]), .fresh 1024) := by cbv
    have last : (Frame.Dechunker.fresh 1024).next = (.ok none, .fresh 1024) := by cbv
    exact (Frame.Dechunker.drainOnto_some first).trans (Frame.Dechunker.drainOnto_none last)
  have decoded : Request.decode .v1 [0xB0, 0x0F] = .ok (.reset, .summary) := by cbv
  have fed : (samplePulling [] outbox metrics).fed sampleReset =
      samplePulling [] outbox metrics := by
    unfold fed
    rw [drained]
    rfl
  obtain ⟨after, metrics', ignored, -⟩ := Act.ignore_sent (h := .fresh .pullAll .stream 0)
    (a := ((samplePulling [] outbox metrics).counted
      (.request .reset (.fresh .reset .summary 0))).disturbed.halted) rfl (by decide)
  have taken := receive_reset (a := samplePulling [] outbox metrics) decoded ignored
  rw [← fed] at taken
  exact ⟨_, move_here (o := .received sampleReset) rfl (received_done drained taken), rfl, rfl, rfl⟩

theorem sample_reset : ∃ a, Reachable sampleContext a ∧ a.session.state = .interrupted ∧
    a.hasTurn = true ∧ a.inbox = [.request .reset (.fresh .reset .summary 0)] := by
  obtain ⟨outbox, metrics, -, reached⟩ := sample_pulls []
  obtain ⟨a, moved, disturbed⟩ := sample_disturbed outbox metrics
  exact ⟨a, reached.move moved, disturbed⟩

/-- The course of resets in every open connection: they are counted while they are in the inbox;
in an open session the count shows in the state, stops pulls and makes everything else be ignored;
the last of them cleans up, now or when the cancelled query has ended; and no record of a result
that was held before comes after them. -/
theorem reset_course (reachable : Reachable ctx a) :
    a.session.interrupts = a.inbox.countP Inbound.isReset ∧
    (a.session.state ≠ .connected → a.cleanup = none →
      (a.session.state = .interrupted ↔ 0 < a.session.interrupts)) ∧
    (0 < a.session.interrupts → a.pulling = none) ∧
    (∀ m rest, a.hasTurn = true → a.inbox = m :: rest → a.session.state ≠ .connected →
      0 < a.session.interrupts → m.isReset = false →
      ∃ outbox metrics, a.step ctx .turn = (.running, { a with inbox := rest, outbox, metrics }) ∧
        outbox.accepted = .ignored :: a.outbox.accepted) ∧
    (∀ m rest, a.hasTurn = true → a.inbox = m :: rest → a.session.state ≠ .connected →
      m.isReset = true → a.ResetTaken ctx rest (a.step ctx .turn)) ∧
    (∀ c, a.cleanup = some c →
      (∃ b, a.step ctx .cleaned = (.running, b) ∧
        b.outbox.accepted = .success .empty :: a.outbox.accepted ∧ b.inbox = a.inbox ∧
        b.Renewed) ∧
      ∀ o b, a.allows ctx o = true → a.step ctx o = (.running, b) → o = .cleaned) ∧
    (0 < a.session.interrupts → ∀ moves b, a.run? ctx moves = some b →
      a.Recordless b ∨ ∃ early late c, moves = early ++ late ∧ a.run? ctx early = some c ∧
        a.Recordless c ∧ c.session.result = none) := by
  have sound := reachable_sound reachable
  refine ⟨sound.counted, interrupted_iff sound, disturbed_idle sound, ?_, ?_, ?_, ?_⟩
  · intro m rest turn full late disturbed plain
    exact turn_ignores sound full late disturbed plain
  · intro m rest turn full late resets
    exact turn_resets sound turn full late resets
  · intro c waits
    refine ⟨cleaned_succeeds ctx sound waits, ?_⟩
    intro o b can stepped
    exact waiting_steps sound waits can stepped
  · intro disturbed moves b run
    exact disturbed_run reachable disturbed run

theorem sample_reset_course : ∃ a, Reachable sampleContext a ∧ a.session.interrupts = 1 ∧
    a.ResetTaken sampleContext [] (a.step sampleContext .turn) := by
  obtain ⟨a, reached, state, turn, full⟩ := sample_reset
  obtain ⟨counted, -, -, -, taken, -⟩ := reset_course reached
  refine ⟨a, reached, by rw [counted, full]; rfl, ?_⟩
  exact taken _ _ turn full (by rw [state]; decide) rfl

end Actor

end GraphProtocol
