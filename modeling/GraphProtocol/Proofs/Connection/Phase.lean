import GraphProtocol.Proofs.Connection.Inbox

/-!
# What a connection holds in each state

The state of a session tells what is held: a transaction, a result, a pull that is
under way, resets that wait. The table is kept by every outcome of every
occurrence, and so it holds of every open connection.
-/

set_option autoImplicit false

namespace GraphProtocol

variable {σ π : Type}

/-- What is accepted is an opening, a reset or listed for the version. -/
theorem accept_listed {v : Version} {s next : ConnectionState} {k : RequestKind} {action : Action}
    (h : Decision.of v s k = .accept action next) :
    (s = .connected ∧ k.isHandshake = true ∧ action = .authenticate ∧ next = .ready) ∨
    (s ≠ .connected ∧ k = .reset ∧ action = .reset ∧ next = .ready) ∨
    ⟨s, k, action, next⟩ ∈ Transition.ofVersion v := by
  unfold Decision.of at h
  split at h
  · cases h
  split at h
  · next early =>
    split at h
    · next opens => cases h; exact .inl ⟨early, opens, rfl, rfl⟩
    · cases h
  next late =>
  split at h
  · cases h
  split at h
  · next resets => cases h; exact .inr (.inl ⟨late, resets, rfl, rfl⟩)
  split at h
  · cases h
  split at h
  · next t found =>
    cases h
    have matched := List.find?_some found
    simp only [Bool.and_eq_true, beq_iff_eq] at matched
    rw [← matched.1, ← matched.2]
    exact .inr (.inr (List.mem_of_find?_eq_some found))
  · cases h

theorem accept_cases {v : Version} {s next : ConnectionState} {k : RequestKind} {action : Action}
    (h : Decision.of v s k = .accept action next) :
    (s = .connected ∧ k.isHandshake = true ∧ action = .authenticate) ∨
    (s ≠ .connected ∧ k = .reset ∧ action = .reset) ∨
    ⟨s, k, action, next⟩ ∈ Transition.base ++ Transition.transactional := by
  rcases accept_listed h with ⟨early, opens, work, -⟩ | ⟨late, resets, work, -⟩ | listed
  · exact .inl ⟨early, opens, work⟩
  · exact .inr (.inl ⟨late, resets, work⟩)
  · unfold Transition.ofVersion at listed
    split at listed
    · exact .inr (.inr listed)
    · exact .inr (.inr (List.mem_append_left _ listed))

section

variable {v : Version} {s next : ConnectionState} {k : RequestKind} {action : Action}

theorem accept_authenticate (h : Decision.of v s k = .accept .authenticate next) :
    s = .connected ∧ k.isHandshake = true := by
  rcases accept_cases h with ⟨early, opens, -⟩ | ⟨-, -, ⟨⟩⟩ | listed
  · exact ⟨early, opens⟩
  · simp [Transition.base, Transition.transactional] at listed

theorem accept_run (h : Decision.of v s k = .accept .run next) :
    (s = .ready ∧ k = .run ∧ next = .streaming) ∨
    (s = .txReady ∧ k = .run ∧ next = .txStreaming) := by
  rcases accept_cases h with ⟨-, -, ⟨⟩⟩ | ⟨-, -, ⟨⟩⟩ | listed
  simpa [Transition.base, Transition.transactional] using listed

theorem accept_pull (pulls : action = .pull ∨ action = .discard)
    (h : Decision.of v s k = .accept action next) :
    (k = .pullAll ∨ k = .discardAll) ∧
    ((s = .streaming ∧ next = .ready) ∨ (s = .txStreaming ∧ next = .txReady)) := by
  rcases accept_cases h with ⟨-, -, rfl⟩ | ⟨-, -, rfl⟩ | listed
  · simp at pulls
  · simp at pulls
  · rcases pulls with rfl | rfl <;> simp [Transition.base, Transition.transactional] at listed <;>
      grind

theorem accept_begin (h : Decision.of v s k = .accept .begin next) :
    s = .ready ∧ k = .begin ∧ next = .txReady := by
  rcases accept_cases h with ⟨-, -, ⟨⟩⟩ | ⟨-, -, ⟨⟩⟩ | listed
  simpa [Transition.base, Transition.transactional] using listed

theorem accept_end (ends : action = .commit ∨ action = .rollback)
    (h : Decision.of v s k = .accept action next) : s = .txReady ∧ next = .ready := by
  rcases accept_cases h with ⟨-, -, rfl⟩ | ⟨-, -, rfl⟩ | listed
  · simp at ends
  · simp at ends
  · rcases ends with rfl | rfl <;> simp [Transition.base, Transition.transactional] at listed <;>
      exact ⟨listed.1, listed.2.2⟩

theorem accept_reset (h : Decision.of v s k = .accept .reset next) :
    s ≠ .connected ∧ k = .reset := by
  rcases accept_cases h with ⟨-, -, ⟨⟩⟩ | ⟨late, resets, -⟩ | listed
  · exact ⟨late, resets⟩
  · simp [Transition.base, Transition.transactional] at listed

end

theorem reset_accepted {v : Version} {s : ConnectionState} (late : s ≠ .connected) :
    Decision.of v s .reset = .accept .reset .ready := by
  simp [Decision.of, late, RequestKind.isHandshake]

abbrev Calm (s : Session π) : Prop :=
  s.principal.isSome = true ∧ s.interrupts = 0 ∧ s.cancel.fired = false

def Fits (s : Session π) (pulling : Option Pulling) (cleanup : Option (Cleanup π)) : Prop :=
  match s.state with
  | .connected => s.principal = none ∧ s.tx = none ∧ s.result = none ∧ s.cancel.fired = false ∧
      pulling = none ∧ cleanup = none
  | .ready => Calm s ∧ s.tx = none ∧ s.result = none ∧ pulling = none ∧ cleanup = none
  | .streaming => Calm s ∧ s.tx = none ∧ s.result.isSome = true ∧
      (∀ p, pulling = some p → p.next = .ready) ∧ cleanup = none
  | .txReady => Calm s ∧ s.tx.isSome = true ∧ s.result = none ∧ pulling = none ∧ cleanup = none
  | .txStreaming => Calm s ∧ s.tx.isSome = true ∧ s.result.isSome = true ∧
      (∀ p, pulling = some p → p.next = .txReady) ∧ cleanup = none
  | .failed => s.principal.isSome = true ∧ s.interrupts = 0 ∧ pulling = none ∧ cleanup = none
  | .interrupted => s.principal.isSome = true ∧ pulling = none ∧
      (cleanup = none → 0 < s.interrupts) ∧
      (cleanup.isSome = true → s.interrupts = 0 ∧ s.result = none)

structure Handler.Pulls (h : Handler) : Prop where
  unanswered : h.done = false
  reply : h.reply = h.kind.reply
  kind : h.kind = .pullAll ∨ h.kind = .discardAll

def Handler.further (h : Handler) : Handler := { h with records := h.records + 1 }

/-- What holds of an open connection. -/
structure Sound (s : Session π) (inbox : List Inbound) (pulling : Option Pulling)
    (cleanup : Option (Cleanup π)) : Prop where
  genuine : ∀ m ∈ inbox, m.Genuine
  counted : s.interrupts = inbox.countP Inbound.isReset
  pulls : ∀ p, pulling = some p → p.handler.Pulls
  cleans : ∀ c, cleanup = some c → c.handler.Untouched ∧ c.handler.kind = .reset
  fits : Fits s pulling cleanup

namespace Actor

abbrev IsSound (a : Actor σ π) : Prop := Sound a.session a.inbox a.pulling a.cleanup

variable {ctx : Context σ π} {a b : Actor σ π}

theorem answered_parts {h : Handler} {r : Response} (answered : a.Answered h r b) :
    ∃ outbox metrics, b = { a with outbox, metrics } := by
  cases answered with
  | dropped => exact ⟨a.outbox, a.metrics, rfl⟩
  | sent => exact ⟨_, _, rfl⟩

/-- A request that has no answer yet and wants one is given it. -/
theorem not_excused {h : Handler} (unanswered : h.done = false) (loud : h.reply ≠ .silent) :
    ¬(h.done = true ∨ h.reply = .silent) := by
  rintro (done | silent)
  · rw [unanswered] at done
    cases done
  · exact loud silent

theorem answered_sent {h : Handler} {r : Response} (unanswered : h.done = false)
    (loud : h.reply ≠ .silent) (answered : a.Answered h r b) :
    ∃ outbox metrics, b = { a with outbox, metrics } ∧
      outbox.accepted = r :: a.outbox.accepted := by
  cases answered with
  | dropped excused => exact absurd excused (not_excused unanswered loud)
  | sent room => exact ⟨_, _, rfl, (queue_accepted room).1⟩

theorem answered_sound {h : Handler} {r : Response} (sound : a.IsSound)
    (answered : a.Answered h r b) : b.IsSound := by
  obtain ⟨outbox, metrics, rfl⟩ := answered_parts answered
  exact sound

theorem pulling_calm {p : Pulling} (sound : a.IsSound) (hp : a.pulling = some p) :
    Calm a.session ∧ a.cleanup = none := by
  have fits := sound.fits
  unfold Fits at fits
  cases state : a.session.state <;> simp only [state, hp] at fits
  case streaming => exact ⟨fits.1, fits.2.2.2.2⟩
  case txStreaming => exact ⟨fits.1, fits.2.2.2.2⟩
  all_goals simp at fits

/-- A request that fails in an undisturbed session leaves nothing but its answer behind. -/
theorem failed_sound {h : Handler} {r : Response} (answered : a.failing.Answered h r b)
    (genuine : ∀ m ∈ a.inbox, m.Genuine)
    (counted : a.session.interrupts = a.inbox.countP Inbound.isReset)
    (owned : a.session.principal.isSome = true) (undisturbed : a.session.interrupts = 0)
    (idle : a.pulling = none) (clean : a.cleanup = none) : b.IsSound := by
  have failing : a.failing.IsSound :=
    { genuine, counted
      pulls := fun p hp => by cases idle.symm.trans hp
      cleans := fun c hc => by cases clean.symm.trans hc
      fits := ⟨owned, undisturbed, idle, clean⟩ }
  exact answered_sound failing answered

theorem took_sound {r s : ResultStream π} (sound : a.IsSound) (held : a.session.result = some r) :
    (a.took s).IsSound where
  genuine := sound.genuine
  counted := sound.counted
  pulls := sound.pulls
  cleans := sound.cleans
  fits := by
    have fits := sound.fits
    unfold Fits at *
    cases state : a.session.state <;> simp_all [took, Calm]

theorem pulls_loud {h : Handler} (pulls : h.Pulls) : h.reply ≠ .silent := by
  rw [pulls.reply]
  rcases pulls.kind with kind | kind <;> rw [kind] <;> decide

theorem record_handler {h handler : Handler} {out : Outbox} {fields : List Value}
    {outcome : Handler.Outcome} (unanswered : h.done = false)
    (recorded : h.record out fields = (handler, outcome)) : handler = h.further := by
  obtain ⟨kind, reply, started, records, done⟩ := h
  cases unanswered
  cases reply <;> exact (congrArg Prod.fst recorded).symm

/-- Records are sent for one kind of pull and passed over for the other. -/
theorem record_sent {h handler : Handler} {out out' : Outbox} {fields : List Value}
    {delivery : Delivery} (pulls : h.Pulls)
    (recorded : h.record out fields = (handler, .ok (delivery, out'))) :
    handler = h.further ∧
    ((h.kind = .pullAll ∧ out'.accepted = .record fields :: out.accepted) ∨
      (h.kind = .discardAll ∧ out' = out)) := by
  refine ⟨record_handler pulls.unanswered recorded, ?_⟩
  rcases pulls.kind with kind | kind
  · have stream : h.reply = .stream := by rw [pulls.reply, kind]; rfl
    have queued : (out.queue (.record fields)).map (Delivery.sent .record, ·) =
        .ok (delivery, out') := by
      simpa [Handler.record, pulls.unanswered, stream] using congrArg Prod.snd recorded
    cases room : out.queue (.record fields) with
    | error e => rw [room] at queued; cases queued
    | ok out'' =>
      rw [room] at queued
      cases queued
      exact .inl ⟨kind, (queue_accepted room).1⟩
  · have discard : h.reply = .discard := by rw [pulls.reply, kind]; rfl
    have kept : Delivery.dropped = delivery ∧ out = out' := by
      simpa [Handler.record, pulls.unanswered, discard] using congrArg Prod.snd recorded
    exact .inr ⟨kind, kept.2.symm⟩

theorem repull_fits {s : Session π} {p q : Pulling} {cleanup : Option (Cleanup π)}
    (fits : Fits s (some p) cleanup) (same : q.next = p.next) : Fits s (some q) cleanup := by
  unfold Fits at *
  cases state : s.state <;> simp_all [Calm]

theorem done_fits {s : Session π} {p : Pulling} {cleanup : Option (Cleanup π)}
    (fits : Fits s (some p) cleanup) :
    Fits ({ s with result := none }.withState p.next) none cleanup := by
  unfold Fits at fits
  cases state : s.state <;> simp only [state] at fits
  case streaming =>
    rw [fits.2.2.2.1 p rfl]
    exact ⟨fits.1, fits.2.1, rfl, rfl, fits.2.2.2.2⟩
  case txStreaming =>
    rw [fits.2.2.2.1 p rfl]
    exact ⟨fits.1, fits.2.1, rfl, rfl, fits.2.2.2.2⟩
  all_goals simp at fits

theorem handled_sound {p : Pulling} {event : Option StreamEvent} {goesOn : Bool}
    (sound : a.IsSound) (hp : a.pulling = some p) (handled : a.Handled p event goesOn b) :
    b.IsSound := by
  obtain ⟨calm, clean⟩ := pulling_calm sound hp
  have fits := sound.fits
  rw [hp] at fits
  cases handled with
  | @record fields handler delivery outbox recorded =>
    have pulls := sound.pulls p hp
    obtain rfl := record_handler pulls.unanswered recorded
    exact ⟨sound.genuine, sound.counted,
      by rintro q ⟨⟩; exact ⟨pulls.unanswered, pulls.reply, pulls.kind⟩, sound.cleans,
      repull_fits fits rfl⟩
  | unsendable recorded answered =>
    exact failed_sound answered sound.genuine sound.counted calm.1 calm.2.1 rfl clean
  | done answered =>
    have rest : Sound ({ a.session with result := none }.withState p.next) a.inbox none a.cleanup :=
      ⟨sound.genuine, sound.counted, (by rintro q ⟨⟩), sound.cleans, done_fits fits⟩
    exact answered_sound rest answered
  | failed answered | closed answered =>
    exact failed_sound answered sound.genuine sound.counted calm.1 calm.2.1 rfl clean

theorem pumped_sound {p : Pulling} (sound : a.IsSound) (hp : a.pulling = some p)
    (pumped : a.Pumped p b) : b.IsSound := by
  cases pumped with
  | first _ held _ handled | further _ held _ handled =>
    have rest := handled_sound (took_sound sound held) hp handled
    exact rest
  | lost _ held => exact took_sound sound held
  | dry => exact sound
  | ended _ _ handled =>
    have rest := handled_sound sound hp handled
    exact rest

theorem interrupt_fits {s : Session π} {pulling : Option Pulling}
    (fits : Fits s pulling none) : Fits s.interrupt none none := by
  unfold Fits at *
  cases state : s.state <;>
    simp_all [Session.interrupt, Session.cancelExecution, Session.withState, Calm]

theorem interrupt_count (s : Session π) : s.interrupt.interrupts = s.interrupts + 1 := by
  by_cases early : s.state = .connected <;>
    simp [Session.interrupt, early, Session.cancelExecution, Session.withState]

theorem interrupted_parts (interrupted : a.Interrupted b) :
    ∃ outbox metrics, b = { a.disturbed.halted with outbox, metrics } := by
  cases interrupted with
  | calm idle => exact ⟨a.outbox, a.metrics, by simp [halted, disturbed, ← idle]⟩
  | cut _ answered => exact answered_parts answered

theorem admitted_sound {message : List UInt8} (sound : a.IsSound) (clean : a.cleanup = none)
    (admitted : a.Admitted message b) : b.IsSound ∧ b.cleanup = none := by
  have fits := sound.fits
  rw [clean] at fits
  cases admitted with
  | @plain m read plain =>
    refine ⟨⟨?_, ?_, sound.pulls, sound.cleans, sound.fits⟩, clean⟩
    · intro m' hm
      rcases List.mem_append.mp hm with old | new
      · exact sound.genuine m' old
      · exact List.mem_singleton.mp new ▸ read_genuine read
    · have := sound.counted
      simp [enqueued, counted, Session.recordRequest, plain, this]
  | @reset m c read resets interrupted =>
    obtain ⟨outbox, metrics, rfl⟩ := interrupted_parts interrupted
    refine ⟨⟨?_, ?_, by rintro p ⟨⟩, sound.cleans, ?_⟩, clean⟩
    · intro m' hm
      rcases List.mem_append.mp hm with old | new
      · exact sound.genuine m' old
      · exact List.mem_singleton.mp new ▸ read_genuine read
    · change (a.session.recordRequest a.now).interrupt.interrupts = (a.inbox ++ [m]).countP _
      simp [interrupt_count, Session.recordRequest, sound.counted, resets]
    · change Fits (a.session.recordRequest a.now).interrupt none a.cleanup
      rw [clean]
      exact interrupt_fits (s := a.session.recordRequest a.now) fits

theorem received_sound {messages : List (List UInt8)} (received : a.Received messages b)
    (sound : a.IsSound) (clean : a.cleanup = none) : b.IsSound := by
  induction received with
  | nothing => exact sound
  | message first _ ih =>
    obtain ⟨sound, clean⟩ := admitted_sound sound clean first
    exact ih sound clean

theorem owned_of_late {s : Session π} {pulling : Option Pulling} {cleanup : Option (Cleanup π)}
    (fits : Fits s pulling cleanup) (late : s.state ≠ .connected) :
    s.principal.isSome = true := by
  unfold Fits at fits
  cases state : s.state <;> simp_all [Calm]

theorem performed_sound {h : Handler} {action : Action} {next : ConnectionState}
    {request : Request} (sound : a.IsSound) (idle : a.pulling = none) (clean : a.cleanup = none)
    (untouched : h.Untouched)
    (accepted : Decision.of a.session.version a.session.state h.kind = .accept action next)
    (performed : a.Performed ctx h next action request b) : b.IsSound := by
  have fits := sound.fits
  rw [idle, clean] at fits
  unfold Fits at fits
  have nothing : ∀ s p, a.pulling = some p → p.next = s := by rw [idle]; rintro s p ⟨⟩
  cases performed with
  | opened known answered =>
    obtain ⟨early, -⟩ := accept_authenticate accepted
    refine answered_sound ?_ answered
    refine ⟨sound.genuine, sound.counted, sound.pulls, sound.cleans, ?_⟩
    simp only [early] at fits
    unfold Fits
    by_cases more : 0 < a.session.interrupts
    · simp [opened, Session.withState, Session.authenticate, more, idle, clean]
    · simp_all [opened, Session.withState, Session.authenticate, Calm]
  | ran called answered =>
    refine answered_sound ?_ answered
    refine ⟨sound.genuine, sound.counted, sound.pulls, sound.cleans, ?_⟩
    rcases accept_run accepted with ⟨state, -, rfl⟩ | ⟨state, -, rfl⟩ <;>
      simp only [state] at fits
    · exact ⟨fits.1, fits.2.1, rfl, nothing .ready, clean⟩
    · exact ⟨fits.1, fits.2.1, rfl, nothing .txReady, clean⟩
  | runFailed called answered =>
    rcases accept_run accepted with ⟨state, -, -⟩ | ⟨state, -, -⟩ <;>
      simp only [state] at fits <;>
      exact failed_sound answered sound.genuine sound.counted fits.1.1 fits.1.2.1 idle clean
  | @pulled _ _ r pulls held =>
    obtain ⟨kind, place⟩ := accept_pull pulls accepted
    refine ⟨sound.genuine, sound.counted, ?_, sound.cleans, ?_⟩
    · rintro p ⟨⟩
      exact ⟨untouched.unanswered, untouched.reply, kind⟩
    · rcases place with ⟨state, rfl⟩ | ⟨state, rfl⟩ <;> simp only [state] at fits <;>
        unfold Fits <;>
        simp only [state]
      · exact ⟨fits.1, fits.2.1, fits.2.2.1, by rintro p ⟨⟩; rfl, clean⟩
      · exact ⟨fits.1, fits.2.1, fits.2.2.1, by rintro p ⟨⟩; rfl, clean⟩
  | nothingHeld pulls free =>
    obtain ⟨-, ⟨state, -⟩ | ⟨state, -⟩⟩ := accept_pull pulls accepted <;>
      simp [state, free] at fits
  | begun called answered =>
    obtain ⟨state, -, rfl⟩ := accept_begin accepted
    simp only [state] at fits
    refine answered_sound ?_ answered
    exact ⟨sound.genuine, sound.counted, sound.pulls, sound.cleans,
      fits.1, rfl, fits.2.2.1, idle, clean⟩
  | beginFailed called answered =>
    obtain ⟨state, -, rfl⟩ := accept_begin accepted
    simp only [state] at fits
    exact failed_sound answered sound.genuine sound.counted fits.1.1 fits.1.2.1 idle clean
  | noTx ends free =>
    obtain ⟨state, -⟩ := accept_end ends accepted
    simp [state, free] at fits
  | committed held called answered | rolledBack held called answered =>
    obtain ⟨state, rfl⟩ := accept_end (by simp) accepted
    simp only [state] at fits
    refine answered_sound ?_ answered
    exact ⟨sound.genuine, sound.counted, sound.pulls, sound.cleans,
      fits.1, rfl, fits.2.2.1, idle, clean⟩
  | commitFailed held called answered | rollbackFailed held called answered =>
    obtain ⟨state, rfl⟩ := accept_end (by simp) accepted
    simp only [state] at fits
    exact failed_sound answered sound.genuine sound.counted fits.1.1 fits.1.2.1 idle clean

theorem popped_sound {s : Session π} {m : Inbound} {inbox : List Inbound}
    {pulling : Option Pulling} {cleanup : Option (Cleanup π)}
    (sound : Sound s (m :: inbox) pulling cleanup) (plain : m.isReset = false) :
    Sound s inbox pulling cleanup where
  genuine m' hm := sound.genuine m' (List.mem_cons_of_mem _ hm)
  counted := by rw [sound.counted, List.countP_cons_of_neg (by simp [plain])]
  pulls := sound.pulls
  cleans := sound.cleans
  fits := sound.fits

theorem request_reset {request : Request} {h : Handler}
    (genuine : (Inbound.request request h).Genuine) :
    (Inbound.request request h).isReset = true ↔ h.kind = .reset := by
  simp [Inbound.isReset, genuine.1]

theorem cleared_sound (genuine : ∀ m ∈ a.inbox, m.Genuine)
    (counted : a.session.interrupts = a.inbox.countP Inbound.isReset)
    (owned : a.session.principal.isSome = true) (undisturbed : a.session.interrupts = 0)
    (empty : a.session.result = none) (idle : a.pulling = none) (clean : a.cleanup = none) :
    (a.cleared ctx).IsSound where
  genuine := genuine
  counted := counted
  pulls p hp := by cases idle.symm.trans hp
  cleans c hc := by cases clean.symm.trans hc
  fits := by
    refine ⟨⟨owned, undisturbed, ?_⟩, rfl, empty, idle, clean⟩
    change (CancelSignal.renew a.session.cancel).fired = false
    unfold CancelSignal.renew
    split
    · rfl
    · next quiet => simpa using quiet

theorem ignored_plain {v : Version} {s : ConnectionState} {k : RequestKind}
    (decided : Decision.of v s k = .ignore) : k ≠ .reset := by
  rintro rfl
  by_cases early : s = .connected <;>
    simp [Decision.of, early, RequestKind.isHandshake] at decided

/-- Requests other than resets are never answered by a reset. -/
theorem performed_plain {h : Handler} {action : Action} {next : ConnectionState}
    {request : Request}
    (accepted : Decision.of a.session.version a.session.state h.kind = .accept action next)
    (performed : a.Performed ctx h next action request b) : h.kind ≠ .reset := by
  intro resets
  rw [resets] at accepted
  rcases accept_cases accepted with ⟨-, ⟨⟩, -⟩ | ⟨-, -, rfl⟩ | listed
  · cases performed <;> simp_all
  · simp [Transition.base, Transition.transactional] at listed

structure Acknowledged (a : Actor σ π) : Prop where
  genuine : ∀ m ∈ a.inbox, m.Genuine
  counted : a.acknowledged.session.interrupts = a.inbox.countP Inbound.isReset
  owned : a.session.principal.isSome = true
  interrupted : a.session.state = .interrupted

theorem acknowledged_parts {request : Request} {h : Handler} {next : ConnectionState}
    (sound : Sound a.session (.request request h :: a.inbox) a.pulling a.cleanup)
    (genuine : (Inbound.request request h).Genuine)
    (accepted : Decision.of a.session.version a.session.state h.kind = .accept .reset next) :
    a.Acknowledged := by
  obtain ⟨late, resets⟩ := accept_reset accepted
  have counted := sound.counted
  rw [List.countP_cons_of_pos ((request_reset genuine).mpr resets)] at counted
  refine ⟨fun m hm => sound.genuine m (List.mem_cons_of_mem _ hm), ?_,
    owned_of_late sound.fits late, ?_⟩
  · simp [acknowledged, Session.acknowledge, counted]
  · have fits := sound.fits
    unfold Fits at fits
    cases state : a.session.state <;> simp only [state, Calm] at fits late ⊢ <;> grind

theorem acknowledged_sound {request : Request} {h : Handler} {next : ConnectionState}
    (sound : Sound a.session (.request request h :: a.inbox) a.pulling a.cleanup)
    (genuine : (Inbound.request request h).Genuine)
    (accepted : Decision.of a.session.version a.session.state h.kind = .accept .reset next)
    (more : 0 < a.acknowledged.session.interrupts) (idle : a.pulling = none)
    (clean : a.cleanup = none) : a.acknowledged.IsSound := by
  have rest := acknowledged_parts sound genuine accepted
  refine ⟨rest.genuine, rest.counted, sound.pulls, sound.cleans, ?_⟩
  have state : a.acknowledged.session.state = .interrupted := rest.interrupted
  unfold Fits
  simp only [state]
  exact ⟨rest.owned, idle, fun _ => more, by simp [acknowledged, clean]⟩

theorem dealt_sound {m : Inbound} (sound : Sound a.session (m :: a.inbox) a.pulling a.cleanup)
    (idle : a.pulling = none) (clean : a.cleanup = none) (dealt : a.Dealt ctx m b) : b.IsSound := by
  have genuine := sound.genuine m List.mem_cons_self
  have rest := fun m' (hm : m' ∈ a.inbox) => sound.genuine m' (List.mem_cons_of_mem m hm)
  cases dealt with
  | unknown late room => exact popped_sound sound rfl
  | invalidPassed late answered => exact answered_sound (popped_sound sound rfl) answered
  | invalidRefused late quiet notFailed notInterrupted answered =>
    have popped := popped_sound sound rfl
    have calm : a.session.interrupts = 0 := by simpa [Act.isInterrupted, late] using quiet
    exact failed_sound answered popped.genuine popped.counted (owned_of_late sound.fits late) calm
      idle clean
  | passed interrupted plain answered =>
    have plain := mt (request_reset genuine).mp plain
    exact answered_sound (popped_sound sound (by simpa using plain)) answered
  | ignored heard decided answered =>
    have plain := mt (request_reset genuine).mp (ignored_plain decided)
    exact answered_sound (popped_sound sound (by simpa using plain)) answered
  | performed heard accepted performed =>
    have plain := mt (request_reset genuine).mp (performed_plain accepted performed)
    exact performed_sound (popped_sound sound (by simpa using plain)) idle clean genuine.2 accepted
      performed
  | resetPassed accepted more answered =>
    exact answered_sound (acknowledged_sound sound genuine accepted more idle clean) answered
  | resetDone accepted last empty answered =>
    have rest := acknowledged_parts sound genuine accepted
    exact answered_sound (cleared_sound (a := a.acknowledged.cancelled) rest.genuine rest.counted
      rest.owned last empty idle clean) answered
  | resetWaits accepted last held =>
    have rest := acknowledged_parts sound genuine accepted
    refine ⟨rest.genuine, rest.counted, ?_, ?_, ?_⟩
    · rintro p hp
      cases idle.symm.trans hp
    · rintro c ⟨⟩
      exact ⟨genuine.2, (accept_reset accepted).2⟩
    · unfold Fits
      simp only [emptied, cancelled, acknowledged, Session.cancelExecution, Session.acknowledge,
        rest.interrupted]
      exact ⟨rest.owned, idle, by simp, fun _ => ⟨last, trivial⟩⟩

theorem waiting_fits {c : Cleanup π} (sound : a.IsSound) (waits : a.cleanup = some c) :
    a.session.principal.isSome = true ∧ a.pulling = none ∧ a.session.interrupts = 0 ∧
      a.session.result = none := by
  have fits := sound.fits
  rw [waits] at fits
  unfold Fits at fits
  cases state : a.session.state <;> simp_all

theorem dismissed_sound {c : Cleanup π} (sound : a.IsSound) (waits : a.cleanup = some c) :
    (a.dismissed.cleared ctx).IsSound := by
  obtain ⟨owned, idle, undisturbed, empty⟩ := waiting_fits sound waits
  exact cleared_sound (a := a.dismissed) sound.genuine sound.counted owned undisturbed empty
    idle rfl

theorem fed_sound {bytes : List UInt8} (sound : a.IsSound) : (a.fed bytes).IsSound where
  genuine := sound.genuine
  counted := sound.counted
  pulls := sound.pulls
  cleans := sound.cleans
  fits := sound.fits

theorem occurred_sound {o : Occurrence} (sound : a.IsSound) (occurred : a.Occurred ctx o b) :
    b.IsSound := by
  cases occurred with
  | received can received =>
    exact received_sound received (fed_sound sound) (canRead_free can).1
  | @turn m rest _ can full dealt =>
    obtain ⟨clean, idle⟩ := hasTurn_free can
    have first : Sound a.session a.inbox a.pulling a.cleanup := sound
    rw [full] at first
    exact dealt_sound (a := { a with inbox := rest }) first idle clean dealt
  | produced held => exact took_sound sound held
  | pumped _ hp pumped => exact pumped_sound sound hp pumped
  | cleaned waits answered => exact answered_sound (dismissed_sound sound waits) answered

/-- Every open connection is sound. -/
theorem reachable_sound (reachable : Reachable ctx a) : a.IsSound := by
  induction reachable with
  | fresh =>
    exact ⟨by rintro m ⟨⟩, rfl, by rintro p ⟨⟩, by rintro c ⟨⟩, rfl, rfl, rfl, rfl, rfl, rfl⟩
  | move _ moved ih =>
    obtain ⟨o, c, -, occurred, rfl⟩ | ⟨_, _, _, -, rfl⟩ := move_outcome moved
    · have rest : c.IsSound := occurred_sound ih occurred
      exact rest
    · exact ih

end Actor

end GraphProtocol
