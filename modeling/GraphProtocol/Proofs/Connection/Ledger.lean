import GraphProtocol.Proofs.Connection.Phase

/-!
# One answer for every message

The responses that have been queued are cut into groups, one for every message
that has been dealt with, in the order in which the messages were read. A group
ends with its only response that is not a record. At most one message is neither
dealt with nor in the inbox: the pull that is under way or the reset that waits.
-/

set_option autoImplicit false

namespace GraphProtocol

variable {σ π : Type}

inductive Inbound.AnsweredBy : Inbound → List Response → Prop where
  | unknown {signature : UInt8} : AnsweredBy (.unknown signature) [.ignored]
  | passed {h : Handler} {fault : RequestFault} : AnsweredBy (.invalid h fault) [.ignored]
  | refused {h : Handler} {fault : RequestFault} :
      AnsweredBy (.invalid h fault) [.failure (.ofStatus .requestInvalid fault.message)]
  | request {r : Request} {h : Handler} {records : List (List Value)} {terminal : Response} :
      terminal.kind ≠ .record → (records ≠ [] → r.kind = .pullAll) →
      AnsweredBy (.request r h) (records.map .record ++ [terminal])

/-- The message that is being dealt with between two turns, and the records already sent for it. -/
inductive InFlight (pulling : Option Pulling) (cleanup : Option (Cleanup π)) :
    List Inbound → List (List Value) → Prop where
  | nothing : pulling = none → cleanup = none → InFlight pulling cleanup [] []
  | pull {p : Pulling} {r : Request} {h : Handler} {records : List (List Value)} :
      pulling = some p → cleanup = none → p.handler.kind = r.kind →
      (records ≠ [] → r.kind = .pullAll) → InFlight pulling cleanup [.request r h] records
  | reset {c : Cleanup π} {r : Request} {h : Handler} :
      pulling = none → cleanup = some c → r.kind = .reset →
      InFlight pulling cleanup [.request r h] []

/-- What the queued responses and the read messages have to do with each other. -/
structure Ledger (c : Connection π) (read : List Inbound)
    (exchanges : List (Inbound × List Response)) (current : List Inbound)
    (records : List (List Value)) : Prop where
  order : read = exchanges.map Prod.fst ++ current ++ c.inbox
  sent : c.outbox.accepted.reverse = exchanges.flatMap Prod.snd ++ records.map .record
  answers : ∀ e ∈ exchanges, e.1.AnsweredBy e.2
  flight : InFlight c.pulling c.cleanup current records
  counted : c.session.requestCount = read.length

theorem flight_free {pulling : Option Pulling} {cleanup : Option (Cleanup π)}
    {current : List Inbound} {records : List (List Value)}
    (flight : InFlight pulling cleanup current records) (idle : pulling = none)
    (clean : cleanup = none) : current = [] ∧ records = [] := by
  cases flight with
  | nothing => exact ⟨rfl, rfl⟩
  | pull hp => cases idle.symm.trans hp
  | reset _ waits => cases clean.symm.trans waits

namespace Actor

def arrivals (a : Actor σ π) : Move σ → List Inbound
  | .here (.received bytes) =>
    (a.completed bytes).filterMap (Inbound.read? a.session.version a.now)
  | _ => []

def Answers (a : Actor σ π) (read : List Inbound) : Prop :=
  ∃ exchanges current records, Ledger a.toConnection read exchanges current records

variable {ctx : Context σ π} {a b : Actor σ π} {read : List Inbound}

/-- A message that is taken from the inbox and answered at once. -/
theorem answer_turn {m : Inbound} {rest : List Inbound} {response : Response}
    (answers : a.Answers read) (idle : a.pulling = none) (clean : a.cleanup = none)
    (full : a.inbox = m :: rest) (answered : m.AnsweredBy [response])
    (accepted : b.outbox.accepted = response :: a.outbox.accepted) (inbox : b.inbox = rest)
    (idle' : b.pulling = none) (clean' : b.cleanup = none)
    (count : b.session.requestCount = a.session.requestCount) : b.Answers read := by
  obtain ⟨exchanges, current, records, ledger⟩ := answers
  obtain ⟨rfl, rfl⟩ := flight_free ledger.flight idle clean
  refine ⟨exchanges ++ [(m, [response])], [], [], ?_, ?_, ?_, .nothing idle' clean',
    count.trans ledger.counted⟩
  · simp [ledger.order, full, inbox]
  · simp [accepted, ledger.sent]
  · intro e he
    rcases List.mem_append.mp he with old | new
    · exact ledger.answers e old
    · rw [List.mem_singleton.mp new]
      exact answered

/-- A message that is in flight and finished. -/
theorem answer_flight {r : Request} {h : Handler} {records : List (List Value)}
    {exchanges : List (Inbound × List Response)} {response : Response}
    (ledger : Ledger a.toConnection read exchanges [.request r h] records)
    (terminal : response.kind ≠ .record) (shown : records ≠ [] → r.kind = .pullAll)
    (accepted : b.outbox.accepted = response :: a.outbox.accepted) (inbox : b.inbox = a.inbox)
    (idle : b.pulling = none) (clean : b.cleanup = none)
    (count : b.session.requestCount = a.session.requestCount) : b.Answers read := by
  refine ⟨exchanges ++ [(.request r h, records.map .record ++ [response])], [], [], ?_, ?_, ?_,
    .nothing idle clean, count.trans ledger.counted⟩
  · simp [ledger.order, inbox]
  · simp [accepted, ledger.sent]
  · intro e he
    rcases List.mem_append.mp he with old | new
    · exact ledger.answers e old
    · rw [List.mem_singleton.mp new]
      exact .request terminal shown

theorem answers_congr (answers : a.Answers read) (accepted : b.outbox.accepted = a.outbox.accepted)
    (inbox : b.inbox = a.inbox) (pulling : b.pulling = a.pulling) (cleanup : b.cleanup = a.cleanup)
    (count : b.session.requestCount = a.session.requestCount) : b.Answers read := by
  obtain ⟨exchanges, current, records, ledger⟩ := answers
  refine ⟨exchanges, current, records, ?_, ?_, ledger.answers, ?_, count.trans ledger.counted⟩
  · rw [inbox]
    exact ledger.order
  · rw [accepted]
    exact ledger.sent
  · rw [pulling, cleanup]
    exact ledger.flight

/-! ## Reading -/

theorem enqueued_answers {m : Inbound} (answers : a.Answers read) :
    ((a.counted m).enqueued m).Answers (read ++ [m]) := by
  obtain ⟨exchanges, current, records, ledger⟩ := answers
  refine ⟨exchanges, current, records, ?_, ledger.sent, ledger.answers, ledger.flight, ?_⟩
  · simp [enqueued, counted, ledger.order]
  · simp [enqueued, counted, Session.recordRequest, ledger.counted]

theorem interrupt_kept (s : Session π) : s.interrupt.requestCount = s.requestCount ∧
    s.interrupt.version = s.version := by
  by_cases early : s.state = .connected <;>
    simp [Session.interrupt, early, Session.cancelExecution, Session.withState]

theorem finish_answers {p : Pulling} {response : Response} (answers : a.Answers read)
    (hp : a.pulling = some p) (terminal : response.kind ≠ .record)
    (accepted : b.outbox.accepted = response :: a.outbox.accepted) (inbox : b.inbox = a.inbox)
    (idle : b.pulling = none) (clean' : b.cleanup = none)
    (count : b.session.requestCount = a.session.requestCount) : b.Answers read := by
  obtain ⟨exchanges, current, records, ledger⟩ := answers
  cases ledger.flight with
  | nothing idle => cases idle.symm.trans hp
  | reset idle => cases idle.symm.trans hp
  | pull _ _ _ shown =>
    exact answer_flight ledger terminal shown accepted inbox idle clean' count

theorem admitted_answers {message : List UInt8} (sound : a.IsSound) (clean : a.cleanup = none)
    (answers : a.Answers read) (admitted : a.Admitted message b) :
    ∃ m, Inbound.read? a.session.version a.now message = some m ∧ b.Answers (read ++ [m]) ∧
      b.session.version = a.session.version ∧ b.now = a.now := by
  cases admitted with
  | @plain m found plain => exact ⟨m, found, enqueued_answers answers, rfl, rfl⟩
  | @reset m c found resets interrupted =>
    refine ⟨m, found, ?_, ?_⟩
    · cases interrupted with
      | calm idle =>
        exact answers_congr (enqueued_answers answers) rfl rfl rfl rfl (interrupt_kept _).1
      | @cut p _ hp answered =>
        have pulls := sound.pulls p hp
        obtain ⟨outbox, metrics, rfl, accepted⟩ :=
          answered_sent pulls.unanswered (pulls_loud pulls) answered
        exact finish_answers (enqueued_answers answers) hp (by decide) accepted rfl rfl clean
          (interrupt_kept _).1
    · obtain ⟨outbox, metrics, rfl⟩ := interrupted_parts interrupted
      exact ⟨(interrupt_kept _).2, rfl⟩

theorem received_answers {messages : List (List UInt8)} (received : a.Received messages b)
    (sound : a.IsSound) (clean : a.cleanup = none) (answers : a.Answers read) :
    b.Answers (read ++ messages.filterMap (Inbound.read? a.session.version a.now)) := by
  induction received generalizing read with
  | nothing => simpa using answers
  | message first _ ih =>
    obtain ⟨m, found, further, version, now⟩ := admitted_answers sound clean answers first
    obtain ⟨sound, clean⟩ := admitted_sound sound clean first
    have rest := ih sound clean further
    rw [version, now] at rest
    rw [List.filterMap_cons_some found]
    simpa using rest

/-! ## Dealing -/

theorem plain_answer {r : Request} {h : Handler} {terminal : Response}
    (plain : terminal.kind ≠ .record) : (Inbound.request r h).AnsweredBy [terminal] := by
  have whole : (Inbound.request r h).AnsweredBy (([] : List (List Value)).map .record ++
    [terminal]) := .request plain (by simp)
  exact whole

/-- A message that is taken from the inbox and not answered yet. -/
theorem flight_turn {m : Inbound} {rest : List Inbound} (answers : a.Answers read)
    (idle : a.pulling = none) (clean : a.cleanup = none) (full : a.inbox = m :: rest)
    (accepted : b.outbox.accepted = a.outbox.accepted) (inbox : b.inbox = rest)
    (flight : InFlight b.pulling b.cleanup [m] [])
    (count : b.session.requestCount = a.session.requestCount) : b.Answers read := by
  obtain ⟨exchanges, current, records, ledger⟩ := answers
  obtain ⟨rfl, rfl⟩ := flight_free ledger.flight idle clean
  refine ⟨exchanges, [m], [], ?_, ?_, ledger.answers, flight, count.trans ledger.counted⟩
  · simp [ledger.order, full, inbox]
  · rw [accepted]
    exact ledger.sent

theorem performed_answers {rest : List Inbound} {request : Request} {h : Handler}
    {action : Action} {next : ConnectionState} (answers : a.Answers read)
    (idle : a.pulling = none) (clean : a.cleanup = none)
    (full : a.inbox = .request request h :: rest) (untouched : h.Untouched)
    (kind : h.kind = request.kind)
    (performed : Performed ctx { a with inbox := rest } h next action request b) :
    b.Answers read := by
  cases performed with
  | pulled => exact flight_turn answers idle clean full rfl rfl (.pull rfl clean kind (by simp)) rfl
  | opened _ answered | ran _ answered | runFailed _ answered | nothingHeld _ _ answered
  | begun _ answered | beginFailed _ answered | noTx _ _ answered | committed _ _ answered
  | commitFailed _ _ answered | rolledBack _ _ answered | rollbackFailed _ _ answered =>
    obtain ⟨outbox, metrics, rfl, accepted⟩ :=
      answered_sent untouched.unanswered (untouched_loud untouched) answered
    exact answer_turn answers idle clean full (plain_answer (by simp [Response.kind])) accepted rfl
      idle clean rfl

theorem dealt_answers {m : Inbound} {rest : List Inbound} (sound : a.IsSound)
    (answers : a.Answers read) (idle : a.pulling = none) (clean : a.cleanup = none)
    (full : a.inbox = m :: rest) (dealt : Dealt ctx { a with inbox := rest } m b) :
    b.Answers read := by
  have genuine : m.Genuine := sound.genuine m (by rw [full]; exact List.mem_cons_self)
  cases dealt with
  | unknown _ room =>
    exact answer_turn answers idle clean full .unknown (queue_accepted room).1 rfl idle clean rfl
  | invalidPassed _ answered =>
    obtain ⟨outbox, metrics, rfl, accepted⟩ :=
      answered_sent genuine.1 (by rw [genuine.2]; decide) answered
    exact answer_turn answers idle clean full .passed accepted rfl idle clean rfl
  | invalidRefused _ _ _ _ answered =>
    obtain ⟨outbox, metrics, rfl, accepted⟩ :=
      answered_sent genuine.1 (by rw [genuine.2]; decide) answered
    exact answer_turn answers idle clean full .refused accepted rfl idle clean rfl
  | passed _ _ answered | ignored _ _ answered | resetPassed _ _ answered
  | resetDone _ _ _ answered =>
    obtain ⟨outbox, metrics, rfl, accepted⟩ :=
      answered_sent genuine.2.unanswered (untouched_loud genuine.2) answered
    exact answer_turn answers idle clean full (plain_answer (by decide)) accepted rfl idle clean rfl
  | performed _ _ performed =>
    exact performed_answers answers idle clean full genuine.2 genuine.1 performed
  | @resetWaits request h _ _ accepted =>
    have kind : request.kind = .reset := genuine.1.symm.trans (accept_reset accepted).2
    exact flight_turn answers idle clean full rfl rfl (.reset idle rfl kind) rfl

/-! ## Pulling -/

theorem record_answers {p q : Pulling} {fields : List Value} (answers : a.Answers read)
    (hp : a.pulling = some p) (same : q.handler.kind = p.handler.kind)
    (sent : (p.handler.kind = .pullAll ∧
        b.outbox.accepted = .record fields :: a.outbox.accepted) ∨
      (p.handler.kind = .discardAll ∧ b.outbox = a.outbox))
    (inbox : b.inbox = a.inbox) (hq : b.pulling = some q) (cleanup : b.cleanup = a.cleanup)
    (count : b.session.requestCount = a.session.requestCount) : b.Answers read := by
  obtain ⟨exchanges, current, records, ledger⟩ := answers
  cases ledger.flight with
  | nothing idle => cases idle.symm.trans hp
  | reset idle => cases idle.symm.trans hp
  | @pull p' r h _ hp' clean kind shown =>
    cases hp.symm.trans hp'
    have order := ledger.order
    rw [← inbox] at order
    rcases sent with ⟨stream, accepted⟩ | ⟨discard, outbox⟩
    · refine ⟨exchanges, [.request r h], records ++ [fields], order, ?_, ledger.answers,
        .pull hq (cleanup.trans clean) (same.trans kind) ?_, count.trans ledger.counted⟩
      · simp [accepted, ledger.sent]
      · exact fun _ => kind ▸ stream
    · refine ⟨exchanges, [.request r h], records, order, ?_, ledger.answers,
        .pull hq (cleanup.trans clean) (same.trans kind) shown, count.trans ledger.counted⟩
      rw [outbox]
      exact ledger.sent

theorem handled_answers {p : Pulling} {event : Option StreamEvent} {goesOn : Bool}
    (sound : a.IsSound) (hp : a.pulling = some p) (answers : a.Answers read)
    (handled : a.Handled p event goesOn b) : b.Answers read := by
  have pulls := sound.pulls p hp
  have clean := (pulling_calm sound hp).2
  cases handled with
  | record recorded =>
    obtain ⟨rfl, sent⟩ := record_sent pulls recorded
    exact record_answers (q := { p with handler := p.handler.further }) answers hp rfl sent rfl rfl
      rfl rfl
  | @unsendable fields handler e _ recorded answered =>
    obtain rfl := record_handler pulls.unanswered recorded
    obtain ⟨outbox, metrics, rfl, accepted⟩ :=
      answered_sent (h := p.handler.further) pulls.unanswered (pulls_loud (h := p.handler) pulls)
        answered
    exact finish_answers answers hp (by simp [Response.kind]) accepted rfl rfl clean rfl
  | done answered | failed answered | closed answered =>
    obtain ⟨outbox, metrics, rfl, accepted⟩ :=
      answered_sent pulls.unanswered (pulls_loud pulls) answered
    exact finish_answers answers hp (by simp [Response.kind]) accepted rfl rfl clean rfl

theorem took_answers {r : ResultStream π} (answers : a.Answers read) : (a.took r).Answers read :=
  answers_congr answers rfl rfl rfl rfl rfl

theorem pumped_answers {p : Pulling} (sound : a.IsSound) (hp : a.pulling = some p)
    (answers : a.Answers read) (pumped : a.Pumped p b) : b.Answers read := by
  cases pumped with
  | first _ held _ handled | further _ held _ handled =>
    have done := handled_answers (took_sound sound held) hp (took_answers answers) handled
    exact answers_congr done (batched_accepted _ _ _) rfl rfl rfl rfl
  | lost => exact answers_congr answers rfl rfl rfl rfl rfl
  | dry => exact answers_congr answers rfl rfl rfl rfl rfl
  | ended _ _ handled =>
    have done := handled_answers sound hp answers handled
    exact answers_congr done (batched_accepted _ _ _) rfl rfl rfl rfl

theorem cleaned_answers {c : Cleanup π} (sound : a.IsSound) (waits : a.cleanup = some c)
    (answers : a.Answers read)
    (answered : (a.dismissed.cleared ctx).Answered c.handler (.success .empty) b) :
    b.Answers read := by
  have untouched := (sound.cleans c waits).1
  obtain ⟨outbox, metrics, rfl, accepted⟩ :=
    answered_sent untouched.unanswered (untouched_loud untouched) answered
  obtain ⟨exchanges, current, records, ledger⟩ := answers
  cases ledger.flight with
  | nothing _ clean => cases clean.symm.trans waits
  | pull _ clean => cases clean.symm.trans waits
  | reset idle => exact answer_flight ledger (by decide) (by simp) accepted rfl idle rfl rfl

theorem occurred_answers {o : Occurrence} (sound : a.IsSound) (answers : a.Answers read)
    (occurred : a.Occurred ctx o b) :
    b.Answers (read ++ a.arrivals (.here o : Move σ)) := by
  cases occurred with
  | received can received =>
    exact received_answers (a := a.fed _) received (fed_sound sound) (canRead_free can).1
      (answers_congr answers rfl rfl rfl rfl rfl)
  | turn can full dealt =>
    obtain ⟨clean, idle⟩ := hasTurn_free can
    simpa [arrivals] using dealt_answers sound answers idle clean full dealt
  | produced held => simpa [arrivals] using took_answers answers
  | pumped _ hp pumped => simpa [arrivals] using pumped_answers sound hp answers pumped
  | cleaned waits answered => simpa [arrivals] using cleaned_answers sound waits answers answered

theorem move_answers {move : Move σ} (sound : a.IsSound) (answers : a.Answers read)
    (moved : a.move? ctx move = some b) : b.Answers (read ++ a.arrivals move) := by
  obtain ⟨o, c, rfl, occurred, rfl⟩ | ⟨_, _, _, rfl, rfl⟩ := move_outcome moved
  · exact answers_congr (occurred_answers sound answers occurred) (poised_accepted c) rfl rfl rfl
      rfl
  · change Answers _ (read ++ [])
    rw [List.append_nil]
    exact answers_congr answers rfl rfl rfl rfl rfl

theorem run_answers {moves : List (Move σ)} (reachable : Reachable ctx a)
    (answers : a.Answers read) (run : a.run? ctx moves = some b) :
    b.Answers (read ++ gather ctx arrivals a moves) := by
  induction moves generalizing a read with
  | nil => cases run; simpa [gather] using answers
  | cons move moves ih =>
    obtain ⟨c, moved, further⟩ := Option.bind_eq_some_iff.mp run
    have rest := ih (reachable.move moved)
      (move_answers (reachable_sound reachable) answers moved) further
    simpa [gather, moved] using rest

/-- After every run the queued responses are groups that answer the messages in the order of their
reading: a group is complete for every message that is neither in the inbox nor in flight, and
the records already sent for a message in flight follow the complete groups. -/
theorem responses_answer {pipeline : Pipeline} {id : String} {engine : σ} {metrics : Metrics}
    {now : Instant} {moves : List (Move σ)}
    (run : (fresh pipeline id engine metrics now).run? ctx moves = some a) :
    ∃ (exchanges : List (Inbound × List Response)) (current : List Inbound)
        (records : List (List Value)),
      gather ctx arrivals (fresh pipeline id engine metrics now) moves =
        exchanges.map Prod.fst ++ current ++ a.inbox ∧
      a.outbox.accepted.reverse = exchanges.flatMap Prod.snd ++ records.map .record ∧
      (∀ e ∈ exchanges, e.1.AnsweredBy e.2) ∧
      InFlight a.pulling a.cleanup current records ∧
      exchanges.length + (if a.pulling.isSome || a.cleanup.isSome then 1 else 0) + a.inbox.length =
        a.session.requestCount := by
  have start : (fresh (π := π) pipeline id engine metrics now).Answers [] :=
    ⟨[], [], [], rfl, rfl, by simp, .nothing rfl rfl, rfl⟩
  obtain ⟨exchanges, current, records, ledger⟩ := run_answers .fresh start run
  refine ⟨exchanges, current, records, ?_, ledger.sent, ledger.answers, ledger.flight, ?_⟩
  · simpa using ledger.order
  · have flight : current.length = if a.pulling.isSome || a.cleanup.isSome then 1 else 0 := by
      cases ledger.flight with
      | nothing idle clean => simp [idle, clean]
      | pull hp clean => simp [hp]
      | reset idle waits => simp [waits]
    rw [ledger.counted, ledger.order, ← flight]
    simp [Nat.add_assoc]

theorem sample_answered : ∃ (a : Actor Script.Stage Script.Run)
    (exchanges : List (Inbound × List Response)) (current : List Inbound),
    (sample []).run? sampleContext sampleMoves = some a ∧
      gather sampleContext arrivals (sample []) sampleMoves =
        exchanges.map Prod.fst ++ current ++ a.inbox ∧
      (∀ e ∈ exchanges, e.1.AnsweredBy e.2) ∧ exchanges.length = 2 := by
  obtain ⟨outbox, -, run⟩ := sample_run []
  obtain ⟨exchanges, current, -, order, -, answers, -, count⟩ := responses_answer run
  have two : exchanges.length + 1 + 0 = 3 := count
  exact ⟨_, exchanges, current, run, order, answers, by omega⟩

end Actor

end GraphProtocol
