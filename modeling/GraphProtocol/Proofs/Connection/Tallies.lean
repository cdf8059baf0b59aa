import GraphProtocol.Proofs.Connection.Interrupts
import GraphProtocol.Proofs.Connection.Upkeep
import GraphProtocol.Proofs.Metrics.Registry

/-!
# What is counted

Requests are counted when they are read, failures and ignored messages when their
responses are queued, and the answer to a known request is timed. These are different
places of the work, and some of the work fails midway. Where no other connection uses the
same metrics, what was counted still agrees with what was read and queued, after every
step, and so does what a registry shows that can be relied on. On an open connection the
known requests that have not been timed are those that wait.
-/

set_option autoImplicit false

namespace GraphProtocol

variable {σ π : Type}

def Response.code? : Response → Option String
  | .failure f => some f.code
  | _ => none

namespace Metrics

/-! ## Updates -/

/-- What has been counted of the messages that were read, given the names that they are counted
under, and of the responses that were queued. -/
structure Notes (m : Metrics) (read : List String) (queued : List Response) : Prop where
  requests : (m.labels .requests).Perm read
  failures : m.labels .failures = queued.filterMap Response.code?
  ignored : (m.labels .ignored).length = queued.countP (·.kind == .ignored)

/-- Whether the requests that are counted and not timed are those of a list of names. -/
def Owes (m : Metrics) (names : List String) : Prop :=
  ∀ k : RequestKind, (m.labels .requests).count k.name =
    (m.labels .durations).count k.name + names.count k.name

def Agrees (m other : Metrics) : Prop := ∀ family, m.labels family = other.labels family

variable {m other : Metrics} {read names : List String} {queued : List Response}

theorem notes_ignored (notes : m.Notes read queued) (name : String) :
    (m.countIgnored name).Notes read (.ignored :: queued) where
  requests := notes.requests
  failures := notes.failures
  ignored := by
    show (name :: m.labels .ignored).length = _
    rw [List.length_cons, notes.ignored, List.countP_cons_of_pos rfl]

/-- An answer is counted as what it is. -/
theorem notes_answered (notes : m.Notes read queued) (h : Handler) (r : Response) (now : Instant) :
    (m.answered h r now).Notes read (r :: queued) := by
  have observed : ∀ seconds, (m.observe h.kind.name seconds).Notes read queued :=
    fun _ => ⟨notes.requests, notes.failures, notes.ignored⟩
  cases r with
  | success | record => exact ⟨notes.requests, notes.failures, notes.ignored⟩
  | ignored => exact notes_ignored (observed _) h.kind.name
  | failure f => exact ⟨notes.requests, congrArg (f.code :: ·) notes.failures, notes.ignored⟩

/-- A message that is read is counted. -/
theorem notes_request (notes : m.Notes read queued) (name : String) :
    (m.countRequest name).Notes (read ++ [name]) queued where
  requests := (notes.requests.cons name).trans (List.perm_append_singleton name read).symm
  failures := notes.failures
  ignored := notes.ignored

theorem owes_perm {others : List String} (owes : m.Owes names) (same : names.Perm others) :
    m.Owes others := by
  intro k
  rw [← same.count_eq]
  exact owes k

theorem owes_request (owes : m.Owes names) (name : String) :
    (m.countRequest name).Owes (names ++ [name]) := by
  intro k
  have before := owes k
  show (name :: m.labels .requests).count k.name = (m.labels .durations).count k.name + _
  rw [List.count_append, List.count_cons, List.count_singleton]
  omega

/-- Every answer is timed. -/
theorem owes_answered {h : Handler} (owes : m.Owes (h.kind.name :: names)) (r : Response)
    (now : Instant) : (m.answered h r now).Owes names := by
  have observed (seconds : Binary64) : (m.observe h.kind.name seconds).Owes names := by
    intro k
    have before := owes k
    rw [List.count_cons] at before
    show (m.labels .requests).count k.name = (h.kind.name :: m.labels .durations).count k.name + _
    rw [List.count_cons]
    omega
  cases r <;> exact observed (.ofRatio (h.elapsed now).nanos 1000000000)

/-- No known request is called like those that are not known. -/
theorem owes_unknown (owes : m.Owes (Act.unknownName :: names)) : m.Owes names := by
  intro k
  have other : Act.unknownName ≠ k.name := by cases k <;> decide
  have before := owes k
  rwa [List.count_cons_of_ne other] at before

theorem notes_agrees (same : m.Agrees other) (notes : other.Notes read queued) :
    m.Notes read queued where
  requests := same .requests ▸ notes.requests
  failures := same .failures ▸ notes.failures
  ignored := same .ignored ▸ notes.ignored

theorem owes_agrees (same : m.Agrees other) (owes : other.Owes names) : m.Owes names := by
  intro k
  rw [same .requests, same .durations]
  exact owes k

theorem notes_fresh : fresh.Notes [] [] := ⟨.nil, rfl, rfl⟩

theorem owes_fresh : fresh.Owes [] := fun _ => rfl

end Metrics

/-! ## What a registry shows -/

namespace Registry

open Metrics

/-- What is shown of the messages that were read, given the names that they are counted under, and
of the responses that were queued. -/
structure Tells (R : Registry) (m : Metrics) (read : List String) (queued : List Response) :
    Prop where
  requests : (R.shown m .requests).Counts read
  failures : (R.shown m .failures).Counts (queued.filterMap Response.code?)
  ignored : (R.shown m .ignored).values.sum = queued.countP (·.kind == .ignored)

def requested (R : Registry) (m : Metrics) (name : String) : Nat :=
  ((R.shown m .requests).get? name).getD 0

def timed (R : Registry) (m : Metrics) (name : String) : Nat :=
  ((R.shown m .durations).get? name).getD 0

variable {R : Registry} {allowed : Set String} {limit : Nat} {m : Metrics}

theorem shows_notes (counts : R.Counts allowed limit) (within : m.Within allowed limit)
    {read : List String} {queued : List Response} (notes : m.Notes read queued) :
    R.Tells m read queued where
  requests := Dict.counts_perm (shown_counts counts within .requests).2 notes.requests
  failures := notes.failures ▸ (shown_counts counts within .failures).2
  ignored := (shown_counts counts within .ignored).2.total.trans notes.ignored

theorem shows_owed (counts : R.Counts allowed limit) (within : m.Within allowed limit)
    {names : List String} (owes : m.Owes names) (k : RequestKind) :
    R.requested m k.name = R.timed m k.name + names.count k.name := by
  unfold requested timed
  rw [(shown_counts counts within .requests).2.each, (shown_counts counts within .durations).2.each]
  exact owes k

end Registry

/-- What the responses do to the counts. -/
theorem notes_upheld (read : List String) : Upheld fun m queued => m.Notes read queued where
  answered h r now notes := Metrics.notes_answered notes h r now
  record _ notes := ⟨notes.requests, notes.failures, notes.ignored⟩
  unknown notes := Metrics.notes_ignored notes Act.unknownName

/-! ## Reading -/

/-- The names under which messages are counted that are read one after another: up to the goodbye,
and up to the first that cannot be read at all. -/
def Request.names (version : Version) : List (List UInt8) → List String
  | [] => []
  | message :: rest =>
    match Request.decode version message with
    | .ok (r, _) => r.kind.name :: if r.kind = .goodbye then [] else names version rest
    | .error (.unknownSignature _) => Act.unknownName :: names version rest
    | .error (.invalid kind _) => kind.name :: names version rest
    | .error (.fatal _) => []

theorem Request.names_cons (version : Version) (message : List UInt8) (rest : List (List UInt8)) :
    names version (message :: rest) =
      match Request.decode version message with
      | .ok (r, _) => r.kind.name :: if r.kind = .goodbye then [] else names version rest
      | .error (.unknownSignature _) => Act.unknownName :: names version rest
      | .error (.invalid kind _) => kind.name :: names version rest
      | .error (.fatal _) => [] := rfl

abbrev Actor.Notes (read : List String) (a : Actor σ π) : Prop :=
  a.Upholds fun m queued => m.Notes read queued

namespace Act

variable {read : List String} {a b : Actor σ π}

theorem counted_notes (before : a.Notes read) (m : Inbound) :
    (a.counted m).Notes (read ++ [m.name]) := Metrics.notes_request before m.name

/-- To ignore a request never fails. -/
theorem ignore_succeeds (h : Handler) (a : Actor σ π) :
    ∃ b, ignore h a = .ok () b ∧ b.session = a.session := by
  by_cases loud : h.done = false ∧ h.reply ≠ .silent
  · obtain ⟨outbox, metrics, ignored, -⟩ := ignore_sent (a := a) loud.1 loud.2
    exact ⟨_, ignored, rfl⟩
  · have dropped : (h.terminal a.outbox .ignored).2 = .ok (.dropped, a.outbox) := by
      unfold Handler.terminal
      by_cases done : h.done = true
      · rw [if_pos done]
      · have silent : h.reply = .silent := by simpa [done] using loud
        rw [if_neg done, silent]
    refine ⟨a, ?_, rfl⟩
    unfold ignore respond
    rw [get_bind, dropped]
    rfl

/-- So a reset that is read leaves the counts of the messages before it as they are. -/
theorem interrupt_notes (before : a.Notes read) : ∃ b, interrupt a = .ok () b ∧ b.Notes read ∧
    b.session.version = a.session.version := by
  have kept := upholds_interrupt (notes_upheld read) a before
  have done : ∃ b, interrupt a = .ok () b ∧ b.session = a.session.interrupt := by
    unfold interrupt
    rw [modifySession_bind, get_bind]
    dsimp only
    cases a.pulling with
    | none => exact ⟨_, rfl, rfl⟩
    | some p => exact ignore_succeeds p.handler a.disturbed.halted
  obtain ⟨b, done, session⟩ := done
  rw [done] at kept
  exact ⟨b, done, kept, session ▸ Actor.interrupt_version a.session⟩

/-- A message is counted and the next one can be read, or it is the last that is read. -/
theorem receiveMessage_notes (message : List UInt8) (before : a.Notes read) :
    (∃ b name, receiveMessage message a = .ok .proceed b ∧ b.Notes (read ++ [name]) ∧
      b.session.version = a.session.version ∧ ∀ rest,
        Request.names a.session.version (message :: rest) =
          name :: Request.names a.session.version rest) ∨
    (∀ b, receiveMessage message a ≠ .ok .proceed b) ∧ ∀ rest,
      (after (receiveMessage message a)).Notes
        (read ++ Request.names a.session.version (message :: rest)) := by
  unfold receiveMessage
  simp only [get_bind, modifySession_bind, Session.recordRequest, Request.names_cons]
  cases Request.decode a.session.version message with
  | error why =>
    cases why with
    | unknownSignature signature =>
      exact .inl ⟨_, _, rfl, counted_notes before (.unknown signature), rfl, fun _ => rfl⟩
    | invalid kind fault =>
      have counted := counted_notes before (.invalid (.fresh kind .summary a.now) fault)
      exact .inl ⟨_, _, rfl, counted, rfl, fun _ => rfl⟩
    | fatal e =>
      refine .inr ⟨by rintro b ⟨⟩, fun rest => ?_⟩
      rw [List.append_nil]
      exact before
  | ok given =>
    obtain ⟨request, reply⟩ := given
    have counted := counted_notes before (.request request (.fresh request.kind reply a.now))
    by_cases leaves : request.kind = .goodbye
    · simp only [if_pos leaves]
      exact .inr ⟨by rintro b ⟨⟩, fun _ => counted⟩
    simp only [if_neg leaves]
    by_cases resets : request.kind = .reset
    · obtain ⟨c, done, kept, version⟩ := interrupt_notes counted
      refine .inl ⟨c.enqueued (.request request (.fresh request.kind reply a.now)),
        request.kind.name, ?_, kept, version, fun _ => rfl⟩
      simp only [if_pos resets]
      exact bind_of_ok done
    · simp only [if_neg resets]
      exact .inl ⟨_, _, rfl, counted, rfl, fun _ => rfl⟩

theorem receiveMessages_notes (messages : List (List UInt8)) (before : a.Notes read) :
    (after (receiveMessages messages a)).Notes
      (read ++ Request.names a.session.version messages) := by
  induction messages generalizing a read with
  | nil =>
    rw [Request.names, List.append_nil]
    exact before
  | cons message rest ih =>
    unfold receiveMessages
    obtain ⟨b, name, taken, counted, version, names⟩ | ⟨last, counted⟩ :=
      receiveMessage_notes message before
    · have further := ih counted
      rw [bind_of_ok taken, names]
      rwa [version, List.append_assoc] at further
    -- Nothing behind a goodbye is read, nor behind what is refused.
    · have stopped := counted rest
      show (after (EStateM.bind (receiveMessage message) _ a)).Notes _
      unfold EStateM.bind
      cases came : receiveMessage message a with
      | error e b =>
        rw [came] at stopped
        exact stopped
      | ok flow b =>
        cases flow with
        | proceed => exact absurd came (last b)
        | close =>
          rw [came] at stopped
          exact stopped

/-- Refused bytes are refused after the messages in front of them have been counted. -/
theorem receive_notes {bytes : List UInt8} (before : a.Notes read) :
    (after (receive bytes a)).Notes
      (read ++ Request.names a.session.version (a.completed bytes)) := by
  have taken := receiveMessages_notes (a := a.fed bytes) (a.completed bytes) before
  unfold receive
  simp only [get_bind, modifySession_bind, modify_bind]
  show (after (EStateM.bind (receiveMessages (a.completed bytes)) _ (a.fed bytes))).Notes _
  unfold EStateM.bind
  cases came : receiveMessages (a.completed bytes) (a.fed bytes) with
  | error e b =>
    rw [came] at taken
    exact taken
  | ok flow b =>
    rw [came] at taken
    cases flow with
    | close => exact taken
    | proceed =>
      cases refused : (a.dechunker.extend bytes).drain.2.1 with
      | some e => exact taken
      | none => exact taken

end Act

/-! ## What waits -/

def Connection.waiting (c : Connection π) : List String :=
  c.inbox.map Inbound.name ++ c.pulling.toList.map (·.handler.kind.name)

def Connection.cleaning (c : Connection π) : List String :=
  c.cleanup.toList.map (·.handler.kind.name)

namespace Actor

variable {ctx : Context σ π} {a b : Actor σ π} {read : List String}

/-- Whether the requests that are counted and not timed are those that wait. -/
def Owes (a : Actor σ π) : Prop := a.metrics.Owes (a.waiting ++ a.cleaning)

theorem answered_owes {h : Handler} {r : Response} {names : List String}
    (answered : a.Answered h r b) (unanswered : h.done = false) (loud : h.reply ≠ .silent)
    (owes : a.metrics.Owes (h.kind.name :: names)) : b.metrics.Owes names := by
  cases answered with
  | dropped excused => exact absurd excused (not_excused unanswered loud)
  | sent => exact Metrics.owes_answered owes r a.now

/-! ### Reading -/

theorem enqueued_owes {m : Inbound} (owes : a.metrics.Owes (a.waiting ++ a.cleaning ++ [m.name])) :
    (a.enqueued m).Owes := by
  apply Metrics.owes_perm owes
  unfold enqueued Connection.waiting Connection.cleaning
  generalize a.pulling.toList.map (·.handler.kind.name) = pulled
  generalize a.cleanup.toList.map (·.handler.kind.name) = cleaned
  have turned : (pulled ++ cleaned ++ [m.name]).Perm ([m.name] ++ (pulled ++ cleaned)) :=
    List.perm_append_comm
  simpa using turned.append_left (a.inbox.map Inbound.name)

/-- A reset that is read takes the place of the pull that it cuts short. -/
theorem interrupted_owes {name : String} (sound : a.IsSound)
    (owes : a.metrics.Owes (a.waiting ++ a.cleaning ++ [name])) (interrupted : a.Interrupted b) :
    b.metrics.Owes (b.waiting ++ b.cleaning ++ [name]) := by
  cases interrupted with
  | calm => exact owes
  | @cut p _ hp answered =>
    have pulls := sound.pulls p hp
    -- The name of the pull comes first, because its answer is the one that is timed.
    have first : (a.waiting ++ a.cleaning ++ [name]).Perm
        (p.handler.kind.name :: (a.inbox.map Inbound.name ++ a.cleaning ++ [name])) := by
      unfold Connection.waiting
      rw [hp]
      simp
    have cut := answered_owes answered pulls.unanswered (pulls_loud pulls)
      (Metrics.owes_perm owes first)
    obtain ⟨outbox, metrics, rfl⟩ := answered_parts answered
    show metrics.Owes (a.inbox.map Inbound.name ++ [] ++ a.cleaning ++ [name])
    rwa [List.append_nil]

theorem admitted_owes {message : List UInt8} (sound : a.IsSound) (owes : a.Owes)
    (admitted : a.Admitted message b) : b.Owes := by
  cases admitted with
  | @plain m => exact enqueued_owes (Metrics.owes_request owes m.name)
  | @reset m c _ _ interrupted =>
    have rest : (a.counted m).IsSound :=
      ⟨sound.genuine, sound.counted, sound.pulls, sound.cleans, sound.fits⟩
    exact enqueued_owes (interrupted_owes rest (Metrics.owes_request owes m.name) interrupted)

theorem received_owes {messages : List (List UInt8)} (received : a.Received messages b)
    (sound : a.IsSound) (clean : a.cleanup = none) (owes : a.Owes) : b.Owes := by
  induction received with
  | nothing => exact owes
  | message admitted _ ih =>
    have counted := admitted_owes sound owes admitted
    obtain ⟨sound, clean⟩ := admitted_sound sound clean admitted
    exact ih sound clean counted

/-! ### Turns -/

/-- The answer to a message that has left the inbox, where nothing else is being answered. -/
theorem turn_owes {h : Handler} {r : Response} (answered : a.Answered h r b)
    (unanswered : h.done = false) (loud : h.reply ≠ .silent) (idle : a.pulling = none)
    (clean : a.cleanup = none) (owes : a.metrics.Owes (h.kind.name :: a.inbox.map Inbound.name)) :
    b.Owes := by
  have timed := answered_owes answered unanswered loud owes
  obtain ⟨outbox, metrics, rfl⟩ := answered_parts answered
  simpa [Owes, Connection.waiting, Connection.cleaning, idle, clean] using timed

theorem performed_owes {request : Request} {h : Handler} {action : Action} {next : ConnectionState}
    (untouched : h.Untouched) (idle : a.pulling = none) (clean : a.cleanup = none)
    (owes : a.metrics.Owes (h.kind.name :: a.inbox.map Inbound.name))
    (performed : a.Performed ctx h next action request b) : b.Owes := by
  have loud := untouched_loud untouched
  cases performed with
  | pulled =>
    have moved := Metrics.owes_perm owes (List.perm_append_singleton _ _).symm
    simpa [Owes, Connection.waiting, Connection.cleaning, clean] using moved
  | opened _ answered | ran _ answered | runFailed _ answered | nothingHeld _ _ answered
  | begun _ answered | beginFailed _ answered | noTx _ _ answered | committed _ _ answered
  | commitFailed _ _ answered | rolledBack _ _ answered | rollbackFailed _ _ answered =>
    exact turn_owes answered untouched.unanswered loud idle clean owes

theorem dealt_owes {m : Inbound} (genuine : m.Genuine) (idle : a.pulling = none)
    (clean : a.cleanup = none) (owes : a.metrics.Owes (m.name :: a.inbox.map Inbound.name))
    (dealt : a.Dealt ctx m b) : b.Owes := by
  cases m with
  | unknown signature =>
    cases dealt with
    | unknown =>
      have rest : (a.metrics.countIgnored Act.unknownName).Owes (a.inbox.map Inbound.name) :=
        Metrics.owes_unknown owes
      simpa [Owes, Connection.waiting, Connection.cleaning, idle, clean] using rest
  | invalid h fault =>
    have loud : h.reply ≠ .silent := by rw [genuine.2]; decide
    cases dealt with
    | invalidPassed _ answered => exact turn_owes answered genuine.1 loud idle clean owes
    | invalidRefused _ _ _ _ answered => exact turn_owes answered genuine.1 loud idle clean owes
  | request request h =>
    obtain ⟨kind, untouched⟩ := genuine
    have loud := untouched_loud untouched
    have owes : a.metrics.Owes (h.kind.name :: a.inbox.map Inbound.name) := kind ▸ owes
    cases dealt with
    | passed _ _ answered | ignored _ _ answered | resetPassed _ _ answered
    | resetDone _ _ _ answered =>
      exact turn_owes answered untouched.unanswered loud idle clean owes
    | performed _ _ performed => exact performed_owes untouched idle clean owes performed
    -- The reset has left the inbox and is owed by its cleanup.
    | resetWaits =>
      have moved := Metrics.owes_perm owes (List.perm_append_singleton _ _).symm
      show a.metrics.Owes (a.waiting ++ [h.kind.name])
      simpa [Connection.waiting, idle] using moved

/-! ### Results -/

theorem handled_owes {p : Pulling} {event : Option StreamEvent} {goesOn : Bool}
    (sound : a.IsSound) (hp : a.pulling = some p) (owes : a.Owes)
    (handled : a.Handled p event goesOn b) : b.Owes := by
  have pulls := sound.pulls p hp
  have loud := pulls_loud pulls
  have clean := (pulling_calm sound hp).2
  have names : (a.waiting ++ a.cleaning).Perm
      (p.handler.kind.name :: a.inbox.map Inbound.name) := by
    unfold Connection.waiting Connection.cleaning
    rw [hp, clean]
    simp
  have first := Metrics.owes_perm owes names
  cases handled with
  -- A record answers nothing yet: the pull goes on and is still owed.
  | record recorded =>
    obtain rfl := record_handler pulls.unanswered recorded
    have moved := Metrics.owes_perm first (List.perm_append_singleton _ _).symm
    simpa [Owes, Connection.waiting, Connection.cleaning, clean, Handler.further] using moved
  | unsendable recorded answered =>
    obtain rfl := record_handler pulls.unanswered recorded
    exact turn_owes answered pulls.unanswered loud rfl clean first
  | done answered | failed answered | closed answered =>
    exact turn_owes answered pulls.unanswered loud rfl clean first

theorem pumped_owes {p : Pulling} (sound : a.IsSound) (hp : a.pulling = some p) (owes : a.Owes)
    (pumped : a.Pumped p b) : b.Owes := by
  cases pumped with
  | first _ held _ handled | further _ held _ handled =>
    have rest := handled_owes (took_sound sound held) hp owes handled
    exact rest
  | lost => exact owes
  | dry => exact owes
  | ended _ _ handled =>
    have rest := handled_owes sound hp owes handled
    exact rest

theorem cleaned_owes {c : Cleanup π} (sound : a.IsSound) (waits : a.cleanup = some c)
    (owes : a.Owes)
    (answered : (a.dismissed.cleared ctx).Answered c.handler (.success .empty) b) : b.Owes := by
  have untouched := (sound.cleans c waits).1
  have idle := (waiting_fits sound waits).2.1
  have names : (a.waiting ++ a.cleaning).Perm
      (c.handler.kind.name :: a.inbox.map Inbound.name) := by
    unfold Connection.waiting Connection.cleaning
    rw [waits, idle]
    simp
  exact turn_owes answered untouched.unanswered (untouched_loud untouched) idle rfl
    (Metrics.owes_perm owes names)

theorem occurred_owes {o : Occurrence} (sound : a.IsSound) (owes : a.Owes)
    (occurred : a.Occurred ctx o b) : b.Owes := by
  cases occurred with
  | @received bytes _ can received =>
    exact received_owes received (fed_sound sound) (canRead_free can).1 owes
  | @turn m rest _ can full dealt =>
    obtain ⟨clean, idle⟩ := hasTurn_free can
    have genuine := sound.genuine m (by rw [full]; exact List.mem_cons_self)
    have first : a.metrics.Owes (m.name :: rest.map Inbound.name) := by
      simpa [Owes, Connection.waiting, Connection.cleaning, idle, clean, full] using owes
    exact dealt_owes (a := { a with inbox := rest }) genuine idle clean first dealt
  | produced => exact owes
  | pumped _ hp pumped => exact pumped_owes sound hp owes pumped
  | cleaned waits answered => exact cleaned_owes sound waits owes answered

/-! ## Runs -/

def decoded (a : Actor σ π) : Move σ → List String
  | .here (.received bytes) => Request.names a.session.version (a.completed bytes)
  | _ => []

/-- Whether a move at another connection leaves alone what is counted for messages. -/
def Spares (a : Actor σ π) : Move σ → Prop
  | .here _ => True
  | .elsewhere _ metrics _ => metrics.Agrees a.metrics

/-- Whether nobody else uses the metrics in a run. -/
def Alone (ctx : Context σ π) (a : Actor σ π) : List (Move σ) → Prop
  | [] => True
  | move :: moves => a.Spares move ∧ ∀ b, a.move? ctx move = some b → b.Alone ctx moves

theorem step_notes (o : Occurrence) (before : a.Notes read) :
    (a.step ctx o).2.Notes (read ++ a.decoded (.here o : Move σ)) := by
  apply step_upholds
  cases o with
  | received bytes => exact Act.receive_notes before
  | turn | produced | pumped | cleaned | endOfInput | idled | untimed | cleanupExpired | shutDown
  | broken | unheard =>
    simp only [decoded, List.append_nil]
    exact occur_upholds (notes_upheld read) (by simp) a before

theorem move_notes {move : Move σ} (spares : a.Spares move) (before : a.Notes read)
    (moved : a.move? ctx move = some b) : b.Notes (read ++ a.decoded move) := by
  cases move with
  | here o =>
    have stepped : (a.step ctx o).2.Notes _ := step_notes o before
    rwa [(moved_step moved).2] at stepped
  | elsewhere engine metrics now =>
    cases moved
    show metrics.Notes (read ++ []) a.outbox.accepted
    rw [List.append_nil]
    exact Metrics.notes_agrees spares before

theorem move_owes {move : Move σ} (sound : a.IsSound) (spares : a.Spares move) (owes : a.Owes)
    (moved : a.move? ctx move = some b) : b.Owes := by
  obtain ⟨o, c, -, occurred, rfl⟩ | ⟨engine, metrics, now, rfl, rfl⟩ := move_outcome moved
  · have kept : c.Owes := occurred_owes sound owes occurred
    exact kept
  · exact Metrics.owes_agrees spares owes

theorem run_notes {moves : List (Move σ)} (reachable : Reachable ctx a) (alone : a.Alone ctx moves)
    (before : a.Notes read) (owes : a.Owes) (run : a.run? ctx moves = some b) :
    b.Notes (read ++ gather ctx decoded a moves) ∧ b.Owes := by
  induction moves generalizing a read with
  | nil =>
    cases run
    rw [gather, List.append_nil]
    exact ⟨before, owes⟩
  | cons move moves ih =>
    obtain ⟨c, moved, further⟩ := Option.bind_eq_some_iff.mp run
    obtain ⟨spares, alone⟩ := alone
    rw [gather_cons decoded moved, ← List.append_assoc]
    exact ih (reachable.move moved) (alone c moved) (move_notes spares before moved)
      (move_owes (reachable_sound reachable) spares owes moved) further

theorem alone_here {moves : List (Move σ)} (here : ∀ move ∈ moves, ∃ o, move = .here o) :
    a.Alone ctx moves := by
  induction moves generalizing a with
  | nil => trivial
  | cons move moves ih =>
    obtain ⟨⟨o, rfl⟩, rest⟩ := List.forall_mem_cons.mp here
    exact ⟨trivial, fun b _ => ih rest⟩

/-- If nobody else uses the metrics, and the registry can be relied on for all that was counted,
then after every run, and after the step that comes next and may end the connection, requests are
shown by the name of every message that was read, failures by the code of every failure that was
queued, and as many messages as ignored as responses that say so were queued. While the connection
is open, the requests of every kind that have not been timed are those in the inbox, the one whose
result is being pulled, and the reset that is in the middle of its turn. -/
theorem run_tallied {R : Registry} {allowed : Set String} {limit : Nat}
    (counts : R.Counts allowed limit) {pipeline : Pipeline} {id : String} {engine : σ}
    {metrics : Metrics} {now : Instant} {moves : List (Move σ)} (new : metrics.Agrees .fresh)
    (alone : (fresh pipeline id engine metrics now).Alone ctx moves)
    (run : (fresh pipeline id engine metrics now).run? ctx moves = some a) :
    let read := gather ctx decoded (fresh (π := π) pipeline id engine metrics now) moves
    (a.metrics.Within allowed limit →
      R.Tells a.metrics read a.outbox.accepted ∧
        ∀ k : RequestKind, R.requested a.metrics k.name =
          R.timed a.metrics k.name + a.waiting.count k.name + a.cleaning.count k.name) ∧
      ∀ o, (a.step ctx o).2.metrics.Within allowed limit →
        R.Tells (a.step ctx o).2.metrics (read ++ a.decoded (.here o : Move σ))
          (a.step ctx o).2.outbox.accepted := by
  have noted : (fresh (π := π) pipeline id engine metrics now).Notes [] :=
    Metrics.notes_agrees new Metrics.notes_fresh
  have owes : (fresh (π := π) pipeline id engine metrics now).Owes :=
    Metrics.owes_agrees new Metrics.owes_fresh
  obtain ⟨noted, owes⟩ := run_notes .fresh alone noted owes run
  refine ⟨?_, ?_⟩
  · intro within
    refine ⟨R.shows_notes counts within noted, ?_⟩
    intro k
    rw [R.shows_owed counts within owes k, List.count_append, Nat.add_assoc]
  · intro o within
    exact R.shows_notes counts within (step_notes o noted)

def sampleNames : Set String := {label | label ∈ ["INIT", "RUN", "PULL_ALL"]}

theorem sample_apart : Set.InjOn Metrics.labelHash sampleNames := by
  have distinct : (["INIT", "RUN", "PULL_ALL"].map Metrics.labelHash).Nodup := by decide +kernel
  intro label among other among' same
  exact List.inj_on_of_nodup_map distinct among among' same

theorem sample_within : sampleTold.Within sampleNames Metrics.largestCount where
  uses family := by
    have used : ∀ label ∈ sampleTold.labels family, label ∈ ["INIT", "RUN", "PULL_ALL"] := by
      cases family <;> decide
    exact used
  few family label := by
    have short : (sampleTold.labels family).length ≤ 3 := by cases family <;> decide
    exact (List.count_le_length.trans short).trans (by decide)

/-- The pull that is under way has been counted and not timed. -/
theorem sample_tallied : ∃ a : Actor Script.Stage Script.Run,
    (sample []).run? sampleContext sampleMoves = some a ∧
      (Readings.registry.shown a.metrics .requests).values.sum =
        (gather sampleContext decoded (sample []) sampleMoves).length ∧
      Readings.registry.requested a.metrics RequestKind.pullAll.name =
        Readings.registry.timed a.metrics RequestKind.pullAll.name + 1 := by
  obtain ⟨outbox, -, run⟩ := sample_run []
  have alone : (sample []).Alone sampleContext sampleMoves := by
    apply alone_here
    simp [sampleMoves, sampleOpening]
  obtain ⟨told, -⟩ := run_tallied (Readings.registry_counts sample_apart) (fun _ => rfl) alone run
  obtain ⟨told, waits⟩ := told sample_within
  exact ⟨_, run, told.requests.total, waits .pullAll⟩

end Actor

end GraphProtocol
