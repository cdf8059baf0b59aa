import GraphProtocol.Proofs.Connection.Inbox
import GraphProtocol.Proofs.Query.Ranges
import GraphProtocol.Query.Literal.Engine

/-!
# The events of a query

A producer is asked for events one at a time, and each time the moment and whether its query has
been cancelled are its own. What a literal query gives when nothing disturbs it is fixed from the
start; to cancel it or to stop asking only cuts this short, and a missed deadline puts one failure
in the place of what was still to come.
-/

set_option autoImplicit false

namespace GraphProtocol

/-! ## Asking a producer -/

/-- A moment at which a producer is asked for an event, and whether its query is cancelled then. -/
structure Ask where
  now : Instant
  cancelled : Bool

section

variable {σ π : Type} {engine : QueryEngine σ π} {p : π}

def QueryEngine.emit (engine : QueryEngine σ π) : List Ask → π → List StreamEvent × Option π
  | [], p => ([], some p)
  | ask :: asks, p =>
    match engine.produce ask.now ask.cancelled p with
    | .event event rest => ((event :: (engine.emit asks rest).1), (engine.emit asks rest).2)
    | .finished => ([], none)
    | .waiting => engine.emit asks p

/-- A producer that has nothing now has nothing however often it is asked. -/
theorem emit_waiting {ask : Ask} (count : Nat)
    (waits : engine.produce ask.now ask.cancelled p = .waiting) :
    engine.emit (List.replicate count ask) p = ([], some p) := by
  induction count with
  | zero => rfl
  | succ count ih => rw [List.replicate_succ, QueryEngine.emit, waits, ih]

theorem produceOnto_emit (engine : QueryEngine σ π) (p : π) (ask : Ask) (room : Nat)
    (given : List StreamEvent) :
    ResultStream.produceOnto engine ask.now ask.cancelled room p given =
      ((engine.emit (List.replicate room ask) p).1.reverse ++ given,
        (engine.emit (List.replicate room ask) p).2) := by
  induction room generalizing p given with
  | zero => rfl
  | succ room ih =>
    rw [List.replicate_succ, QueryEngine.emit, ResultStream.produceOnto]
    cases asked : engine.produce ask.now ask.cancelled p with
    | event event rest => simp [ih]
    | finished => rfl
    | waiting => simp [emit_waiting room asked]

/-- What comes to wait on a stream has been given to asks. -/
theorem fill_emit {r : ResultStream π} (held : r.producer = some p) (now : Instant)
    (signal : CancelSignal) (count : Nat) : ∃ asks,
    (r.fill engine now signal count).ready = r.ready ++ (engine.emit asks p).1 ∧
      (r.fill engine now signal count).producer = (engine.emit asks p).2 := by
  refine ⟨List.replicate (min count (engine.capacity - r.ready.length))
    ⟨now, signal.isCancelled r.token⟩, ?_⟩
  have produced := produceOnto_emit engine p ⟨now, signal.isCancelled r.token⟩
    (min count (engine.capacity - r.ready.length)) []
  simp [ResultStream.fill, held, produced]

end

namespace Literal

/-! ## Rows and the values bound in them -/

inductive Rows.Gives : Rows → List (Option Value) → Prop
  | ended {rows : Rows} : rows.next? = none → rows.Gives []
  | further {rows rest : Rows} {row : Option Value} {bindings : List (Option Value)} :
      rows.next? = some (row, rest) → rest.Gives bindings → rows.Gives (row :: bindings)

theorem values_give (values : List Value) : (Rows.values values).Gives (values.map some) := by
  induction values with
  | nil => exact .ended rfl
  | cons v rest ih => exact .further rfl ih

theorem range_gives {c : Range.Cursor} {elements : List Int64} (gives : c.Gives elements) :
    (Rows.range c).Gives (elements.map fun n => some (.integer n)) := by
  induction gives with
  | stopped stops => exact .ended (by simp [Rows.next?, stops])
  | further next _ ih => exact .further (by simp [Rows.next?, next]) ih

theorem once_gives : Rows.once.Gives [none] := .further rfl (values_give [])

namespace Plan

/-- The values that the rows of a plan bind: the elements of what it unwinds, if it unwinds
anything. -/
def bindings (p : Plan) (parameters : Dict Value) : Except QueryFault (List (Option Value)) :=
  match p.unwind with
  | none => .ok [none]
  | some (.range arguments, _) => do
    let r ← Range.ofArguments (← evalIntegers ⟨parameters, none⟩ arguments)
    return r.toList.map fun n => some (.integer n)
  | some (e, _) => do
    match ← e.eval ⟨parameters, none⟩ with
    | .null => return []
    | .list items => return items.map some
    | other => return [some other]

/-- The records of these rows up to the first that fails, and then the failure or the summary. -/
def eventsOf (p : Plan) (parameters summary : Dict Value) : List (Option Value) → List StreamEvent
  | [] => [.done summary]
  | row :: rest =>
    match p.record parameters row with
    | .ok fields => .record fields :: p.eventsOf parameters summary rest
    | .error fault => [.failed fault.failure]

def events (p : Plan) (parameters summary : Dict Value) : List StreamEvent :=
  match p.bindings parameters with
  | .ok rows => p.eventsOf parameters summary rows
  | .error fault => [.failed fault.failure]

variable {p : Plan} {parameters summary : Dict Value}

/-- The rows of a plan bind what the plan says, and cannot be found if the plan has no bindings. -/
theorem rows_give (p : Plan) (parameters : Dict Value) : match p.rows parameters with
    | .ok rows => ∃ bound, p.bindings parameters = .ok bound ∧ rows.Gives bound
    | .error fault => p.bindings parameters = .error fault := by
  obtain ⟨unwind, items⟩ := p
  rcases unwind with _ | ⟨e, name⟩
  · exact ⟨_, rfl, once_gives⟩
  cases e with
  | range arguments =>
    dsimp only [rows, bindings, bind, Except.bind, pure, Except.pure]
    cases evalIntegers ⟨parameters, none⟩ arguments with
    | error fault => rfl
    | ok bounds =>
      dsimp only
      cases Range.ofArguments bounds with
      | error fault => rfl
      | ok r => exact ⟨_, rfl, range_gives r.cursor_gives⟩
  | _ =>
    dsimp only [rows, bindings, bind, Except.bind, pure, Except.pure]
    generalize Expr.eval _ _ = unwound
    cases unwound with
    | error fault => rfl
    | ok v =>
      cases v with
      | null => exact ⟨_, rfl, values_give []⟩
      | list items => exact ⟨_, rfl, values_give items⟩
      | _ => exact ⟨_, rfl, values_give [_]⟩

/-- What a plan gives is records and one event that ends them. -/
theorem eventsOf_ends (bound : List (Option Value)) :
    ∃ (records : List (List Value)) (ending : StreamEvent),
      p.eventsOf parameters summary bound = records.map .record ++ [ending] ∧
        ending.isTerminal = true := by
  induction bound with
  | nil => exact ⟨[], .done summary, rfl, rfl⟩
  | cons row rest ih =>
    unfold eventsOf
    cases p.record parameters row with
    | error fault => exact ⟨[], .failed fault.failure, rfl, rfl⟩
    | ok fields =>
      obtain ⟨records, ending, same, terminal⟩ := ih
      exact ⟨fields :: records, ending, by simp [same], terminal⟩

theorem events_end (p : Plan) (parameters summary : Dict Value) :
    ∃ (records : List (List Value)) (ending : StreamEvent),
      p.events parameters summary = records.map .record ++ [ending] ∧
        ending.isTerminal = true := by
  unfold events
  split
  · exact eventsOf_ends _
  next fault _ => exact ⟨[], .failed fault.failure, rfl, rfl⟩

end Plan

/-! ## Productions -/

namespace Production

/-- Whether a production that nothing disturbs goes on to give these events. -/
inductive Owes (p : Production) : List StreamEvent → Prop
  | nothing : p.phase = .ended → p.Owes []
  | rows {rows : Rows} {bound : List (Option Value)} : p.phase = .rows rows → rows.Gives bound →
      p.Owes (p.plan.eventsOf p.parameters p.summary bound)
  | whole : p.phase = .unstarted → p.Owes (p.plan.events p.parameters p.summary)

inductive Asked (p : Production) (now : Instant) (cancelled : Bool) :
    List StreamEvent → Emission Production → Prop
  | finished : p.Asked now cancelled [] .finished
  | cut {events : List StreamEvent} : cancelled = true → p.Asked now cancelled events .finished
  | given {event : StreamEvent} {events : List StreamEvent} {rest : Production} :
      rest.Owes events → rest.deadline = p.deadline →
      p.Asked now cancelled (event :: events) (.event event rest)
  | late {event : StreamEvent} {events : List StreamEvent} {rest : Production} :
      p.isLate now = true → rest.phase = .ended →
      p.Asked now cancelled (event :: events) (.event (.failed QueryFault.timedOut.failure) rest)

variable {p : Production} {now : Instant} {cancelled : Bool}

theorem fromRows_asked {rows : Rows} {bound : List (Option Value)} (gives : rows.Gives bound) :
    p.Asked now cancelled (p.plan.eventsOf p.parameters p.summary bound)
      (p.fromRows rows now cancelled) := by
  unfold fromRows
  cases gives with
  | ended stops =>
    rw [stops]
    dsimp only
    split
    next stopped => exact .cut stopped
    · exact .given (.nothing rfl) rfl
  | @further _ rest row bound next gives =>
    rw [next]
    dsimp only [Plan.eventsOf]
    by_cases late : p.isLate now = true
    · rw [if_pos late]
      cases p.plan.record p.parameters row <;> exact .late late rfl
    rw [if_neg late]
    by_cases stopped : cancelled = true
    · rw [if_pos stopped]
      exact .cut stopped
    · rw [if_neg stopped]
      cases p.plan.record p.parameters row with
      | ok fields => exact .given (.rows rfl gives) rfl
      | error fault => exact .given (.nothing rfl) rfl

theorem next_asked (now : Instant) (cancelled : Bool) {events : List StreamEvent}
    (owes : p.Owes events) : p.Asked now cancelled events (p.next now cancelled) := by
  unfold next
  cases owes with
  | nothing ended =>
    rw [ended]
    exact .finished
  | rows underway gives =>
    rw [underway]
    exact fromRows_asked gives
  | whole unstarted =>
    rw [unstarted]
    have found := p.plan.rows_give p.parameters
    unfold Plan.events
    dsimp only
    cases rows : p.plan.rows p.parameters with
    | ok rows =>
      rw [rows] at found
      obtain ⟨bound, same, gives⟩ := found
      rw [same]
      exact fromRows_asked gives
    | error fault =>
      rw [rows] at found
      rw [show _ = _ from found]
      exact .given (.nothing rfl) rfl

theorem late_eq {rest : Production} (same : rest.deadline = p.deadline) :
    rest.isLate now = p.isLate now := by
  rw [isLate, isLate, same]

/-- A production that is neither cancelled nor late gives what it owes, in order. -/
theorem emit_undisturbed {events : List StreamEvent} (owes : p.Owes events) {asks : List Ask}
    (calm : ∀ ask ∈ asks, ask.cancelled = false ∧ p.isLate ask.now = false) :
    (engine.emit asks p).1 = events.take asks.length := by
  induction asks generalizing p events with
  | nil => rfl
  | cons ask asks ih =>
    obtain ⟨⟨kept, timely⟩, calm⟩ := List.forall_mem_cons.mp calm
    have asked := next_asked ask.now ask.cancelled owes
    have produced : engine.produce ask.now ask.cancelled p = p.next ask.now ask.cancelled := rfl
    rw [QueryEngine.emit, produced]
    generalize p.next ask.now ask.cancelled = emission at asked
    cases asked with
    | finished => rfl
    | cut stopped => simp [kept] at stopped
    | given owed same =>
      simp [ih owed fun ask among => by rw [late_eq same]; exact calm ask among]
    | late late => simp [timely] at late

/-- However a production is asked, it gives a part of what it owes from the beginning on, and only
a missed deadline can put a failure behind it. -/
theorem emit_disturbed {events : List StreamEvent} (owes : p.Owes events) (asks : List Ask) :
    (engine.emit asks p).1 <+: events ∨
      (∃ ask ∈ asks, p.isLate ask.now = true) ∧ ∃ before event, before ++ [event] <+: events ∧
        (engine.emit asks p).1 = before ++ [.failed QueryFault.timedOut.failure] := by
  induction asks generalizing p events with
  | nil => exact .inl List.nil_prefix
  | cons ask asks ih =>
    have asked := next_asked ask.now ask.cancelled owes
    have produced : engine.produce ask.now ask.cancelled p = p.next ask.now ask.cancelled := rfl
    rw [QueryEngine.emit, produced]
    generalize p.next ask.now ask.cancelled = emission at asked
    cases asked with
    | finished => exact .inl List.nil_prefix
    | cut => exact .inl List.nil_prefix
    | @given event events rest owed same =>
      rcases ih owed with within | ⟨⟨later, among, late⟩, before, last, within, same'⟩
      · exact .inl (List.cons_prefix_cons.mpr ⟨rfl, within⟩)
      · refine .inr ⟨⟨later, List.mem_cons_of_mem _ among, late_eq same ▸ late⟩, event :: before,
          last, List.cons_prefix_cons.mpr ⟨rfl, within⟩, by simp [same']⟩
    | @late event events rest late ended =>
      have nothing : (engine.emit asks rest).1 = [] := by
        rcases ih (.nothing ended) with within | ⟨-, before, last, within, -⟩
        · exact List.prefix_nil.mp within
        · simp at within
      exact .inr ⟨⟨ask, List.mem_cons_self, late⟩, [], event,
        List.cons_prefix_cons.mpr ⟨rfl, List.nil_prefix⟩, by simp [nothing]⟩

/-- Whether a production gives what it has to, however it is asked. -/
structure Follows (p : Production) (late : Instant → Prop) (events : List StreamEvent) : Prop where
  /-- If nothing disturbs it, all of the events come, one for each time it is asked. -/
  undisturbed : ∀ asks : List Ask, (∀ ask ∈ asks, ask.cancelled = false ∧ ¬ late ask.now) →
    (engine.emit asks p).1 = events.take asks.length
  /-- If it is cancelled or no longer asked, it leaves off somewhere. -/
  timely : ∀ asks : List Ask, (∀ ask ∈ asks, ¬ late ask.now) → (engine.emit asks p).1 <+: events
  /-- If it becomes late, a failure may stand where it leaves off. -/
  belated : ∀ asks : List Ask, (engine.emit asks p).1 <+: events ∨
    ∃ before event, before ++ [event] <+: events ∧
      (engine.emit asks p).1 = before ++ [.failed QueryFault.timedOut.failure]
  /-- What ends it comes last. -/
  final : ∀ (asks : List Ask) (before : List StreamEvent) (event : StreamEvent)
    (after : List StreamEvent), (engine.emit asks p).1 = before ++ event :: after →
    event.isTerminal = true → after = []

/-- Behind a beginning that holds an event which ends it there is nothing. -/
theorem terminal_last {records : List (List Value)} {ending event : StreamEvent}
    {before after : List StreamEvent} (terminal : event.isTerminal = true)
    (within : before ++ event :: after <+: records.map .record ++ [ending]) : after = [] := by
  induction records generalizing before with
  | nil =>
    cases before with
    | nil =>
      obtain ⟨-, within⟩ := List.cons_prefix_cons.mp within
      exact List.prefix_nil.mp within
    | cons first before =>
      obtain ⟨-, within⟩ := List.cons_prefix_cons.mp within
      simp at within
  | cons fields records ih =>
    cases before with
    | nil =>
      obtain ⟨rfl, -⟩ := List.cons_prefix_cons.mp within
      cases terminal
    | cons first before => exact ih (List.cons_prefix_cons.mp within).2

theorem Owes.follows {events : List StreamEvent} {late : Instant → Prop} (owes : p.Owes events)
    (lateness : ∀ now, p.isLate now = true ↔ late now) {records : List (List Value)}
    {ending : StreamEvent} (ends : events = records.map .record ++ [ending]) :
    p.Follows late events where
  undisturbed asks calm := by
    refine emit_undisturbed owes fun ask among => ⟨(calm ask among).1, ?_⟩
    rw [← Bool.not_eq_true, lateness]
    exact (calm ask among).2
  timely asks timely := by
    rcases emit_disturbed owes asks with within | ⟨⟨ask, among, late⟩, -⟩
    · exact within
    · exact absurd ((lateness _).mp late) (timely ask among)
  belated asks := (emit_disturbed owes asks).imp_right And.right
  final asks before event after same terminal := by
    rcases emit_disturbed owes asks with within | ⟨-, early, last, within, same'⟩
    · rw [same, ends] at within
      exact terminal_last terminal within
    · rw [same'] at same
      rcases List.eq_nil_or_concat after with none | ⟨rest, final, rfl⟩
      · exact none
      · have parts : early = before ++ event :: rest := by
          have split : early ++ [.failed QueryFault.timedOut.failure] =
            (before ++ event :: rest) ++ [final] := by simpa using same
          exact (List.append_inj' split rfl).1
        rw [parts, ends, List.append_assoc, List.cons_append] at within
        exact absurd (terminal_last terminal within) (by simp)

end Production

/-! ## Executions -/

def summaryOf (bookmark : Option String) : Dict Value :=
  bookmark.elim .empty fun b => Dict.empty.insert bookmarkKey (.string b)

def Outlasts (query : Query) (tx : Option TxId) (started now : Instant) : Prop :=
  tx = none ∧ ∃ limit, query.metadata.timeout = some limit ∧ started + limit.nanos < now

variable {s later : Store} {now : Instant} {query : Query} {tx : Option TxId}
  {columns : List String} {production : Production}

theorem deadline?_some {deadline : Option Instant} (told : query.deadline? now = some deadline) :
    deadline = query.metadata.timeout.map (now + ·.nanos) := by
  unfold Query.deadline? at told
  cases limit : query.metadata.timeout with
  | none =>
    rw [limit] at told
    exact (Option.some.inj told).symm
  | some limit' =>
    rw [limit, Option.mapM_some] at told
    obtain ⟨moment, later, rfl⟩ := Option.map_eq_some_iff.mp told
    rw [(Instant.later?_eq_some.mp later).1]
    rfl

theorem Store.execute_started
    (given : s.execute now query tx = (.ok (columns, production), later)) :
    ∃ plan, Store.plan query = .ok plan ∧ columns = plan.columns ∧ production.plan = plan ∧
      production.parameters = query.parameters ∧ production.phase = .unstarted ∧
      production.bookmark.isSome = tx.isNone ∧
      ∀ moment, production.isLate moment = true ↔ Outlasts query tx now moment := by
  unfold execute at given
  split at given
  · cases given
  split at given
  · cases given
  next plan planned =>
  refine ⟨plan, planned, ?_⟩
  split at given
  · cases given
    exact ⟨rfl, rfl, rfl, rfl, rfl, by simp [Outlasts, Production.isLate]⟩
  · dsimp only at given
    cases told : query.deadline? now with
    | none => rw [told] at given; cases given
    | some deadline =>
      rw [told] at given
      cases given
      refine ⟨rfl, rfl, rfl, rfl, rfl, fun moment => ?_⟩
      rw [deadline?_some told]
      cases limit : query.metadata.timeout <;> simp [Outlasts, Production.isLate, limit]

/-- An accepted query gives the events of its plan: a record for each row up to the first that
fails, and then the failure, or the summary with a bookmark if the query was started by itself. -/
theorem execute_events {cancelled : Bool}
    (given : engine.execute now query tx cancelled s = (.ok (columns, production), later)) :
    ∃ plan bookmark, Plan.parse query.statement = .ok plan ∧
      plan.missingParameters query.parameters = [] ∧ columns = plan.columns ∧
      bookmark.isSome = tx.isNone ∧
      (∃ (records : List (List Value)) (ending : StreamEvent),
        plan.events query.parameters (summaryOf bookmark) = records.map .record ++ [ending] ∧
          ending.isTerminal = true) ∧
      production.Follows (Outlasts query tx now)
        (plan.events query.parameters (summaryOf bookmark)) := by
  obtain ⟨outcome, ran⟩ : ∃ outcome, s.execute now query tx = outcome := ⟨_, rfl⟩
  obtain ⟨answer, later'⟩ := outcome
  change told (Abort.map QueryFault.failure) (s.execute now query tx) = _ at given
  rw [ran] at given
  cases answer with
  | error fault => cases given
  | ok started =>
    cases given
    obtain ⟨plan, planned, same, hasPlan, hasParameters, unstarted, marked, late⟩ :=
      Store.execute_started ran
    obtain ⟨parsed, complete⟩ : Plan.parse query.statement = .ok plan ∧
        plan.missingParameters query.parameters = [] := by
      unfold Store.plan at planned
      obtain ⟨parsedPlan, parsed, planned⟩ := except_bind_ok planned
      split at planned
      next complete =>
        cases planned
        exact ⟨parsed, complete⟩
      · cases planned
    have owes := Production.Owes.whole unstarted
    rw [hasPlan, hasParameters] at owes
    obtain ⟨records, ending, ends, terminal⟩ :=
      plan.events_end query.parameters production.summary
    exact ⟨plan, production.bookmark, parsed, complete, same, marked,
      ⟨records, ending, ends, terminal⟩, owes.follows late ends⟩

def countingQuery : Query :=
  ⟨"UNWIND [1, 2] AS x RETURN x", .empty, { TxMetadata.default with timeout := some ⟨5⟩ }⟩

def countingProduction : Production :=
  ⟨⟨some (.list [.literal (.integer 1), .literal (.integer 2)], "x"), [(.variable "x", "x")]⟩,
    .empty, some 5, some "graphwire:bookmark:v1:tx1", .unstarted⟩

theorem counting_executed : engine.execute 0 countingQuery none false .empty =
    (.ok (["x"], countingProduction), ⟨[], 0, 1⟩) := by
  cbv

/-- The deadline of the sample query passes between its two rows. -/
theorem counting_events :
    engine.execute 0 countingQuery none false .empty =
      (.ok (["x"], countingProduction), ⟨[], 0, 1⟩) ∧
    (engine.emit [⟨3, false⟩, ⟨6, false⟩, ⟨6, false⟩] countingProduction).1 =
      [.record [.integer 1], .failed QueryFault.timedOut.failure] ∧
    ∃ plan bookmark, Plan.parse countingQuery.statement = .ok plan ∧
      countingProduction.Follows (Outlasts countingQuery none 0)
        (plan.events countingQuery.parameters (summaryOf bookmark)) := by
  refine ⟨counting_executed, rfl, ?_⟩
  obtain ⟨plan, bookmark, parsed, -, -, -, -, follows⟩ := execute_events counting_executed
  exact ⟨plan, bookmark, parsed, follows⟩

end Literal

end GraphProtocol
