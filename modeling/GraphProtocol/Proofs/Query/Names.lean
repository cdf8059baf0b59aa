import GraphProtocol.Proofs.Query.Parsing
import GraphProtocol.Proofs.Query.Unwinding

/-!
# Names in queries

A query that is accepted has a value for everything it names, in whatever row. What can still fail
is a range whose arguments do not make one, and the time. A name without a value is found before the
first record, and then there is none.
-/

set_option autoImplicit false

namespace GraphProtocol.Literal

/-- Whether a fault lies in the arguments of a range: in what they are, how many they are, a step of
zero or the number of elements. -/
inductive IsRangeFault : QueryFault → Prop
  | type (found : ValueType) : IsRangeFault (.rangeType found)
  | arity : IsRangeFault .rangeArity
  | step : IsRangeFault .rangeStepZero
  | size (count : Nat) : IsRangeFault (.rangeTooLarge count)

/-! ## Expressions -/

structure Scope.Resolves (scope : Scope) (names parameters : List String) : Prop where
  names : ∀ name ∈ names, ∃ v, scope.binding = some (name, v)
  parameters : ∀ name ∈ parameters, ∃ v, scope.parameters.get? name = some v

section

variable {scope : Scope} {fault : QueryFault}

theorem Scope.Resolves.split {names others parameters further : List String}
    (resolves : scope.Resolves (names ++ others) (parameters ++ further)) :
    scope.Resolves names parameters ∧ scope.Resolves others further := by
  obtain ⟨named, given⟩ := resolves
  rw [List.forall_mem_append] at named given
  exact ⟨⟨named.1, given.1⟩, ⟨named.2, given.2⟩⟩

theorem except_bind_error {ε α β : Type} {x : Except ε α} {f : α → Except ε β} {e : ε}
    (failed : (x >>= f) = .error e) : x = .error e ∨ ∃ u, x = .ok u ∧ f u = .error e := by
  cases x with
  | error first =>
    cases failed
    exact .inl rfl
  | ok u => exact .inr ⟨u, rfl, failed⟩

theorem Range.ofArguments_fault {bounds : List Int64}
    (failed : Range.ofArguments bounds = .error fault) : IsRangeFault fault := by
  unfold Range.ofArguments at failed
  split at failed
  · cases failed
  · split at failed <;> cases failed
    exact .step
  · cases failed
    exact .arity

theorem Range.toValue_fault {r : Range} (failed : r.toValue = .error fault) :
    IsRangeFault fault := by
  unfold Range.toValue at failed
  split at failed <;> cases failed
  exact .size r.count

mutual

/-- An expression whose names have values fails only in a range. -/
theorem Expr.eval_fault : (e : Expr) → scope.Resolves e.names e.parameters →
    e.eval scope = .error fault → IsRangeFault fault
  | .literal _, _, failed => by cases failed
  | .parameter name, resolves, failed => by
    obtain ⟨v, given⟩ := resolves.parameters name List.mem_cons_self
    rw [Expr.eval, given] at failed
    cases failed
  | .variable name, resolves, failed => by
    obtain ⟨v, bound⟩ := resolves.names name List.mem_cons_self
    rw [Expr.eval, bound] at failed
    dsimp only at failed
    rw [if_pos rfl] at failed
    cases failed
  | .list items, resolves, failed => by
    rw [Expr.eval] at failed
    obtain failed | ⟨values, -, made⟩ := except_bind_error failed
    · exact evalAll_fault items resolves failed
    · cases made
  | .range arguments, resolves, failed => by
    rw [Expr.eval] at failed
    obtain failed | ⟨bounds, -, failed⟩ := except_bind_error failed
    · exact evalIntegers_fault arguments resolves failed
    obtain failed | ⟨r, -, failed⟩ := except_bind_error failed
    · exact Range.ofArguments_fault failed
    · exact Range.toValue_fault failed

theorem evalAll_fault : (items : List Expr) → scope.Resolves (namesIn items) (parametersIn items) →
    evalAll scope items = .error fault → IsRangeFault fault
  | [], _, failed => by cases failed
  | e :: rest, resolves, failed => by
    rw [namesIn, parametersIn] at resolves
    rw [evalAll] at failed
    obtain failed | ⟨v, -, failed⟩ := except_bind_error failed
    · exact Expr.eval_fault e resolves.split.1 failed
    obtain failed | ⟨values, -, made⟩ := except_bind_error failed
    · exact evalAll_fault rest resolves.split.2 failed
    · cases made

theorem evalIntegers_fault : (arguments : List Expr) →
    scope.Resolves (namesIn arguments) (parametersIn arguments) →
    evalIntegers scope arguments = .error fault → IsRangeFault fault
  | [], _, failed => by cases failed
  | e :: rest, resolves, failed => by
    rw [namesIn, parametersIn] at resolves
    rw [evalIntegers] at failed
    obtain failed | ⟨v, -, failed⟩ := except_bind_error failed
    · exact Expr.eval_fault e resolves.split.1 failed
    split at failed
    · obtain failed | ⟨values, -, made⟩ := except_bind_error failed
      · exact evalIntegers_fault rest resolves.split.2 failed
      · cases made
    · cases failed
      exact .type _

end

end

/-! ## Parameters -/

theorem contains_eq_isSome {α : Type} (d : Dict α) (key : String) :
    d.contains key = (d.get? key).isSome := by
  rw [Bool.eq_iff_iff, Dict.contains, Dict.get?, Option.isSome_map, List.any_eq_true,
    List.find?_isSome]

theorem mem_parametersIn {name : String} {items : List Expr} :
    name ∈ parametersIn items ↔ ∃ e ∈ items, name ∈ e.parameters := by
  induction items with
  | nil => simp [parametersIn]
  | cons e rest ih => simp [parametersIn, ih]

namespace Plan

variable {p : Plan} {parameters : Dict Value} {fault : QueryFault}

theorem mem_missingParameters {name : String} : name ∈ p.missingParameters parameters ↔
    name ∈ p.parameters ∧ parameters.get? name = none := by
  unfold missingParameters
  rw [List.mem_eraseDups, List.mem_mergeSort, List.mem_filter, contains_eq_isSome]
  simp

def scope (p : Plan) (parameters : Dict Value) (row : Option Value) : Scope where
  parameters
  binding := do return (← p.boundName, ← row)

theorem record_eq (p : Plan) (parameters : Dict Value) (row : Option Value) :
    p.record parameters row = evalAll (p.scope parameters row) (p.items.map (·.1)) := rfl

structure IsReady (p : Plan) (parameters : Dict Value) : Prop where
  closed : p.IsClosed
  given : ∀ name ∈ p.parameters, ∃ v, parameters.get? name = some v

theorem ready_of_parse {statement : String} (parsed : parse statement = .ok p)
    (complete : p.missingParameters parameters = []) : p.IsReady parameters where
  closed := by
    unfold parse at parsed
    obtain ⟨lexemes, -, parsed⟩ := except_bind_ok parsed
    split at parsed
    · cases parsed
    split at parsed <;> cases parsed
    next none => exact stray?_eq_none.mp none
  given name needed := by
    refine Option.ne_none_iff_exists'.mp fun absent => ?_
    have missing := mem_missingParameters.mpr ⟨needed, absent⟩
    rw [complete] at missing
    cases missing

/-- The expression that is unwound has nothing bound, and needs nothing bound. -/
theorem unwind_resolves (ready : p.IsReady parameters) {e : Expr} {name : String}
    (unwound : p.unwind = some (e, name)) :
    Scope.Resolves ⟨parameters, none⟩ e.names e.parameters where
  names := by
    have closed : e.names = [] := ready.closed.unwind _ unwound
    rw [closed]
    exact List.forall_mem_nil _
  parameters needed among := by
    refine ready.given needed ?_
    unfold Plan.parameters
    rw [unwound]
    exact List.mem_append_left _ among

theorem rows_fault (ready : p.IsReady parameters) (failed : p.rows parameters = .error fault) :
    IsRangeFault fault := by
  unfold rows at failed
  dsimp only at failed
  split at failed
  · cases failed
  next arguments name unwound =>
    obtain failed | ⟨bounds, -, failed⟩ := except_bind_error failed
    · exact evalIntegers_fault arguments (unwind_resolves ready unwound) failed
    obtain failed | ⟨r, -, made⟩ := except_bind_error failed
    · exact Range.ofArguments_fault failed
    · cases made
  next e name _ unwound =>
    obtain failed | ⟨v, -, made⟩ := except_bind_error failed
    · exact Expr.eval_fault e (unwind_resolves ready unwound) failed
    · split at made <;> cases made

/-- In every row of a plan that unwinds something a value is bound. -/
theorem bindings_bound {bound : List (Option Value)} {name : String}
    (found : p.bindings parameters = .ok bound) (named : p.boundName = some name)
    {row : Option Value} (among : row ∈ bound) : ∃ v, row = some v := by
  have bare : ∀ {α : Type} {f : α → Value} {values : List α},
      bound = values.map (fun x => some (f x)) → ∃ v, row = some v := by
    rintro α f values rfl
    obtain ⟨x, -, rfl⟩ := List.mem_map.mp among
    exact ⟨_, rfl⟩
  unfold bindings at found
  split at found
  next none =>
    rw [boundName, none] at named
    cases named
  · obtain ⟨bounds, -, found⟩ := except_bind_ok found
    obtain ⟨r, -, found⟩ := except_bind_ok found
    cases found
    exact bare (f := Value.integer) rfl
  · obtain ⟨v, -, found⟩ := except_bind_ok found
    split at found <;> cases found
    · cases among
    · exact bare (f := id) rfl
    · exact ⟨_, List.mem_singleton.mp among⟩

theorem items_resolve (ready : p.IsReady parameters) {bound : List (Option Value)}
    (found : p.bindings parameters = .ok bound) {row : Option Value} (among : row ∈ bound)
    {item : Expr × String} (held : item ∈ p.items) :
    (p.scope parameters row).Resolves item.1.names item.1.parameters where
  names name within := by
    have named := ready.closed.items item held name within
    obtain ⟨v, rfl⟩ := bindings_bound found named among
    refine ⟨v, ?_⟩
    simp [scope, named]
  parameters needed within := by
    refine ready.given needed (List.mem_append_right _ ?_)
    exact mem_parametersIn.mpr ⟨item.1, List.mem_map_of_mem held, within⟩

theorem evalAll_each {scope : Scope} {items : List Expr}
    (failed : evalAll scope items = .error fault) : ∃ e ∈ items, e.eval scope = .error fault := by
  induction items with
  | nil => cases failed
  | cons e rest ih =>
    rw [evalAll] at failed
    obtain failed | ⟨v, -, failed⟩ := except_bind_error failed
    · exact ⟨e, List.mem_cons_self, failed⟩
    obtain failed | ⟨values, -, made⟩ := except_bind_error failed
    · obtain ⟨other, among, failed⟩ := ih failed
      exact ⟨other, List.mem_cons_of_mem _ among, failed⟩
    · cases made

theorem record_fault (ready : p.IsReady parameters) {bound : List (Option Value)}
    (found : p.bindings parameters = .ok bound) {row : Option Value} (among : row ∈ bound)
    (failed : p.record parameters row = .error fault) : IsRangeFault fault := by
  rw [record_eq] at failed
  obtain ⟨e, within, failed⟩ := evalAll_each failed
  obtain ⟨item, held, rfl⟩ := List.mem_map.mp within
  exact Expr.eval_fault item.1 (items_resolve ready found among held) failed

/-- The rows that come up are the bindings of the plan. -/
theorem answers_bound {rows : Rows} {asked : Nat} {row : Option Value}
    (given : p.rows parameters = .ok rows) (came : some row ∈ rows.answers asked) :
    ∃ bound, p.bindings parameters = .ok bound ∧ row ∈ bound := by
  have found := p.rows_give parameters
  rw [given] at found
  obtain ⟨bound, same, gives⟩ := found
  rw [answers_given gives] at came
  obtain ⟨k, -, place⟩ := List.mem_map.mp came
  exact ⟨bound, same, List.mem_of_getElem? place⟩

theorem eventsOf_fault (ready : p.IsReady parameters) {summary : Dict Value}
    {bound rest : List (Option Value)} (found : p.bindings parameters = .ok bound)
    (within : rest ⊆ bound) {f : Failure}
    (given : .failed f ∈ p.eventsOf parameters summary rest) :
    ∃ fault, IsRangeFault fault ∧ f = fault.failure := by
  induction rest with
  | nil => simp [eventsOf] at given
  | cons row rest ih =>
    obtain ⟨first, within⟩ := List.cons_subset.mp within
    rw [eventsOf] at given
    split at given
    · exact ih within (by simpa using given)
    next fault failed =>
      refine ⟨fault, record_fault ready found first failed, ?_⟩
      simpa using given

theorem events_fault (ready : p.IsReady parameters) {summary : Dict Value} {f : Failure}
    (given : .failed f ∈ p.events parameters summary) :
    ∃ fault, IsRangeFault fault ∧ f = fault.failure := by
  unfold events at given
  split at given
  next bound found => exact eventsOf_fault ready found (List.Subset.refl _) given
  next fault unfound =>
    have failed := p.rows_give parameters
    split at failed
    · obtain ⟨bound, found, -⟩ := failed
      cases unfound.symm.trans found
    next fault' failed' =>
      cases unfound.symm.trans failed
      exact ⟨fault, rows_fault ready failed', by simpa using given⟩

/-- Whether a plan that runs with these parameters can fail in its ranges only. -/
structure Resolves (p : Plan) (parameters : Dict Value) : Prop where
  /-- What is unwound. -/
  unwound : ∀ e name fault, p.unwind = some (e, name) →
    e.eval ⟨parameters, none⟩ = .error fault → IsRangeFault fault
  /-- What the rows are made of. -/
  rows : ∀ fault, p.rows parameters = .error fault → IsRangeFault fault
  /-- What is returned in a row that comes up, each for itself. -/
  items : ∀ rows asked row, p.rows parameters = .ok rows → some row ∈ rows.answers asked →
    ∀ item ∈ p.items, ∀ fault, item.1.eval (p.scope parameters row) = .error fault →
      IsRangeFault fault
  /-- The record of such a row. -/
  records : ∀ rows asked row, p.rows parameters = .ok rows → some row ∈ rows.answers asked →
    ∀ fault, p.record parameters row = .error fault → IsRangeFault fault

theorem IsReady.resolves (ready : p.IsReady parameters) : p.Resolves parameters where
  unwound e name fault unwound failed := Expr.eval_fault e (unwind_resolves ready unwound) failed
  rows fault failed := rows_fault ready failed
  items rows asked row given came item held fault failed := by
    obtain ⟨bound, found, among⟩ := answers_bound given came
    exact Expr.eval_fault item.1 (items_resolve ready found among held) failed
  records rows asked row given came fault failed := by
    obtain ⟨bound, found, among⟩ := answers_bound given came
    exact record_fault ready found among failed

end Plan

/-! ## Names that are not bound -/

def Plan.HasStray (p : Plan) (name : String) : Prop :=
  (∃ item ∈ p.items, name ∈ item.1.names ∧ p.boundName ≠ some name) ∨
    ∃ u, p.unwind = some u ∧ name ∈ u.1.names

mutual

theorem Expr.stray?_some {bound : Option String} {name : String} :
    (e : Expr) → e.stray? bound = some name → name ∈ e.names ∧ bound ≠ some name
  | .literal _, found => by cases found
  | .parameter _, found => by cases found
  | .variable word, found => by
    rw [Expr.stray?] at found
    split at found <;> cases found
    next other => exact ⟨List.mem_cons_self, Ne.symm other⟩
  | .list items, found => strayIn?_some items found
  | .range arguments, found => strayIn?_some arguments found

theorem strayIn?_some {bound : Option String} {name : String} :
    (items : List Expr) → strayIn? bound items = some name →
      name ∈ namesIn items ∧ bound ≠ some name
  | [], found => by cases found
  | e :: rest, found => by
    rw [strayIn?, Option.or_eq_some_iff] at found
    rw [namesIn, List.mem_append]
    rcases found with first | ⟨-, later⟩
    · obtain ⟨within, unbound⟩ := Expr.stray?_some e first
      exact ⟨.inl within, unbound⟩
    · obtain ⟨within, unbound⟩ := strayIn?_some rest later
      exact ⟨.inr within, unbound⟩

end

theorem Plan.stray?_some {p : Plan} {name : String} (found : p.stray? = some name) :
    p.HasStray name := by
  rw [stray?, Option.or_eq_some_iff] at found
  rcases found with first | ⟨-, later⟩
  · obtain ⟨within, unbound⟩ := strayIn?_some _ first
    obtain ⟨e, among, within⟩ := mem_namesIn.mp within
    obtain ⟨item, held, rfl⟩ := List.mem_map.mp among
    exact .inl ⟨item, held, within, unbound⟩
  · obtain ⟨u, unwound, stray⟩ := Option.bind_eq_some_iff.mp later
    exact .inr ⟨u, unwound, (Expr.stray?_some u.1 stray).1⟩

theorem Plan.HasStray.open {p : Plan} {name : String} (strays : p.HasStray name) :
    ¬ p.IsClosed := by
  intro closed
  rcases strays with ⟨item, held, within, unbound⟩ | ⟨u, unwound, within⟩
  · exact unbound (closed.items item held name within)
  · rw [closed.unwind u unwound] at within
    cases within

theorem Plan.parse_closed {statement : String} {lexemes : List Lexeme} {p : Plan}
    {after : Remainder} (cut : tokenize statement.toList = .ok lexemes)
    (parsed : Parser.statement ⟨statement.toList, lexemes, 0⟩ = .ok p after)
    (closed : p.stray? = none) : parse statement = .ok p := by
  unfold parse
  simp only [bind, Except.bind, cut, parsed, closed]
  rfl

/-- A sentence without stray names makes its plan. -/
theorem Plan.parse_spelt {statement : String} {lexemes : List Lexeme} {p : Plan}
    (cut : tokenize statement.toList = .ok lexemes) (spelt : p.Spelt statement.toList lexemes)
    (closed : p.IsClosed) : parse statement = .ok p := by
  obtain ⟨after, parsed⟩ := Parser.statement_of_spelt spelt
  exact parse_closed cut parsed (stray?_eq_none.mpr closed)

/-- A sentence with a name that is not bound makes no plan. -/
theorem Plan.parse_stray {statement : String} {lexemes : List Lexeme} {p : Plan} {name : String}
    (cut : tokenize statement.toList = .ok lexemes) (spelt : p.Spelt statement.toList lexemes)
    (strays : p.HasStray name) :
    ∃ first, p.HasStray first ∧ parse statement = .error (.undefinedVariable first) := by
  obtain ⟨after, parsed⟩ := Parser.statement_of_spelt spelt
  obtain ⟨first, found⟩ : ∃ first, p.stray? = some first :=
    Option.ne_none_iff_exists'.mp fun none => strays.open (stray?_eq_none.mp none)
  refine ⟨first, stray?_some found, ?_⟩
  unfold parse
  simp only [bind, Except.bind, cut, parsed, found]
  rfl

/-! ## Executions -/

/-- A production gives failures of its own and the missed deadline, no other. -/
theorem emit_failed {production : Production} {events : List StreamEvent} {f : Failure}
    (owes : production.Owes events) {asks : List Ask}
    (given : .failed f ∈ (engine.emit asks production).1) :
    .failed f ∈ events ∨ f = QueryFault.timedOut.failure := by
  rcases Production.emit_disturbed owes asks with within | ⟨-, before, last, within, same⟩
  · exact .inl (within.subset given)
  · rw [same] at given
    rcases List.mem_append.mp given with early | late
    · exact .inl (within.subset (List.mem_append_left _ early))
    · exact .inr (by simpa using late)

namespace Store

variable {query : Query} {p : Plan} {fault : QueryFault}

theorem plan_eq (parsed : Plan.parse query.statement = .ok p) : plan query =
    match p.missingParameters query.parameters with
    | [] => .ok p
    | names => .error (.missingParameters names) := by
  unfold plan
  rw [parsed]
  rfl

theorem plan_ready (planned : plan query = .ok p) : p.IsReady query.parameters := by
  have parts := planned
  unfold plan at parts
  obtain ⟨q, parsed, -⟩ := except_bind_ok parts
  rw [plan_eq parsed] at planned
  split at planned <;> cases planned
  next complete => exact Plan.ready_of_parse parsed complete

end Store

theorem told_ok {α ε δ : Type} {tell : ε → δ} {outcome : Except ε α × Store} {a : α} {s : Store}
    (given : told tell outcome = (.ok a, s)) : outcome = (.ok a, s) := by
  obtain ⟨answer, later⟩ := outcome
  cases answer <;> cases given
  rfl

/-- A query that runs gives failures in its ranges and the missed deadline, no other. -/
theorem execute_failed {s later : Store} {now : Instant} {query : Query} {tx : Option TxId}
    {cancelled : Bool} {columns : List String} {production : Production}
    (given : engine.execute now query tx cancelled s = (.ok (columns, production), later))
    {asks : List Ask} {f : Failure} (failed : .failed f ∈ (engine.emit asks production).1) :
    ∃ fault, (IsRangeFault fault ∨ fault = .timedOut) ∧ f = fault.failure := by
  obtain ⟨p, planned, -, hasPlan, hasParameters, unstarted, -, -⟩ :=
    Store.execute_started (told_ok given)
  rcases emit_failed (.whole unstarted) failed with own | late
  · rw [hasPlan, hasParameters] at own
    obtain ⟨fault, inRange, same⟩ := Plan.events_fault (Store.plan_ready planned) own
    exact ⟨fault, .inl inRange, same⟩
  · exact ⟨.timedOut, .inr rfl, late⟩

/-- Whether a query is refused for this cause whenever it is allowed to run at all. -/
def IsRefused (query : Query) (fault : QueryFault) : Prop :=
  ∀ (s : Store) (now : Instant) (tx : Option TxId) (cancelled : Bool),
    (s.allow now query tx).1 = .ok () →
    (engine.execute now query tx cancelled s).1 = .error (.error fault.failure)

theorem refused_of_plan {query : Query} {fault : QueryFault}
    (unplanned : Store.plan query = .error fault) : IsRefused query fault := by
  intro s now tx cancelled allowed
  change (told (Abort.map QueryFault.failure) (s.execute now query tx)).1 = _
  unfold Store.execute
  split
  next first => rw [first] at allowed; cases allowed
  · rw [unplanned]
    rfl

theorem refused_of_parse {query : Query} {fault : QueryFault}
    (unparsed : Plan.parse query.statement = .error fault) : IsRefused query fault := by
  refine refused_of_plan ?_
  unfold Store.plan
  rw [unparsed]
  rfl

/-- A query that runs fails in its ranges or for the time it takes, and never for want of a name or
a parameter, which is a reason to refuse it. -/
theorem names_resolved (query : Query) :
    (∀ p, Plan.parse query.statement = .ok p → p.missingParameters query.parameters = [] →
      p.Resolves query.parameters) ∧
    (∀ (s later : Store) (now : Instant) (tx : Option TxId) (cancelled : Bool)
      (columns : List String) (production : Production),
      engine.execute now query tx cancelled s = (.ok (columns, production), later) →
      ∀ asks f, .failed f ∈ (engine.emit asks production).1 →
        ∃ fault, (IsRangeFault fault ∨ fault = .timedOut) ∧ f = fault.failure) ∧
    (∀ p name, Plan.parse query.statement = .ok p → name ∈ p.parameters →
      query.parameters.get? name = none →
      ∃ names, (∀ other, other ∈ names ↔
        other ∈ p.parameters ∧ query.parameters.get? other = none) ∧
        IsRefused query (.missingParameters names)) ∧
    ∀ (lexemes : List Lexeme) (p : Plan) (name : String),
      tokenize query.statement.toList = .ok lexemes →
      p.Spelt query.statement.toList lexemes → p.HasStray name →
      ∃ first, p.HasStray first ∧ IsRefused query (.undefinedVariable first) := by
  refine ⟨fun p parsed complete => (Plan.ready_of_parse parsed complete).resolves,
    fun _ _ _ _ _ _ _ given _ _ => execute_failed given, fun p name parsed needed absent => ?_,
    fun lexemes p name cut spelt strays => ?_⟩
  · refine ⟨p.missingParameters query.parameters, fun other => Plan.mem_missingParameters, ?_⟩
    apply refused_of_plan
    rw [Store.plan_eq parsed]
    split
    next complete =>
      have missing := Plan.mem_missingParameters.mpr ⟨needed, absent⟩
      rw [complete] at missing
      cases missing
    · rfl
  · obtain ⟨first, strays, unparsed⟩ := Plan.parse_stray cut spelt strays
    exact ⟨first, strays, refused_of_parse unparsed⟩

def steppingQuery : Query :=
  ⟨"UNWIND [2, 0] AS x RETURN range(1, $n, x)", Dict.empty.insert "n" (.integer 3), .default⟩

def steppingPlan : Plan :=
  ⟨some (.list [.literal (.integer 2), .literal (.integer 0)], "x"),
    [(.range [.literal (.integer 1), .parameter "n", .variable "x"], "range(1, $n, x)")]⟩

def steppingProduction : Production :=
  ⟨steppingPlan, steppingQuery.parameters, none, some "graphwire:bookmark:v1:tx1", .unstarted⟩

theorem stepping_parsed : Plan.parse steppingQuery.statement = .ok steppingPlan := by
  have cut : tokenize steppingQuery.statement.toList = .ok
      [⟨.word "UNWIND", 0, 6⟩, ⟨.symbol '[', 7, 8⟩, ⟨.integer 2, 8, 9⟩, ⟨.symbol ',', 9, 10⟩,
        ⟨.integer 0, 11, 12⟩, ⟨.symbol ']', 12, 13⟩, ⟨.word "AS", 14, 16⟩, ⟨.word "x", 17, 18⟩,
        ⟨.word "RETURN", 19, 25⟩, ⟨.word "range", 26, 31⟩, ⟨.symbol '(', 31, 32⟩,
        ⟨.integer 1, 32, 33⟩, ⟨.symbol ',', 33, 34⟩, ⟨.parameter "n", 35, 37⟩,
        ⟨.symbol ',', 37, 38⟩, ⟨.word "x", 39, 40⟩, ⟨.symbol ')', 40, 41⟩] := by cbv
  exact Plan.parse_closed cut rfl rfl

theorem stepping_complete :
    steppingPlan.missingParameters steppingQuery.parameters = [] := by
  cbv

theorem stepping_executed : engine.execute 0 steppingQuery none false .empty =
    (.ok (["range(1, $n, x)"], steppingProduction), ⟨[], 0, 1⟩) := by
  have allowed : Store.empty.allow 0 steppingQuery none = (.ok (), .empty) := rfl
  have planned : Store.plan steppingQuery = .ok steppingPlan := by
    rw [Store.plan_eq stepping_parsed, stepping_complete]
  change told (Abort.map QueryFault.failure) (Store.empty.execute 0 steppingQuery none) = _
  unfold Store.execute
  rw [allowed, planned]
  rfl

def wantingQuery : Query := ⟨"UNWIND [$n, $m] AS x RETURN x", Dict.empty.insert "n" .null, .default⟩

def wantingPlan : Plan :=
  ⟨some (.list [.parameter "n", .parameter "m"], "x"), [(.variable "x", "x")]⟩

theorem wanting_parsed : Plan.parse wantingQuery.statement = .ok wantingPlan := by
  have cut : tokenize wantingQuery.statement.toList = .ok
      [⟨.word "UNWIND", 0, 6⟩, ⟨.symbol '[', 7, 8⟩, ⟨.parameter "n", 8, 10⟩, ⟨.symbol ',', 10, 11⟩,
        ⟨.parameter "m", 12, 14⟩, ⟨.symbol ']', 14, 15⟩, ⟨.word "AS", 16, 18⟩, ⟨.word "x", 19, 20⟩,
        ⟨.word "RETURN", 21, 27⟩, ⟨.word "x", 28, 29⟩] := by cbv
  exact Plan.parse_closed cut rfl rfl

def namelessQuery : Query := ⟨"RETURN y", .empty, .default⟩

def namelessPlan : Plan := ⟨none, [(.variable "y", "y")]⟩

def namelessLexemes : List Lexeme := [⟨.word "RETURN", 0, 6⟩, ⟨.word "y", 7, 8⟩]

theorem nameless_spelt : tokenize namelessQuery.statement.toList = .ok namelessLexemes ∧
    namelessPlan.Spelt namelessQuery.statement.toList namelessLexemes := by
  have parsed : Parser.statement ⟨"RETURN y".toList, namelessLexemes, 0⟩ =
      .ok namelessPlan ⟨"RETURN y".toList, [], 8⟩ := rfl
  exact ⟨by cbv, Parser.statement_taken parsed⟩

theorem stepping_first : steppingPlan.record steppingQuery.parameters (some (.integer 2)) =
    .ok [.list [.integer 1, .integer 3]] := by
  have built : (Range.mk 1 3 2 (by decide)).toList = [1, 3] := by
    rw [Range.toList_eq]
    rfl
  change (do
    let v ← (Range.mk 1 3 2 (by decide)).toValue
    return [v]) = _
  rw [Range.toValue, if_pos (by decide), built]
  rfl

theorem stepping_emitted : (engine.emit [⟨0, false⟩, ⟨0, false⟩] steppingProduction).1 =
    [.record [.list [.integer 1, .integer 3]], .failed QueryFault.rangeStepZero.failure] := by
  have first : engine.produce 0 false steppingProduction = .event
      (.record [.list [.integer 1, .integer 3]])
      { steppingProduction with phase := .rows (.values [.integer 0]) } := by
    change steppingProduction.fromRows (.values [.integer 2, .integer 0]) 0 false = _
    unfold Production.fromRows
    dsimp only [Rows.next?, steppingProduction, Production.isLate, Option.any]
    rw [stepping_first]
    rfl
  rw [QueryEngine.emit, first]
  rfl

/-- A query that fails in its second row, and two that are refused. -/
theorem sample_resolved :
    steppingPlan.Resolves steppingQuery.parameters ∧
    (engine.emit [⟨0, false⟩, ⟨0, false⟩] steppingProduction).1 =
      [.record [.list [.integer 1, .integer 3]], .failed QueryFault.rangeStepZero.failure] ∧
    (∃ fault, (IsRangeFault fault ∨ fault = .timedOut) ∧
      QueryFault.rangeStepZero.failure = fault.failure) ∧
    (∃ names, (∀ other, other ∈ names ↔
      other ∈ wantingPlan.parameters ∧ wantingQuery.parameters.get? other = none) ∧
      IsRefused wantingQuery (.missingParameters names)) ∧
    ∃ first, namelessPlan.HasStray first ∧ IsRefused namelessQuery (.undefinedVariable first) := by
  have failed : .failed QueryFault.rangeStepZero.failure ∈
      (engine.emit [⟨0, false⟩, ⟨0, false⟩] steppingProduction).1 := by
    rw [stepping_emitted]
    exact List.mem_cons_of_mem _ List.mem_cons_self
  have strays : namelessPlan.HasStray "y" := .inl ⟨_, List.mem_cons_self, by decide⟩
  obtain ⟨resolves, fails, -, -⟩ := names_resolved steppingQuery
  obtain ⟨-, -, wanting, -⟩ := names_resolved wantingQuery
  obtain ⟨-, -, -, nameless⟩ := names_resolved namelessQuery
  exact ⟨resolves _ stepping_parsed stepping_complete, stepping_emitted,
    fails _ _ _ _ _ _ _ stepping_executed _ _ failed,
    wanting wantingPlan "m" wanting_parsed (by decide) rfl,
    nameless _ _ "y" nameless_spelt.1 nameless_spelt.2 strays⟩

end GraphProtocol.Literal
