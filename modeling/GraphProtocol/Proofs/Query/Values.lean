import GraphProtocol.Proofs.Connection.Inbox
import GraphProtocol.Proofs.Wire.Decoded
import GraphProtocol.Query.Literal.Engine

/-!
# Values of literal queries

The constants of a statement are no lists and no maps, so whatever a query gives is made of them, of
parameters, of integers and of lists around these. Its values have distinct keys and no leap seconds
if those of the parameters do. How deep they nest is bounded by nothing.
-/

set_option autoImplicit false

namespace GraphProtocol

def StreamEvent.IsRegular (event : StreamEvent) : Prop :=
  ∀ fields, event = .record fields → ∀ v ∈ fields, v.IsRegular

namespace Literal

/-! ## Constants -/

mutual

def Expr.IsPlain : Expr → Prop
  | .literal v => v.type.opensLevel = false
  | .list items => ArePlain items
  | .range arguments => ArePlain arguments
  | .parameter _ | .variable _ => True

def ArePlain : List Expr → Prop
  | [] => True
  | e :: rest => e.IsPlain ∧ ArePlain rest

end

theorem arePlain_iff {items : List Expr} : ArePlain items ↔ ∀ e ∈ items, e.IsPlain := by
  induction items with
  | nil => simp [ArePlain]
  | cons e rest ih => simp [ArePlain, ih]

namespace Parser

variable {s after : Remainder} {e : Expr}

theorem itemsOnto_plain {item : Parser Expr} {close : Char} {fuel : Nat} {done items : List Expr}
    (each : ∀ s e after, item s = .ok e after → e.IsPlain) (before : ∀ e ∈ done, e.IsPlain)
    (given : itemsOnto item close fuel done s = .ok items after) : ∀ e ∈ items, e.IsPlain := by
  induction fuel generalizing s done with
  | zero => cases given
  | succ fuel ih =>
    unfold itemsOnto at given
    obtain ⟨e, s, came, given⟩ := bind_ok given
    have further : ∀ e' ∈ e :: done, e'.IsPlain :=
      List.forall_mem_cons.mpr ⟨each _ e s came, before⟩
    obtain ⟨closes, s, -, given⟩ := bind_ok given
    split at given
    · cases given
      exact fun e' among => further e' (List.mem_reverse.mp among)
    · obtain ⟨goesOn, s, -, given⟩ := bind_ok given
      split at given
      · exact ih further given
      · cases given

theorem items_plain {item : Parser Expr} {close : Char} {fuel : Nat} {items : List Expr}
    (each : ∀ s e after, item s = .ok e after → e.IsPlain)
    (given : Parser.items item close fuel s = .ok items after) : ∀ e ∈ items, e.IsPlain := by
  unfold Parser.items at given
  obtain ⟨closes, s, -, given⟩ := bind_ok given
  split at given
  · cases given
    exact List.forall_mem_nil _
  · exact itemsOnto_plain each (List.forall_mem_nil _) given

theorem constantOrVariable_plain (word : String) : (constantOrVariable word).IsPlain := by
  unfold constantOrVariable
  split
  · rfl
  split
  · rfl
  split
  · rfl
  · trivial

theorem taken_eq {e' : Expr} (given : (skip >>= fun _ => pure e') s = .ok e after) : e' = e := by
  obtain ⟨⟨⟩, s, -, given⟩ := bind_ok given
  cases given
  rfl

theorem negated_plain (given : negated s = .ok e after) : e.IsPlain := by
  unfold negated at given
  obtain ⟨next, s, -, given⟩ := bind_ok given
  split at given
  · exact taken_eq given ▸ rfl
  · exact taken_eq given ▸ rfl
  · cases given
  · cases given

theorem expression_plain {fuel : Nat} (given : expression fuel s = .ok e after) : e.IsPlain := by
  induction fuel generalizing s e after with
  | zero => cases given
  | succ fuel ih =>
    unfold expression at given
    obtain ⟨opens, s, -, given⟩ := bind_ok given
    split at given
    · obtain ⟨items, s, came, given⟩ := bind_ok given
      cases given
      exact arePlain_iff.mpr (items_plain (fun _ _ _ => ih) came)
    obtain ⟨minus, s, -, given⟩ := bind_ok given
    split at given
    · exact negated_plain given
    obtain ⟨next, s, -, given⟩ := bind_ok given
    split at given
    · exact taken_eq given ▸ rfl
    · exact taken_eq given ▸ rfl
    · exact taken_eq given ▸ rfl
    · exact taken_eq given ▸ trivial
    · obtain ⟨⟨⟩, s, -, given⟩ := bind_ok given
      obtain ⟨applies, s, -, given⟩ := bind_ok given
      split at given
      · split at given
        · obtain ⟨arguments, s, came, given⟩ := bind_ok given
          cases given
          exact arePlain_iff.mpr (items_plain (fun _ _ _ => ih) came)
        · cases given
      · cases given
        exact constantOrVariable_plain _
    · cases given

theorem column_plain {c : Expr × String} (given : column s = .ok c after) : c.1.IsPlain := by
  unfold column anyExpression at given
  obtain ⟨before, s, -, given⟩ := bind_ok given
  obtain ⟨e, s, came, given⟩ := bind_ok given
  obtain ⟨left, s', -, came⟩ := bind_ok came
  have plain := expression_plain came
  obtain ⟨left, s, -, given⟩ := bind_ok given
  obtain ⟨named, s, -, given⟩ := bind_ok given
  split at given
  · obtain ⟨name, s, -, given⟩ := bind_ok given
    cases given
    exact plain
  · cases given
    exact plain

theorem columnsOnto_plain {fuel : Nat} {done columns : List (Expr × String)}
    (before : ∀ c ∈ done, c.1.IsPlain) (given : columnsOnto fuel done s = .ok columns after) :
    ∀ c ∈ columns, c.1.IsPlain := by
  induction fuel generalizing s done with
  | zero => cases given
  | succ fuel ih =>
    unfold columnsOnto at given
    obtain ⟨c, s, came, given⟩ := bind_ok given
    have further : ∀ c' ∈ c :: done, c'.1.IsPlain :=
      List.forall_mem_cons.mpr ⟨column_plain came, before⟩
    obtain ⟨goesOn, s, -, given⟩ := bind_ok given
    split at given
    · exact ih further given
    · cases given
      exact fun c' among => further c' (List.mem_reverse.mp among)

end Parser

structure Plan.IsPlain (p : Plan) : Prop where
  unwind : ∀ u, p.unwind = some u → u.1.IsPlain
  items : ∀ item ∈ p.items, item.1.IsPlain

namespace Parser

variable {s after : Remainder} {p : Plan}

/-- What follows the list that a statement unwinds. -/
theorem returned_plain {unwind : Option (Expr × String)}
    (first : ∀ u, unwind = some u → u.1.IsPlain)
    (given : (do
      expectKeyword "RETURN"
      let items ← columnsOnto ((← get).rest.length + 1) []
      let _ ← symbol ';'
      if (← peek?).isSome then unexpected "end of statement"
      return ⟨unwind, items⟩ : Parser Plan) s = .ok p after) : p.IsPlain := by
  obtain ⟨⟨⟩, s, -, given⟩ := bind_ok given
  obtain ⟨left, s, -, given⟩ := bind_ok given
  obtain ⟨items, s, parsed, given⟩ := bind_ok given
  obtain ⟨ends, s, -, given⟩ := bind_ok given
  obtain ⟨next, s, -, given⟩ := bind_ok given
  split at given
  · cases given
  · cases given
    exact ⟨first, columnsOnto_plain (List.forall_mem_nil _) parsed⟩

theorem statement_plain (given : statement s = .ok p after) : p.IsPlain := by
  unfold statement anyExpression at given
  obtain ⟨unwinds, s, -, given⟩ := bind_ok given
  split at given
  · obtain ⟨e, s, parsed, given⟩ := bind_ok given
    obtain ⟨left, s', -, parsed⟩ := bind_ok parsed
    obtain ⟨⟨⟩, s, -, given⟩ := bind_ok given
    obtain ⟨name, s, -, given⟩ := bind_ok given
    refine returned_plain ?_ given
    rintro _ ⟨⟩
    exact expression_plain parsed
  · exact returned_plain (by rintro _ ⟨⟩) given

end Parser

theorem Plan.parse_plain {statement : String} {p : Plan} (given : parse statement = .ok p) :
    p.IsPlain := by
  unfold parse at given
  obtain ⟨lexemes, -, given⟩ := except_bind_ok given
  split at given
  · cases given
  next plan _ parsed =>
  split at given <;> cases given
  exact Parser.statement_plain parsed

/-! ## Evaluation -/

structure Scope.IsRegular (scope : Scope) : Prop where
  parameters : (Value.map scope.parameters).IsRegular
  binding : ∀ name v, scope.binding = some (name, v) → v.IsRegular

theorem regular_list {items : List Value} (each : ∀ v ∈ items, v.IsRegular) :
    (Value.list items).IsRegular :=
  Value.regular_iff.mpr ⟨List.forall_mem_nil _, by rintro _ ⟨⟩, each⟩

theorem list_regular {items : List Value} (whole : (Value.list items).IsRegular) :
    ∀ v ∈ items, v.IsRegular :=
  (Value.regular_iff.mp whole).2.2

theorem regular_flat {v : Value} (flat : v.type.opensLevel = false) : v.IsRegular := by
  have legible : Wire.Legible 0 v := Wire.legible_flat flat
  exact legible.regular

theorem Range.toValue_regular {r : Range} {v : Value} (given : r.toValue = .ok v) :
    v.IsRegular := by
  unfold toValue at given
  split at given <;> cases given
  apply regular_list
  intro v among
  obtain ⟨n, -, rfl⟩ := List.mem_map.mp among
  exact regular_flat rfl

theorem Scope.get_regular {scope : Scope} (regular : scope.IsRegular) {name : String} {v : Value}
    (found : scope.parameters.get? name = some v) : v.IsRegular := by
  obtain ⟨-, -, each⟩ := Value.regular_iff.mp regular.parameters
  exact each v (Dict.values_of_get found)

mutual

/-- The value of an expression is regular. -/
theorem Expr.eval_regular {scope : Scope} {v : Value} (regular : scope.IsRegular) :
    (e : Expr) → e.IsPlain → e.eval scope = .ok v → v.IsRegular
  | .literal _, plain, given => by
    cases given
    exact regular_flat plain
  | .parameter name, _, given => by
    unfold Expr.eval at given
    split at given <;> cases given
    next found => exact Scope.get_regular regular found
  | .variable name, _, given => by
    unfold Expr.eval at given
    split at given
    · next bound =>
      split at given <;> cases given
      exact regular.binding _ _ bound
    · cases given
  | .list items, plain, given => by
    unfold Expr.eval at given
    obtain ⟨values, came, made⟩ := except_bind_ok given
    cases made
    exact regular_list (evalAll_regular regular items plain came)
  | .range arguments, _, given => by
    unfold Expr.eval at given
    obtain ⟨bounds, -, given⟩ := except_bind_ok given
    obtain ⟨range, -, given⟩ := except_bind_ok given
    exact Range.toValue_regular given

theorem evalAll_regular {scope : Scope} {values : List Value} (regular : scope.IsRegular) :
    (items : List Expr) → ArePlain items → evalAll scope items = .ok values →
      ∀ v ∈ values, v.IsRegular
  | [], _, given => by
    cases given
    exact List.forall_mem_nil _
  | e :: rest, plain, given => by
    unfold evalAll at given
    obtain ⟨v, came, given⟩ := except_bind_ok given
    obtain ⟨others, further, made⟩ := except_bind_ok given
    cases made
    exact List.forall_mem_cons.mpr
      ⟨Expr.eval_regular regular e plain.1 came, evalAll_regular regular rest plain.2 further⟩

end

/-! ## Rows -/

def Rows.IsRegular : Rows → Prop
  | .once | .range _ => True
  | .values vs => ∀ v ∈ vs, v.IsRegular

theorem Rows.next_regular {rows rest : Rows} {row : Option Value} (regular : rows.IsRegular)
    (given : rows.next? = some (row, rest)) :
    (∀ v, row = some v → v.IsRegular) ∧ rest.IsRegular := by
  cases rows with
  | once =>
    cases given
    exact ⟨by rintro _ ⟨⟩, List.forall_mem_nil _⟩
  | range cursor =>
    obtain ⟨⟨n, further⟩, -, made⟩ := Option.map_eq_some_iff.mp given
    cases made
    refine ⟨?_, trivial⟩
    rintro _ ⟨⟩
    exact regular_flat rfl
  | values values =>
    cases values with
    | nil => cases given
    | cons v others =>
      cases given
      obtain ⟨first, further⟩ := List.forall_mem_cons.mp regular
      refine ⟨?_, further⟩
      rintro _ ⟨⟩
      exact first

namespace Plan

variable {p : Plan} {parameters : Dict Value}

theorem rows_regular {coming : Rows} (plain : p.IsPlain)
    (regular : (Value.map parameters).IsRegular) (given : p.rows parameters = .ok coming) :
    coming.IsRegular := by
  have scope : Scope.IsRegular ⟨parameters, none⟩ := ⟨regular, by rintro _ _ ⟨⟩⟩
  unfold rows at given
  dsimp only at given
  split at given
  · cases given
    trivial
  · obtain ⟨bounds, -, given⟩ := except_bind_ok given
    obtain ⟨range, -, given⟩ := except_bind_ok given
    cases given
    trivial
  · next e name _ unwinds =>
    obtain ⟨v, came, given⟩ := except_bind_ok given
    have value := Expr.eval_regular scope e (plain.unwind _ unwinds) came
    split at given <;> cases given
    · exact List.forall_mem_nil _
    · exact list_regular value
    · exact List.forall_mem_cons.mpr ⟨value, List.forall_mem_nil _⟩

theorem record_regular {row : Option Value} {fields : List Value} (plain : p.IsPlain)
    (regular : (Value.map parameters).IsRegular) (bound : ∀ v, row = some v → v.IsRegular)
    (given : p.record parameters row = .ok fields) : ∀ v ∈ fields, v.IsRegular := by
  unfold record at given
  have items : ArePlain (p.items.map (·.1)) := by
    refine arePlain_iff.mpr fun e among => ?_
    obtain ⟨item, held, rfl⟩ := List.mem_map.mp among
    exact plain.items item held
  refine evalAll_regular ⟨regular, ?_⟩ _ items given
  intro name v binding
  obtain ⟨_, -, binding⟩ := Option.bind_eq_some_iff.mp binding
  obtain ⟨_, is, binding⟩ := Option.bind_eq_some_iff.mp binding
  cases binding
  exact bound v is

end Plan

/-! ## Results -/

structure Production.IsRegular (p : Production) : Prop where
  plan : p.plan.IsPlain
  parameters : (Value.map p.parameters).IsRegular
  rows : ∀ rows, p.phase = .rows rows → rows.IsRegular

namespace Production

variable {p rest : Production} {event : StreamEvent} {now : Instant} {cancelled : Bool}

theorem ended_regular (regular : p.IsRegular) :
    { p with phase := .ended }.IsRegular :=
  ⟨regular.plan, regular.parameters, by rintro _ ⟨⟩⟩

theorem fromRows_regular {rows : Rows} (regular : p.IsRegular) (bound : rows.IsRegular)
    (given : p.fromRows rows now cancelled = .event event rest) :
    rest.IsRegular ∧ event.IsRegular := by
  unfold fromRows at given
  split at given
  · split at given <;> cases given
    exact ⟨ended_regular regular, by rintro _ ⟨⟩⟩
  next row further next =>
  obtain ⟨first, further⟩ := Rows.next_regular bound next
  split at given
  · cases given
    exact ⟨ended_regular regular, by rintro _ ⟨⟩⟩
  split at given
  · cases given
  split at given <;> cases given
  · next made =>
    refine ⟨⟨regular.plan, regular.parameters, ?_⟩, ?_⟩
    · rintro _ ⟨⟩
      exact further
    · rintro _ ⟨⟩
      exact Plan.record_regular regular.plan regular.parameters first made
  · exact ⟨ended_regular regular, by rintro _ ⟨⟩⟩

theorem next_regular (regular : p.IsRegular) (given : p.next now cancelled = .event event rest) :
    rest.IsRegular ∧ event.IsRegular := by
  unfold next at given
  split at given
  · cases given
  · next rows phase => exact fromRows_regular regular (regular.rows rows phase) given
  · split at given
    · next made =>
      exact fromRows_regular regular (Plan.rows_regular regular.plan regular.parameters made) given
    · cases given
      exact ⟨ended_regular regular, by rintro _ ⟨⟩⟩

end Production

theorem Store.plan_plain {query : Query} {p : Plan} (given : plan query = .ok p) : p.IsPlain := by
  unfold plan at given
  obtain ⟨plan, parsed, given⟩ := except_bind_ok given
  split at given <;> cases given
  exact Plan.parse_plain parsed

/-- A statement with regular parameters starts a production of regular records. -/
theorem Store.execute_regular {s later : Store} {now : Instant} {query : Query} {tx : Option TxId}
    {columns : List String} {production : Production}
    (regular : (Value.map query.parameters).IsRegular)
    (given : s.execute now query tx = (.ok (columns, production), later)) :
    production.IsRegular := by
  unfold execute at given
  split at given
  · cases given
  split at given
  · cases given
  next plan made =>
  have plain := plan_plain made
  split at given
  · cases given
    exact ⟨plain, regular, by rintro _ ⟨⟩⟩
  · dsimp only at given
    split at given <;> cases given
    exact ⟨plain, regular, by rintro _ ⟨⟩⟩

end Literal

end GraphProtocol
