import GraphProtocol.Proofs.Query.Events

/-!
# Unwinding a range

The elements of a range come up in three ways: one by one as rows, counted in advance, and as a list
that is built at once. All three agree in both directions and up to the least and the largest
integer. To unwind a range is to unwind the list of its elements, except that a list may not have
too many.
-/

set_option autoImplicit false

namespace GraphProtocol.Literal

/-! ## Asking rows -/

/-- What rows answer when they are asked for the next one so many times. Rows that have no next one
stay as they are. -/
def Rows.answers (rows : Rows) : Nat → List (Option (Option Value))
  | 0 => []
  | asked + 1 =>
    match rows.next? with
    | some (row, rest) => some row :: rest.answers asked
    | none => none :: rows.answers asked

theorem answers_ended {rows : Rows} (ended : rows.next? = none) (asked : Nat) :
    rows.answers asked = List.replicate asked none := by
  induction asked with
  | zero => rfl
  | succ asked ih => rw [Rows.answers, ended, ih, List.replicate_succ]

/-- Rows answer with their bindings in order, and then with nothing for good. -/
theorem answers_given {rows : Rows} {bindings : List (Option Value)} (gives : rows.Gives bindings)
    (asked : Nat) : rows.answers asked = (List.range asked).map fun k => bindings[k]? := by
  induction gives generalizing asked with
  | ended stops =>
    rw [answers_ended stops]
    simp
  | further next _ ih =>
    cases asked with
    | zero => rfl
    | succ asked =>
      rw [Rows.answers, next, List.range_succ_eq_map, List.map_cons, List.map_map]
      dsimp only
      rw [ih asked]
      rfl

/-! ## Elements -/

namespace Range

variable {r : Range} {k : Nat}

def IsEmpty (r : Range) : Prop :=
  (0 < r.step.toInt ∧ r.stop.toInt < r.start.toInt) ∨
    (r.step.toInt < 0 ∧ r.start.toInt < r.stop.toInt)

/-- Between two bounds that lie in the direction of the step, cutting off a quotient is rounding it
down. -/
theorem tdiv_ahead (span step : Int) (ahead : 0 ≤ span ∧ 0 < step ∨ span ≤ 0 ∧ step < 0) :
    span.tdiv step = span.fdiv step ∧ 0 ≤ span.fdiv step := by
  have upward : ∀ {span step : Int}, 0 ≤ span → 0 < step →
      span.tdiv step = span.fdiv step ∧ 0 ≤ span.fdiv step := by
    intro span step far forward
    rw [Int.fdiv_eq_tdiv_of_nonneg far forward.le]
    exact ⟨rfl, Int.tdiv_nonneg far forward.le⟩
  rcases ahead with ⟨far, forward⟩ | ⟨far, backward⟩
  · exact upward far forward
  · rw [← Int.neg_tdiv_neg, ← Int.neg_fdiv_neg]
    exact upward (by omega) (by omega)

theorem isEmpty_iff (r : Range) : r.IsEmpty ↔
    (0 < r.step ∧ r.stop < r.start) ∨ (r.step < 0 ∧ r.start < r.stop) := by
  simp only [IsEmpty, Int64.lt_iff_toInt_lt, Int64.toInt_zero]

/-- One more than the whole steps between the bounds are counted. -/
theorem count_eq (r : Range) : (r.IsEmpty → r.count = 0) ∧
    (¬ r.IsEmpty →
      (r.count : Int) = (r.stop.toInt - r.start.toInt).fdiv r.step.toInt + 1) := by
  rw [isEmpty_iff, count]
  refine ⟨fun beyond => if_pos beyond, fun inside => ?_⟩
  rw [if_neg inside]
  rw [← isEmpty_iff, IsEmpty] at inside
  have apart := r.step_toInt_ne
  obtain ⟨cut, some⟩ := tdiv_ahead (r.stop.toInt - r.start.toInt) r.step.toInt (by omega)
  rw [cut, Int.toNat_of_nonneg (by omega)]

/-- What the count is worked out from stays far below 128 bits. -/
theorem count_fits (r : Range) :
    (r.stop.toInt - r.start.toInt).natAbs < 2 ^ 64 ∧
      ((r.stop.toInt - r.start.toInt).tdiv r.step.toInt).natAbs < 2 ^ 64 := by
  have start := And.intro (Int64.le_toInt r.start) (Int64.toInt_lt r.start)
  have stop := And.intro (Int64.le_toInt r.stop) (Int64.toInt_lt r.stop)
  have span : (r.stop.toInt - r.start.toInt).natAbs < 2 ^ 64 := by omega
  exact ⟨span, (Int.natAbs_tdiv_le_natAbs _ _).trans_lt span⟩

theorem toInt_place (counted : k < r.count) : (Int64.ofInt (r.place k)).toInt = r.place k := by
  obtain ⟨low, high⟩ := place_bounds counted
  exact Int64.toInt_ofInt_of_le low (Int.lt_add_one_of_le high)

theorem getElem?_toList (r : Range) (k : Nat) :
    r.toList[k]? = if k < r.count then some (Int64.ofInt (r.place k)) else none := by
  rw [toList_eq, List.getElem?_map]
  by_cases counted : k < r.count
  · rw [List.getElem?_range counted, if_pos counted]
    rfl
  · rw [List.getElem?_eq_none (by simpa using counted), if_neg counted]
    rfl

end Range

/-! ## Values and rows -/

section

variable {scope : Scope} {parameters : Dict Value} {arguments items : List Expr} {r : Range}

/-- A range as a value, once its arguments are known. -/
theorem eval_range (bounded : (evalIntegers scope arguments >>= Range.ofArguments) = .ok r) :
    (Expr.range arguments).eval scope = r.toValue := by
  obtain ⟨bounds, given, bounded⟩ := except_bind_ok bounded
  rw [Expr.eval, given]
  dsimp only [bind, Except.bind]
  rw [bounded]

/-- Whatever has a list for its value unwinds to the elements of the list. -/
theorem bindings_list {p : Plan} {e : Expr} {name : String} {elements : List Value}
    (unwound : p.unwind = some (e, name))
    (value : e.eval ⟨parameters, none⟩ = .ok (.list elements)) :
    p.bindings parameters = .ok (elements.map some) := by
  obtain ⟨unwind, columns⟩ := p
  cases unwound
  cases e with
  | range arguments =>
    rw [Expr.eval] at value
    obtain ⟨bounds, given, value⟩ := except_bind_ok value
    obtain ⟨r, made, value⟩ := except_bind_ok value
    unfold Range.toValue at value
    split at value <;> cases value
    unfold Plan.bindings
    dsimp only [bind, Except.bind]
    rw [given]
    dsimp only
    rw [made]
    simp [pure, Except.pure]
  | _ =>
    unfold Plan.bindings
    dsimp only [bind, Except.bind]
    rw [value]
    rfl

/-- The rows of a plan that unwinds a list bind its elements. -/
theorem rows_list {p : Plan} {e : Expr} {name : String} {elements : List Value}
    (unwound : p.unwind = some (e, name))
    (value : e.eval ⟨parameters, none⟩ = .ok (.list elements)) :
    ∃ rows, p.rows parameters = .ok rows ∧ rows.Gives (elements.map some) := by
  have bound := bindings_list unwound value
  have given := p.rows_give parameters
  split at given
  next rows found =>
    obtain ⟨bindings, same, gives⟩ := given
    cases same.symm.trans bound
    exact ⟨rows, found, gives⟩
  · cases given.symm.trans bound

/-- The rows of a plan that unwinds a range are made as they are asked for. -/
theorem rows_range {p : Plan} {name : String} (unwound : p.unwind = some (.range arguments, name))
    (bounded : (evalIntegers ⟨parameters, none⟩ arguments >>= Range.ofArguments) = .ok r) :
    p.rows parameters = .ok (.range r.cursor) := by
  obtain ⟨bounds, given, bounded⟩ := except_bind_ok bounded
  unfold Plan.rows
  rw [unwound]
  dsimp only [bind, Except.bind]
  rw [given]
  dsimp only
  rw [bounded]
  rfl

end

/-- Whether a range comes up in the same way however it is used. -/
structure Range.Agrees (r : Range) : Prop where
  /-- None if the first bound lies beyond the last, and otherwise one more than the whole steps
  between the bounds. -/
  counted : (r.IsEmpty → r.count = 0) ∧
    (¬ r.IsEmpty → (r.count : Int) = (r.stop.toInt - r.start.toInt).fdiv r.step.toInt + 1)
  /-- Neither the bounds nor the quotient make the count need more than 128 bits. -/
  fits : (r.stop.toInt - r.start.toInt).natAbs < 2 ^ 64 ∧
    ((r.stop.toInt - r.start.toInt).tdiv r.step.toInt).natAbs < 2 ^ 64
  /-- As many elements as are counted come up as rows, and then none for good. -/
  walked : ∀ asked, (Rows.range r.cursor).answers asked = (List.range asked).map fun k =>
    if k < r.count then some (some (.integer (Int64.ofInt (r.place k)))) else none
  /-- The elements are steps from the first bound, none of which leaves the 64-bit integers. -/
  places : ∀ k < r.count,
    (Int64.ofInt (r.place k)).toInt = r.start.toInt + k * r.step.toInt
  /-- The list of the elements is built if it has at most a million. -/
  built : ∀ (scope : Scope) (arguments : List Expr),
    (evalIntegers scope arguments >>= Range.ofArguments) = .ok r →
    (r.count ≤ 1000000 → (Expr.range arguments).eval scope =
      .ok (.list ((List.range r.count).map fun k => .integer (Int64.ofInt (r.place k))))) ∧
    (1000000 < r.count → ∃ fault, (Expr.range arguments).eval scope = .error fault ∧
      fault.code = "Neo.ClientError.Statement.ArgumentError")
  /-- To unwind the range is to unwind the list. -/
  unwound : ∀ (parameters : Dict Value) (arguments : List Expr) (e : Expr) (list : Value)
    (name name' : String) (p q : Plan),
    (evalIntegers ⟨parameters, none⟩ arguments >>= Range.ofArguments) = .ok r →
    (Expr.range arguments).eval ⟨parameters, none⟩ = .ok list →
    e.eval ⟨parameters, none⟩ = .ok list →
    p.unwind = some (.range arguments, name) → q.unwind = some (e, name') →
    p.rows parameters = .ok (.range r.cursor) ∧ ∃ rows, q.rows parameters = .ok rows ∧
      ∀ asked, (Rows.range r.cursor).answers asked = rows.answers asked

theorem range_agrees (r : Range) : r.Agrees where
  counted := r.count_eq
  fits := r.count_fits
  walked asked := by
    rw [answers_given (range_gives r.cursor_gives)]
    refine List.map_congr_left fun k _ => ?_
    rw [List.getElem?_map, r.getElem?_toList]
    split <;> rfl
  places k counted := Range.toInt_place counted
  built scope arguments bounded := by
    rw [eval_range bounded, Range.toValue]
    refine ⟨fun few => ?_, fun many => ?_⟩
    · rw [if_pos (show r.count ≤ Range.maxListLength from few), Range.toList_eq, List.map_map]
      rfl
    · exact ⟨_, if_neg (Nat.not_le.mpr many), rfl⟩
  unwound parameters arguments e list name name' p q bounded value value' unwound unwound' := by
    have walked := rows_range unwound bounded
    rw [eval_range bounded, Range.toValue] at value
    split at value <;> cases value
    obtain ⟨rows, found, gives⟩ := rows_list unwound' value'
    refine ⟨walked, rows, found, fun asked => ?_⟩
    rw [answers_given gives, answers_given (range_gives r.cursor_gives), List.map_map]
    rfl

def widestRange : Range := ⟨Int64.minValue, Int64.maxValue, Int64.maxValue, by decide⟩

def widestArguments : List Expr :=
  [.literal (.integer Int64.minValue), .literal (.integer Int64.maxValue),
    .literal (.integer Int64.maxValue)]

def widestElements : Value :=
  .list [.integer (-9223372036854775808), .integer (-1), .integer 9223372036854775806]

theorem widest_agrees :
    widestRange.count = 3 ∧
    (Rows.range widestRange.cursor).answers 5 = [some (some (.integer (-9223372036854775808))),
      some (some (.integer (-1))), some (some (.integer 9223372036854775806)), none, none] ∧
    (Expr.range widestArguments).eval ⟨.empty, none⟩ = .ok widestElements ∧
    ∃ rows, (Plan.mk (some (.literal widestElements, "x")) []).rows .empty = .ok rows ∧
      ∀ asked, (Rows.range widestRange.cursor).answers asked = rows.answers asked := by
  have agrees := range_agrees widestRange
  have counted : widestRange.count = 3 := by decide
  have walked := agrees.walked 5
  have bounded : (evalIntegers ⟨.empty, none⟩ widestArguments >>= Range.ofArguments) =
      .ok widestRange := by cbv
  have built := (agrees.built ⟨.empty, none⟩ widestArguments bounded).1 (by rw [counted]; decide)
  rw [counted] at walked built
  have unwound := agrees.unwound .empty widestArguments (.literal widestElements) widestElements
    "x" "x" ⟨some (.range widestArguments, "x"), []⟩ ⟨some (.literal widestElements, "x"), []⟩
    bounded built (by rw [Expr.eval]) rfl rfl
  exact ⟨counted, walked, built, unwound.2⟩

end GraphProtocol.Literal
