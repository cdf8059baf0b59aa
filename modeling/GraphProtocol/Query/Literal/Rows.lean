import GraphProtocol.Query.Literal.Plan
import GraphProtocol.Query.Literal.Range

/-!
# The rows of a plan

Expressions have values once the parameters and the bound name are known. A plan
that unwinds a list has one row for each element; the elements of a range are
made as they are needed. A plan that unwinds nothing has a single row.
-/

set_option autoImplicit false

namespace GraphProtocol.Literal

structure Scope where
  parameters : Dict Value
  /-- The bound name and its value. -/
  binding : Option (String × Value)

mutual

def Expr.eval (scope : Scope) : Expr → Except QueryFault Value
  | .literal v => .ok v
  | .parameter name =>
    match scope.parameters.get? name with
    | some v => .ok v
    | none => .error (.missingParameters [name])
  | .variable name =>
    match scope.binding with
    | some (bound, v) => if bound = name then .ok v else .error (.undefinedVariable name)
    | none => .error (.undefinedVariable name)
  | .list items => do return .list (← evalAll scope items)
  | .range arguments => do (← Range.ofArguments (← evalIntegers scope arguments)).toValue

def evalAll (scope : Scope) : List Expr → Except QueryFault (List Value)
  | [] => .ok []
  | e :: rest => do
    let v ← e.eval scope
    return v :: (← evalAll scope rest)

def evalIntegers (scope : Scope) : List Expr → Except QueryFault (List Int64)
  | [] => .ok []
  | e :: rest => do
    match ← e.eval scope with
    | .integer n => return n :: (← evalIntegers scope rest)
    | other => throw (.rangeType other.type)

end

inductive Rows where
  /-- One row with nothing bound. -/
  | once
  /-- A row for each element of a range. -/
  | range (cursor : Range.Cursor)
  /-- A row for each value. -/
  | values (values : List Value)

def Rows.next? : Rows → Option (Option Value × Rows)
  | .once => some (none, .values [])
  | .range cursor => cursor.next?.map fun (n, cursor) => (some (.integer n), .range cursor)
  | .values [] => none
  | .values (v :: rest) => some (some v, .values rest)

namespace Plan

def rows (p : Plan) (parameters : Dict Value) : Except QueryFault Rows :=
  let scope : Scope := ⟨parameters, none⟩
  match p.unwind with
  | none => .ok .once
  | some (.range arguments, _) => do
    return .range (← Range.ofArguments (← evalIntegers scope arguments)).cursor
  | some (e, _) => do
    match ← e.eval scope with
    | .null => return .values []
    | .list items => return .values items
    | other => return .values [other]

def record (p : Plan) (parameters : Dict Value) (row : Option Value) :
    Except QueryFault (List Value) :=
  let binding : Option (String × Value) := do return (← p.boundName, ← row)
  evalAll ⟨parameters, binding⟩ (p.items.map (·.1))

end Plan

end GraphProtocol.Literal
