import GraphProtocol.Query.Literal.Fault

/-!
# Ranges of integers

A range runs from its first bound to its last in equal steps, both bounds
included where the steps meet them. It can be walked one element at a time or
built as a list; walking stops before an element would leave the signed 64-bit
integers.
-/

set_option autoImplicit false

namespace GraphProtocol.Literal

structure Range where
  start : Int64
  stop : Int64
  step : Int64
  step_ne : step ≠ 0

namespace Range

def ofArguments : List Int64 → Except QueryFault Range
  | [start, stop] => .ok ⟨start, stop, 1, by decide⟩
  | [start, stop, step] =>
    if h : step = 0 then .error .rangeStepZero else .ok ⟨start, stop, step, h⟩
  | _ => .error .rangeArity

def count (r : Range) : Nat :=
  if (0 < r.step ∧ r.stop < r.start) ∨ (r.step < 0 ∧ r.start < r.stop) then 0
  else ((r.stop.toInt - r.start.toInt).tdiv r.step.toInt + 1).toNat

def maxListLength : Nat := 1000000

structure Cursor where
  range : Range
  next : Int64
  /-- Whether the element after the last one given would be too large or too small. -/
  finished : Bool

def cursor (r : Range) : Cursor := ⟨r, r.start, false⟩

namespace Cursor

def isInside (c : Cursor) : Bool :=
  if 0 < c.range.step then c.next ≤ c.range.stop else c.range.stop ≤ c.next

def sum? (a b : Int64) : Option Int64 :=
  let sum := a.toInt + b.toInt
  if Int64.minValue.toInt ≤ sum ∧ sum ≤ Int64.maxValue.toInt then some (Int64.ofInt sum) else none

def next? (c : Cursor) : Option (Int64 × Cursor) :=
  if c.finished || !c.isInside then none
  else
    match sum? c.next c.range.step with
    | some next => some (c.next, { c with next })
    | none => some (c.next, { c with finished := true })

def gap (c : Cursor) : Int :=
  if 0 < c.range.step then c.range.stop.toInt - c.next.toInt
  else c.next.toInt - c.range.stop.toInt

def ahead (c : Cursor) : Nat := if c.finished then 0 else (c.gap + 1).toNat

theorem isInside_iff (c : Cursor) : c.isInside = true ↔ 0 ≤ c.gap := by
  unfold isInside gap
  split <;> simp only [decide_eq_true_eq, Int64.le_iff_toInt_le] <;> omega

theorem sum?_some {a b n : Int64} (given : sum? a b = some n) : n.toInt = a.toInt + b.toInt := by
  unfold sum? at given
  dsimp only at given
  split at given
  next within =>
    cases given
    exact Int64.toInt_ofInt_of_le within.1 (Int.lt_add_one_of_le within.2)
  · cases given

theorem gap_next {c : Cursor} {n : Int64} (summed : sum? c.next c.range.step = some n) :
    gap { c with next := n } < c.gap := by
  have apart : c.range.step.toInt ≠ 0 := fun zero => c.range.step_ne (Int64.toInt_inj.mp zero)
  have sum := sum?_some summed
  simp only [gap, Int64.lt_iff_toInt_lt, Int64.toInt_zero]
  split <;> omega

theorem ahead_next {c rest : Cursor} {n : Int64} (given : c.next? = some (n, rest)) :
    rest.ahead < c.ahead := by
  unfold next? at given
  split at given
  · cases given
  next inward =>
    obtain ⟨going, inside⟩ : c.finished = false ∧ c.isInside = true := by simpa using inward
    have reached := (isInside_iff c).mp inside
    cases summed : sum? c.next c.range.step with
    | some m =>
      have nearer := gap_next summed
      simp only [summed, Option.some.injEq, Prod.mk.injEq] at given
      obtain ⟨-, rfl⟩ := given
      simp only [ahead, going, Bool.false_eq_true, if_false] at nearer ⊢
      omega
    | none =>
      simp only [summed, Option.some.injEq, Prod.mk.injEq] at given
      obtain ⟨-, rfl⟩ := given
      simp only [ahead, going, Bool.false_eq_true, if_false, if_true]
      omega

def collect (c : Cursor) (elements : Array Int64) : Array Int64 :=
  match _given : c.next? with
  | none => elements
  | some (n, rest) => rest.collect (elements.push n)
termination_by c.ahead
decreasing_by exact ahead_next _given

end Cursor

def toList (r : Range) : List Int64 := (r.cursor.collect #[]).toList

def toValue (r : Range) : Except QueryFault Value :=
  if r.count ≤ maxListLength then .ok (.list (r.toList.map .integer))
  else .error (.rangeTooLarge r.count)

end Range

end GraphProtocol.Literal
