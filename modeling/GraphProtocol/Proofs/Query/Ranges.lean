import Mathlib
import GraphProtocol.Query.Literal.Range

/-!
# Walking a range

A range has as many elements as steps fit between its bounds, and a walk along it gives these
elements in order. A sum that no 64-bit integer can hold only comes up behind the last of them.
-/

set_option autoImplicit false

namespace GraphProtocol.Literal.Range

variable {r : Range} {k : Nat}

def place (r : Range) (k : Nat) : Int := r.start.toInt + k * r.step.toInt

theorem step_toInt_ne (r : Range) : r.step.toInt ≠ 0 := by
  intro zero
  exact r.step_ne (Int64.toInt_inj.mp zero)

theorem lt_steps {span step : Int} (ahead : 0 ≤ span) (forward : 0 < step) :
    k < (span.tdiv step + 1).toNat ↔ k * step ≤ span := by
  rw [Int.tdiv_eq_ediv_of_nonneg ahead, Int.lt_toNat, Int.lt_add_one_iff,
    Int.le_ediv_iff_mul_le forward]

/-- An element is counted if it does not lie beyond the last bound. -/
theorem lt_count : k < r.count ↔
    if 0 < r.step then r.place k ≤ r.stop.toInt else r.stop.toInt ≤ r.place k := by
  have apart := r.step_toInt_ne
  simp only [count, place, Int64.lt_iff_toInt_lt, Int64.toInt_zero]
  rcases lt_or_gt_of_ne apart with down | up
  · have steps : k * r.step.toInt ≤ 0 := Int.mul_nonpos_of_nonneg_of_nonpos (by omega) down.le
    have turned : (r.stop.toInt - r.start.toInt).tdiv r.step.toInt =
        (r.start.toInt - r.stop.toInt).tdiv (-r.step.toInt) := by
      rw [← Int.neg_tdiv_neg, Int.neg_sub]
    rw [if_neg (by omega : ¬ 0 < r.step.toInt)]
    split
    · omega
    · rw [turned, lt_steps (by omega) (by omega), Int.mul_neg]
      omega
  · have steps : 0 ≤ k * r.step.toInt := Int.mul_nonneg (by omega) up.le
    rw [if_pos up]
    split
    · omega
    · rw [lt_steps (by omega) up]
      omega

/-- What is counted lies between the bounds. -/
theorem place_bounds (counted : k < r.count) :
    Int64.minValue.toInt ≤ r.place k ∧ r.place k ≤ Int64.maxValue.toInt := by
  have reached := lt_count.mp counted
  have low : Int64.minValue.toInt ≤ r.start.toInt ∧ Int64.minValue.toInt ≤ r.stop.toInt :=
    ⟨Int64.minValue_le_toInt _, Int64.minValue_le_toInt _⟩
  have high : r.start.toInt ≤ Int64.maxValue.toInt ∧ r.stop.toInt ≤ Int64.maxValue.toInt :=
    ⟨Int64.toInt_le _, Int64.toInt_le _⟩
  simp only [place, Int64.lt_iff_toInt_lt, Int64.toInt_zero] at reached ⊢
  split at reached
  next up =>
    have steps : 0 ≤ k * r.step.toInt := Int.mul_nonneg (by omega) up.le
    omega
  next down =>
    have steps : k * r.step.toInt ≤ 0 :=
      Int.mul_nonpos_of_nonneg_of_nonpos (by omega) (by omega)
    omega

namespace Cursor

/-- Whether a walk gives these elements one after another, and then no more. -/
inductive Gives : Cursor → List Int64 → Prop
  | stopped {c : Cursor} : c.next? = none → c.Gives []
  | further {c rest : Cursor} {n : Int64} {elements : List Int64} : c.next? = some (n, rest) →
      rest.Gives elements → c.Gives (n :: elements)

variable {c : Cursor}

structure IsAt (c : Cursor) (r : Range) (k : Nat) : Prop where
  range : c.range = r
  going : c.finished = false
  next : c.next.toInt = r.place k

theorem IsAt.inside (here : c.IsAt r k) : c.isInside = true ↔ k < r.count := by
  rw [lt_count, ← here.next, isInside, here.range]
  split <;> simp [Int64.le_iff_toInt_le]

theorem sum?_none {a b : Int64} (given : sum? a b = none) :
    ¬ (Int64.minValue.toInt ≤ a.toInt + b.toInt ∧ a.toInt + b.toInt ≤ Int64.maxValue.toInt) := by
  unfold sum? at given
  dsimp only at given
  split at given
  · cases given
  · assumption

/-- The elements from a place on are given, however many are left. -/
theorem IsAt.gives {left : Nat} (here : c.IsAt r k) (counted : k + left = r.count) :
    c.Gives ((List.range' k left).map fun i => Int64.ofInt (r.place i)) := by
  induction left generalizing c k with
  | zero =>
    have outside : c.isInside = false := by
      rw [← Bool.not_eq_true, here.inside]
      omega
    exact .stopped (by simp [next?, outside])
  | succ left ih =>
    have inside : c.isInside = true := here.inside.mpr (by omega)
    have element : Int64.ofInt (r.place k) = c.next := by
      rw [← here.next, Int64.ofInt_toInt]
    have place : r.place (k + 1) = c.next.toInt + r.step.toInt := by
      rw [here.next]
      simp only [Range.place]
      push_cast
      ring
    rw [List.range'_succ, List.map_cons, element]
    cases summed : sum? c.next c.range.step with
    | some n =>
      have next : c.next? = some (c.next, { c with next := n }) := by
        simp [next?, here.going, inside, summed]
      have there : IsAt { c with next := n } r (k + 1) := by
        refine ⟨here.range, here.going, ?_⟩
        rw [place, sum?_some summed, here.range]
      exact .further next (ih there (by omega))
    | none =>
      have next : c.next? = some (c.next, { c with finished := true }) := by
        simp [next?, here.going, inside, summed]
      have last : left = 0 := by
        by_contra more
        have within := place_bounds (show k + 1 < r.count by omega)
        rw [place, ← here.range] at within
        exact sum?_none summed within
      subst last
      exact .further next (.stopped (by simp [next?]))

end Cursor

/-- What is collected is what is given one by one. -/
theorem Cursor.collect_toList {c : Cursor} {elements : List Int64} (gives : c.Gives elements)
    (early : Array Int64) : (c.collect early).toList = early.toList ++ elements := by
  induction gives generalizing early with
  | stopped ends =>
    rw [collect, ends, List.append_nil]
  | further next _ ih =>
    rw [collect, next]
    dsimp only
    rw [ih, Array.toList_push, List.append_assoc, List.singleton_append]

theorem cursor_isAt (r : Range) : r.cursor.IsAt r 0 := ⟨rfl, rfl, by simp [place, cursor]⟩

/-- There are as many elements as are counted, each a step behind the one before. -/
theorem toList_eq (r : Range) :
    r.toList = (List.range r.count).map fun k => Int64.ofInt (r.place k) := by
  rw [toList, Cursor.collect_toList (r.cursor_isAt.gives (Nat.zero_add _)),
    List.range_eq_range']
  rfl

/-- A walk along a range gives its elements. -/
theorem cursor_gives (r : Range) : r.cursor.Gives r.toList := by
  rw [toList_eq, List.range_eq_range']
  exact r.cursor_isAt.gives (Nat.zero_add r.count)

end GraphProtocol.Literal.Range
