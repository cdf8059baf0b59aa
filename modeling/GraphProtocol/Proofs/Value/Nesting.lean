import Mathlib.Tactic
import GraphProtocol.Value.Basic

/-!
# How deep values nest

On the wire every list, map and structure opens a level, and so do the label list,
the property map and the element lists inside a graph entity. Two further things can
be asked of all of a value: whether the keys of every map are distinct, and whether
there is a leap second anywhere.
-/

set_option autoImplicit false

namespace GraphProtocol

/-! ## Levels -/

/-- The levels of something that opens one around parts with these levels. -/
def around (parts : List Nat) : Nat := parts.foldr max 0 + 1

theorem around_le {parts : List Nat} {levels : Nat} :
    around parts ≤ levels + 1 ↔ ∀ part ∈ parts, part ≤ levels := by
  unfold around
  rw [Nat.add_le_add_iff_right]
  induction parts with
  | nil => simp
  | cons part rest ih => simp [ih]

theorem around_pos (parts : List Nat) : 0 < around parts := Nat.succ_pos _

theorem around_within {parts : List Nat} {levels : Nat} (within : around parts ≤ levels) :
    ∃ below, levels = below + 1 := by
  have pos := around_pos parts
  exact ⟨levels - 1, by omega⟩

theorem around_twice {parts inner : List Nat} {levels : Nat} (among : around inner ∈ parts)
    (within : around parts ≤ levels) : ∃ below, levels = below + 2 := by
  obtain ⟨below, rfl⟩ := around_within within
  obtain ⟨deeper, rfl⟩ := around_within (around_le.mp within _ among)
  exact ⟨deeper, rfl⟩

namespace Wire

def dictNesting {α : Type} (d : Dict α) (nesting : (x : α) → x ∈ d.values → Nat) : Nat :=
  around (d.values.attach.map fun ⟨x, h⟩ => nesting x h)

def nodeNesting {α : Type} (n : Node α) (nesting : (x : α) → x ∈ n.properties.values → Nat) : Nat :=
  around [0, around (n.labels.map fun _ => 0), dictNesting n.properties nesting]

def unboundNesting {α : Type} (r : UnboundRelationship α)
    (nesting : (x : α) → x ∈ r.properties.values → Nat) : Nat :=
  around [0, 0, dictNesting r.properties nesting]

end Wire

open Wire

def Value.nesting (v : Value) : Nat :=
  match v with
  | .null | .boolean _ | .integer _ | .float _ | .string _ | .bytes _ => 0
  | .list items => around (items.attach.map fun ⟨x, h⟩ =>
      have := Value.sizeOf_lt_of_mem_children (v := .list items) h
      x.nesting)
  | .map d => dictNesting d fun x h =>
      have := Value.sizeOf_lt_of_mem_children (v := .map d) h
      x.nesting
  | .node n => nodeNesting n fun x h =>
      have := Value.sizeOf_lt_of_mem_children (v := .node n) h
      x.nesting
  | .relationship r => around [0, 0, 0, 0, dictNesting r.properties fun x h =>
      have := Value.sizeOf_lt_of_mem_children (v := .relationship r) h
      x.nesting]
  | .unboundRelationship r => unboundNesting r fun x h =>
      have := Value.sizeOf_lt_of_mem_children (v := .unboundRelationship r) h
      x.nesting
  | .path p => around [
      around (p.nodes.attach.map fun ⟨n, hn⟩ => nodeNesting n fun x h =>
        have := Value.sizeOf_lt_of_mem_children (v := .path p)
          (List.mem_append_left _ (List.mem_flatMap.2 ⟨n, hn, h⟩))
        x.nesting),
      around (p.relationships.attach.map fun ⟨r, hr⟩ => unboundNesting r fun x h =>
        have := Value.sizeOf_lt_of_mem_children (v := .path p)
          (List.mem_append_right _ (List.mem_flatMap.2 ⟨r, hr, h⟩))
        x.nesting),
      around (p.indices.map fun _ => 0)]
  | .point2D _ | .point3D _ | .date _ | .time _ | .localTime _ | .localDateTime _ | .dateTime _
  | .zonedDateTime _ | .duration _ => around []
termination_by sizeOf v
decreasing_by all_goals assumption

def ValueType.opensLevel : ValueType → Bool
  | .null | .boolean | .integer | .float | .string | .bytes => false
  | _ => true

/-! ## Levels of each shape -/

section Shapes

variable {levels : Nat}

theorem dictNesting_le {α : Type} {d : Dict α} {nesting : α → Nat} :
    dictNesting d (fun x _ => nesting x) ≤ levels + 1 ↔ ∀ x ∈ d.values, nesting x ≤ levels := by
  simp [dictNesting, around_le]

theorem nodeNesting_le {α : Type} {n : Node α} {nesting : α → Nat} :
    nodeNesting n (fun x _ => nesting x) ≤ levels + 2 ↔
      ∀ x ∈ n.properties.values, nesting x ≤ levels := by
  simp [nodeNesting, around_le, dictNesting_le]

theorem unboundNesting_le {α : Type} {r : UnboundRelationship α} {nesting : α → Nat} :
    unboundNesting r (fun x _ => nesting x) ≤ levels + 2 ↔
      ∀ x ∈ r.properties.values, nesting x ≤ levels := by
  simp [unboundNesting, around_le, dictNesting_le]

namespace Value

attribute [local simp] nesting

theorem nesting_list_le {items : List Value} :
    (list items).nesting ≤ levels + 1 ↔ ∀ x ∈ items, x.nesting ≤ levels := by
  simp [around_le]

theorem nesting_map_le {d : Dict Value} :
    (map d).nesting ≤ levels + 1 ↔ ∀ x ∈ d.values, x.nesting ≤ levels := by
  rw [nesting]
  exact dictNesting_le

theorem nesting_node_le {n : Node Value} :
    (node n).nesting ≤ levels + 2 ↔ ∀ x ∈ n.properties.values, x.nesting ≤ levels := by
  rw [nesting]
  exact nodeNesting_le

theorem nesting_relationship_le {r : Relationship Value} :
    (relationship r).nesting ≤ levels + 2 ↔ ∀ x ∈ r.properties.values, x.nesting ≤ levels := by
  simp [around_le, dictNesting_le]

theorem nesting_unbound_le {r : UnboundRelationship Value} :
    (unboundRelationship r).nesting ≤ levels + 2 ↔
      ∀ x ∈ r.properties.values, x.nesting ≤ levels := by
  rw [nesting]
  exact unboundNesting_le

theorem nesting_path_le {p : Path Value} :
    (path p).nesting ≤ levels + 2 ↔
      (∀ n ∈ p.nodes, (node n).nesting ≤ levels) ∧
      (∀ r ∈ p.relationships, (unboundRelationship r).nesting ≤ levels) := by
  simp [around_le]

theorem level_within {v : Value} (within : v.nesting ≤ levels) (opens : v.type.opensLevel = true) :
    ∃ below, levels = below + 1 := by
  cases v with
  | null | boolean | integer | float | string | bytes => cases opens
  | _ =>
    rw [nesting] at within
    exact around_within within

theorem entity_within {v : Value} (within : v.nesting ≤ levels)
    (entity : v.type = .node ∨ v.type = .relationship ∨ v.type = .unboundRelationship ∨
      v.type = .path) : ∃ below, levels = below + 2 := by
  cases v with
  | node n =>
    rw [nesting] at within
    exact around_twice (List.mem_cons_of_mem _ List.mem_cons_self) within
  | relationship r =>
    rw [nesting] at within
    exact around_twice (List.mem_of_getElem? (i := 4) rfl) within
  | unboundRelationship r =>
    rw [nesting] at within
    exact around_twice (List.mem_of_getElem? (i := 2) rfl) within
  | path p =>
    rw [nesting] at within
    exact around_twice List.mem_cons_self within
  | _ => simp [type] at entity

end Value

end Shapes

/-! ## What holds everywhere in a value -/

namespace Value

def everywhere (test : Value → Bool) (v : Value) : Bool :=
  test v && v.children.attach.all fun ⟨child, _⟩ => child.everywhere test
termination_by sizeOf v
decreasing_by exact sizeOf_lt_of_mem_children ‹_›

theorem everywhere_iff {test : Value → Bool} {v : Value} :
    v.everywhere test = true ↔
      test v = true ∧ ∀ child ∈ v.children, child.everywhere test = true := by
  rw [everywhere]
  simp

def dicts : Value → List (Dict Value)
  | map d => [d]
  | node n => [n.properties]
  | relationship r => [r.properties]
  | unboundRelationship r => [r.properties]
  | path p => p.nodes.map (·.properties) ++ p.relationships.map (·.properties)
  | _ => []

def hasDistinctKeys (v : Value) : Bool :=
  v.everywhere fun part => part.dicts.all fun d => decide d.DistinctKeys

theorem distinct_iff {v : Value} : v.hasDistinctKeys = true ↔ (∀ d ∈ v.dicts, d.DistinctKeys) ∧
    ∀ child ∈ v.children, child.hasDistinctKeys = true := by
  unfold hasDistinctKeys
  rw [everywhere_iff]
  simp only [List.all_eq_true, decide_eq_true_eq]

def nanos? : Value → Option Nat
  | time t => some t.time.nanos
  | localTime t => some t.nanos
  | localDateTime t => some t.nanos
  | dateTime t => some t.utc.nanos
  | zonedDateTime t => some t.wall.nanos
  | _ => none

def lacksLeapSeconds (v : Value) : Bool :=
  v.everywhere fun part => part.nanos?.all (· < Calendar.nanosPerSecond)

structure IsRegular (v : Value) : Prop where
  distinct : v.hasDistinctKeys = true
  unleaping : v.lacksLeapSeconds = true

theorem regular_iff {v : Value} : v.IsRegular ↔ (∀ d ∈ v.dicts, d.DistinctKeys) ∧
    (∀ nanos, v.nanos? = some nanos → nanos < Calendar.nanosPerSecond) ∧
    ∀ child ∈ v.children, child.IsRegular := by
  have times : v.nanos?.all (· < Calendar.nanosPerSecond) = true ↔
      ∀ nanos, v.nanos? = some nanos → nanos < Calendar.nanosPerSecond := by
    cases v.nanos? <;> simp
  constructor
  · rintro ⟨distinct, unleaping⟩
    obtain ⟨keys, distinct⟩ := distinct_iff.mp distinct
    obtain ⟨whole, unleaping⟩ := everywhere_iff.mp unleaping
    exact ⟨keys, times.mp whole, fun child among => ⟨distinct child among, unleaping child among⟩⟩
  · rintro ⟨keys, whole, regular⟩
    constructor
    · exact distinct_iff.mpr ⟨keys, fun child among => (regular child among).distinct⟩
    · exact everywhere_iff.mpr ⟨times.mpr whole, fun child among => (regular child among).unleaping⟩

/-- Values are reached from the values inside them. -/
theorem child_induction {motive : Value → Prop}
    (step : ∀ v, (∀ child ∈ v.children, motive child) → motive v) (v : Value) : motive v := by
  induction size : sizeOf v using Nat.strong_induction_on generalizing v with
  | _ n ih =>
    subst size
    apply step
    intro child among
    exact ih _ (sizeOf_lt_of_mem_children among) child rfl

end Value

end GraphProtocol
