import GraphProtocol.Value.Basic

/-!
# Equality of values

Two maps are equal when they hold equal values under the same keys, whatever
the order. Numbers with a fraction are compared as numbers, so a value that
holds a not-a-number differs from itself. Date-times are equal when they are
the same instant.
-/

set_option autoImplicit false

namespace GraphProtocol

def sameList {α β : Type} (xs : List α) (ys : List β)
    (same : (x : α) → x ∈ xs → (y : β) → y ∈ ys → Bool) : Bool :=
  xs.length == ys.length &&
    (xs.attach.zip ys.attach).all fun (⟨x, h⟩, ⟨y, h'⟩) => same x h y h'

/-- Dictionaries of one size such that every entry of the first is found in the second. The value
that is found is compared with the one that was looked for. -/
def Dict.sameEntries {α : Type} (a b : Dict α)
    (same : (y : α) → y ∈ b.values → (x : α) → x ∈ a.values → Bool) : Bool :=
  let table := b.table
  a.size == b.size && a.entries.attach.all fun ⟨(key, x), h⟩ =>
    match h' : table[key]? with
    | some y => same y (Dict.values_of_get ((b.getElem?_table key).symm.trans h')) x
      (Dict.mem_values h)
    | none => false

namespace Value

def samePoint2D (a b : Point2D) : Bool :=
  a.srid == b.srid && a.x.sameNumber b.x && a.y.sameNumber b.y

def samePoint3D (a b : Point3D) : Bool :=
  a.srid == b.srid && a.x.sameNumber b.x && a.y.sameNumber b.y && a.z.sameNumber b.z

def same (v w : Value) : Bool :=
  match v, w with
  | null, null => true
  | boolean a, boolean b => a == b
  | integer a, integer b => a == b
  | float a, float b => a.sameNumber b
  | string a, string b => a == b
  | bytes a, bytes b => a == b
  | list a, list b => sameList a b fun x h y h' =>
      have := sizeOf_lt_of_mem_children (v := .list a) h
      have := sizeOf_lt_of_mem_children (v := .list b) h'
      same x y
  | map a, map b => a.sameEntries b fun y h' x h =>
      have := sizeOf_lt_of_mem_children (v := .map a) h
      have := sizeOf_lt_of_mem_children (v := .map b) h'
      same y x
  | node a, node b =>
    a.id == b.id && a.labels == b.labels &&
      a.properties.sameEntries b.properties fun y h' x h =>
        have := sizeOf_lt_of_mem_children (v := .node a) h
        have := sizeOf_lt_of_mem_children (v := .node b) h'
        same y x
  | relationship a, relationship b =>
    a.id == b.id && a.startNode == b.startNode && a.endNode == b.endNode && a.type == b.type &&
      a.properties.sameEntries b.properties fun y h' x h =>
        have := sizeOf_lt_of_mem_children (v := .relationship a) h
        have := sizeOf_lt_of_mem_children (v := .relationship b) h'
        same y x
  | unboundRelationship a, unboundRelationship b =>
    a.id == b.id && a.type == b.type &&
      a.properties.sameEntries b.properties fun y h' x h =>
        have := sizeOf_lt_of_mem_children (v := .unboundRelationship a) h
        have := sizeOf_lt_of_mem_children (v := .unboundRelationship b) h'
        same y x
  | path a, path b =>
    sameList a.nodes b.nodes (fun n hn m hm =>
      n.id == m.id && n.labels == m.labels &&
        n.properties.sameEntries m.properties fun y h' x h =>
          have := sizeOf_lt_of_mem_children (v := .path a)
            (List.mem_append_left _ (List.mem_flatMap.2 ⟨n, hn, h⟩))
          have := sizeOf_lt_of_mem_children (v := .path b)
            (List.mem_append_left _ (List.mem_flatMap.2 ⟨m, hm, h'⟩))
          same y x) &&
    sameList a.relationships b.relationships (fun r hr s hs =>
      r.id == s.id && r.type == s.type &&
        r.properties.sameEntries s.properties fun y h' x h =>
          have := sizeOf_lt_of_mem_children (v := .path a)
            (List.mem_append_right _ (List.mem_flatMap.2 ⟨r, hr, h⟩))
          have := sizeOf_lt_of_mem_children (v := .path b)
            (List.mem_append_right _ (List.mem_flatMap.2 ⟨s, hs, h'⟩))
          same y x) &&
    a.indices == b.indices
  | point2D a, point2D b => samePoint2D a b
  | point3D a, point3D b => samePoint3D a b
  | date a, date b => a == b
  | time a, time b => a == b
  | localTime a, localTime b => a == b
  | localDateTime a, localDateTime b => a == b
  | dateTime a, dateTime b => a.sameInstant b
  | zonedDateTime a, zonedDateTime b => a == b
  | duration a, duration b => a == b
  | _, _ => false
termination_by sizeOf v + sizeOf w
decreasing_by all_goals omega

instance : BEq Value := ⟨same⟩

end Value

def Dict.same (a b : Dict Value) : Bool := a.sameEntries b fun y _ x _ => y.same x

end GraphProtocol
