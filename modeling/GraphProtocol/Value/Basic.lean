import GraphProtocol.Dict
import GraphProtocol.Binary64.Basic
import GraphProtocol.Calendar.Time

/-!
# Values

Everything that can travel inside a message: plain data, graph entities, points
and calendar values. The parts of a value that are values themselves are its
children, and statements about all of a value go through them.
-/

set_option autoImplicit false

namespace GraphProtocol

structure Node (α : Type) where
  id : Int64
  labels : List String
  properties : Dict α
  deriving DecidableEq, Repr

structure Relationship (α : Type) where
  id : Int64
  startNode : Int64
  endNode : Int64
  type : String
  properties : Dict α
  deriving DecidableEq, Repr

/-- A relationship inside a path, whose ends the path gives. -/
structure UnboundRelationship (α : Type) where
  id : Int64
  type : String
  properties : Dict α
  deriving DecidableEq, Repr

/-- A walk through nodes and relationships: pairs of a relationship index, counted from one
and negative against its direction, and a node index. -/
structure Path (α : Type) where
  nodes : List (Node α)
  relationships : List (UnboundRelationship α)
  indices : List Int64
  deriving DecidableEq, Repr

structure Point2D where
  srid : Int64
  x : Binary64
  y : Binary64
  deriving DecidableEq, Repr

structure Point3D where
  srid : Int64
  x : Binary64
  y : Binary64
  z : Binary64
  deriving DecidableEq, Repr

inductive Value where
  | null
  | boolean (b : Bool)
  | integer (i : Int64)
  | float (x : Binary64)
  | string (s : String)
  | bytes (bs : List UInt8)
  | list (items : List Value)
  | map (entries : Dict Value)
  | node (node : Node Value)
  | relationship (rel : Relationship Value)
  | unboundRelationship (rel : UnboundRelationship Value)
  | path (path : Path Value)
  | point2D (p : Point2D)
  | point3D (p : Point3D)
  | date (d : Calendar.Date)
  | time (t : Calendar.OffsetTime)
  | localTime (t : Calendar.TimeOfDay)
  | localDateTime (t : Calendar.LocalDateTime)
  | dateTime (t : Calendar.DateTime)
  | zonedDateTime (t : Calendar.ZonedDateTime)
  | duration (d : Calendar.Duration)
  deriving Inhabited

inductive ValueType where
  | null | boolean | integer | float | string | bytes | list | map
  | node | relationship | unboundRelationship | path
  | point2D | point3D
  | date | time | localTime | localDateTime | dateTime | zonedDateTime | duration
  deriving DecidableEq, Repr

def ValueType.name : ValueType → String
  | .null => "Null"
  | .boolean => "Boolean"
  | .integer => "Integer"
  | .float => "Float"
  | .string => "String"
  | .bytes => "Bytes"
  | .list => "List"
  | .map => "Map"
  | .node => "Node"
  | .relationship => "Relationship"
  | .unboundRelationship => "UnboundRelationship"
  | .path => "Path"
  | .point2D => "Point2D"
  | .point3D => "Point3D"
  | .date => "Date"
  | .time => "Time"
  | .localTime => "LocalTime"
  | .localDateTime => "LocalDateTime"
  | .dateTime => "DateTime"
  | .zonedDateTime => "DateTimeZoneId"
  | .duration => "Duration"

def ValueType.isExtended : ValueType → Bool
  | .bytes | .point2D | .point3D | .date | .time | .localTime | .localDateTime | .dateTime
  | .zonedDateTime | .duration => true
  | _ => false

namespace Value

def type : Value → ValueType
  | null => .null
  | boolean _ => .boolean
  | integer _ => .integer
  | float _ => .float
  | string _ => .string
  | bytes _ => .bytes
  | list _ => .list
  | map _ => .map
  | node _ => .node
  | relationship _ => .relationship
  | unboundRelationship _ => .unboundRelationship
  | path _ => .path
  | point2D _ => .point2D
  | point3D _ => .point3D
  | date _ => .date
  | time _ => .time
  | localTime _ => .localTime
  | localDateTime _ => .localDateTime
  | dateTime _ => .dateTime
  | zonedDateTime _ => .zonedDateTime
  | duration _ => .duration

def children : Value → List Value
  | list items => items
  | map entries => entries.values
  | node n => n.properties.values
  | relationship r => r.properties.values
  | unboundRelationship r => r.properties.values
  | path p => p.nodes.flatMap (·.properties.values) ++
      p.relationships.flatMap (·.properties.values)
  | _ => []

theorem sizeOf_lt_of_mem_values {d : Dict Value} {v : Value} (h : v ∈ d.values) :
    sizeOf v < sizeOf d := by
  obtain ⟨entry, hentry, rfl⟩ := List.mem_map.1 h
  exact Dict.sizeOf_lt_of_mem hentry

/-- A child is smaller than the value it stands in. -/
theorem sizeOf_lt_of_mem_children {v child : Value} (h : child ∈ v.children) :
    sizeOf child < sizeOf v := by
  cases v with
  | list items => have := List.sizeOf_lt_of_mem (show child ∈ items from h); simp; omega
  | map entries => have := sizeOf_lt_of_mem_values h; simp; omega
  | node n => have := sizeOf_lt_of_mem_values h; cases n; simp at *; omega
  | relationship r => have := sizeOf_lt_of_mem_values h; cases r; simp at *; omega
  | unboundRelationship r => have := sizeOf_lt_of_mem_values h; cases r; simp at *; omega
  | path p =>
    rcases List.mem_append.1 h with h | h <;>
      obtain ⟨part, hpart, hv⟩ := List.mem_flatMap.1 h <;>
      have hlt := sizeOf_lt_of_mem_values hv <;>
      have hmem := List.sizeOf_lt_of_mem hpart <;>
      cases p <;> cases part <;> simp at * <;> omega
  | _ => simp [children] at h

def isPrimitive : Value → Bool
  | null | boolean _ | integer _ | float _ | string _ => true
  | list items => items.attach.all fun ⟨item, _⟩ => item.isPrimitive
  | map entries => entries.values.attach.all fun ⟨value, _⟩ => value.isPrimitive
  | _ => false
termination_by v => sizeOf v
decreasing_by
  · exact sizeOf_lt_of_mem_children (v := .list items) ‹_›
  · exact sizeOf_lt_of_mem_children (v := .map entries) ‹_›

def requiresExtended (v : Value) : Bool :=
  v.type.isExtended || v.children.attach.any fun ⟨child, _⟩ => child.requiresExtended
termination_by sizeOf v
decreasing_by exact sizeOf_lt_of_mem_children ‹_›

def isNull : Value → Bool
  | null => true
  | _ => false

def asBoolean? : Value → Option Bool
  | boolean b => some b
  | _ => none

def asInteger? : Value → Option Int64
  | integer i => some i
  | _ => none

def asFloat? : Value → Option Binary64
  | float x => some x
  | _ => none

def asString? : Value → Option String
  | string s => some s
  | _ => none

def asList? : Value → Option (List Value)
  | list items => some items
  | _ => none

def asMap? : Value → Option (Dict Value)
  | map entries => some entries
  | _ => none

end Value

def Dict.firstComplex? (d : Dict Value) : Option (String × Value) :=
  d.entries.find? fun entry => !entry.2.isPrimitive

end GraphProtocol
