import GraphProtocol.Wire.Bytes
import GraphProtocol.Wire.Marker

/-!
# Reading values

A reader consumes bytes from the front of what is left of a message, and tells
where it stopped also when it fails. Lists, maps and structures may nest
thirty-two deep. The depth counter is raised on entry; a list or map that fails
inside leaves it raised, a structure lowers it again in every case. A size is
compared with the bytes left before anything is read for it, so no more is
reserved than the message can hold.
-/

set_option autoImplicit false

namespace GraphProtocol

namespace Wire

def maxDepth : Nat := 32

/-- The bytes not yet read, and the depth counter. -/
structure Cursor where
  rest : List UInt8
  depth : Nat
  deriving DecidableEq, Repr

def Cursor.start (bytes : List UInt8) : Cursor := ⟨bytes, 0⟩

abbrev Reader := EStateM ProtocolError Cursor

namespace Reader

def malformed {α : Type} (cause : Malformation) : Reader α := throw (.malformed cause)

def take (count : Nat) : Reader (List UInt8) := fun cursor =>
  let taken := cursor.rest.take count
  if taken.length < count then .error (.truncated (count - taken.length)) cursor
  else .ok taken { cursor with rest := cursor.rest.drop count }

def byte : Reader UInt8 := fun cursor =>
  match cursor.rest with
  | b :: rest => .ok b { cursor with rest }
  | [] => .error (.truncated 1) cursor

def peek : Reader UInt8 := fun cursor =>
  match cursor.rest with
  | b :: _ => .ok b cursor
  | [] => .error (.truncated 1) cursor

def unsigned (width : Nat) : Reader Nat := do
  return ofBigEndian (← take width)

def signed (width : Nat) : Reader Int64 := do
  return Int64.ofInt (ofSignedBigEndian (← take width))

def extent : Extent → Reader Nat
  | .inline size => pure size
  | .following width => unsigned width

def require (count : Nat) : Reader Unit := fun cursor =>
  let available := (cursor.rest.take count).length
  if available < count then .error (.truncated (count - available)) cursor
  else .ok () cursor

def finish : Reader Unit := fun cursor =>
  match cursor.rest with
  | [] => .ok () cursor
  | rest => .error (.malformed (.trailingBytes rest.length)) cursor

def text (size : Nat) : Reader String := do
  match ofUtf8? (← take size) with
  | some s => return s
  | none => throw .invalidUtf8

def itemsOnto {α : Type} (read : Reader α) : Nat → List α → Reader (List α)
  | 0, done => pure done.reverse
  | count + 1, done => do
    let item ← read
    itemsOnto read count (item :: done)

def items {α : Type} (read : Reader α) (count : Nat) : Reader (List α) :=
  itemsOnto read count []

/-- Raises the depth counter, which fails beyond the limit, and goes on with a reader for the
values one level down. -/
def enter {α : Type} (inner : Option (Reader Value)) (body : Reader Value → Reader α) :
    Reader α := do
  modify fun cursor => { cursor with depth := cursor.depth + 1 }
  match inner with
  | none => throw (.depthExceeded maxDepth)
  | some read => body read

def leave : Reader Unit := modify fun cursor => { cursor with depth := cursor.depth - 1 }

def leaving {α : Type} (body : Reader α) : Reader α := fun cursor =>
  match body cursor with
  | .ok a cursor => .ok a { cursor with depth := cursor.depth - 1 }
  | .error e cursor => .error e { cursor with depth := cursor.depth - 1 }

def expecting {α : Type} (read : Reader Value) (expected : ValueType) (as? : Value → Option α) :
    Reader α := do
  let value ← read
  match as? value with
  | some a => return a
  | none => malformed (.unexpectedType expected value.type)

def integerBy (read : Reader Value) : Reader Int64 := expecting read .integer Value.asInteger?

def floatBy (read : Reader Value) : Reader Binary64 := expecting read .float Value.asFloat?

def stringBy (read : Reader Value) : Reader String := expecting read .string Value.asString?

def listBy (read : Reader Value) : Reader (List Value) := expecting read .list Value.asList?

def mapBy (read : Reader Value) : Reader (Dict Value) := expecting read .map Value.asMap?

def listOfBy {α : Type} (read : Reader Value) (convert : Value → Except Malformation α) :
    Reader (List α) := do
  let items ← listBy read
  match items.mapM convert with
  | .ok converted => return converted
  | .error cause => malformed cause

def listBody (inner : Option (Reader Value)) (size : Nat) : Reader (List Value) := do
  require size
  enter inner fun read => do
    let elements ← items read size
    leave
    return elements

def entry (read : Reader Value) : Reader (String × Value) := do
  match ← read with
  | .string key => return (key, ← read)
  | other => malformed (.keyNotString other.type)

def mapBody (inner : Option (Reader Value)) (size : Nat) : Reader (Dict Value) := do
  require (2 * size)
  enter inner fun read => do
    let entries ← items (entry read) size
    leave
    return Dict.ofList entries

def headerAfter (size : Extent) : Reader (Nat × UInt8) := do
  let fields ← extent size
  return (fields, ← byte)

def structureHeader : Reader (Nat × UInt8) := do
  let b ← byte
  match Marker.ofByte? b with
  | some (.structure size) => headerAfter size
  | _ => malformed (.expectedStructure b)

def nodeFields (read : Reader Value) : Reader (Node Value) := do
  let id ← integerBy read
  let labels ← listOfBy read fun
    | .string label => .ok label
    | other => .error (.labelNotString other.type)
  return ⟨id, labels, ← mapBy read⟩

def unboundFields (read : Reader Value) : Reader (UnboundRelationship Value) := do
  let id ← integerBy read
  let type ← stringBy read
  return ⟨id, type, ← mapBy read⟩

def relationshipFields (read : Reader Value) : Reader (Relationship Value) := do
  let id ← integerBy read
  let startNode ← integerBy read
  let endNode ← integerBy read
  let type ← stringBy read
  return ⟨id, startNode, endNode, type, ← mapBy read⟩

def pathFields (read : Reader Value) : Reader (Path Value) := do
  let nodes ← listOfBy read fun
    | .node n => .ok n
    | other => .error (.pathNode other.type)
  let relationships ← listOfBy read fun
    | .unboundRelationship r => .ok r
    | other => .error (.pathRelationship other.type)
  let indices ← listOfBy read fun
    | .integer i => .ok i
    | _ => .error .pathIndex
  return ⟨nodes, relationships, indices⟩

def orMalformed {α : Type} (value : Option α) (cause : Malformation) : Reader α :=
  match value with
  | some a => pure a
  | none => malformed cause

def dateOf (days : Int64) : Reader Calendar.Date :=
  orMalformed (Calendar.Date.ofDay? days.toInt) (.dateOutOfRange days.toInt)

def timeOf (nanos : Int64) : Reader Calendar.TimeOfDay :=
  orMalformed (Calendar.TimeOfDay.ofNanosOfDay? nanos.toInt) (.timeOfDayOutOfRange nanos.toInt)

def offsetOf (seconds : Int64) : Reader Calendar.Offset :=
  orMalformed (Calendar.Offset.ofSeconds? seconds.toInt) (.offsetOutOfRange seconds.toInt)

/-- A local date-time; leap seconds have no form on the wire. -/
def localDateTimeOf (second nanos : Int64) : Reader Calendar.LocalDateTime :=
  if 0 ≤ nanos.toInt ∧ nanos.toInt < Calendar.nanosPerSecond then
    orMalformed (Calendar.LocalDateTime.of? second.toInt nanos.toInt.toNat)
      (.epochSecondOutOfRange second.toInt)
  else malformed (.nanosOutOfRange nanos.toInt)

def fieldsOf (read : Reader Value) : StructureKind → Reader Value
  | .node => return .node (← nodeFields read)
  | .relationship => return .relationship (← relationshipFields read)
  | .unboundRelationship => return .unboundRelationship (← unboundFields read)
  | .path => return .path (← pathFields read)
  | .point2D => do
    let srid ← integerBy read
    let x ← floatBy read
    return .point2D ⟨srid, x, ← floatBy read⟩
  | .point3D => do
    let srid ← integerBy read
    let x ← floatBy read
    let y ← floatBy read
    return .point3D ⟨srid, x, y, ← floatBy read⟩
  | .date => return .date (← dateOf (← integerBy read))
  | .time => do
    let nanos ← integerBy read
    let seconds ← integerBy read
    let time ← timeOf nanos
    return .time ⟨time, ← offsetOf seconds⟩
  | .localTime => return .localTime (← timeOf (← integerBy read))
  | .localDateTime => do
    let second ← integerBy read
    let nanos ← integerBy read
    return .localDateTime (← localDateTimeOf second nanos)
  | .dateTime => do
    let second ← integerBy read
    let nanos ← integerBy read
    let offset ← offsetOf (← integerBy read)
    let wall ← localDateTimeOf second nanos
    return .dateTime (← orMalformed (Calendar.DateTime.of? wall offset) .dateTimeOutOfRange)
  | .zonedDateTime => do
    let second ← integerBy read
    let nanos ← integerBy read
    let zone ← stringBy read
    return .zonedDateTime ⟨← localDateTimeOf second nanos, zone⟩
  | .duration => do
    let months ← integerBy read
    let days ← integerBy read
    let seconds ← integerBy read
    return .duration ⟨months, days, seconds, ← integerBy read⟩

/-- The structure after its header: the signature must be one of the version, and then the
number of fields the one it has. -/
def structureBody (version : Version) (read : Reader Value) (fields : Nat) (signature : UInt8) :
    Reader Value :=
  match StructureKind.ofSignature? version signature with
  | none => throw (.unknownStructure signature version)
  | some kind =>
    if fields = kind.arity then fieldsOf read kind
    else throw (.structureArity signature kind.arity fields)

def valueBy (version : Version) (inner : Option (Reader Value)) : Reader Value := do
  let b ← byte
  match Marker.ofByte? b with
  | some .null => return .null
  | some (.boolean v) => return .boolean v
  | some .float => return .float (.ofWord (← unsigned 8))
  | some (.smallInteger i) => return .integer (Int64.ofInt i)
  | some (.integer width) => return .integer (← signed width)
  | some (.sized .string size) => return .string (← text (← extent size))
  | some (.sized .byteArray size) =>
    if version.hasExtendedValues then return .bytes (← take (← extent size))
    else malformed (.unknownMarker b)
  | some (.sized .list size) => return .list (← listBody inner (← extent size))
  | some (.sized .map size) => return .map (← mapBody inner (← extent size))
  | some (.structure size) => do
    let (fields, signature) ← headerAfter size
    enter inner fun read => leaving (structureBody version read fields signature)
  | none => malformed (.unknownMarker b)

def valueWithin (version : Version) : Nat → Reader Value
  | 0 => valueBy version none
  | levels + 1 => valueBy version (some (valueWithin version levels))

def value (version : Version) : Reader Value := fun cursor =>
  valueWithin version (maxDepth - cursor.depth) cursor

def integer (version : Version) : Reader Int64 := integerBy (value version)

def float (version : Version) : Reader Binary64 := floatBy (value version)

def string (version : Version) : Reader String := stringBy (value version)

def list (version : Version) : Reader (List Value) := listBy (value version)

def map (version : Version) : Reader (Dict Value) := mapBy (value version)

def outcome {α : Type} (read : Reader α) (bytes : List UInt8) : Except ProtocolError α :=
  match read (.start bytes) with
  | .ok a _ => .ok a
  | .error e _ => .error e

end Reader

end Wire

open Wire

def Value.decode (version : Version) (bytes : List UInt8) : Except ProtocolError Value :=
  Reader.outcome (do
    let v ← Reader.value version
    Reader.finish
    return v) bytes

end GraphProtocol
