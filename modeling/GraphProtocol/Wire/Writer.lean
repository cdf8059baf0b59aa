import GraphProtocol.Wire.Bytes
import GraphProtocol.Wire.Marker

/-!
# Writing values

Writing a value gives the bytes written and, if the value cannot be sent, why:
the bytes are then those written before the obstacle was met. Integers and
sizes take the shortest form that holds them. Types of the later versions are
refused by the first. Nothing is prepared for a date-time whose local clock is out
of range.
-/

set_option autoImplicit false

namespace GraphProtocol

namespace Wire

/-- Bytes, and the obstacle after them if there is one. -/
structure Written where
  bytes : List UInt8
  abort : Option (Abort Unsupported)
  deriving DecidableEq, Repr

namespace Written

def ofBytes (bytes : List UInt8) : Written := ⟨bytes, none⟩

def refuse (cause : Unsupported) : Written := ⟨[], some (.error cause)⟩

def breakdown : Written := ⟨[], some .breakdown⟩

def append (a b : Written) : Written :=
  match a.abort with
  | some _ => a
  | none => ⟨a.bytes ++ b.bytes, b.abort⟩

instance : Append Written := ⟨append⟩

def concat (parts : List Written) : Written :=
  let (clear, rest) := parts.span fun part => part.abort.isNone
  let before := clear.flatMap (·.bytes)
  match rest with
  | [] => ⟨before, none⟩
  | part :: _ => ⟨before ++ part.bytes, part.abort⟩

def result (w : Written) : Except (Abort ProtocolError) (List UInt8) :=
  match w.abort with
  | none => .ok w.bytes
  | some abort => .error (abort.map .unsupported)

def onto (w : Written) (buffer : List UInt8) : Except (Abort ProtocolError) Unit × List UInt8 :=
  let written := buffer ++ w.bytes
  match w.abort with
  | none => (.ok (), written)
  | some (.error cause) => (.error (.error (.unsupported cause)), written.take buffer.length)
  | some .breakdown => (.error .breakdown, written)

end Written

def writeNull : Written := .ofBytes [0xC0]

def writeBoolean (b : Bool) : Written := .ofBytes [if b then 0xC3 else 0xC2]

def writeInteger (i : Int64) : Written :=
  let n := i.toInt
  if -16 ≤ n ∧ n ≤ 127 then .ofBytes (signedBigEndian 1 n)
  else if -128 ≤ n ∧ n ≤ 127 then .ofBytes (0xC8 :: signedBigEndian 1 n)
  else if -32768 ≤ n ∧ n ≤ 32767 then .ofBytes (0xC9 :: signedBigEndian 2 n)
  else if -2147483648 ≤ n ∧ n ≤ 2147483647 then .ofBytes (0xCA :: signedBigEndian 4 n)
  else .ofBytes (0xCB :: signedBigEndian 8 n)

def writeFloat (x : Binary64) : Written := .ofBytes (0xC1 :: bigEndian 8 x.word)

def writeSize (kind : SizedKind) (size : Nat) : Written :=
  match inlineBase kind with
  | some base =>
    if size < 16 then .ofBytes [UInt8.ofNat (base + size)] else following
  | none => following
where
  /-- The size after the marker. -/
  following : Written :=
    let base := followingBase kind
    if size < UInt8.size then .ofBytes (UInt8.ofNat base :: bigEndian 1 size)
    else if size < UInt16.size then .ofBytes (UInt8.ofNat (base + 1) :: bigEndian 2 size)
    else if size < UInt32.size then .ofBytes (UInt8.ofNat (base + 2) :: bigEndian 4 size)
    else .refuse (.tooLong kind size)

def writeString (s : String) : Written :=
  let bytes := utf8 s
  writeSize .string bytes.length ++ .ofBytes bytes

def writeBytes (bytes : List UInt8) : Written :=
  writeSize .byteArray bytes.length ++ .ofBytes bytes

def writeStructureHeader (fields : Nat) (signature : UInt8) : Written :=
  if fields < 16 then .ofBytes [UInt8.ofNat (structureInlineBase + fields), signature]
  else if fields < UInt8.size then
    .ofBytes (UInt8.ofNat structureFollowingBase :: bigEndian 1 fields ++ [signature])
  else if fields < UInt16.size then
    .ofBytes (UInt8.ofNat (structureFollowingBase + 1) :: bigEndian 2 fields ++ [signature])
  else .refuse (.tooManyFields fields)

def writeHeader (kind : StructureKind) : Written :=
  writeStructureHeader kind.arity kind.signature

def writeListWith {α : Type} (items : List α) (write : (x : α) → x ∈ items → Written) : Written :=
  writeSize .list items.length ++ .concat (items.attach.map fun ⟨x, h⟩ => write x h)

def writeDictWith {α : Type} (d : Dict α) (write : (x : α) → x ∈ d.values → Written) : Written :=
  writeSize .map d.size ++
    .concat (d.entries.attach.map fun ⟨(key, x), h⟩ =>
      writeString key ++ write x (Dict.mem_values h))

def writeNodeWith (n : Node Value) (write : (x : Value) → x ∈ n.properties.values → Written) :
    Written :=
  writeHeader .node ++ writeInteger n.id ++
    writeListWith n.labels (fun label _ => writeString label) ++
    writeDictWith n.properties write

def writeUnboundWith (r : UnboundRelationship Value)
    (write : (x : Value) → x ∈ r.properties.values → Written) : Written :=
  writeHeader .unboundRelationship ++ writeInteger r.id ++ writeString r.type ++
    writeDictWith r.properties write

def writeCount (i : Int) : Written := writeInteger (Int64.ofInt i)

def writeLocalDateTime (t : Calendar.LocalDateTime) : Written :=
  writeCount t.second ++ writeCount t.nanos

end Wire

open Wire

def Value.write (version : Version) (v : Value) : Written :=
  if v.type.isExtended && !version.hasExtendedValues then
    .refuse (.notAvailable v.type version)
  else match v with
  | .null => writeNull
  | .boolean b => writeBoolean b
  | .integer i => writeInteger i
  | .float x => writeFloat x
  | .string s => writeString s
  | .bytes bs => writeBytes bs
  | .list items => writeListWith items fun x h =>
      have := Value.sizeOf_lt_of_mem_children (v := .list items) h
      x.write version
  | .map d => writeDictWith d fun x h =>
      have := Value.sizeOf_lt_of_mem_children (v := .map d) h
      x.write version
  | .node n => writeNodeWith n fun x h =>
      have := Value.sizeOf_lt_of_mem_children (v := .node n) h
      x.write version
  | .relationship r =>
    writeHeader .relationship ++ writeInteger r.id ++ writeInteger r.startNode ++
      writeInteger r.endNode ++ writeString r.type ++
      writeDictWith r.properties fun x h =>
        have := Value.sizeOf_lt_of_mem_children (v := .relationship r) h
        x.write version
  | .unboundRelationship r => writeUnboundWith r fun x h =>
      have := Value.sizeOf_lt_of_mem_children (v := .unboundRelationship r) h
      x.write version
  | .path p =>
    writeHeader .path ++
      writeListWith p.nodes (fun n hn => writeNodeWith n fun x h =>
        have := Value.sizeOf_lt_of_mem_children (v := .path p)
          (List.mem_append_left _ (List.mem_flatMap.2 ⟨n, hn, h⟩))
        x.write version) ++
      writeListWith p.relationships (fun r hr => writeUnboundWith r fun x h =>
        have := Value.sizeOf_lt_of_mem_children (v := .path p)
          (List.mem_append_right _ (List.mem_flatMap.2 ⟨r, hr, h⟩))
        x.write version) ++
      writeListWith p.indices (fun i _ => writeInteger i)
  | .point2D p =>
    writeHeader .point2D ++ writeInteger p.srid ++ writeFloat p.x ++ writeFloat p.y
  | .point3D p =>
    writeHeader .point3D ++ writeInteger p.srid ++ writeFloat p.x ++ writeFloat p.y ++
      writeFloat p.z
  | .date d => writeHeader .date ++ writeCount d.day
  | .time t =>
    writeHeader .time ++ writeCount t.time.nanosOfDay ++ writeCount t.offset.seconds
  | .localTime t => writeHeader .localTime ++ writeCount t.nanosOfDay
  | .localDateTime t => writeHeader .localDateTime ++ writeLocalDateTime t
  | .dateTime t =>
    match t.wall? with
    | some wall => writeHeader .dateTime ++ writeLocalDateTime wall ++ writeCount t.offset.seconds
    | none => .breakdown
  | .zonedDateTime t =>
    writeHeader .zonedDateTime ++ writeLocalDateTime t.wall ++ writeString t.zone
  | .duration d =>
    writeHeader .duration ++ writeInteger d.months ++ writeInteger d.days ++
      writeInteger d.seconds ++ writeInteger d.nanoseconds
termination_by sizeOf v
decreasing_by all_goals assumption

def Value.encode (version : Version) (v : Value) : Except (Abort ProtocolError) (List UInt8) :=
  (v.write version).result

def Dict.write (version : Version) (d : Dict Value) : Written :=
  writeDictWith d fun x _ => x.write version

def Dict.writePrimitive (version : Version) (d : Dict Value) : Written :=
  match d.firstComplex? with
  | some (key, value) => .refuse (.notPrimitive value.type key)
  | none => d.write version

end GraphProtocol
