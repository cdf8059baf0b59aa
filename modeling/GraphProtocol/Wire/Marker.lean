import GraphProtocol.Error

/-!
# Markers

The first byte of a written value says what the value is, and for small
integers and short collections how large it is too. A larger size follows the
marker in one, two or four bytes.
-/

set_option autoImplicit false

namespace GraphProtocol.Wire

inductive Extent where
  /-- In the marker itself. -/
  | inline (size : Nat)
  /-- In the one, two or four bytes after the marker. -/
  | following (width : Nat)
  deriving DecidableEq, Repr

inductive Marker where
  | null
  | boolean (b : Bool)
  | float
  | smallInteger (i : Int)
  | integer (width : Nat)
  | sized (kind : SizedKind) (extent : Extent)
  | structure (extent : Extent)
  deriving DecidableEq, Repr

def inlineBase : SizedKind → Option Nat
  | .string => some 0x80
  | .list => some 0x90
  | .map => some 0xA0
  | .byteArray => none

/-- The marker of a collection whose size follows in one byte; two and four bytes come next. -/
def followingBase : SizedKind → Nat
  | .byteArray => 0xCC
  | .string => 0xD0
  | .list => 0xD4
  | .map => 0xD8

def structureInlineBase : Nat := 0xB0

def structureFollowingBase : Nat := 0xDC

def Marker.ofByte? (byte : UInt8) : Option Marker :=
  let n := byte.toNat
  if n < 0x80 then some (.smallInteger n)
  else if n < 0x90 then some (.sized .string (.inline (n - 0x80)))
  else if n < 0xA0 then some (.sized .list (.inline (n - 0x90)))
  else if n < 0xB0 then some (.sized .map (.inline (n - 0xA0)))
  else if n < 0xC0 then some (.structure (.inline (n - 0xB0)))
  else if 0xF0 ≤ n then some (.smallInteger ((n : Int) - 256))
  else match n with
    | 0xC0 => some .null
    | 0xC1 => some .float
    | 0xC2 => some (.boolean false)
    | 0xC3 => some (.boolean true)
    | 0xC8 => some (.integer 1)
    | 0xC9 => some (.integer 2)
    | 0xCA => some (.integer 4)
    | 0xCB => some (.integer 8)
    | 0xCC => some (.sized .byteArray (.following 1))
    | 0xCD => some (.sized .byteArray (.following 2))
    | 0xCE => some (.sized .byteArray (.following 4))
    | 0xD0 => some (.sized .string (.following 1))
    | 0xD1 => some (.sized .string (.following 2))
    | 0xD2 => some (.sized .string (.following 4))
    | 0xD4 => some (.sized .list (.following 1))
    | 0xD5 => some (.sized .list (.following 2))
    | 0xD6 => some (.sized .list (.following 4))
    | 0xD8 => some (.sized .map (.following 1))
    | 0xD9 => some (.sized .map (.following 2))
    | 0xDA => some (.sized .map (.following 4))
    | 0xDC => some (.structure (.following 1))
    | 0xDD => some (.structure (.following 2))
    | _ => none

inductive StructureKind where
  | node | relationship | unboundRelationship | path
  | point2D | point3D
  | date | time | localTime | localDateTime | dateTime | zonedDateTime | duration
  deriving DecidableEq, Repr

namespace StructureKind

def all : List StructureKind :=
  [.node, .relationship, .unboundRelationship, .path, .point2D, .point3D, .date, .time,
    .localTime, .localDateTime, .dateTime, .zonedDateTime, .duration]

def signature : StructureKind → UInt8
  | node => 0x4E
  | relationship => 0x52
  | unboundRelationship => 0x72
  | path => 0x50
  | point2D => 0x58
  | point3D => 0x59
  | date => 0x44
  | time => 0x54
  | localTime => 0x74
  | localDateTime => 0x64
  | dateTime => 0x46
  | zonedDateTime => 0x66
  | duration => 0x45

def arity : StructureKind → Nat
  | node => 3
  | relationship => 5
  | unboundRelationship => 3
  | path => 3
  | point2D => 3
  | point3D => 4
  | date => 1
  | time => 2
  | localTime => 1
  | localDateTime => 2
  | dateTime => 3
  | zonedDateTime => 3
  | duration => 4

def isExtended : StructureKind → Bool
  | node | relationship | unboundRelationship | path => false
  | _ => true

def ofSignature? (version : Version) (signature : UInt8) : Option StructureKind :=
  all.find? fun kind =>
    kind.signature == signature && (!kind.isExtended || version.hasExtendedValues)

end StructureKind

end GraphProtocol.Wire
