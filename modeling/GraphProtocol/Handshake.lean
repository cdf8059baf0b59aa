import GraphProtocol.Error
import GraphProtocol.Wire.Bytes

/-!
# Opening a connection

A client opens with four magic bytes and four version numbers in the order of
its preference, where zero marks an empty slot. The server answers with the
first of them that is enabled, or with zero.
-/

set_option autoImplicit false

namespace GraphProtocol

structure Handshake where
  proposals : List Nat
  deriving DecidableEq, Repr

namespace Handshake

def preamble : List UInt8 := [0x60, 0x60, 0xB0, 0x17]

def size : Nat := 20

def words : List UInt8 → List Nat
  | a :: b :: c :: d :: rest => Wire.ofBigEndian [a, b, c, d] :: words rest
  | _ => []

def decode (bytes : List UInt8) : Except ProtocolError Handshake :=
  let opening := bytes.take size
  if opening.length < size then .error (.truncated (size - opening.length))
  else if opening.take 4 ≠ preamble then .error (.invalidPreamble (opening.take 4))
  else .ok ⟨words (opening.drop 4)⟩

def encode (h : Handshake) : List UInt8 :=
  preamble ++ h.proposals.flatMap (Wire.bigEndian 4)

def negotiate (h : Handshake) (enabled : List Version) : Except ProtocolError Version :=
  match (h.proposals.filterMap Version.ofNumber?).find? (enabled.contains ·) with
  | some version => .ok version
  | none => .error (.noSupportedVersion h.proposals)

def encodeSelection (version : Option Version) : List UInt8 :=
  Wire.bigEndian 4 (version.elim 0 Version.number)

end Handshake

end GraphProtocol
