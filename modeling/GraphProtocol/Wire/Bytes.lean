/-!
# Whole numbers as bytes

Numbers on the wire stand with their most significant byte first. Signed ones
are in two's complement.
-/

set_option autoImplicit false

namespace GraphProtocol.Wire

def range (width : Nat) : Nat := 1 <<< (8 * width)

def bigEndian : Nat → Nat → List UInt8
  | 0, _ => []
  | width + 1, n => UInt8.ofNat (n / range width) :: bigEndian width n

def ofBigEndian (bytes : List UInt8) : Nat :=
  bytes.foldl (fun n b => n * 256 + b.toNat) 0

def signedBigEndian (width : Nat) (i : Int) : List UInt8 :=
  bigEndian width (i % range width).toNat

def ofSignedBigEndian (bytes : List UInt8) : Int :=
  (ofBigEndian bytes : Int).bmod (range bytes.length)

def utf8 (s : String) : List UInt8 := s.toUTF8.data.toList

def ofUtf8? (bytes : List UInt8) : Option String := String.fromUTF8? ⟨bytes.toArray⟩

@[simp] theorem length_bigEndian (width n : Nat) : (bigEndian width n).length = width := by
  induction width with
  | zero => rfl
  | succ width ih => simp [bigEndian, ih]

end GraphProtocol.Wire
