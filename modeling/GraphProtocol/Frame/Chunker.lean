import GraphProtocol.Wire.Bytes
import GraphProtocol.Error

/-!
# Chunks

A message travels as chunks, each a length in two bytes and that many bytes of
the message, followed by an empty chunk that ends it. Where a message is cut
carries no meaning.
-/

set_option autoImplicit false

namespace GraphProtocol.Frame

def maxChunkSize : Nat := 65535

def endOfMessage : List UInt8 := [0, 0]

def chunk (body : List UInt8) : List UInt8 := Wire.bigEndian 2 body.length ++ body

structure Chunker where
  size : Nat
  size_pos : 0 < size
  size_le : size ≤ maxChunkSize
  deriving Repr

namespace Chunker

def ofSize (size : Nat) : Except ProtocolError Chunker :=
  if h : 0 < size ∧ size ≤ maxChunkSize then .ok ⟨size, h.1, h.2⟩
  else .error (.invalidChunkSize size)

def largest : Chunker := ⟨maxChunkSize, by decide, Nat.le_refl _⟩

instance : Inhabited Chunker := ⟨largest⟩

def piecesOnto (c : Chunker) (message : List UInt8) (done : List (List UInt8)) :
    List (List UInt8) :=
  if h : message = [] then done.reverse
  else
    have : (message.drop c.size).length < message.length := by
      have := List.length_pos_iff.2 h
      have := c.size_pos
      simp only [List.length_drop]
      omega
    c.piecesOnto (message.drop c.size) (message.take c.size :: done)
termination_by message.length
decreasing_by exact this

def pieces (c : Chunker) (message : List UInt8) : List (List UInt8) := c.piecesOnto message []

def encode (c : Chunker) (message : List UInt8) : List UInt8 :=
  (c.pieces message).flatMap chunk ++ endOfMessage

end Chunker

end GraphProtocol.Frame
