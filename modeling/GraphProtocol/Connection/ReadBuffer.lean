/-!
# Read buffers

The bytes that a connection has received and not yet taken out lie in one stretch
of a buffer. Before each read the buffer makes room for a fixed number of bytes.
It moves what it holds to the front where that is cheap, and grows to twice its size
otherwise. A read fills whatever room there is.
-/

set_option autoImplicit false

namespace GraphProtocol

/-- How a buffer is laid out around the bytes that it holds. -/
structure ReadBuffer where
  size : Nat
  /-- The place of the first byte that has not been taken out. -/
  start : Nat
  deriving DecidableEq, Repr

namespace ReadBuffer

def fresh : ReadBuffer := ⟨8192, 0⟩

def minimumRoom : Nat := 16384

def room (b : ReadBuffer) (held : Nat) : Nat := b.size - (b.start + held)

/-- Makes room for a read. Bytes move to the front only onto places that none of them has. -/
def reserve (b : ReadBuffer) (held : Nat) : ReadBuffer :=
  if minimumRoom ≤ b.room held then b
  else if minimumRoom ≤ b.size - held ∧ held ≤ b.start then { b with start := 0 }
  else { b with size := max (2 * b.size) (b.start + held + minimumRoom) }

def take (b : ReadBuffer) (count : Nat) : ReadBuffer := { b with start := b.start + count }

theorem minimumRoom_le_room_reserve (b : ReadBuffer) (held : Nat) :
    minimumRoom ≤ (b.reserve held).room held := by
  unfold reserve
  split
  · assumption
  · split
    · simp only [room, Nat.zero_add]
      omega
    · simp only [room]
      omega

end ReadBuffer

end GraphProtocol
