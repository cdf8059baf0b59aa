import GraphProtocol.Frame.Dechunker
import GraphProtocol.Handshake

/-!
# The layers of a connection

Once a version is agreed, everything that speaks it is chosen in one place.
-/

set_option autoImplicit false

namespace GraphProtocol

structure WireLimits where
  maxMessageSize : Nat
  maxChunkSize : Nat
  deriving DecidableEq, Repr

structure Pipeline where
  version : Version
  dechunker : Frame.Dechunker
  chunker : Frame.Chunker

namespace Pipeline

def select (version : Version) (limits : WireLimits) : Except ProtocolError Pipeline := do
  let chunker ← Frame.Chunker.ofSize limits.maxChunkSize
  return ⟨version, .fresh limits.maxMessageSize, chunker⟩

def negotiate (opening : List UInt8) (enabled : List Version) (limits : WireLimits) :
    Except ProtocolError Pipeline := do
  let handshake ← Handshake.decode opening
  select (← handshake.negotiate enabled) limits

end Pipeline

end GraphProtocol
