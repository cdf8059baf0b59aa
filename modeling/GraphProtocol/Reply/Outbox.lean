import GraphProtocol.Frame.Chunker
import GraphProtocol.Message.Catalogue

/-!
# The outbox

Responses wait as chunks until they are written. A response that the version
cannot carry leaves the outbox as it was.
-/

set_option autoImplicit false

namespace GraphProtocol

structure Outbox where
  version : Version
  chunker : Frame.Chunker
  /-- Chunks that wait to be written. -/
  pending : Array UInt8
  /-- Chunks that have been written. -/
  written : Array UInt8
  /-- Every response accepted so far, the latest first. -/
  accepted : List Response

namespace Outbox

def flushThreshold : Nat := 65536

def fresh (version : Version) (chunker : Frame.Chunker) : Outbox := ⟨version, chunker, #[], #[], []⟩

def queue (o : Outbox) (response : Response) : Except (Abort ProtocolError) Outbox :=
  match response.encode o.version with
  | .ok message =>
    .ok { o with
      pending := o.pending ++ o.chunker.encode message
      accepted := response :: o.accepted }
  | .error e => .error e

def flush (o : Outbox) : Outbox := { o with pending := #[], written := o.written ++ o.pending }

def isFull (o : Outbox) : Bool := decide (flushThreshold ≤ o.pending.size)

end Outbox

end GraphProtocol
