import GraphProtocol.Reply.Outbox

/-!
# Packing responses

A response is packed into a buffer that is cleared first. What has been packed as a
whole is cut into chunks, behind those that wait already.
-/

set_option autoImplicit false

namespace GraphProtocol

structure Writer extends Outbox where
  scratch : List UInt8

namespace Writer

def fresh (version : Version) (chunker : Frame.Chunker) : Writer :=
  { Outbox.fresh version chunker with scratch := [] }

def queue (w : Writer) (r : Response) : Except (Abort ProtocolError) Unit × Writer :=
  let (outcome, scratch) := (r.write w.version).onto []
  match outcome with
  | .ok () =>
    (.ok (), { w with
      scratch
      pending := w.pending ++ w.chunker.encode scratch
      accepted := r :: w.accepted })
  | .error e => (.error e, { w with scratch })

inductive Order where
  | queue (response : Response)
  | flush

def Order.response? : Order → Option Response
  | queue r => some r
  | flush => none

def obey (w : Writer) : Order → Writer
  | .queue r => (w.queue r).2
  | .flush => { w with toOutbox := w.toOutbox.flush }

def run (w : Writer) (orders : List Order) : Writer := orders.foldl obey w

def output (w : Writer) : List UInt8 := w.written.toList ++ w.pending.toList

end Writer

end GraphProtocol
