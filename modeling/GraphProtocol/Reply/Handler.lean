import GraphProtocol.Instant
import GraphProtocol.Reply.Outbox

/-!
# Answering one request

A handler turns the outcome of a request into responses as the request's reply
strategy says. The first terminal response finishes it, even if that response
cannot be sent; whatever comes later is dropped.
-/

set_option autoImplicit false

namespace GraphProtocol

inductive Delivery where
  | sent (kind : ResponseKind)
  | dropped
  deriving DecidableEq, Repr

structure Handler where
  kind : RequestKind
  reply : ReplyStrategy
  /-- When the request arrived. -/
  started : Instant
  /-- Records seen, sent or not. -/
  records : Nat
  /-- Whether a terminal response has been given. -/
  done : Bool
  deriving DecidableEq, Repr

namespace Handler

def fresh (kind : RequestKind) (reply : ReplyStrategy) (now : Instant) : Handler :=
  ⟨kind, reply, now, 0, false⟩

def elapsed (h : Handler) (now : Instant) : Span := ⟨now - h.started⟩

abbrev Outcome := Except (Abort ProtocolError) (Delivery × Outbox)

def record (h : Handler) (out : Outbox) (fields : List Value) : Handler × Outcome :=
  if h.done then (h, .ok (.dropped, out))
  else
    let h := { h with records := h.records + 1 }
    match h.reply with
    | .stream => (h, (out.queue (.record fields)).map fun out => (.sent .record, out))
    | _ => (h, .ok (.dropped, out))

def terminal (h : Handler) (out : Outbox) (response : Response) : Handler × Outcome :=
  if h.done then (h, .ok (.dropped, out))
  else
    let h := { h with done := true }
    match h.reply with
    | .silent => (h, .ok (.dropped, out))
    | _ => (h, (out.queue response).map fun out => (.sent response.kind, out))

def success (h : Handler) (out : Outbox) (metadata : Dict Value) : Handler × Outcome :=
  h.terminal out (.success metadata)

def failure (h : Handler) (out : Outbox) (failure : Failure) : Handler × Outcome :=
  h.terminal out (.failure failure)

def ignored (h : Handler) (out : Outbox) : Handler × Outcome := h.terminal out .ignored

end Handler

end GraphProtocol
