import GraphProtocol.Metrics.Basic
import GraphProtocol.Pipeline
import GraphProtocol.Reply.Handler
import GraphProtocol.Server.Error
import GraphProtocol.Session

/-!
# Connections

A connection keeps its session, the bytes that are not yet messages, the
messages that are not yet dealt with, and the responses that are not yet
written. It works on one message at a time. While a result is being pulled, or a
reset waits for a cancelled query to end, the messages after it wait.

The work is written as actions on the connection together with what it shares
with others: the state of the query engine and the metrics. An action that fails
ends the connection; what it did before it failed stays done.
-/

set_option autoImplicit false

namespace GraphProtocol

inductive Inbound where
  | request (request : Request) (handler : Handler)
  /-- A message with a signature that the version does not know. -/
  | unknown (signature : UInt8)
  /-- A known request with unacceptable fields. -/
  | invalid (handler : Handler) (fault : RequestFault)

structure Pulling where
  handler : Handler
  /-- The state after the whole result. -/
  next : ConnectionState

/-- A reset that waits for a cancelled query to end. -/
structure Cleanup (π : Type) where
  handler : Handler
  result : ResultStream π
  /-- When the wait began. -/
  since : Instant

structure Connection (π : Type) where
  session : Session π
  dechunker : Frame.Dechunker
  outbox : Outbox
  inbox : List Inbound
  pulling : Option Pulling
  /-- How many more events the batch that is under way may handle. -/
  batch : Option Nat
  cleanup : Option (Cleanup π)

def Connection.fresh {π : Type} (pipeline : Pipeline) (id : String) (now : Instant) :
    Connection π where
  session := .fresh id pipeline.version now
  dechunker := pipeline.dechunker
  outbox := .fresh pipeline.version pipeline.chunker
  inbox := []
  pulling := none
  batch := none
  cleanup := none

structure Context (σ π : Type) where
  engine : QueryEngine σ π
  /-- Who the client with a token is. -/
  authenticate : Dict Value → Except AuthError Principal
  /-- How the server names itself. -/
  serverAgent : String
  /-- A connection without traffic for longer than this is closed. -/
  idleTimeout : Span
  /-- How long a reset waits for a cancelled query. -/
  resetTimeout : Span

/-- A connection and what it shares with others, at a moment. -/
structure Actor (σ π : Type) extends Connection π where
  engine : σ
  metrics : Metrics
  now : Instant

abbrev Act (σ π : Type) := EStateM (Abort ServerError) (Actor σ π)

def Metrics.answered (m : Metrics) (handler : Handler) (response : Response) (now : Instant) :
    Metrics :=
  let message := handler.kind.name
  let timed := m.observe message (.ofRatio (handler.elapsed now).nanos 1000000000)
  match response with
  | .failure failure => timed.countFailure failure.code
  | .ignored => timed.countIgnored message
  | _ => timed

inductive Flow where
  | proceed
  | close
  deriving DecidableEq, Repr

namespace Act

variable {σ π : Type}

def fatal {α : Type} (e : ServerError) : Act σ π α := throw (.error e)

def modifySession (f : Session π → Session π) : Act σ π Unit :=
  modify fun a => { a with session := f a.session }

def setState (state : ConnectionState) : Act σ π Unit := modifySession (·.withState state)

def modifyMetrics (f : Metrics → Metrics) : Act σ π Unit :=
  modify fun a => { a with metrics := f a.metrics }

def call {α : Type} (f : Instant → σ → α × σ) : Act σ π α := fun a =>
  let (answer, engine) := f a.now a.engine
  .ok answer { a with engine }

def flush : Act σ π Unit := modify fun a => { a with outbox := a.outbox.flush }

def queue (response : Response) : Act σ π Unit := fun a =>
  match a.outbox.queue response with
  | .ok outbox => .ok () { a with outbox }
  | .error abort => .error (abort.map .protocol) a

def respond (handler : Handler) (response : Response) : Act σ π Unit := do
  match (handler.terminal (← get).outbox response).2 with
  | .error abort => throw (abort.map .protocol)
  | .ok (.dropped, _) => return ()
  | .ok (.sent _, outbox) =>
    modify fun a =>
      { a with outbox, metrics := a.metrics.answered handler response a.now }

def succeed (handler : Handler) (metadata : Dict Value) : Act σ π Unit :=
  respond handler (.success metadata)

def ignore (handler : Handler) : Act σ π Unit := respond handler .ignored

def fail (handler : Handler) (failure : Failure) : Act σ π Unit := do
  modifySession (·.cancelExecution)
  setState .failed
  respond handler (.failure failure)

end Act

end GraphProtocol
