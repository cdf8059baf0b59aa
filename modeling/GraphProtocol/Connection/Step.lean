import GraphProtocol.Connection.Process

/-!
# Steps of a connection

What can happen to an open connection, one occurrence at a time. Which of the
possible occurrences comes next is up to the world around it. A connection that
has ended has given up everything it held.
-/

set_option autoImplicit false

namespace GraphProtocol

/-- Something that may happen to a connection. -/
inductive Occurrence where
  /-- Bytes arrive from the client. -/
  | received (bytes : List UInt8)
  /-- The client has closed its side. -/
  | endOfInput
  /-- The first message of the inbox has its turn. -/
  | turn
  /-- The producer of the held result runs and gives at most so many events. -/
  | produced (count : Nat)
  /-- An event of the result that is being pulled, or its end, is handled. -/
  | pumped
  /-- The cancelled query behind a reset has ended. -/
  | cleaned
  /-- The cancelled query behind a reset has taken too long. -/
  | cleanupExpired
  /-- There has been no traffic for too long. -/
  | idled
  /-- The clock cannot tell until when there may be no traffic. -/
  | untimed
  /-- The server shuts down. -/
  | shutDown
  /-- Bytes can no longer be read or written. -/
  | broken (fault : TransportFault) (text : String)
  /-- A client is turned away at its turn, and what it is told can no longer be written. -/
  | unheard (fault : TransportFault) (text : String)

inductive Progress where
  | running
  | ended (outcome : Except ServerError Unit)
  /-- The program has broken down, and nothing is given up in good order. -/
  | brokenDown

def Progress.isRunning : Progress → Bool
  | .running => true
  | .ended _ | .brokenDown => false

def Progress.hasEnded : Progress → Bool
  | .ended _ => true
  | .running | .brokenDown => false

namespace Connection

variable {π : Type}

def maxPending : Nat := 1024

/-- Whether the connection looks at the outside world and not at its inbox. -/
def isWaiting (c : Connection π) : Bool :=
  c.cleanup.isNone && c.batch.isNone && (c.pulling.isSome || c.inbox.isEmpty)

def canRead (c : Connection π) : Bool := c.isWaiting && decide (c.inbox.length < maxPending)

def hasTurn (c : Connection π) : Bool :=
  c.cleanup.isNone && c.pulling.isNone && !c.inbox.isEmpty

def canPump (c : Connection π) : Bool :=
  c.cleanup.isNone && c.pulling.isSome &&
    (c.batch.isSome || c.session.result.any fun r => !r.ready.isEmpty || r.producer.isNone)

def isIdle (c : Connection π) : Bool := c.isWaiting && c.pulling.isNone

end Connection

namespace Actor

variable {σ π : Type} (ctx : Context σ π)

def idleDeadline? (a : Actor σ π) : Option Instant := a.session.idleDeadline? ctx.idleTimeout

/-- Whether the first message is from a client that cannot introduce itself, and is told so. -/
def turnsAway (a : Actor σ π) : Bool :=
  decide (a.session.state = .connected) &&
    match Act.processNext ctx a with
    | .error (.error (.authFailed _)) _ => true
    | .error (.error (.protocol (.invalidRequest _))) _ => true
    | _ => false

def allows (a : Actor σ π) : Occurrence → Bool
  | .received _ | .endOfInput => a.canRead
  | .turn => a.hasTurn
  | .produced _ => a.session.result.isSome
  | .pumped => a.canPump
  | .cleaned => a.cleanup.any fun c => c.result.stops ctx.engine
  | .cleanupExpired => a.cleanup.isSome
  | .idled => a.isIdle && (a.idleDeadline? ctx).isSome
  | .untimed => a.isWaiting && (a.idleDeadline? ctx).isNone
  | .shutDown => a.isWaiting || a.cleanup.isSome
  -- The end of a batch is written while messages wait for their turn.
  | .broken _ _ => a.isWaiting || a.batch.isSome || (a.hasTurn && a.outbox.pending.isEmpty)
  | .unheard _ _ => a.hasTurn && a.turnsAway ctx

def occur : Occurrence → Act σ π Flow
  | .received bytes => Act.receive bytes
  | .endOfInput => return .close
  | .turn => Act.processNext ctx
  | .produced count => do
    let now := (← get).now
    Act.modifySession fun s =>
      { s with result := s.result.map (·.fill ctx.engine now s.cancel count) }
    return .proceed
  | .pumped => do
    Act.pump
    return .proceed
  | .cleaned => do
    Act.finishCleanup ctx
    return .proceed
  | .cleanupExpired => Act.fatal (.resetTimeout ctx.resetTimeout)
  | .idled => return .close
  | .shutDown => Act.fatal .shuttingDown
  | .broken fault text => Act.fatal (.transport fault text)
  | .untimed => throw .breakdown
  | .unheard fault text => fun a =>
    match Act.processNext ctx a with
    | .ok _ b | .error _ b => Act.fatal (.transport fault text) b

def conclude (outcome : Except ServerError Unit) (a : Actor σ π) : Progress × Actor σ π :=
  match Act.release ctx a with
  | .ok _ a => (.ended outcome, a)
  | .error _ a => (.ended outcome, a)

/-- What comes of an occurrence. Responses are written when the connection turns to the outside
world and when it closes in good order; after an error they are not. -/
def step (occurrence : Occurrence) (a : Actor σ π) : Progress × Actor σ π :=
  match occur ctx occurrence a with
  | .ok .proceed a => (.running, if a.isWaiting then { a with outbox := a.outbox.flush } else a)
  | .ok .close a => conclude ctx (.ok ()) { a with outbox := a.outbox.flush }
  | .error (.error e) a => conclude ctx (.error e) a
  | .error .breakdown a => (.brokenDown, a)

end Actor

end GraphProtocol
