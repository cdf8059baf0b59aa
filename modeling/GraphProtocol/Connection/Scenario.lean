import GraphProtocol.Connection.ReadBuffer
import GraphProtocol.Connection.Step

/-!
# Scenarios

A scenario plays a connection against a client. After everything that the client
or the world does, the connection goes on until nothing more can happen by
itself. Where several things could happen, events come before bytes. Time passes
in whole milliseconds with each thing that is done. The moments of the session are
only kept apart, so how long a connection has been without traffic is measured
from its beginning.
-/

set_option autoImplicit false

namespace GraphProtocol

/-- What a client or the world does. -/
inductive Deed where
  | send (bytes : List UInt8)
  | close
  | shutDown
  /-- Lets time pass. -/
  | wait (millis : Nat)

structure Scenario (σ π : Type) where
  context : Context σ π
  actor : Actor σ π
  progress : Progress
  /-- Bytes that the client has sent and that have not been read. -/
  unread : List UInt8
  buffer : ReadBuffer
  clientGone : Bool
  shuttingDown : Bool
  /-- The time that has passed, in nanoseconds. -/
  elapsed : Nat
  /-- When the wait of a reset began, in the same measure. -/
  cleanupSince : Nat
  /-- What the client has not yet put together from the bytes it has read. -/
  client : Frame.Dechunker
  /-- How many written bytes the client has read. -/
  seen : Nat

namespace Scenario

variable {σ π : Type}

def start (context : Context σ π) (pipeline : Pipeline) (id : String) (engine : σ) :
    Scenario σ π where
  context
  actor := { Connection.fresh pipeline id 0 with engine, metrics := .fresh, now := 0 }
  progress := .running
  unread := []
  buffer := .fresh
  clientGone := false
  shuttingDown := false
  elapsed := 0
  cleanupSince := 0
  client := .fresh (UInt64.size - 1)
  seen := 0

def held (s : Scenario σ π) : Nat := s.actor.dechunker.buffer.length

def advance (s : Scenario σ π) (occurrence : Occurrence) : Scenario σ π :=
  let (progress, actor) := s.actor.step s.context occurrence
  { s with
    progress
    actor := { actor with now := actor.now + 1 }
    cleanupSince := if s.actor.cleanup.isNone then s.elapsed else s.cleanupSince }

def read (s : Scenario σ π) : Scenario σ π :=
  let buffer := s.buffer.reserve s.held
  let bytes := s.unread.take (buffer.room s.held)
  let after := s.advance (.received bytes)
  { after with
    unread := s.unread.drop bytes.length
    buffer := buffer.take (s.held + bytes.length - after.held) }

def isCleanupOver (s : Scenario σ π) : Bool :=
  decide (s.cleanupSince + s.context.resetTimeout.nanos ≤ s.elapsed)

def millisecond : Nat := 1000000

/-- When the time without traffic is over, if the clock can tell. Traffic falls between two
milliseconds, and the later one counts. -/
def idleDeadline? (s : Scenario σ π) : Option Instant :=
  { s.actor.session with lastActivity := millisecond }.idleDeadline? s.context.idleTimeout

def isIdleOver (s : Scenario σ π) : Bool :=
  s.idleDeadline?.any fun deadline => decide (deadline ≤ s.elapsed)

def canProduce (s : Scenario σ π) : Bool :=
  s.actor.session.result.any fun r =>
    r.producer.isSome && r.ready.isEmpty && !s.actor.canPump

def next? (s : Scenario σ π) : Option (Scenario σ π) :=
  let a := s.actor
  if a.hasTurn then some (s.advance .turn)
  else if a.allows s.context .cleaned then some (s.advance .cleaned)
  else if a.cleanup.isSome then
    if s.shuttingDown then some (s.advance .shutDown)
    else if s.isCleanupOver then some (s.advance .cleanupExpired)
    else none
  else if a.allows s.context .untimed then some (s.advance .untimed)
  else if a.canPump then some (s.advance .pumped)
  else if a.canRead && !s.unread.isEmpty then some s.read
  else if a.canRead && s.clientGone then some (s.advance .endOfInput)
  else if a.allows s.context .shutDown && s.shuttingDown then some (s.advance .shutDown)
  else if a.allows s.context .idled && s.isIdleOver then some (s.advance .idled)
  else none

/-- Goes on until nothing happens by itself, at most for so many steps. The producer of the held
result runs before every step. -/
def settle : Nat → Scenario σ π → Scenario σ π
  | 0, s => s
  | steps + 1, s =>
    if s.progress.isRunning then
      let s := if s.canProduce then s.advance (.produced s.context.engine.capacity) else s
      match s.next? with
      | none => s
      | some s => settle steps s
    else s

def maxSteps : Nat := 1000000000000

def perform (s : Scenario σ π) : Deed → Scenario σ π
  | .send bytes => if s.clientGone then s else { s with unread := s.unread ++ bytes }
  | .close => { s with clientGone := true }
  | .shutDown => { s with shuttingDown := true }
  | .wait _ => s

def Deed.duration : Deed → Nat
  | .wait millis => millis
  | _ => 1

/-- Lets the connection go on while so many milliseconds pass. A time limit that is reached at
the very end of them takes effect only after it. -/
def pass (millis : Nat) (s : Scenario σ π) : Scenario σ π :=
  let s := s.settle maxSteps
  let later := s.elapsed + millis * millisecond
  let s := { s with elapsed := s.elapsed + (millis * millisecond - 1) }.settle maxSteps
  { s with elapsed := later }

def play (s : Scenario σ π) (deed : Deed) : Scenario σ π :=
  (s.perform deed).pass (Deed.duration deed)

def responses (version : Version) (messages : List (List UInt8)) : List Response :=
  messages.filterMap fun message =>
    match Response.read version (.start message) with
    | .ok response _ => some response
    | .error _ _ => none

def readResponses (s : Scenario σ π) : List Response × Scenario σ π :=
  if s.clientGone then ([], s)
  else
    let written := s.actor.outbox.written
    let fresh := (written.extract s.seen written.size).toList
    let (messages, _, client) := (s.client.extend fresh).drain
    (responses s.actor.session.version messages, { s with client, seen := written.size })

def isClosed (s : Scenario σ π) : Bool := s.clientGone || !s.progress.isRunning

def finish (s : Scenario σ π) : Scenario σ π := s.play .close

structure Scene (σ : Type) where
  responses : List Response
  isClosed : Bool
  hasEnded : Bool
  engine : σ

def mapEngine (s : Scenario σ π) (f : σ → σ) : Scenario σ π :=
  { s with actor := { s.actor with engine := f s.actor.engine } }

/-- Plays deeds one after another, and the end. Before each of them the engine's state is
refreshed, so that it shows what belongs to one deed alone. -/
def act (refresh : σ → σ) (s : Scenario σ π) : List Deed → List (Scene σ) × Scenario σ π
  | [] => ([], (s.mapEngine refresh).finish)
  | deed :: deeds =>
    let (responses, s) := ((s.mapEngine refresh).play deed).readResponses
    let scene : Scene σ := ⟨responses, s.isClosed, !s.progress.isRunning, s.actor.engine⟩
    let (scenes, s) := act refresh s deeds
    (scene :: scenes, s)

end Scenario

end GraphProtocol
