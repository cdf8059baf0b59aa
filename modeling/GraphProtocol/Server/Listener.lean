import GraphProtocol.Metrics.Basic
import GraphProtocol.Server.Settings

/-!
# The listener

A listener admits clients up to a limit, settles a version with each of them,
and keeps count of those who came, those who are here, those who were refused
and those who left in error. A client that simply went away left in good order,
and so did one that was sent away because the server stops.
-/

set_option autoImplicit false

namespace GraphProtocol

inductive Opening where
  | agreed (pipeline : Pipeline)
  /-- What the client proposes cannot be met; the answer is written before the end. -/
  | refused (answer : List UInt8) (reason : ProtocolError)
  | failed (error : ServerError)

namespace Opening

def ofBytes (settings : ServerSettings) (sent : List UInt8) : Opening :=
  if sent.length < Handshake.size then .failed (.transport .unexpectedEnd "early eof")
  else
    match Pipeline.negotiate (sent.take Handshake.size) settings.versions
        settings.network.limits with
    | .ok pipeline => .agreed pipeline
    | .error reason =>
      match reason with
      | .noSupportedVersion _ => .refused (Handshake.encodeSelection none) reason
      | .invalidPreamble _ => .refused [] reason
      | _ => .failed (.protocol reason)

def answer : Opening → List UInt8
  | agreed pipeline => Handshake.encodeSelection (some pipeline.version)
  | refused answer _ => answer
  | failed _ => []

end Opening

structure ServerStats where
  total : Nat
  active : Nat
  refused : Nat
  errors : Nat
  deriving DecidableEq, Repr

structure Listener where
  settings : ServerSettings
  stats : ServerStats
  metrics : Metrics
  isRunning : Bool

namespace Listener

def start (settings : ServerSettings) : Listener := ⟨settings, ⟨0, 0, 0, 0⟩, .fresh, true⟩

def hasRoom (l : Listener) : Bool :=
  decide (l.stats.active < l.settings.network.maxConnections)

def welcome (l : Listener) : Listener :=
  { l with
    stats := { l.stats with total := l.stats.total + 1, active := l.stats.active + 1 }
    metrics := l.metrics.countConnection.openConnection }

def refuse (l : Listener) : Listener :=
  { l with
    stats := { l.stats with refused := l.stats.refused + 1 }
    metrics := l.metrics.countRefusal }

def isFailure : Except ServerError Unit → Bool
  | .ok () | .error .shuttingDown => false
  | .error e => !e.isDisconnect

def dismiss (l : Listener) (outcome : Except ServerError Unit) : Listener :=
  { l with
    stats := { l.stats with
      active := l.stats.active - 1
      errors := l.stats.errors + (if isFailure outcome then 1 else 0) }
    metrics := l.metrics.closeConnection }

def shutDown (l : Listener) : Listener := { l with isRunning := false }

end Listener

end GraphProtocol
