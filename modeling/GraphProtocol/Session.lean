import GraphProtocol.Auth.Authenticator
import GraphProtocol.Lifecycle
import GraphProtocol.Query.Engine

/-!
# Sessions

What is remembered about one connection: its state, its owner, the transaction
and the result that it holds, and the interruptions that are not yet dealt with.
-/

set_option autoImplicit false

namespace GraphProtocol

/-- The state of one connection's conversation; `π` are the producers of results. -/
structure Session (π : Type) where
  /-- What the connection is called towards the client. -/
  id : String
  version : Version
  state : ConnectionState
  principal : Option Principal
  userAgent : Option String
  /-- Resets that have arrived and have not been dealt with. -/
  interrupts : Nat
  tx : Option TxId
  result : Option (ResultStream π)
  cancel : CancelSignal
  requestCount : Nat
  lastActivity : Instant

namespace Session

variable {π : Type}

def fresh (id : String) (version : Version) (now : Instant) : Session π :=
  { id, version, state := .connected, principal := none, userAgent := none, interrupts := 0
    tx := none, result := none, cancel := .fresh, requestCount := 0, lastActivity := now }

def withState (s : Session π) (state : ConnectionState) : Session π := { s with state }

def authenticate (s : Session π) (principal : Principal) (userAgent : Option String) : Session π :=
  { s with principal := some principal, userAgent }

def isAuthenticated (s : Session π) : Bool := s.principal.isSome

def cancelExecution (s : Session π) : Session π := { s with cancel := s.cancel.cancel }

def renewCancel (s : Session π) : Session π := { s with cancel := s.cancel.renew }

def isCancelled (s : Session π) : Bool := s.cancel.fired

/-- Counts a reset; once the session is open, it also stops what runs. -/
def interrupt (s : Session π) : Session π :=
  let s := { s with interrupts := s.interrupts + 1 }
  if s.state = .connected then s else s.cancelExecution.withState .interrupted

def acknowledge (s : Session π) : Session π := { s with interrupts := s.interrupts - 1 }

def recordRequest (s : Session π) (now : Instant) : Session π :=
  { s with requestCount := s.requestCount + 1, lastActivity := now }

/-- When a session without traffic ends: so long after its last traffic. A session that cannot
tell its deadline breaks down as soon as it waits for traffic. -/
def idleDeadline? (s : Session π) (limit : Span) : Option Instant :=
  Instant.later? s.lastActivity limit

end Session

end GraphProtocol
