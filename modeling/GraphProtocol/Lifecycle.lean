import GraphProtocol.Message.Kind
import GraphProtocol.Version

/-!
# The life of a connection

What is done with a request depends on the state of the connection and on the
kind of the request alone. The first two versions know no transactions, and
their connections never reach a state inside one.
-/

set_option autoImplicit false

namespace GraphProtocol

inductive ConnectionState where
  /-- Before the client has introduced itself. -/
  | connected
  /-- Ready for a statement or a transaction. -/
  | ready
  /-- A result waits to be pulled or discarded. -/
  | streaming
  /-- Inside a transaction. -/
  | txReady
  /-- A result waits inside a transaction. -/
  | txStreaming
  /-- A request has failed; only a reset helps. -/
  | failed
  /-- A reset has arrived and is not finished. -/
  | interrupted
  deriving DecidableEq, Repr

namespace ConnectionState

def all : List ConnectionState :=
  [.connected, .ready, .streaming, .txReady, .txStreaming, .failed, .interrupted]

def name : ConnectionState → String
  | connected => "CONNECTED"
  | ready => "READY"
  | streaming => "STREAMING"
  | txReady => "TX_READY"
  | txStreaming => "TX_STREAMING"
  | failed => "FAILED"
  | interrupted => "INTERRUPTED"

def isStreaming : ConnectionState → Bool
  | streaming | txStreaming => true
  | _ => false

def inTransaction : ConnectionState → Bool
  | txReady | txStreaming => true
  | _ => false

end ConnectionState

inductive Action where
  | authenticate
  | run
  | pull
  | discard
  | begin
  | commit
  | rollback
  | reset
  deriving DecidableEq, Repr

def Action.name : Action → String
  | .authenticate => "Authenticate"
  | .run => "Run"
  | .pull => "Pull"
  | .discard => "Discard"
  | .begin => "Begin"
  | .commit => "Commit"
  | .rollback => "Rollback"
  | .reset => "Reset"

inductive Decision where
  /-- Do the work; success leads to the next state. -/
  | accept (action : Action) (next : ConnectionState)
  /-- Answer that the request is ignored. -/
  | ignore
  /-- Close without an answer. -/
  | close
  /-- The request ends the connection. -/
  | fatal
  deriving DecidableEq, Repr

/-- A request accepted in a state, its work, and the state that success leads to. -/
structure Transition where
  source : ConnectionState
  kind : RequestKind
  action : Action
  target : ConnectionState
  deriving DecidableEq, Repr

namespace Transition

def base : List Transition :=
  [⟨.ready, .run, .run, .streaming⟩, ⟨.streaming, .pullAll, .pull, .ready⟩,
    ⟨.streaming, .discardAll, .discard, .ready⟩]

def transactional : List Transition :=
  [⟨.ready, .begin, .begin, .txReady⟩, ⟨.txReady, .run, .run, .txStreaming⟩,
    ⟨.txReady, .commit, .commit, .ready⟩, ⟨.txReady, .rollback, .rollback, .ready⟩,
    ⟨.txStreaming, .pullAll, .pull, .txReady⟩, ⟨.txStreaming, .discardAll, .discard, .txReady⟩]

def ofVersion (version : Version) : List Transition :=
  if version.hasTransactions then base ++ transactional else base

end Transition

def ConnectionState.reachable (version : Version) : List ConnectionState :=
  ConnectionState.all.filter fun state =>
    !state.inTransaction || (Transition.ofVersion version).any (·.target == state)

def Decision.of (version : Version) (state : ConnectionState) (kind : RequestKind) : Decision :=
  if kind = .goodbye then .close
  else if state = .connected then
    if kind.isHandshake then .accept .authenticate .ready else .fatal
  else if kind.isHandshake then .ignore
  else if kind = .reset then .accept .reset .ready
  else if state = .failed ∨ state = .interrupted then .ignore
  else
    match (Transition.ofVersion version).find? (fun t => t.source == state && t.kind == kind) with
    | some t => .accept t.action t.target
    | none => .ignore

end GraphProtocol
