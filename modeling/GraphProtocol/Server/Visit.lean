import GraphProtocol.Connection.Scenario
import GraphProtocol.Metrics.Exposition
import GraphProtocol.Net.Reach
import GraphProtocol.Server.Listener

/-!
# Visits

Clients visit a server one after another. Each sends its opening, reads which
version was chosen, and then sends request by request, reading after each of
them up to the response that ends it. A client that stays keeps its place until
the end; the others leave before the next one comes.
-/

set_option autoImplicit false

namespace GraphProtocol

structure Visitor where
  opening : List UInt8
  /-- The bytes of each request, in the version that was chosen. -/
  requests : Version → List (List UInt8)
  stays : Bool

structure Visit where
  /-- The answer to the opening, unless the server closed before it. -/
  selected : Option (List UInt8)
  /-- The responses to each request. -/
  responses : List (List Response)
  /-- Whether the client has seen the server close. -/
  sawClose : Bool

structure Server (σ π : Type) where
  context : Context σ π
  listener : Listener
  engine : σ

namespace Server

variable {σ π : Type}

def contextOf (settings : ServerSettings) (engine : QueryEngine σ π)
    (authenticator : Authenticator) : Context σ π where
  engine
  authenticate := authenticator
  serverAgent := settings.serverAgent
  idleTimeout := settings.network.idleTimeout
  resetTimeout := settings.resetTimeout

def start (settings : ServerSettings) (engine : QueryEngine σ π) (authenticator : Authenticator)
    (state : σ) : Server σ π :=
  ⟨contextOf settings engine authenticator, .start settings, state⟩

def isRecord : Response → Bool
  | .record _ => true
  | _ => false

def reply (responses : List Response) : List Response × Bool :=
  let records := responses.takeWhile isRecord
  match (responses.drop records.length).head? with
  | some last => (records ++ [last], true)
  | none => (records, false)

def converse (s : Scenario σ π) : List (List UInt8) → List (List Response) × Bool × Scenario σ π
  | [] => ([], false, s)
  | request :: requests =>
    let (responses, s) := (s.play (.send request)).readResponses
    let (answer, isWhole) := reply responses
    let (answers, sawClose, s) := converse s requests
    (answer :: answers, !isWhole || sawClose, s)

def connectionId (total : Nat) : String :=
  "00000000-0000-4000-8000-" ++ String.ofList (Text.hexPadded 12 total)

def outcome : Progress → Option (Except ServerError Unit)
  | .running | .brokenDown => none
  | .ended outcome => some outcome

def host (server : Server σ π) (pipeline : Pipeline) (selected : List UInt8) (visitor : Visitor) :
    Visit × Server σ π :=
  let id := connectionId server.listener.stats.total
  let fresh := Scenario.start server.context pipeline id server.engine
  let fresh := { fresh with
    actor := { fresh.actor with metrics := server.listener.metrics }
    unread := visitor.opening.drop Handshake.size }
  let (responses, sawClose, s) := converse fresh (visitor.requests pipeline.version)
  let s := if visitor.stays then s else s.finish
  let listener := { server.listener with metrics := s.actor.metrics }
  let listener := ((outcome s.progress).map listener.dismiss).getD listener
  (⟨some selected, responses, sawClose⟩, { server with listener, engine := s.actor.engine })

def receive (server : Server σ π) (visitor : Visitor) : Visit × Server σ π :=
  if server.listener.hasRoom then
    let server := { server with listener := server.listener.welcome }
    let opening := Opening.ofBytes server.listener.settings visitor.opening
    let selected := if opening.answer.isEmpty then none else some opening.answer
    match opening with
    | .agreed pipeline => server.host pipeline opening.answer visitor
    | .refused _ reason =>
      (⟨selected, [], true⟩, { server with
        listener := server.listener.refuse.dismiss (.error (.handshake reason.message)) })
    | .failed error =>
      (⟨selected, [], true⟩, { server with listener := server.listener.dismiss (.error error) })
  else (⟨none, [], true⟩, server)

def entertain (reach : Net.Reach) :
    Server σ π → List Visitor → Except Net.ConnectFault (List Visit × Server σ π)
  | server, [] => .ok ([], server)
  | server, visitor :: visitors => do
    reach.connect
    let (visit, server) := server.receive visitor
    let (visits, server) ← entertain reach server visitors
    return (visit :: visits, server)

end Server

def Metrics.fetch (m : Metrics) (reach : Net.Reach) (paths : List String) :
    Except Net.ConnectFault (List Page) :=
  paths.mapM fun path => do
    reach.connect
    return m.page path

end GraphProtocol
