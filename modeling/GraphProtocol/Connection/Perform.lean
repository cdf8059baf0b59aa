import GraphProtocol.Connection.Basic

/-!
# Performing requests

The work behind requests that are accepted in the current state.
-/

set_option autoImplicit false

namespace GraphProtocol

def maxMillis : Nat := 0x7FFFFFFFFFFFFFFF

def Handler.millis (h : Handler) (now : Instant) : Value :=
  .integer (Int64.ofNat (min ((h.elapsed now).nanos / 1000000) maxMillis))

def Version.availableKey (v : Version) : String :=
  if v.usesHello then "t_first" else "result_available_after"

def Version.consumedKey (v : Version) : String :=
  if v.usesHello then "t_last" else "result_consumed_after"

namespace Act

variable {σ π : Type} (ctx : Context σ π)

def misrouted {α : Type} (request : Request) (action : Action) : Act σ π α :=
  fatal (.protocol (.malformed (.misrouted request.name action.name)))

def welcome (session : Session π) : Dict Value :=
  let metadata : Dict Value := Dict.empty.insert "server" (.string ctx.serverAgent)
  if session.version.usesHello then metadata.insert "connection_id" (.string session.id)
  else metadata

def authenticate (request : Request) (handler : Handler) : Act σ π Unit := do
  match ctx.authenticate (request.authToken?.getD .empty) with
  | .ok principal =>
    modifySession (·.authenticate principal request.userAgent?)
    setState (if 0 < (← get).session.interrupts then .interrupted else .ready)
    succeed handler (welcome ctx (← get).session)
  | .error e =>
    respond handler (.failure (.ofStatus .unauthorized e.message))
    flush
    fatal (.authFailed e.message)

def currentTx (session : Session π) : Option TxId :=
  if session.state.inTransaction then session.tx else none

def run (request : Request) (next : ConnectionState) (handler : Handler) : Act σ π Unit := do
  match request with
  | .run statement parameters metadata =>
    let session := (← get).session
    let query : Query := ⟨statement, parameters, metadata⟩
    match ← call (ctx.engine.execute · query (currentTx session) session.isCancelled) with
    | .ok (fields, producer) =>
      let columns : Dict Value := Dict.empty.insert "fields" (.list (fields.map .string))
      modifySession fun s =>
        { s with result := some (.start fields session.cancel.token producer), state := next }
      succeed handler
        (columns.insert session.version.availableKey (handler.millis (← get).now))
    | .error (.error failure) => fail handler failure
    | .error .breakdown => throw .breakdown
  | other => misrouted other .run

def pull (next : ConnectionState) (handler : Handler) : Act σ π Unit := do
  if (← get).session.result.isSome then
    modify fun a => { a with pulling := some ⟨handler, next⟩ }
  else fail handler (.ofStatus .unknownError "no result to consume")

def beginTx (request : Request) (next : ConnectionState) (handler : Handler) : Act σ π Unit := do
  match request with
  | .begin metadata =>
    match ← call (ctx.engine.begin · metadata) with
    | .ok tx =>
      modifySession fun s => { s with tx := some tx, state := next }
      succeed handler .empty
    | .error failure => fail handler failure
  | other => misrouted other .begin

def takeTx : Act σ π (Option TxId) := do
  let tx := (← get).session.tx
  modifySession fun s => { s with tx := none }
  return tx

def endTx {α : Type} (close : Instant → TxId → σ → Except Failure α × σ) (metadata : α → Dict Value)
    (next : ConnectionState) (handler : Handler) : Act σ π Unit := do
  match ← takeTx with
  | none => fail handler (.ofStatus .transactionNotFound "no open transaction")
  | some tx =>
    match ← call (close · tx) with
    | .ok answer =>
      setState next
      succeed handler (metadata answer)
    | .error failure => fail handler failure

def perform (action : Action) (request : Request) (next : ConnectionState) (handler : Handler) :
    Act σ π Unit :=
  match action with
  | .authenticate => authenticate ctx request handler
  | .run => run ctx request next handler
  | .pull | .discard => pull next handler
  | .begin => beginTx ctx request next handler
  | .commit =>
    endTx ctx.engine.commit (fun b => Dict.empty.insert bookmarkKey (.string b)) next handler
  | .rollback => endTx ctx.engine.rollback (fun _ => .empty) next handler
  | .reset => misrouted request .reset

end Act

end GraphProtocol
