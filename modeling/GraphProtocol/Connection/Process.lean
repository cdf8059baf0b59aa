import GraphProtocol.Connection.Pump
import GraphProtocol.Connection.Receive

/-!
# Working through the inbox

Messages are dealt with in the order of their arrival. While resets are waiting
in the inbox, everything but the last of them is ignored; the last one cleans up
and makes the connection ready again.
-/

set_option autoImplicit false

namespace GraphProtocol.Act

variable {σ π : Type} (ctx : Context σ π)

/-- Rolls the held transaction back; nobody is told if that fails. -/
def rollbackHeld : Act σ π Unit := do
  match ← takeTx with
  | none => return ()
  | some tx =>
    let _ ← call (ctx.engine.rollback · tx)
    return ()

def finishReset (handler : Handler) : Act σ π Unit := do
  rollbackHeld ctx
  modifySession (·.renewCancel)
  setState .ready
  succeed handler .empty

/-- Deals with a reset: all but the last are ignored, and the last one waits for the cancelled
query to end. -/
def reset (handler : Handler) : Act σ π Unit := do
  modifySession (·.acknowledge)
  if 0 < (← get).session.interrupts then ignore handler
  else
    modifySession (·.cancelExecution)
    match (← get).session.result with
    | none => finishReset ctx handler
    | some result =>
      dropResult
      modify fun a => { a with cleanup := some ⟨handler, result, a.now⟩ }

def finishCleanup : Act σ π Unit := do
  match (← get).cleanup with
  | none => return ()
  | some c =>
    modify fun a => { a with cleanup := none }
    finishReset ctx c.handler

def processUnknown (signature : UInt8) : Act σ π Unit := do
  if (← get).session.state = .connected then
    fatal (.handshake ("unexpected message " ++ Text.hexByte signature ++ " before INIT/HELLO"))
  queue .ignored
  modifyMetrics (·.countIgnored unknownName)

def isInterrupted (s : Session π) : Bool :=
  decide (s.state ≠ .connected) && decide (0 < s.interrupts)

def processInvalid (handler : Handler) (fault : RequestFault) : Act σ π Unit := do
  let session := (← get).session
  let failure := Failure.ofStatus .requestInvalid fault.message
  if session.state = .connected then
    respond handler (.failure failure)
    flush
    fatal (.protocol (.invalidRequest fault))
  else if isInterrupted session || session.state == .failed || session.state == .interrupted then
    ignore handler
  else fail handler failure

def processRequest (request : Request) (handler : Handler) : Act σ π Flow := do
  let session := (← get).session
  if isInterrupted session && handler.kind != .reset then
    ignore handler
    return .proceed
  match Decision.of session.version session.state handler.kind with
  | .close =>
    goodbye
    return .close
  | .fatal => fatal (.notInitialized handler.kind)
  | .ignore =>
    ignore handler
    return .proceed
  | .accept .reset _ =>
    reset ctx handler
    return .proceed
  | .accept action next =>
    perform ctx action request next handler
    return .proceed

def process : Inbound → Act σ π Flow
  | .request request handler => processRequest ctx request handler
  | .unknown signature => do
    processUnknown signature
    return .proceed
  | .invalid handler fault => do
    processInvalid handler fault
    return .proceed

def processNext : Act σ π Flow := do
  match (← get).inbox with
  | [] => return .proceed
  | inbound :: inbox =>
    modify fun a => { a with inbox }
    process ctx inbound

def release : Act σ π Unit := do
  modifySession (·.cancelExecution)
  modify fun a => { a with pulling := none, cleanup := none }
  dropResult
  rollbackHeld ctx

end GraphProtocol.Act
