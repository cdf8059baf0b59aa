import GraphProtocol.Connection.Basic

/-!
# Receiving messages

Received bytes become messages, and messages wait in the inbox in the order of
their arrival. Two requests act as soon as they are read: a reset interrupts what
is going on, and a goodbye ends the connection.
-/

set_option autoImplicit false

namespace GraphProtocol.Act

variable {σ π : Type}

def enqueue (inbound : Inbound) : Act σ π Unit :=
  modify fun a => { a with inbox := a.inbox ++ [inbound] }

def interrupt : Act σ π Unit := do
  modifySession (·.interrupt)
  match (← get).pulling with
  | none => return ()
  | some p =>
    modify fun a => { a with pulling := none }
    ignore p.handler

def goodbye : Act σ π Unit := do
  modifySession (·.cancelExecution)
  modify fun a => { a with pulling := none, inbox := [] }

def unknownName : String := "UNKNOWN"

def receiveMessage (message : List UInt8) : Act σ π Flow := do
  let now := (← get).now
  modifySession (·.recordRequest now)
  match Request.decode (← get).session.version message with
  | .ok (request, reply) => do
    let kind := request.kind
    modifyMetrics (·.countRequest kind.name)
    if kind = .goodbye then
      goodbye
      return .close
    if kind = .reset then interrupt
    enqueue (.request request (.fresh kind reply now))
    return .proceed
  | .error (.unknownSignature signature) => do
    modifyMetrics (·.countRequest unknownName)
    enqueue (.unknown signature)
    return .proceed
  | .error (.invalid kind fault) => do
    modifyMetrics (·.countRequest kind.name)
    enqueue (.invalid (.fresh kind .summary now) fault)
    return .proceed
  | .error (.fatal e) => fatal (.protocol e)

def receiveMessages : List (List UInt8) → Act σ π Flow
  | [] => return .proceed
  | message :: rest => do
    match ← receiveMessage message with
    | .close => return .close
    | .proceed => receiveMessages rest

/-- Takes in bytes; the messages in front of refused bytes are taken in first. -/
def receive (bytes : List UInt8) : Act σ π Flow := do
  let now := (← get).now
  modifySession fun s => { s with lastActivity := now }
  let (messages, refusal, dechunker) := ((← get).dechunker.extend bytes).drain
  modify fun a => { a with dechunker }
  match ← receiveMessages messages with
  | .close => return .close
  | .proceed =>
    match refusal with
    | some e => fatal (.protocol e)
    | none => return .proceed

end GraphProtocol.Act
