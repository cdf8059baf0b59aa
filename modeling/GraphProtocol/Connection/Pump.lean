import GraphProtocol.Connection.Perform

/-!
# Sending a result

The events of the result that is being pulled are handled in batches, one event
at a time; the producer may give more of them in between. A batch ends when no
event is at hand, when the result is complete, when much waits to be written, or
after a fixed number of events. The event at hand when that number is reached is
taken and lost.
-/

set_option autoImplicit false

namespace GraphProtocol.Act

variable {σ π : Type}

def batchSize : Nat := 256

def summary (version : Version) (handler : Handler) (now : Instant) (summary : Dict Value) :
    Dict Value :=
  let known := if version.usesHello then summary else summary.erase bookmarkKey
  if handler.kind = .discardAll then
    if version.usesHello then known else .empty
  else
    let typed := if known.contains "type" then known else known.insert "type" (.string "r")
    typed.insert version.consumedKey (handler.millis now)

def dropResult : Act σ π Unit := modifySession fun s => { s with result := none }

/-- Handles one event of the result that is being pulled, or its end without a terminal
event. Tells whether more may follow. -/
def handleEvent (event : Option StreamEvent) : Act σ π Bool := do
  match (← get).pulling with
  | none => return false
  | some p =>
    modify fun a => { a with pulling := none }
    match event with
    | some (.record fields) =>
      let (handler, outcome) := p.handler.record (← get).outbox fields
      match outcome with
      | .ok (_, outbox) =>
        modify fun a => { a with outbox, pulling := some { p with handler } }
        return true
      | .error .breakdown => throw .breakdown
      | .error (.error e) =>
        if e.isFatal then fatal (.protocol e)
        fail handler (.ofStatus .requestInvalid e.message)
        return false
    | some (.done metadata) =>
      dropResult
      let a ← get
      setState p.next
      succeed p.handler (summary a.session.version p.handler a.now metadata)
      return false
    | some (.failed failure) =>
      dropResult
      fail p.handler failure
      return false
    | none =>
      dropResult
      fail p.handler (.ofStatus .unknownError "result stream ended unexpectedly")
      return false

def takeEvent : Act σ π (Option StreamEvent) := do
  match (← get).session.result.bind ResultStream.takeReady? with
  | none => return none
  | some (event, result) =>
    modifySession fun s => { s with result := some result }
    return some event

def endBatch : Act σ π Unit := do
  modify fun a => { a with batch := none }
  flush

def handleInBatch (left : Nat) (event : Option StreamEvent) : Act σ π Unit := do
  let goesOn ← handleEvent event
  if !goesOn || (← get).outbox.isFull then endBatch
  else modify fun a => { a with batch := some left }

def pump : Act σ π Unit := do
  let batch := (← get).batch
  match batch, ← takeEvent with
  | none, event => handleInBatch (batchSize - 1) event
  | some _, none | some 0, some _ => endBatch
  | some (left + 1), some event => handleInBatch left (some event)

end GraphProtocol.Act
