import GraphProtocol.Instant
import GraphProtocol.Query.Basic
import GraphProtocol.Query.Cancel

/-!
# Query engines

An engine is a state with four calls, each of which may fail and still change
the state. A query whose deadline the clock cannot tell breaks down. The events
of a result come from a producer, which is asked for one event at a time and is
told whether its query has been cancelled.
-/

set_option autoImplicit false

namespace GraphProtocol

inductive Emission (π : Type) where
  | event (event : StreamEvent) (rest : π)
  /-- There will be no further event. -/
  | finished
  /-- There is no event now. -/
  | waiting

/-- A query engine with states `σ` and producers `π`. -/
structure QueryEngine (σ π : Type) where
  /-- Starts a query: the column names and the producer of its events. The flag tells
  whether the query is cancelled already. -/
  execute : Instant → Query → Option TxId → Bool → σ →
    Except (Abort Failure) (List String × π) × σ
  begin : Instant → TxMetadata → σ → Except Failure TxId × σ
  /-- Ends a transaction; the bookmark stands for everything up to it. -/
  commit : Instant → TxId → σ → Except Failure String × σ
  rollback : Instant → TxId → σ → Except Failure Unit × σ
  /-- The next event of a producer; the flag tells whether its query is cancelled. -/
  produce : Instant → Bool → π → Emission π
  /-- Whether a cancelled producer whose events are no longer wanted comes to an end. -/
  stops : π → Bool
  /-- The number of events that may wait to be taken. -/
  capacity : Nat

inductive StreamEnd where
  | done (summary : Dict Value)
  | failed (failure : Failure)
  /-- The producer finished without a terminal event, or has nothing more to give. -/
  | closed
  /-- As many records have been read as were wanted. -/
  | limit

/-- The next records of a producer, at most so many, after those already read, and how the reading
came to an end. -/
def QueryEngine.readOnto {σ π : Type} (engine : QueryEngine σ π) (now : Instant)
    (cancelled : Bool) : Nat → π → List (List Value) → List (List Value) × StreamEnd
  | 0, _, records => (records.reverse, .limit)
  | wanted + 1, producer, records =>
    match engine.produce now cancelled producer with
    | .event (.record fields) rest => engine.readOnto now cancelled wanted rest (fields :: records)
    | .event (.done summary) _ => (records.reverse, .done summary)
    | .event (.failed failure) _ => (records.reverse, .failed failure)
    | .finished | .waiting => (records.reverse, .closed)

def QueryEngine.read {σ π : Type} (engine : QueryEngine σ π) (now : Instant) (cancelled : Bool)
    (wanted : Nat) (producer : π) : List (List Value) × StreamEnd :=
  engine.readOnto now cancelled wanted producer []

structure ResultStream (π : Type) where
  fields : List String
  /-- Tells the producer whether its query is cancelled. -/
  token : CancelToken
  /-- Events that have arrived and have not been taken. -/
  ready : List StreamEvent
  /-- Where further events come from. -/
  producer : Option π

namespace ResultStream

variable {σ π : Type}

def start (fields : List String) (token : CancelToken) (producer : π) : ResultStream π :=
  ⟨fields, token, [], some producer⟩

def takeReady? (r : ResultStream π) : Option (StreamEvent × ResultStream π) :=
  match r.ready with
  | [] => none
  | event :: ready => some (event, { r with ready })

def isExhausted (r : ResultStream π) : Bool := r.ready.isEmpty && r.producer.isNone

def produceOnto (engine : QueryEngine σ π) (now : Instant) (cancelled : Bool) :
    Nat → π → List StreamEvent → List StreamEvent × Option π
  | 0, producer, events => (events, some producer)
  | room + 1, producer, events =>
    match engine.produce now cancelled producer with
    | .event event rest => produceOnto engine now cancelled room rest (event :: events)
    | .finished => (events, none)
    | .waiting => (events, some producer)

def fill (engine : QueryEngine σ π) (now : Instant) (signal : CancelSignal) (count : Nat)
    (r : ResultStream π) : ResultStream π :=
  match r.producer with
  | none => r
  | some producer =>
    let room := min count (engine.capacity - r.ready.length)
    let (events, rest) := produceOnto engine now (signal.isCancelled r.token) room producer []
    { r with ready := r.ready ++ events.reverse, producer := rest }

def stops (engine : QueryEngine σ π) (r : ResultStream π) : Bool := r.producer.all engine.stops

end ResultStream

end GraphProtocol
