import GraphProtocol.Query.Engine

/-!
# A scripted engine

An engine whose answers are laid down beforehand. It notes every call. Once the
script for a kind of call is used up, the call succeeds with nothing to show; the
stream of such a query closes without an event.
-/

set_option autoImplicit false

namespace GraphProtocol.Script

inductive Ending where
  /-- The stream is closed. -/
  | close
  /-- The stream stays open until the query is cancelled. -/
  | stall
  /-- The stream stays open for ever. -/
  | stuck
  deriving DecidableEq, Repr

structure Run where
  fields : List String
  events : List StreamEvent
  ending : Ending

inductive Call where
  /-- The flag tells whether the query was cancelled already. -/
  | execute (query : Query) (tx : Option TxId) (cancelled : Bool)
  | begin (metadata : TxMetadata)
  | commit (tx : TxId)
  | rollback (tx : TxId)

/-- The answers that are still to be given, and the calls so far. -/
structure Stage where
  runs : List (Except Failure Run)
  begins : List (Except Failure Unit)
  /-- The bookmarks of commits. -/
  commits : List (Except Failure String)
  rollbacks : List (Except Failure Unit)
  /-- The number of transactions that have been opened. -/
  transactions : Nat
  /-- The calls, the latest first. -/
  calls : List Call

namespace Stage

def note (s : Stage) (call : Call) : Stage := { s with calls := call :: s.calls }

def plainRun : Run := ⟨[], [], .close⟩

def plainBookmark : String := "bm"

def next {α : Type} (plain : α) (answers : List (Except Failure α)) : Except Failure α :=
  answers.headD (.ok plain)

def execute (s : Stage) (query : Query) (tx : Option TxId) (cancelled : Bool) :
    Except (Abort Failure) (List String × Run) × Stage :=
  let s := s.note (.execute query tx cancelled)
  let answer := (next plainRun s.runs).map fun run => (run.fields, run)
  (answer.mapError .error, { s with runs := s.runs.tail })

def begin (s : Stage) (metadata : TxMetadata) : Except Failure TxId × Stage :=
  let s := s.note (.begin metadata)
  let rest := { s with begins := s.begins.tail }
  match next () s.begins with
  | .ok () => (.ok ⟨s.transactions + 1⟩, { rest with transactions := s.transactions + 1 })
  | .error failure => (.error failure, rest)

def commit (s : Stage) (tx : TxId) : Except Failure String × Stage :=
  let s := s.note (.commit tx)
  (next plainBookmark s.commits, { s with commits := s.commits.tail })

def rollback (s : Stage) (tx : TxId) : Except Failure Unit × Stage :=
  let s := s.note (.rollback tx)
  (next () s.rollbacks, { s with rollbacks := s.rollbacks.tail })

end Stage

def Run.next (cancelled : Bool) (run : Run) : Emission Run :=
  match run.events with
  | event :: events => .event event { run with events }
  | [] =>
    match run.ending with
    | .close => .finished
    | .stall => if cancelled then .finished else .waiting
    | .stuck => .waiting

def capacity : Nat := UInt32.size

def engine : QueryEngine Stage Run where
  execute _ query tx cancelled s := s.execute query tx cancelled
  begin _ metadata s := s.begin metadata
  commit _ tx s := s.commit tx
  rollback _ tx s := s.rollback tx
  produce _ := Run.next
  stops run := run.ending != .stuck
  capacity := capacity

end GraphProtocol.Script
