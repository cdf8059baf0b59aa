import GraphProtocol.Query.Literal.Engine

/-!
# Calls that overlap

Any number of calls of one engine may be under way at once. A call takes turns, and in each it uses
the shared state once at most: it reads or raises a counter, or it looks into the table of
transactions under its lock. What it works out for itself belongs to the turn before.
-/

set_option autoImplicit false

namespace GraphProtocol.Literal

inductive Call where
  | execute (query : Query) (tx : Option TxId)
  | begin (metadata : TxMetadata)
  | commit (tx : TxId)
  | rollback (tx : TxId)

inductive Outcome where
  | started (columns : List String) (production : Production)
  | begun (tx : TxId)
  | committed (tx : TxId) (bookmark : String)
  | rolledBack (tx : TxId)
  /-- The transaction was found to have lasted too long. -/
  | expired (tx : TxId)
  | failed (fault : QueryFault)
  /-- The clock cannot tell the deadline of the query, and the bookmark is lost. -/
  | brokenDown (bookmark : String)

namespace Outcome

def ofFault : QueryFault → Outcome
  | .transactionTimedOut tx => expired tx
  | fault => failed fault

def begun? : Outcome → Option TxId
  | begun tx => some tx
  | _ => none

def ended? : Outcome → Option TxId
  | committed tx _ | rolledBack tx => some tx
  | _ => none

def expired? : Outcome → Option TxId
  | expired tx => some tx
  | _ => none

def bookmark? : Outcome → Option String
  | committed _ bookmark => some bookmark
  | started _ production => production.bookmark
  | _ => none

def allotted? : Outcome → Option String
  | brokenDown bookmark => some bookmark
  | outcome => outcome.bookmark?

def isFailure : Outcome → Bool
  | expired _ | failed _ => true
  | _ => false

end Outcome

inductive Task where
  | asked (call : Call)
  /-- A query outside of transactions that may run needs a bookmark. -/
  | launching (query : Query) (plan : Plan)
  /-- A transaction that may be opened needs a number. -/
  | numbering (metadata : TxMetadata)
  /-- A transaction that has a number is to be entered in the table. -/
  | opening (tx : TxId) (metadata : TxMetadata)
  /-- A transaction that has been taken out of the table in time needs a bookmark. -/
  | sealing (tx : TxId)

inductive Progress where
  | going (task : Task)
  | done (outcome : Outcome)

def Progress.outcome? : Progress → Option Outcome
  | going _ => none
  | done outcome => some outcome

def Store.enter (s : Store) (now : Instant) : Call → Progress × Store
  | .execute query tx =>
    match s.allow now query tx with
    | (.error fault, s) => (.done (.ofFault fault), s)
    | (.ok (), s) =>
      match plan query, tx with
      | .error fault, _ => (.done (.failed fault), s)
      | .ok plan, some _ =>
        (.done (.started plan.columns ⟨plan, query.parameters, none, none, .unstarted⟩), s)
      | .ok plan, none => (.going (.launching query plan), s)
  | .begin metadata =>
    match s.checkBookmarks metadata.bookmarks with
    | .error fault => (.done (.failed fault), s)
    | .ok () => (.going (.numbering metadata), s)
  | .commit tx =>
    match s.find? tx with
    | none => (.done (.failed (.transactionNotFound tx)), s)
    | some t =>
      if t.isExpired now then (.done (.expired tx), s.erase tx)
      else (.going (.sealing tx), s.erase tx)
  | .rollback tx =>
    match s.find? tx with
    | none => (.done (.failed (.transactionNotFound tx)), s)
    | some _ => (.done (.rolledBack tx), s.erase tx)

def Store.advance (s : Store) (now : Instant) : Task → Progress × Store
  | .asked call => s.enter now call
  | .launching query plan =>
    let (bookmark, s) := s.nextBookmark
    match query.deadline? now with
    | none => (.done (.brokenDown bookmark), s)
    | some deadline =>
      (.done (.started plan.columns ⟨plan, query.parameters, deadline, some bookmark, .unstarted⟩),
        s)
  | .numbering metadata =>
    (.going (.opening ⟨s.lastTx + 1⟩ metadata), { s with lastTx := s.lastTx + 1 })
  | .opening tx metadata =>
    (.done (.begun tx), { s with transactions := (tx, ⟨now, metadata.timeout⟩) :: s.transactions })
  | .sealing tx =>
    let (bookmark, s) := s.nextBookmark
    (.done (.committed tx bookmark), s)

/-- The engine with all calls that are ever made of it. -/
structure System where
  store : Store
  progress : Nat → Progress
  /-- How calls have ended so far, in order. -/
  outcomes : List Outcome

namespace System

def start (calls : Nat → Call) : System := ⟨.empty, fun i => .going (.asked (calls i)), []⟩

def note (w : System) (i : Nat) (progress : Progress) (store : Store) : System where
  store
  progress j := if j = i then progress else w.progress j
  outcomes := w.outcomes ++ progress.outcome?.toList

def turn (w : System) (i : Nat) (now : Instant) : System :=
  match w.progress i with
  | .done _ => w
  | .going task =>
    let (progress, store) := w.store.advance now task
    w.note i progress store

def run (w : System) (turns : List (Nat × Instant)) : System :=
  turns.foldl (fun w t => w.turn t.1 t.2) w

def begun (w : System) : List TxId := w.outcomes.filterMap Outcome.begun?

def ended (w : System) : List TxId := w.outcomes.filterMap Outcome.ended?

def expired (w : System) : List TxId := w.outcomes.filterMap Outcome.expired?

def bookmarks (w : System) : List String := w.outcomes.filterMap Outcome.bookmark?

def allotted (w : System) : List String := w.outcomes.filterMap Outcome.allotted?

end System

end GraphProtocol.Literal
