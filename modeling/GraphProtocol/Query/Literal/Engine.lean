import GraphProtocol.Query.Literal.Production
import GraphProtocol.Text.Unsigned

/-!
# The engine for literal queries

It keeps open transactions, numbered from one, and numbers the states that
bookmarks stand for. A bookmark is valid if its number has been given out. A
transaction that is found to have lasted too long is rolled back on the spot.
-/

set_option autoImplicit false

namespace GraphProtocol.Literal

structure OpenTransaction where
  started : Instant
  timeout : Option Span
  deriving DecidableEq, Repr

def OpenTransaction.isExpired (t : OpenTransaction) (now : Instant) : Bool :=
  t.timeout.any fun limit => Instant.exceeds now t.started limit

structure Store where
  transactions : List (TxId × OpenTransaction)
  /-- The number of the last transaction. -/
  lastTx : Nat
  /-- The number of the last bookmark. -/
  lastBookmark : Nat
  deriving DecidableEq, Repr

namespace Store

def empty : Store := ⟨[], 0, 0⟩

def openCount (s : Store) : Nat := s.transactions.length

def find? (s : Store) (tx : TxId) : Option OpenTransaction :=
  (s.transactions.find? (·.1 == tx)).map (·.2)

def erase (s : Store) (tx : TxId) : Store :=
  { s with transactions := s.transactions.filter (·.1 != tx) }

def bookmarkPrefix : String := "graphwire:bookmark:v1:tx"

def bookmark (number : Nat) : String := bookmarkPrefix ++ toString number

def afterPrefix? : List Char → List Char → Option (List Char)
  | [], text => some text
  | _ :: _, [] => none
  | p :: ps, c :: cs => if p = c then afterPrefix? ps cs else none

def bookmarkNumber? (b : String) : Option Nat :=
  (afterPrefix? bookmarkPrefix.toList b.toList).bind (Text.unsigned? Text.maxWord64)

def isValidBookmark (s : Store) (b : String) : Bool :=
  (bookmarkNumber? b).any fun n => decide (n ≤ s.lastBookmark)

def checkBookmarks (s : Store) (bookmarks : List String) : Except QueryFault Unit :=
  match bookmarks.find? fun b => !s.isValidBookmark b with
  | some b => .error (.invalidBookmark b)
  | none => .ok ()

def nextBookmark (s : Store) : String × Store :=
  (bookmark (s.lastBookmark + 1), { s with lastBookmark := s.lastBookmark + 1 })

def ensureLive (s : Store) (now : Instant) (tx : TxId) : Except QueryFault Unit × Store :=
  match s.find? tx with
  | none => (.error (.transactionNotFound tx), s)
  | some t =>
    if t.isExpired now then (.error (.transactionTimedOut tx), s.erase tx) else (.ok (), s)

/-- Whether a query may run now: inside a transaction that must be live, or alone with
bookmarks that must be valid. -/
def allow (s : Store) (now : Instant) (query : Query) : Option TxId → Except QueryFault Unit × Store
  | some tx => s.ensureLive now tx
  | none => (s.checkBookmarks query.metadata.bookmarks, s)

def plan (query : Query) : Except QueryFault Plan := do
  let plan ← Plan.parse query.statement
  match plan.missingParameters query.parameters with
  | [] => return plan
  | names => throw (.missingParameters names)

/-- Starts a query. Outside a transaction it is given a bookmark and its own deadline, and it breaks
down if the clock cannot tell the deadline. -/
def execute (s : Store) (now : Instant) (query : Query) (tx : Option TxId) :
    Except (Abort QueryFault) (List String × Production) × Store :=
  match s.allow now query tx with
  | (.error fault, s) => (.error (.error fault), s)
  | (.ok (), s) =>
    match plan query with
    | .error fault => (.error (.error fault), s)
    | .ok plan =>
      let production (deadline : Option Instant) (bookmark : Option String) : Production :=
        ⟨plan, query.parameters, deadline, bookmark, .unstarted⟩
      match tx with
      | some _ => (.ok (plan.columns, production none none), s)
      | none =>
        let (bookmark, s) := s.nextBookmark
        match query.deadline? now with
        | none => (.error .breakdown, s)
        | some deadline => (.ok (plan.columns, production deadline (some bookmark)), s)

def begin (s : Store) (now : Instant) (metadata : TxMetadata) : Except QueryFault TxId × Store :=
  match s.checkBookmarks metadata.bookmarks with
  | .error fault => (.error fault, s)
  | .ok () =>
    let tx : TxId := ⟨s.lastTx + 1⟩
    (.ok tx, { s with
      transactions := (tx, ⟨now, metadata.timeout⟩) :: s.transactions
      lastTx := s.lastTx + 1 })

def commit (s : Store) (now : Instant) (tx : TxId) : Except QueryFault String × Store :=
  match s.find? tx with
  | none => (.error (.transactionNotFound tx), s)
  | some t =>
    let s := s.erase tx
    if t.isExpired now then (.error (.transactionTimedOut tx), s)
    else
      let (bookmark, s) := s.nextBookmark
      (.ok bookmark, s)

def rollback (s : Store) (tx : TxId) : Except QueryFault Unit × Store :=
  match s.find? tx with
  | none => (.error (.transactionNotFound tx), s)
  | some _ => (.ok (), s.erase tx)

end Store

def told {α ε δ : Type} (tell : ε → δ) (outcome : Except ε α × Store) : Except δ α × Store :=
  (outcome.1.mapError tell, outcome.2)

def resultCapacity : Nat := 64

def engine : QueryEngine Store Production where
  execute now query tx _ s := told (Abort.map QueryFault.failure) (s.execute now query tx)
  begin now metadata s := told QueryFault.failure (s.begin now metadata)
  commit now tx s := told QueryFault.failure (s.commit now tx)
  rollback _ tx s := told QueryFault.failure (s.rollback tx)
  produce := Production.next
  stops _ := true
  capacity := resultCapacity

end GraphProtocol.Literal
