import GraphProtocol.Message.Response
import GraphProtocol.Message.TxMetadata

/-!
# Queries

What a connection hands to a query engine, and what comes back: a failure, or a
stream of events that ends with a summary or a failure.
-/

set_option autoImplicit false

namespace GraphProtocol

structure Query where
  statement : String
  parameters : Dict Value
  metadata : TxMetadata

/-- When the query must have ended, if its options say so; nothing if the clock cannot tell. -/
def Query.deadline? (q : Query) (now : Instant) : Option (Option Instant) :=
  q.metadata.timeout.mapM (Instant.later? now)

structure TxId where
  number : Nat
  deriving DecidableEq, Repr

def TxId.toText (tx : TxId) : String := "tx-" ++ toString tx.number

inductive StreamEvent where
  | record (fields : List Value)
  /-- The result is complete. -/
  | done (summary : Dict Value)
  /-- The query failed after it was accepted. -/
  | failed (failure : Failure)
  deriving Inhabited

def StreamEvent.isTerminal : StreamEvent → Bool
  | .record _ => false
  | _ => true

def bookmarkKey : String := "bookmark"

end GraphProtocol
