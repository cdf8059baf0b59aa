import GraphProtocol.Query.Engine
import GraphProtocol.Query.Literal.Rows

/-!
# Producing the events of a query

A production gives the records of a plan one by one and then the summary. The
deadline is looked at before each row, and cancellation before each event is
given out; a failure to find the rows and a missed deadline are reported even
when the query has been cancelled.
-/

set_option autoImplicit false

namespace GraphProtocol.Literal

inductive Phase where
  /-- Nothing has been done. -/
  | unstarted
  | rows (rows : Rows)
  /-- The last event has been given. -/
  | ended

structure Production where
  plan : Plan
  parameters : Dict Value
  /-- The last moment at which a row may be started. -/
  deadline : Option Instant
  /-- What the summary names as the state after the query. -/
  bookmark : Option String
  phase : Phase

namespace Production

def last (p : Production) (event : StreamEvent) : Emission Production :=
  .event event { p with phase := .ended }

def isLate (p : Production) (now : Instant) : Bool := p.deadline.any fun d => decide (d < now)

def summary (p : Production) : Dict Value :=
  p.bookmark.elim .empty fun b => Dict.empty.insert bookmarkKey (.string b)

def fromRows (p : Production) (rows : Rows) (now : Instant) (cancelled : Bool) :
    Emission Production :=
  match rows.next? with
  | none => if cancelled then .finished else p.last (.done p.summary)
  | some (row, rest) =>
    if p.isLate now then p.last (.failed QueryFault.timedOut.failure)
    else if cancelled then .finished
    else
      match p.plan.record p.parameters row with
      | .ok fields => .event (.record fields) { p with phase := .rows rest }
      | .error fault => p.last (.failed fault.failure)

def next (now : Instant) (cancelled : Bool) (p : Production) : Emission Production :=
  match p.phase with
  | .ended => .finished
  | .rows rows => p.fromRows rows now cancelled
  | .unstarted =>
    match p.plan.rows p.parameters with
    | .ok rows => p.fromRows rows now cancelled
    | .error fault => p.last (.failed fault.failure)

end Production

end GraphProtocol.Literal
