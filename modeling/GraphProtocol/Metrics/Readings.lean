import GraphProtocol.Dict
import GraphProtocol.Metrics.Basic
import GraphProtocol.Metrics.Histogram

/-!
# Readings

What a reader sees of metrics. A series is found by the hash of its label, so two
labels of one hash share the series of the first. A count is a whole number in a
floating-point cell: it grows by one until a further one no longer makes a difference.
-/

set_option autoImplicit false

namespace GraphProtocol

namespace Metrics

/-- The FNV-1a hash of a label. -/
def labelHash (label : String) : UInt64 :=
  label.toUTF8.data.toList.foldl (fun hash byte => (hash ^^^ byte.toUInt64) * 0x100000001b3)
    0xcbf29ce484222325

/-- From here on a floating-point cell has no room for the next whole number. -/
def largestCount : Nat := 0x20000000000000

def increment (n : Nat) : Nat := if n < largestCount then n + 1 else n

def shift (n step : Int) : Int := if (n + step).natAbs ≤ largestCount then n + step else n

def alterSeries {α : Type} (label : String) (start : α) (change : α → α) :
    List (String × α) → List (String × α)
  | [] => [(label, change start)]
  | first :: rest =>
    if labelHash first.1 = labelHash label then (first.1, change first.2) :: rest
    else first :: alterSeries label start change rest

end Metrics

structure Readings where
  connectionsTotal : Nat
  connectionsActive : Int
  handshakesRefused : Nat
  /-- By message. -/
  requests : Dict Nat
  /-- By status code. -/
  failures : Dict Nat
  /-- By message. -/
  ignored : Dict Nat
  /-- Seconds, by message. -/
  durations : Dict Histogram

namespace Readings

open Metrics

def fresh : Readings := ⟨0, 0, 0, .empty, .empty, .empty, .empty⟩

def count (label : String) (tally : Dict Nat) : Dict Nat :=
  ⟨alterSeries label 0 increment tally.entries⟩

def update (r : Readings) : Update → Readings
  | .connection => { r with connectionsTotal := increment r.connectionsTotal }
  | .opened => { r with connectionsActive := shift r.connectionsActive 1 }
  | .closed => { r with connectionsActive := shift r.connectionsActive (-1) }
  | .refusal => { r with handshakesRefused := increment r.handshakesRefused }
  | .request message => { r with requests := count message r.requests }
  | .failure code => { r with failures := count code r.failures }
  | .ignored message => { r with ignored := count message r.ignored }
  | .answer message seconds =>
    { r with durations := ⟨alterSeries message .empty (·.observe seconds) r.durations.entries⟩ }

end Readings

def Metrics.readings (m : Metrics) : Readings := m.updates.foldr (fun u r => r.update u) .fresh

end GraphProtocol
