import GraphProtocol.Binary64.Decimal

/-!
# Histograms

Observations are counted in buckets with upper bounds. A not-a-number lies in no
bucket but counts as an observation.
-/

set_option autoImplicit false

namespace GraphProtocol

structure Histogram where
  /-- For every bound, the observations that lie under it and over the bound before. -/
  buckets : List UInt64
  sum : Binary64
  count : UInt64
  deriving DecidableEq, Repr

namespace Histogram

def bounds : List Binary64 :=
  [.ofRatio 5 10000, .ofRatio 1 1000, .ofRatio 5 1000, .ofRatio 1 100, .ofRatio 5 100,
    .ofRatio 1 10, .ofRatio 5 10, .ofRatio 1 1, .ofRatio 5 1]

def empty : Histogram := ⟨bounds.map fun _ => 0, .ofWord 0, 0⟩

def countIn (x : Binary64) : List Binary64 → List UInt64 → List UInt64
  | bound :: bounds, n :: ns => if x.le bound then (n + 1) :: ns else n :: countIn x bounds ns
  | _, ns => ns

def observe (h : Histogram) (x : Binary64) : Histogram :=
  ⟨countIn x bounds h.buckets, h.sum.add x, h.count + 1⟩

def runningTotals (start : UInt64) : List UInt64 → List UInt64
  | [] => []
  | n :: ns => (start + n) :: runningTotals (start + n) ns

def cumulative (h : Histogram) : List (Binary64 × UInt64) := bounds.zip (runningTotals 0 h.buckets)

end Histogram

end GraphProtocol
