import GraphProtocol.Binary64.Basic

/-!
# Decimal text of floating-point words

A finite number is written with the fewest significant digits that read back
as the same number, always in positional notation. Of two candidates with that
many digits the nearer is taken, and the larger one on a tie. Whole numbers
have no fractional part in their text.
-/

set_option autoImplicit false

namespace GraphProtocol.Binary64

/-- The number `coefficient * 10 ^ exponent`. -/
structure Decimal where
  coefficient : Nat
  exponent : Int
  deriving DecidableEq, Repr

/-- The positive number and the ends of the interval that rounds to it, in a common unit. -/
structure Interval where
  low : Nat
  value : Nat
  high : Nat
  /-- Whether the ends themselves round to the number. -/
  closed : Bool
  /-- The unit is this power of two. -/
  scale : Int
  deriving Repr

def interval (x : Binary64) : Interval :=
  let m := x.significand
  let belowGap := if m == exponentWeight && x.scale > -1074 then 1 else 2
  { low := 4 * m - belowGap
    value := 4 * m
    high := 4 * m + 2
    closed := m % 2 == 0
    scale := x.scale - 2 }

namespace Interval

def onGrid (i : Interval) (k : Int) : Nat × Nat :=
  (Nat.pow 10 (-k).toNat <<< i.scale.toNat, Nat.pow 10 k.toNat <<< (-i.scale).toNat)

def below (i : Interval) (p : Int) : Bool :=
  let (f, den) := i.onGrid p
  i.value * f < den

def decade (i : Interval) : Nat → Int → Int
  | 0, p => p
  | fuel + 1, p => if i.below p then p else i.decade fuel (p + 1)

def decadeEstimate (i : Interval) : Int :=
  ((i.value.log2 : Int) + i.scale) * 30102 / 100000 - 1

def onGrid? (i : Interval) (k : Int) : Option Nat :=
  let (f, den) := i.onGrid k
  let value := i.value * f
  let c := value / den
  let downHits := if i.closed then i.low * f ≤ c * den else i.low * f < c * den
  let upHits := if i.closed then (c + 1) * den ≤ i.high * f else (c + 1) * den < i.high * f
  if downHits && upHits then
    some (if 2 * (value % den) < den then c else c + 1)
  else if downHits then some c
  else if upHits then some (c + 1)
  else none

def firstHit (i : Interval) (p : Int) : Nat → Nat → Decimal
  | 0, n => ⟨0, p - n⟩
  | fuel + 1, n =>
    match i.onGrid? (p - n) with
    | some c => ⟨c, p - n⟩
    | none => i.firstHit p fuel (n + 1)

end Interval

def shortest (x : Binary64) : Decimal :=
  let i := x.interval
  i.firstHit (i.decade 8 i.decadeEstimate) 17 1

def stripZeros (digits : List Char) : List Char :=
  (digits.reverse.dropWhile (· == '0')).reverse

def Decimal.positional (d : Decimal) : List Char :=
  let digits := Nat.toDigits 10 d.coefficient
  let point : Int := digits.length + d.exponent
  let digits := stripZeros digits
  if point ≤ 0 then
    '0' :: '.' :: (List.replicate (-point).toNat '0' ++ digits)
  else if point < digits.length then
    digits.take point.toNat ++ '.' :: digits.drop point.toNat
  else
    digits ++ List.replicate (point.toNat - digits.length) '0'

def toText (x : Binary64) : String :=
  if x.isNaN then "NaN"
  else
    let magnitude :=
      if x.isInfinite then "inf"
      else if x.isZero then "0"
      else String.ofList x.shortest.positional
    if x.isNegative then "-" ++ magnitude else magnitude

def ofDigits (whole fraction : List Char) : Binary64 :=
  let digitsValue (cs : List Char) : Nat := cs.foldl (fun n c => 10 * n + (c.toNat - '0'.toNat)) 0
  ofRatio (digitsValue (whole ++ fraction)) (Nat.pow 10 fraction.length)

end GraphProtocol.Binary64
