/-!
# Lengths of time as text

A length of time is written in the largest unit that it fills, with as many
decimal places as it needs.
-/

set_option autoImplicit false

namespace GraphProtocol.Text

def dropTrailingZeros (digits : List Char) : List Char :=
  (digits.reverse.dropWhile (· == '0')).reverse

def padded (width n : Nat) : List Char :=
  let digits := Nat.toDigits 10 n
  List.replicate (width - digits.length) '0' ++ digits

def decimal (whole places fraction : Nat) : String :=
  let digits := dropTrailingZeros (padded places fraction)
  if digits.isEmpty then toString whole
  else toString whole ++ "." ++ String.ofList digits

def elapsed (nanos : Nat) : String :=
  if 1000000000 ≤ nanos then decimal (nanos / 1000000000) 9 (nanos % 1000000000) ++ "s"
  else if 1000000 ≤ nanos then decimal (nanos / 1000000) 6 (nanos % 1000000) ++ "ms"
  else if 1000 ≤ nanos then decimal (nanos / 1000) 3 (nanos % 1000) ++ "µs"
  else toString nanos ++ "ns"

end GraphProtocol.Text
