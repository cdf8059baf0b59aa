/-!
# Unsigned numbers as text

Decimal digits, which a plus sign may precede. The value must not exceed a given
largest one.
-/

set_option autoImplicit false

namespace GraphProtocol.Text

def digit? (base : Nat) (c : Char) : Option Nat :=
  let value :=
    if c.isDigit then c.toNat - '0'.toNat
    else if 'a' ≤ c ∧ c ≤ 'f' then c.toNat - 'a'.toNat + 10
    else if 'A' ≤ c ∧ c ≤ 'F' then c.toNat - 'A'.toNat + 10
    else base
  if value < base then some value else none

def digits? (base : Nat) (cs : List Char) : Option Nat := do
  let values ← cs.mapM (digit? base)
  if values.isEmpty then none else some (values.foldl (fun n d => base * n + d) 0)

def afterPlus : List Char → List Char
  | '+' :: rest => rest
  | cs => cs

def unsigned? (largest : Nat) (cs : List Char) : Option Nat :=
  (digits? 10 (afterPlus cs)).filter (· ≤ largest)

def maxWord64 : Nat := UInt64.size - 1

def maxWord32 : Nat := UInt32.size - 1

def splitAt (separator : Char) : List Char → List Char → List (List Char)
  | [], piece => [piece.reverse]
  | c :: rest, piece =>
    if c = separator then piece.reverse :: splitAt separator rest []
    else splitAt separator rest (c :: piece)

def split (separator : Char) (cs : List Char) : List (List Char) := splitAt separator cs []

end GraphProtocol.Text
