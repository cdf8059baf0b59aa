/-!
# Sets of code points

A set is written as the increasing list of the code points at which membership
changes. A code point belongs to the set when an odd number of boundaries is at
or below it.
-/

set_option autoImplicit false

namespace GraphProtocol.Text

/-- A set of code points, given by the places where membership changes. -/
structure CodePointSet where
  boundaries : List Nat

/-- Walks the boundaries; `inside` tells whether the code points before the next one belong. -/
def memberFrom (inside : Bool) (code : Nat) : List Nat → Bool
  | [] => inside
  | boundary :: rest => if code < boundary then inside else memberFrom (!inside) code rest

def CodePointSet.contains (s : CodePointSet) (c : Char) : Bool :=
  memberFrom false c.toNat s.boundaries

end GraphProtocol.Text
