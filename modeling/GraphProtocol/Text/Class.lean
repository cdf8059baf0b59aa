import GraphProtocol.Text.Alphabetic
import GraphProtocol.Text.Numeric
import GraphProtocol.Text.Blank

/-!
# Character classes

The classes that the statement language speaks of. ASCII characters are decided
without the tables.
-/

set_option autoImplicit false

namespace GraphProtocol.Text

def isAlphabetic (c : Char) : Bool :=
  if c.toNat < 128 then c.isAlpha else alphabetic.contains c

def isAlphanumeric (c : Char) : Bool :=
  if c.toNat < 128 then c.isAlphanum else alphabetic.contains c || numeric.contains c

def isBlank (c : Char) : Bool :=
  if c.toNat < 128 then c == ' ' || (9 ≤ c.toNat && c.toNat ≤ 13) else blank.contains c

def trim (cs : List Char) : List Char :=
  ((cs.dropWhile isBlank).reverse.dropWhile isBlank).reverse

end GraphProtocol.Text
