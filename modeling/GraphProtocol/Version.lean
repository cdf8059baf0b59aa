/-!
# Protocol versions

Each version keeps what the one before it has. The second adds byte arrays,
points and calendar values, the third adds explicit transactions and the
greeting that replaces the initialisation.
-/

set_option autoImplicit false

namespace GraphProtocol

inductive Version where
  | v1
  | v2
  | v3
  deriving DecidableEq, Repr

namespace Version

def all : List Version := [.v3, .v2, .v1]

def number : Version → Nat
  | v1 => 1
  | v2 => 2
  | v3 => 3

def ofNumber? : Nat → Option Version
  | 1 => some v1
  | 2 => some v2
  | 3 => some v3
  | _ => none

def name (v : Version) : String := "v" ++ toString v.number

def hasExtendedValues (v : Version) : Bool := 2 ≤ v.number

def hasTransactions (v : Version) : Bool := 3 ≤ v.number

def usesHello (v : Version) : Bool := 3 ≤ v.number

@[simp] theorem ofNumber?_number (v : Version) : ofNumber? v.number = some v := by
  cases v <;> rfl

end Version

end GraphProtocol
