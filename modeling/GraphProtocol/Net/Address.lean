import GraphProtocol.Text.Quoted
import GraphProtocol.Text.Unsigned

/-!
# Socket addresses

An address of the fourth or the sixth version of the internet protocol, and the
number of a service there, which stands behind a colon. The sixth version is
written in groups of hexadecimal digits, the longest run of zero groups left
out, and in brackets.
-/

set_option autoImplicit false

namespace GraphProtocol.Net

inductive Address where
  /-- Four numbers below 256. -/
  | v4 (octets : List Nat)
  /-- Eight numbers below 65536. -/
  | v6 (groups : List Nat)
  deriving DecidableEq, Repr

structure SocketAddress where
  address : Address
  /-- The number of the service at that address. -/
  service : Nat
  /-- The scope of an address of the sixth version. -/
  scope : Nat
  deriving DecidableEq, Repr

abbrev Reads (α : Type) := List Char → Option (α × List Char)

def expect (c : Char) : Reads Unit
  | [] => none
  | d :: rest => if c = d then some ((), rest) else none

def number (base width bound : Nat) (zeroFirst : Bool) : Reads Nat := fun cs => do
  let digits := cs.takeWhile fun c => (Text.digit? base c).isSome
  let n ← Text.digits? base digits
  if digits.length ≤ width ∧ n < bound ∧ (zeroFirst ∨ digits.length = 1 ∨ digits.head? ≠ some '0')
  then some (n, cs.drop digits.length) else none

def octet : Reads Nat := number 10 3 256 false

def octets : Reads (List Nat) := fun cs => do
  let (a, cs) ← octet cs
  let (b, cs) ← octet (← expect '.' cs).2
  let (c, cs) ← octet (← expect '.' cs).2
  let (d, cs) ← octet (← expect '.' cs).2
  return ([a, b, c, d], cs)

def group : Reads Nat := number 16 4 65536 true

def separate (isFirst : Bool) (cs : List Char) : Option (List Char) :=
  if isFirst then some cs else (expect ':' cs).map (·.2)

/-- Some groups, whether they end in an embedded address of the fourth version, and the rest
of the text. -/
structure Groups where
  groups : List Nat
  embedded : Bool
  rest : List Char

/-- At most `room` groups with colons between them, after those already read. The last two may
be written as four numbers with points. -/
def groupsOnto : Nat → List Nat → List Char → Groups
  | 0, read, cs => ⟨read, false, cs⟩
  | room + 1, read, cs =>
    match separate read.isEmpty cs with
    | none => ⟨read, false, cs⟩
    | some after =>
      match if 1 ≤ room then octets after else none with
      | some ([a, b, c, d], rest) => ⟨read ++ [a * 256 + b, c * 256 + d], true, rest⟩
      | _ =>
        match group after with
        | some (g, rest) => groupsOnto room (read ++ [g]) rest
        | none => ⟨read, false, cs⟩

/-- The eight groups of an address; a double colon stands for as many zeros as are missing, and
an embedded address cannot precede it. -/
def groups : Reads (List Nat) := fun cs => do
  let front := groupsOnto 8 [] cs
  if front.groups.length = 8 then return (front.groups, front.rest)
  if front.embedded then none
  let (_, cs) ← expect ':' front.rest
  let (_, cs) ← expect ':' cs
  let back := groupsOnto (7 - front.groups.length) [] cs
  let missing := 8 - front.groups.length - back.groups.length
  return (front.groups ++ List.replicate missing 0 ++ back.groups, back.rest)

def serviceNumber : Reads Nat := fun cs => do
  let (_, cs) ← expect ':' cs
  number 10 cs.length 65536 true cs

def scopeNumber : Reads Nat
  | '%' :: cs => number 10 cs.length UInt32.size true cs
  | cs => some (0, cs)

namespace SocketAddress

def readV4 : Reads SocketAddress := fun cs => do
  let (octets, cs) ← octets cs
  let (service, cs) ← serviceNumber cs
  return (⟨.v4 octets, service, 0⟩, cs)

def readV6 : Reads SocketAddress := fun cs => do
  let (_, cs) ← expect '[' cs
  let (groups, cs) ← groups cs
  let (scope, cs) ← scopeNumber cs
  let (_, cs) ← expect ']' cs
  let (service, cs) ← serviceNumber cs
  return (⟨.v6 groups, service, scope⟩, cs)

def ofText? (text : String) : Option SocketAddress :=
  match (readV4 text.toList).or (readV6 text.toList) with
  | some (address, []) => some address
  | _ => none

def zeroRun (groups : List Nat) : Nat := (groups.takeWhile (· == 0)).length

def longestRun (groups : List Nat) : Nat × Nat :=
  (List.range groups.length).foldl
    (fun best start =>
      let length := zeroRun (groups.drop start)
      if best.2 < length then (start, length) else best)
    (0, 0)

def octetsText (octets : List Nat) : String := ".".intercalate (octets.map toString)

def groupsText (groups : List Nat) : String :=
  ":".intercalate (groups.map fun g => String.ofList (Text.hexDigits g))

/-- An address of the sixth version. One that embeds an address of the fourth is written with
points. -/
def v6Text (groups : List Nat) : String :=
  match groups with
  | [0, 0, 0, 0, 0, 0xFFFF, a, b] =>
    "::ffff:" ++ octetsText [a / 256, a % 256, b / 256, b % 256]
  | _ =>
    let (start, length) := longestRun groups
    if length ≤ 1 then groupsText groups
    else groupsText (groups.take start) ++ "::" ++ groupsText (groups.drop (start + length))

def toText (a : SocketAddress) : String :=
  match a.address with
  | .v4 octets => octetsText octets ++ ":" ++ toString a.service
  | .v6 groups =>
    let scope := if a.scope = 0 then "" else "%" ++ toString a.scope
    "[" ++ v6Text groups ++ scope ++ "]:" ++ toString a.service

end SocketAddress

end GraphProtocol.Net
