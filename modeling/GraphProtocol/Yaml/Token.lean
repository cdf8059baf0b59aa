import GraphProtocol.Yaml.Scalar

/-!
# Tokens

A document is a row of tokens. Brackets, dashes, commas and scalars are tokens of
their own. Indentation opens and closes blocks, and a key is told from other
content only by the colon behind it. So a place where a key may begin is kept in
mind, and the token for the key is put there once the colon has been found. A key
has to be on one line with its colon and not too far from it.
-/

set_option autoImplicit false

namespace GraphProtocol.Yaml

inductive Token where
  | documentStart
  | documentEnd
  | blockSequence
  | blockMapping
  /-- Closes the innermost block. -/
  | blockEnd
  | flowSequence
  | flowSequenceEnd
  | flowMapping
  | flowMappingEnd
  /-- The dash of an item. -/
  | blockItem
  /-- The comma of a flow collection. -/
  | comma
  | key
  | value
  | scalar (text : String) (isPlain : Bool)
  deriving DecidableEq, Repr

/-- A place where a key may begin. -/
structure KeyPlace where
  /-- The number of tokens before it. -/
  tokens : Nat
  line : Nat
  column : Nat
  index : Nat
  /-- Whether there has to be a key because the line begins where keys of the block begin. -/
  isRequired : Bool
  deriving Repr

structure Scanner where
  cursor : Cursor
  /-- The columns of the open blocks, the innermost first. -/
  indents : List Nat
  /-- Where a key may begin within the innermost flow collection, or within the block. -/
  keyPlace : Option KeyPlace
  /-- The same for the collections around it, the innermost first. -/
  outerPlaces : List (Option KeyPlace)
  /-- Whether a key may begin here. -/
  mayBeginKey : Bool
  tokens : Array Token
  deriving Repr

namespace Scanner

def start (document : List Char) : Scanner where
  cursor := .start document
  indents := []
  keyPlace := none
  outerPlaces := []
  mayBeginKey := true
  tokens := #[]

def inFlow (s : Scanner) : Bool := !s.outerPlaces.isEmpty

def emit (token : Token) (s : Scanner) : Scanner := { s with tokens := s.tokens.push token }

def skip (count : Nat) (s : Scanner) : Scanner := { s with cursor := s.cursor.steps count }

/-- Passes over blanks, comments and line breaks. A tab in a margin is none of these. A new line
may begin with a key. -/
def passGaps (inFlow isComment mayBeginKey : Bool) (c : Cursor) : Bool × Cursor :=
  match _h : c.rest with
  | [] => (mayBeginKey, c)
  | d :: _ =>
    if isBreak d then passGaps inFlow false (mayBeginKey || !inFlow) c.step
    else if isComment then passGaps inFlow true mayBeginKey c.step
    else if d == ' ' || (d == '\t' && (inFlow || !mayBeginKey)) then
      passGaps inFlow false mayBeginKey c.step
    else if d == '#' then passGaps inFlow true mayBeginKey c.step
    else (mayBeginKey, c)
termination_by c.rest.length
decreasing_by all_goals exact Cursor.length_step_lt _h

def pass (s : Scanner) : Scanner :=
  let (mayBeginKey, cursor) := passGaps s.inFlow false s.mayBeginKey s.cursor
  { s with mayBeginKey, cursor }

/-- Gives up the place of a key; none if there has to be a key. -/
def dropKey (s : Scanner) : Option Scanner :=
  if s.keyPlace.any KeyPlace.isRequired then none else some { s with keyPlace := none }

def maxKeyLength : Nat := 1024

def isKeyStale (s : Scanner) : Bool :=
  s.keyPlace.any fun place =>
    decide (place.line < s.cursor.line) || decide (place.index + maxKeyLength < s.cursor.index)

def dropStaleKey (s : Scanner) : Option Scanner := if s.isKeyStale then s.dropKey else some s

def markKey (s : Scanner) : Option Scanner :=
  if s.mayBeginKey then do
    let c := s.cursor
    let isRequired := !s.inFlow && s.indents.head? == some c.column
    let s ← s.dropKey
    return { s with keyPlace := some ⟨s.tokens.size, c.line, c.column, c.index, isRequired⟩ }
  else some s

def closeBlocks (stays : Nat → Bool) (s : Scanner) : Scanner :=
  if s.inFlow then s
  else
    let closed := s.indents.takeWhile fun column => !stays column
    { s with
      indents := s.indents.drop closed.length
      tokens := s.tokens ++ List.replicate closed.length Token.blockEnd }

def insert (place : Nat) (added : List Token) (s : Scanner) : Scanner :=
  { s with tokens := s.tokens.extract 0 place ++ added ++ s.tokens.extract place }

def openBlock (column place : Nat) (token : Token) (s : Scanner) : Scanner :=
  if !s.inFlow && s.indents.head?.all (· < column) then
    { s.insert place [token] with indents := column :: s.indents }
  else s

/-- Opens a block here if this column is right of all open ones; none if no key may begin
here. Within a flow collection nothing happens. -/
def openHere (token : Token) (s : Scanner) : Option Scanner :=
  if s.inFlow then some s
  else if s.mayBeginKey then some (s.openBlock s.cursor.column s.tokens.size token)
  else none

def marker (token : Token) (s : Scanner) : Option Scanner := do
  let s ← (s.closeBlocks fun _ => false).dropKey
  return ({ s with mayBeginKey := false }.skip 3).emit token

def openFlow (token : Token) (s : Scanner) : Option Scanner := do
  let s ← s.markKey
  let s := { s with keyPlace := none, outerPlaces := s.keyPlace :: s.outerPlaces }
  return ({ s with mayBeginKey := true }.skip 1).emit token

def closeFlow (token : Token) (s : Scanner) : Option Scanner := do
  let s ← s.dropKey
  let s := { s with keyPlace := s.outerPlaces.head?.join, outerPlaces := s.outerPlaces.tail }
  return ({ s with mayBeginKey := false }.skip 1).emit token

def comma (s : Scanner) : Option Scanner := do
  let s ← s.dropKey
  return ({ s with mayBeginKey := true }.skip 1).emit .comma

def item (s : Scanner) : Option Scanner := do
  let s ← s.openHere .blockSequence
  let s ← s.dropKey
  return ({ s with mayBeginKey := true }.skip 1).emit .blockItem

def key (s : Scanner) : Option Scanner := do
  let s ← s.openHere .blockMapping
  let s ← s.dropKey
  return ({ s with mayBeginKey := !s.inFlow }.skip 1).emit .key

def value (s : Scanner) : Option Scanner :=
  match s.keyPlace with
  | some place =>
    let s := (s.insert place.tokens [.key]).openBlock place.column place.tokens .blockMapping
    some (({ s with keyPlace := none, mayBeginKey := false }.skip 1).emit .value)
  | none => do
    let s ← s.openHere .blockMapping
    return ({ s with mayBeginKey := !s.inFlow }.skip 1).emit .value

def scalar (read : Cursor → Option (Scalar × Cursor)) (s : Scanner) : Option Scanner := do
  let s ← s.markKey
  let (scalar, cursor) ← read s.cursor
  return { s with cursor, mayBeginKey := scalar.endsLine }.emit
    (.scalar scalar.text scalar.isPlain)

def margin (s : Scanner) : Nat := (s.indents.head?.map (· + 1)).getD 0

def take (c : Char) (rest : List Char) (s : Scanner) : Option Scanner :=
  if s.cursor.isAtMarker '-' then s.marker .documentStart
  else if s.cursor.isAtMarker '.' then s.marker .documentEnd
  else if c == '%' && s.cursor.column == 0 then none
  else if c == '[' then s.openFlow .flowSequence
  else if c == '{' then s.openFlow .flowMapping
  else if c == ']' then s.closeFlow .flowSequenceEnd
  else if c == '}' then s.closeFlow .flowMappingEnd
  else if c == ',' then s.comma
  else if c == '-' && endsWord rest then s.item
  else if c == '?' && (s.inFlow || endsWord rest) then s.key
  else if c == ':' && (s.inFlow || endsWord rest) then s.value
  else if c == '\'' then s.scalar fun cursor => singleQuoted [] .none cursor.step
  else if c == '"' then s.scalar fun cursor => doubleQuoted [] .none cursor.step
  else if startsPlain s.inFlow (c :: rest) then
    s.scalar fun cursor => plainScalar s.inFlow s.margin [] .none cursor
  else none

/-- Takes everything that is left. Every token takes a character, so the length of the document
is fuel enough. -/
def run : Nat → Scanner → Option (List Token)
  | 0, _ => none
  | fuel + 1, s => do
    let s ← s.pass.dropStaleKey
    let s := s.closeBlocks (· ≤ s.cursor.column)
    match s.cursor.rest with
    | [] => ((s.closeBlocks fun _ => false).dropKey).map fun s => s.tokens.toList
    | c :: rest => (s.take c rest).bind (run fuel)

end Scanner

def tokens? (document : List Char) : Option (List Token) :=
  if document.all isReadable then (Scanner.start document).run (document.length + 1) else none

end GraphProtocol.Yaml
