import GraphProtocol.Yaml.Token

/-!
# Documents

The part of YAML that settings files use: block and flow mappings, block and flow
sequences, and scalars, plain or quoted. A scalar keeps its text; what kind of
value it is depends on where it is used. Where a node is missing, an empty plain
scalar stands for it.
-/

set_option autoImplicit false

namespace GraphProtocol.Yaml

inductive Tree where
  | scalar (text : String) (isPlain : Bool)
  | sequence (items : List Tree)
  | mapping (entries : List (Tree × Tree))
  deriving Inhabited

namespace Tree

def blank : Tree := .scalar "" true

end Tree

inductive Setting where
  | flow
  | block
  /-- As a key or a value of a block mapping, where items need no indentation. -/
  | entry
  deriving DecidableEq, Repr

def beginsWith (choice : List Token) (tokens : List Token) : Bool :=
  tokens.head?.any choice.contains

mutual

/-- The node that the first tokens spell. Every part takes a token or goes one level down, so a
multiple of the number of tokens is fuel enough. -/
def node : Nat → Setting → List Token → Option (Tree × List Token)
  | 0, _, _ => none
  | fuel + 1, setting, tokens =>
    match tokens, setting with
    | .scalar text isPlain :: rest, _ => some (.scalar text isPlain, rest)
    | .flowSequence :: rest, _ => flowItems fuel true [] rest
    | .flowMapping :: rest, _ => flowEntries fuel true [] rest
    | .blockItem :: _, .entry => looseItems fuel [] tokens
    | .blockSequence :: rest, .block | .blockSequence :: rest, .entry => blockItems fuel [] rest
    | .blockMapping :: rest, .block | .blockMapping :: rest, .entry => blockEntries fuel [] rest
    | _, _ => none

def nodeUnless : Nat → List Token → Setting → List Token → Option (Tree × List Token)
  | 0, _, _, _ => none
  | fuel + 1, choice, setting, tokens =>
    if beginsWith choice tokens then some (.blank, tokens) else node fuel setting tokens

def blockItems : Nat → List Tree → List Token → Option (Tree × List Token)
  | 0, _, _ => none
  | fuel + 1, items, tokens =>
    match tokens with
    | .blockItem :: rest => do
      let (item, rest) ← nodeUnless fuel [.blockItem, .blockEnd] .block rest
      blockItems fuel (item :: items) rest
    | .blockEnd :: rest => some (.sequence items.reverse, rest)
    | _ => none

def looseItems : Nat → List Tree → List Token → Option (Tree × List Token)
  | 0, _, _ => none
  | fuel + 1, items, tokens =>
    match tokens with
    | .blockItem :: rest => do
      let (item, rest) ← nodeUnless fuel [.blockItem, .key, .value, .blockEnd] .block rest
      looseItems fuel (item :: items) rest
    | rest => some (.sequence items.reverse, rest)

def blockEntries : Nat → List (Tree × Tree) → List Token → Option (Tree × List Token)
  | 0, _, _ => none
  | fuel + 1, entries, tokens =>
    match tokens with
    | .key :: rest => do
      let (key, rest) ← nodeUnless fuel [.key, .value, .blockEnd] .entry rest
      let (value, rest) ← blockValue fuel rest
      blockEntries fuel ((key, value) :: entries) rest
    | .blockEnd :: rest => some (.mapping entries.reverse, rest)
    | _ => none

def blockValue : Nat → List Token → Option (Tree × List Token)
  | 0, _ => none
  | fuel + 1, tokens =>
    match tokens with
    | .value :: rest => nodeUnless fuel [.key, .value, .blockEnd] .entry rest
    | rest => some (.blank, rest)

def flowItems : Nat → Bool → List Tree → List Token → Option (Tree × List Token)
  | 0, _, _, _ => none
  | fuel + 1, isFirst, items, tokens =>
    match tokens, isFirst with
    | .flowSequenceEnd :: rest, _ => some (.sequence items.reverse, rest)
    | .comma :: .flowSequenceEnd :: rest, false => some (.sequence items.reverse, rest)
    | .comma :: rest, false => do
      let (item, rest) ← flowItem fuel rest
      flowItems fuel false (item :: items) rest
    | rest, true => do
      let (item, rest) ← flowItem fuel rest
      flowItems fuel false (item :: items) rest
    | _, false => none

/-- An item of a flow sequence: a node, or a mapping with one entry. A key that is missing there
takes the token with it that shows this. -/
def flowItem : Nat → List Token → Option (Tree × List Token)
  | 0, _ => none
  | fuel + 1, tokens =>
    match tokens with
    | .key :: rest => do
      let isMissing := beginsWith [.value, .comma, .flowSequenceEnd] rest
      let (key, rest) ← if isMissing then some (.blank, rest.tail) else node fuel .flow rest
      let (value, rest) ← flowValue fuel .flowSequenceEnd rest
      return (.mapping [(key, value)], rest)
    | rest => node fuel .flow rest

def flowValue : Nat → Token → List Token → Option (Tree × List Token)
  | 0, _, _ => none
  | fuel + 1, closing, tokens =>
    match tokens with
    | .value :: rest => nodeUnless fuel [.comma, closing] .flow rest
    | rest => some (.blank, rest)

def flowEntries : Nat → Bool → List (Tree × Tree) → List Token → Option (Tree × List Token)
  | 0, _, _, _ => none
  | fuel + 1, isFirst, entries, tokens =>
    match tokens, isFirst with
    | .flowMappingEnd :: rest, _ => some (.mapping entries.reverse, rest)
    | .comma :: .flowMappingEnd :: rest, false => some (.mapping entries.reverse, rest)
    | .comma :: rest, false => do
      let (entry, rest) ← flowEntry fuel rest
      flowEntries fuel false (entry :: entries) rest
    | rest, true => do
      let (entry, rest) ← flowEntry fuel rest
      flowEntries fuel false (entry :: entries) rest
    | _, false => none

def flowEntry : Nat → List Token → Option ((Tree × Tree) × List Token)
  | 0, _ => none
  | fuel + 1, tokens =>
    match tokens with
    | .key :: rest => do
      let (key, rest) ← nodeUnless fuel [.value, .comma, .flowMappingEnd] .flow rest
      let (value, rest) ← flowValue fuel .flowMappingEnd rest
      return ((key, value), rest)
    | rest => (node fuel .flow rest).map fun (key, rest) => ((key, .blank), rest)

end

/-- The node of a document with this many tokens at most, and what follows it. A marker may come
before it; without a marker there has to be a node. -/
def documentNode (tokens : List Token) : Option (Tree × List Token) :=
  let fuel := 4 * tokens.length + 4
  match tokens with
  | [] => some (.blank, [])
  | .documentStart :: rest =>
    if rest.isEmpty || beginsWith [.documentStart, .documentEnd] rest then some (.blank, rest)
    else node fuel .block rest
  | rest => node fuel .block rest

def Tree.ofTokens? (tokens : List Token) : Option Tree := do
  let (tree, rest) ← documentNode tokens
  if rest.all (· == .documentEnd) then some tree else none

def Tree.ofText? (document : String) : Option Tree := (tokens? document.toList).bind Tree.ofTokens?

end GraphProtocol.Yaml
