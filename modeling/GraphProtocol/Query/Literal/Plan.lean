import GraphProtocol.Query.Literal.Token

/-!
# Plans

A statement may bind the elements of one list to a name, and returns the values
of expressions for each of them:

    UNWIND range(1, 3) AS x RETURN x, [x, $y] AS pair

Keywords and constants may be written in capitals or not. A column without a
name of its own is called by its text in the statement. A plan is formed only if
every variable is the bound name.
-/

set_option autoImplicit false

namespace GraphProtocol.Literal

inductive Expr where
  | literal (v : Value)
  | parameter (name : String)
  | variable (name : String)
  | list (items : List Expr)
  | range (arguments : List Expr)
  deriving Inhabited

structure Plan where
  /-- The expression whose elements are bound, and their name. -/
  unwind : Option (Expr × String)
  /-- The expressions returned, with the names of their columns. -/
  items : List (Expr × String)

structure Remainder where
  source : List Char
  rest : List Lexeme
  /-- Where the last token taken ends. -/
  last : Nat

abbrev Parser := EStateM QueryFault Remainder

namespace Parser

def slice (source : List Char) (start stop : Nat) : String :=
  String.ofList ((source.drop start).take (stop - start))

def unexpected {α : Type} (expected : String) : Parser α := fun s =>
  .error (.unexpected (s.rest.head?.map fun t => slice s.source t.start t.stop) expected) s

def peek? : Parser (Option Token) := fun s => .ok (s.rest.head?.map Lexeme.token) s

def skip : Parser Unit := fun s =>
  match s.rest with
  | [] => .ok () s
  | t :: rest => .ok () { s with rest, last := t.stop }

def symbol (c : Char) : Parser Bool := do
  if (← peek?) = some (.symbol c) then
    skip
    return true
  else return false

def isKeyword (keyword word : String) : Bool := word.toList.map Char.toUpper == keyword.toList

def keyword (name : String) : Parser Bool := do
  match ← peek? with
  | some (.word w) =>
    if isKeyword name w then
      skip
      return true
    else return false
  | _ => return false

def expectKeyword (name : String) : Parser Unit := do
  if ← keyword name then return () else unexpected name

def identifier : Parser String := do
  match ← peek? with
  | some (.word w) =>
    skip
    return w
  | _ => unexpected "an identifier"

/-- Items with commas between them, up to the closing symbol, after those already read.
Every item takes a token, so the number of tokens left is fuel enough. -/
def itemsOnto (item : Parser Expr) (close : Char) : Nat → List Expr → Parser (List Expr)
  | 0, _ => unexpected "an expression"
  | fuel + 1, done => do
    let e ← item
    if ← symbol close then return (e :: done).reverse
    if ← symbol ',' then itemsOnto item close fuel (e :: done)
    else unexpected ("',' or '" ++ String.singleton close ++ "'")

def items (item : Parser Expr) (close : Char) (fuel : Nat) : Parser (List Expr) := do
  if ← symbol close then return [] else itemsOnto item close fuel []

def constantOrVariable (word : String) : Expr :=
  if isKeyword "NULL" word then .literal .null
  else if isKeyword "TRUE" word then .literal (.boolean true)
  else if isKeyword "FALSE" word then .literal (.boolean false)
  else .variable word

def negated : Parser Expr := do
  match ← peek? with
  | some (.integer n) =>
    skip
    return .literal (.integer (-n))
  | some (.float x) =>
    skip
    return .literal (.float x.neg)
  | some _ => unexpected "a number"
  | none => unexpected "an expression"

/-- An expression. Nested expressions take tokens, so the number of tokens left is fuel
enough. -/
def expression : Nat → Parser Expr
  | 0 => unexpected "an expression"
  | fuel + 1 => do
    if ← symbol '[' then return .list (← items (expression fuel) ']' fuel)
    if ← symbol '-' then negated
    else
      match ← peek? with
      | some (.integer n) =>
        skip
        return .literal (.integer n)
      | some (.float x) =>
        skip
        return .literal (.float x)
      | some (.string s) =>
        skip
        return .literal (.string s)
      | some (.parameter name) =>
        skip
        return .parameter name
      | some (.word w) =>
        skip
        if ← symbol '(' then
          if isKeyword "RANGE" w then return .range (← items (expression fuel) ')' fuel)
          else throw (.unknownFunction w)
        else return constantOrVariable w
      | _ => unexpected "an expression"

def anyExpression : Parser Expr := do expression (← get).rest.length

def column : Parser (Expr × String) := do
  let before ← get
  let start := before.rest.head?.elim before.source.length Lexeme.start
  let e ← anyExpression
  let stop := (← get).last
  if ← keyword "AS" then return (e, ← identifier)
  else return (e, slice before.source start stop)

def columnsOnto : Nat → List (Expr × String) → Parser (List (Expr × String))
  | 0, _ => unexpected "an expression"
  | fuel + 1, done => do
    let c ← column
    if ← symbol ',' then columnsOnto fuel (c :: done) else return (c :: done).reverse

def statement : Parser Plan := do
  let unwind ← do
    if ← keyword "UNWIND" then
      let e ← anyExpression
      expectKeyword "AS"
      pure (some (e, ← identifier))
    else pure none
  expectKeyword "RETURN"
  let items ← columnsOnto ((← get).rest.length + 1) []
  let _ ← symbol ';'
  if (← peek?).isSome then unexpected "end of statement"
  return ⟨unwind, items⟩

end Parser

mutual

def Expr.stray? (bound : Option String) : Expr → Option String
  | .variable name => if some name = bound then none else some name
  | .list items => strayIn? bound items
  | .range arguments => strayIn? bound arguments
  | .literal _ | .parameter _ => none

def strayIn? (bound : Option String) : List Expr → Option String
  | [] => none
  | e :: rest => (e.stray? bound).or (strayIn? bound rest)

end

mutual

def Expr.parameters : Expr → List String
  | .parameter name => [name]
  | .list items => parametersIn items
  | .range arguments => parametersIn arguments
  | .literal _ | .variable _ => []

def parametersIn : List Expr → List String
  | [] => []
  | e :: rest => e.parameters ++ parametersIn rest

end

namespace Plan

def boundName (p : Plan) : Option String := p.unwind.map (·.2)

/-- The first variable that is not bound where it stands; returned expressions are looked
at first. -/
def stray? (p : Plan) : Option String :=
  (strayIn? p.boundName (p.items.map (·.1))).or (p.unwind.bind fun u => u.1.stray? none)

def parse (statement : String) : Except QueryFault Plan := do
  let source := statement.toList
  let lexemes ← tokenize source
  match Parser.statement ⟨source, lexemes, 0⟩ with
  | .error fault _ => throw fault
  | .ok plan _ =>
    match plan.stray? with
    | some name => throw (.undefinedVariable name)
    | none => return plan

def columns (p : Plan) : List String := p.items.map (·.2)

def parameters (p : Plan) : List String :=
  p.unwind.elim [] (fun u => u.1.parameters) ++ parametersIn (p.items.map (·.1))

def missingParameters (p : Plan) (given : Dict Value) : List String :=
  ((p.parameters.filter fun name => !given.contains name).mergeSort
    fun a b => !decide (b < a)).eraseDups

end Plan

end GraphProtocol.Literal
