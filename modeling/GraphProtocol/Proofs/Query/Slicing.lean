import GraphProtocol.Query.Literal.Plan
import GraphProtocol.Proofs.Query.Grammar

/-!
# Parsing with slices

A parser looks at the text of a statement to report a token that it does not expect and to name a
column. It is written down once more for any way of slicing the text. What holds of the elementary
parsers, with such slices and without them, and is handed on from parts to wholes, holds of the
parser for statements.
-/

set_option autoImplicit false

namespace GraphProtocol.Literal

/-- A way of slicing texts: the place at the end of a text, and what is between two places. -/
structure Slicing where
  size : List Char → Nat
  cut : Nat → Nat → Parser String

namespace Parser

def ended (p : Plan) : Parser Plan := do
  let _ ← symbol ';'
  if (← peek?).isSome then unexpected "end of statement"
  return p

def returned (unwind : Option (Expr × String)) : Parser Plan := do
  expectKeyword "RETURN"
  let items ← columnsOnto ((← get).rest.length + 1) []
  ended ⟨unwind, items⟩

def withText : Parser (Expr × String) := do
  let before ← get
  let e ← anyExpression
  let after ← get
  return (e, slice before.source (before.rest.head?.elim before.source.length Lexeme.start)
    after.last)

theorem column_eq : Parser.column = withText >>= fun c =>
    keyword "AS" >>= fun named =>
      if named = true then identifier >>= fun name => pure (c.1, name) else pure c := by
  simp only [Parser.column, withText, bind_assoc, pure_bind]

theorem statement_eq : statement = keyword "UNWIND" >>= fun found => if found = true then do
      let e ← anyExpression
      expectKeyword "AS"
      returned (some (e, ← identifier))
    else returned none :=
  rfl

end Parser

namespace Slicing

open GraphProtocol.Literal.Parser (peek? skip symbol keyword isKeyword constantOrVariable)

variable (way : Slicing)

def unexpected {α : Type} (expected : String) : Parser α := do
  match (← get).rest.head? with
  | some t => throw (.unexpected (some (← way.cut t.start t.stop)) expected)
  | none => throw (.unexpected none expected)

def expectKeyword (name : String) : Parser Unit := do
  if ← keyword name then return () else way.unexpected name

def identifier : Parser String := do
  match ← peek? with
  | some (.word w) =>
    skip
    return w
  | _ => way.unexpected "an identifier"

def itemsOnto (item : Parser Expr) (close : Char) : Nat → List Expr → Parser (List Expr)
  | 0, _ => way.unexpected "an expression"
  | fuel + 1, done => do
    let e ← item
    if ← symbol close then return (e :: done).reverse
    if ← symbol ',' then itemsOnto item close fuel (e :: done)
    else way.unexpected ("',' or '" ++ String.singleton close ++ "'")

def items (item : Parser Expr) (close : Char) (fuel : Nat) : Parser (List Expr) := do
  if ← symbol close then return [] else way.itemsOnto item close fuel []

def negated : Parser Expr := do
  match ← peek? with
  | some (.integer n) =>
    skip
    return .literal (.integer (-n))
  | some (.float x) =>
    skip
    return .literal (.float x.neg)
  | some _ => way.unexpected "a number"
  | none => way.unexpected "an expression"

def expression : Nat → Parser Expr
  | 0 => way.unexpected "an expression"
  | fuel + 1 => do
    if ← symbol '[' then return .list (← way.items (expression fuel) ']' fuel)
    if ← symbol '-' then way.negated
    else
      match ← peek? with
      | some (.integer n) =>
        skip
        return .literal (.integer n)
      | some (.float x) =>
        skip
        return .literal (.float x)
      | some (.string s) =>
        skip
        return .literal (.string s)
      | some (.parameter name) =>
        skip
        return .parameter name
      | some (.word w) =>
        skip
        if ← symbol '(' then
          if isKeyword "RANGE" w then return .range (← way.items (expression fuel) ')' fuel)
          else throw (.unknownFunction w)
        else return constantOrVariable w
      | _ => way.unexpected "an expression"

def anyExpression : Parser Expr := do way.expression (← get).rest.length

def withText : Parser (Expr × String) := do
  let before ← get
  let e ← way.anyExpression
  let after ← get
  let text ← way.cut (before.rest.head?.elim (way.size before.source) Lexeme.start) after.last
  return (e, String.ofList (Text.trim text.toList))

def column : Parser (Expr × String) := do
  let (e, text) ← way.withText
  if ← keyword "AS" then return (e, ← way.identifier) else return (e, text)

def columnsOnto : Nat → List (Expr × String) → Parser (List (Expr × String))
  | 0, _ => way.unexpected "an expression"
  | fuel + 1, done => do
    let c ← way.column
    if ← symbol ',' then columnsOnto fuel (c :: done) else return (c :: done).reverse

def ended (p : Plan) : Parser Plan := do
  let _ ← symbol ';'
  if (← peek?).isSome then way.unexpected "end of statement"
  return p

def returned (unwind : Option (Expr × String)) : Parser Plan := do
  way.expectKeyword "RETURN"
  let items ← way.columnsOnto ((← get).rest.length + 1) []
  way.ended ⟨unwind, items⟩

def statement : Parser Plan := do
  if ← keyword "UNWIND" then
    let e ← way.anyExpression
    way.expectKeyword "AS"
    way.returned (some (e, ← way.identifier))
  else way.returned none

end Slicing

/-- Elementary parsers have the property, with slices and without, and ways of putting parsers
together hand it on. -/
structure Slicing.Matched (way : Slicing) (P : (α : Type) → Parser α → Parser α → Prop) : Prop where
  pure : ∀ {α : Type} (v : α), P α (Pure.pure v) (Pure.pure v)
  bind : ∀ {α β : Type} {x y : Parser α} {f g : α → Parser β},
    P α x y → (∀ v, P β (f v) (g v)) → P β (x >>= f) (y >>= g)
  peek : P (Option Token) Parser.peek? Parser.peek?
  skip : P Unit Parser.skip Parser.skip
  unknown : ∀ {α : Type} (name : String),
    P α (throw (.unknownFunction name)) (throw (.unknownFunction name))
  unexpected : ∀ {α : Type} (expected : String),
    P α (way.unexpected expected) (Parser.unexpected expected)
  /-- The number of tokens that are left may be looked at. -/
  measured : ∀ {α : Type} {f g : Nat → Parser α}, (∀ n, P α (f n) (g n)) →
    P α (get >>= fun s => f s.rest.length) (get >>= fun s => g s.rest.length)
  withText : P Expr way.anyExpression Parser.anyExpression →
    P (Expr × String) way.withText Parser.withText

namespace Slicing.Matched

variable {way : Slicing} {P : (α : Type) → Parser α → Parser α → Prop} (closed : way.Matched P)
include closed

/-- Taking the next token for what it is. -/
theorem leaf {α : Type} (v : α) :
    P α (Parser.skip >>= fun _ => Pure.pure v) (Parser.skip >>= fun _ => Pure.pure v) :=
  closed.bind closed.skip fun _ => closed.pure v

theorem symbol (c : Char) : P Bool (Parser.symbol c) (Parser.symbol c) := by
  refine closed.bind closed.peek fun next => ?_
  split
  · exact closed.leaf true
  · exact closed.pure false

theorem keyword (name : String) : P Bool (Parser.keyword name) (Parser.keyword name) := by
  refine closed.bind closed.peek fun next => ?_
  split
  · split
    · exact closed.leaf true
    · exact closed.pure false
  · exact closed.pure false

theorem expectKeyword (name : String) :
    P Unit (way.expectKeyword name) (Parser.expectKeyword name) := by
  refine closed.bind (closed.keyword name) fun found => ?_
  split
  · exact closed.pure ()
  · exact closed.unexpected name

theorem identifier : P String way.identifier Parser.identifier := by
  refine closed.bind closed.peek fun next => ?_
  cases next with
  | none => exact closed.unexpected _
  | some token =>
    cases token with
    | word w => exact closed.leaf w
    | _ => exact closed.unexpected _

theorem itemsOnto {item item' : Parser Expr} (each : P Expr item item') (close : Char) (fuel : Nat)
    (done : List Expr) :
    P (List Expr) (way.itemsOnto item close fuel done)
      (Parser.itemsOnto item' close fuel done) := by
  induction fuel generalizing done with
  | zero => exact closed.unexpected _
  | succ fuel ih =>
    refine closed.bind each fun e => closed.bind (closed.symbol close) fun closes => ?_
    split
    · exact closed.pure _
    refine closed.bind (closed.symbol ',') fun goesOn => ?_
    split
    · exact ih (e :: done)
    · exact closed.unexpected _

theorem items {item item' : Parser Expr} (each : P Expr item item') (close : Char) (fuel : Nat) :
    P (List Expr) (way.items item close fuel) (Parser.items item' close fuel) := by
  refine closed.bind (closed.symbol close) fun closes => ?_
  split
  · exact closed.pure []
  · exact closed.itemsOnto each close fuel []

theorem negated : P Expr way.negated Parser.negated := by
  refine closed.bind closed.peek fun next => ?_
  cases next with
  | none => exact closed.unexpected _
  | some token =>
    cases token with
    | integer n => exact closed.leaf _
    | float x => exact closed.leaf _
    | _ => exact closed.unexpected _

theorem expression (fuel : Nat) : P Expr (way.expression fuel) (Parser.expression fuel) := by
  induction fuel with
  | zero => exact closed.unexpected _
  | succ fuel ih =>
    refine closed.bind (closed.symbol '[') fun opens => ?_
    split
    · exact closed.bind (closed.items ih ']' fuel) fun items => closed.pure _
    refine closed.bind (closed.symbol '-') fun minus => ?_
    split
    · exact closed.negated
    refine closed.bind closed.peek fun next => ?_
    cases next with
    | none => exact closed.unexpected _
    | some token =>
      cases token with
      | integer _ | float _ | string _ | parameter _ => exact closed.leaf _
      | word w =>
        refine closed.bind closed.skip fun _ => closed.bind (closed.symbol '(') fun applies => ?_
        split
        · split
          · exact closed.bind (closed.items ih ')' fuel) fun arguments => closed.pure _
          · exact closed.unknown w
        · exact closed.pure _
      | symbol _ => exact closed.unexpected _

theorem anyExpression : P Expr way.anyExpression Parser.anyExpression :=
  closed.measured closed.expression

theorem column : P (Expr × String) way.column Parser.column := by
  rw [Parser.column_eq]
  refine closed.bind (closed.withText closed.anyExpression) fun c =>
    closed.bind (closed.keyword "AS") fun named => ?_
  split
  · exact closed.bind closed.identifier fun name => closed.pure _
  · exact closed.pure c

theorem columnsOnto (fuel : Nat) (done : List (Expr × String)) :
    P (List (Expr × String)) (way.columnsOnto fuel done) (Parser.columnsOnto fuel done) := by
  induction fuel generalizing done with
  | zero => exact closed.unexpected _
  | succ fuel ih =>
    refine closed.bind closed.column fun c =>
      closed.bind (closed.symbol ',') fun goesOn => ?_
    split
    · exact ih (c :: done)
    · exact closed.pure _

theorem ended (p : Plan) : P Plan (way.ended p) (Parser.ended p) := by
  refine closed.bind (closed.symbol ';') fun _ => closed.bind closed.peek fun next => ?_
  split
  · exact closed.bind (closed.unexpected _) fun _ => closed.pure _
  · exact closed.pure _

theorem returned (unwind : Option (Expr × String)) :
    P Plan (way.returned unwind) (Parser.returned unwind) := by
  let f (n : Nat) := way.columnsOnto (n + 1) [] >>= fun items => way.ended ⟨unwind, items⟩
  let g (n : Nat) := Parser.columnsOnto (n + 1) [] >>= fun items => Parser.ended ⟨unwind, items⟩
  have further (n : Nat) : P Plan (f n) (g n) :=
    closed.bind (closed.columnsOnto (n + 1) []) fun _ => closed.ended _
  exact closed.bind (closed.expectKeyword "RETURN") fun _ => closed.measured further

theorem statement : P Plan way.statement Parser.statement := by
  rw [Parser.statement_eq]
  refine closed.bind (closed.keyword "UNWIND") fun found => ?_
  split
  · exact closed.bind closed.anyExpression fun e =>
      closed.bind (closed.expectKeyword "AS") fun _ =>
      closed.bind closed.identifier fun name => closed.returned _
  · exact closed.returned none

end Slicing.Matched

end GraphProtocol.Literal
