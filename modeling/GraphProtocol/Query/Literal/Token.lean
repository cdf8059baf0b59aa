import GraphProtocol.Binary64.Decimal
import GraphProtocol.Query.Literal.Fault
import GraphProtocol.Text.Class

/-!
# Tokens of the statement language

A statement is cut into tokens from left to right, each as long as possible;
blank characters lie between tokens and within string literals only. A token
knows where it stands, counted in characters.
-/

set_option autoImplicit false

namespace GraphProtocol.Literal

inductive Token where
  | integer (n : Int64)
  | float (x : Binary64)
  | string (s : String)
  /-- A keyword, a constant, a variable or the name of a function. -/
  | word (name : String)
  | parameter (name : String)
  | symbol (c : Char)
  deriving DecidableEq, Repr

structure Lexeme where
  token : Token
  start : Nat
  stop : Nat
  deriving DecidableEq, Repr

abbrev Scanned := Except QueryFault (Token × Nat)

def isWordChar (c : Char) : Bool := Text.isAlphanumeric c || c == '_'

def maxInteger : Nat := 0x7FFFFFFFFFFFFFFF

def digitsValue (digits : List Char) : Nat :=
  digits.foldl (fun n c => 10 * n + (c.toNat - '0'.toNat)) 0

def scanInteger (digits : List Char) : Scanned :=
  let n := digitsValue digits
  if n ≤ maxInteger then .ok (.integer (Int64.ofNat n), digits.length - 1)
  else .error (.integerTooLarge (String.ofList digits))

/-- A number whose first digit has been read: a point makes it a floating-point number only
if a digit follows. -/
def scanNumber (first : Char) (rest : List Char) : Scanned :=
  let whole := first :: rest.takeWhile Char.isDigit
  match rest.dropWhile Char.isDigit with
  | '.' :: after =>
    let fraction := after.takeWhile Char.isDigit
    if fraction.isEmpty then scanInteger whole
    else .ok (.float (.ofDigits whole fraction), whole.length + fraction.length)
  | _ => scanInteger whole

def escape? : Char → Option Char
  | 'n' => some '\n'
  | 't' => some '\t'
  | '\\' => some '\\'
  | '\'' => some '\''
  | '"' => some '"'
  | _ => none

/-- The rest of a string literal: `text` is what it holds so far, the last character first,
and `taken` the number of characters read after the opening quote. -/
def scanString (quote : Char) : List Char → List Char → Nat → Scanned
  | [], _, _ => .error .unterminatedString
  | ['\\'], _, _ => .error .invalidEscape
  | '\\' :: e :: rest, text, taken =>
    match escape? e with
    | some c => scanString quote rest (c :: text) (taken + 2)
    | none => .error .invalidEscape
  | c :: rest, text, taken =>
    if c = quote then .ok (.string (String.ofList text.reverse), taken + 1)
    else scanString quote rest (c :: text) (taken + 1)

def scanParameter (rest : List Char) : Scanned :=
  let name := rest.takeWhile isWordChar
  if name.isEmpty then .error .parameterNameExpected
  else .ok (.parameter (String.ofList name), name.length)

def symbols : List Char := ['(', ')', '[', ']', ',', ';', '-']

def scan (first : Char) (rest : List Char) : Scanned :=
  if first.isDigit then scanNumber first rest
  else if first = '\'' ∨ first = '"' then scanString first rest [] 0
  else if first = '$' then scanParameter rest
  else if Text.isAlphabetic first || first == '_' then
    let more := rest.takeWhile isWordChar
    .ok (.word (String.ofList (first :: more)), more.length)
  else if symbols.contains first then .ok (.symbol first, 0)
  else .error (.invalidCharacter first)

def tokensFrom (position : Nat) (text : List Char) (found : List Lexeme) :
    Except QueryFault (List Lexeme) :=
  match text with
  | [] => .ok found.reverse
  | c :: rest =>
    if Text.isBlank c then tokensFrom (position + 1) rest found
    else
      match scan c rest with
      | .error fault => .error fault
      | .ok (token, extra) =>
        let stop := position + 1 + extra
        tokensFrom stop (rest.drop extra) (⟨token, position, stop⟩ :: found)
termination_by text.length
decreasing_by
  · simp
  · simp only [List.length_drop, List.length_cons]
    omega

def tokenize (text : List Char) : Except QueryFault (List Lexeme) := tokensFrom 0 text []

end GraphProtocol.Literal
