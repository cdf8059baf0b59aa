import GraphProtocol.Query.Basic

/-!
# What can be wrong with a literal query

Every cause has its own constructor, one message and one status code.
-/

set_option autoImplicit false

namespace GraphProtocol

inductive QueryFault where
  | integerTooLarge (digits : String)
  | unterminatedString
  | invalidEscape
  | parameterNameExpected
  | invalidCharacter (c : Char)
  /-- The text found, or the end of the statement, where something else belongs. -/
  | unexpected (found : Option String) (expected : String)
  | unknownFunction (name : String)
  | undefinedVariable (name : String)
  | rangeArity
  | missingParameters (names : List String)
  | rangeType (found : ValueType)
  | rangeStepZero
  | rangeTooLarge (count : Nat)
  /-- The query ran longer than it was allowed to. -/
  | timedOut
  | invalidBookmark (bookmark : String)
  | transactionTimedOut (tx : TxId)
  | transactionNotFound (tx : TxId)
  deriving DecidableEq, Repr

namespace QueryFault

def message : QueryFault → String
  | integerTooLarge digits => "integer is too large: " ++ digits
  | unterminatedString => "unterminated string literal"
  | invalidEscape => "invalid escape sequence in string literal"
  | parameterNameExpected => "expected a parameter name after '$'"
  | invalidCharacter c => "Invalid input '" ++ String.singleton c ++ "'"
  | unexpected (some found) expected => "Invalid input '" ++ found ++ "': expected " ++ expected
  | unexpected none expected => "Unexpected end of input: expected " ++ expected
  | unknownFunction name => "Unknown function '" ++ name ++ "'"
  | undefinedVariable name => "Variable \x60" ++ name ++ "\x60 not defined"
  | rangeArity => "range() takes 2 or 3 arguments"
  | missingParameters names => "Expected parameter(s): " ++ ", ".intercalate names
  | rangeType found => "range() expects integers, got " ++ found.name
  | rangeStepZero => "step argument to range() cannot be zero"
  | rangeTooLarge count => "range() of " ++ toString count ++ " elements is too large to build"
  | timedOut => "query exceeded its timeout"
  | invalidBookmark bookmark => "'" ++ bookmark ++ "' is not a valid bookmark"
  | transactionTimedOut tx =>
    "transaction " ++ tx.toText ++ " exceeded its timeout and was rolled back"
  | transactionNotFound tx => "transaction " ++ tx.toText ++ " does not exist"

def code : QueryFault → String
  | missingParameters _ => Status.parameterMissing.code
  | rangeType _ => Status.typeError.code
  | rangeStepZero | rangeTooLarge _ => "Neo.ClientError.Statement.ArgumentError"
  | timedOut | transactionTimedOut _ => "Neo.ClientError.Transaction.TransactionTimedOut"
  | invalidBookmark _ => "Neo.ClientError.Transaction.InvalidBookmark"
  | transactionNotFound _ => Status.transactionNotFound.code
  | _ => Status.syntaxError.code

def failure (fault : QueryFault) : Failure := ⟨fault.code, fault.message⟩

end QueryFault

end GraphProtocol
