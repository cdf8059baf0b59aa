/-!
# Status codes

The codes that the server itself puts into failures. Codes from the query
engine are passed on as texts.
-/

set_option autoImplicit false

namespace GraphProtocol

inductive Status where
  | requestInvalid
  | requestInvalidFormat
  | unauthorized
  | syntaxError
  | parameterMissing
  | typeError
  | transactionTerminated
  | transactionNotFound
  | unknownError
  deriving DecidableEq, Repr

namespace Status

def all : List Status :=
  [.requestInvalid, .requestInvalidFormat, .unauthorized, .syntaxError, .parameterMissing,
    .typeError, .transactionTerminated, .transactionNotFound, .unknownError]

def code : Status → String
  | requestInvalid => "Neo.ClientError.Request.Invalid"
  | requestInvalidFormat => "Neo.ClientError.Request.InvalidFormat"
  | unauthorized => "Neo.ClientError.Security.Unauthorized"
  | syntaxError => "Neo.ClientError.Statement.SyntaxError"
  | parameterMissing => "Neo.ClientError.Statement.ParameterMissing"
  | typeError => "Neo.ClientError.Statement.TypeError"
  | transactionTerminated => "Neo.TransientError.Transaction.Terminated"
  | transactionNotFound => "Neo.ClientError.Transaction.TransactionNotFound"
  | unknownError => "Neo.DatabaseError.General.UnknownError"

def isRetryable : Status → Bool
  | transactionTerminated => true
  | _ => false

end Status

end GraphProtocol
