import GraphProtocol.Text.Quoted
import GraphProtocol.Value.Basic
import GraphProtocol.Version

/-!
# Protocol errors

What can be wrong with bytes that were received and with values that are to be
sent. Every cause has its own constructor and one message. All errors are fatal
for a connection except a value that the version cannot carry and a well-formed
request with unacceptable fields.
-/

set_option autoImplicit false

namespace GraphProtocol

/-- Why work was not finished: an error that it gives, or a breakdown, which nothing in the program
is prepared for. -/
inductive Abort (ε : Type) where
  | error (e : ε)
  | breakdown
  deriving DecidableEq, Repr

def Abort.map {ε δ : Type} (f : ε → δ) : Abort ε → Abort δ
  | error e => .error (f e)
  | breakdown => .breakdown

def bracketed (items : List String) : String := "[" ++ ", ".intercalate items ++ "]"

inductive Malformation where
  | expectedStructure (marker : UInt8)
  | unknownMarker (marker : UInt8)
  | keyNotString (found : ValueType)
  | unexpectedType (expected found : ValueType)
  | labelNotString (found : ValueType)
  | pathNode (found : ValueType)
  | pathRelationship (found : ValueType)
  | pathIndex
  | dateOutOfRange (days : Int)
  | timeOfDayOutOfRange (nanos : Int)
  | offsetOutOfRange (seconds : Int)
  | nanosOutOfRange (nanos : Int)
  | epochSecondOutOfRange (seconds : Int)
  | dateTimeOutOfRange
  | trailingBytes (count : Nat)
  | missingField (request field : String)
  | fieldType (request field : String) (expected found : ValueType)
  | failureWithout (key : String)
  | unknownResponse (signature : UInt8)
  | misrouted (request action : String)
  | other (reason : String)
  deriving DecidableEq, Repr

def Malformation.message : Malformation → String
  | .expectedStructure marker => "expected structure, found marker " ++ Text.hexByte marker
  | .unknownMarker marker => "unknown marker " ++ Text.hexByte marker
  | .keyNotString found => "map key must be a string, found " ++ found.name
  | .unexpectedType expected found => "expected " ++ expected.name ++ ", found " ++ found.name
  | .labelNotString found => "node label must be a string, found " ++ found.name
  | .pathNode found => "path node must be a Node, found " ++ found.name
  | .pathRelationship found =>
    "path relationship must be an UnboundRelationship, found " ++ found.name
  | .pathIndex => "path index must be an integer"
  | .dateOutOfRange days => "date " ++ toString days ++ " days from epoch out of range"
  | .timeOfDayOutOfRange nanos => "time of day " ++ toString nanos ++ "ns out of range"
  | .offsetOutOfRange seconds => "UTC offset " ++ toString seconds ++ "s out of range"
  | .nanosOutOfRange nanos => "nanosecond adjustment " ++ toString nanos ++ " out of range"
  | .epochSecondOutOfRange seconds => "epoch second " ++ toString seconds ++ " out of range"
  | .dateTimeOutOfRange => "date-time out of range"
  | .trailingBytes count => toString count ++ " trailing bytes after message"
  | .missingField request field => request ++ " is missing " ++ field
  | .fieldType request field expected found =>
    request ++ " " ++ field ++ " must be a " ++ expected.name ++ ", found " ++ found.name
  | .failureWithout key => "FAILURE without " ++ key
  | .unknownResponse signature => "unknown response signature " ++ Text.hexByte signature
  | .misrouted request action => request ++ " cannot perform " ++ action
  | .other reason => reason

inductive SizedKind where
  | string
  | byteArray
  | list
  | map
  deriving DecidableEq, Repr

def SizedKind.name : SizedKind → String
  | .string => "string"
  | .byteArray => "byte array"
  | .list => "list"
  | .map => "map"

inductive Unsupported where
  | notAvailable (type : ValueType) (version : Version)
  | notPrimitive (type : ValueType) (key : String)
  | tooManyFields (count : Nat)
  | tooLong (kind : SizedKind) (length : Nat)
  | requestNotInVersion (request : String) (version : Version)
  | wrongResponse (expected found : String)
  | other (reason : String)
  deriving DecidableEq, Repr

def Unsupported.message : Unsupported → String
  | .notAvailable type version => type.name ++ " is not available in protocol " ++ version.name
  | .notPrimitive type key =>
    type.name ++ " under key '" ++ key ++ "' where only primitive values are allowed"
  | .tooManyFields count => "structure with " ++ toString count ++ " fields"
  | .tooLong kind length =>
    kind.name ++ " of length " ++ toString length ++ " exceeds the 32-bit size class"
  | .requestNotInVersion request version =>
    request ++ " is not part of protocol " ++ version.name
  | .wrongResponse expected found => expected ++ " encoder given a " ++ found ++ " response"
  | .other reason => reason

inductive RequestFault where
  | timeoutNegative (millis : Int)
  | timeoutType (found : ValueType)
  | metadataEntry (key : String) (found : ValueType)
  | metadataType (found : ValueType)
  | bookmarkNotString
  | bookmarksType (found : ValueType)
  | entryNotPrimitive (place key : String) (found : ValueType)
  | userAgentType (found : ValueType)
  | userAgentMissing
  | other (reason : String)
  deriving DecidableEq, Repr

def RequestFault.message : RequestFault → String
  | .timeoutNegative millis => "tx_timeout must not be negative, got " ++ toString millis
  | .timeoutType found => "tx_timeout must be an integer, got " ++ found.name
  | .metadataEntry key found =>
    "tx_metadata entry '" ++ key ++ "' holds a " ++ found.name ++
      "; only primitive values are allowed"
  | .metadataType found => "tx_metadata must be a map, got " ++ found.name
  | .bookmarkNotString => "bookmarks must be a list of strings"
  | .bookmarksType found => "bookmarks must be a list, got " ++ found.name
  | .entryNotPrimitive place key found =>
    place ++ " entry '" ++ key ++ "' holds a " ++ found.name ++
      "; only primitive values are allowed"
  | .userAgentType found => "user_agent must be a string, got " ++ found.name
  | .userAgentMissing => "HELLO requires a user_agent"
  | .other reason => reason

inductive TransportFault where
  | unexpectedEnd
  | connectionReset
  | connectionAborted
  | brokenPipe
  | other
  deriving DecidableEq, Repr

def TransportFault.all : List TransportFault :=
  [.unexpectedEnd, .connectionReset, .connectionAborted, .brokenPipe, .other]

def TransportFault.name : TransportFault → String
  | .unexpectedEnd => "UnexpectedEof"
  | .connectionReset => "ConnectionReset"
  | .connectionAborted => "ConnectionAborted"
  | .brokenPipe => "BrokenPipe"
  | .other => "Other"

def TransportFault.isDisconnect : TransportFault → Bool
  | .other => false
  | _ => true

inductive ProtocolError where
  | invalidPreamble (found : List UInt8)
  | noSupportedVersion (proposals : List Nat)
  | unsupportedVersion (number : Nat)
  | frameTooLarge (size max : Nat)
  | invalidChunkSize (size : Nat)
  | malformed (cause : Malformation)
  | unknownStructure (signature : UInt8) (version : Version)
  | structureArity (signature : UInt8) (expected actual : Nat)
  | truncated (needed : Nat)
  | depthExceeded (limit : Nat)
  | invalidUtf8
  | unsupported (cause : Unsupported)
  | invalidRequest (fault : RequestFault)
  | transport (fault : TransportFault) (text : String)
  deriving DecidableEq, Repr

namespace ProtocolError

def name : ProtocolError → String
  | invalidPreamble _ => "InvalidPreamble"
  | noSupportedVersion _ => "NoSupportedVersion"
  | unsupportedVersion _ => "UnsupportedVersion"
  | frameTooLarge _ _ => "FrameTooLarge"
  | invalidChunkSize _ => "InvalidChunkSize"
  | malformed _ => "MalformedMessage"
  | unknownStructure _ _ => "UnknownStructure"
  | structureArity _ _ _ => "StructureArity"
  | truncated _ => "Truncated"
  | depthExceeded _ => "DepthExceeded"
  | invalidUtf8 => "InvalidUtf8"
  | unsupported _ => "UnsupportedValue"
  | invalidRequest _ => "InvalidRequest"
  | transport _ _ => "Io"

def message : ProtocolError → String
  | invalidPreamble found =>
    "invalid handshake preamble: " ++
      bracketed (found.map fun b => String.ofList (Text.hexPadded 2 b.toNat))
  | noSupportedVersion proposals =>
    "no supported protocol version in proposals " ++ bracketed (proposals.map toString)
  | unsupportedVersion number => "unsupported protocol version: " ++ toString number
  | frameTooLarge size max =>
    "frame too large: " ++ toString size ++ " bytes (max " ++ toString max ++ ")"
  | invalidChunkSize size =>
    "invalid chunk size: " ++ toString size ++ " (must be between 1 and 65535)"
  | malformed cause => "malformed message: " ++ cause.message
  | unknownStructure signature version =>
    "unknown structure signature " ++ Text.hexByte signature ++ " for protocol " ++ version.name
  | structureArity signature expected actual =>
    "structure " ++ Text.hexByte signature ++ " expects " ++ toString expected ++
      " fields, got " ++ toString actual
  | truncated needed => "truncated input: need " ++ toString needed ++ " more bytes"
  | depthExceeded limit => "value nesting exceeds depth " ++ toString limit
  | invalidUtf8 => "invalid UTF-8 in string value"
  | unsupported cause => "unsupported value: " ++ cause.message
  | invalidRequest fault => "invalid request: " ++ fault.message
  | transport _ text => "I/O error: " ++ text

def isFatal : ProtocolError → Bool
  | unsupported _ | invalidRequest _ => false
  | _ => true

end ProtocolError

end GraphProtocol
