import GraphProtocol.Config.Error
import GraphProtocol.Error
import GraphProtocol.Instant
import GraphProtocol.Message.Kind
import GraphProtocol.Status

/-!
# Server errors

What ends a connection or keeps the server from running. The failure of a
single request is never one of these; it is answered and the connection goes on.
-/

set_option autoImplicit false

namespace GraphProtocol

inductive ServerError where
  | transport (fault : TransportFault) (text : String)
  | protocol (error : ProtocolError)
  | config (error : ConfigError)
  | authFailed (reason : String)
  | handshake (reason : String)
  /-- A request other than the opening one came first. -/
  | notInitialized (request : RequestKind)
  | resetTimeout (limit : Span)
  | shuttingDown
  | tlsConfig (reason : String)
  | tlsHandshake (reason : String)
  | metrics (reason : String)
  deriving DecidableEq, Repr

namespace ServerError

def name : ServerError → String
  | transport _ _ => "Io"
  | protocol e => "Protocol." ++ e.name
  | config _ => "Config"
  | authFailed _ => "AuthFailed"
  | handshake _ => "Handshake"
  | notInitialized _ => "NotInitialized"
  | resetTimeout _ => "ResetTimeout"
  | shuttingDown => "ShuttingDown"
  | tlsConfig _ => "TlsConfig"
  | tlsHandshake _ => "TlsHandshake"
  | metrics _ => "Metrics"

def message : ServerError → String
  | transport _ text => "I/O error: " ++ text
  | protocol error => "protocol error: " ++ error.message
  | config error => "config error: " ++ error.message
  | authFailed reason => "authentication failed: " ++ reason
  | handshake reason => "handshake failed: " ++ reason
  | notInitialized request => "request " ++ request.name ++ " is not allowed before INIT/HELLO"
  | resetTimeout limit => "in-flight execution did not stop within " ++ limit.toText
  | shuttingDown => "server shutting down"
  | tlsConfig reason => "TLS configuration error: " ++ reason
  | tlsHandshake reason => "TLS handshake failed: " ++ reason
  | metrics reason => "metrics error: " ++ reason

def status : ServerError → Status
  | authFailed _ => .unauthorized
  | protocol (.invalidRequest _) | protocol (.unsupported _) => .requestInvalid
  | protocol _ | notInitialized _ | handshake _ => .requestInvalidFormat
  | resetTimeout _ => .transactionTerminated
  | _ => .unknownError

def isDisconnect : ServerError → Bool
  | transport fault _ | protocol (.transport fault _) => fault.isDisconnect
  | _ => false

end ServerError

end GraphProtocol
