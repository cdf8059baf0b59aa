import GraphProtocol.Auth.Authenticator
import GraphProtocol.Config.Error
import GraphProtocol.Instant
import GraphProtocol.Net.Address
import GraphProtocol.Pipeline

/-!
# Settings

Everything that can be set on a server, with the values that hold if nothing is
said.
-/

set_option autoImplicit false

namespace GraphProtocol

structure NetworkSettings where
  bindAddress : Net.SocketAddress
  idleTimeoutSecs : Nat
  maxConnections : Nat
  maxMessageSize : Nat
  maxChunkSize : Nat
  deriving DecidableEq, Repr

structure ProtocolSettings where
  /-- The numbers of the versions that are enabled. -/
  enabledVersions : List Nat
  serverAgent : String
  resetTimeoutMillis : Nat
  deriving DecidableEq, Repr

structure AuthSettings where
  required : Bool
  credentialHashes : List String
  /-- A file with one hash on each line. -/
  secretsFile : Option String
  deriving DecidableEq, Repr

structure TlsSettings where
  enabled : Bool
  certPath : Option String
  keyPath : Option String
  requireClientCert : Bool
  clientCaPath : Option String
  deriving DecidableEq, Repr

structure MetricsSettings where
  enabled : Bool
  bindAddress : Net.SocketAddress
  deriving DecidableEq, Repr

structure Config where
  network : NetworkSettings
  protocol : ProtocolSettings
  auth : AuthSettings
  tls : TlsSettings
  metrics : MetricsSettings
  deriving DecidableEq, Repr

namespace NetworkSettings

def default : NetworkSettings where
  bindAddress := ⟨.v4 [127, 0, 0, 1], 7687, 0⟩
  idleTimeoutSecs := 300
  maxConnections := 1000
  maxMessageSize := 16 * 1024 * 1024
  maxChunkSize := Frame.maxChunkSize

def idleTimeout (n : NetworkSettings) : Span := .ofSeconds n.idleTimeoutSecs

def limits (n : NetworkSettings) : WireLimits := ⟨n.maxMessageSize, n.maxChunkSize⟩

def validate (n : NetworkSettings) : Except SettingFault Unit :=
  if n.maxChunkSize = 0 ∨ Frame.maxChunkSize < n.maxChunkSize then
    .error (.chunkSize n.maxChunkSize Frame.maxChunkSize)
  else if n.maxMessageSize = 0 then .error .messageSizeZero
  else if n.maxConnections = 0 then .error .connectionsZero
  else .ok ()

end NetworkSettings

namespace ProtocolSettings

def default : ProtocolSettings := ⟨Version.all.map Version.number, "graphwire/0.1.0", 5000⟩

def resetTimeout (p : ProtocolSettings) : Span := .ofMillis p.resetTimeoutMillis

def versions (p : ProtocolSettings) : Except SettingFault (List Version) :=
  if p.enabledVersions.isEmpty then .error .noVersions
  else p.enabledVersions.mapM fun n =>
    match Version.ofNumber? n with
    | some v => .ok v
    | none => .error (.unknownVersion n)

end ProtocolSettings

namespace AuthSettings

def default : AuthSettings := ⟨false, [], none⟩

def secrets (content : String) : List String :=
  ((Text.split '\n' content.toList).map Text.trim).filterMap fun line =>
    if line.isEmpty ∨ line.head? = some '#' then none else some (String.ofList line)

def loadSecrets (a : AuthSettings) (files : Files) :
    Except ConfigError AuthSettings :=
  match a.secretsFile with
  | none => .ok a
  | some path =>
    match files.read path with
    | .error fault => .error (.unreadable path fault)
    | .ok content => .ok { a with credentialHashes := a.credentialHashes ++ secrets content }

def authenticator (a : AuthSettings) : Authenticator := .ofHashes a.credentialHashes a.required

end AuthSettings

namespace TlsSettings

def default : TlsSettings := ⟨false, none, none, false, none⟩

def validate (t : TlsSettings) : Except SettingFault Unit :=
  if !t.enabled then .ok ()
  else if t.certPath.isNone then .error .certPathUnset
  else if t.keyPath.isNone then .error .keyPathUnset
  else if t.requireClientCert && t.clientCaPath.isNone then .error .clientCaUnset
  else .ok ()

end TlsSettings

def MetricsSettings.default : MetricsSettings := ⟨false, ⟨.v4 [0, 0, 0, 0], 9090, 0⟩⟩

namespace Config

def default : Config := ⟨.default, .default, .default, .default, .default⟩

def validate (c : Config) : Except SettingFault Unit := do
  c.network.validate
  let _ ← c.protocol.versions
  c.tls.validate

def loadSecrets (c : Config) (files : Files) : Except ConfigError Config := do
  return { c with auth := ← c.auth.loadSecrets files }

end Config

end GraphProtocol
