import GraphProtocol.Config.Basic

/-!
# Settings from the environment

Environment variables take precedence over a file. A variable whose text does not
spell a value is passed over; for a flag, everything but `1` and `true` means
no.
-/

set_option autoImplicit false

namespace GraphProtocol

abbrev Environment := String → Option String

namespace Environment

def flag (text : String) : Bool := text == "1" || text.toList.map Char.toLower == "true".toList

def word? (text : String) : Option Nat := Text.unsigned? Text.maxWord64 text.toList

def versions? (text : String) : Option (List Nat) :=
  (Text.split ',' text.toList).mapM fun piece => Text.unsigned? Text.maxWord32 (Text.trim piece)

def nonEmpty? (text : String) : Option String := if text.isEmpty then none else some text

variable (env : Environment)

def override {α : Type} (name : String) (parse? : String → Option α) (before : α) : α :=
  ((env name).bind parse?).getD before

def network (n : NetworkSettings) : NetworkSettings where
  bindAddress := env.override "GRAPHWIRE_BIND" Net.SocketAddress.ofText? n.bindAddress
  idleTimeoutSecs := env.override "GRAPHWIRE_IDLE_TIMEOUT" word? n.idleTimeoutSecs
  maxConnections := env.override "GRAPHWIRE_MAX_CONNECTIONS" word? n.maxConnections
  maxMessageSize := env.override "GRAPHWIRE_MAX_MESSAGE_SIZE" word? n.maxMessageSize
  maxChunkSize := env.override "GRAPHWIRE_MAX_CHUNK_SIZE" word? n.maxChunkSize

def protocol (p : ProtocolSettings) : ProtocolSettings where
  enabledVersions := env.override "GRAPHWIRE_PROTOCOL_VERSIONS" versions? p.enabledVersions
  serverAgent := env.override "GRAPHWIRE_SERVER_AGENT" nonEmpty? p.serverAgent
  resetTimeoutMillis := env.override "GRAPHWIRE_RESET_TIMEOUT_MS" word? p.resetTimeoutMillis

def auth (a : AuthSettings) : AuthSettings where
  required := env.override "GRAPHWIRE_AUTH_REQUIRED" (some ∘ flag) a.required
  credentialHashes :=
    a.credentialHashes ++ ((env "GRAPHWIRE_AUTH_CREDENTIAL_HASH").bind nonEmpty?).toList
  secretsFile := (env "GRAPHWIRE_AUTH_SECRETS_FILE").or a.secretsFile

def tls (t : TlsSettings) : TlsSettings where
  enabled := env.override "GRAPHWIRE_TLS_ENABLED" (some ∘ flag) t.enabled
  certPath := (env "GRAPHWIRE_TLS_CERT").or t.certPath
  keyPath := (env "GRAPHWIRE_TLS_KEY").or t.keyPath
  requireClientCert :=
    env.override "GRAPHWIRE_TLS_REQUIRE_CLIENT_CERT" (some ∘ flag) t.requireClientCert
  clientCaPath := (env "GRAPHWIRE_TLS_CLIENT_CA").or t.clientCaPath

def metrics (m : MetricsSettings) : MetricsSettings where
  enabled := env.override "GRAPHWIRE_METRICS_ENABLED" (some ∘ flag) m.enabled
  bindAddress := env.override "GRAPHWIRE_METRICS_BIND" Net.SocketAddress.ofText? m.bindAddress

def apply (c : Config) : Config :=
  ⟨env.network c.network, env.protocol c.protocol, env.auth c.auth, env.tls c.tls,
    env.metrics c.metrics⟩

end Environment

end GraphProtocol
