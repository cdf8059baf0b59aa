import GraphProtocol.Config.Basic
import GraphProtocol.Server.Error

/-!
# Settings of a running server

What a server takes from its configuration. Encryption and metrics are added
separately.
-/

set_option autoImplicit false

namespace GraphProtocol

structure ServerSettings where
  network : NetworkSettings
  versions : List Version
  serverAgent : String
  resetTimeout : Span
  /-- How long a client may take to propose versions. -/
  handshakeTimeout : Span
  tlsEnabled : Bool
  metricsEnabled : Bool

namespace ServerSettings

def handshakeTime : Span := .ofSeconds 10

def default : ServerSettings where
  network := .default
  versions := Version.all
  serverAgent := ProtocolSettings.default.serverAgent
  resetTimeout := ProtocolSettings.default.resetTimeout
  handshakeTimeout := handshakeTime
  tlsEnabled := false
  metricsEnabled := false

def ofConfig (c : Config) : Except ServerError ServerSettings :=
  match c.protocol.versions with
  | .error fault => .error (.config (.invalid fault))
  | .ok versions =>
    .ok { ServerSettings.default with
      network := c.network
      versions
      serverAgent := c.protocol.serverAgent
      resetTimeout := c.protocol.resetTimeout }

def summary (s : ServerSettings) : String :=
  "ServerConfig \x7b bind_addr: " ++ s.network.bindAddress.toText ++
    ", max_connections: " ++ toString s.network.maxConnections ++
    ", versions: " ++ bracketed (s.versions.map fun v => "V" ++ toString v.number) ++
    ", server_agent: " ++ Text.quoted s.serverAgent ++
    ", tls_enabled: " ++ toString s.tlsEnabled ++
    ", metrics_enabled: " ++ toString s.metricsEnabled ++ " \x7d"

end ServerSettings

end GraphProtocol
