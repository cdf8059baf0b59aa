import GraphProtocol.Config.File

/-!
# Configuration errors

A settings file that cannot be read or understood, and settings that a server
cannot work with.
-/

set_option autoImplicit false

namespace GraphProtocol

inductive SettingFault where
  | chunkSize (size largest : Nat)
  | messageSizeZero
  | connectionsZero
  | noVersions
  | unknownVersion (number : Nat)
  | certPathUnset
  | keyPathUnset
  | clientCaUnset
  | other (reason : String)
  deriving DecidableEq, Repr

def SettingFault.message : SettingFault → String
  | .chunkSize size largest =>
    "max_chunk_size must be between 1 and " ++ toString largest ++ ", got " ++ toString size
  | .messageSizeZero => "max_message_size must be positive"
  | .connectionsZero => "max_connections must be positive"
  | .noVersions => "at least one protocol version must be enabled"
  | .unknownVersion number => "unknown protocol version " ++ toString number
  | .certPathUnset => "TLS enabled but cert_path not set"
  | .keyPathUnset => "TLS enabled but key_path not set"
  | .clientCaUnset => "mTLS enabled but client_ca_path not set"
  | .other reason => reason

inductive ConfigError where
  | unreadable (path : String) (fault : FileFault)
  /-- A file that is no settings file. -/
  | unparsable (path : String)
  | invalid (fault : SettingFault)
  deriving DecidableEq, Repr

def ConfigError.message : ConfigError → String
  | .unreadable path fault =>
    "failed to read config file '" ++ path ++ "': " ++ fault.message
  | .unparsable path => "failed to parse config file '" ++ path ++ "'"
  | .invalid fault => "configuration validation failed: " ++ fault.message

end GraphProtocol
