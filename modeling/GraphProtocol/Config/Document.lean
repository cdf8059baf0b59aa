import GraphProtocol.Config.Environment
import GraphProtocol.Yaml.Tree

/-!
# Settings from a file

A settings file is a mapping with a section for each group of settings. What is
not mentioned keeps its default, and unknown keys are passed over. A key that is
given twice, or a value of the wrong kind, makes the whole file unusable.
-/

set_option autoImplicit false

namespace GraphProtocol

namespace Yaml.Tree

def section? : Tree → Option (List (String × Tree))
  | .mapping entries => entries.mapM fun
    | (.scalar key _, value) => some (key, value)
    | _ => none
  | .scalar "" true => some []
  | _ => none

def items? : Tree → Option (List Tree)
  | .sequence items => some items
  | .scalar "" true => some []
  | _ => none

def text? : Tree → Option String
  | .scalar text _ => some text
  | _ => none

def isNull (node : Tree) : Bool :=
  match node with
  | .scalar text true => ["", "null", "Null", "NULL", "~"].contains text
  | _ => false

def flag? : Tree → Option Bool
  | .scalar text true =>
    if ["true", "True", "TRUE"].contains text then some true
    else if ["false", "False", "FALSE"].contains text then some false
    else none
  | _ => none

/-- The number that a plain scalar spells: decimal without superfluous zeros, or in another base
behind a mark. -/
def spelled? (text : List Char) : Option Nat :=
  match Text.afterPlus text with
  | '0' :: 'x' :: digits => Text.digits? 16 digits
  | '0' :: 'o' :: digits => Text.digits? 8 digits
  | '0' :: 'b' :: digits => Text.digits? 2 digits
  | '0' :: _ :: _ => none
  | digits => Text.digits? 10 digits

def number? (largest : Nat) : Tree → Option Nat
  | .scalar text true => (spelled? text.toList).filter (· ≤ largest)
  | _ => none

def optionalText? (node : Tree) : Option (Option String) :=
  if node.isNull then some none else node.text?.map some

def address? (node : Tree) : Option Net.SocketAddress := node.text?.bind Net.SocketAddress.ofText?

end Yaml.Tree

namespace Config

open Yaml (Tree)

abbrev Entries := List (String × Tree)

/-- The value under a key, or its default; none if the value is unusable or the key repeated. -/
def setting {α : Type} (entries : Entries) (key : String) (default : α)
    (read? : Tree → Option α) : Option α :=
  match entries.filter (·.1 == key) with
  | [] => some default
  | [(_, node)] => read? node
  | _ => none

def network? (node : Tree) : Option NetworkSettings := do
  let entries ← node.section?
  let d := NetworkSettings.default
  let word := Tree.number? Text.maxWord64
  return {
    bindAddress := ← setting entries "bind_addr" d.bindAddress Tree.address?
    idleTimeoutSecs := ← setting entries "idle_timeout_secs" d.idleTimeoutSecs word
    maxConnections := ← setting entries "max_connections" d.maxConnections word
    maxMessageSize := ← setting entries "max_message_size" d.maxMessageSize word
    maxChunkSize := ← setting entries "max_chunk_size" d.maxChunkSize word }

def protocol? (node : Tree) : Option ProtocolSettings := do
  let entries ← node.section?
  let d := ProtocolSettings.default
  let versions (node : Tree) := node.items?.bind (·.mapM (Tree.number? Text.maxWord32))
  return {
    enabledVersions := ← setting entries "enabled_versions" d.enabledVersions versions
    serverAgent := ← setting entries "server_agent" d.serverAgent Tree.text?
    resetTimeoutMillis :=
      ← setting entries "reset_timeout_ms" d.resetTimeoutMillis (Tree.number? Text.maxWord64) }

def auth? (node : Tree) : Option AuthSettings := do
  let entries ← node.section?
  let d := AuthSettings.default
  let texts (node : Tree) := node.items?.bind (·.mapM Tree.text?)
  return {
    required := ← setting entries "required" d.required Tree.flag?
    credentialHashes := ← setting entries "credential_hashes" d.credentialHashes texts
    secretsFile := ← setting entries "secrets_file" d.secretsFile Tree.optionalText? }

def tls? (node : Tree) : Option TlsSettings := do
  let entries ← node.section?
  let d := TlsSettings.default
  return {
    enabled := ← setting entries "enabled" d.enabled Tree.flag?
    certPath := ← setting entries "cert_path" d.certPath Tree.optionalText?
    keyPath := ← setting entries "key_path" d.keyPath Tree.optionalText?
    requireClientCert := ← setting entries "require_client_cert" d.requireClientCert Tree.flag?
    clientCaPath := ← setting entries "client_ca_path" d.clientCaPath Tree.optionalText? }

def metrics? (node : Tree) : Option MetricsSettings := do
  let entries ← node.section?
  let d := MetricsSettings.default
  return {
    enabled := ← setting entries "enabled" d.enabled Tree.flag?
    bindAddress := ← setting entries "bind_addr" d.bindAddress Tree.address? }

def ofNode? (node : Tree) : Option Config := do
  let entries ← node.section?
  let d := Config.default
  return {
    network := ← setting entries "network" d.network network?
    protocol := ← setting entries "protocol" d.protocol protocol?
    auth := ← setting entries "auth" d.auth auth?
    tls := ← setting entries "tls" d.tls tls?
    metrics := ← setting entries "metrics" d.metrics metrics? }

def ofFile (files : Files) (path : String) : Except ConfigError Config :=
  match files.read path with
  | .error fault => .error (.unreadable path fault)
  | .ok content =>
    match (Tree.ofText? content).bind ofNode? with
    | some config => .ok config
    | none => .error (.unparsable path)

def ofEnvironment (env : Environment) : Config := env.apply .default

/-- The settings of a server: those of the file that the environment names, with what the
environment says put over them. -/
def load (env : Environment) (files : Files) : Except ConfigError Config :=
  match env "GRAPHWIRE_CONFIG" with
  | none => .ok (ofEnvironment env)
  | some path => (ofFile files path).map env.apply

end Config

end GraphProtocol
