import GraphProtocol.Config.Basic
import GraphProtocol.Server.Error
import GraphProtocol.Tls.Pem

/-!
# Certificates and keys

Before connections can be encrypted, the files with the certificate, its key
and, where clients must show a certificate, the authority behind it are looked
at in this order. Whether the certificates themselves are sound is left to the
encryption layer.
-/

set_option autoImplicit false

namespace GraphProtocol.Tls

structure Material where
  cert : String
  key : String
  clientCa : Option String
  deriving DecidableEq, Repr

def load (files : Files) (path what : String) : Except ServerError Sections :=
  match files.read path with
  | .error fault =>
    .error (.tlsConfig ("cannot open " ++ what ++ " file " ++ Text.quoted path ++ ": " ++
      fault.message))
  | .ok content => .ok (sections content)

def Sections.requireFaultless (s : Sections) (path what : String) : Except ServerError Unit :=
  match s.fault with
  | none => .ok ()
  | some fault =>
    .error (.tlsConfig ("invalid " ++ what ++ " file " ++ Text.quoted path ++ ": " ++
      fault.message))

def requireCertificate (files : Files) (path : String) :
    Except ServerError Unit := do
  let found ← load files path "cert"
  found.requireFaultless path "cert"
  if found.kinds.contains .certificate then return ()
  else throw (.tlsConfig ("no certificates found in " ++ Text.quoted path))

def requireKey (files : Files) (path : String) : Except ServerError Unit := do
  let found ← load files path "key"
  if found.kinds.contains .privateKey then return ()
  else
    found.requireFaultless path "key"
    throw (.tlsConfig ("no private key found in " ++ Text.quoted path))

def required (path : Option String) (what : String) : Except ServerError String :=
  match path with
  | some path => .ok path
  | none => .error (.tlsConfig (what ++ " not set"))

def Material.ofSettings (t : TlsSettings) (files : Files) :
    Except ServerError Material := do
  let cert ← required t.certPath "cert_path"
  let key ← required t.keyPath "key_path"
  if t.requireClientCert && t.clientCaPath.isNone then
    throw (.tlsConfig "client_ca_path not set for mTLS")
  let clientCa := if t.requireClientCert then t.clientCaPath else none
  requireCertificate files cert
  requireKey files key
  match clientCa with
  | none => return ⟨cert, key, none⟩
  | some path =>
    requireCertificate files path
    return ⟨cert, key, some path⟩

end GraphProtocol.Tls
