import GraphProtocol.Auth.Sha256
import GraphProtocol.Text.Class
import GraphProtocol.Text.Quoted
import GraphProtocol.Value.Basic

/-!
# Authentication

A client is known by the hash of its name and credentials; the credentials
themselves are never kept. A client that names no scheme stays anonymous, which
is refused where authentication is required.
-/

set_option autoImplicit false

namespace GraphProtocol

structure Principal where
  name : String
  scheme : String
  deriving DecidableEq, Repr

namespace Principal

def anonymous : Principal := ⟨"", "none"⟩

def isAnonymous (p : Principal) : Bool := p.name.isEmpty

end Principal

inductive AuthError where
  | unsupportedScheme (scheme : String)
  | missingField (field : String)
  | invalidCredentials
  | required
  deriving DecidableEq, Repr

def AuthError.name : AuthError → String
  | .unsupportedScheme _ => "UnsupportedScheme"
  | .missingField _ => "MissingField"
  | .invalidCredentials => "InvalidCredentials"
  | .required => "Required"

def AuthError.message : AuthError → String
  | .unsupportedScheme scheme => "unsupported authentication scheme '" ++ scheme ++ "'"
  | .missingField field => "auth token is missing '" ++ field ++ "'"
  | .invalidCredentials => "the client is unauthorized due to authentication failure"
  | .required => "authentication is required"

def hashCredentials (principal credentials : String) : String :=
  let digest := Sha256.hash (Wire.utf8 (principal ++ ":" ++ credentials))
  String.ofList (digest.flatMap fun b => Text.hexPadded 2 b.toNat)

structure Authenticator where
  /-- The accepted hashes, each once. -/
  hashes : List String
  required : Bool
  deriving Repr, DecidableEq

namespace Authenticator

def normalHash (hash : String) : String :=
  String.ofList ((Text.trim hash.toList).map Char.toLower)

def ofHashes (hashes : List String) (required : Bool) : Authenticator :=
  ⟨(hashes.map normalHash).eraseDups, required⟩

def disabled : Authenticator := ofHashes [] false

def textField (token : Dict Value) (key : String) : Except AuthError String :=
  match (token.get? key).bind Value.asString? with
  | some s => .ok s
  | none => .error (.missingField key)

def schemeOf (token : Dict Value) : Except AuthError String :=
  match token.get? "scheme" with
  | none | some .null => .ok "none"
  | some _ => textField token "scheme"

def isOpen (a : Authenticator) : Bool := !a.required && a.hashes.isEmpty

def authenticate (a : Authenticator) (token : Dict Value) : Except AuthError Principal := do
  let scheme ← schemeOf token
  if scheme = "none" then
    if a.required then throw .required else return .anonymous
  else if scheme = "basic" then
    let principal ← textField token "principal"
    let credentials ← textField token "credentials"
    if a.isOpen || a.hashes.contains (hashCredentials principal credentials) then
      return ⟨principal, "basic"⟩
    else throw .invalidCredentials
  else throw (.unsupportedScheme scheme)

instance : CoeFun Authenticator fun _ => Dict Value → Except AuthError Principal := ⟨authenticate⟩

end Authenticator

end GraphProtocol
