import GraphProtocol.Message.Request
import GraphProtocol.Message.Response

/-!
# The messages of a version

Each version has a list of the requests it knows, with the number of their
fields and the way they are answered. A message with an unknown signature and a
request with unacceptable fields leave the connection usable; any other fault
means that its bytes cannot be trusted.
-/

set_option autoImplicit false

namespace GraphProtocol

/-- A request as one version has it. -/
structure RequestLayout where
  kind : RequestKind
  fields : Nat
  reply : ReplyStrategy
  deriving DecidableEq, Repr

namespace RequestLayout

def signature (layout : RequestLayout) : UInt8 := layout.kind.signature

def base : List RequestLayout :=
  [⟨.init, 2, .summary⟩, ⟨.run, 2, .summary⟩, ⟨.pullAll, 0, .stream⟩,
    ⟨.discardAll, 0, .discard⟩, ⟨.reset, 0, .summary⟩]

def transactional : List RequestLayout :=
  [⟨.hello, 1, .summary⟩, ⟨.run, 3, .summary⟩, ⟨.begin, 1, .summary⟩, ⟨.commit, 0, .summary⟩,
    ⟨.rollback, 0, .summary⟩, ⟨.goodbye, 0, .silent⟩]

def overlay (layouts additions : List RequestLayout) : List RequestLayout :=
  layouts.filter (fun layout => additions.all (·.signature != layout.signature)) ++ additions

def ofVersion (version : Version) : List RequestLayout :=
  (if version.usesHello then overlay base transactional else base).mergeSort
    fun a b => a.signature.toNat ≤ b.signature.toNat

def find? (version : Version) (signature : UInt8) : Option RequestLayout :=
  (ofVersion version).find? (·.signature == signature)

def summary (l : RequestLayout) : String :=
  "RequestDecoder \x7b signature: " ++ Text.hexByte l.signature ++ ", kind: " ++ l.kind.title ++
    ", fields: " ++ toString l.fields ++ ", reply: " ++ l.reply.name ++ " \x7d"

end RequestLayout

namespace Request

def field (kind : RequestKind) (name : String) (values : List Value) (place : Nat) :
    Except ProtocolError Value :=
  match values[place]? with
  | some value => .ok value
  | none => .error (.malformed (.missingField kind.name name))

def stringField (kind : RequestKind) (name : String) (values : List Value) (place : Nat) :
    Except ProtocolError String := do
  match ← field kind name values place with
  | .string s => return s
  | other => throw (.malformed (.fieldType kind.name name .string other.type))

def mapField (kind : RequestKind) (name : String) (values : List Value) (place : Nat) :
    Except ProtocolError (Dict Value) := do
  match ← field kind name values place with
  | .map m => return m
  | other => throw (.malformed (.fieldType kind.name name .map other.type))

def requirePrimitive (place : String) (map : Dict Value) : Except ProtocolError Unit :=
  match map.firstComplex? with
  | some (key, value) => .error (.invalidRequest (.entryNotPrimitive place key value.type))
  | none => .ok ()

def metadataOf (map : Dict Value) : Except ProtocolError TxMetadata :=
  (TxMetadata.ofMap map).mapError .invalidRequest

def ofFields (layout : RequestLayout) (values : List Value) : Except ProtocolError Request :=
  match layout.kind with
  | .init => do
    let agent ← stringField .init "user agent" values 0
    let auth ← mapField .init "auth token" values 1
    requirePrimitive "auth token" auth
    return .init agent auth
  | .hello => do
    let extra ← mapField .hello "extra" values 0
    requirePrimitive "HELLO" extra
    match extra.get? userAgentKey with
    | some (.string _) => return .hello extra
    | some other => throw (.invalidRequest (.userAgentType other.type))
    | none => throw (.invalidRequest .userAgentMissing)
  | .run => do
    let statement ← stringField .run "statement" values 0
    let parameters ← mapField .run "parameters" values 1
    if layout.fields = 3 then
      return .run statement parameters (← metadataOf (← mapField .run "metadata" values 2))
    else return .run statement parameters .default
  | .begin => return .begin (← metadataOf (← mapField .begin "metadata" values 0))
  | .pullAll => .ok .pullAll
  | .discardAll => .ok .discardAll
  | .reset => .ok .reset
  | .commit => .ok .commit
  | .rollback => .ok .rollback
  | .goodbye => .ok .goodbye

def readFields (version : Version) (layout : RequestLayout) (fields : Nat) :
    Wire.Reader Request := do
  if fields = layout.fields then
    let values ← Wire.Reader.items (Wire.Reader.value version) fields
    Wire.Reader.finish
    match ofFields layout values with
    | .ok request => return request
    | .error e => throw e
  else throw (.structureArity layout.signature layout.fields fields)

end Request

inductive Undecodable where
  /-- The version knows no request with this signature. -/
  | unknownSignature (signature : UInt8)
  /-- A known request whose fields are not acceptable. -/
  | invalid (kind : RequestKind) (fault : RequestFault)
  /-- The bytes cannot be trusted. -/
  | fatal (error : ProtocolError)
  deriving DecidableEq, Repr

def Undecodable.message : Undecodable → String
  | .unknownSignature signature => "unknown request signature " ++ Text.hexByte signature
  | .invalid kind fault => "invalid " ++ kind.name ++ " request: " ++ fault.message
  | .fatal error => error.message

namespace Request

def decode (version : Version) (message : List UInt8) :
    Except Undecodable (Request × ReplyStrategy) :=
  match Wire.Reader.structureHeader (.start message) with
  | .error e _ => .error (.fatal e)
  | .ok (fields, signature) cursor =>
    match RequestLayout.find? version signature with
    | none => .error (.unknownSignature signature)
    | some layout =>
      match readFields version layout fields cursor with
      | .ok request _ => .ok (request, layout.reply)
      | .error (.invalidRequest fault) _ => .error (.invalid layout.kind fault)
      | .error e _ => .error (.fatal e)

def isKnown (version : Version) (r : Request) : Bool :=
  (RequestLayout.find? version r.kind.signature).any (·.kind == r.kind)

def encodeOnto (version : Version) (r : Request) (buffer : List UInt8) :
    Except (Abort ProtocolError) Unit × List UInt8 :=
  if r.isKnown version then (r.write version).onto buffer
  else (.error (.error (.unsupported (.requestNotInVersion r.name version))), buffer)

def encode (version : Version) (r : Request) : Except (Abort ProtocolError) (List UInt8) :=
  let (outcome, bytes) := r.encodeOnto version []
  outcome.map fun _ => bytes

end Request

namespace Response

def encode (version : Version) (r : Response) : Except (Abort ProtocolError) (List UInt8) :=
  (r.write version).result

def encodeAs (version : Version) (kind : ResponseKind) (r : Response) :
    Except (Abort ProtocolError) (List UInt8) :=
  if r.kind = kind then r.encode version
  else .error (.error (.unsupported (.wrongResponse kind.name r.kind.name)))

end Response

end GraphProtocol
