import GraphProtocol.Message.Kind
import GraphProtocol.Status
import GraphProtocol.Wire.Reader
import GraphProtocol.Wire.Writer

/-!
# Responses

What the server answers. The layout of a response is the same in every version.
-/

set_option autoImplicit false

namespace GraphProtocol

structure Failure where
  code : String
  message : String
  deriving DecidableEq, Repr

namespace Failure

def ofStatus (status : Status) (message : String) : Failure := ⟨status.code, message⟩

def toMap (f : Failure) : Dict Value :=
  (Dict.empty.insert "code" (.string f.code)).insert "message" (.string f.message)

def toText (f : Failure) : String := f.code ++ ": " ++ f.message

end Failure

inductive Response where
  | success (metadata : Dict Value)
  | record (fields : List Value)
  | ignored
  | failure (failure : Failure)
  deriving Inhabited

namespace Response

def kind : Response → ResponseKind
  | success _ => .success
  | record _ => .record
  | ignored => .ignored
  | failure _ => .failure

def write (version : Version) (r : Response) : Wire.Written :=
  let header (fields : Nat) := Wire.writeStructureHeader fields r.kind.signature
  match r with
  | success metadata => header 1 ++ metadata.writePrimitive version
  | record fields => header 1 ++ Wire.writeListWith fields fun field _ => field.write version
  | ignored => header 0
  | failure f => header 1 ++ f.toMap.writePrimitive version

def failureText (map : Dict Value) (key : String) : Wire.Reader String :=
  Wire.Reader.orMalformed ((map.get? key).bind Value.asString?) (.failureWithout key)

def readBody (version : Version) : ResponseKind → Wire.Reader (Response × Nat)
  | .success => return (.success (← Wire.Reader.map version), 1)
  | .record => return (.record (← Wire.Reader.list version), 1)
  | .ignored => return (.ignored, 0)
  | .failure => do
    let map ← Wire.Reader.map version
    let code ← failureText map "code"
    return (.failure ⟨code, ← failureText map "message"⟩, 1)

/-- Reads a response as a client does; the field count is compared after the body. -/
def read (version : Version) : Wire.Reader Response := do
  let (fields, signature) ← Wire.Reader.structureHeader
  match ResponseKind.ofSignature? signature with
  | none => Wire.Reader.malformed (.unknownResponse signature)
  | some kind =>
    let (response, expected) ← readBody version kind
    if fields = expected then return response
    else throw (.structureArity signature expected fields)

end Response

end GraphProtocol
