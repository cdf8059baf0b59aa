import GraphProtocol.Message.Kind
import GraphProtocol.Message.TxMetadata
import GraphProtocol.Wire.Writer

/-!
# Requests

What a client asks for. The greeting holds the user agent and the credentials
in one map; the initialisation keeps them apart.
-/

set_option autoImplicit false

namespace GraphProtocol

inductive Request where
  | init (userAgent : String) (auth : Dict Value)
  | hello (extra : Dict Value)
  | run (statement : String) (parameters : Dict Value) (metadata : TxMetadata)
  | pullAll
  | discardAll
  | reset
  | begin (metadata : TxMetadata)
  | commit
  | rollback
  | goodbye
  deriving Inhabited

namespace Request

def kind : Request → RequestKind
  | init _ _ => .init
  | hello _ => .hello
  | run _ _ _ => .run
  | pullAll => .pullAll
  | discardAll => .discardAll
  | reset => .reset
  | begin _ => .begin
  | commit => .commit
  | rollback => .rollback
  | goodbye => .goodbye

def name (r : Request) : String := r.kind.name

def userAgentKey : String := "user_agent"

def greeting (userAgent : String) (auth : Dict Value) : Request :=
  .hello ((Dict.empty.insert userAgentKey (.string userAgent)).insertAll auth.entries)

def userAgent? : Request → Option String
  | init agent _ => some agent
  | hello extra => (extra.get? userAgentKey).bind Value.asString?
  | _ => none

def authToken? : Request → Option (Dict Value)
  | init _ auth => some auth
  | hello extra => some (extra.filter fun key _ => key != userAgentKey)
  | _ => none

def write (version : Version) (r : Request) : Wire.Written :=
  let header (fields : Nat) := Wire.writeStructureHeader fields r.kind.signature
  match r with
  | init agent auth => header 2 ++ Wire.writeString agent ++ auth.writePrimitive version
  | hello extra => header 1 ++ extra.writePrimitive version
  | run statement parameters metadata =>
    if version.usesHello then
      header 3 ++ Wire.writeString statement ++ parameters.write version ++
        metadata.toMap.writePrimitive version
    else header 2 ++ Wire.writeString statement ++ parameters.write version
  | begin metadata => header 1 ++ metadata.toMap.writePrimitive version
  | pullAll | discardAll | reset | commit | rollback | goodbye => header 0

end Request

end GraphProtocol
