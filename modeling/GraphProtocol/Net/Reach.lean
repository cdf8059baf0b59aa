/-!
# Reaching a host

Whether a network takes a client to a server at all.
-/

set_option autoImplicit false

namespace GraphProtocol.Net

/-- What a network does with those who want to connect. -/
inductive Reach where
  | connected
  | unreachable
  deriving DecidableEq, Repr

inductive ConnectFault where
  | unreachable
  deriving DecidableEq, Repr

def ConnectFault.message : ConnectFault → String
  | .unreachable =>
    "connect: Os \x7b code: 101, kind: NetworkUnreachable, " ++
      "message: \"Network is unreachable\" \x7d"

def Reach.connect : Reach → Except ConnectFault Unit
  | .connected => .ok ()
  | .unreachable => .error .unreachable

end GraphProtocol.Net
