import GraphProtocol.Binary64.Decimal

/-!
# Metrics

What a server counts: connections, refused handshakes, and for every kind of
message the requests, the failures by status code, the requests ignored and the
time that answers took. A server only ever adds to its metrics and never reads
them, so what it has to say of them is which updates it has made, in which order.
What a reader sees of them is up to the library that keeps them.
-/

set_option autoImplicit false

namespace GraphProtocol

namespace Metrics

inductive Update where
  | connection
  | opened
  | closed
  | refusal
  | request (message : String)
  | failure (code : String)
  | ignored (message : String)
  /-- How many seconds passed until the terminal response. -/
  | answer (message : String) (seconds : Binary64)

end Metrics

structure Metrics where
  /-- The last one first. -/
  updates : List Metrics.Update

namespace Metrics

def fresh : Metrics := ⟨[]⟩

def update (m : Metrics) (u : Update) : Metrics := ⟨u :: m.updates⟩

def countConnection (m : Metrics) : Metrics := m.update .connection

def openConnection (m : Metrics) : Metrics := m.update .opened

def closeConnection (m : Metrics) : Metrics := m.update .closed

def countRefusal (m : Metrics) : Metrics := m.update .refusal

def countRequest (m : Metrics) (message : String) : Metrics := m.update (.request message)

def countFailure (m : Metrics) (code : String) : Metrics := m.update (.failure code)

def countIgnored (m : Metrics) (message : String) : Metrics := m.update (.ignored message)

def observe (m : Metrics) (message : String) (seconds : Binary64) : Metrics :=
  m.update (.answer message seconds)

end Metrics

end GraphProtocol
