/-!
# Cancelling executions

Every execution is given a token. Cancelling fires all tokens handed out so far;
the signal is renewed only after it has fired, so a fired token never becomes
live again.
-/

set_option autoImplicit false

namespace GraphProtocol

structure CancelToken where
  generation : Nat
  deriving DecidableEq, Repr

structure CancelSignal where
  generation : Nat
  /-- Whether the tokens of this generation have fired. -/
  fired : Bool
  deriving DecidableEq, Repr

namespace CancelSignal

def fresh : CancelSignal := ⟨0, false⟩

def token (s : CancelSignal) : CancelToken := ⟨s.generation⟩

def cancel (s : CancelSignal) : CancelSignal := { s with fired := true }

def renew (s : CancelSignal) : CancelSignal := if s.fired then ⟨s.generation + 1, false⟩ else s

def isCancelled (s : CancelSignal) (t : CancelToken) : Bool :=
  decide (t.generation < s.generation) || s.fired

end CancelSignal

end GraphProtocol
