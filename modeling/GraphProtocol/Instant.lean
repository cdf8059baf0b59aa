import GraphProtocol.Text.Elapsed

/-!
# Instants

Moments and lengths of time, both counted in nanoseconds; a moment counts from
an origin that all parts of a server share.
-/

set_option autoImplicit false

namespace GraphProtocol

abbrev Instant := Nat

structure Span where
  nanos : Nat
  deriving DecidableEq, Repr, Inhabited

namespace Span

def ofMillis (n : Nat) : Span := ⟨n * 1000000⟩

def millis (s : Span) : Nat := s.nanos / 1000000

def ofSeconds (n : Nat) : Span := ⟨n * 1000000000⟩

def toText (s : Span) : String := Text.elapsed s.nanos

end Span

namespace Instant

def seconds (t : Instant) : Nat := t / 1000000000

/-- The most seconds that a moment may count: they are kept in 64 bits, one of them for the
sign. -/
def maxSeconds : Nat := 0x7FFFFFFFFFFFFFFF

def later? (start : Instant) (span : Span) : Option Instant :=
  let moment : Instant := start + span.nanos
  if seconds moment ≤ maxSeconds then some moment else none

theorem later?_eq_some {start moment : Instant} {span : Span} :
    later? start span = some moment ↔
      moment = start + span.nanos ∧ seconds moment ≤ maxSeconds := by
  unfold later?
  dsimp only
  split
  next countable =>
    constructor
    · rintro ⟨⟩
      exact ⟨rfl, countable⟩
    · rintro ⟨rfl, -⟩
      rfl
  next uncountable =>
    constructor
    · rintro ⟨⟩
    · rintro ⟨rfl, countable⟩
      exact absurd countable uncountable

def exceeds (now start : Instant) (limit : Span) : Bool :=
  decide (start + limit.nanos < now)

end Instant

end GraphProtocol
