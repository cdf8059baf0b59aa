/-!
# Places in a document

A document is read from its beginning to its end. The reader knows how much it
has read, and the line and the column at which it stands. A step takes one
character, or a carriage return together with the line feed after it, and makes
what is left of the document shorter.
-/

set_option autoImplicit false

namespace GraphProtocol.Yaml

def isBlank (c : Char) : Bool := c == ' ' || c == '\t'

def isBreak (c : Char) : Bool :=
  c == '\n' || c == '\r' || c == '\u0085' || c == '\u2028' || c == '\u2029'

def breakOf (c : Char) : Char := if c == '\u2028' || c == '\u2029' then c else '\n'

def endsWord (cs : List Char) : Bool := cs.head?.all fun c => isBlank c || isBreak c

def isReadable (c : Char) : Bool :=
  let n := c.toNat
  n = 0x09 || n = 0x0a || n = 0x0d || (0x20 ≤ n && n ≤ 0x7e) || n = 0x85 ||
    (0xa0 ≤ n && n ≤ 0xfffd) || 0x10000 ≤ n

structure Cursor where
  /-- What has not been read. -/
  rest : List Char
  line : Nat
  column : Nat
  /-- The number of characters that have been read. -/
  index : Nat
  deriving Repr

namespace Cursor

def start : List Char → Cursor
  | '\uFEFF' :: rest => ⟨rest, 0, 1, 1⟩
  | rest => ⟨rest, 0, 0, 0⟩

def step (c : Cursor) : Cursor :=
  match c.rest with
  | [] => c
  | '\r' :: '\n' :: rest => ⟨rest, c.line + 1, 0, c.index + 2⟩
  | d :: rest =>
    if isBreak d then ⟨rest, c.line + 1, 0, c.index + 1⟩
    else ⟨rest, c.line, c.column + 1, c.index + 1⟩

def steps : Nat → Cursor → Cursor
  | 0, c => c
  | n + 1, c => steps n c.step

theorem length_step_lt {c : Cursor} {d : Char} {rest : List Char} (h : c.rest = d :: rest) :
    c.step.rest.length < c.rest.length := by
  unfold step
  split
  · next hr => simp [hr] at h
  · next hr =>
    simp only [hr, List.length_cons]
    omega
  · next _ hr =>
    split <;> simp only [hr, List.length_cons, Nat.lt_add_one]

theorem length_step_le (c : Cursor) : c.step.rest.length ≤ c.rest.length := by
  match h : c.rest with
  | [] => simp [step, h]
  | _ :: _ => exact h ▸ Nat.le_of_lt (length_step_lt h)

theorem length_steps_le (n : Nat) (c : Cursor) :
    (c.steps n).rest.length ≤ c.rest.length := by
  induction n generalizing c with
  | zero => exact Nat.le_refl _
  | succ n ih => exact Nat.le_trans (ih c.step) c.length_step_le

def isAtMarker (mark : Char) (c : Cursor) : Bool :=
  c.column == 0 && c.rest.take 3 == [mark, mark, mark] && endsWord (c.rest.drop 3)

def isAtDocumentMarker (c : Cursor) : Bool := c.isAtMarker '-' || c.isAtMarker '.'

end Cursor

end GraphProtocol.Yaml
