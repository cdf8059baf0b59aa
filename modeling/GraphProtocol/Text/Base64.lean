/-!
# Texts in base 64

Four digits stand for three bytes. The last group may be short, and a pad may
stand for each digit that it lacks. Blanks between digits have no meaning. Only
the form of a text is judged here: what it spells is not needed.
-/

set_option autoImplicit false

namespace GraphProtocol.Text

inductive Base64Fault where
  /-- A byte that is no digit, pad or blank. -/
  | invalidCharacter (b : UInt8)
  /-- Digits follow a group that holds a pad. -/
  | prematurePadding
  /-- The last group has too few digits, or pads in wrong places. -/
  | invalidTrailingPadding
  deriving DecidableEq, Repr

def Base64Fault.message : Base64Fault → String
  | .invalidCharacter b => "InvalidCharacter(" ++ toString b.toNat ++ ")"
  | .prematurePadding => "PrematurePadding"
  | .invalidTrailingPadding => "InvalidTrailingPadding"

inductive Base64Mark where
  | digit
  | pad
  | blank
  | foreign
  deriving DecidableEq, Repr

def Base64Mark.ofByte (b : UInt8) : Base64Mark :=
  let n := b.toNat
  if n = 0x20 || (0x09 ≤ n && n ≤ 0x0d) then .blank
  else if n = 0x3d then .pad
  else if (0x41 ≤ n && n ≤ 0x5a) || (0x61 ≤ n && n ≤ 0x7a) || (0x30 ≤ n && n ≤ 0x39)
      || n = 0x2b || n = 0x2f then .digit
  else .foreign

/-- How the last group may look; `true` stands for a pad. -/
def endsWell : List Bool → Bool
  | [] | [false, false] | [false, false, false] => true
  | [false, false, true, true] | [false, false, false, _] => true
  | _ => false

def lastBlock (block : List Bool) : Except Base64Fault Unit :=
  if 4 < block.length ∧ true ∈ block.take 4 then .error .prematurePadding
  else if endsWell (if 4 < block.length then block.drop 4 else block) then .ok ()
  else .error .invalidTrailingPadding

/-- Judges a text block by block. A block has eight marks, and its pads are looked
at when the next block begins, so the faults of a block come first. The block so far
is given backwards. -/
def judgeBase64 (block : List Bool) : List UInt8 → Except Base64Fault Unit
  | [] => lastBlock block.reverse
  | b :: rest =>
    match Base64Mark.ofByte b with
    | .blank => judgeBase64 block rest
    | .foreign => .error (.invalidCharacter b)
    | mark =>
      if block.length < 8 then judgeBase64 (decide (mark = .pad) :: block) rest
      else if true ∈ block then .error .prematurePadding
      else judgeBase64 [decide (mark = .pad)] rest

def checkBase64 (bytes : List UInt8) : Except Base64Fault Unit := judgeBase64 [] bytes

end GraphProtocol.Text
