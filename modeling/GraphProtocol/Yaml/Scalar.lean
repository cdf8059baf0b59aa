import GraphProtocol.Text.Unsigned
import GraphProtocol.Yaml.Cursor

/-!
# Scalars

A scalar is plain or quoted, and may run over several lines. Blanks around a line
break have no meaning. A single line break counts as a space, and of several the
first does not count. In double quotes a backslash introduces an escape, and at
the end of a line it makes the break disappear.
-/

set_option autoImplicit false

namespace GraphProtocol.Yaml

/-- Blanks and line breaks after the text so far, the last first. They count only if more text
follows. -/
inductive Gap where
  | blanks (text : List Char)
  /-- Blanks next to breaks are left out. The first break is none if it was escaped. -/
  | breaks (first : Option Char) (more : List Char)
  deriving Repr

namespace Gap

def none : Gap := .blanks []

def isNone : Gap → Bool
  | .blanks [] => true
  | _ => false

def hasBreak : Gap → Bool
  | .blanks _ => false
  | .breaks _ _ => true

def blank (c : Char) : Gap → Gap
  | .blanks text => .blanks (c :: text)
  | gap => gap

def lineBreak (c : Char) : Gap → Gap
  | .blanks _ => .breaks (some (breakOf c)) []
  | .breaks first more => .breaks first (breakOf c :: more)

def text : Gap → List Char
  | .blanks text => text
  | .breaks (some '\n') [] => [' ']
  | .breaks (some '\n') more => more
  | .breaks first more => more ++ first.toList

end Gap

structure Scalar where
  text : String
  isPlain : Bool
  /-- Whether a line break was taken after it. -/
  endsLine : Bool
  deriving DecidableEq, Repr

def isFlowIndicator (c : Char) : Bool := ",[]\x7b\x7d".toList.contains c

/-- Whether a plain scalar may start so. A dash, a question mark or a colon may start one if
something is attached to it; within a flow collection only the dash. -/
def startsPlain (inFlow : Bool) : List Char → Bool
  | [] => false
  | c :: rest =>
    if c == '-' then rest.head?.all fun d => !isBlank d
    else if c == '?' || c == ':' then !inFlow && !endsWord rest
    else !isFlowIndicator c && !"#&*!|>%@\x60'\"".toList.contains c && !isBlank c && !isBreak c

def endsPlain (inFlow : Bool) : List Char → Bool
  | [] => true
  | c :: rest => (c == ':' && endsWord rest) || (inFlow && isFlowIndicator c)

def isStrayColon (inFlow : Bool) : List Char → Bool
  | ':' :: d :: _ => inFlow && (isFlowIndicator d || d == '?')
  | _ => false

/-- Whether a plain scalar ends after a gap: what follows is outside the block of the scalar, or
a document marker, or a comment. -/
def endsAfterGap (inFlow : Bool) (margin : Nat) (c : Cursor) : Bool :=
  (!inFlow && decide (c.column < margin)) || c.isAtDocumentMarker || c.rest.head? == some '#'

/-- A plain scalar from here on, after its text so far, the last character first, and the gap
after that. Lines outside flow collections have to be indented as far as the margin. -/
def plainScalar (inFlow : Bool) (margin : Nat) (text : List Char) (gap : Gap) (c : Cursor) :
    Option (Scalar × Cursor) :=
  let done : Scalar × Cursor := (⟨String.ofList text.reverse, true, gap.hasBreak⟩, c)
  match _h : c.rest with
  | [] => some done
  | d :: rest =>
    if isBlank d then
      if gap.hasBreak && d == '\t' && decide (c.column < margin) then none
      else plainScalar inFlow margin text (gap.blank d) c.step
    else if isBreak d then plainScalar inFlow margin text (gap.lineBreak d) c.step
    else if !gap.isNone && endsAfterGap inFlow margin c then some done
    else if isStrayColon inFlow (d :: rest) then none
    else if endsPlain inFlow (d :: rest) then some done
    else plainScalar inFlow margin (d :: (gap.text ++ text)) .none c.step
termination_by c.rest.length
decreasing_by all_goals exact Cursor.length_step_lt _h

def singleQuoted (text : List Char) (gap : Gap) (c : Cursor) : Option (Scalar × Cursor) :=
  match _h : c.rest with
  | [] => none
  | d :: rest =>
    if c.isAtDocumentMarker then none
    else if isBlank d then singleQuoted text (gap.blank d) c.step
    else if isBreak d then singleQuoted text (gap.lineBreak d) c.step
    else if d == '\'' then
      if rest.head? == some '\'' then singleQuoted ('\'' :: (gap.text ++ text)) .none c.step.step
      else some (⟨String.ofList (gap.text ++ text).reverse, false, false⟩, c.step)
    else singleQuoted (d :: (gap.text ++ text)) .none c.step
termination_by c.rest.length
decreasing_by
  · exact Cursor.length_step_lt _h
  · exact Cursor.length_step_lt _h
  · exact Nat.lt_of_le_of_lt (Cursor.length_step_le _) (Cursor.length_step_lt _h)
  · exact Cursor.length_step_lt _h

def escape? : Char → Option Char
  | '0' => some '\x00'
  | 'a' => some '\x07'
  | 'b' => some '\x08'
  | 't' => some '\t'
  | '\t' => some '\t'
  | 'n' => some '\n'
  | 'v' => some '\x0b'
  | 'f' => some '\x0c'
  | 'r' => some '\r'
  | 'e' => some '\x1b'
  | ' ' => some ' '
  | '"' => some '"'
  | '/' => some '/'
  | '\\' => some '\\'
  | 'N' => some '\u0085'
  | '_' => some '\u00a0'
  | 'L' => some '\u2028'
  | 'P' => some '\u2029'
  | _ => none

def codeWidth : Char → Nat
  | 'x' => 2
  | 'u' => 4
  | 'U' => 8
  | _ => 0

def codeChar? (width : Nat) (digits : List Char) : Option Char := do
  let n ← Text.digits? 16 digits
  if digits.length = width ∧ n.isValidChar then some (Char.ofNat n) else none

/-- The character that an escape stands for, and the number of characters after the backslash,
given what follows the backslash. -/
def escaped? : List Char → Option (Char × Nat)
  | [] => none
  | e :: rest =>
    match escape? e with
    | some d => some (d, 1)
    | none =>
      (codeChar? (codeWidth e) (rest.take (codeWidth e))).map fun d => (d, 1 + codeWidth e)

def doubleQuoted (text : List Char) (gap : Gap) (c : Cursor) : Option (Scalar × Cursor) :=
  match _h : c.rest with
  | [] => none
  | d :: rest =>
    if c.isAtDocumentMarker then none
    else if isBlank d then doubleQuoted text (gap.blank d) c.step
    else if isBreak d then doubleQuoted text (gap.lineBreak d) c.step
    else if d == '"' then
      some (⟨String.ofList (gap.text ++ text).reverse, false, false⟩, c.step)
    else if d == '\\' then
      if rest.head?.any isBreak then
        doubleQuoted (gap.text ++ text) (.breaks Option.none []) c.step.step
      else
        match escaped? rest with
        | none => none
        | some (e, width) => doubleQuoted (e :: (gap.text ++ text)) .none (c.step.steps width)
    else doubleQuoted (d :: (gap.text ++ text)) .none c.step
termination_by c.rest.length
decreasing_by
  · exact Cursor.length_step_lt _h
  · exact Cursor.length_step_lt _h
  · exact Nat.lt_of_le_of_lt (Cursor.length_step_le _) (Cursor.length_step_lt _h)
  · exact Nat.lt_of_le_of_lt (Cursor.length_steps_le _ _) (Cursor.length_step_lt _h)
  · exact Cursor.length_step_lt _h

end GraphProtocol.Yaml
