import GraphProtocol.Text.GraphemeExtend
import GraphProtocol.Text.Unprintable

/-!
# Quoted text

A text is shown between double quotes. Quotes and backslashes are escaped by a
backslash, the common control characters have a letter each, and characters
that attach to their neighbour or have no visible form are written by their
code in hexadecimal between braces.
-/

set_option autoImplicit false

namespace GraphProtocol.Text

def hexDigits (n : Nat) : List Char := Nat.toDigits 16 n

def hexPadded (width n : Nat) : List Char :=
  let digits := hexDigits n
  List.replicate (width - digits.length) '0' ++ digits

def hexByte (b : UInt8) : String := String.ofList ('0' :: 'x' :: hexPadded 2 b.toNat)

def needsCode (c : Char) : Bool :=
  if c.toNat < 128 then c.toNat < 32 || c.toNat == 127
  else graphemeExtend.contains c || unprintable.contains c

def quotedChar (c : Char) : List Char :=
  if c == '\x00' then ['\\', '0']
  else if c == '\t' then ['\\', 't']
  else if c == '\r' then ['\\', 'r']
  else if c == '\n' then ['\\', 'n']
  else if c == '\\' || c == '"' then ['\\', c]
  else if needsCode c then '\\' :: 'u' :: '\x7b' :: (hexDigits c.toNat ++ ['\x7d'])
  else [c]

def quoted (s : String) : String :=
  String.ofList ('"' :: (s.toList.flatMap quotedChar ++ ['"']))

end GraphProtocol.Text
