import GraphProtocol.Value.Basic
import GraphProtocol.Binary64.Decimal
import GraphProtocol.Text.Quoted

/-!
# Text of values

Plain data is shown as literals and lists as their elements between brackets;
every other value is shown as the name of its type between angle brackets.
-/

set_option autoImplicit false

namespace GraphProtocol.Value

def toText (v : Value) : String :=
  match v with
  | null => "null"
  | boolean b => if b then "true" else "false"
  | integer i => toString i.toInt
  | float x => x.toText
  | string s => Text.quoted s
  | list items =>
    "[" ++ ", ".intercalate (items.attach.map fun ⟨item, h⟩ =>
      have := sizeOf_lt_of_mem_children (v := .list items) h
      item.toText) ++ "]"
  | other => "<" ++ other.type.name ++ ">"
termination_by sizeOf v

end GraphProtocol.Value
