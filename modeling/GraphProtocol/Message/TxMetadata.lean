import GraphProtocol.Error
import GraphProtocol.Instant
import GraphProtocol.Value.Equality

/-!
# Transaction options

The options that come with the begin of a transaction and with a statement
outside of one: the bookmarks to observe, a timeout and entries to attach. In a
message they are a map; absent keys stand for the defaults and unknown keys are
passed over.
-/

set_option autoImplicit false

namespace GraphProtocol

structure TxMetadata where
  /-- The bookmarks that the transaction must observe. -/
  bookmarks : List String
  timeout : Option Span
  /-- Primitive entries attached to the transaction. -/
  entries : Dict Value
  deriving Inhabited

namespace TxMetadata

def default : TxMetadata := ⟨[], none, .empty⟩

def bookmarksKey : String := "bookmarks"

def timeoutKey : String := "tx_timeout"

def entriesKey : String := "tx_metadata"

def timeoutOf (map : Dict Value) : Except RequestFault (Option Span) :=
  match map.get? timeoutKey with
  | none | some .null => .ok none
  | some (.integer millis) =>
    if 0 ≤ millis.toInt then .ok (some (.ofMillis millis.toInt.toNat))
    else .error (.timeoutNegative millis.toInt)
  | some other => .error (.timeoutType other.type)

def entriesOf (map : Dict Value) : Except RequestFault (Dict Value) :=
  match map.get? entriesKey with
  | none | some .null => .ok .empty
  | some (.map entries) =>
    match entries.firstComplex? with
    | some (key, value) => .error (.metadataEntry key value.type)
    | none => .ok entries
  | some other => .error (.metadataType other.type)

def bookmarksOf (map : Dict Value) : Except RequestFault (List String) :=
  match map.get? bookmarksKey with
  | none | some .null => .ok []
  | some (.list items) =>
    match items.mapM Value.asString? with
    | some bookmarks => .ok bookmarks
    | none => .error .bookmarkNotString
  | some other => .error (.bookmarksType other.type)

/-- Reads an options map: the timeout is looked at first, then the entries, then the
bookmarks. -/
def ofMap (map : Dict Value) : Except RequestFault TxMetadata := do
  let timeout ← timeoutOf map
  let entries ← entriesOf map
  let bookmarks ← bookmarksOf map
  return ⟨bookmarks, timeout, entries⟩

def maxTimeout : Nat := 0x7FFFFFFFFFFFFFFF

def toMap (m : TxMetadata) : Dict Value :=
  let map : Dict Value :=
    if m.bookmarks.isEmpty then .empty
    else Dict.empty.insert bookmarksKey (.list (m.bookmarks.map .string))
  let map :=
    match m.timeout with
    | none => map
    | some limit => map.insert timeoutKey (.integer (Int64.ofNat (min limit.millis maxTimeout)))
  if m.entries.isEmpty then map else map.insert entriesKey (.map m.entries)

def isEmpty (m : TxMetadata) : Bool :=
  m.bookmarks.isEmpty && m.timeout.isNone && m.entries.isEmpty

def same (a b : TxMetadata) : Bool :=
  a.bookmarks == b.bookmarks && a.timeout == b.timeout && a.entries.same b.entries

end TxMetadata

end GraphProtocol
