import Std.Data.HashMap

/-!
# Dictionaries in insertion order

A dictionary keeps its entries in the order in which their keys first came in.
Writing a key again replaces the value and keeps the place. The bulk
constructor looks keys up in a hash table, and is meant to give the dictionary
that inserting the entries one by one gives.
-/

set_option autoImplicit false

namespace GraphProtocol

structure Dict (α : Type) where
  entries : List (String × α)
  deriving Repr, DecidableEq

namespace Dict

variable {α : Type}

def empty : Dict α := ⟨[]⟩

instance : Inhabited (Dict α) := ⟨empty⟩

def size (d : Dict α) : Nat := d.entries.length

def isEmpty (d : Dict α) : Bool := d.entries.isEmpty

def keys (d : Dict α) : List String := d.entries.map (·.1)

def values (d : Dict α) : List α := d.entries.map (·.2)

def get? (d : Dict α) (key : String) : Option α :=
  (d.entries.find? (·.1 == key)).map (·.2)

def contains (d : Dict α) (key : String) : Bool := d.entries.any (·.1 == key)

def table (d : Dict α) : Std.HashMap String α :=
  d.entries.foldr (fun entry table => table.insert entry.1 entry.2) ∅

def insertEntry (key : String) (value : α) : List (String × α) → List (String × α)
  | [] => [(key, value)]
  | entry :: rest =>
    if entry.1 == key then (key, value) :: rest else entry :: insertEntry key value rest

def insert (d : Dict α) (key : String) (value : α) : Dict α :=
  ⟨insertEntry key value d.entries⟩

def putEntry (key : String) (x : α) : List (String × α) → Option α × List (String × α)
  | [] => (none, [(key, x)])
  | entry :: rest =>
    if entry.1 == key then (some entry.2, (key, x) :: rest)
    else ((putEntry key x rest).1, entry :: (putEntry key x rest).2)

def put (d : Dict α) (key : String) (x : α) : Option α × Dict α :=
  ((putEntry key x d.entries).1, ⟨(putEntry key x d.entries).2⟩)

def take (d : Dict α) (key : String) : Option α × Dict α :=
  match d.entries.findIdx? (·.1 == key) with
  | none => (none, d)
  | some place => (d.entries[place]?.map (·.2), ⟨d.entries.eraseIdx place⟩)

def insertAll (d : Dict α) (entries : List (String × α)) : Dict α :=
  entries.foldl (fun d entry => d.insert entry.1 entry.2) d

def erase (d : Dict α) (key : String) : Dict α :=
  ⟨d.entries.eraseP (·.1 == key)⟩

def filter (d : Dict α) (keep : String → α → Bool) : Dict α :=
  ⟨d.entries.filter fun entry => keep entry.1 entry.2⟩

structure Index (α : Type) where
  entries : Array (String × α)
  positions : Std.HashMap String Nat

/-- A repeated key keeps its first position and takes the last value. -/
def Index.add (index : Index α) (entry : String × α) : Index α :=
  match index.positions[entry.1]? with
  | some i => { index with entries := index.entries.modify i fun kept => (kept.1, entry.2) }
  | none =>
    { entries := index.entries.push entry
      positions := index.positions.insert entry.1 index.entries.size }

def ofList (entries : List (String × α)) : Dict α :=
  ⟨(entries.foldl Index.add ⟨#[], ∅⟩).entries.toList⟩

def DistinctKeys (d : Dict α) : Prop := d.keys.Nodup

instance (d : Dict α) : Decidable d.DistinctKeys := inferInstanceAs (Decidable d.keys.Nodup)

@[simp] theorem get?_empty (key : String) : (empty : Dict α).get? key = none := rfl

@[simp] theorem keys_empty : (empty : Dict α).keys = [] := rfl

@[simp] theorem size_keys (d : Dict α) : d.keys.length = d.size := by
  simp [keys, size]

/-- A table holds what the dictionary holds. -/
theorem getElem?_table (d : Dict α) (key : String) : d.table[key]? = d.get? key := by
  obtain ⟨entries⟩ := d
  induction entries with
  | nil => simp [table, get?]
  | cons entry rest ih =>
    simp only [table, get?, List.foldr_cons, List.find?_cons, Std.HashMap.getElem?_insert] at *
    by_cases h : entry.1 == key
    · simp only [h, if_true, Option.map_some]
    · simp only [h, Bool.false_eq_true, if_false, ih]

theorem mem_values {d : Dict α} {key : String} {x : α} (h : (key, x) ∈ d.entries) :
    x ∈ d.values := List.mem_map.2 ⟨(key, x), h, rfl⟩

theorem mem_of_get? {d : Dict α} {key : String} {x : α} (found : d.get? key = some x) :
    (key, x) ∈ d.entries := by
  obtain ⟨⟨key', x'⟩, at', rfl⟩ := Option.map_eq_some_iff.mp found
  have same : key' = key := by simpa using List.find?_some at'
  exact same ▸ List.mem_of_find?_eq_some at'

theorem values_of_get {d : Dict α} {key : String} {x : α} (found : d.get? key = some x) :
    x ∈ d.values := mem_values (mem_of_get? found)

theorem sizeOf_lt_of_mem [SizeOf α] {d : Dict α} {entry : String × α}
    (h : entry ∈ d.entries) : sizeOf entry.2 < sizeOf d := by
  have hl := List.sizeOf_lt_of_mem h
  cases d
  cases entry
  simp only [mk.sizeOf_spec, Prod.mk.sizeOf_spec] at *
  omega

end Dict

end GraphProtocol
