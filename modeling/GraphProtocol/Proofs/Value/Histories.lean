import GraphProtocol.Proofs.Wire.Decoded
import Mathlib.Data.Finmap

/-!
# Histories of maps

A map is filled and emptied entry by entry, collected from entries, or unpacked. Whatever has been
done to it, it holds what a finite map holds to which the same has been done, and its keys stand in
the order in which they came in. A key that goes and comes again stands at the end.
-/

set_option autoImplicit false

namespace GraphProtocol

/-! ## Changes of a finite map -/

abbrev FiniteMap (α : Type) := Finmap fun _ : String => α

inductive Change (α : Type) where
  | put (key : String) (x : α)
  | drop (key : String)
  | clear

namespace Change

variable {α : Type}

def on : Change α → FiniteMap α → FiniteMap α
  | put key x, m => m.insert key x
  | drop key, m => m.erase key
  | clear, _ => ∅

def upon : Change α → Dict α → Dict α
  | put key x, d => d.insert key x
  | drop key, d => d.erase key
  | clear, _ => .empty

def puts (entries : List (String × α)) : List (Change α) :=
  entries.map fun entry => .put entry.1 entry.2

end Change

section Changes

variable {α : Type} {changes : List (Change α)} {change : Change α} {key other : String} {n : Nat}

def contents (changes : List (Change α)) : FiniteMap α :=
  changes.foldl (fun m change => change.on m) ∅

theorem contents_snoc : contents (changes ++ [change]) = change.on (contents changes) := by
  unfold contents
  rw [List.foldl_append]
  rfl

/-- The change with this number brought the key in, and it has been in since. -/
def Born (changes : List (Change α)) (key : String) (n : Nat) : Prop :=
  key ∉ contents (changes.take n) ∧
    ∀ m, n < m → m ≤ changes.length → key ∈ contents (changes.take m)

def Earlier (changes : List (Change α)) (key other : String) : Prop :=
  ∃ m n, Born changes key m ∧ Born changes other n ∧ m < n

theorem born_before (born : Born changes key n) (inside : key ∈ contents changes) :
    n < changes.length := by
  by_contra late
  apply born.1
  rwa [List.take_of_length_le (Nat.le_of_not_lt late)]

theorem born_now (outside : key ∉ contents changes)
    (inside : key ∈ contents (changes ++ [change])) :
    Born (changes ++ [change]) key changes.length := by
  constructor
  · rwa [List.take_left]
  · intro m after upto
    rwa [List.take_of_length_le]
    rw [List.length_append] at upto ⊢
    exact after

theorem born_still (born : Born changes key n) (inside : key ∈ contents changes)
    (still : key ∈ contents (changes ++ [change])) : Born (changes ++ [change]) key n := by
  have before := born_before born inside
  constructor
  · rw [List.take_append_of_le_length before.le]
    exact born.1
  · intro m after upto
    by_cases old : m ≤ changes.length
    · rw [List.take_append_of_le_length old]
      exact born.2 m after old
    · rwa [List.take_of_length_le]
      rw [List.length_append]
      exact Nat.lt_of_not_le old

theorem exists_born (inside : key ∈ contents changes) : ∃ n, Born changes key n := by
  induction changes using List.reverseRecOn with
  | nil => exact absurd inside Finmap.notMem_empty
  | append_singleton changes change ih =>
    by_cases already : key ∈ contents changes
    · obtain ⟨n, born⟩ := ih already
      exact ⟨n, born_still born already inside⟩
    · exact ⟨changes.length, born_now already inside⟩

theorem earlier_still (earlier : Earlier changes key other)
    (inside : key ∈ contents changes) (inside' : other ∈ contents changes)
    (still : key ∈ contents (changes ++ [change]))
    (still' : other ∈ contents (changes ++ [change])) :
    Earlier (changes ++ [change]) key other := by
  obtain ⟨m, n, born, born', before⟩ := earlier
  exact ⟨m, n, born_still born inside still, born_still born' inside' still', before⟩

theorem earlier_now (inside : key ∈ contents changes) (outside : other ∉ contents changes)
    (still : key ∈ contents (changes ++ [change]))
    (now : other ∈ contents (changes ++ [change])) : Earlier (changes ++ [change]) key other := by
  obtain ⟨n, born⟩ := exists_born inside
  exact ⟨n, changes.length, born_still born inside still, born_now outside now,
    born_before born inside⟩

end Changes

/-! ## Dictionaries -/

namespace Dict

variable {α : Type} {d : Dict α} {key other : String} {changes : List (Change α)}

theorem putEntry_eq (key : String) (x : α) (entries : List (String × α)) :
    putEntry key x entries = (get? ⟨entries⟩ key, insertEntry key x entries) := by
  induction entries with
  | nil => rfl
  | cons first rest ih =>
    rw [putEntry, get?_cons, insertEntry, ih]
    by_cases here : first.1 = key <;> simp [here]

theorem put_eq (d : Dict α) (key : String) (x : α) :
    d.put key x = (d.get? key, d.insert key x) := by
  unfold put
  rw [putEntry_eq]
  rfl

theorem take_eq (d : Dict α) (key : String) : d.take key = (d.get? key, d.erase key) := by
  unfold take get? erase
  rw [List.find?_eq_bind_findIdx?_getElem?, List.eraseP_eq_eraseIdx]
  cases d.entries.findIdx? (·.1 == key) with
  | none => rfl
  | some place => rfl

theorem get?_erase_ne (different : other ≠ key) : (d.erase key).get? other = d.get? other := by
  obtain ⟨entries⟩ := d
  show get? ⟨entries.eraseP (·.1 == key)⟩ other = _
  induction entries with
  | nil => rfl
  | cons first rest ih =>
    by_cases here : first.1 = key
    · rw [List.eraseP_cons_of_pos (by simp [here]), get?_cons, if_neg (here ▸ different.symm)]
    · rw [List.eraseP_cons_of_neg (by simp [here]), get?_cons, get?_cons, ih]

theorem keys_erase_sublist (d : Dict α) (key : String) : (d.erase key).keys.Sublist d.keys :=
  List.eraseP_sublist.map _

/-- The dictionary holds what has been put in and not been taken out, and keys that came in earlier
stand further to the front. -/
structure Keeps (d : Dict α) (changes : List (Change α)) : Prop where
  distinct : d.DistinctKeys
  get : ∀ key, d.get? key = (contents changes).lookup key
  order : d.keys.Pairwise (Earlier changes)

theorem keeps_mem (keeps : d.Keeps changes) (key : String) :
    key ∈ d.keys ↔ key ∈ contents changes := by
  rw [← isSome_get?, keeps.get, Finmap.lookup_isSome]

theorem keeps_nil : (empty : Dict α).Keeps [] where
  distinct := List.nodup_nil
  get _ := rfl
  order := .nil

/-- Keys that stay are in the order that they had. -/
theorem order_still {change : Change α} {keys : List String} (keeps : d.Keeps changes)
    (sublist : keys.Sublist d.keys) (still : ∀ key ∈ keys, key ∈ contents (changes ++ [change])) :
    keys.Pairwise (Earlier (changes ++ [change])) := by
  apply (keeps.order.sublist sublist).imp_of_mem
  intro key other among among' earlier
  exact earlier_still earlier ((keeps_mem keeps key).mp (sublist.subset among))
    ((keeps_mem keeps other).mp (sublist.subset among')) (still key among) (still other among')

theorem keeps_change (keeps : d.Keeps changes) (change : Change α) :
    (change.upon d).Keeps (changes ++ [change]) := by
  -- The contents first, as these say which keys stay.
  have distinct : (change.upon d).DistinctKeys := by
    cases change with
    | put key x => exact distinct_insert keeps.distinct key x
    | drop key => exact keeps.distinct.sublist (keys_erase_sublist d key)
    | clear => exact List.nodup_nil
  have get : ∀ key, (change.upon d).get? key = (contents (changes ++ [change])).lookup key := by
    intro other
    rw [contents_snoc]
    cases change with
    | put key x =>
      show (d.insert key x).get? other = ((contents changes).insert key x).lookup other
      rw [get?_insert, keeps.get]
      split
      · next same =>
        rw [same, Finmap.lookup_insert]
      · next different => rw [Finmap.lookup_insert_of_ne _ (Ne.symm different)]
    | drop key =>
      show (d.erase key).get? other = ((contents changes).erase key).lookup other
      by_cases same : other = key
      · subst same
        rw [get?_erase keeps.distinct, Finmap.lookup_erase]
      · rw [get?_erase_ne same, keeps.get, Finmap.lookup_erase_ne same]
    | clear => rfl
  have still : ∀ key ∈ (change.upon d).keys, key ∈ contents (changes ++ [change]) := by
    intro key among
    have found := (isSome_get? _ key).mpr among
    rw [get] at found
    exact Finmap.lookup_isSome.mp found
  refine ⟨distinct, get, ?_⟩
  cases change with
  | put key x =>
    change (d.insert key x).keys.Pairwise _
    change ∀ other ∈ (d.insert key x).keys, _ at still
    rw [keys_insert] at still ⊢
    split at still
    · next present =>
      rw [if_pos present]
      exact order_still keeps (List.Sublist.refl _) still
    · next fresh =>
      rw [if_neg fresh, List.pairwise_append]
      have stay : ∀ other ∈ d.keys, other ∈ contents (changes ++ [.put key x]) :=
        fun other among => still other (List.mem_append_left _ among)
      refine ⟨order_still keeps (List.Sublist.refl _) stay, List.pairwise_singleton _ _, ?_⟩
      intro other among _ last
      rw [List.mem_singleton.mp last]
      exact earlier_now ((keeps_mem keeps other).mp among) ((keeps_mem keeps key).not.mp fresh)
        (stay other among) (still key (by simp))
  | drop key => exact order_still keeps (keys_erase_sublist d key) still
  | clear => exact .nil

theorem keeps_changes (keeps : d.Keeps changes) (further : List (Change α)) :
    (further.foldl (fun d change => change.upon d) d).Keeps (changes ++ further) := by
  induction further generalizing d changes with
  | nil => rwa [List.append_nil]
  | cons change further ih =>
    rw [List.append_cons]
    exact ih (keeps_change keeps change)

theorem insertAll_eq (d : Dict α) (entries : List (String × α)) :
    d.insertAll entries = (Change.puts entries).foldl (fun d change => change.upon d) d := by
  unfold insertAll Change.puts
  rw [List.foldl_map]
  rfl

theorem keeps_size (keeps : d.Keeps changes) : d.size = (contents changes).keys.card := by
  have same : d.keys.toFinset = (contents changes).keys := by
    ext key
    rw [List.mem_toFinset, Finmap.mem_keys, keeps_mem keeps]
  rw [← same, List.toFinset_card_of_nodup keeps.distinct, size_keys]

end Dict

/-! ## Maps on the wire -/

namespace Wire

section Unpacking

variable {inner : Option (Reader Value)} {cursor after : Cursor} {d : Dict Value}

def Reader.pairsBody (inner : Option (Reader Value)) (size : Nat) :
    Reader (List (String × Value)) := do
  require (2 * size)
  enter inner fun read => do
    let pairs ← items (entry read) size
    leave
    return pairs

def Reader.pairsBy (inner : Option (Reader Value)) : Reader (List (String × Value)) := do
  let b ← byte
  match Marker.ofByte? b with
  | some (.sized .map size) => pairsBody inner (← extent size)
  | _ => malformed (.unknownMarker b)

def Reader.below (version : Version) (depth : Nat) : Option (Reader Value) :=
  match maxDepth - depth with
  | 0 => none
  | levels + 1 => some (valueWithin version levels)

def Reader.pairs (version : Version) : Reader (List (String × Value)) := fun cursor =>
  pairsBy (below version cursor.depth) cursor

/-- At any depth, and whether or not it can be read, a map is its entries inserted one by one. -/
theorem mapBody_eq (inner : Option (Reader Value)) (size : Nat) :
    Reader.mapBody inner size =
      Reader.pairsBody inner size >>= fun pairs => pure (Dict.empty.insertAll pairs) := by
  unfold Reader.mapBody Reader.pairsBody Reader.enter
  cases inner with
  | none =>
    simp only [bind_assoc]
    rfl
  | some read => simp only [bind_assoc, pure_bind, Dict.ofList_eq]

theorem value_below (version : Version) (cursor : Cursor) :
    Reader.value version cursor =
      Reader.valueBy version (Reader.below version cursor.depth) cursor := by
  unfold Reader.value Reader.below
  cases maxDepth - cursor.depth with
  | zero => rfl
  | succ levels => rfl

/-- No structure is a map. -/
theorem yields_structured {read : Reader Value} (kind : StructureKind) :
    Yields (Reader.fieldsOf read kind) fun v => v.type ≠ .map := by
  cases kind with
  | node | relationship | unboundRelationship | path =>
    apply yields_past
    exact fun _ => yields_pure nofun
  | localTime | date =>
    iterate 2 (apply yields_past; intro _)
    exact yields_pure nofun
  | point2D | localDateTime =>
    iterate 3 (apply yields_past; intro _)
    exact yields_pure nofun
  | point3D | duration | time | zonedDateTime =>
    iterate 4 (apply yields_past; intro _)
    exact yields_pure nofun
  | dateTime =>
    iterate 6 (apply yields_past; intro _)
    exact yields_pure nofun

theorem yields_structureBody {read : Reader Value} (version : Version) (fields : Nat)
    (signature : UInt8) :
    Yields (Reader.structureBody version read fields signature) fun v => v.type ≠ .map := by
  unfold Reader.structureBody
  split
  · exact yields_throw
  · split
    · exact yields_structured _
    · exact yields_throw

def MapHeaded (cursor : Cursor) (size : Nat) (after : Cursor) : Prop :=
  ∃ b extent between, Reader.byte cursor = .ok b between ∧
    Marker.ofByte? b = some (.sized .map extent) ∧ Reader.extent extent between = .ok size after

theorem pairsBy_given {pairs : List (String × Value)} :
    Reader.pairsBy inner cursor = .ok pairs after ↔
      ∃ size between, MapHeaded cursor size between ∧
        Reader.pairsBody inner size between = .ok pairs after := by
  constructor
  · intro given
    obtain ⟨b, between, first, given⟩ := sequence_given.mp given
    cases marked : Marker.ofByte? b with
    | none =>
      rw [marked] at given
      cases given
    | some marker =>
      rw [marked] at given
      rcases marker with _ | _ | _ | _ | _ | ⟨kind, extent⟩ | _
      case sized =>
        cases kind with
        | map =>
          obtain ⟨size, between', counted, listed⟩ := sequence_given.mp given
          exact ⟨size, between', ⟨b, extent, between, first, marked, counted⟩, listed⟩
        | _ => cases given
      all_goals cases given
  · rintro ⟨size, between', ⟨b, extent, between, first, marked, counted⟩, listed⟩
    refine sequence_given.mpr ⟨b, between, first, ?_⟩
    rw [marked]
    exact sequence_given.mpr ⟨size, between', counted, listed⟩

theorem valueBy_given {version : Version} :
    Reader.valueBy version inner cursor = .ok (.map d) after ↔
      ∃ size between, MapHeaded cursor size between ∧
        Reader.mapBody inner size between = .ok d after := by
  constructor
  · intro given
    obtain ⟨b, between, first, given⟩ := sequence_given.mp given
    have elsewhere {read : Reader Value} (away : Yields read fun v => v.type ≠ .map) :
        read between ≠ .ok (.map d) after := fun given => away.given between _ after given rfl
    cases marked : Marker.ofByte? b with
    | none =>
      rw [marked] at given
      cases given
    | some marker =>
      rw [marked] at given
      dsimp only at given
      cases marker with
      | sized kind extent =>
        cases kind with
        | map =>
          obtain ⟨size, between', counted, given⟩ := sequence_given.mp given
          obtain ⟨entries, last, listed, given⟩ := sequence_given.mp given
          cases given
          exact ⟨size, between', ⟨b, extent, between, first, marked, counted⟩, listed⟩
        | string | list =>
          refine (elsewhere ?_ given).elim
          exact yields_past fun _ => yields_past fun _ => yields_pure (by nofun)
        | byteArray =>
          dsimp only at given
          split at given
          · refine (elsewhere ?_ given).elim
            exact yields_past fun _ => yields_past fun _ => yields_pure (by nofun)
          · cases given
      | «structure» extent =>
        refine (elsewhere ?_ given).elim
        apply yields_past
        rintro ⟨fields, signature⟩
        exact yields_enter fun _ _ => yields_leaving (yields_structureBody version fields signature)
      | null | boolean _ | smallInteger _ => cases given
      | float | integer width =>
        refine (elsewhere ?_ given).elim
        exact yields_past fun _ => yields_pure (by nofun)
  · rintro ⟨size, between', ⟨b, extent, between, first, marked, counted⟩, listed⟩
    refine sequence_given.mpr ⟨b, between, first, ?_⟩
    rw [marked]
    refine sequence_given.mpr ⟨size, between', counted, ?_⟩
    exact sequence_given.mpr ⟨d, after, listed, rfl⟩

theorem map_given {version : Version} : Reader.map version cursor = .ok d after ↔
    ∃ pairs, Reader.pairs version cursor = .ok pairs after ∧ d = .insertAll .empty pairs := by
  have whole : Reader.map version cursor = .ok d after ↔
      Reader.value version cursor = .ok (.map d) after := by
    constructor
    · intro given
      obtain ⟨v, between, first, found⟩ := sequence_given.mp given
      cases v with
      | map entries =>
        cases found
        exact first
      | _ => cases found
    · exact fun given => sequence_given.mpr ⟨_, _, given, rfl⟩
  rw [whole, value_below, valueBy_given]
  constructor
  · rintro ⟨size, between, headed, given⟩
    rw [mapBody_eq] at given
    obtain ⟨pairs, last, listed, given⟩ := sequence_given.mp given
    cases given
    exact ⟨pairs, pairsBy_given.mpr ⟨size, between, headed, listed⟩, rfl⟩
  · rintro ⟨pairs, given, rfl⟩
    obtain ⟨size, between, headed, listed⟩ := pairsBy_given.mp given
    refine ⟨size, between, headed, ?_⟩
    rw [mapBody_eq]
    exact sequence_given.mpr ⟨pairs, after, listed, rfl⟩

end Unpacking

end Wire

/-! ## Operations -/

namespace Dict

open Wire

inductive Operation where
  | insert (key : String) (x : Value)
  /-- Inserts, and hands on the map and not the value that was there. -/
  | extend (key : String) (x : Value)
  | remove (key : String)
  /-- Collects entries in place of the map that was there. -/
  | collect (entries : List (String × Value))
  /-- Unpacks a map in place of the one that was there, if there is one at the cursor. -/
  | unpack (version : Version) (cursor : Cursor)

def unpacked (version : Version) (cursor : Cursor) (d : Dict Value) : Dict Value :=
  match Reader.map version cursor with
  | .ok unpacked _ => unpacked
  | .error _ _ => d

def unpacking (version : Version) (cursor : Cursor) : List (Change Value) :=
  match Reader.pairs version cursor with
  | .ok pairs _ => .clear :: Change.puts pairs
  | .error _ _ => []

theorem unpacked_eq (version : Version) (cursor : Cursor) (d : Dict Value) :
    unpacked version cursor d =
      (unpacking version cursor).foldl (fun d change => change.upon d) d := by
  unfold unpacked unpacking
  cases read : Reader.pairs version cursor with
  | ok pairs after =>
    rw [map_given.mpr ⟨pairs, read, rfl⟩]
    exact insertAll_eq empty pairs
  | error e after =>
    cases given : Reader.map version cursor with
    | ok unpacked last =>
      obtain ⟨pairs, listed, -⟩ := map_given.mp given
      rw [read] at listed
      cases listed
    | error e' last => rfl

namespace Operation

def apply : Operation → Dict Value → Option Value × Dict Value
  | insert key x, d => d.put key x
  | extend key x, d => (none, (d.put key x).2)
  | remove key, d => d.take key
  | collect entries, _ => (none, empty.insertAll entries)
  | unpack version cursor, d => (none, unpacked version cursor d)

def returned : Operation → FiniteMap Value → Option Value
  | insert key _, m | remove key, m => m.lookup key
  | _, _ => none

def changes : Operation → List (Change Value)
  | insert key x | extend key x => [.put key x]
  | remove key => [.drop key]
  | collect entries => .clear :: Change.puts entries
  | unpack version cursor => unpacking version cursor

theorem apply_changes (operation : Operation) (d : Dict Value) :
    (operation.apply d).2 = operation.changes.foldl (fun d change => change.upon d) d := by
  cases operation with
  | insert key x | extend key x => exact congrArg Prod.snd (put_eq d key x)
  | remove key => exact congrArg Prod.snd (take_eq d key)
  | collect entries => exact insertAll_eq empty entries
  | unpack version cursor => exact unpacked_eq version cursor d

theorem apply_returned {d : Dict Value} {changes : List (Change Value)} (keeps : d.Keeps changes)
    (operation : Operation) : (operation.apply d).1 = operation.returned (contents changes) := by
  cases operation with
  | insert key x =>
    show (d.put key x).1 = _
    rw [put_eq, keeps.get]
    rfl
  | remove key =>
    show (d.take key).1 = _
    rw [take_eq, keeps.get]
    rfl
  | extend key x | collect entries | unpack version cursor => rfl

end Operation

def run (operations : List Operation) : Dict Value :=
  operations.foldl (fun d operation => (operation.apply d).2) empty

def history (operations : List Operation) : List (Change Value) :=
  operations.flatMap Operation.changes

theorem run_keeps (operations : List Operation) : (run operations).Keeps (history operations) := by
  have onto {d : Dict Value} {changes : List (Change Value)} (keeps : d.Keeps changes) :
      (operations.foldl (fun d operation => (operation.apply d).2) d).Keeps
        (changes ++ history operations) := by
    induction operations generalizing d changes with
    | nil => rwa [history, List.flatMap_nil, List.append_nil]
    | cons operation operations ih =>
      unfold history
      rw [List.flatMap_cons, ← List.append_assoc]
      apply ih
      show (operation.apply d).2.Keeps _
      rw [Operation.apply_changes]
      exact keeps_changes keeps operation.changes
  exact onto keeps_nil

/-- Whatever has been done to a map, its keys are distinct, and it holds what the finite map holds
to which the same has been done. What is handed out next is what was stored. The keys stand in the
order in which they came in, since when they have not been absent. A map that is unpacked is its
entries inserted one by one. -/
theorem operations_kept (operations : List Operation) :
    (run operations).DistinctKeys ∧
    (∀ key, (run operations).get? key = (contents (history operations)).lookup key) ∧
    (∀ key, (run operations).contains key = true ↔ key ∈ contents (history operations)) ∧
    (run operations).size = (contents (history operations)).keys.card ∧
    (∀ next : Operation,
      (next.apply (run operations)).1 = next.returned (contents (history operations))) ∧
    (run operations).keys.Pairwise (Earlier (history operations)) ∧
    ∀ version cursor d after, Reader.map version cursor = .ok d after ↔
      ∃ pairs, Reader.pairs version cursor = .ok pairs after ∧ d = empty.insertAll pairs := by
  have keeps := run_keeps operations
  refine ⟨keeps.distinct, keeps.get, ?_, keeps_size keeps, Operation.apply_returned keeps,
    keeps.order, fun _ _ _ _ => map_given⟩
  intro key
  rw [← keeps_mem keeps]
  simp [contains, keys]

end Dict

end GraphProtocol
