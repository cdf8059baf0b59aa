import Mathlib.Tactic
import GraphProtocol.Dict

/-!
# Entries of dictionaries

Inserting keeps keys distinct, and looking up finds what was inserted last. The
bulk constructor gives what inserting one by one gives; entries whose keys are
distinct are kept as they are.
-/

set_option autoImplicit false

namespace GraphProtocol.Dict

variable {α : Type} {key other : String} {x : α} {d : Dict α} {entries : List (String × α)}

theorem mem_insertEntry {entry : String × α} (among : entry ∈ insertEntry key x entries) :
    entry = (key, x) ∨ entry ∈ entries := by
  induction entries with
  | nil => exact .inl (List.mem_singleton.mp among)
  | cons first rest ih =>
    unfold insertEntry at among
    split at among
    · rcases List.mem_cons.mp among with new | old
      · exact .inl new
      · exact .inr (List.mem_cons_of_mem _ old)
    · rcases List.mem_cons.mp among with same | later
      · exact .inr (same ▸ List.mem_cons_self)
      · exact (ih later).imp_right (List.mem_cons_of_mem _)

theorem keys_insertEntry : (insertEntry key x entries).map (·.1) =
    if key ∈ entries.map (·.1) then entries.map (·.1) else entries.map (·.1) ++ [key] := by
  induction entries with
  | nil => rfl
  | cons first rest ih =>
    unfold insertEntry
    by_cases here : first.1 = key
    · simp [here]
    · simp only [beq_iff_eq, here, if_false, List.map_cons, ih, List.mem_cons, Ne.symm here,
        false_or]
      split <;> rfl

theorem keys_insert (d : Dict α) (key : String) (x : α) :
    (d.insert key x).keys = if key ∈ d.keys then d.keys else d.keys ++ [key] := keys_insertEntry

theorem distinct_insert (distinct : d.DistinctKeys) (key : String) (x : α) :
    (d.insert key x).DistinctKeys := by
  unfold DistinctKeys at *
  rw [keys_insert]
  split
  · exact distinct
  · next fresh =>
    rw [← List.concat_eq_append]
    exact distinct.concat fresh

theorem distinct_perm {e : Dict α} (perm : d.entries.Perm e.entries) (distinct : d.DistinctKeys) :
    e.DistinctKeys := (perm.map Prod.fst).nodup distinct

theorem get?_cons (first : String × α) (rest : List (String × α)) (key : String) :
    get? ⟨first :: rest⟩ key = if first.1 = key then some first.2 else get? ⟨rest⟩ key := by
  by_cases here : first.1 = key <;> simp [get?, here]

theorem get?_insertEntry (key : String) (x : α) (entries : List (String × α)) (other : String) :
    get? ⟨insertEntry key x entries⟩ other =
      if key = other then some x else get? ⟨entries⟩ other := by
  induction entries with
  | nil => rw [insertEntry, get?_cons]
  | cons first rest ih =>
    rw [insertEntry, get?_cons first rest]
    by_cases here : first.1 = key
    · rw [if_pos (by simp [here]), get?_cons, here]
      split <;> rfl
    · rw [if_neg (by simp [here]), get?_cons, ih]
      by_cases same : key = other
      · rw [if_pos same, if_pos same, if_neg (same ▸ here)]
      · rw [if_neg same, if_neg same]

theorem get?_insert (d : Dict α) (key : String) (x : α) (other : String) :
    (d.insert key x).get? other = if key = other then some x else d.get? other :=
  get?_insertEntry key x d.entries other

theorem isSome_get? (d : Dict α) (key : String) : (d.get? key).isSome = true ↔ key ∈ d.keys := by
  simp [get?, keys]

/-- Erasing takes out one entry, which is all there is if keys are distinct. -/
theorem get?_erase (distinct : d.DistinctKeys) (key : String) : (d.erase key).get? key = none := by
  obtain ⟨entries⟩ := d
  show get? ⟨entries.eraseP (·.1 == key)⟩ key = none
  induction entries with
  | nil => rfl
  | cons first rest ih =>
    obtain ⟨fresh, distinct⟩ := List.nodup_cons.mp distinct
    by_cases here : first.1 = key
    · rw [List.eraseP_cons_of_pos (by simp [here])]
      subst here
      have gone : ¬(get? ⟨rest⟩ first.1).isSome = true := (isSome_get? _ _).not.mpr fresh
      simpa using gone
    · rw [List.eraseP_cons_of_neg (by simp [here]), get?_cons, if_neg here]
      exact ih distinct

/-- With distinct keys, the keys and what is found under them make up the entries. -/
theorem entries_eq (distinct : d.DistinctKeys) :
    d.entries = d.keys.filterMap fun key => (d.get? key).map fun x => (key, x) := by
  obtain ⟨entries⟩ := d
  unfold keys
  induction entries with
  | nil => rfl
  | cons first rest ih =>
    obtain ⟨fresh, distinct⟩ := List.nodup_cons.mp distinct
    have elsewhere : ∀ key ∈ rest.map (·.1),
        (get? ⟨first :: rest⟩ key).map (fun x => (key, x)) =
          (get? ⟨rest⟩ key).map fun x => (key, x) := by
      intro key among
      rw [get?_cons, if_neg (by rintro rfl; exact fresh among)]
    rw [List.map_cons, List.filterMap_cons, List.filterMap_congr elsewhere, ← ih distinct,
      get?_cons, if_pos rfl]
    rfl

theorem get?_some_iff : (∃ x, d.get? key = some x) ↔ key ∈ d.keys := by
  rw [← isSome_get?, Option.isSome_iff_exists]

theorem mem_entries (distinct : d.DistinctKeys) : (key, x) ∈ d.entries ↔ d.get? key = some x := by
  constructor
  · intro among
    rw [entries_eq distinct] at among
    obtain ⟨other, -, found⟩ := List.mem_filterMap.mp among
    obtain ⟨y, found, same⟩ := Option.map_eq_some_iff.mp found
    cases same
    exact found
  · exact mem_of_get?

theorem mem_insertAll {entry : String × α} (among : entry ∈ (d.insertAll entries).entries) :
    entry ∈ d.entries ∨ entry ∈ entries := by
  induction entries generalizing d with
  | nil => exact .inl among
  | cons first rest ih =>
    rcases ih among with old | late
    · rcases mem_insertEntry old with rfl | old
      · exact .inr List.mem_cons_self
      · exact .inl old
    · exact .inr (List.mem_cons_of_mem _ late)

/-- New keys go to the end. -/
theorem insertEntry_fresh (fresh : key ∉ entries.map (·.1)) :
    insertEntry key x entries = entries ++ [(key, x)] := by
  induction entries with
  | nil => rfl
  | cons first rest ih =>
    rw [List.map_cons, List.mem_cons, not_or] at fresh
    rw [insertEntry, if_neg (by simpa using Ne.symm fresh.1), ih fresh.2, List.cons_append]

theorem insertAll_fresh (distinct : (d.keys ++ entries.map (·.1)).Nodup) :
    d.insertAll entries = ⟨d.entries ++ entries⟩ := by
  induction entries generalizing d with
  | nil => rw [List.append_nil]; rfl
  | cons first rest ih =>
    have fresh : first.1 ∉ d.keys := by
      intro among
      exact (List.nodup_append.mp distinct).2.2 _ among _ List.mem_cons_self rfl
    have added : d.insert first.1 first.2 = ⟨d.entries ++ [first]⟩ :=
      congrArg mk (insertEntry_fresh fresh)
    change (d.insert first.1 first.2).insertAll rest = _
    rw [added, ih]
    · simp
    · simpa [keys] using distinct

/-! ## The bulk constructor -/

theorem insertEntry_known {i : Nat} (known : (entries.map (·.1)).idxOf? key = some i) :
    insertEntry key x entries = entries.modify i fun kept => (kept.1, x) := by
  induction entries generalizing i with
  | nil => cases known
  | cons first rest ih =>
    rw [List.map_cons, List.idxOf?_cons] at known
    unfold insertEntry
    split at known
    · next here =>
      cases known
      rw [if_pos here, List.modify_zero_cons, eq_of_beq here]
    · next elsewhere =>
      obtain ⟨j, later, rfl⟩ := Option.map_eq_some_iff.mp known
      rw [if_neg elsewhere, List.modify_succ_cons, ih later]

theorem idxOf?_concat {first : String} (fresh : first ∉ d.keys) (key : String) :
    (d.keys ++ [first]).idxOf? key = if first == key then some d.keys.length
      else d.keys.idxOf? key := by
  have known := List.isSome_idxOf? (l := d.keys) (a := first)
  unfold List.idxOf? at *
  rw [List.findIdx?_append]
  grind

/-- The index has the entries of the dictionary, and finds their keys. -/
structure Index.Shows (index : Index α) (d : Dict α) : Prop where
  entries : index.entries.toList = d.entries
  positions : ∀ key, index.positions[key]? = d.keys.idxOf? key

theorem shows_add {index : Index α} (shows : index.Shows d) (entry : String × α) :
    (index.add entry).Shows (d.insert entry.1 entry.2) := by
  have at' := shows.positions entry.1
  unfold Index.add
  cases found : index.positions[entry.1]? with
  | some i =>
    have known : d.keys.idxOf? entry.1 = some i := at'.symm.trans found
    have among : entry.1 ∈ d.keys := by
      rw [← List.isSome_idxOf?, known]
      rfl
    constructor
    · rw [Array.toList_modify, shows.entries]
      exact (insertEntry_known known).symm
    · rw [keys_insert, if_pos among]
      exact shows.positions
  | none =>
    have fresh : entry.1 ∉ d.keys := List.idxOf?_eq_none_iff.mp (at'.symm.trans found)
    constructor
    · rw [Array.toList_push, shows.entries]
      exact (insertEntry_fresh fresh).symm
    · intro key
      have size : index.entries.size = d.keys.length := by
        rw [← Array.length_toList, shows.entries, size_keys]
        rfl
      rw [keys_insert, if_neg fresh, Std.HashMap.getElem?_insert, shows.positions, size,
        idxOf?_concat fresh]

theorem ofList_eq (entries : List (String × α)) : ofList entries = empty.insertAll entries := by
  -- By induction on the entries still to come; the index shows what has been inserted so far.
  have shows (index : Index α) (d : Dict α) (first : index.Shows d) :
      (entries.foldl Index.add index).Shows (d.insertAll entries) := by
    induction entries generalizing index d with
    | nil => exact first
    | cons entry rest ih => exact ih _ _ (shows_add first entry)
  exact congrArg mk (shows ⟨#[], ∅⟩ empty ⟨rfl, fun _ => Std.HashMap.getElem?_empty⟩).entries

theorem distinct_ofList (entries : List (String × α)) : (ofList entries).DistinctKeys := by
  have distinct (d : Dict α) (first : d.DistinctKeys) : (d.insertAll entries).DistinctKeys := by
    induction entries generalizing d with
    | nil => exact first
    | cons entry rest ih => exact ih _ (distinct_insert first entry.1 entry.2)
  rw [ofList_eq]
  exact distinct empty List.nodup_nil

theorem ofList_entries (distinct : d.DistinctKeys) : ofList d.entries = d := by
  have added : (empty : Dict α).insertAll d.entries = ⟨empty.entries ++ d.entries⟩ :=
    insertAll_fresh distinct
  rw [ofList_eq, added]
  rfl

theorem mem_ofList {entry : String × α} (among : entry ∈ (ofList entries).entries) :
    entry ∈ entries := by
  rw [ofList_eq] at among
  rcases mem_insertAll among with none | given
  · cases none
  · exact given

/-! ## Weights -/

/-- However entries are weighed, inserting adds no more than the new one weighs. -/
theorem sum_insertEntry_le (weight : String × α → Nat) :
    ((insertEntry key x entries).map weight).sum ≤
      (entries.map weight).sum + weight (key, x) := by
  induction entries with
  | nil => simp [insertEntry]
  | cons first rest ih =>
    unfold insertEntry
    split
    · simp only [List.map_cons, List.sum_cons]
      omega
    · simp only [List.map_cons, List.sum_cons]
      omega

theorem sum_ofList_le (weight : String × α → Nat) (entries : List (String × α)) :
    ((ofList entries).entries.map weight).sum ≤ (entries.map weight).sum := by
  have onto (d : Dict α) : ((d.insertAll entries).entries.map weight).sum ≤
      (d.entries.map weight).sum + (entries.map weight).sum := by
    induction entries generalizing d with
    | nil => exact Nat.le_refl _
    | cons first rest ih =>
      obtain ⟨key, x⟩ := first
      have added : ((d.insert key x).entries.map weight).sum ≤ _ := sum_insertEntry_le weight
      have others := ih (d.insert key x)
      change (((d.insert key x).insertAll rest).entries.map weight).sum ≤ _
      rw [List.map_cons, List.sum_cons]
      omega
  have all := onto empty
  rw [ofList_eq]
  simpa [empty] using all

theorem size_ofList_le (entries : List (String × α)) : (ofList entries).size ≤ entries.length := by
  have all := sum_ofList_le (fun _ => 1) entries
  simpa [size] using all

end GraphProtocol.Dict
