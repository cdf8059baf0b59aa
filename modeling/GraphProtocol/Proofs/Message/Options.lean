import GraphProtocol.Proofs.Connection.Inbox
import GraphProtocol.Proofs.Message.Requests

/-!
# Transaction options that have been read

An options map may hold unknown keys, nulls and defaults, and the options that are read from it do
not tell. What they are written as again is a part of that map: no entry is new, so nothing is
deeper, longer or less primitive than it was.
-/

set_option autoImplicit false

namespace GraphProtocol

open Wire

namespace Wire.Written

variable {a a' b b' : Written}

theorem within_refl : a.Within a := ⟨id, fun _ => Nat.le_refl _⟩

theorem within_append (first : a.Within a') (second : b.Within b') :
    (a ++ b).Within (a' ++ b') := by
  have clear (free : (a' ++ b').abort = none) : (a ++ b).abort = none := by
    obtain ⟨early, late⟩ := append_abort.mp free
    exact append_abort.mpr ⟨first.clear early, second.clear late⟩
  refine ⟨clear, fun free => ?_⟩
  obtain ⟨early, late⟩ := append_abort.mp free
  rw [append_bytes free, append_bytes (clear free), List.length_append, List.length_append]
  exact Nat.add_le_add (first.short early) (second.short late)

end Wire.Written

/-! ## Parts of dictionaries -/

namespace Dict

variable {α : Type} {d whole : Dict α}

def IsPart (d whole : Dict α) : Prop := ∀ entry ∈ d.entries, entry ∈ whole.entries

theorem IsPart.values (part : d.IsPart whole) : ∀ x ∈ d.values, x ∈ whole.values := by
  intro x among
  obtain ⟨entry, held, rfl⟩ := List.mem_map.mp among
  exact List.mem_map_of_mem (part entry held)

/-- However entries are weighed, a part with distinct keys weighs no more than the whole. -/
theorem IsPart.sum_le (part : d.IsPart whole) (distinct : d.DistinctKeys)
    (weight : String × α → Nat) :
    (d.entries.map weight).sum ≤ (whole.entries.map weight).sum := by
  obtain ⟨entries, order, among⟩ := (List.Nodup.of_map _ distinct).subperm part
  rw [← (order.map weight).sum_eq]
  exact (among.map weight).sum_le_sum fun _ _ => Nat.zero_le _

theorem IsPart.write_within {d whole : Dict Value} (part : d.IsPart whole)
    (distinct : d.DistinctKeys) (version : Version) :
    (d.write version).Within (whole.write version) := by
  have fewer : d.size ≤ whole.size := by
    simpa [size] using part.sum_le distinct fun _ => 1
  rw [dict_write_eq, dict_write_eq]
  refine Written.within_append (writeSize_mono fewer) (Written.within_concat ?_ ?_)
  · intro written among
    obtain ⟨entry, held, rfl⟩ := List.mem_map.mp among
    exact List.mem_map_of_mem (part entry held)
  · rw [List.map_map, List.map_map]
    exact part.sum_le distinct _

theorem IsPart.legible {d whole : Dict Value} (part : d.IsPart whole) (distinct : d.DistinctKeys)
    {levels : Nat} (legible : Legible levels (.map whole)) : Legible levels (.map d) := by
  obtain ⟨below, rfl, -, each⟩ := map_legible legible
  exact legible_map distinct fun x among => each x (part.values x among)

end Dict

/-! ## Options and their maps -/

namespace TxMetadata

variable {map : Dict Value} {m : TxMetadata}

theorem ofMap_given (given : ofMap map = .ok m) : timeoutOf map = .ok m.timeout ∧
    entriesOf map = .ok m.entries ∧ bookmarksOf map = .ok m.bookmarks := by
  obtain ⟨timeout, first, given⟩ := except_bind_ok given
  obtain ⟨entries, second, given⟩ := except_bind_ok given
  obtain ⟨bookmarks, third, given⟩ := except_bind_ok given
  cases given
  exact ⟨first, second, third⟩

theorem texts_given {items : List Value} {texts : List String}
    (given : items.mapM Value.asString? = some texts) : items = texts.map .string := by
  induction items generalizing texts with
  | nil =>
    cases given
    rfl
  | cons v rest ih =>
    rw [List.mapM_cons] at given
    obtain ⟨text, is, given⟩ := Option.bind_eq_some_iff.mp given
    obtain ⟨others, are, given⟩ := Option.bind_eq_some_iff.mp given
    cases given
    cases v with
    | string s =>
      cases is
      rw [ih are]
      rfl
    | _ => cases is

theorem bookmarks_held {bookmarks : List String} (given : bookmarksOf map = .ok bookmarks)
    (some : bookmarks.isEmpty = false) :
    map.get? bookmarksKey = .some (.list (bookmarks.map .string)) := by
  unfold bookmarksOf at given
  split at given
  · cases given
    cases some
  · cases given
    cases some
  next items found =>
    split at given
    next texts named =>
      cases given
      exact texts_given named ▸ found
    · cases given
  · cases given

theorem timeout_held {limit : Span} (given : timeoutOf map = .ok (some limit)) :
    map.get? timeoutKey = some (.integer (Int64.ofNat (min limit.millis maxTimeout))) ∧
      ∃ millis ≤ maxTimeout, limit = .ofMillis millis := by
  unfold timeoutOf at given
  split at given
  · cases given
  · cases given
  next millis found =>
    split at given
    next positive =>
      cases given
      have small : millis.toInt.toNat ≤ maxTimeout := by
        have bound := Int64.toInt_lt millis
        unfold maxTimeout
        omega
      have same : (Span.ofMillis millis.toInt.toNat).millis = millis.toInt.toNat :=
        Nat.mul_div_cancel _ (by decide)
      refine ⟨?_, _, small, rfl⟩
      have back : Int64.ofNat millis.toInt.toNat = millis := by
        rw [← Int64.ofInt_eq_ofNat, Int.toNat_of_nonneg positive, Int64.ofInt_toInt]
      rw [found, same, Nat.min_eq_left small, back]
    · cases given
  · cases given

theorem entries_held {entries : Dict Value} (given : entriesOf map = .ok entries) :
    entries.firstComplex? = none ∧
      (entries.isEmpty = false → map.get? entriesKey = some (.map entries)) := by
  unfold entriesOf at given
  split at given
  · cases given
    exact ⟨rfl, by rintro ⟨⟩⟩
  · cases given
    exact ⟨rfl, by rintro ⟨⟩⟩
  next found =>
    split at given
    · cases given
    next plain =>
      cases given
      exact ⟨plain, fun _ => found⟩
  · cases given

/-- Every option is one entry, which is there unless the option has its default. -/
theorem toMap_entries {P : String × Value → Prop}
    (bookmarks : m.bookmarks.isEmpty = false → P (bookmarksKey, .list (m.bookmarks.map .string)))
    (timeout : ∀ limit, m.timeout = some limit →
      P (timeoutKey, .integer (Int64.ofNat (min limit.millis maxTimeout))))
    (entries : m.entries.isEmpty = false → P (entriesKey, .map m.entries)) :
    ∀ entry ∈ m.toMap.entries, P entry := by
  have inserted {d : Dict Value} {key : String} {v : Value} (old : ∀ entry ∈ d.entries, P entry)
      (new : P (key, v)) : ∀ entry ∈ (d.insert key v).entries, P entry := by
    intro entry among
    rcases Dict.mem_insertEntry among with rfl | among
    · exact new
    · exact old entry among
  have first : ∀ entry ∈ (if m.bookmarks.isEmpty then Dict.empty
      else Dict.empty.insert bookmarksKey (.list (m.bookmarks.map .string))).entries, P entry := by
    cases none : m.bookmarks.isEmpty with
    | true => exact List.forall_mem_nil _
    | false => exact inserted (List.forall_mem_nil _) (bookmarks none)
  unfold toMap
  cases limited : m.timeout with
  | none =>
    cases none : m.entries.isEmpty with
    | true => exact first
    | false => exact inserted first (entries none)
  | some limit =>
    have second := inserted first (timeout limit limited)
    cases none : m.entries.isEmpty with
    | true => exact second
    | false => exact inserted second (entries none)

/-- Options are written as a part of what they were read from. -/
theorem toMap_part (given : ofMap map = .ok m) : m.toMap.IsPart map := by
  obtain ⟨timed, attached, marked⟩ := ofMap_given given
  apply toMap_entries
  · exact fun some => Dict.mem_of_get? (bookmarks_held marked some)
  · intro limit limited
    rw [limited] at timed
    exact Dict.mem_of_get? (timeout_held timed).1
  · exact fun some => Dict.mem_of_get? ((entries_held attached).2 some)

theorem ofMap_whole (given : ofMap map = .ok m) : m.WholeTimeout := by
  intro limit limited
  have timed := (ofMap_given given).1
  rw [limited] at timed
  exact (timeout_held timed).2

theorem ofMap_plain (given : ofMap map = .ok m) : m.entries.firstComplex? = none :=
  (entries_held (ofMap_given given).2.1).1

/-- The attached entries are a map of the options map, or none. -/
theorem entries_legible {levels : Nat} (given : ofMap map = .ok m)
    (legible : Legible levels (.map map)) : Legible levels (.map m.entries) := by
  obtain ⟨below, rfl, -, each⟩ := map_legible legible
  cases none : m.entries.isEmpty with
  | true =>
    have empty : m.entries = .empty := congrArg Dict.mk (List.isEmpty_iff.mp none)
    rw [empty]
    exact legible_map List.nodup_nil (List.forall_mem_nil _)
  | false =>
    have held := Dict.mem_of_get? ((entries_held (ofMap_given given).2.1).2 none)
    have inside := each _ (Dict.mem_values held)
    exact ⟨inside.nesting.trans (Nat.le_succ _), inside.regular⟩

/-- The written map is primitive, as far as its entries are. -/
theorem toMap_plain (plain : m.entries.firstComplex? = none) : m.toMap.firstComplex? = none := by
  have primitive : ∀ entry ∈ m.toMap.entries, entry.2.isPrimitive = true := by
    apply toMap_entries
    · intro some
      simp [Value.isPrimitive]
    · intro limit limited
      simp [Value.isPrimitive]
    · exact fun some => Value.isPrimitive_map.mpr plain
  exact List.find?_eq_none.mpr fun entry among => by simp [primitive entry among]

/-- What options that have been read are written as is legible, primitive and no longer. -/
theorem toMap_read {levels : Nat} (given : ofMap map = .ok m)
    (legible : Legible levels (.map map)) (version : Version) :
    Legible levels (.map m.toMap) ∧ m.toMap.firstComplex? = none ∧
      (m.toMap.write version).Within (map.write version) := by
  have entries := (entries_legible given legible).regular.distinct
  have distinct := (Value.distinct_map.mp (toMap_distinct entries)).1
  have part := toMap_part given
  exact ⟨part.legible distinct legible, toMap_plain (ofMap_plain given),
    part.write_within distinct version⟩

end TxMetadata

end GraphProtocol
