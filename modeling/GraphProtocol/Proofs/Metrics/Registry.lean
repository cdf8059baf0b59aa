import GraphProtocol.Metrics.Readings
import GraphProtocol.Proofs.Value.Entries

/-!
# What a registry shows

Metrics are kept by a library that is told of every update, and it is the library
that decides what a reader sees. Labels that it cannot tell apart share a series, and
a count that has become too large stays where it is. Where neither happens, every
series shows how often its label was counted. The readings are such a registry.
-/

set_option autoImplicit false

namespace GraphProtocol

/-! ## Tallies -/

namespace Dict

def increment (tally : Dict Nat) (label : String) : Dict Nat :=
  tally.insert label ((tally.get? label).getD 0 + 1)

structure Counts (tally : Dict Nat) (labels : List String) : Prop where
  each : ∀ label, (tally.get? label).getD 0 = labels.count label
  total : tally.values.sum = labels.length

variable {tally other : Dict Nat} {labels : List String}

theorem sum_insertEntry (key : String) (n : Nat) (entries : List (String × Nat)) :
    ((insertEntry key n entries).map (·.2)).sum + (get? ⟨entries⟩ key).getD 0 =
      (entries.map (·.2)).sum + n := by
  induction entries with
  | nil => simp [insertEntry, get?]
  | cons first rest ih =>
    rw [insertEntry, get?_cons]
    by_cases here : first.1 = key
    · simp only [here, beq_self_eq_true, if_true, List.map_cons, List.sum_cons, Option.getD_some]
      omega
    · simp only [here, beq_iff_eq, if_false, List.map_cons, List.sum_cons]
      omega

theorem sum_increment (tally : Dict Nat) (label : String) :
    (tally.increment label).values.sum = tally.values.sum + 1 := by
  have whole : tally.values.sum = (tally.entries.map (·.2)).sum := rfl
  have found : (tally.get? label).getD 0 = (get? ⟨tally.entries⟩ label).getD 0 := rfl
  have grown := sum_insertEntry label ((tally.get? label).getD 0 + 1) tally.entries
  show ((insertEntry label ((tally.get? label).getD 0 + 1) tally.entries).map (·.2)).sum = _
  omega

theorem counts_empty : (empty : Dict Nat).Counts [] := ⟨fun _ => rfl, rfl⟩

theorem counts_increment (counts : tally.Counts labels) (label : String) :
    (tally.increment label).Counts (label :: labels) where
  each other := by
    have before := counts.each other
    unfold increment
    rw [get?_insert, List.count_cons]
    by_cases same : label = other
    · subst same
      simp [before]
    · simp [same, before]
  total := by rw [sum_increment, counts.total, List.length_cons]

/-- The order of the labels does not matter. -/
theorem counts_perm {others : List String} (counts : tally.Counts labels)
    (same : labels.Perm others) : tally.Counts others where
  each label := (counts.each label).trans (same.count_eq label)
  total := counts.total.trans same.length_eq

/-- Nor does the order of the series. -/
theorem counts_shuffled (same : tally.entries.Perm other.entries) (distinct : other.DistinctKeys)
    (counts : other.Counts labels) : tally.Counts labels where
  each label := by
    have found : tally.get? label = other.get? label := by
      apply Option.ext
      intro n
      rw [← mem_entries distinct, ← mem_entries (distinct_perm same.symm distinct)]
      exact same.mem_iff
    rw [found, counts.each]
  total := (same.map Prod.snd).sum_eq.trans counts.total

end Dict

/-! ## Registries -/

namespace Metrics

inductive Family where
  | requests
  | failures
  | ignored
  | durations

def Update.label? : Update → Family → Option String
  | .request message, .requests => some message
  | .failure code, .failures => some code
  | .ignored message, .ignored => some message
  | .answer message _, .durations => some message
  | _, _ => none

def labels (m : Metrics) (family : Family) : List String := m.updates.filterMap (·.label? family)

def Uses (m : Metrics) (allowed : Set String) : Prop :=
  ∀ family, ∀ label ∈ m.labels family, label ∈ allowed

/-- Whether, besides, no label occurs too often. -/
structure Within (m : Metrics) (allowed : Set String) (limit : Nat) : Prop where
  uses : m.Uses allowed
  few : ∀ family label, (m.labels family).count label ≤ limit

variable {m : Metrics} {u : Update} {allowed : Set String}

theorem uses_before (uses : (m.update u).Uses allowed) : m.Uses allowed :=
  fun family label among =>
    uses family label (((List.sublist_cons_self u m.updates).filterMap _).subset among)

theorem uses_label {family : Family} {label : String} (uses : (m.update u).Uses allowed)
    (noted : u.label? family = some label) : label ∈ allowed :=
  uses family label (List.mem_filterMap.mpr ⟨u, List.mem_cons_self, noted⟩)

end Metrics

/-- A library that keeps metrics. -/
structure Registry where
  State : Type
  fresh : State
  update : State → Metrics.Update → State
  /-- The counts of a family, or of how many times it was observed. -/
  series : State → Metrics.Family → Dict Nat

namespace Registry

open Metrics

def shown (R : Registry) (m : Metrics) (family : Family) : Dict Nat :=
  R.series (m.updates.foldr (fun u s => R.update s u) R.fresh) family

/-- What is relied on of a registry. As long as all labels are of a collection, whose labels it
tells apart, an update adds one to the series of its label, if that has not come to the limit, and
changes no other series. -/
structure Counts (R : Registry) (allowed : Set String) (limit : Nat) : Prop where
  nothing : ∀ family, R.shown .fresh family = .empty
  others : ∀ {m : Metrics} {u : Update} {family : Family}, (m.update u).Uses allowed →
    u.label? family = none →
    (R.shown (m.update u) family).entries.Perm (R.shown m family).entries
  counted : ∀ {m : Metrics} {u : Update} {family : Family} {label : String},
    (m.update u).Uses allowed → u.label? family = some label →
    ((R.shown m family).get? label).getD 0 < limit →
    (R.shown (m.update u) family).entries.Perm ((R.shown m family).increment label).entries

variable {R : Registry} {allowed : Set String} {limit : Nat}

theorem within_before {m : Metrics} {u : Update} (within : (m.update u).Within allowed limit) :
    m.Within allowed limit where
  uses := uses_before within.uses
  few family label :=
    (((List.sublist_cons_self u m.updates).filterMap _).count_le label).trans
      (within.few family label)

/-- Every series shows how often its label was counted. -/
theorem shown_counts (counts : R.Counts allowed limit) {m : Metrics}
    (within : m.Within allowed limit) (family : Family) :
    (R.shown m family).DistinctKeys ∧ (R.shown m family).Counts (m.labels family) := by
  obtain ⟨updates⟩ := m
  induction updates with
  | nil =>
    rw [show R.shown ⟨[]⟩ family = .empty from counts.nothing family]
    exact ⟨List.nodup_nil, Dict.counts_empty⟩
  | cons u updates ih =>
    have before : Metrics.Within ⟨updates⟩ allowed limit := within_before within
    obtain ⟨distinct, told⟩ := ih before
    cases noted : u.label? family with
    | none =>
      have same := counts.others (m := ⟨updates⟩) within.uses noted
      have labels : Metrics.labels ⟨u :: updates⟩ family = Metrics.labels ⟨updates⟩ family :=
        List.filterMap_cons_none noted
      rw [labels]
      exact ⟨Dict.distinct_perm same.symm distinct, Dict.counts_shuffled same distinct told⟩
    | some label =>
      have labels : Metrics.labels ⟨u :: updates⟩ family =
          label :: Metrics.labels ⟨updates⟩ family := List.filterMap_cons_some noted
      have few := within.few family label
      rw [labels, List.count_cons_self] at few
      have room : ((R.shown ⟨updates⟩ family).get? label).getD 0 < limit := by
        rw [told.each]
        exact few
      have same := counts.counted (m := ⟨updates⟩) within.uses noted room
      have grown := Dict.distinct_insert distinct label
        (((R.shown ⟨updates⟩ family).get? label).getD 0 + 1)
      rw [labels]
      exact ⟨Dict.distinct_perm same.symm grown,
        Dict.counts_shuffled same grown (Dict.counts_increment told label)⟩

end Registry

/-! ## Readings -/

namespace Readings

open Metrics

def observed (entry : String × Histogram) : String × Nat := (entry.1, entry.2.count.toNat)

def series (r : Readings) : Family → Dict Nat
  | .requests => r.requests
  | .failures => r.failures
  | .ignored => r.ignored
  | .durations => ⟨r.durations.entries.map observed⟩

def registry : Registry where
  State := Readings
  fresh := .fresh
  update := update
  series := series

variable {α : Type} {entries : List (String × α)} {label : String} {allowed : Set String}

/-- A series is found under its label if no other series has its hash. -/
theorem alterSeries_eq (start : α) (change : α → α)
    (apart : ∀ other ∈ entries.map (·.1), labelHash other = labelHash label → other = label) :
    alterSeries label start change entries =
      Dict.insertEntry label (change ((Dict.get? ⟨entries⟩ label).getD start)) entries := by
  induction entries with
  | nil => rfl
  | cons first rest ih =>
    obtain ⟨here, later⟩ := List.forall_mem_cons.mp apart
    rw [alterSeries, Dict.insertEntry, Dict.get?_cons]
    by_cases same : first.1 = label
    · simp only [same, beq_self_eq_true, if_true, Option.getD_some]
    · have other : ¬labelHash first.1 = labelHash label := fun hash => same (here hash)
      rw [if_neg other, if_neg same, if_neg (by simpa using same), ih later]

theorem mem_alterSeries {other : String} {start : α} {change : α → α}
    (among : other ∈ (alterSeries label start change entries).map (·.1)) :
    other = label ∨ other ∈ entries.map (·.1) := by
  induction entries with
  | nil => exact .inl (List.mem_singleton.mp among)
  | cons first rest ih =>
    rw [alterSeries] at among
    split at among
    · exact .inr among
    · rcases List.mem_cons.mp among with rfl | later
      · exact .inr List.mem_cons_self
      · exact (ih later).imp_right (List.mem_cons_of_mem _)

theorem insertEntry_observed (h : Histogram) (entries : List (String × Histogram)) :
    (Dict.insertEntry label h entries).map observed =
      Dict.insertEntry label h.count.toNat (entries.map observed) := by
  induction entries with
  | nil => rfl
  | cons first rest ih =>
    rw [Dict.insertEntry, List.map_cons, Dict.insertEntry]
    show _ = if first.1 == label then _ else _
    split
    · rfl
    · rw [List.map_cons, ih]

theorem get?_observed (entries : List (String × Histogram)) :
    Dict.get? ⟨entries.map observed⟩ label =
      (Dict.get? ⟨entries⟩ label).map fun h => h.count.toNat := by
  induction entries with
  | nil => rfl
  | cons first rest ih =>
    rw [List.map_cons, Dict.get?_cons, Dict.get?_cons, ih]
    show (if first.1 = label then _ else _) = _
    split <;> rfl

theorem keys_observed (entries : List (String × Histogram)) :
    (entries.map observed).map (·.1) = entries.map (·.1) := List.map_map

theorem update_others (r : Readings) {u : Update} {family : Family}
    (unnoted : u.label? family = none) : (r.update u).series family = r.series family := by
  cases u <;> cases family <;> first | rfl | cases unnoted

/-- A family changes by one series, which is the same work for all families. -/
theorem update_noted (r : Readings) {u : Update} {family : Family}
    (noted : u.label? family = some label) :
    ((r.update u).series family = ⟨alterSeries label 0 increment (r.series family).entries⟩ ∨
      ∃ seconds, family = .durations ∧ u = .answer label seconds) := by
  cases u <;> cases family <;> cases noted
  case answer.durations.refl seconds => exact .inr ⟨seconds, rfl, rfl⟩
  all_goals exact .inl rfl

theorem mem_update {r : Readings} {u : Update} {family : Family} {other : String}
    (among : other ∈ ((r.update u).series family).keys) :
    u.label? family = some other ∨ other ∈ (r.series family).keys := by
  cases noted : u.label? family with
  | none => exact .inr (update_others r noted ▸ among)
  | some label =>
    rcases update_noted r noted with told | ⟨seconds, rfl, rfl⟩
    · rw [told] at among
      rcases mem_alterSeries among with rfl | old
      · exact .inl rfl
      · exact .inr old
    · have among : other ∈ ((alterSeries label .empty (·.observe seconds)
          r.durations.entries).map observed).map (·.1) := among
      rw [keys_observed] at among
      rcases mem_alterSeries among with rfl | old
      · exact .inl rfl
      · right
        show other ∈ (r.durations.entries.map observed).map (·.1)
        rwa [keys_observed]

/-- All series have labels that were used. -/
theorem keys_shown {m : Metrics} (uses : m.Uses allowed) (family : Family) :
    ∀ label ∈ (registry.shown m family).keys, label ∈ allowed := by
  obtain ⟨updates⟩ := m
  induction updates with
  | nil =>
    rintro label among
    cases family <;> cases among
  | cons u updates ih =>
    have before : Metrics.Uses ⟨updates⟩ allowed := uses_before uses
    intro label among
    rcases mem_update among with noted | old
    · exact uses_label (m := ⟨updates⟩) uses noted
    · exact ih before label old

/-- One more under a label that no other series is mistaken for. -/
theorem update_counted {r : Readings} {u : Update} {family : Family}
    (noted : u.label? family = some label)
    (apart : ∀ other ∈ (r.series family).keys, labelHash other = labelHash label → other = label)
    (few : ((r.series family).get? label).getD 0 < largestCount) :
    (r.update u).series family = (r.series family).increment label := by
  rcases update_noted r noted with told | ⟨seconds, rfl, rfl⟩
  · rw [told, alterSeries_eq _ _ apart]
    exact congrArg Dict.mk (congrArg (Dict.insertEntry label · _) (if_pos few))
  · have found : (r.series .durations).get? label =
        (r.durations.get? label).map fun h => h.count.toNat := get?_observed _
    have apart : ∀ other ∈ r.durations.entries.map (·.1),
        labelHash other = labelHash label → other = label := keys_observed _ ▸ apart
    have more : (((r.durations.get? label).getD .empty).observe seconds).count.toNat =
        ((r.series .durations).get? label).getD 0 + 1 := by
      rw [found] at few ⊢
      show ((((r.durations.get? label).getD .empty).count + 1).toNat) = _
      rw [UInt64.toNat_add]
      cases known : r.durations.get? label with
      | none => rfl
      | some h =>
        rw [known] at few
        have small : h.count.toNat < largestCount := few
        unfold largestCount at small
        show (h.count.toNat + 1) % 2 ^ 64 = h.count.toNat + 1
        omega
    show Dict.mk ((alterSeries label .empty (·.observe seconds) r.durations.entries).map
      observed) = _
    rw [alterSeries_eq _ _ apart, insertEntry_observed]
    exact congrArg Dict.mk (congrArg (Dict.insertEntry label · _) more)

/-- The readings can be relied on where no two labels have one hash. -/
theorem registry_counts (apart : Set.InjOn labelHash allowed) :
    registry.Counts allowed largestCount where
  nothing family := by cases family <;> rfl
  others {m u family} _ unnoted := by
    have same : registry.shown (m.update u) family = registry.shown m family :=
      update_others _ unnoted
    rw [same]
  counted {m u family label} uses noted few := by
    have before : m.Uses allowed := uses_before uses
    have used : label ∈ allowed := uses_label uses noted
    have told : registry.shown (m.update u) family = (registry.shown m family).increment label := by
      apply update_counted noted _ few
      intro other among hash
      exact apart (keys_shown before family other among) used hash
    rw [told]

example : labelHash "7mohtcOFVz" = labelHash "c1E51sSEyx" := by decide +kernel

end Readings

end GraphProtocol
