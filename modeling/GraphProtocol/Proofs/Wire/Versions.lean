import GraphProtocol.Proofs.Wire.Canonical

/-!
# What the versions have in common

A value whose sizes can be announced is written by every version that has its types,
and in the same bytes, unless the local clock of a date-time in it is out of range:
nothing is prepared for that. Bytes that one version reads are read alike by all
versions that have its types, and an error in reading is always fatal.
-/

set_option autoImplicit false

namespace GraphProtocol

open Wire

/-! ## Sizes that are announced -/

def Dict.sizes {α : Type} (d : Dict α) : List Nat :=
  d.size :: d.keys.map fun key => (utf8 key).length

def Node.sizes {α : Type} (n : Node α) : List Nat :=
  n.labels.length :: n.labels.map (fun label => (utf8 label).length) ++ n.properties.sizes

def UnboundRelationship.sizes {α : Type} (r : UnboundRelationship α) : List Nat :=
  (utf8 r.type).length :: r.properties.sizes

namespace Value

/-- The sizes of the texts, byte arrays, lists and maps that a value consists of, those inside its
children apart. -/
def sizes : Value → List Nat
  | string s => [(utf8 s).length]
  | bytes bs => [bs.length]
  | list items => [items.length]
  | map d => d.sizes
  | node n => n.sizes
  | relationship r => (utf8 r.type).length :: r.properties.sizes
  | unboundRelationship r => r.sizes
  | path p => p.nodes.length :: p.nodes.flatMap (·.sizes) ++
      p.relationships.length :: p.relationships.flatMap (·.sizes) ++ [p.indices.length]
  | zonedDateTime t => [(utf8 t.zone).length]
  | _ => []

def isCountable (v : Value) : Bool := v.everywhere fun part => part.sizes.all (· < UInt32.size)

def isUnshown : Value → Bool
  | dateTime t => t.wall?.isNone
  | _ => false

/-- What the calendar asks of a value: its local clocks are read only where they are in range. -/
def hasLocalTimes (v : Value) : Bool := v.everywhere fun part => !part.isUnshown

/-- The value is countable, its local clocks are in range, and the version has its types. -/
structure IsSendable (version : Version) (v : Value) : Prop where
  countable : v.isCountable = true
  shown : v.hasLocalTimes = true
  available : v.requiresExtended = true → version.hasExtendedValues = true

variable {version : Version} {v : Value}

theorem requiresExtended_iff : v.requiresExtended = true ↔
    v.type.isExtended = true ∨ ∃ child ∈ v.children, child.requiresExtended = true := by
  rw [requiresExtended]
  simp

theorem countable_iff : v.isCountable = true ↔ (∀ size ∈ v.sizes, size < UInt32.size) ∧
    ∀ child ∈ v.children, child.isCountable = true := by
  unfold isCountable
  rw [everywhere_iff]
  simp only [List.all_eq_true, decide_eq_true_eq]

theorem localTimes_iff : v.hasLocalTimes = true ↔ v.isUnshown = false ∧
    ∀ child ∈ v.children, child.hasLocalTimes = true := by
  unfold hasLocalTimes
  rw [everywhere_iff, Bool.not_eq_true']

theorem free_iff : v.requiresExtended = false ↔ v.type.isExtended = false ∧
    ∀ child ∈ v.children, child.requiresExtended = false := by
  rw [requiresExtended]
  simp

/-- Where there are no types of the later versions, there is no date-time. -/
theorem localTimes_of_free (free : v.requiresExtended = false) : v.hasLocalTimes = true := by
  induction v using child_induction with
  | step v ih =>
  obtain ⟨basic, free⟩ := free_iff.mp free
  refine localTimes_iff.mpr ⟨?_, fun child among => ih child among (free child among)⟩
  cases v with
  | dateTime t => cases basic
  | _ => rfl

/-- There is no date-time in a primitive value. -/
theorem localTimes_of_primitive (plain : v.isPrimitive = true) : v.hasLocalTimes = true := by
  induction v using child_induction with
  | step v ih =>
  cases v with
  | null | boolean | integer | float | string => exact localTimes_iff.mpr ⟨rfl, nofun⟩
  | list items | map d =>
    rw [isPrimitive] at plain
    refine localTimes_iff.mpr ⟨rfl, fun child among => ih child among ?_⟩
    exact List.all_eq_true.mp plain ⟨child, among⟩ (List.mem_attach _ _)
  | _ => simp [isPrimitive] at plain

theorem sendable_iff : v.IsSendable version ↔ (∀ size ∈ v.sizes, size < UInt32.size) ∧
    v.isUnshown = false ∧ (v.type.isExtended = true → version.hasExtendedValues = true) ∧
    ∀ child ∈ v.children, child.IsSendable version := by
  constructor
  · rintro ⟨countable, shown, available⟩
    obtain ⟨few, countable⟩ := countable_iff.mp countable
    obtain ⟨clock, shown⟩ := localTimes_iff.mp shown
    refine ⟨few, clock, fun extended => ?_,
      fun child among => ⟨countable child among, shown child among, ?_⟩⟩
    · exact available (requiresExtended_iff.mpr (.inl extended))
    · exact fun required => available (requiresExtended_iff.mpr (.inr ⟨child, among, required⟩))
  · rintro ⟨few, clock, available, sendable⟩
    constructor
    · exact countable_iff.mpr ⟨few, fun child among => (sendable child among).countable⟩
    · exact localTimes_iff.mpr ⟨clock, fun child among => (sendable child among).shown⟩
    · intro required
      rcases requiresExtended_iff.mp required with extended | ⟨child, among, required⟩
      · exact available extended
      · exact (sendable child among).available required

end Value

/-! ## What is written -/

namespace Wire

section Clear

variable {version : Version}

attribute [simp] Written.append_abort writeSize_clear writeInteger_clear

@[simp] theorem ofBytes_clear {bytes : List UInt8} : (Written.ofBytes bytes).abort = none := rfl

@[simp] theorem writeFloat_clear {x : Binary64} : (writeFloat x).abort = none := rfl

@[simp] theorem writeCount_clear {i : Int} : (writeCount i).abort = none := writeInteger_clear

@[simp] theorem writeLocalDateTime_clear {t : Calendar.LocalDateTime} :
    (writeLocalDateTime t).abort = none := by
  simp [writeLocalDateTime]

@[simp] theorem writeHeader_clear {kind : StructureKind} : (writeHeader kind).abort = none := by
  simp [writeHeader_eq]

@[simp] theorem writeString_clear {s : String} :
    (writeString s).abort = none ↔ (utf8 s).length < UInt32.size := by
  simp [writeString]

@[simp] theorem writeBytes_clear {bytes : List UInt8} :
    (writeBytes bytes).abort = none ↔ bytes.length < UInt32.size := by
  simp [writeBytes]

@[simp] theorem writeListWith_clear {α : Type} {items : List α} {write : α → Written} :
    (writeListWith items fun x _ => write x).abort = none ↔
      items.length < UInt32.size ∧ ∀ x ∈ items, (write x).abort = none := by
  simp [writeListWith_eq, Written.concat_abort]

@[simp] theorem dict_clear {d : Dict Value} : (d.write version).abort = none ↔
    (∀ size ∈ d.sizes, size < UInt32.size) ∧ ∀ x ∈ d.values, (x.write version).abort = none := by
  rw [dict_write_eq, Written.append_abort, writeSize_clear, Written.concat_abort]
  simp only [Dict.sizes, Dict.keys, Dict.values, writeEntry, List.forall_mem_map,
    List.forall_mem_cons, Written.append_abort, writeString_clear, forall_and, and_assoc]

@[simp] theorem node_clear {n : Node Value} : ((Value.node n).write version).abort = none ↔
    (∀ size ∈ n.sizes, size < UInt32.size) ∧
      ∀ x ∈ n.properties.values, (x.write version).abort = none := by
  simp [Value.write_node, Node.sizes, or_imp, forall_and, and_assoc]

@[simp] theorem unbound_clear {r : UnboundRelationship Value} :
    ((Value.unboundRelationship r).write version).abort = none ↔
      (∀ size ∈ r.sizes, size < UInt32.size) ∧
        ∀ x ∈ r.properties.values, (x.write version).abort = none := by
  simp [Value.write_unbound, UnboundRelationship.sizes, and_assoc]

end Clear

end Wire

namespace Value

variable {version : Version} {v : Value}

theorem dateTime_clear {t : Calendar.DateTime} (allowed : version.hasExtendedValues = true) :
    ((dateTime t).write version).abort = none ↔ (dateTime t).isUnshown = false := by
  cases shown : t.wall? with
  | some wall => simp [write_dateTime allowed shown, isUnshown, shown]
  | none => simp [write_unshown allowed shown, Written.breakdown, isUnshown, shown]

/-- A value of a type that the version has is written if its own sizes fit, its clock is in range
and its children are written. -/
theorem write_clear_of (allowed : v.type.isExtended = true → version.hasExtendedValues = true) :
    (v.write version).abort = none ↔ (∀ size ∈ v.sizes, size < UInt32.size) ∧
      v.isUnshown = false ∧ ∀ child ∈ v.children, (child.write version).abort = none := by
  cases v with
  | null => simp [write_null, writeNull, sizes, isUnshown, children]
  | boolean b => simp [write_boolean, writeBoolean, sizes, isUnshown, children]
  | integer i => simp [write_integer, sizes, isUnshown, children]
  | float x => simp [write_float, sizes, isUnshown, children]
  | string s => simp [write_string, sizes, isUnshown, children]
  | bytes bs => simp [write_bytes (allowed rfl), sizes, isUnshown, children]
  | list items => simp [write_list, sizes, isUnshown, children]
  | map d => simp [write_map, sizes, isUnshown, children]
  | node n => simp [sizes, isUnshown, children]
  | relationship r => simp [write_relationship, sizes, isUnshown, children, and_assoc]
  | unboundRelationship r => simp [sizes, isUnshown, children]
  | path p =>
    -- The sizes and the values of the nodes are apart on one side, and together on the other.
    simp only [write_path, sizes, isUnshown, children, Written.append_abort, writeHeader_clear,
      writeListWith_clear, node_clear, unbound_clear, writeInteger_clear, List.forall_mem_append,
      List.forall_mem_cons, List.forall_mem_flatMap, List.not_mem_nil, false_implies, implies_true,
      forall_and, true_and, and_true]
    tauto
  | point2D p => simp [write_point2D (allowed rfl), sizes, isUnshown, children]
  | point3D p => simp [write_point3D (allowed rfl), sizes, isUnshown, children]
  | date d => simp [write_date (allowed rfl), sizes, isUnshown, children]
  | time t => simp [write_time (allowed rfl), sizes, isUnshown, children]
  | localTime t => simp [write_localTime (allowed rfl), sizes, isUnshown, children]
  | localDateTime t => simp [write_localDateTime (allowed rfl), sizes, isUnshown, children]
  | dateTime t => simp [dateTime_clear (allowed rfl), sizes, children]
  | zonedDateTime t => simp [write_zonedDateTime (allowed rfl), sizes, isUnshown, children]
  | duration d => simp [write_duration (allowed rfl), sizes, isUnshown, children]

/-- A value is written if and only if it is countable, its local clocks are in range and the version
has its types. -/
theorem write_clear : (v.write version).abort = none ↔ v.IsSendable version := by
  induction v using child_induction with
  | step v ih =>
  by_cases refused : (v.type.isExtended && !version.hasExtendedValues) = true
  · obtain ⟨extended, lacking⟩ := Bool.and_eq_true_iff.mp refused
    rw [write.eq_def, if_pos refused, sendable_iff]
    simp [Written.refuse, extended, Bool.not_eq_true' _ |>.mp lacking]
  · have allowed : v.type.isExtended = true → version.hasExtendedValues = true := by
      simpa using refused
    rw [write_clear_of allowed, sendable_iff]
    simp +contextual [ih, allowed]

end Value

/-! ## What stands in the way -/

namespace Wire

section Obstacles

variable {version : Version} {P : Abort Unsupported → Prop}

def Written.Only (P : Abort Unsupported → Prop) (w : Written) : Prop :=
  ∀ abort, w.abort = some abort → P abort

theorem only_clear {w : Written} (clear : w.abort = none) : w.Only P :=
  fun _ met => nomatch clear.symm.trans met

theorem only_append {a b : Written} (first : a.Only P) (second : b.Only P) : (a ++ b).Only P := by
  intro abort met
  cases aborted : a.abort with
  | some before =>
    rw [Written.append_aborted aborted] at met
    exact first abort met
  | none =>
    rw [Written.append_clear aborted] at met
    exact second abort met

theorem only_concat {parts : List Written} (each : ∀ part ∈ parts, part.Only P) :
    (Written.concat parts).Only P := by
  induction parts with
  | nil => exact only_clear rfl
  | cons part rest ih =>
    rw [Written.concat_cons]
    exact only_append (each part List.mem_cons_self)
      (ih fun later among => each later (List.mem_cons_of_mem _ among))

theorem only_string {s : String} (sized : (writeSize .string (utf8 s).length).Only P) :
    (writeString s).Only P := only_append sized (only_clear rfl)

theorem only_list {α : Type} {items : List α} {write : α → Written}
    (sized : (writeSize .list items.length).Only P) (each : ∀ x ∈ items, (write x).Only P) :
    (writeListWith items fun x _ => write x).Only P := by
  rw [writeListWith_eq]
  exact only_append sized (only_concat (List.forall_mem_map.mpr each))

theorem only_dict {d : Dict Value} (sized : ∀ size ∈ d.sizes, ∀ kind, (writeSize kind size).Only P)
    (each : ∀ x ∈ d.values, (x.write version).Only P) : (d.write version).Only P := by
  obtain ⟨count, keys⟩ := List.forall_mem_cons.mp sized
  rw [dict_write_eq]
  refine only_append (count .map) (only_concat (List.forall_mem_map.mpr fun entry among => ?_))
  have key : entry.1 ∈ d.keys := List.mem_map_of_mem among
  exact only_append (only_string (List.forall_mem_map.mp keys _ key .string))
    (each _ (Dict.mem_values among))

theorem only_node {n : Node Value} (sized : ∀ size ∈ n.sizes, ∀ kind, (writeSize kind size).Only P)
    (each : ∀ x ∈ n.properties.values, (x.write version).Only P) :
    ((Value.node n).write version).Only P := by
  obtain ⟨names, properties⟩ := List.forall_mem_append.mp sized
  obtain ⟨count, labels⟩ := List.forall_mem_cons.mp names
  have listed : (writeListWith n.labels fun label _ => writeString label).Only P :=
    only_list (count .list) fun label among =>
      only_string (List.forall_mem_map.mp labels label among .string)
  have header : (writeHeader .node ++ writeInteger n.id).Only P := only_clear (by simp)
  rw [Value.write_node]
  exact only_append (only_append header listed) (only_dict properties each)

theorem only_unbound {r : UnboundRelationship Value}
    (sized : ∀ size ∈ r.sizes, ∀ kind, (writeSize kind size).Only P)
    (each : ∀ x ∈ r.properties.values, (x.write version).Only P) :
    ((Value.unboundRelationship r).write version).Only P := by
  obtain ⟨type, properties⟩ := List.forall_mem_cons.mp sized
  have header : (writeHeader .unboundRelationship ++ writeInteger r.id).Only P :=
    only_clear (by simp)
  rw [Value.write_unbound]
  exact only_append (only_append header (only_string (type .string))) (only_dict properties each)

end Obstacles

end Wire

namespace Value

variable {version : Version} {v : Value} {P : Abort Unsupported → Prop}

/-- What stands in the way of a value of a type that the version has is one of its own sizes, its
clock, or what stands in the way of a child. -/
theorem write_only_of (allowed : v.type.isExtended = true → version.hasExtendedValues = true)
    (sized : ∀ size ∈ v.sizes, ∀ kind, (writeSize kind size).Only P)
    (shown : v.isUnshown = true → P .breakdown)
    (each : ∀ child ∈ v.children, (child.write version).Only P) : (v.write version).Only P := by
  cases v with
  | string s =>
    rw [write_string]
    exact only_string (sized _ List.mem_cons_self .string)
  | bytes bs =>
    rw [write_bytes (allowed rfl)]
    exact only_append (sized _ List.mem_cons_self .byteArray) (only_clear rfl)
  | list items =>
    rw [write_list]
    exact only_list (sized _ List.mem_cons_self .list) each
  | map d =>
    rw [write_map]
    exact only_dict sized each
  | node n => exact only_node sized each
  | relationship r =>
    obtain ⟨type, properties⟩ := List.forall_mem_cons.mp sized
    rw [write_relationship]
    exact only_append (only_append (only_clear (by simp)) (only_string (type .string)))
      (only_dict properties each)
  | unboundRelationship r => exact only_unbound sized each
  | path p =>
    obtain ⟨sized, indices⟩ := List.forall_mem_append.mp sized
    obtain ⟨nodes, relationships⟩ := List.forall_mem_append.mp sized
    obtain ⟨nodeCount, nodes⟩ := List.forall_mem_cons.mp nodes
    obtain ⟨relationshipCount, relationships⟩ := List.forall_mem_cons.mp relationships
    rw [write_path]
    refine only_append (only_append (only_append (only_clear writeHeader_clear) ?_) ?_) ?_
    · refine only_list (nodeCount .list) fun n among => only_node ?_ fun x held => ?_
      · exact fun size own => nodes size (List.mem_flatMap.mpr ⟨n, among, own⟩)
      · exact each x (List.mem_append_left _ (List.mem_flatMap.mpr ⟨n, among, held⟩))
    · refine only_list (relationshipCount .list) fun r among => only_unbound ?_ fun x held => ?_
      · exact fun size own => relationships size (List.mem_flatMap.mpr ⟨r, among, own⟩)
      · exact each x (List.mem_append_right _ (List.mem_flatMap.mpr ⟨r, among, held⟩))
    · exact only_list (indices _ List.mem_cons_self .list) fun i _ => only_clear writeInteger_clear
  | zonedDateTime t =>
    rw [write_zonedDateTime (allowed rfl)]
    exact only_append (only_clear (by simp)) (only_string (sized _ List.mem_cons_self .string))
  | dateTime t =>
    cases clock : t.wall? with
    | some wall =>
      rw [write_dateTime (allowed rfl) clock]
      exact only_clear (by simp)
    | none =>
      rw [write_unshown (allowed rfl) clock]
      rintro abort ⟨⟩
      exact shown (by simp [isUnshown, clock])
  | _ => exact only_clear ((write_clear_of allowed).mpr (by simp [sizes, isUnshown, children]))

/-- A version that has the types of a countable value does not refuse it. -/
theorem write_unrefused (countable : v.isCountable = true)
    (available : v.requiresExtended = true → version.hasExtendedValues = true) :
    (v.write version).Only (· = .breakdown) := by
  induction v using child_induction with
  | step v ih =>
  obtain ⟨few, countable⟩ := countable_iff.mp countable
  apply write_only_of
  · exact fun extended => available (requiresExtended_iff.mpr (.inl extended))
  · exact fun size among kind => only_clear (writeSize_clear.mpr (few size among))
  · exact fun _ => rfl
  · intro child among
    apply ih child among (countable child among)
    exact fun required => available (requiresExtended_iff.mpr (.inr ⟨child, among, required⟩))

theorem writeSize_prepared {kind : SizedKind} {size : Nat} :
    (writeSize kind size).Only (· ≠ .breakdown) := by
  by_cases fits : size < UInt32.size
  · exact only_clear (writeSize_clear.mpr fits)
  · intro abort met
    rw [writeSize_refused fits] at met
    cases met
    exact nofun

/-- Everything is prepared for but a date-time whose local clock is out of range, where the version
has date-times. -/
theorem write_prepared (shown : version.hasExtendedValues = true → v.hasLocalTimes = true) :
    (v.write version).Only (· ≠ .breakdown) := by
  induction v using child_induction with
  | step v ih =>
  by_cases refused : (v.type.isExtended && !version.hasExtendedValues) = true
  · rw [write.eq_def, if_pos refused]
    rintro abort ⟨⟩
    exact nofun
  · have allowed : v.type.isExtended = true → version.hasExtendedValues = true := by
      simpa using refused
    apply write_only_of allowed (fun _ _ _ => writeSize_prepared)
    · intro unshown
      have extended : v.type.isExtended = true := by
        cases v with
        | dateTime t => rfl
        | _ => cases unshown
      cases unshown.symm.trans (localTimes_iff.mp (shown (allowed extended))).1
    · intro child among
      exact ih child among fun has => (localTimes_iff.mp (shown has)).2 child among

end Value

/-! ## What is written alike -/

section Alike

variable {early late : Version}

theorem writeListWith_congr {α : Type} {items : List α} {write write' : α → Written}
    (same : ∀ x ∈ items, write x = write' x) :
    writeListWith items (fun x _ => write x) = writeListWith items fun x _ => write' x := by
  rw [writeListWith_eq, writeListWith_eq, List.map_congr_left same]

theorem dict_write_congr {d : Dict Value} (same : ∀ x ∈ d.values, x.write early = x.write late) :
    d.write early = d.write late := by
  have each (entry : String × Value) (among : entry ∈ d.entries) :
      writeEntry early entry = writeEntry late entry := by
    unfold writeEntry
    rw [same entry.2 (Dict.mem_values among)]
  rw [dict_write_eq, dict_write_eq, List.map_congr_left each]

namespace Value

theorem write_node_congr {n : Node Value}
    (same : ∀ x ∈ n.properties.values, x.write early = x.write late) :
    (node n).write early = (node n).write late := by
  rw [write_node, write_node, dict_write_congr same]

theorem write_unbound_congr {r : UnboundRelationship Value}
    (same : ∀ x ∈ r.properties.values, x.write early = x.write late) :
    (unboundRelationship r).write early = (unboundRelationship r).write late := by
  rw [write_unbound, write_unbound, dict_write_congr same]

/-- Two versions that both have the types of a value write it in the same way. -/
theorem write_congr {v : Value} (both : v.requiresExtended = true →
    early.hasExtendedValues = true ∧ late.hasExtendedValues = true) :
    v.write early = v.write late := by
  induction v using child_induction with
  | step v ih =>
  have same (child : Value) (among : child ∈ v.children) :
      child.write early = child.write late :=
    ih child among fun required => both (requiresExtended_iff.mpr (.inr ⟨child, among, required⟩))
  cases v with
  | null => rw [write_null, write_null]
  | boolean b => rw [write_boolean, write_boolean]
  | integer i => rw [write_integer, write_integer]
  | float x => rw [write_float, write_float]
  | string s => rw [write_string, write_string]
  | list items =>
    rw [write_list, write_list]
    exact writeListWith_congr same
  | map d => rw [write_map, write_map, dict_write_congr same]
  | node n => exact write_node_congr same
  | relationship r => rw [write_relationship, write_relationship, dict_write_congr same]
  | unboundRelationship r => exact write_unbound_congr same
  | path p =>
    have nodes (n : Node Value) (among : n ∈ p.nodes) :
        (node n).write early = (node n).write late :=
      write_node_congr fun x held =>
        same x (List.mem_append_left _ (List.mem_flatMap.mpr ⟨n, among, held⟩))
    have unbounds (r : UnboundRelationship Value) (among : r ∈ p.relationships) :
        (unboundRelationship r).write early = (unboundRelationship r).write late :=
      write_unbound_congr fun x held =>
        same x (List.mem_append_right _ (List.mem_flatMap.mpr ⟨r, among, held⟩))
    rw [write_path, write_path, writeListWith_congr nodes, writeListWith_congr unbounds]
  | bytes | point2D | point3D | date | time | localTime | localDateTime | dateTime | zonedDateTime
  | duration =>
    obtain ⟨has, has'⟩ := both (requiresExtended_iff.mpr (.inl rfl))
    rw [write.eq_def early, if_neg (available_later has), write.eq_def late,
      if_neg (available_later has')]

end Value

end Alike

/-! ## What is read alike -/

namespace Wire

section Reading

variable {α β : Type}

def Follows (first second : Reader α) : Prop :=
  ∀ cursor a after, first cursor = .ok a after → second cursor = .ok a after

theorem follows_refl {read : Reader α} : Follows read read := fun _ _ _ given => given

theorem follows_bind {first second : Reader α} {next next' : α → Reader β}
    (early : Follows first second) (late : ∀ a, Follows (next a) (next' a)) :
    Follows (first >>= next) (second >>= next') := by
  intro cursor b after given
  obtain ⟨a, between, came, given⟩ := sequence_given.mp given
  exact sequence_given.mpr ⟨a, between, early cursor a between came, late a between b after given⟩

theorem follows_throw {e : ProtocolError} {second : Reader α} : Follows (throw e) second :=
  fun _ _ _ given => nomatch given

theorem follows_leaving {first second : Reader α} (inside : Follows first second) :
    Follows (Reader.leaving first) (Reader.leaving second) := by
  intro cursor a after given
  obtain ⟨between, came, ended⟩ := leaving_given.mp given
  exact leaving_given.mpr ⟨between, inside cursor a between came, ended⟩

/-- A version reads what another reads that has no more types. -/
theorem follows_compositional {early late : Version}
    (more : early.hasExtendedValues = true → late.hasExtendedValues = true) :
    Compositional fun _ read => Follows (read early) (read late) where
  pure _ := follows_refl
  fail _ := follows_throw
  bind := follows_bind
  byte := follows_refl
  take _ := follows_refl
  require _ := follows_refl
  depth _ := follows_refl
  leaving := follows_leaving
  extended _ inside := by
    dsimp only
    by_cases has : early.hasExtendedValues = true
    · rw [if_pos has, if_pos (more has)]
      exact inside
    · rw [if_neg has]
      exact follows_throw

/-! ## Errors in reading -/

def FailsFatally (read : Reader α) : Prop :=
  ∀ cursor e after, read cursor = .error e after → e.isFatal = true

theorem fatal_pure (a : α) : FailsFatally (pure a) := fun _ _ _ failed => nomatch failed

theorem fatal_throw {e : ProtocolError} (fatal : e.isFatal = true) :
    FailsFatally (throw e : Reader α) := by
  intro cursor e after failed
  cases failed
  exact fatal

theorem fatal_bind {read : Reader α} {next : α → Reader β} (first : FailsFatally read)
    (further : ∀ a, FailsFatally (next a)) : FailsFatally (read >>= next) := by
  intro cursor e after failed
  rcases sequence_failed.mp failed with failed | ⟨a, between, -, failed⟩
  · exact first cursor e after failed
  · exact further a between e after failed

theorem fatal_depth (change : Nat → Nat) :
    FailsFatally (modify fun cursor : Cursor => { cursor with depth := change cursor.depth }) :=
  fun _ _ _ failed => nomatch failed

theorem fatal_leaving {body : Reader α} (inside : FailsFatally body) :
    FailsFatally (Reader.leaving body) := by
  intro cursor e after failed
  obtain ⟨between, came, -⟩ := leaving_failed.mp failed
  exact inside cursor e between came

theorem fatal_byte : FailsFatally Reader.byte := by
  intro cursor e after failed
  unfold Reader.byte at failed
  split at failed <;> cases failed
  rfl

theorem fatal_take (count : Nat) : FailsFatally (Reader.take count) := by
  intro cursor e after failed
  unfold Reader.take at failed
  dsimp only at failed
  split at failed <;> cases failed
  rfl

theorem fatal_require (count : Nat) : FailsFatally (Reader.require count) := by
  intro cursor e after failed
  unfold Reader.require at failed
  dsimp only at failed
  split at failed <;> cases failed
  rfl

theorem fatal_finish : FailsFatally Reader.finish := by
  intro cursor e after failed
  unfold Reader.finish at failed
  split at failed <;> cases failed
  rfl

theorem judges_fatal {e : ProtocolError} (judges : e.judgesBytes = true) : e.isFatal = true := by
  cases e with
  | unsupported | invalidRequest => cases judges
  | _ => rfl

theorem fatal_compositional (version : Version) :
    Compositional fun _ read => FailsFatally (read version) where
  pure := fatal_pure
  fail verdict := fatal_throw (judges_fatal (verdict version))
  bind := fatal_bind
  byte := fatal_byte
  take := fatal_take
  require := fatal_require
  depth := fatal_depth
  leaving := fatal_leaving
  extended verdict inside := by
    dsimp only
    split
    · exact inside
    · exact fatal_throw (judges_fatal (verdict version))

end Reading

end Wire

/-! ## The versions compared -/

namespace Value

variable {version early late : Version} {bytes : List UInt8} {v : Value}

theorem encode_given : (∃ bytes, v.encode version = .ok bytes) ↔ v.IsSendable version := by
  rw [← write_clear]
  unfold encode Written.result
  cases (v.write version).abort <;> simp

theorem encode_aborted {abort : Abort ProtocolError} : v.encode version = .error abort ↔
    ∃ met, (v.write version).abort = some met ∧ met.map .unsupported = abort := by
  unfold encode Written.result
  cases (v.write version).abort <;> simp

theorem encode_refused {e : ProtocolError} (refused : v.encode version = .error (.error e)) :
    ∃ cause, e = .unsupported cause := by
  obtain ⟨met, -, is⟩ := encode_aborted.mp refused
  cases met with
  | error cause =>
    cases is
    exact ⟨cause, rfl⟩
  | breakdown => cases is

/-- A version that has the types of a countable value breaks down over a local clock that is out of
range. -/
theorem encode_unshown (countable : v.isCountable = true) (unshown : v.hasLocalTimes = false)
    (available : v.requiresExtended = true → version.hasExtendedValues = true) :
    v.encode version = .error .breakdown := by
  cases met : (v.write version).abort with
  | none => cases unshown.symm.trans (write_clear.mp met).shown
  | some abort =>
    refine encode_aborted.mpr ⟨abort, met, ?_⟩
    rw [write_unrefused countable available abort met]
    rfl

theorem encode_prepared (shown : version.hasExtendedValues = true → v.hasLocalTimes = true) :
    v.encode version ≠ .error .breakdown := by
  intro broken
  obtain ⟨met, stands, is⟩ := encode_aborted.mp broken
  cases met with
  | error cause => cases is
  | breakdown => exact write_prepared shown _ stands rfl

theorem encode_alike {bytes' : List UInt8} (first : v.encode early = .ok bytes)
    (second : v.encode late = .ok bytes') : bytes = bytes' := by
  have sendable := encode_given.mp ⟨bytes, first⟩
  have sendable' := encode_given.mp ⟨bytes', second⟩
  have same : v.write early = v.write late := write_congr fun required =>
    ⟨sendable.available required, sendable'.available required⟩
  unfold encode at first second
  rw [same, second] at first
  cases first
  rfl

theorem decode_more (more : early.hasExtendedValues = true → late.hasExtendedValues = true)
    (given : Value.decode early bytes = .ok v) : Value.decode late bytes = .ok v := by
  obtain ⟨depth, read⟩ := decode_given.mp given
  exact decode_given.mpr
    ⟨depth, (follows_compositional more).valueWithin maxDepth (.start bytes) v _ read⟩

theorem decode_fatal {e : ProtocolError} (failed : Value.decode version bytes = .error e) :
    e.isFatal = true := by
  obtain ⟨after, came⟩ := outcome_failed.mp failed
  have inside : FailsFatally (Reader.value version) := fun cursor =>
    (fatal_compositional version).valueWithin (maxDepth - cursor.depth) cursor
  have whole : FailsFatally (do
      let v ← Reader.value version
      Reader.finish
      return v) :=
    fatal_bind inside fun v => fatal_bind fatal_finish fun _ => fatal_pure v
  exact whole _ e after came

/-- What has been decoded has no type that the version lacks. -/
theorem decode_available (given : Value.decode version bytes = .ok v) : v.IsSendable version :=
  write_clear.mp (decode_written given).1

def sampleUnshown : Value :=
  .dateTime ⟨⟨Calendar.lastSecond, 0, by decide, by decide⟩, ⟨3600, by decide, by decide⟩⟩

end Value

end GraphProtocol
