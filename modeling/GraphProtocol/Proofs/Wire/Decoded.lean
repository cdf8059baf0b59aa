import GraphProtocol.Proofs.Value.Entries
import GraphProtocol.Proofs.Value.Nesting
import GraphProtocol.Proofs.Wire.Compositional

/-!
# What readers give

Whatever the bytes are, a value that is read nests no deeper than the levels that
were left, its maps have distinct keys, and none of its times is within a leap
second.
-/

set_option autoImplicit false

namespace GraphProtocol.Wire

/-! ## What a reader gives -/

section Yields

variable {α β : Type}

structure Yields (read : Reader α) (good : α → Prop) : Prop where
  given : ∀ cursor a after, read cursor = .ok a after → good a

variable {read : Reader α} {next : α → Reader β} {good : α → Prop} {fine : β → Prop}

theorem yields_any : Yields read fun _ => True := ⟨fun _ _ _ _ => trivial⟩

theorem yields_pure {a : α} (is : good a) : Yields (pure a) good := by
  constructor
  intro cursor b after given
  cases given
  exact is

theorem yields_throw {e : ProtocolError} : Yields (throw e) good := by
  constructor
  intro cursor b after given
  cases given

theorem yields_bind (first : Yields read good) (further : ∀ a, good a → Yields (next a) fine) :
    Yields (read >>= next) fine := by
  constructor
  intro cursor b after given
  obtain ⟨a, between, came, given⟩ := sequence_given.mp given
  exact (further a (first.given cursor a between came)).given between b after given

/-- The work before does not matter. -/
theorem yields_past (further : ∀ a, Yields (next a) fine) : Yields (read >>= next) fine :=
  yields_bind yields_any fun a _ => further a

theorem yields_orMalformed {value : Option α} {cause : Malformation}
    (is : ∀ a, value = some a → good a) : Yields (Reader.orMalformed value cause) good := by
  cases value with
  | none => exact yields_throw
  | some a => exact yields_pure (is a rfl)

theorem yields_items {count : Nat} (each : Yields read good) :
    Yields (Reader.items read count) fun items => ∀ x ∈ items, good x := by
  have onto (done : List α) (before : ∀ x ∈ done, good x) :
      Yields (Reader.itemsOnto read count done) fun items => ∀ x ∈ items, good x := by
    induction count generalizing done with
    | zero => exact yields_pure fun x among => before x (List.mem_reverse.mp among)
    | succ count ih =>
      unfold Reader.itemsOnto
      apply yields_bind each
      intro a is
      apply ih
      intro x among
      rcases List.mem_cons.mp among with rfl | old
      · exact is
      · exact before x old
  exact onto [] nofun

theorem yields_enter {inner : Option (Reader Value)} {body : Reader Value → Reader α}
    (inside : ∀ read, inner = some read → Yields (body read) good) :
    Yields (Reader.enter inner body) good := by
  unfold Reader.enter
  apply yields_past
  intro _
  cases inner with
  | none => exact yields_throw
  | some read => exact inside read rfl

theorem yields_leaving {body : Reader α} (inside : Yields body good) :
    Yields (Reader.leaving body) good := by
  constructor
  intro cursor a after given
  obtain ⟨between, came, -⟩ := leaving_given.mp given
  exact inside.given cursor a between came

theorem yields_expecting {source : Reader Value} {expected : ValueType} {as? : Value → Option α}
    {is : Value → Prop} (first : Yields source is) (keeps : ∀ v a, is v → as? v = some a → good a) :
    Yields (Reader.expecting source expected as?) good := by
  unfold Reader.expecting
  apply yields_bind first
  intro v given
  cases found : as? v with
  | none => exact yields_throw
  | some a => exact yields_pure (keeps v a given found)

end Yields

/-! ## Values that are read -/

/-- What a reader gives that may still enter so many levels. -/
structure Legible (levels : Nat) (v : Value) : Prop where
  nesting : v.nesting ≤ levels
  regular : v.IsRegular

section Legible

variable {levels : Nat}

/-- A value that holds no map and no value. -/
theorem regular_bare {v : Value} (dicts : v.dicts = []) (children : v.children = [])
    (whole : ∀ nanos, v.nanos? = some nanos → nanos < Calendar.nanosPerSecond) : v.IsRegular := by
  apply Value.regular_iff.mpr
  rw [dicts, children]
  exact ⟨List.forall_mem_nil _, whole, List.forall_mem_nil _⟩

theorem legible_flat {v : Value} (flat : v.type.opensLevel = false) : Legible levels v := by
  cases v with
  | null | boolean | integer | float | string | bytes =>
    constructor
    · rw [Value.nesting]
      exact Nat.zero_le _
    · apply regular_bare rfl rfl
      intro nanos is
      cases is
  | _ => cases flat

theorem legible_list {items : List Value} (each : ∀ x ∈ items, Legible levels x) :
    Legible (levels + 1) (.list items) where
  nesting := Value.nesting_list_le.mpr fun x among => (each x among).nesting
  regular := Value.regular_iff.mpr ⟨nofun, nofun, fun x among => (each x among).regular⟩

theorem list_legible {items : List Value} (whole : Legible levels (.list items)) :
    ∃ below, levels = below + 1 ∧ ∀ x ∈ items, Legible below x := by
  obtain ⟨below, rfl⟩ := Value.level_within whole.nesting rfl
  obtain ⟨-, -, regular⟩ := Value.regular_iff.mp whole.regular
  have room := Value.nesting_list_le.mp whole.nesting
  exact ⟨below, rfl, fun x among => ⟨room x among, regular x among⟩⟩

theorem legible_map {d : Dict Value} (distinct : d.DistinctKeys)
    (each : ∀ x ∈ d.values, Legible levels x) : Legible (levels + 1) (.map d) where
  nesting := Value.nesting_map_le.mpr fun x among => (each x among).nesting
  regular := Value.regular_iff.mpr
    ⟨by simpa [Value.dicts] using distinct, nofun, fun x among => (each x among).regular⟩

theorem map_legible {d : Dict Value} (whole : Legible levels (.map d)) :
    ∃ below, levels = below + 1 ∧ d.DistinctKeys ∧ ∀ x ∈ d.values, Legible below x := by
  obtain ⟨below, rfl⟩ := Value.level_within whole.nesting rfl
  obtain ⟨distinct, -, regular⟩ := Value.regular_iff.mp whole.regular
  have room := Value.nesting_map_le.mp whole.nesting
  exact ⟨below, rfl, distinct d List.mem_cons_self, fun x among => ⟨room x among, regular x among⟩⟩

/-- An entity opens one level more than its properties. -/
theorem legible_entity {v : Value} {d : Dict Value} (dicts : v.dicts = [d])
    (children : v.children = d.values) (timeless : v.nanos? = none)
    (room : ∀ below, (∀ x ∈ d.values, x.nesting ≤ below) → v.nesting ≤ below + 2)
    (properties : Legible levels (.map d)) : Legible (levels + 1) v := by
  obtain ⟨below, rfl, distinct, each⟩ := map_legible properties
  constructor
  · exact room below fun x among => (each x among).nesting
  · apply Value.regular_iff.mpr
    rw [dicts, children, timeless]
    exact ⟨by simpa using distinct, nofun, fun x among => (each x among).regular⟩

theorem legible_node {n : Node Value} (properties : Legible levels (.map n.properties)) :
    Legible (levels + 1) (.node n) :=
  legible_entity rfl rfl rfl (fun _ => Value.nesting_node_le.mpr) properties

theorem legible_relationship {r : Relationship Value}
    (properties : Legible levels (.map r.properties)) : Legible (levels + 1) (.relationship r) :=
  legible_entity rfl rfl rfl (fun _ => Value.nesting_relationship_le.mpr) properties

theorem legible_unbound {r : UnboundRelationship Value}
    (properties : Legible levels (.map r.properties)) :
    Legible (levels + 1) (.unboundRelationship r) :=
  legible_entity rfl rfl rfl (fun _ => Value.nesting_unbound_le.mpr) properties

theorem legible_path {p : Path Value} (nodes : ∀ n ∈ p.nodes, Legible levels (.node n))
    (unbounds : ∀ r ∈ p.relationships, Legible levels (.unboundRelationship r)) :
    Legible (levels + 2) (.path p) where
  nesting := Value.nesting_path_le.mpr
    ⟨fun n among => (nodes n among).nesting, fun r among => (unbounds r among).nesting⟩
  regular := by
    have inside (n : Node Value) (among : n ∈ p.nodes) :=
      Value.regular_iff.mp (nodes n among).regular
    have inside' (r : UnboundRelationship Value) (among : r ∈ p.relationships) :=
      Value.regular_iff.mp (unbounds r among).regular
    refine Value.regular_iff.mpr ⟨?_, nofun, ?_⟩
    · intro d among
      rcases List.mem_append.mp among with part | part <;>
        obtain ⟨e, within, rfl⟩ := List.mem_map.mp part
      · exact (inside e within).1 _ List.mem_cons_self
      · exact (inside' e within).1 _ List.mem_cons_self
    · intro x among
      rcases List.mem_append.mp among with part | part <;>
        obtain ⟨e, within, held⟩ := List.mem_flatMap.mp part
      · exact (inside e within).2.2 x held
      · exact (inside' e within).2.2 x held

/-- A value of the later versions has no parts that are values. -/
theorem legible_extended {v : Value} (extended : v.type.isExtended = true)
    (whole : ∀ nanos, v.nanos? = some nanos → nanos < Calendar.nanosPerSecond) :
    Legible (levels + 1) v := by
  cases v with
  | null | boolean | integer | float | string | list | map | node | relationship
  | unboundRelationship | path => cases extended
  | bytes => exact legible_flat rfl
  | point2D | point3D | date | time | localTime | localDateTime | dateTime | zonedDateTime
  | duration =>
    constructor
    · rw [Value.nesting]
      exact around_le.mpr (List.forall_mem_nil _)
    · exact regular_bare rfl rfl whole

theorem legible_timed {v : Value} {nanos : Nat} (extended : v.type.isExtended = true)
    (is : v.nanos? = some nanos) (whole : nanos < Calendar.nanosPerSecond) :
    Legible (levels + 1) v := by
  apply legible_extended extended
  intro other same
  cases is.symm.trans same
  exact whole

end Legible

/-! ## Calendar values -/

section Calendars

open Calendar

theorem yields_time (n : Int64) : Yields (Reader.timeOf n) fun t => t.nanos < nanosPerSecond := by
  apply yields_orMalformed
  intro t is
  unfold TimeOfDay.ofNanosOfDay? TimeOfDay.of? at is
  split at is
  · split at is
    · cases is
      exact Nat.mod_lt _ (by decide)
    · cases is
  · cases is

theorem yields_localDateTime (second nanos : Int64) :
    Yields (Reader.localDateTimeOf second nanos) fun t => t.nanos < nanosPerSecond := by
  unfold Reader.localDateTimeOf
  split
  · next fits =>
    apply yields_orMalformed
    intro t is
    unfold LocalDateTime.of? at is
    split at is
    · cases is
      change nanos.toInt.toNat < nanosPerSecond
      omega
    · cases is
  · exact yields_throw

end Calendars

/-! ## Structures and collections -/

/-- Where converted elements come from. -/
theorem mapM_sources {α β : Type} {convert : β → Except Malformation α} {item : α → β}
    (source : ∀ v x, convert v = .ok x → v = item x) {values : List β} {converted : List α}
    (all : values.mapM convert = .ok converted) : values = converted.map item := by
  induction values generalizing converted with
  | nil => cases all; rfl
  | cons v rest ih =>
    rw [List.mapM_cons] at all
    cases first : convert v with
    | error cause => rw [first] at all; cases all
    | ok x =>
      rw [first] at all
      cases others : rest.mapM convert with
      | error cause => rw [others] at all; cases all
      | ok xs =>
        rw [others] at all
        cases all
        rw [List.map_cons, source v x first, ih others]

section Parts

variable {levels : Nat} {read : Reader Value} (inside : Yields read (Legible levels))
include inside

theorem yields_list : Yields (Reader.listBy read) fun items => Legible levels (.list items) := by
  apply yields_expecting inside
  intro v items is found
  cases v with
  | list => cases found; exact is
  | _ => cases found

theorem yields_map : Yields (Reader.mapBy read) fun d => Legible levels (.map d) := by
  apply yields_expecting inside
  intro v d is found
  cases v with
  | map => cases found; exact is
  | _ => cases found

/-- The elements of a converted list are one level further down. -/
theorem yields_listOf {α : Type} {convert : Value → Except Malformation α} (item : α → Value)
    (source : ∀ v x, convert v = .ok x → v = item x) :
    Yields (Reader.listOfBy read convert) fun items =>
      ∃ below, levels = below + 1 ∧ ∀ x ∈ items, Legible below (item x) := by
  unfold Reader.listOfBy
  apply yields_bind (yields_list inside)
  intro values whole
  cases all : values.mapM convert with
  | error cause => exact yields_throw
  | ok converted =>
    apply yields_pure
    obtain rfl := mapM_sources source all
    obtain ⟨below, rfl, each⟩ := list_legible whole
    exact ⟨below, rfl, fun x among => each _ (List.mem_map_of_mem among)⟩

theorem yields_node : Yields (Reader.nodeFields read) fun n => Legible (levels + 1) (.node n) := by
  unfold Reader.nodeFields
  apply yields_past
  intro id
  apply yields_past
  intro labels
  apply yields_bind (yields_map inside)
  intro properties whole
  exact yields_pure (legible_node whole)

theorem yields_unbound : Yields (Reader.unboundFields read) fun r =>
    Legible (levels + 1) (.unboundRelationship r) := by
  unfold Reader.unboundFields
  apply yields_past
  intro id
  apply yields_past
  intro type
  apply yields_bind (yields_map inside)
  intro properties whole
  exact yields_pure (legible_unbound whole)

theorem yields_relationship : Yields (Reader.relationshipFields read) fun r =>
    Legible (levels + 1) (.relationship r) := by
  unfold Reader.relationshipFields
  apply yields_past
  intro id
  apply yields_past
  intro startNode
  apply yields_past
  intro endNode
  apply yields_past
  intro type
  apply yields_bind (yields_map inside)
  intro properties whole
  exact yields_pure (legible_relationship whole)

theorem yields_path : Yields (Reader.pathFields read) fun p => Legible (levels + 1) (.path p) := by
  unfold Reader.pathFields
  apply yields_bind (yields_listOf inside Value.node ?_)
  · rintro nodes ⟨below, rfl, nodes'⟩
    apply yields_bind (yields_listOf inside Value.unboundRelationship ?_)
    · rintro unbounds ⟨_, ⟨⟩, unbounds'⟩
      apply yields_past
      intro indices
      exact yields_pure (legible_path nodes' unbounds')
    · intro v r converted
      cases v <;> cases converted
      rfl
  · intro v n converted
    cases v <;> cases converted
    rfl

/-- A structure is one level above its fields. -/
theorem yields_fields (kind : StructureKind) :
    Yields (Reader.fieldsOf read kind) (Legible (levels + 1)) := by
  cases kind with
  | node =>
    apply yields_bind (yields_node inside)
    exact fun n whole => yields_pure whole
  | relationship =>
    apply yields_bind (yields_relationship inside)
    exact fun r whole => yields_pure whole
  | unboundRelationship =>
    apply yields_bind (yields_unbound inside)
    exact fun r whole => yields_pure whole
  | path =>
    apply yields_bind (yields_path inside)
    exact fun p whole => yields_pure whole
  | point2D =>
    iterate 3 (apply yields_past; intro _)
    exact yields_pure (legible_extended rfl nofun)
  | point3D =>
    iterate 4 (apply yields_past; intro _)
    exact yields_pure (legible_extended rfl nofun)
  | date =>
    iterate 2 (apply yields_past; intro _)
    exact yields_pure (legible_extended rfl nofun)
  | duration =>
    iterate 4 (apply yields_past; intro _)
    exact yields_pure (legible_extended rfl nofun)
  | time =>
    iterate 2 (apply yields_past; intro _)
    apply yields_bind (yields_time _)
    intro t whole
    apply yields_past
    intro offset
    exact yields_pure (legible_timed rfl rfl whole)
  | localTime =>
    apply yields_past
    intro n
    apply yields_bind (yields_time n)
    intro t whole
    exact yields_pure (legible_timed rfl rfl whole)
  | localDateTime =>
    iterate 2 (apply yields_past; intro _)
    apply yields_bind (yields_localDateTime _ _)
    intro t whole
    exact yields_pure (legible_timed rfl rfl whole)
  | dateTime =>
    iterate 3 (apply yields_past; intro _)
    apply yields_past
    intro offset
    apply yields_bind (yields_localDateTime _ _)
    intro wall whole
    have kept : Yields (Reader.orMalformed (Calendar.DateTime.of? wall offset) .dateTimeOutOfRange)
        fun t => t.utc.nanos < Calendar.nanosPerSecond := by
      apply yields_orMalformed
      intro t is
      obtain ⟨shown, -⟩ := Calendar.DateTime.of?_eq_some.mp is
      rwa [← (Calendar.DateTime.wall?_eq_some.mp shown).2]
    apply yields_bind kept
    intro t whole
    exact yields_pure (legible_timed rfl rfl whole)
  | zonedDateTime =>
    iterate 3 (apply yields_past; intro _)
    apply yields_bind (yields_localDateTime _ _)
    intro t whole
    exact yields_pure (legible_timed rfl rfl whole)

theorem yields_entry : Yields (Reader.entry read) fun entry => Legible levels entry.2 := by
  unfold Reader.entry
  apply yields_past
  intro key
  cases key with
  | string key =>
    apply yields_bind inside
    exact fun x whole => yields_pure whole
  | _ => exact yields_throw

theorem yields_structure (version : Version) (fields : Nat) (signature : UInt8) :
    Yields (Reader.structureBody version read fields signature) (Legible (levels + 1)) := by
  unfold Reader.structureBody
  split
  · exact yields_throw
  · split
    · exact yields_fields inside _
    · exact yields_throw

end Parts

/-! ## Values -/

section Values

variable {version : Version} {inner : Option (Reader Value)} {levels : Nat}
  (below : ∀ read, inner = some read → ∃ fewer, levels = fewer + 1 ∧ Yields read (Legible fewer))
include below

theorem yields_listBody (size : Nat) :
    Yields (Reader.listBody inner size) fun items => Legible levels (.list items) := by
  unfold Reader.listBody
  apply yields_past
  intro _
  apply yields_enter
  intro read is
  obtain ⟨fewer, rfl, inside⟩ := below read is
  apply yields_bind (yields_items inside)
  intro items each
  apply yields_past
  intro _
  exact yields_pure (legible_list each)

theorem yields_mapBody (size : Nat) :
    Yields (Reader.mapBody inner size) fun d => Legible levels (.map d) := by
  unfold Reader.mapBody
  apply yields_past
  intro _
  apply yields_enter
  intro read is
  obtain ⟨fewer, rfl, inside⟩ := below read is
  apply yields_bind (yields_items (yields_entry inside))
  intro entries each
  apply yields_past
  intro _
  apply yields_pure
  apply legible_map (Dict.distinct_ofList entries)
  intro x among
  obtain ⟨entry, held, rfl⟩ := List.mem_map.mp among
  exact each entry (Dict.mem_ofList held)

/-- With a reader for one level less, if there is one, the levels suffice. -/
theorem yields_value : Yields (Reader.valueBy version inner) (Legible levels) := by
  unfold Reader.valueBy
  apply yields_past
  intro b
  split
  · exact yields_pure (legible_flat rfl)
  · exact yields_pure (legible_flat rfl)
  · exact yields_past fun _ => yields_pure (legible_flat rfl)
  · exact yields_pure (legible_flat rfl)
  · exact yields_past fun _ => yields_pure (legible_flat rfl)
  · iterate 2 (apply yields_past; intro _)
    exact yields_pure (legible_flat rfl)
  · split
    · iterate 2 (apply yields_past; intro _)
      exact yields_pure (legible_flat rfl)
    · exact yields_throw
  · apply yields_past
    intro size
    apply yields_bind (yields_listBody below size)
    exact fun items whole => yields_pure whole
  · apply yields_past
    intro size
    apply yields_bind (yields_mapBody below size)
    exact fun d whole => yields_pure whole
  · apply yields_past
    rintro ⟨fields, signature⟩
    apply yields_enter
    intro read is
    obtain ⟨fewer, rfl, inside⟩ := below read is
    exact yields_leaving (yields_structure inside version fields signature)
  · exact yields_throw

end Values

/-- A value that is read nests no deeper than it may, its maps have distinct keys, and it has no
leap second. -/
theorem yields_within (version : Version) (levels : Nat) :
    Yields (Reader.valueWithin version levels) (Legible levels) := by
  -- By induction on the levels left, as the reader inside has one less.
  induction levels with
  | zero => exact yields_value nofun
  | succ levels ih =>
    apply yields_value
    rintro read ⟨⟩
    exact ⟨levels, rfl, ih⟩

end GraphProtocol.Wire
