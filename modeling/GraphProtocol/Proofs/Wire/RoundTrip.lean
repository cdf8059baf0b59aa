import Mathlib
import GraphProtocol.Proofs.Wire.Decoded
import GraphProtocol.Proofs.Wire.Structures

/-!
# What is written is read back

A value travels in certain bytes if it is read back from them at every level that
leaves room for its nesting. Collections and graph entities travel if what they hold
travels. So every value travels that has distinct keys and no leap second.
-/

set_option autoImplicit false

namespace GraphProtocol

open Wire

namespace Wire

variable {version : Version}

def Travels (version : Version) (w : Written) (v : Value) : Prop :=
  ∀ levels, v.nesting ≤ levels → Carries (Reader.valueWithin version levels) w v

/-- A reader for values reads them the same way at any level. -/
theorem valueWithin_by (version : Version) (levels : Nat) :
    ∃ inner, Reader.valueWithin version levels = Reader.valueBy version inner := by
  cases levels with
  | zero => exact ⟨none, rfl⟩
  | succ levels => exact ⟨some (Reader.valueWithin version levels), rfl⟩

theorem travels_flat {w : Written} {v : Value}
    (carried : ∀ inner, Carries (Reader.valueBy version inner) w v) : Travels version w v := by
  intro levels _
  obtain ⟨inner, same⟩ := valueWithin_by version levels
  rw [same]
  exact carried inner

/-- One level down there is a reader for values again. -/
theorem carries_below {levels : Nat} {w : Written} {v : Value}
    (carried : ∀ inner, Reader.valueWithin version levels = Reader.valueBy version inner →
      Carries (Reader.valueBy version (some (Reader.valueBy version inner))) w v) :
    Carries (Reader.valueWithin version (levels + 1)) w v := by
  obtain ⟨inner, same⟩ := valueWithin_by version levels
  change Carries (Reader.valueBy version (some (Reader.valueWithin version levels))) _ _
  rw [same]
  exact carried inner same

/-! ## Collections -/

theorem travels_list {items : List Value} {write : (x : Value) → x ∈ items → Written}
    (each : ∀ x (h : x ∈ items), Travels version (write x h) x) :
    Travels version (writeListWith items write) (.list items) := by
  intro levels within
  obtain ⟨below, rfl⟩ := Value.level_within within rfl
  have room := Value.nesting_list_le.mp within
  apply carries_below
  intro inner same
  have carried := carries_list id fun x h => same ▸ each x h below (room x h)
  rwa [List.map_id] at carried

theorem travels_map {d : Dict Value} {write : (x : Value) → x ∈ d.values → Written}
    (distinct : d.DistinctKeys) (each : ∀ x (h : x ∈ d.values), Travels version (write x h) x) :
    Travels version (writeDictWith d write) (.map d) := by
  intro levels within
  obtain ⟨below, rfl⟩ := Value.level_within within rfl
  have room := Value.nesting_map_le.mp within
  apply carries_below
  intro inner same
  exact carries_dict distinct fun x h => same ▸ each x h below (room x h)

/-! ## Graph entities -/

/-- The fields of an entity are one level down, and its properties two. -/
theorem carries_entity {kind : StructureKind} {levels : Nat} {w : Written} {v : Value}
    (plain : kind.isExtended = false)
    (fields : ∀ inner, Reader.valueWithin version levels = Reader.valueBy version inner →
      Carries (Reader.fieldsOf (Reader.valueBy version (some (Reader.valueBy version inner))) kind)
        w v) :
    Carries (Reader.valueWithin version (levels + 2)) (writeHeader kind ++ w) v := by
  obtain ⟨inner, same⟩ := valueWithin_by version levels
  change Carries (Reader.valueBy version
    (some (Reader.valueBy version (some (Reader.valueWithin version levels))))) _ _
  rw [same]
  apply carries_structure
  · rw [plain]
    rintro ⟨⟩
  · exact fields inner same

theorem travels_node {n : Node Value} {write : (x : Value) → x ∈ n.properties.values → Written}
    (distinct : n.properties.DistinctKeys)
    (each : ∀ x (h : x ∈ n.properties.values), Travels version (write x h) x) :
    Travels version (writeNodeWith n write) (.node n) := by
  intro levels within
  obtain ⟨below, rfl⟩ := Value.entity_within within (.inl rfl)
  have room := Value.nesting_node_le.mp within
  unfold writeNodeWith
  rw [Written.append_assoc, Written.append_assoc]
  apply carries_entity rfl
  intro inner same
  apply carries_wrap Value.node
  apply carries_bind (carries_integerBy n.id)
  apply carries_bind (carries_listOfBy Value.string (fun s _ => carries_string s) fun _ _ => rfl)
  have properties := carries_mapBy distinct fun x h => same ▸ each x h below (room x h)
  exact carries_wrap (Node.mk n.id n.labels) properties

theorem travels_unbound {r : UnboundRelationship Value}
    {write : (x : Value) → x ∈ r.properties.values → Written}
    (distinct : r.properties.DistinctKeys)
    (each : ∀ x (h : x ∈ r.properties.values), Travels version (write x h) x) :
    Travels version (writeUnboundWith r write) (.unboundRelationship r) := by
  intro levels within
  obtain ⟨below, rfl⟩ := Value.entity_within within (.inr (.inr (.inl rfl)))
  have room := Value.nesting_unbound_le.mp within
  unfold writeUnboundWith
  rw [Written.append_assoc, Written.append_assoc]
  apply carries_entity rfl
  intro inner same
  apply carries_wrap Value.unboundRelationship
  apply carries_bind (carries_integerBy r.id)
  apply carries_bind (carries_stringBy r.type)
  have properties := carries_mapBy distinct fun x h => same ▸ each x h below (room x h)
  exact carries_wrap (UnboundRelationship.mk r.id r.type) properties

theorem travels_relationship {r : Relationship Value}
    {write : (x : Value) → x ∈ r.properties.values → Written}
    (distinct : r.properties.DistinctKeys)
    (each : ∀ x (h : x ∈ r.properties.values), Travels version (write x h) x) :
    Travels version (writeHeader .relationship ++ writeInteger r.id ++ writeInteger r.startNode ++
      writeInteger r.endNode ++ writeString r.type ++ writeDictWith r.properties write)
      (.relationship r) := by
  intro levels within
  obtain ⟨below, rfl⟩ := Value.entity_within within (.inr (.inl rfl))
  have room := Value.nesting_relationship_le.mp within
  simp only [Written.append_assoc]
  apply carries_entity rfl
  intro inner same
  apply carries_wrap Value.relationship
  apply carries_bind (carries_integerBy r.id)
  apply carries_bind (carries_integerBy r.startNode)
  apply carries_bind (carries_integerBy r.endNode)
  apply carries_bind (carries_stringBy r.type)
  have properties := carries_mapBy distinct fun x h => same ▸ each x h below (room x h)
  exact carries_wrap (Relationship.mk r.id r.startNode r.endNode r.type) properties

/-- The nodes and relationships of a path are values two levels down. -/
theorem travels_path {p : Path Value} {writeNode : (n : Node Value) → n ∈ p.nodes → Written}
    {writeUnbound : (r : UnboundRelationship Value) → r ∈ p.relationships → Written}
    (nodes : ∀ n (h : n ∈ p.nodes), Travels version (writeNode n h) (.node n))
    (unbounds : ∀ r (h : r ∈ p.relationships),
      Travels version (writeUnbound r h) (.unboundRelationship r)) :
    Travels version (writeHeader .path ++ writeListWith p.nodes writeNode ++
      writeListWith p.relationships writeUnbound ++
      writeListWith p.indices fun i _ => writeInteger i) (.path p) := by
  intro levels within
  obtain ⟨below, rfl⟩ := Value.entity_within within (.inr (.inr (.inr rfl)))
  obtain ⟨room, room'⟩ := Value.nesting_path_le.mp within
  simp only [Written.append_assoc]
  apply carries_entity rfl
  intro inner same
  apply carries_wrap Value.path
  apply carries_bind (carries_listOfBy Value.node
    (fun n h => same ▸ nodes n h below (room n h)) fun _ _ => rfl)
  apply carries_bind (carries_listOfBy Value.unboundRelationship
    (fun r h => same ▸ unbounds r h below (room' r h)) fun _ _ => rfl)
  exact carries_wrap (Path.mk p.nodes p.relationships)
    (carries_listOfBy Value.integer (fun i _ => carries_integer i) fun _ _ => rfl)

/-! ## Points and calendar values -/

/-- A structure whose fields open no further level. -/
theorem travels_structure {kind : StructureKind} {w : Written} {v : Value}
    (known : kind.isExtended = true → version.hasExtendedValues = true)
    (opens : v.type.opensLevel = true)
    (fields : ∀ inner, Carries (Reader.fieldsOf (Reader.valueBy version inner) kind) w v) :
    Travels version (writeHeader kind ++ w) v := by
  intro levels within
  obtain ⟨below, rfl⟩ := Value.level_within within opens
  apply carries_below
  intro inner _
  exact carries_structure known (fields inner)

section Extended

variable (allowed : version.hasExtendedValues = true)
include allowed

theorem travels_point2D (p : Point2D) : Travels version (writeHeader .point2D ++
    writeInteger p.srid ++ writeFloat p.x ++ writeFloat p.y) (.point2D p) := by
  simp only [Written.append_assoc]
  apply travels_structure (fun _ => allowed) rfl
  intro inner
  apply carries_bind (carries_integerBy p.srid)
  apply carries_bind (carries_floatBy p.x)
  exact carries_wrap (fun y => Value.point2D ⟨p.srid, p.x, y⟩) (carries_floatBy p.y)

theorem travels_point3D (p : Point3D) : Travels version (writeHeader .point3D ++
    writeInteger p.srid ++ writeFloat p.x ++ writeFloat p.y ++ writeFloat p.z) (.point3D p) := by
  simp only [Written.append_assoc]
  apply travels_structure (fun _ => allowed) rfl
  intro inner
  apply carries_bind (carries_integerBy p.srid)
  apply carries_bind (carries_floatBy p.x)
  apply carries_bind (carries_floatBy p.y)
  exact carries_wrap (fun z => Value.point3D ⟨p.srid, p.x, p.y, z⟩) (carries_floatBy p.z)

theorem travels_date (d : Calendar.Date) :
    Travels version (writeHeader .date ++ writeCount d.day) (.date d) := by
  apply travels_structure (fun _ => allowed) rfl
  intro inner
  exact carries_then (carries_countBy d.day) (reads_wrap Value.date (reads_date d))

theorem travels_time (t : Calendar.OffsetTime) (regular : t.time.nanos < Calendar.nanosPerSecond) :
    Travels version (writeHeader .time ++ writeCount t.time.nanosOfDay ++
      writeCount t.offset.seconds) (.time t) := by
  simp only [Written.append_assoc]
  apply travels_structure (fun _ => allowed) rfl
  intro inner
  apply carries_bind (carries_countBy t.time.nanosOfDay)
  apply carries_then (carries_countBy t.offset.seconds)
  exact reads_bind (reads_time t.time regular)
    (reads_wrap (fun o => Value.time ⟨t.time, o⟩) (reads_offset t.offset))

theorem travels_localTime (t : Calendar.TimeOfDay) (regular : t.nanos < Calendar.nanosPerSecond) :
    Travels version (writeHeader .localTime ++ writeCount t.nanosOfDay) (.localTime t) := by
  apply travels_structure (fun _ => allowed) rfl
  intro inner
  exact carries_then (carries_countBy t.nanosOfDay)
    (reads_wrap Value.localTime (reads_time t regular))

theorem travels_localDateTime (t : Calendar.LocalDateTime)
    (regular : t.nanos < Calendar.nanosPerSecond) :
    Travels version (writeHeader .localDateTime ++ writeLocalDateTime t) (.localDateTime t) := by
  apply travels_structure (fun _ => allowed) rfl
  intro inner
  apply carries_bind (carries_countBy t.second)
  exact carries_then (carries_countBy t.nanos)
    (reads_wrap Value.localDateTime (reads_localDateTime t regular))

theorem travels_dateTime {t : Calendar.DateTime} {wall : Calendar.LocalDateTime}
    (shown : t.wall? = some wall) (regular : t.utc.nanos < Calendar.nanosPerSecond) :
    Travels version (writeHeader .dateTime ++ writeLocalDateTime wall ++
      writeCount t.offset.seconds) (.dateTime t) := by
  have same : wall.nanos = t.utc.nanos := (Calendar.DateTime.wall?_eq_some.mp shown).2
  unfold writeLocalDateTime
  simp only [Written.append_assoc]
  apply travels_structure (fun _ => allowed) rfl
  intro inner
  apply carries_bind (carries_countBy wall.second)
  apply carries_bind (carries_countBy wall.nanos)
  apply carries_then (carries_countBy t.offset.seconds)
  apply reads_bind (reads_offset t.offset)
  exact reads_bind (reads_localDateTime wall (same ▸ regular))
    (reads_wrap Value.dateTime (reads_dateTime shown))

theorem travels_zonedDateTime (t : Calendar.ZonedDateTime)
    (regular : t.wall.nanos < Calendar.nanosPerSecond) :
    Travels version (writeHeader .zonedDateTime ++ writeLocalDateTime t.wall ++
      writeString t.zone) (.zonedDateTime t) := by
  unfold writeLocalDateTime
  simp only [Written.append_assoc]
  apply travels_structure (fun _ => allowed) rfl
  intro inner
  apply carries_bind (carries_countBy t.wall.second)
  apply carries_bind (carries_countBy t.wall.nanos)
  apply carries_then (carries_stringBy t.zone)
  exact reads_wrap (fun wall => Value.zonedDateTime ⟨wall, t.zone⟩)
    (reads_localDateTime t.wall regular)

theorem travels_duration (d : Calendar.Duration) : Travels version (writeHeader .duration ++
    writeInteger d.months ++ writeInteger d.days ++ writeInteger d.seconds ++
    writeInteger d.nanoseconds) (.duration d) := by
  simp only [Written.append_assoc]
  apply travels_structure (fun _ => allowed) rfl
  intro inner
  apply carries_bind (carries_integerBy d.months)
  apply carries_bind (carries_integerBy d.days)
  apply carries_bind (carries_integerBy d.seconds)
  exact carries_wrap (fun n => Value.duration ⟨d.months, d.days, d.seconds, n⟩)
    (carries_integerBy d.nanoseconds)

end Extended

/-! ## Values -/

/-- A value of a type that the version does not have is not written at all. -/
theorem travels_unless {v : Value}
    (carried : ¬(v.type.isExtended && !version.hasExtendedValues) = true →
      Travels version (v.write version) v) : Travels version (v.write version) v := by
  by_cases refused : (v.type.isExtended && !version.hasExtendedValues) = true
  · intro levels _ clear
    rw [Value.write.eq_def, if_pos refused] at clear
    cases clear
  · exact carried refused

/-- Every value travels that has distinct keys and no leap second. -/
theorem travels_value (v : Value) : v.IsRegular → Travels version (v.write version) v := by
  induction v using Value.child_induction with
  | step v ih =>
  intro regular
  obtain ⟨apart, whole, regular⟩ := Value.regular_iff.mp regular
  have each (x : Value) (h : x ∈ v.children) : Travels version (x.write version) x :=
    ih x h (regular x h)
  apply travels_unless
  intro kept
  have allowed (extended : v.type.isExtended = true) : version.hasExtendedValues = true := by
    simpa [extended] using kept
  rw [Value.write.eq_def, if_neg kept]
  cases v with
  | null => exact travels_flat fun _ => carries_null
  | boolean b => exact travels_flat fun _ => carries_boolean b
  | integer i => exact travels_flat fun _ => carries_integer i
  | float x => exact travels_flat fun _ => carries_float x
  | string t => exact travels_flat fun _ => carries_string t
  | bytes bs => exact travels_flat fun _ => carries_byteArray (allowed rfl) bs
  | list items => exact travels_list each
  | map d => exact travels_map (apart d List.mem_cons_self) each
  | node n => exact travels_node (apart n.properties List.mem_cons_self) each
  | relationship r => exact travels_relationship (apart r.properties List.mem_cons_self) each
  | unboundRelationship r => exact travels_unbound (apart r.properties List.mem_cons_self) each
  | path p =>
    -- Its nodes and relationships are no children of the path, but their properties are.
    apply travels_path
    · intro n hn
      have among : n.properties ∈ (Value.path p).dicts :=
        List.mem_append_left _ (List.mem_map_of_mem hn)
      exact travels_node (apart _ among) fun x h =>
        each x (List.mem_append_left _ (List.mem_flatMap.2 ⟨n, hn, h⟩))
    · intro r hr
      have among : r.properties ∈ (Value.path p).dicts :=
        List.mem_append_right _ (List.mem_map_of_mem hr)
      exact travels_unbound (apart _ among) fun x h =>
        each x (List.mem_append_right _ (List.mem_flatMap.2 ⟨r, hr, h⟩))
  | point2D p => exact travels_point2D (allowed rfl) p
  | point3D p => exact travels_point3D (allowed rfl) p
  | date d => exact travels_date (allowed rfl) d
  | time t => exact travels_time (allowed rfl) t (whole _ rfl)
  | localTime t => exact travels_localTime (allowed rfl) t (whole _ rfl)
  | localDateTime t => exact travels_localDateTime (allowed rfl) t (whole _ rfl)
  | dateTime t =>
    cases shown : t.wall? with
    | some wall =>
      simp only [shown]
      exact travels_dateTime (allowed rfl) shown (whole _ rfl)
    | none =>
      intro levels _ clear
      simp only [shown] at clear
      cases clear
  | zonedDateTime t => exact travels_zonedDateTime (allowed rfl) t (whole _ rfl)
  | duration d => exact travels_duration (allowed rfl) d

end Wire

/-! ## Reading back -/

namespace Value

theorem encode_written {version : Version} {v : Value} {bytes : List UInt8}
    (encoded : v.encode version = .ok bytes) :
    (v.write version).abort = none ∧ (v.write version).bytes = bytes := by
  unfold encode Written.result at encoded
  cases refused : (v.write version).abort with
  | some cause => rw [refused] at encoded; cases encoded
  | none =>
    rw [refused] at encoded
    cases encoded
    exact ⟨rfl, rfl⟩

/-- What has been encoded is read back, and exactly its bytes, if and only if it nests at most
thirty-two levels deep and holds no leap second. -/
theorem read_back_iff {version : Version} {v : Value} {bytes : List UInt8}
    (distinct : v.hasDistinctKeys = true) (encoded : v.encode version = .ok bytes)
    (rest : List UInt8) :
    (∃ cursor, Reader.value version (.start (bytes ++ rest)) = .ok v cursor ∧ cursor.rest = rest) ↔
      v.nesting ≤ 32 ∧ v.lacksLeapSeconds = true := by
  obtain ⟨clear, rfl⟩ := encode_written encoded
  constructor
  · -- No value that nests deeper, or is within a leap second, is ever read, whatever the bytes.
    rintro ⟨cursor, read, -⟩
    have legible := (yields_within version maxDepth).given _ v cursor read
    exact ⟨legible.nesting, legible.regular.unleaping⟩
  · rintro ⟨within, unleaping⟩
    have travels : Travels version _ v := travels_value v ⟨distinct, unleaping⟩
    exact ⟨⟨rest, 0⟩, travels maxDepth within clear rest 0, rfl⟩

def sampleMoment (nanos : Nat) (fits : Calendar.NanosFit nanos) : Value :=
  .dateTime ⟨⟨1735689599 - 7200, nanos, by decide, fits⟩, ⟨7200, by decide, by decide⟩⟩

def sampleValue (nanos : Nat) (fits : Calendar.NanosFit nanos) : Value :=
  .map ⟨[("b", .list [.float ⟨0x7FF8000000000001⟩]), ("a", sampleMoment nanos fits)]⟩

def sampleEncoded (nanos : List UInt8) : List UInt8 :=
  [0xA2, 0x81, 0x62, 0x91, 0xC1, 0x7F, 0xF8, 0x00, 0x00, 0x00, 0x00, 0x00, 0x01, 0x81, 0x61, 0xB3,
    0x46, 0xCA, 0x67, 0x74, 0x85, 0x7F] ++ nanos ++ [0xC9, 0x1C, 0x20]

theorem sample_read_back :
    (∃ cursor, Reader.value .v2 (.start (sampleEncoded [0x05] ++ [0x2A])) =
      .ok (sampleValue 5 (by decide)) cursor ∧ cursor.rest = [0x2A]) ∧
    ¬∃ cursor, Reader.value .v2 (.start (sampleEncoded [0xCA, 0x3B, 0x9A, 0xCA, 0x00] ++ [0x2A])) =
      .ok (sampleValue 1000000000 (by decide)) cursor ∧ cursor.rest = [0x2A] := by
  constructor
  · have encoded : (sampleValue 5 (by decide)).encode .v2 = .ok (sampleEncoded [0x05]) := by cbv
    exact (read_back_iff (by cbv) encoded [0x2A]).mpr ⟨by cbv, by cbv⟩
  · have encoded : (sampleValue 1000000000 (by decide)).encode .v2 =
        .ok (sampleEncoded [0xCA, 0x3B, 0x9A, 0xCA, 0x00]) := by cbv
    intro read
    obtain ⟨-, unleaping⟩ := (read_back_iff (by cbv) encoded [0x2A]).mp read
    have leaping : (sampleValue 1000000000 (by decide)).lacksLeapSeconds = false := by cbv
    cases leaping.symm.trans unleaping

end Value

end GraphProtocol
