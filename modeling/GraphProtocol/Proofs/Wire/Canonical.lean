import GraphProtocol.Proofs.Wire.Compositional
import GraphProtocol.Proofs.Wire.RoundTrip
import GraphProtocol.Proofs.Wire.Shortest

/-!
# Canonical encodings

Reading pays for writing: what has been written of the parts read so far, and what is
left of the bytes, is never more than there was. So every value that is read can be
written in no more bytes than it took, and these are read as the same value.
-/

set_option autoImplicit false

namespace GraphProtocol

open Wire

/-! ## What is written of each type -/

namespace Value

variable {version : Version}

section Plain

/-- A type that every version has. -/
theorem available_plain {v : Value} (plain : v.type.isExtended = false) :
    ¬(v.type.isExtended && !version.hasExtendedValues) = true := by
  simp [plain]

theorem write_null : null.write version = writeNull := by
  rw [write.eq_def, if_neg (available_plain rfl)]

theorem write_boolean (b : Bool) : (boolean b).write version = writeBoolean b := by
  rw [write.eq_def, if_neg (available_plain rfl)]

theorem write_integer (i : Int64) : (integer i).write version = writeInteger i := by
  rw [write.eq_def, if_neg (available_plain rfl)]

theorem write_float (x : Binary64) : (float x).write version = writeFloat x := by
  rw [write.eq_def, if_neg (available_plain rfl)]

theorem write_string (s : String) : (string s).write version = writeString s := by
  rw [write.eq_def, if_neg (available_plain rfl)]

theorem write_list (items : List Value) :
    (list items).write version = writeListWith items fun x _ => x.write version := by
  rw [write.eq_def, if_neg (available_plain rfl)]

theorem write_map (d : Dict Value) : (map d).write version = d.write version := by
  rw [write.eq_def, if_neg (available_plain rfl)]
  rfl

theorem write_node (n : Node Value) : (node n).write version = writeHeader .node ++
    writeInteger n.id ++ writeListWith n.labels (fun label _ => writeString label) ++
      n.properties.write version := by
  rw [write.eq_def, if_neg (available_plain rfl)]
  rfl

theorem write_relationship (r : Relationship Value) : (relationship r).write version =
    writeHeader .relationship ++ writeInteger r.id ++ writeInteger r.startNode ++
      writeInteger r.endNode ++ writeString r.type ++ r.properties.write version := by
  rw [write.eq_def, if_neg (available_plain rfl)]
  rfl

theorem write_unbound (r : UnboundRelationship Value) : (unboundRelationship r).write version =
    writeHeader .unboundRelationship ++ writeInteger r.id ++ writeString r.type ++
      r.properties.write version := by
  rw [write.eq_def, if_neg (available_plain rfl)]
  rfl

theorem write_path (p : Path Value) : (path p).write version = writeHeader .path ++
    writeListWith p.nodes (fun n _ => (node n).write version) ++
      writeListWith p.relationships (fun r _ => (unboundRelationship r).write version) ++
        writeListWith p.indices fun i _ => writeInteger i := by
  rw [write.eq_def, if_neg (available_plain rfl)]
  simp only [write_node, write_unbound]
  rfl

end Plain

section Later

variable (allowed : version.hasExtendedValues = true)
include allowed

theorem available_later {v : Value} :
    ¬(v.type.isExtended && !version.hasExtendedValues) = true := by
  simp [allowed]

theorem write_bytes (bs : List UInt8) : (bytes bs).write version = writeBytes bs := by
  rw [write.eq_def, if_neg (available_later allowed)]

theorem write_point2D (p : Point2D) : (point2D p).write version =
    writeHeader .point2D ++ writeInteger p.srid ++ writeFloat p.x ++ writeFloat p.y := by
  rw [write.eq_def, if_neg (available_later allowed)]

theorem write_point3D (p : Point3D) : (point3D p).write version = writeHeader .point3D ++
    writeInteger p.srid ++ writeFloat p.x ++ writeFloat p.y ++ writeFloat p.z := by
  rw [write.eq_def, if_neg (available_later allowed)]

theorem write_date (d : Calendar.Date) :
    (date d).write version = writeHeader .date ++ writeCount d.day := by
  rw [write.eq_def, if_neg (available_later allowed)]

theorem write_time (t : Calendar.OffsetTime) : (time t).write version =
    writeHeader .time ++ writeCount t.time.nanosOfDay ++ writeCount t.offset.seconds := by
  rw [write.eq_def, if_neg (available_later allowed)]

theorem write_localTime (t : Calendar.TimeOfDay) :
    (localTime t).write version = writeHeader .localTime ++ writeCount t.nanosOfDay := by
  rw [write.eq_def, if_neg (available_later allowed)]

theorem write_localDateTime (t : Calendar.LocalDateTime) :
    (localDateTime t).write version = writeHeader .localDateTime ++ writeLocalDateTime t := by
  rw [write.eq_def, if_neg (available_later allowed)]

theorem write_dateTime {t : Calendar.DateTime} {wall : Calendar.LocalDateTime}
    (shown : t.wall? = some wall) : (dateTime t).write version =
      writeHeader .dateTime ++ writeLocalDateTime wall ++ writeCount t.offset.seconds := by
  rw [write.eq_def, if_neg (available_later allowed)]
  simp only [shown]

/-- A date-time whose local clock is out of range is not prepared for. -/
theorem write_unshown {t : Calendar.DateTime} (unshown : t.wall? = none) :
    (dateTime t).write version = .breakdown := by
  rw [write.eq_def, if_neg (available_later allowed)]
  simp only [unshown]

theorem write_zonedDateTime (t : Calendar.ZonedDateTime) : (zonedDateTime t).write version =
    writeHeader .zonedDateTime ++ writeLocalDateTime t.wall ++ writeString t.zone := by
  rw [write.eq_def, if_neg (available_later allowed)]

theorem write_duration (d : Calendar.Duration) : (duration d).write version =
    writeHeader .duration ++ writeInteger d.months ++ writeInteger d.days ++
      writeInteger d.seconds ++ writeInteger d.nanoseconds := by
  rw [write.eq_def, if_neg (available_later allowed)]

end Later

end Value

namespace Wire

/-! ## What has been paid for -/

/-- Between the two places, no fewer bytes have been read than are written. -/
structure Pays (cursor after : Cursor) (w : Written) : Prop where
  clear : w.abort = none
  covered : w.bytes.length + after.rest.length ≤ cursor.rest.length

section Paying

variable {cursor between after : Cursor} {w w' : Written} {α β : Type}

theorem pays_append (early : Pays cursor between w) (late : Pays between after w') :
    Pays cursor after (w ++ w') := by
  have clear := Written.append_abort.mpr ⟨early.clear, late.clear⟩
  have covered := early.covered
  have covered' := late.covered
  refine ⟨clear, ?_⟩
  rw [Written.append_bytes clear, List.length_append]
  omega

theorem pays_within (paid : Pays cursor after w) (less : w'.Within w) : Pays cursor after w' where
  clear := less.clear paid.clear
  covered := (Nat.add_le_add_right (less.short paid.clear) _).trans paid.covered

/-! ## The elementary readers -/

theorem byte_given {b : UInt8} (given : Reader.byte cursor = .ok b after) :
    cursor.rest = b :: after.rest := by
  unfold Reader.byte at given
  cases bytes : cursor.rest with
  | nil => rw [bytes] at given; cases given
  | cons first rest =>
    rw [bytes] at given
    cases given
    rfl

theorem take_given {count : Nat} {bytes : List UInt8}
    (given : Reader.take count cursor = .ok bytes after) :
    bytes.length = count ∧ cursor.rest = bytes ++ after.rest := by
  unfold Reader.take at given
  dsimp only at given
  split at given
  · cases given
  · next enough =>
    cases given
    have most := List.length_take_le count cursor.rest
    exact ⟨by omega, (List.take_append_drop count cursor.rest).symm⟩

theorem unsigned_given {width n : Nat} (given : Reader.unsigned width cursor = .ok n after) :
    n < range width ∧ after.rest.length + width = cursor.rest.length := by
  obtain ⟨bytes, between, taken, spelt⟩ := sequence_given.mp given
  cases spelt
  obtain ⟨rfl, split⟩ := take_given taken
  refine ⟨ofBigEndian_lt bytes, ?_⟩
  rw [split, List.length_append]
  omega

theorem signed_given {width : Nat} {i : Int64}
    (wide : width = 1 ∨ width = 2 ∨ width = 4 ∨ width = 8)
    (given : Reader.signed width cursor = .ok i after) :
    (writeInteger i).bytes.length ≤ 1 + width ∧
      after.rest.length + width = cursor.rest.length := by
  obtain ⟨bytes, between, taken, spelt⟩ := sequence_given.mp given
  cases spelt
  obtain ⟨rfl, split⟩ := take_given taken
  have low := ofSignedBigEndian_ge bytes
  have high := ofSignedBigEndian_lt bytes
  have fits : range bytes.length ≤ range 8 := by
    rcases wide with wide | wide | wide | wide <;> rw [wide] <;> decide
  have all : range 8 = 18446744073709551616 := rfl
  have is : (Int64.ofInt (ofSignedBigEndian bytes)).toInt = ofSignedBigEndian bytes :=
    Int64.toInt_ofInt_of_le (by omega) (by omega)
  refine ⟨writeInteger_wide wide (by omega) (by omega), ?_⟩
  rw [split, List.length_append]
  omega

theorem headerAfter_given {size : Extent} {header : Nat × UInt8}
    (given : Reader.headerAfter size cursor = .ok header after) :
    after.rest.length + 1 ≤ cursor.rest.length := by
  obtain ⟨fields, between, sized, given⟩ := sequence_given.mp given
  obtain ⟨signature, last, signed, given⟩ := sequence_given.mp given
  cases given
  have announced := congrArg List.length (byte_given signed)
  rw [List.length_cons] at announced
  cases size with
  | inline size =>
    cases sized
    omega
  | following width =>
    obtain ⟨-, read⟩ := unsigned_given sized
    omega

theorem require_given {count : Nat} (given : Reader.require count cursor = .ok () after) :
    after = cursor := by
  unfold Reader.require at given
  dsimp only at given
  split at given
  · cases given
  · cases given
    rfl

theorem text_given {size : Nat} {s : String} (given : Reader.text size cursor = .ok s after) :
    (utf8 s).length = size ∧ Pays cursor after (.ofBytes (utf8 s)) := by
  obtain ⟨bytes, between, taken, spelt⟩ := sequence_given.mp given
  obtain ⟨length, split⟩ := take_given taken
  cases is : ofUtf8? bytes with
  | none => rw [is] at spelt; cases spelt
  | some t =>
    rw [is] at spelt
    cases spelt
    rw [utf8_ofUtf8? is]
    exact ⟨length, rfl, by rw [split, List.length_append]; exact Nat.le_refl _⟩

/-- What is read item by item is paid for item by item. -/
theorem items_given {read : Reader α} {write : α → Written}
    (each : ∀ cursor a after, read cursor = .ok a after → Pays cursor after (write a))
    {count : Nat} {items : List α} (given : Reader.items read count cursor = .ok items after) :
    items.length = count ∧ Pays cursor after (.concat (items.map write)) := by
  have onto (count : Nat) (cursor : Cursor) (done : List α)
      (given : Reader.itemsOnto read count done cursor = .ok items after) :
      ∃ more, items = done.reverse ++ more ∧ more.length = count ∧
        Pays cursor after (.concat (more.map write)) := by
    induction count generalizing done cursor with
    | zero =>
      cases given
      exact ⟨[], (List.append_nil _).symm, rfl, rfl, by simp [Written.concat]⟩
    | succ count ih =>
      obtain ⟨item, between, first, others⟩ := sequence_given.mp given
      obtain ⟨more, rfl, length, paid⟩ := ih between (item :: done) others
      refine ⟨item :: more, ?_, by rw [List.length_cons, length], ?_⟩
      · rw [List.reverse_cons, List.append_assoc, List.singleton_append]
      · rw [List.map_cons, Written.concat_cons]
        exact pays_append (each cursor item between first) paid
  obtain ⟨more, rfl, length, paid⟩ := onto count cursor [] given
  exact ⟨length, paid⟩

end Paying

/-! ## Fields -/

theorem writeListWith_map {α β : Type} {items : List α} {item : α → β} {write : β → Written} :
    writeListWith (items.map item) (fun x _ => write x) =
      writeListWith items fun x _ => write (item x) := by
  simp [writeListWith, Function.comp_def]

def Affords (version : Version) (read : Reader Value) : Prop :=
  ∀ cursor v after, read cursor = .ok v after → Pays cursor after (v.write version)

section Fields

variable {version : Version} {read : Reader Value} (inside : Affords version read)
  {cursor after start : Cursor} {α : Type}
include inside

theorem pays_expecting {expected : ValueType} {as? : Value → Option α} (item : α → Value)
    (source : ∀ v a, as? v = some a → v = item a) {a : α}
    (given : Reader.expecting read expected as? cursor = .ok a after) :
    Pays cursor after ((item a).write version) := by
  obtain ⟨v, between, first, found⟩ := sequence_given.mp given
  cases is : as? v with
  | none => rw [is] at found; cases found
  | some b =>
    rw [is] at found
    cases found
    exact source v a is ▸ inside cursor v after first

theorem pays_integerBy {i : Int64} (given : Reader.integerBy read cursor = .ok i after) :
    Pays cursor after (writeInteger i) := by
  rw [← Value.write_integer]
  apply pays_expecting inside Value.integer _ given
  intro v i is
  cases v <;> cases is
  rfl

theorem pays_floatBy {x : Binary64} (given : Reader.floatBy read cursor = .ok x after) :
    Pays cursor after (writeFloat x) := by
  rw [← Value.write_float]
  apply pays_expecting inside Value.float _ given
  intro v x is
  cases v <;> cases is
  rfl

theorem pays_stringBy {s : String} (given : Reader.stringBy read cursor = .ok s after) :
    Pays cursor after (writeString s) := by
  rw [← Value.write_string]
  apply pays_expecting inside Value.string _ given
  intro v s is
  cases v <;> cases is
  rfl

theorem pays_mapBy {d : Dict Value} (given : Reader.mapBy read cursor = .ok d after) :
    Pays cursor after (d.write version) := by
  rw [← Value.write_map]
  apply pays_expecting inside Value.map _ given
  intro v d is
  cases v <;> cases is
  rfl

theorem pays_listOfBy {convert : Value → Except Malformation α} (item : α → Value)
    (source : ∀ v x, convert v = .ok x → v = item x) {items : List α}
    (given : Reader.listOfBy read convert cursor = .ok items after) :
    Pays cursor after (writeListWith items fun x _ => (item x).write version) := by
  obtain ⟨values, between, listed, converted⟩ := sequence_given.mp given
  cases all : values.mapM convert with
  | error cause => rw [all] at converted; cases converted
  | ok xs =>
    rw [all] at converted
    cases converted
    rw [← writeListWith_map, ← Value.write_list, ← mapM_sources source all]
    apply pays_expecting inside Value.list _ listed
    intro v values is
    cases v <;> cases is
    rfl

/-! ## Graph entities -/

theorem pays_node {n : Node Value} (header : Pays start cursor (writeHeader .node))
    (given : Reader.nodeFields read cursor = .ok n after) :
    Pays start after ((Value.node n).write version) := by
  obtain ⟨id, _, first, given⟩ := sequence_given.mp given
  obtain ⟨labels, _, second, given⟩ := sequence_given.mp given
  obtain ⟨properties, _, third, given⟩ := sequence_given.mp given
  cases given
  have labelled := pays_listOfBy inside Value.string (by
    intro v s is
    cases v <;> cases is
    rfl) second
  simp only [Value.write_string] at labelled
  rw [Value.write_node]
  exact pays_append (pays_append (pays_append header (pays_integerBy inside first)) labelled)
    (pays_mapBy inside third)

theorem pays_relationship {r : Relationship Value}
    (header : Pays start cursor (writeHeader .relationship))
    (given : Reader.relationshipFields read cursor = .ok r after) :
    Pays start after ((Value.relationship r).write version) := by
  obtain ⟨id, _, first, given⟩ := sequence_given.mp given
  obtain ⟨startNode, _, second, given⟩ := sequence_given.mp given
  obtain ⟨endNode, _, third, given⟩ := sequence_given.mp given
  obtain ⟨type, _, fourth, given⟩ := sequence_given.mp given
  obtain ⟨properties, _, fifth, given⟩ := sequence_given.mp given
  cases given
  rw [Value.write_relationship]
  have ends := pays_append (pays_append (pays_append header (pays_integerBy inside first))
    (pays_integerBy inside second)) (pays_integerBy inside third)
  exact pays_append (pays_append ends (pays_stringBy inside fourth)) (pays_mapBy inside fifth)

theorem pays_unbound {r : UnboundRelationship Value}
    (header : Pays start cursor (writeHeader .unboundRelationship))
    (given : Reader.unboundFields read cursor = .ok r after) :
    Pays start after ((Value.unboundRelationship r).write version) := by
  obtain ⟨id, _, first, given⟩ := sequence_given.mp given
  obtain ⟨type, _, second, given⟩ := sequence_given.mp given
  obtain ⟨properties, _, third, given⟩ := sequence_given.mp given
  cases given
  rw [Value.write_unbound]
  exact pays_append (pays_append (pays_append header (pays_integerBy inside first))
    (pays_stringBy inside second)) (pays_mapBy inside third)

theorem pays_path {p : Path Value} (header : Pays start cursor (writeHeader .path))
    (given : Reader.pathFields read cursor = .ok p after) :
    Pays start after ((Value.path p).write version) := by
  obtain ⟨nodes, _, first, given⟩ := sequence_given.mp given
  obtain ⟨relationships, _, second, given⟩ := sequence_given.mp given
  obtain ⟨indices, _, third, given⟩ := sequence_given.mp given
  cases given
  have listed := pays_listOfBy inside Value.node (by
    intro v n is
    cases v <;> cases is
    rfl) first
  have listed' := pays_listOfBy inside Value.unboundRelationship (by
    intro v r is
    cases v <;> cases is
    rfl) second
  have indexed := pays_listOfBy inside Value.integer (by
    intro v i is
    cases v <;> cases is
    rfl) third
  simp only [Value.write_integer] at indexed
  rw [Value.write_path]
  exact pays_append (pays_append (pays_append header listed) listed') indexed

end Fields

/-! ## Calendar values -/

section Calendars

open Calendar

variable {cursor after : Cursor}

theorem writeCount_toInt (i : Int64) : writeCount i.toInt = writeInteger i := by
  rw [writeCount, Int64.ofInt_toInt]

theorem date_given {days : Int64} {d : Date} (given : Reader.dateOf days cursor = .ok d after) :
    d.day = days.toInt ∧ after = cursor := by
  obtain ⟨is, same⟩ := orMalformed_given given
  unfold Date.ofDay? at is
  split at is
  · cases is
    exact ⟨rfl, same⟩
  · cases is

theorem time_given {nanos : Int64} {t : TimeOfDay}
    (given : Reader.timeOf nanos cursor = .ok t after) :
    t.nanosOfDay = nanos.toInt ∧ after = cursor := by
  obtain ⟨is, same⟩ := orMalformed_given given
  refine ⟨?_, same⟩
  unfold TimeOfDay.ofNanosOfDay? TimeOfDay.of? at is
  split at is
  · next day =>
    split at is
    · cases is
      have whole := Nat.div_add_mod' nanos.toInt.toNat nanosPerSecond
      unfold TimeOfDay.nanosOfDay
      rw [whole]
      exact Int.toNat_of_nonneg day.1
    · cases is
  · cases is

theorem offset_given {seconds : Int64} {o : Offset}
    (given : Reader.offsetOf seconds cursor = .ok o after) :
    o.seconds = seconds.toInt ∧ after = cursor := by
  obtain ⟨is, same⟩ := orMalformed_given given
  unfold Offset.ofSeconds? at is
  split at is
  · cases is
    exact ⟨rfl, same⟩
  · cases is

theorem localDateTime_given {second nanos : Int64} {t : LocalDateTime}
    (given : Reader.localDateTimeOf second nanos cursor = .ok t after) :
    writeLocalDateTime t = writeInteger second ++ writeInteger nanos ∧ after = cursor := by
  unfold Reader.localDateTimeOf at given
  split at given
  · next fits =>
    obtain ⟨is, same⟩ := orMalformed_given given
    refine ⟨?_, same⟩
    unfold LocalDateTime.of? at is
    split at is
    · cases is
      unfold writeLocalDateTime
      rw [writeCount_toInt, Int.toNat_of_nonneg fits.1, writeCount_toInt]
    · cases is
  · cases given

theorem dateTime_given {wall : LocalDateTime} {o : Offset} {cause : Malformation} {t : DateTime}
    (given : Reader.orMalformed (DateTime.of? wall o) cause cursor = .ok t after) :
    t.wall? = some wall ∧ t.offset = o ∧ after = cursor := by
  obtain ⟨is, same⟩ := orMalformed_given given
  obtain ⟨shown, shifted⟩ := DateTime.of?_eq_some.mp is
  exact ⟨shown, shifted, same⟩

end Calendars

/-! ## Points, calendar values and durations -/

section Structures

variable {version : Version} {read : Reader Value} (inside : Affords version read)
  {cursor after start : Cursor} {v : Value}

section Extended

variable (allowed : version.hasExtendedValues = true)
include inside allowed

theorem pays_point2D (header : Pays start cursor (writeHeader .point2D))
    (given : Reader.fieldsOf read .point2D cursor = .ok v after) :
    Pays start after (v.write version) := by
  obtain ⟨srid, _, first, given⟩ := sequence_given.mp given
  obtain ⟨x, _, second, given⟩ := sequence_given.mp given
  obtain ⟨y, _, third, given⟩ := sequence_given.mp given
  cases given
  rw [Value.write_point2D allowed]
  have numbered := pays_append header (pays_integerBy inside first)
  exact pays_append (pays_append numbered (pays_floatBy inside second)) (pays_floatBy inside third)

theorem pays_point3D (header : Pays start cursor (writeHeader .point3D))
    (given : Reader.fieldsOf read .point3D cursor = .ok v after) :
    Pays start after (v.write version) := by
  obtain ⟨srid, _, first, given⟩ := sequence_given.mp given
  obtain ⟨x, _, second, given⟩ := sequence_given.mp given
  obtain ⟨y, _, third, given⟩ := sequence_given.mp given
  obtain ⟨z, _, fourth, given⟩ := sequence_given.mp given
  cases given
  rw [Value.write_point3D allowed]
  have numbered := pays_append header (pays_integerBy inside first)
  exact pays_append (pays_append (pays_append numbered (pays_floatBy inside second))
    (pays_floatBy inside third)) (pays_floatBy inside fourth)

theorem pays_date (header : Pays start cursor (writeHeader .date))
    (given : Reader.fieldsOf read .date cursor = .ok v after) :
    Pays start after (v.write version) := by
  obtain ⟨days, _, first, given⟩ := sequence_given.mp given
  obtain ⟨d, _, counted, given⟩ := sequence_given.mp given
  cases given
  obtain ⟨is, rfl⟩ := date_given counted
  rw [Value.write_date allowed, is, writeCount_toInt]
  exact pays_append header (pays_integerBy inside first)

theorem pays_time (header : Pays start cursor (writeHeader .time))
    (given : Reader.fieldsOf read .time cursor = .ok v after) :
    Pays start after (v.write version) := by
  obtain ⟨nanos, _, first, given⟩ := sequence_given.mp given
  obtain ⟨seconds, _, second, given⟩ := sequence_given.mp given
  obtain ⟨t, _, counted, given⟩ := sequence_given.mp given
  obtain ⟨o, _, shifted, given⟩ := sequence_given.mp given
  cases given
  obtain ⟨is, rfl⟩ := time_given counted
  obtain ⟨is', rfl⟩ := offset_given shifted
  rw [Value.write_time allowed, is, is', writeCount_toInt, writeCount_toInt]
  exact pays_append (pays_append header (pays_integerBy inside first))
    (pays_integerBy inside second)

theorem pays_localTime (header : Pays start cursor (writeHeader .localTime))
    (given : Reader.fieldsOf read .localTime cursor = .ok v after) :
    Pays start after (v.write version) := by
  obtain ⟨nanos, _, first, given⟩ := sequence_given.mp given
  obtain ⟨t, _, counted, given⟩ := sequence_given.mp given
  cases given
  obtain ⟨is, rfl⟩ := time_given counted
  rw [Value.write_localTime allowed, is, writeCount_toInt]
  exact pays_append header (pays_integerBy inside first)

theorem pays_localDateTime (header : Pays start cursor (writeHeader .localDateTime))
    (given : Reader.fieldsOf read .localDateTime cursor = .ok v after) :
    Pays start after (v.write version) := by
  obtain ⟨second, _, first, given⟩ := sequence_given.mp given
  obtain ⟨nanos, _, next, given⟩ := sequence_given.mp given
  obtain ⟨t, _, counted, given⟩ := sequence_given.mp given
  cases given
  obtain ⟨is, rfl⟩ := localDateTime_given counted
  rw [Value.write_localDateTime allowed, is]
  exact pays_append header (pays_append (pays_integerBy inside first) (pays_integerBy inside next))

theorem pays_dateTime (header : Pays start cursor (writeHeader .dateTime))
    (given : Reader.fieldsOf read .dateTime cursor = .ok v after) :
    Pays start after (v.write version) := by
  obtain ⟨second, _, first, given⟩ := sequence_given.mp given
  obtain ⟨nanos, _, next, given⟩ := sequence_given.mp given
  obtain ⟨seconds, _, last, given⟩ := sequence_given.mp given
  obtain ⟨o, _, shifted, given⟩ := sequence_given.mp given
  obtain ⟨wall, _, counted, given⟩ := sequence_given.mp given
  obtain ⟨t, _, joined, given⟩ := sequence_given.mp given
  cases given
  obtain ⟨is', rfl⟩ := offset_given shifted
  obtain ⟨is, rfl⟩ := localDateTime_given counted
  obtain ⟨shown, rfl, rfl⟩ := dateTime_given joined
  rw [Value.write_dateTime allowed shown, is, is', writeCount_toInt]
  have clock := pays_append (pays_integerBy inside first) (pays_integerBy inside next)
  exact pays_append (pays_append header clock) (pays_integerBy inside last)

theorem pays_zonedDateTime (header : Pays start cursor (writeHeader .zonedDateTime))
    (given : Reader.fieldsOf read .zonedDateTime cursor = .ok v after) :
    Pays start after (v.write version) := by
  obtain ⟨second, _, first, given⟩ := sequence_given.mp given
  obtain ⟨nanos, _, next, given⟩ := sequence_given.mp given
  obtain ⟨zone, _, last, given⟩ := sequence_given.mp given
  obtain ⟨wall, _, counted, given⟩ := sequence_given.mp given
  cases given
  obtain ⟨is, rfl⟩ := localDateTime_given counted
  rw [Value.write_zonedDateTime allowed, is]
  have clock := pays_append (pays_integerBy inside first) (pays_integerBy inside next)
  exact pays_append (pays_append header clock) (pays_stringBy inside last)

theorem pays_duration (header : Pays start cursor (writeHeader .duration))
    (given : Reader.fieldsOf read .duration cursor = .ok v after) :
    Pays start after (v.write version) := by
  obtain ⟨months, _, first, given⟩ := sequence_given.mp given
  obtain ⟨days, _, second, given⟩ := sequence_given.mp given
  obtain ⟨seconds, _, third, given⟩ := sequence_given.mp given
  obtain ⟨nanos, _, fourth, given⟩ := sequence_given.mp given
  cases given
  rw [Value.write_duration allowed]
  have dated := pays_append (pays_append header (pays_integerBy inside first))
    (pays_integerBy inside second)
  exact pays_append (pays_append dated (pays_integerBy inside third)) (pays_integerBy inside fourth)

end Extended

/-! ## Structures -/

theorem writeHeader_eq (kind : StructureKind) : writeHeader kind =
    .ofBytes [UInt8.ofNat (structureInlineBase + kind.arity), kind.signature] := by
  cases kind <;> rfl

include inside

/-- A structure that the version has is paid for if its header is. -/
theorem pays_fields {kind : StructureKind}
    (known : kind.isExtended = true → version.hasExtendedValues = true)
    (header : Pays start cursor (writeHeader kind))
    (given : Reader.fieldsOf read kind cursor = .ok v after) :
    Pays start after (v.write version) := by
  cases kind with
  | node =>
    obtain ⟨n, _, fields, given⟩ := sequence_given.mp given
    cases given
    exact pays_node inside header fields
  | relationship =>
    obtain ⟨r, _, fields, given⟩ := sequence_given.mp given
    cases given
    exact pays_relationship inside header fields
  | unboundRelationship =>
    obtain ⟨r, _, fields, given⟩ := sequence_given.mp given
    cases given
    exact pays_unbound inside header fields
  | path =>
    obtain ⟨p, _, fields, given⟩ := sequence_given.mp given
    cases given
    exact pays_path inside header fields
  | point2D => exact pays_point2D inside (known rfl) header given
  | point3D => exact pays_point3D inside (known rfl) header given
  | date => exact pays_date inside (known rfl) header given
  | time => exact pays_time inside (known rfl) header given
  | localTime => exact pays_localTime inside (known rfl) header given
  | localDateTime => exact pays_localDateTime inside (known rfl) header given
  | dateTime => exact pays_dateTime inside (known rfl) header given
  | zonedDateTime => exact pays_zonedDateTime inside (known rfl) header given
  | duration => exact pays_duration inside (known rfl) header given

/-- A structure is written with a header of two bytes, however it was announced. -/
theorem pays_structure {fields : Nat} {signature : UInt8}
    (announced : cursor.rest.length + 2 ≤ start.rest.length)
    (given : Reader.structureBody version read fields signature cursor = .ok v after) :
    Pays start after (v.write version) := by
  unfold Reader.structureBody at given
  cases found : StructureKind.ofSignature? version signature with
  | none => rw [found] at given; cases given
  | some kind =>
    have known : kind.isExtended = true → version.hasExtendedValues = true := by
      intro extended
      have chosen := List.find?_some found
      simpa [extended] using (Bool.and_eq_true_iff.mp chosen).2
    rw [found] at given
    dsimp only at given
    split at given
    · apply pays_fields inside known _ given
      rw [writeHeader_eq]
      exact ⟨rfl, by simpa [Written.ofBytes, Nat.add_comm] using announced⟩
    · cases given

end Structures

/-! ## Collections -/

section Sizes

variable {cursor after start : Cursor} {kind : SizedKind} {extent : Extent} {size : Nat} {b : UInt8}

/-- A marker and the size it announces pay for the shortest form of both. -/
theorem pays_extent (marked : Marker.ofByte? b = some (.sized kind extent))
    (announced : start.rest = b :: cursor.rest)
    (given : Reader.extent extent cursor = .ok size after) :
    Pays start after (writeSize kind size) := by
  have genuine := ofByte?_genuine marked
  have counted := congrArg List.length announced
  rw [List.length_cons] at counted
  cases extent with
  | inline size =>
    cases given
    obtain ⟨small, has⟩ := genuine
    obtain ⟨base, is⟩ := Option.isSome_iff_exists.mp has
    rw [writeSize_inline is small]
    exact ⟨rfl, by simp [Written.ofBytes, counted, Nat.add_comm]⟩
  | following width =>
    obtain ⟨fits, read⟩ := unsigned_given given
    have short : (writeSize kind size).bytes.length ≤ 1 + width := writeSize_wide genuine fits
    refine ⟨writeSize_clear.mpr ?_, by omega⟩
    rcases genuine with rfl | rfl | rfl
    · exact fits.trans (by decide)
    · exact fits.trans (by decide)
    · exact fits

end Sizes

section Collections

variable {version : Version} {read : Reader Value} {inner : Option (Reader Value)}
  {cursor after start : Cursor}

theorem writeListWith_eq {α : Type} (items : List α) (write : α → Written) :
    writeListWith items (fun x _ => write x) =
      writeSize .list items.length ++ .concat (items.map write) := by
  simp [writeListWith]

def writeEntry (version : Version) (entry : String × Value) : Written :=
  writeString entry.1 ++ entry.2.write version

theorem dict_write_eq (d : Dict Value) : d.write version =
    writeSize .map d.size ++ .concat (d.entries.map (writeEntry version)) := by
  have each := List.attach_map_val (l := d.entries) (f := writeEntry version)
  rw [← each]
  rfl

theorem pays_entry (inside : Affords version read) {entry : String × Value}
    (given : Reader.entry read cursor = .ok entry after) :
    Pays cursor after (writeEntry version entry) := by
  obtain ⟨key, between, first, given⟩ := sequence_given.mp given
  cases key with
  | string key =>
    obtain ⟨x, _, second, given⟩ := sequence_given.mp given
    cases given
    have named := inside cursor _ between first
    rw [Value.write_string] at named
    exact pays_append named (inside between x _ second)
  | _ => cases given

variable (below : ∀ read, inner = some read → Affords version read)
include below

theorem pays_listBody {size : Nat} {items : List Value}
    (header : Pays start cursor (writeSize .list size))
    (listed : Reader.listBody inner size cursor = .ok items after) :
    Pays start after ((Value.list items).write version) := by
  obtain ⟨⟨⟩, _, required, entered⟩ := sequence_given.mp listed
  obtain rfl := require_given required
  obtain ⟨read, is, inside⟩ := enter_given entered
  obtain ⟨elements, between, each, left⟩ := sequence_given.mp inside
  cases left
  obtain ⟨rfl, paid⟩ := items_given (below read is) each
  rw [Value.write_list, writeListWith_eq]
  exact pays_append header ⟨paid.clear, paid.covered⟩

/-- Of a key that comes twice, only one entry is written. -/
theorem pays_mapBody {size : Nat} {d : Dict Value}
    (header : Pays start cursor (writeSize .map size))
    (mapped : Reader.mapBody inner size cursor = .ok d after) :
    Pays start after ((Value.map d).write version) := by
  obtain ⟨⟨⟩, _, required, entered⟩ := sequence_given.mp mapped
  obtain rfl := require_given required
  obtain ⟨read, is, inside⟩ := enter_given entered
  obtain ⟨entries, between, each, left⟩ := sequence_given.mp inside
  cases left
  obtain ⟨rfl, paid⟩ := items_given (fun _ _ _ => pays_entry (below read is)) each
  have fewer : (writeSize .map (Dict.ofList entries).size).Within
      (writeSize .map entries.length) := writeSize_mono (Dict.size_ofList_le entries)
  have lighter : (Written.concat ((Dict.ofList entries).entries.map (writeEntry version))).Within
      (.concat (entries.map (writeEntry version))) := by
    apply Written.within_concat
    · intro part among
      obtain ⟨entry, held, rfl⟩ := List.mem_map.mp among
      exact List.mem_map_of_mem (Dict.mem_ofList held)
    · rw [List.map_map, List.map_map]
      exact Dict.sum_ofList_le _ entries
  rw [Value.write_map, dict_write_eq]
  exact pays_append (pays_within header fewer)
    (pays_within ⟨paid.clear, paid.covered⟩ lighter)

end Collections

/-! ## Values -/

section Values

variable {version : Version} {inner : Option (Reader Value)} {start cursor after : Cursor}
  (below : ∀ read, inner = some read → Affords version read)
include below

/-- A text, byte array, list or map is paid for if its marker and size are. -/
theorem pays_sized {kind : SizedKind} {size : Nat} {v : Value}
    (allowed : kind = .byteArray → version.hasExtendedValues = true)
    (header : Pays start cursor (writeSize kind size))
    (given : sized inner kind size cursor = .ok v after) : Pays start after (v.write version) := by
  cases kind with
  | string =>
    obtain ⟨s, _, spelt, given⟩ := sequence_given.mp given
    cases given
    obtain ⟨rfl, paid⟩ := text_given spelt
    rw [Value.write_string]
    exact pays_append header paid
  | byteArray =>
    obtain ⟨bytes, _, taken, given⟩ := sequence_given.mp given
    cases given
    obtain ⟨rfl, split⟩ := take_given taken
    rw [Value.write_bytes (allowed rfl)]
    refine pays_append header ⟨rfl, ?_⟩
    rw [split, List.length_append]
    exact Nat.le_refl _
  | list =>
    obtain ⟨items, _, listed, given⟩ := sequence_given.mp given
    cases given
    exact pays_listBody below header listed
  | map =>
    obtain ⟨d, _, mapped, given⟩ := sequence_given.mp given
    cases given
    exact pays_mapBody below header mapped

theorem affords_value : Affords version (Reader.valueBy version inner) := by
  intro start v after given
  obtain ⟨b, cursor, first, given⟩ := sequence_given.mp given
  have announced := byte_given first
  have counted := congrArg List.length announced
  rw [List.length_cons] at counted
  cases marked : Marker.ofByte? b with
  | none => rw [marked] at given; cases given
  | some marker =>
    rw [marked] at given
    cases marker with
    | null =>
      cases given
      rw [Value.write_null]
      exact ⟨rfl, by simp [writeNull, Written.ofBytes, counted, Nat.add_comm]⟩
    | boolean b =>
      cases given
      rw [Value.write_boolean]
      exact ⟨rfl, by simp [writeBoolean, Written.ofBytes, counted, Nat.add_comm]⟩
    | float =>
      obtain ⟨word, between, numbered, given⟩ := sequence_given.mp given
      cases given
      obtain ⟨-, read⟩ := unsigned_given numbered
      rw [Value.write_float]
      exact ⟨rfl, by simp [writeFloat, Written.ofBytes]; omega⟩
    | smallInteger i =>
      cases given
      obtain ⟨low, high⟩ := ofByte?_genuine marked
      have is : (Int64.ofInt i).toInt = i := Int64.toInt_ofInt_of_le (by omega) (by omega)
      have short := writeInteger_small (i := Int64.ofInt i) (by omega) (by omega)
      rw [Value.write_integer]
      exact ⟨writeInteger_clear, by omega⟩
    | integer width =>
      obtain ⟨i, between, numbered, given⟩ := sequence_given.mp given
      cases given
      obtain ⟨short, read⟩ := signed_given (ofByte?_genuine marked) numbered
      rw [Value.write_integer]
      exact ⟨writeInteger_clear, by omega⟩
    | sized kind extent =>
      cases kind with
      | byteArray =>
        dsimp only at given
        split at given
        · next allowed =>
          obtain ⟨size, _, measured, given⟩ := sequence_given.mp given
          have header := pays_extent marked announced measured
          exact pays_sized below (fun _ => allowed) header given
        · cases given
      | string | list | map =>
        obtain ⟨size, _, measured, given⟩ := sequence_given.mp given
        have header := pays_extent marked announced measured
        refine pays_sized below ?_ header given
        rintro ⟨⟩
    | «structure» size =>
      obtain ⟨⟨fields, signature⟩, between, headed, given⟩ := sequence_given.mp given
      obtain ⟨read, is, given⟩ := enter_given given
      obtain ⟨last, body, rfl⟩ := leaving_given.mp given
      have shorter := headerAfter_given headed
      have paid : Pays start last (v.write version) := by
        apply pays_structure (below read is) _ body
        change between.rest.length + 2 ≤ start.rest.length
        omega
      exact ⟨paid.clear, paid.covered⟩

end Values

/-- Whatever is read can be written, and in no more bytes. -/
theorem affords_within (version : Version) (levels : Nat) :
    Affords version (Reader.valueWithin version levels) := by
  -- By induction on the levels left, as the reader inside has one less.
  induction levels with
  | zero => exact affords_value nofun
  | succ levels ih =>
    apply affords_value
    rintro read ⟨⟩
    exact ih

end Wire

/-! ## The canonical encoding -/

namespace Value

variable {version : Version} {bytes : List UInt8} {v : Value}

theorem decode_written (given : Value.decode version bytes = .ok v) :
    (v.write version).abort = none ∧ (v.write version).bytes.length ≤ bytes.length := by
  obtain ⟨depth, read⟩ := decode_given.mp given
  have paid : Pays (.start bytes) ⟨[], depth⟩ (v.write version) :=
    affords_within version maxDepth (.start bytes) v _ read
  exact ⟨paid.clear, paid.covered⟩

/-- Whatever has been decoded can be encoded. The encoding is the shortest of all that are decoded
to the value. -/
theorem decode_canonical (given : Value.decode version bytes = .ok v) :
    ∃ canonical, v.encode version = .ok canonical ∧ canonical.length ≤ bytes.length ∧
      Value.decode version canonical = .ok v ∧
      ∀ other, Value.decode version other = .ok v → canonical.length ≤ other.length := by
  obtain ⟨clear, short⟩ := decode_written given
  obtain ⟨depth, read⟩ := decode_given.mp given
  have legible := (yields_within version maxDepth).given _ v _ read
  have travels : Reads (Reader.valueWithin version maxDepth) (v.write version).bytes v :=
    travels_value v legible.regular maxDepth legible.nesting clear
  refine ⟨(v.write version).bytes, ?_, short, ?_, fun other same => (decode_written same).2⟩
  · unfold encode Written.result
    rw [clear]
  · have again := travels [] 0
    rw [List.append_nil] at again
    exact decode_given.mpr ⟨0, again⟩

def sampleWide : List UInt8 :=
  [0xD6, 0x00, 0x00, 0x00, 0x02, 0xCA, 0x00, 0x00, 0x00, 0x01, 0xDC, 0x01, 0x44, 0xC9, 0x00, 0x07]

def sampleDate : Calendar.Date := ⟨7, by decide, by decide⟩

theorem sample_canonical :
    ∃ canonical, (list [integer 1, date sampleDate]).encode .v2 = .ok canonical ∧
      canonical.length ≤ 16 ∧
      Value.decode .v2 canonical = .ok (list [integer 1, date sampleDate]) ∧
      ∀ other, Value.decode .v2 other = .ok (list [integer 1, date sampleDate]) →
        canonical.length ≤ other.length := by
  have read : Value.decode .v2 sampleWide = .ok (list [integer 1, date sampleDate]) := by cbv
  exact decode_canonical read

end Value

end GraphProtocol
