import GraphProtocol.Proofs.Wire.Carrying

/-!
# Structures that are carried

The fields of a structure are values one level down, which are expected to have
certain types. A calendar value is read back if it is not within a leap second.
-/

set_option autoImplicit false

namespace GraphProtocol.Wire

/-! ## Fields -/

section Fields

variable {version : Version} {inner : Option (Reader Value)} {α β : Type}

/-- What follows may need no further bytes. -/
theorem carries_then {read : Reader α} {next : α → Reader β} {w : Written} {a : α} {b : β}
    (first : Carries read w a) (further : Reads (next a) [] b) : Carries (read >>= next) w b := by
  intro clear
  have both := reads_bind (first clear) further
  rwa [List.append_nil] at both

theorem carries_expecting {read : Reader Value} {expected : ValueType} {as? : Value → Option α}
    {w : Written} {v : Value} {a : α} (first : Carries read w v) (is : as? v = some a) :
    Carries (Reader.expecting read expected as?) w a := by
  apply carries_then first
  rw [is]
  exact reads_pure a

theorem carries_integerBy (i : Int64) :
    Carries (Reader.integerBy (Reader.valueBy version inner)) (writeInteger i) i :=
  carries_expecting (carries_integer i) rfl

theorem carries_floatBy (x : Binary64) :
    Carries (Reader.floatBy (Reader.valueBy version inner)) (writeFloat x) x :=
  carries_expecting (carries_float x) rfl

theorem carries_stringBy (s : String) :
    Carries (Reader.stringBy (Reader.valueBy version inner)) (writeString s) s :=
  carries_expecting (carries_string s) rfl

theorem carries_mapBy {d : Dict Value} {write : (x : Value) → x ∈ d.values → Written}
    (distinct : d.DistinctKeys)
    (each : ∀ x (h : x ∈ d.values), Carries (Reader.valueBy version inner) (write x h) x) :
    Carries (Reader.mapBy (Reader.valueBy version (some (Reader.valueBy version inner))))
      (writeDictWith d write) d :=
  carries_expecting (carries_dict distinct each) rfl

theorem mapM_ok {convert : β → Except Malformation α} {item : α → β} {items : List α}
    (each : ∀ x ∈ items, convert (item x) = .ok x) : (items.map item).mapM convert = .ok items := by
  induction items with
  | nil => rfl
  | cons x rest ih =>
    rw [List.map_cons, List.mapM_cons, each x List.mem_cons_self,
      ih fun y among => each y (List.mem_cons_of_mem _ among)]
    rfl

theorem carries_listOfBy {items : List α} {write : (x : α) → x ∈ items → Written}
    {convert : Value → Except Malformation α} (item : α → Value)
    (each : ∀ x (h : x ∈ items), Carries (Reader.valueBy version inner) (write x h) (item x))
    (back : ∀ x ∈ items, convert (item x) = .ok x) :
    Carries (Reader.listOfBy (Reader.valueBy version (some (Reader.valueBy version inner))) convert)
      (writeListWith items write) items := by
  have elements : Carries (Reader.listBy _) (writeListWith items write) (items.map item) :=
    carries_expecting (carries_list item each) rfl
  apply carries_then elements
  rw [mapM_ok back]
  exact reads_pure items

/-- A number that fits is read as it was. -/
theorem carries_countBy (i : Int) :
    Carries (Reader.integerBy (Reader.valueBy version inner)) (writeCount i) (Int64.ofInt i) :=
  carries_integerBy _

end Fields

/-! ## Headers -/

theorem ofSignature?_signature {version : Version} {kind : StructureKind}
    (known : kind.isExtended = true → version.hasExtendedValues = true) :
    StructureKind.ofSignature? version kind.signature = some kind := by
  cases version <;> cases kind <;> first | rfl | cases known rfl

section Headers

variable {version : Version} {read : Reader Value}

theorem reads_leaving {α : Type} {body : Reader Value → Reader α} {bytes : List UInt8} {a : α}
    (inside : Reads (body read) bytes a) :
    Reads (Reader.enter (some read) fun read => Reader.leaving (body read)) bytes a := by
  intro rest depth
  change Reader.leaving (body read) ⟨bytes ++ rest, depth + 1⟩ = _
  unfold Reader.leaving
  rw [inside]
  rfl

theorem carries_structure {kind : StructureKind} {w : Written} {v : Value}
    (known : kind.isExtended = true → version.hasExtendedValues = true)
    (fields : Carries (Reader.fieldsOf read kind) w v) :
    Carries (Reader.valueBy version (some read)) (writeHeader kind ++ w) v := by
  have small : kind.arity < 16 := by cases kind <;> decide
  have header : writeHeader kind =
      .ofBytes [UInt8.ofNat (structureInlineBase + kind.arity), kind.signature] := if_pos small
  intro clear
  obtain ⟨clear', clear''⟩ := Written.append_abort.mp clear
  rw [Written.append_bytes clear, header]
  apply reads_bind (reads_byte _)
  rw [ofByte?_structure small]
  have header : Reads (Reader.headerAfter (.inline kind.arity)) [kind.signature]
      (kind.arity, kind.signature) :=
    reads_bind (reads_pure kind.arity) (reads_wrap (kind.arity, ·) (reads_byte kind.signature))
  have body : Reads (Reader.structureBody version read kind.arity kind.signature) w.bytes v := by
    unfold Reader.structureBody
    rw [ofSignature?_signature known]
    dsimp only
    rw [if_pos rfl]
    exact fields clear''
  have inside : Reads (Reader.enter (some read) fun read =>
      Reader.leaving (Reader.structureBody version read kind.arity kind.signature)) w.bytes v :=
    reads_leaving body
  exact reads_bind header inside

end Headers

/-! ## Calendar values -/

section Calendars

open Calendar

/-- Every count of the calendar fits in 64 bits. -/
theorem toInt_count {i : Int} (low : -1000000000000000 ≤ i) (high : i ≤ 1000000000000000) :
    (Int64.ofInt i).toInt = i := Int64.toInt_ofInt_of_le (by omega) (by omega)

theorem reads_orMalformed {α : Type} {value : Option α} {a : α} (cause : Malformation)
    (is : value = some a) : Reads (Reader.orMalformed value cause) [] a := by
  rw [is]
  exact reads_pure a

theorem reads_date (d : Date) : Reads (Reader.dateOf (Int64.ofInt d.day)) [] d := by
  have low := d.first_le
  have high := d.le_last
  unfold firstDay at low
  unfold lastDay at high
  apply reads_orMalformed
  rw [toInt_count (by omega) (by omega)]
  exact dif_pos ⟨d.first_le, d.le_last⟩

theorem reads_time (t : TimeOfDay) (regular : t.nanos < nanosPerSecond) :
    Reads (Reader.timeOf (Int64.ofInt t.nanosOfDay)) [] t := by
  have bound := t.second_lt
  unfold secondsPerDay at bound
  unfold nanosPerSecond at regular
  apply reads_orMalformed
  have whole : t.nanosOfDay / nanosPerSecond = t.second := by
    unfold TimeOfDay.nanosOfDay nanosPerSecond
    omega
  have part : t.nanosOfDay % nanosPerSecond = t.nanos := by
    unfold TimeOfDay.nanosOfDay nanosPerSecond
    omega
  have day : t.nanosOfDay < secondsPerDay * nanosPerSecond := by
    unfold TimeOfDay.nanosOfDay secondsPerDay nanosPerSecond
    omega
  have small : t.nanosOfDay < 86400 * 1000000000 := day
  rw [toInt_count (by omega) (by omega)]
  unfold TimeOfDay.ofNanosOfDay?
  rw [if_pos ⟨by omega, by exact_mod_cast day⟩, Int.toNat_natCast, whole, part]
  exact dif_pos ⟨t.second_lt, t.nanos_fit⟩

theorem reads_offset (o : Offset) : Reads (Reader.offsetOf (Int64.ofInt o.seconds)) [] o := by
  have low := o.lower
  have high := o.upper
  apply reads_orMalformed
  rw [toInt_count (by omega) (by omega)]
  exact dif_pos ⟨o.lower, o.upper⟩

theorem reads_localDateTime (t : LocalDateTime) (regular : t.nanos < nanosPerSecond) :
    Reads (Reader.localDateTimeOf (Int64.ofInt t.second) (Int64.ofInt t.nanos)) [] t := by
  obtain ⟨low, high⟩ := t.inRange
  unfold firstSecond firstDay at low
  unfold lastSecond lastDay at high
  have small : t.nanos < 1000000000 := regular
  unfold Reader.localDateTimeOf
  rw [toInt_count (by omega) (by omega), toInt_count (by omega) (by omega),
    if_pos ⟨by omega, by exact_mod_cast regular⟩, Int.toNat_natCast]
  apply reads_orMalformed
  exact dif_pos ⟨t.inRange, t.nanos_fit⟩

theorem reads_dateTime {t : DateTime} {wall : LocalDateTime} (shown : t.wall? = some wall) :
    Reads (Reader.orMalformed (DateTime.of? wall t.offset) .dateTimeOutOfRange) [] t :=
  reads_orMalformed _ (DateTime.of?_eq_some.mpr ⟨shown, rfl⟩)

end Calendars

end GraphProtocol.Wire
