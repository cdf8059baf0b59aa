import GraphProtocol.Proofs.Wire.Versions

/-!
# Calendar values on the wire

The fields of a calendar value are integers of 64 bits, and most of these are on no calendar and no
clock. The fields that are legal are exactly those that are read, at every version that has calendar
values and wherever a structure may stand; all others are malformed. What has been read is written
with the same fields again.
-/

set_option autoImplicit false

namespace GraphProtocol

namespace Calendar

/-- A day, counted from 1970-01-01, between -262143-01-01 and 262142-12-31. -/
def OnCalendar (day : Int) : Prop :=
  (CivilDate.mk (-262143) 1 1).dayNumber ≤ day ∧ day ≤ (CivilDate.mk 262142 12 31).dayNumber

instance {day : Int} : Decidable (OnCalendar day) := inferInstanceAs (Decidable (_ ∧ _))

theorem firstDay_eq : (CivilDate.mk (-262143) 1 1).dayNumber = firstDay := by decide

theorem lastDay_eq : (CivilDate.mk 262142 12 31).dayNumber = lastDay := by decide

theorem onCalendar_iff {day : Int} : OnCalendar day ↔ firstDay ≤ day ∧ day ≤ lastDay := by
  unfold OnCalendar
  rw [firstDay_eq, lastDay_eq]

/-- A second is in range if its day is. -/
theorem inRange_iff {second : Int} : InRange second ↔ OnCalendar (second / 86400) := by
  rw [onCalendar_iff]
  unfold InRange firstSecond lastSecond firstDay lastDay
  omega

end Calendar

namespace Wire

open Calendar

/-! ## Fields -/

inductive Moment where
  | date (days : Int64)
  | time (nanos offset : Int64)
  | localTime (nanos : Int64)
  | localDateTime (second nanos : Int64)
  | dateTime (second nanos offset : Int64)
  | zonedDateTime (second nanos : Int64) (zone : String)
  deriving DecidableEq, Repr

namespace Moment

def kind : Moment → StructureKind
  | date _ => .date
  | time _ _ => .time
  | localTime _ => .localTime
  | localDateTime _ _ => .localDateTime
  | dateTime _ _ _ => .dateTime
  | zonedDateTime _ _ _ => .zonedDateTime

def fields : Moment → List Value
  | date days => [.integer days]
  | time nanos offset => [.integer nanos, .integer offset]
  | localTime nanos => [.integer nanos]
  | localDateTime second nanos => [.integer second, .integer nanos]
  | dateTime second nanos offset => [.integer second, .integer nanos, .integer offset]
  | zonedDateTime second nanos zone => [.integer second, .integer nanos, .string zone]

end Moment

def OnClock (nanos : Int64) : Prop := 0 ≤ nanos.toInt ∧ nanos.toInt < 86400 * 10 ^ 9

def WithinSecond (nanos : Int64) : Prop := 0 ≤ nanos.toInt ∧ nanos.toInt < 10 ^ 9

def IsOffset (seconds : Int64) : Prop := -86400 < seconds.toInt ∧ seconds.toInt < 86400

instance {nanos : Int64} : Decidable (OnClock nanos) := inferInstanceAs (Decidable (_ ∧ _))

instance {nanos : Int64} : Decidable (WithinSecond nanos) := inferInstanceAs (Decidable (_ ∧ _))

instance {seconds : Int64} : Decidable (IsOffset seconds) := inferInstanceAs (Decidable (_ ∧ _))

namespace Moment

def IsLegal : Moment → Prop
  | date days => OnCalendar days.toInt
  | time nanos offset => OnClock nanos ∧ IsOffset offset
  | localTime nanos => OnClock nanos
  | localDateTime second nanos | zonedDateTime second nanos _ =>
    WithinSecond nanos ∧ OnCalendar (second.toInt / 86400)
  | dateTime second nanos offset =>
    WithinSecond nanos ∧ OnCalendar (second.toInt / 86400) ∧ IsOffset offset ∧
      OnCalendar ((second.toInt - offset.toInt) / 86400)

instance : (m : Moment) → Decidable m.IsLegal
  | date _ => inferInstanceAs (Decidable (OnCalendar _))
  | time _ _ => inferInstanceAs (Decidable (OnClock _ ∧ IsOffset _))
  | localTime _ => inferInstanceAs (Decidable (OnClock _))
  | localDateTime _ _ | zonedDateTime _ _ _ =>
    inferInstanceAs (Decidable (WithinSecond _ ∧ OnCalendar _))
  | dateTime _ _ _ =>
    inferInstanceAs (Decidable (WithinSecond _ ∧ OnCalendar _ ∧ IsOffset _ ∧ OnCalendar _))

def Describes : Moment → Value → Prop
  | date days, .date d => d.day = days.toInt
  | time nanos offset, .time t =>
    (t.time.nanosOfDay : Int) = nanos.toInt ∧ t.offset.seconds = offset.toInt
  | localTime nanos, .localTime t => (t.nanosOfDay : Int) = nanos.toInt
  | localDateTime second nanos, .localDateTime t =>
    t.second = second.toInt ∧ (t.nanos : Int) = nanos.toInt
  | dateTime second nanos offset, .dateTime t =>
    (∃ wall, t.wall? = some wall ∧ wall.second = second.toInt ∧ (wall.nanos : Int) = nanos.toInt) ∧
      t.offset.seconds = offset.toInt
  | zonedDateTime second nanos zone, .zonedDateTime t =>
    (t.wall.second = second.toInt ∧ (t.wall.nanos : Int) = nanos.toInt) ∧ t.zone = zone
  | _, _ => False

end Moment

/-! ## Judging fields -/

/-- The reader takes no bytes. It gives something good if the condition holds, and finds the message
malformed if not. -/
structure Judges {α : Type} (read : Reader α) (legal : Prop) (good : α → Prop) : Prop where
  accepts : legal → ∃ a, good a ∧ ∀ cursor, read cursor = .ok a cursor
  rejects : ¬ legal → ∃ cause, ∀ cursor, read cursor = .error (.malformed cause) cursor

section Judging

variable {α β : Type} {read : Reader α} {next : α → Reader β} {legal also : Prop} {good : α → Prop}
  {fine : β → Prop}

theorem judges_congr (judged : Judges read legal good) (same : legal ↔ also) :
    Judges read also good where
  accepts holds := judged.accepts (same.mpr holds)
  rejects fails := judged.rejects fun holds => fails (same.mp holds)

theorem judges_bind (first : Judges read legal good)
    (further : ∀ a, good a → Judges (next a) also fine) :
    Judges (read >>= next) (legal ∧ also) fine := by
  constructor
  · rintro ⟨holds, holds'⟩
    obtain ⟨a, is, given⟩ := first.accepts holds
    obtain ⟨b, is', given'⟩ := (further a is).accepts holds'
    refine ⟨b, is', fun cursor => ?_⟩
    exact sequence_given.mpr ⟨a, cursor, given cursor, given' cursor⟩
  · intro fails
    by_cases holds : legal
    · obtain ⟨a, is, given⟩ := first.accepts holds
      obtain ⟨cause, failed⟩ := (further a is).rejects fun holds' => fails ⟨holds, holds'⟩
      refine ⟨cause, fun cursor => ?_⟩
      exact sequence_failed.mpr (.inr ⟨a, cursor, given cursor, failed cursor⟩)
    · obtain ⟨cause, failed⟩ := first.rejects holds
      exact ⟨cause, fun cursor => sequence_failed.mpr (.inl (failed cursor))⟩

/-- What has been judged is wrapped up. -/
theorem judges_wrap (wrap : α → β) (first : Judges read legal good)
    (keeps : ∀ a, good a → fine (wrap a)) :
    Judges (read >>= fun a => pure (wrap a)) legal fine := by
  constructor
  · intro holds
    obtain ⟨a, is, given⟩ := first.accepts holds
    refine ⟨wrap a, keeps a is, fun cursor => ?_⟩
    exact sequence_given.mpr ⟨a, cursor, given cursor, rfl⟩
  · intro fails
    obtain ⟨cause, failed⟩ := first.rejects fails
    exact ⟨cause, fun cursor => sequence_failed.mpr (.inl (failed cursor))⟩

theorem judges_orMalformed {value : Option α} {cause : Malformation}
    (some : legal → ∃ a, value = some a ∧ good a) (none : ¬ legal → value = none) :
    Judges (Reader.orMalformed value cause) legal good := by
  constructor
  · intro holds
    obtain ⟨a, rfl, is⟩ := some holds
    exact ⟨a, is, fun _ => rfl⟩
  · intro fails
    rw [none fails]
    exact ⟨cause, fun _ => rfl⟩

end Judging

theorem judges_date (days : Int64) :
    Judges (Reader.dateOf days) (OnCalendar days.toInt) fun d => d.day = days.toInt := by
  unfold Reader.dateOf Date.ofDay?
  rw [onCalendar_iff]
  apply judges_orMalformed
  · intro within
    exact ⟨_, dif_pos within, rfl⟩
  · exact fun outside => dif_neg outside

theorem judges_time (nanos : Int64) :
    Judges (Reader.timeOf nanos) (OnClock nanos) fun t => (t.nanosOfDay : Int) = nanos.toInt := by
  have day : (secondsPerDay * nanosPerSecond : Int) = 86400 * 10 ^ 9 := by decide
  unfold Reader.timeOf TimeOfDay.ofNanosOfDay? OnClock
  rw [day]
  apply judges_orMalformed
  · intro within
    have second : nanos.toInt.toNat / nanosPerSecond < secondsPerDay := by
      unfold nanosPerSecond secondsPerDay
      omega
    have part : NanosFit (nanos.toInt.toNat % nanosPerSecond) := by
      unfold NanosFit nanosPerSecond
      omega
    refine ⟨⟨_, _, second, part⟩, ?_, ?_⟩
    · rw [if_pos within]
      exact dif_pos ⟨second, part⟩
    · unfold TimeOfDay.nanosOfDay
      rw [Nat.div_add_mod']
      exact Int.toNat_of_nonneg within.1
  · exact fun outside => if_neg outside

theorem judges_offset (seconds : Int64) :
    Judges (Reader.offsetOf seconds) (IsOffset seconds) fun o => o.seconds = seconds.toInt := by
  unfold Reader.offsetOf Offset.ofSeconds?
  apply judges_orMalformed
  · intro within
    exact ⟨_, dif_pos within, rfl⟩
  · exact fun outside => dif_neg outside

theorem judges_localDateTime (second nanos : Int64) :
    Judges (Reader.localDateTimeOf second nanos)
      (WithinSecond nanos ∧ OnCalendar (second.toInt / 86400))
      fun t => t.second = second.toInt ∧ (t.nanos : Int) = nanos.toInt := by
  unfold Reader.localDateTimeOf
  by_cases within : WithinSecond nanos
  · have small : NanosFit nanos.toInt.toNat := by
      unfold WithinSecond at within
      unfold NanosFit nanosPerSecond
      omega
    have whole : (nanos.toInt.toNat : Int) = nanos.toInt := Int.toNat_of_nonneg within.1
    rw [if_pos (show 0 ≤ nanos.toInt ∧ nanos.toInt < nanosPerSecond from within)]
    rw [← inRange_iff]
    unfold LocalDateTime.of?
    apply judges_orMalformed
    · rintro ⟨-, inRange⟩
      exact ⟨_, dif_pos ⟨inRange, small⟩, rfl, whole⟩
    · exact fun outside => dif_neg fun both => outside ⟨within, both.1⟩
  · rw [if_neg (show ¬ (0 ≤ nanos.toInt ∧ nanos.toInt < nanosPerSecond) from within)]
    exact ⟨fun legal => absurd legal.1 within, fun _ => ⟨_, fun _ => rfl⟩⟩

theorem judges_dateTime (wall : LocalDateTime) (offset : Offset) :
    Judges (Reader.orMalformed (DateTime.of? wall offset) .dateTimeOutOfRange)
      (OnCalendar ((wall.second - offset.seconds) / 86400))
      fun t => t.wall? = some wall ∧ t.offset = offset := by
  rw [← inRange_iff]
  apply judges_orMalformed
  · intro within
    have made : DateTime.of? wall offset = some ⟨⟨_, _, within, wall.nanos_fit⟩, offset⟩ := by
      unfold DateTime.of? LocalDateTime.of?
      rw [dif_pos ⟨within, wall.nanos_fit⟩]
      rfl
    exact ⟨_, made, DateTime.of?_eq_some.mp made⟩
  · intro outside
    unfold DateTime.of? LocalDateTime.of?
    rw [dif_neg fun both => outside both.1]
    rfl

namespace Moment

def judge : Moment → Reader Value
  | date days => return .date (← Reader.dateOf days)
  | time nanos offset => do
    let time ← Reader.timeOf nanos
    return .time ⟨time, ← Reader.offsetOf offset⟩
  | localTime nanos => return .localTime (← Reader.timeOf nanos)
  | localDateTime second nanos => return .localDateTime (← Reader.localDateTimeOf second nanos)
  | dateTime second nanos seconds => do
    let offset ← Reader.offsetOf seconds
    let wall ← Reader.localDateTimeOf second nanos
    return .dateTime (← Reader.orMalformed (DateTime.of? wall offset) .dateTimeOutOfRange)
  | zonedDateTime second nanos zone =>
    return .zonedDateTime ⟨← Reader.localDateTimeOf second nanos, zone⟩

theorem judges_legal (m : Moment) : Judges m.judge m.IsLegal m.Describes := by
  cases m with
  | date days => exact judges_wrap _ (judges_date days) fun _ is => is
  | time nanos offset =>
    apply judges_bind (judges_time nanos)
    intro t is
    exact judges_wrap _ (judges_offset offset) fun _ is' => ⟨is, is'⟩
  | localTime nanos => exact judges_wrap _ (judges_time nanos) fun _ is => is
  | localDateTime second nanos =>
    exact judges_wrap _ (judges_localDateTime second nanos) fun _ is => is
  | zonedDateTime second nanos zone =>
    exact judges_wrap _ (judges_localDateTime second nanos) fun _ is => ⟨is, rfl⟩
  | dateTime second nanos seconds =>
    -- The offset is judged before the clock, and the instant last.
    have judged : Judges (judge (dateTime second nanos seconds)) (IsOffset seconds ∧
        (WithinSecond nanos ∧ OnCalendar (second.toInt / 86400)) ∧
        OnCalendar ((second.toInt - seconds.toInt) / 86400))
        (Describes (dateTime second nanos seconds)) := by
      apply judges_bind (judges_offset seconds)
      intro offset shifted
      apply judges_bind (judges_localDateTime second nanos)
      intro wall is
      rw [← is.1, ← shifted]
      apply judges_wrap _ (judges_dateTime wall offset)
      rintro t ⟨shown, rfl⟩
      exact ⟨⟨wall, shown, is⟩, shifted⟩
    apply judges_congr judged
    simp only [IsLegal]
    tauto

end Moment

/-! ## Structures -/

/-- The bytes hold these values one after another, each in any form in which it is read. -/
inductive Spells (version : Version) : List Value → List UInt8 → Prop
  | nil : Spells version [] []
  | cons {v : Value} {rest : List Value} {early late : List UInt8} :
    (∀ inner, Reads (Reader.valueBy version inner) early v) → Spells version rest late →
    Spells version (v :: rest) (early ++ late)

section Structures

variable {version : Version} {inner : Option (Reader Value)} {α β : Type}

theorem after_reads {read : Reader α} {next : α → Reader β} {bytes : List UInt8} {a : α}
    (first : Reads read bytes a) (rest : List UInt8) (depth : Nat) :
    (read >>= next) ⟨bytes ++ rest, depth⟩ = next a ⟨rest, depth⟩ :=
  sequence_after (first rest depth)

/-- An integer is read at every width that holds it. -/
theorem reads_wide {b : UInt8} {width : Nat} {bytes : List UInt8} {i : Int64}
    (marked : Marker.ofByte? b = some (.integer width)) (long : bytes.length = width)
    (spelt : Int64.ofInt (ofSignedBigEndian bytes) = i) :
    Reads (Reader.valueBy version inner) (b :: bytes) (.integer i) := by
  subst long spelt
  apply reads_bind (reads_byte b)
  rw [marked]
  exact reads_wrap Value.integer (reads_wrap _ (reads_take bytes))

theorem reads_expecting {read : Reader Value} {expected : ValueType} {as? : Value → Option α}
    {bytes : List UInt8} {v : Value} {a : α} (first : Reads read bytes v) (is : as? v = some a) :
    Reads (Reader.expecting read expected as?) bytes a := by
  intro rest depth
  unfold Reader.expecting
  rw [after_reads first, is]
  rfl

/-- Once its fields have been read, a calendar value is judged. -/
theorem fields_judged {m : Moment} {bytes : List UInt8} (spelt : Spells version m.fields bytes)
    (rest : List UInt8) (depth : Nat) :
    Reader.fieldsOf (Reader.valueBy version inner) m.kind ⟨bytes ++ rest, depth⟩ =
      m.judge ⟨rest, depth⟩ := by
  have integer {bytes : List UInt8} {i : Int64}
      (first : ∀ inner, Reads (Reader.valueBy version inner) bytes (.integer i)) :
      Reads (Reader.integerBy (Reader.valueBy version inner)) bytes i :=
    reads_expecting (first inner) rfl
  have string {bytes : List UInt8} {s : String}
      (first : ∀ inner, Reads (Reader.valueBy version inner) bytes (.string s)) :
      Reads (Reader.stringBy (Reader.valueBy version inner)) bytes s :=
    reads_expecting (first inner) rfl
  cases m with
  | date days | localTime nanos =>
    obtain _ | ⟨first, _ | _⟩ := spelt
    rw [List.append_assoc]
    exact after_reads (integer first) _ depth
  | time nanos offset | localDateTime second nanos =>
    obtain _ | ⟨first, _ | ⟨next, _ | _⟩⟩ := spelt
    simp only [List.append_assoc]
    exact (after_reads (integer first) _ depth).trans (after_reads (integer next) _ depth)
  | dateTime second nanos offset =>
    obtain _ | ⟨first, _ | ⟨next, _ | ⟨last, _ | _⟩⟩⟩ := spelt
    simp only [List.append_assoc]
    exact (after_reads (integer first) _ depth).trans
      ((after_reads (integer next) _ depth).trans (after_reads (integer last) _ depth))
  | zonedDateTime second nanos zone =>
    obtain _ | ⟨first, _ | ⟨next, _ | ⟨last, _ | _⟩⟩⟩ := spelt
    simp only [List.append_assoc]
    exact (after_reads (integer first) _ depth).trans
      ((after_reads (integer next) _ depth).trans (after_reads (string last) _ depth))

/-- Behind the header of a structure its fields are read one level down. -/
theorem value_headed {kind : StructureKind} {header : List UInt8}
    (known : kind.isExtended = true → version.hasExtendedValues = true)
    (headed : Reads Reader.structureHeader header (kind.arity, kind.signature))
    {depth : Nat} (room : depth < maxDepth) (rest : List UInt8) :
    ∃ inner, Reader.value version ⟨header ++ rest, depth⟩ =
      Reader.leaving (Reader.fieldsOf (Reader.valueBy version inner) kind) ⟨rest, depth + 1⟩ := by
  obtain ⟨levels, left⟩ : ∃ levels, maxDepth - depth = levels + 1 :=
    ⟨maxDepth - depth - 1, by omega⟩
  obtain ⟨inner, same⟩ := valueWithin_by version levels
  refine ⟨inner, ?_⟩
  have body : Reader.structureBody version (Reader.valueBy version inner) kind.arity
      kind.signature = Reader.fieldsOf (Reader.valueBy version inner) kind := by
    unfold Reader.structureBody
    rw [ofSignature?_signature known]
    exact if_pos rfl
  change Reader.valueWithin version (maxDepth - depth) _ = _
  rw [left]
  change Reader.valueBy version (some (Reader.valueWithin version levels)) _ = _
  rw [same, ← body]
  obtain ⟨b, between, first, given⟩ := sequence_given.mp (headed rest depth)
  cases marked : Marker.ofByte? b with
  | none =>
    rw [marked] at given
    cases given
  | some marker =>
    rw [marked] at given
    cases marker with
    | «structure» size =>
      dsimp only at given
      rw [Reader.valueBy, sequence_after first, marked]
      dsimp only
      rw [sequence_after given]
      rfl
    | _ => cases given

/-- What is spelt can be written, as sizes have no more than 32 bits in any form. -/
theorem spelt_clear {fields : List Value} {bytes : List UInt8}
    (spelt : Spells version fields bytes) : ∀ v ∈ fields, (v.write version).abort = none := by
  induction spelt with
  | nil => exact List.forall_mem_nil _
  | @cons v rest early late first _ ih =>
    have paid := affords_within version 0 ⟨early ++ [], 0⟩ v ⟨[], 0⟩ (first none [] 0)
    exact List.forall_mem_cons.mpr ⟨paid.clear, ih⟩

structure Writes (version : Version) (w : Written) (fields : List Value) : Prop where
  clear : w.abort = none
  spelt : Spells version fields w.bytes

theorem writes_cons {w w' : Written} {v : Value} {rest : List Value}
    (first : ∀ inner, Carries (Reader.valueBy version inner) w v) (clear : w.abort = none)
    (others : Writes version w' rest) : Writes version (w ++ w') (v :: rest) := by
  have both := Written.append_abort.mpr ⟨clear, others.clear⟩
  refine ⟨both, ?_⟩
  rw [Written.append_bytes both]
  exact .cons (fun inner => first inner clear) others.spelt

theorem writes_last {w : Written} {v : Value}
    (last : ∀ inner, Carries (Reader.valueBy version inner) w v) (clear : w.abort = none) :
    Writes version w [v] := by
  refine ⟨clear, ?_⟩
  rw [← List.append_nil w.bytes]
  exact .cons (fun inner => last inner clear) .nil

theorem writes_integer (i : Int64) : Writes version (writeInteger i) [.integer i] :=
  writes_last (fun _ => carries_integer i) writeInteger_clear

theorem writes_integers {w : Written} {rest : List Value} (i : Int64)
    (others : Writes version w rest) : Writes version (writeInteger i ++ w) (.integer i :: rest) :=
  writes_cons (fun _ => carries_integer i) writeInteger_clear others

/-- A calendar value is written with the fields that describe it. -/
theorem described_written {m : Moment} {v : Value} (described : m.Describes v)
    (allowed : version.hasExtendedValues = true)
    (clear : ∀ field ∈ m.fields, (field.write version).abort = none) :
    ∃ w, v.write version = writeHeader m.kind ++ w ∧ Writes version w m.fields := by
  cases m with
  | date days =>
    cases v with
    | date d =>
      rw [Value.write_date allowed, described, writeCount_toInt]
      exact ⟨_, rfl, writes_integer days⟩
    | _ => cases described
  | time nanos offset =>
    cases v with
    | time t =>
      obtain ⟨clock, shifted⟩ := described
      rw [Value.write_time allowed, clock, shifted, writeCount_toInt, writeCount_toInt,
        Written.append_assoc]
      exact ⟨_, rfl, writes_integers nanos (writes_integer offset)⟩
    | _ => cases described
  | localTime nanos =>
    cases v with
    | localTime t =>
      rw [Value.write_localTime allowed, described, writeCount_toInt]
      exact ⟨_, rfl, writes_integer nanos⟩
    | _ => cases described
  | localDateTime second nanos =>
    cases v with
    | localDateTime t =>
      obtain ⟨clock, part⟩ := described
      rw [Value.write_localDateTime allowed, writeLocalDateTime, clock, part, writeCount_toInt,
        writeCount_toInt]
      exact ⟨_, rfl, writes_integers second (writes_integer nanos)⟩
    | _ => cases described
  | dateTime second nanos offset =>
    cases v with
    | dateTime t =>
      obtain ⟨⟨wall, shown, clock, part⟩, shifted⟩ := described
      rw [Value.write_dateTime allowed shown, writeLocalDateTime, clock, part, shifted,
        writeCount_toInt, writeCount_toInt, writeCount_toInt, Written.append_assoc,
        Written.append_assoc]
      exact ⟨_, rfl, writes_integers second (writes_integers nanos (writes_integer offset))⟩
    | _ => cases described
  | zonedDateTime second nanos zone =>
    cases v with
    | zonedDateTime t =>
      obtain ⟨⟨clock, part⟩, named⟩ := described
      have clear := clear (.string zone) (by simp [Moment.fields])
      rw [Value.write_string] at clear
      rw [Value.write_zonedDateTime allowed, writeLocalDateTime, clock, part, named,
        writeCount_toInt, writeCount_toInt, Written.append_assoc, Written.append_assoc]
      have last : Writes version (writeString zone) [.string zone] :=
        writes_last (fun _ => carries_string zone) clear
      exact ⟨_, rfl, writes_integers second (writes_integers nanos last)⟩
    | _ => cases described

end Structures

/-! ## Calendar values -/

/-- A calendar value is read if and only if its fields are legal, in whatever form they and the
header stand, wherever there is room for a structure. The value is the one that the fields describe,
and it is written with the same fields. Otherwise the message is malformed. -/
theorem moments_judged (m : Moment) {version : Version} (later : 2 ≤ version.number)
    {header bytes : List UInt8}
    (headed : Reads Reader.structureHeader header (m.kind.arity, m.kind.signature))
    (spelt : Spells version m.fields bytes) {depth : Nat} (room : depth < maxDepth)
    (rest : List UInt8) :
    (m.IsLegal → ∃ v again,
      Reader.value version ⟨header ++ bytes ++ rest, depth⟩ = .ok v ⟨rest, depth⟩ ∧
      m.Describes v ∧
      v.encode version = .ok (UInt8.ofNat (0xB0 + m.kind.arity) :: m.kind.signature :: again) ∧
      Spells version m.fields again) ∧
    (¬ m.IsLegal → ∃ cause,
      Reader.value version ⟨header ++ bytes ++ rest, depth⟩ =
        .error (.malformed cause) ⟨rest, depth⟩) := by
  have allowed : version.hasExtendedValues = true := decide_eq_true later
  obtain ⟨inner, below⟩ := value_headed (fun _ => allowed) headed room (bytes ++ rest)
  have judged := m.judges_legal
  constructor
  · intro legal
    obtain ⟨v, described, given⟩ := judged.accepts legal
    obtain ⟨w, written, again⟩ := described_written described allowed (spelt_clear spelt)
    have clear : (writeHeader m.kind ++ w).abort = none :=
      Written.append_abort.mpr ⟨writeHeader_clear, again.clear⟩
    refine ⟨v, w.bytes, ?_, described, ?_, again.spelt⟩
    · rw [List.append_assoc, below]
      unfold Reader.leaving
      rw [fields_judged spelt, given]
      rfl
    · unfold Value.encode Written.result
      rw [written, clear, Written.append_bytes clear, writeHeader_eq]
      rfl
  · intro illegal
    obtain ⟨cause, given⟩ := judged.rejects illegal
    refine ⟨cause, ?_⟩
    rw [List.append_assoc, below]
    unfold Reader.leaving
    rw [fields_judged spelt, given]
    rfl

def firstMoment : Int64 := -8334601228800

/-- It exists with a clock that is an hour behind Greenwich, and not with one that is an hour ahead.
The header and the last field are wider than they need be, and the structure stands in the innermost
list that there may be. -/
theorem sample_judged :
    (∃ v again, Reader.value .v2 ⟨[0xDC, 0x03, 0x46, 0xCB, 0xFF, 0xFF, 0xF8, 0x6B, 0x73, 0x0D, 0xEE,
        0x00, 0x09, 0xCA, 0xFF, 0xFF, 0xF1, 0xF0], 31⟩ = .ok v ⟨[], 31⟩ ∧
      (Moment.dateTime firstMoment 9 (-3600)).Describes v ∧
      v.encode .v2 = .ok (0xB3 :: 0x46 :: again) ∧
      Spells .v2 [.integer firstMoment, .integer 9, .integer (-3600)] again) ∧
    ∃ cause, Reader.value .v2 ⟨[0xDC, 0x03, 0x46, 0xCB, 0xFF, 0xFF, 0xF8, 0x6B, 0x73, 0x0D, 0xEE,
        0x00, 0x09, 0xC9, 0x0E, 0x10], 31⟩ = .error (.malformed cause) ⟨[], 31⟩ := by
  have headed : Reads Reader.structureHeader [0xDC, 0x03, 0x46] (3, 0x46) := fun _ _ => rfl
  have first (inner : Option (Reader Value)) : Reads (Reader.valueBy .v2 inner)
      [0xCB, 0xFF, 0xFF, 0xF8, 0x6B, 0x73, 0x0D, 0xEE, 0x00] (.integer firstMoment) :=
    reads_wide rfl rfl (by decide)
  have part (inner : Option (Reader Value)) : Reads (Reader.valueBy .v2 inner) [0x09]
      (.integer 9) := fun _ _ => rfl
  have behind (inner : Option (Reader Value)) : Reads (Reader.valueBy .v2 inner)
      [0xCA, 0xFF, 0xFF, 0xF1, 0xF0] (.integer (-3600)) := reads_wide rfl rfl (by decide)
  have ahead (inner : Option (Reader Value)) : Reads (Reader.valueBy .v2 inner)
      [0xC9, 0x0E, 0x10] (.integer 3600) := reads_wide rfl rfl (by decide)
  constructor
  · apply (moments_judged (.dateTime firstMoment 9 (-3600)) (by decide) headed
      (.cons first (.cons part (.cons behind .nil))) (by decide) []).1
    decide
  · apply (moments_judged (.dateTime firstMoment 9 3600) (by decide) headed
      (.cons first (.cons part (.cons ahead .nil))) (by decide) []).2
    decide

end Wire

end GraphProtocol
