import GraphProtocol.Calendar.Date

/-!
# Times of day, offsets and moments

A moment on a local clock is a second counted from 1970-01-01T00:00:00 and the
nanoseconds within it. In a leap second there are a thousand million nanoseconds
or more, and they are kept as they are. A date-time with an offset is kept as the
moment at Greenwich, which is in the range of the calendar; the local clock may
then show a moment that is not. Two date-times are the same instant when they are
the same moment at Greenwich.
-/

set_option autoImplicit false

namespace GraphProtocol.Calendar

def nanosPerSecond : Nat := 1000000000

def secondsPerDay : Nat := 86400

def NanosFit (nanos : Nat) : Prop := nanos < 2 * nanosPerSecond

instance (nanos : Nat) : Decidable (NanosFit nanos) := inferInstanceAs (Decidable (_ < _))

structure TimeOfDay where
  second : Nat
  nanos : Nat
  second_lt : second < secondsPerDay
  nanos_fit : NanosFit nanos
  deriving DecidableEq, Repr

def TimeOfDay.of? (second nanos : Nat) : Option TimeOfDay :=
  if h : second < secondsPerDay ∧ NanosFit nanos then some ⟨second, nanos, h.1, h.2⟩ else none

/-- The time with these clock fields. Only the last second of a minute can be a leap second. -/
def TimeOfDay.ofClock? (hour minute second nanos : Nat) : Option TimeOfDay :=
  if hour < 24 ∧ minute < 60 ∧ second < 60 ∧ (second = 59 ∨ nanos < nanosPerSecond) then
    TimeOfDay.of? (hour * 3600 + minute * 60 + second) nanos
  else none

def TimeOfDay.hour (t : TimeOfDay) : Nat := t.second / 3600

def TimeOfDay.minute (t : TimeOfDay) : Nat := t.second / 60 % 60

def TimeOfDay.secondOfMinute (t : TimeOfDay) : Nat := t.second % 60

def TimeOfDay.nanosOfDay (t : TimeOfDay) : Nat := t.second * nanosPerSecond + t.nanos

def TimeOfDay.ofNanosOfDay? (nanos : Int) : Option TimeOfDay :=
  if 0 ≤ nanos ∧ nanos < secondsPerDay * nanosPerSecond then
    TimeOfDay.of? (nanos.toNat / nanosPerSecond) (nanos.toNat % nanosPerSecond)
  else none

/-- Seconds east of Greenwich, less than a day either way. -/
structure Offset where
  seconds : Int
  lower : -86400 < seconds
  upper : seconds < 86400
  deriving DecidableEq, Repr

def Offset.ofSeconds? (seconds : Int) : Option Offset :=
  if h : -86400 < seconds ∧ seconds < 86400 then some ⟨seconds, h.1, h.2⟩ else none

structure OffsetTime where
  time : TimeOfDay
  offset : Offset
  deriving DecidableEq, Repr

def firstSecond : Int := firstDay * 86400

def lastSecond : Int := lastDay * 86400 + 86399

def InRange (second : Int) : Prop := firstSecond ≤ second ∧ second ≤ lastSecond

instance (second : Int) : Decidable (InRange second) :=
  inferInstanceAs (Decidable (_ ∧ _))

structure LocalDateTime where
  second : Int
  nanos : Nat
  inRange : InRange second
  nanos_fit : NanosFit nanos
  deriving DecidableEq, Repr

def LocalDateTime.of? (second : Int) (nanos : Nat) : Option LocalDateTime :=
  if h : InRange second ∧ NanosFit nanos then some ⟨second, nanos, h.1, h.2⟩ else none

theorem LocalDateTime.of?_eq_some {second : Int} {nanos : Nat} {t : LocalDateTime} :
    LocalDateTime.of? second nanos = some t ↔ t.second = second ∧ t.nanos = nanos := by
  unfold LocalDateTime.of?
  constructor
  · intro is
    split at is
    · cases is
      exact ⟨rfl, rfl⟩
    · cases is
  · rintro ⟨rfl, rfl⟩
    rw [dif_pos ⟨t.inRange, t.nanos_fit⟩]

def LocalDateTime.ofDateTime? (date : Date) (time : TimeOfDay) : Option LocalDateTime :=
  LocalDateTime.of? (date.day * 86400 + time.second) time.nanos

def LocalDateTime.day (t : LocalDateTime) : Int := t.second / 86400

def LocalDateTime.civil (t : LocalDateTime) : CivilDate := CivilDate.ofDayNumber t.day

def LocalDateTime.secondOfDay (t : LocalDateTime) : Nat := (t.second % 86400).toNat

def LocalDateTime.time (t : LocalDateTime) : TimeOfDay where
  second := t.secondOfDay
  nanos := t.nanos
  second_lt := by unfold LocalDateTime.secondOfDay secondsPerDay; omega
  nanos_fit := t.nanos_fit

/-- What a clock at Greenwich shows, and the offset of the local clock. -/
structure DateTime where
  utc : LocalDateTime
  offset : Offset
  deriving DecidableEq, Repr

def DateTime.of? (wall : LocalDateTime) (offset : Offset) : Option DateTime :=
  (LocalDateTime.of? (wall.second - offset.seconds) wall.nanos).map fun utc => ⟨utc, offset⟩

/-- What the local clock shows, unless that is out of range. -/
def DateTime.wall? (t : DateTime) : Option LocalDateTime :=
  LocalDateTime.of? (t.utc.second + t.offset.seconds) t.utc.nanos

theorem DateTime.wall?_eq_some {t : DateTime} {wall : LocalDateTime} : t.wall? = some wall ↔
    wall.second = t.utc.second + t.offset.seconds ∧ wall.nanos = t.utc.nanos :=
  LocalDateTime.of?_eq_some

theorem DateTime.of?_eq_some {wall : LocalDateTime} {offset : Offset} {t : DateTime} :
    DateTime.of? wall offset = some t ↔ t.wall? = some wall ∧ t.offset = offset := by
  rw [DateTime.wall?_eq_some]
  unfold DateTime.of?
  constructor
  · intro is
    obtain ⟨utc, found, rfl⟩ := Option.map_eq_some_iff.mp is
    obtain ⟨second, nanos⟩ := LocalDateTime.of?_eq_some.mp found
    exact ⟨⟨by dsimp only; omega, nanos.symm⟩, rfl⟩
  · rintro ⟨⟨second, nanos⟩, rfl⟩
    have is : LocalDateTime.of? (wall.second - t.offset.seconds) wall.nanos = some t.utc :=
      LocalDateTime.of?_eq_some.mpr ⟨by omega, nanos.symm⟩
    rw [is]
    rfl

def DateTime.sameInstant (a b : DateTime) : Bool := a.utc == b.utc

/-- A local date-time and the name of a time zone, which is not interpreted. -/
structure ZonedDateTime where
  wall : LocalDateTime
  zone : String
  deriving DecidableEq, Repr

/-- A duration whose parts are kept apart, since months and days have no fixed length. -/
structure Duration where
  months : Int64
  days : Int64
  seconds : Int64
  nanoseconds : Int64
  deriving DecidableEq, Repr

end GraphProtocol.Calendar
