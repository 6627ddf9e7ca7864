import SqlClient.Calendar.Date
import SqlClient.Calendar.Offset

/-!
# Dates with a time

A `DateTime` is what calendar and clock show, an `Instant` is a point of the time line, and an
`OffsetDateTime` is what they show at an offset from UTC, where that is a point of the time line.
-/

namespace SqlClient

/-- A date and a time of day. -/
structure DateTime where
  date : Date
  time : Time
  deriving DecidableEq

namespace DateTime

/-- What the clock at UTC shows when this is shown at an offset, if the calendar reaches that far. A
leap second stays one. -/
def toUtc? (t : DateTime) (offset : Offset) : Option DateTime :=
  let second : Int := t.time.second - offset.seconds
  have low : -secondsPerDay < second := by
    have := offset.natAbs_lt; omega
  have high : second < 2 * secondsPerDay := by
    have := offset.natAbs_lt; have := t.time.second_lt; omega
  if h : second < 0 then
    t.date.previous?.map (⟨·, (second + secondsPerDay).toNat, t.time.nano, by omega, t.time.nano_lt⟩)
  else if h : second < secondsPerDay then
    some ⟨t.date, second.toNat, t.time.nano, by omega, t.time.nano_lt⟩
  else
    t.date.next?.map (⟨·, (second - secondsPerDay).toNat, t.time.nano, by omega, t.time.nano_lt⟩)

/-- Nothing moves at offset zero. -/
@[simp] theorem toUtc?_utc (t : DateTime) : t.toUtc? .utc = some t := by
  have hlt := t.time.second_lt
  have hzero : Offset.utc.seconds = 0 := rfl
  have hsame : ((t.time.second : Int) - Offset.utc.seconds).toNat = t.time.second := by omega
  unfold toUtc?
  rw [dif_neg (by omega), dif_pos (by omega)]
  simp only [hsame]

/-- Date and time with a blank between them. -/
def text (t : DateTime) : String := t.date.text ++ " " ++ t.time.text

end DateTime

/-- A point of the time line, as the clock at UTC shows it. -/
structure Instant where
  utc : DateTime
  deriving DecidableEq

/-- What calendar and clock show at an offset from UTC. On its first and its last day the calendar
has points of the time line that it can show at UTC and not at every offset; such points at such
offsets are left out. -/
structure OffsetDateTime where
  shown : DateTime
  offset : Offset
  isSome_toUtc? : (shown.toUtc? offset).isSome = true
  deriving DecidableEq

namespace OffsetDateTime

/-- The reading of calendar and clock at an offset, if it is a point of the time line. -/
def ofShown? (shown : DateTime) (offset : Offset) : Option OffsetDateTime :=
  if h : (shown.toUtc? offset).isSome then some ⟨shown, offset, h⟩ else none

/-- The point of the time line. -/
def toInstant (t : OffsetDateTime) : Instant :=
  ⟨(t.shown.toUtc? t.offset).get t.isSome_toUtc?⟩

/-- Date and time followed by the offset, to the minute. -/
def text (t : OffsetDateTime) : String := t.shown.text ++ t.offset.minuteText

end OffsetDateTime

/-- The reading at UTC of a point of the time line. -/
def Instant.atUtc (i : Instant) : OffsetDateTime :=
  ⟨i.utc, .utc, by simp⟩

/-- Reading a point at UTC and going back changes nothing. -/
@[simp] theorem Instant.toInstant_atUtc (i : Instant) : i.atUtc.toInstant = i := by
  simp [Instant.atUtc, OffsetDateTime.toInstant]

end SqlClient
