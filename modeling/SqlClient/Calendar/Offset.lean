import SqlClient.Calendar.Time

/-!
# Offsets from UTC

A time zone is a fixed number of seconds east of UTC, less than a day either way.
-/

namespace SqlClient

/-- Seconds east of UTC. -/
structure Offset where
  seconds : Int
  natAbs_lt : seconds.natAbs < secondsPerDay
  deriving DecidableEq

namespace Offset

/-- UTC itself. -/
def utc : Offset := ⟨0, by decide⟩

/-- The offset of so many seconds, if there is one. -/
def ofSeconds? (seconds : Int) : Option Offset :=
  if h : seconds.natAbs < secondsPerDay then some ⟨seconds, h⟩ else none

/-- The sign of an offset; offset zero has a plus. -/
def sign (o : Offset) : String := if o.seconds < 0 then "-" else "+"

/-- Hours and minutes of a number of minutes. -/
def hourMinuteText (minutes : Nat) : String :=
  Text.paddedDigits 2 (minutes / 60) ++ ":" ++ Text.paddedDigits 2 (minutes % 60)

/-- Sign, hours and minutes, and the seconds where there are any. -/
def text (o : Offset) : String :=
  let size := o.seconds.natAbs
  o.sign ++ hourMinuteText (size / 60) ++
    if size % 60 = 0 then "" else ":" ++ Text.paddedDigits 2 (size % 60)

/-- Sign, hours and minutes, the seconds rounded to the nearest minute and a half away from zero. -/
def minuteText (o : Offset) : String :=
  o.sign ++ hourMinuteText ((o.seconds.natAbs + 30) / 60)

end Offset

/-- A time of day at an offset from UTC. -/
structure OffsetTime where
  time : Time
  offset : Offset
  deriving DecidableEq

/-- The time followed by the offset, to the second. -/
def OffsetTime.text (t : OffsetTime) : String := t.time.text ++ t.offset.text

end SqlClient
