import SqlClient.Error
import SqlClient.Number.Checked

/-!
# Intervals

An interval has a sign, a leading field and the remaining part below it. Year and month intervals
measure in months, day and time intervals in nanoseconds. `Period` and `Duration` are the two lengths
a client works with.
-/

namespace SqlClient

/-- An interval. The remaining part is measured in the last field of the qualifier, or in nanoseconds
where that field is the second. -/
structure Interval where
  qualifier : Qualifier
  negative : Bool
  leading : Int64
  remaining : Int64
  deriving DecidableEq

/-- Nanoseconds in a second. -/
def nanosPerSecond : Nat := 1000000000

/-- Nanoseconds in a minute. -/
def nanosPerMinute : Nat := 60 * nanosPerSecond

/-- Nanoseconds in an hour. -/
def nanosPerHour : Nat := 60 * nanosPerMinute

/-- Nanoseconds in a day. -/
def nanosPerDay : Nat := 24 * nanosPerHour

namespace Interval

/-- The months of a year or month interval before its sign, if every step fits 64 bits. -/
def magnitudeMonths? (i : Interval) : Option Int64 :=
  match i.qualifier with
  | .year => checkedMul i.leading 12
  | .month => some i.leading
  | .yearToMonth => do checkedAdd (← checkedMul i.leading 12) i.remaining
  | _ => none

/-- The signed number of months of a year or month interval. -/
def toMonths (i : Interval) : Except EngineError Int64 :=
  if i.qualifier.isYearMonth then
    match i.magnitudeMonths?.bind fun m => if i.negative then checkedNeg m else some m with
    | some months => .ok months
    | none => .error (.numericOutOfRange "interval month count")
  else
    .error (.dataConversion ("INTERVAL " ++ i.qualifier.name ++ " cannot be converted to months"))

/-- The nanoseconds of a day or time interval before its sign; year and month intervals have
none. -/
def magnitudeNanos? (i : Interval) : Option Int :=
  let leading := i.leading.toInt
  let remaining := i.remaining.toInt
  match i.qualifier with
  | .day => some (leading * nanosPerDay)
  | .hour => some (leading * nanosPerHour)
  | .minute => some (leading * nanosPerMinute)
  | .second => some (leading * nanosPerSecond + remaining)
  | .dayToHour => some ((leading * 24 + remaining) * nanosPerHour)
  | .dayToMinute => some ((leading * 24 * 60 + remaining) * nanosPerMinute)
  | .dayToSecond => some (leading * nanosPerDay + remaining)
  | .hourToMinute => some ((leading * 60 + remaining) * nanosPerMinute)
  | .hourToSecond => some (leading * nanosPerHour + remaining)
  | .minuteToSecond => some (leading * nanosPerMinute + remaining)
  | .year | .month | .yearToMonth => none

/-- The signed number of nanoseconds of a day or time interval. -/
def toNanos (i : Interval) : Except EngineError Int :=
  match i.magnitudeNanos? with
  | some nanos => .ok (if i.negative then -nanos else nanos)
  | none =>
    .error (.dataConversion
      ("INTERVAL " ++ i.qualifier.name ++ " cannot be converted to a duration"))

/-- The interval of whole days and nanoseconds below a day that has this length. -/
def daySecond (nanos : Int) : Except EngineError Interval :=
  match int64? (nanos.natAbs / nanosPerDay) with
  | some days =>
    .ok ⟨.dayToSecond, decide (nanos < 0), days, .ofNat (nanos.natAbs % nanosPerDay)⟩
  | none => .error (.numericOutOfRange "interval day count")

end Interval

/-- A length in years and months. -/
structure Period where
  years : Int64
  months : Int64
  deriving DecidableEq

namespace Period

/-- The length in months, if every step fits 64 bits. -/
def totalMonths? (p : Period) : Option Int64 := do
  checkedAdd (← checkedMul p.years 12) p.months

/-- The interval of this length: in years where there are no months, in months where there are no
years, in both otherwise. -/
def toInterval (p : Period) : Except EngineError Interval :=
  let length := do
    let total ← p.totalMonths?
    let size ← if total < 0 then checkedNeg total else some total
    pure (decide (total < 0), size)
  match length with
  | some (negative, size) =>
    .ok <|
      if p.months = 0 then ⟨.year, negative, size / 12, 0⟩
      else if p.years = 0 then ⟨.month, negative, size, 0⟩
      else ⟨.yearToMonth, negative, size / 12, size % 12⟩
  | none =>
    .error (.numericOutOfRange
      (toString p.years.toInt ++ " years " ++ toString p.months.toInt ++ " months"))

/-- The field of an interval under its sign. -/
def signed (negative : Bool) (field : Int64) : Except EngineError Int64 :=
  if negative then
    match checkedNeg field with
    | some n => .ok n
    | none => .error (.numericOutOfRange (toString field.toInt))
  else .ok field

/-- The years and months of a year or month interval. -/
def ofInterval (i : Interval) : Except EngineError Period :=
  match i.qualifier with
  | .year => do return ⟨← signed i.negative i.leading, 0⟩
  | .month => do return ⟨0, ← signed i.negative i.leading⟩
  | .yearToMonth => do
    return ⟨← signed i.negative i.leading, ← signed i.negative i.remaining⟩
  | qualifier => .error (.noConversion (.interval qualifier) "INTERVAL YEAR TO MONTH")

end Period

/-- The greatest length of a `Duration`, in nanoseconds: 2^63 - 1 milliseconds. -/
def maxDurationNanos : Nat := 9223372036854775807 * 1000000

/-- A signed length of time in nanoseconds. -/
structure Duration where
  nanos : Int
  natAbs_le : nanos.natAbs ≤ maxDurationNanos
  deriving DecidableEq

namespace Duration

/-- The duration of so many nanoseconds, if there is one. -/
def ofNanos? (nanos : Int) : Option Duration :=
  if h : nanos.natAbs ≤ maxDurationNanos then some ⟨nanos, h⟩ else none

/-- The duration of whole seconds and of nanoseconds after them, which are less than a second, if
there is one. -/
def ofParts? (seconds : Int64) (nanos : Nat) : Option Duration :=
  if nanos < nanosPerSecond then ofNanos? (seconds.toInt * nanosPerSecond + nanos) else none

/-- The length of a day or time interval, taken over as the whole seconds before it and the
nanoseconds after them. -/
def ofInterval (i : Interval) : Except EngineError Duration := do
  let nanos ← i.toNanos
  let duration := do
    ofParts? (← int64? (nanos / nanosPerSecond)) (nanos % nanosPerSecond).toNat
  match duration with
  | some d => .ok d
  | none => .error (.numericOutOfRange (toString nanos))

/-- The whole seconds of a duration, cut off towards zero. -/
def wholeSeconds (d : Duration) : Int := d.nanos.tdiv nanosPerSecond

/-- The nanoseconds beside the whole seconds, of the same sign. -/
def subsecondNanos (d : Duration) : Int := d.nanos.tmod nanosPerSecond

/-- The interval of this length. -/
def toInterval (d : Duration) : Except EngineError Interval :=
  Interval.daySecond (d.wholeSeconds * nanosPerSecond + d.subsecondNanos)

end Duration

end SqlClient
