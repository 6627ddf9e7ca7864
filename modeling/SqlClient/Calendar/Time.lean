import SqlClient.Text.Digits

/-!
# Times of day

A time of day counts the seconds since midnight and the nanoseconds since that second. A leap second
is the second nanosecond billion of the second before it.
-/

namespace SqlClient

/-- Seconds in a day. -/
def secondsPerDay : Nat := 86400

/-- A time of day. -/
structure Time where
  second : Nat
  nano : Nat
  second_lt : second < secondsPerDay
  nano_lt : nano < 2000000000
  deriving DecidableEq

namespace Time

/-- The time that a clock shows as these numbers; a leap second is written as second 59 with a
billion nanoseconds or more. -/
def ofFields? (hour minute second nano : Nat) : Option Time :=
  if h : hour < 24 ∧ minute < 60 ∧ second < 60 ∧
      (nano < 1000000000 ∨ second = 59 ∧ nano < 2000000000) then
    some ⟨hour * 3600 + minute * 60 + second, nano, by unfold secondsPerDay; omega, by omega⟩
  else none

/-- The start of the day. -/
def midnight : Time := ⟨0, 0, by decide, by decide⟩

/-- The hour of the day. -/
def hour (t : Time) : Nat := t.second / 3600

/-- The minute of the hour. -/
def minute (t : Time) : Nat := t.second / 60 % 60

/-- The second of the minute, 60 in a leap second. -/
def shownSecond (t : Time) : Nat := t.second % 60 + t.nano / 1000000000

/-- The fraction of a second: nothing, or as many of 3, 6 and 9 digits as are needed. -/
def fractionText (nano : Nat) : String :=
  let nano := nano % 1000000000
  if nano = 0 then ""
  else if nano % 1000000 = 0 then "." ++ Text.paddedDigits 3 (nano / 1000000)
  else if nano % 1000 = 0 then "." ++ Text.paddedDigits 6 (nano / 1000)
  else "." ++ Text.paddedDigits 9 nano

/-- Hour, minute and second with colons between them, and the fraction. -/
def text (t : Time) : String :=
  Text.paddedDigits 2 t.hour ++ ":" ++ Text.paddedDigits 2 t.minute ++ ":" ++
    Text.paddedDigits 2 t.shownSecond ++ fractionText t.nano

end Time

end SqlClient
