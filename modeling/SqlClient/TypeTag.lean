/-!
# Type tags

The runtime type of an engine value, and the precision and scale an engine reports for it.
-/

namespace SqlClient

/-- The fields an interval is measured in. -/
inductive Qualifier where
  | year
  | month
  | day
  | hour
  | minute
  | second
  | yearToMonth
  | dayToHour
  | dayToMinute
  | dayToSecond
  | hourToMinute
  | hourToSecond
  | minuteToSecond
  deriving DecidableEq, Repr

namespace Qualifier

/-- The qualifiers measured in months; the others are measured in nanoseconds. -/
def isYearMonth : Qualifier → Bool
  | .year | .month | .yearToMonth => true
  | _ => false

/-- The qualifier as it appears in the name of an interval type. -/
def name : Qualifier → String
  | .year => "Year"
  | .month => "Month"
  | .day => "Day"
  | .hour => "Hour"
  | .minute => "Minute"
  | .second => "Second"
  | .yearToMonth => "YearToMonth"
  | .dayToHour => "DayToHour"
  | .dayToMinute => "DayToMinute"
  | .dayToSecond => "DayToSecond"
  | .hourToMinute => "HourToMinute"
  | .hourToSecond => "HourToSecond"
  | .minuteToSecond => "MinuteToSecond"

/-- Every qualifier. -/
def all : List Qualifier :=
  [.year, .month, .day, .hour, .minute, .second, .yearToMonth, .dayToHour, .dayToMinute, .dayToSecond,
    .hourToMinute, .hourToSecond, .minuteToSecond]

theorem mem_all (q : Qualifier) : q ∈ all := by cases q <;> decide

end Qualifier

/-- The runtime type of an engine value. -/
inductive TypeTag where
  | null
  | boolean
  | tinyInt
  | smallInt
  | integer
  | bigInt
  | real
  | double
  | numeric
  | char
  | varchar
  | clob
  | binary
  | varbinary
  | blob
  | date
  | time
  | timeTz
  | timestamp
  | timestampTz
  | interval (qualifier : Qualifier)
  | json
  | uuid
  | enum
  | array
  | geometry
  deriving DecidableEq, Repr

namespace TypeTag

/-- The tag as messages spell it. -/
def display : TypeTag → String
  | .null => "NULL"
  | .boolean => "BOOLEAN"
  | .tinyInt => "TINYINT"
  | .smallInt => "SMALLINT"
  | .integer => "INTEGER"
  | .bigInt => "BIGINT"
  | .real => "REAL"
  | .double => "DOUBLE"
  | .numeric => "NUMERIC"
  | .char => "CHAR"
  | .varchar => "VARCHAR"
  | .clob => "CLOB"
  | .binary => "BINARY"
  | .varbinary => "VARBINARY"
  | .blob => "BLOB"
  | .date => "DATE"
  | .time => "TIME"
  | .timeTz => "TIMETZ"
  | .timestamp => "TIMESTAMP"
  | .timestampTz => "TIMESTAMPTZ"
  | .interval qualifier => "INTERVAL " ++ qualifier.name
  | .json => "JSON"
  | .uuid => "UUID"
  | .enum => "ENUM"
  | .array => "ARRAY"
  | .geometry => "GEOMETRY"

/-- Every type that is no interval. -/
def withoutIntervals : List TypeTag :=
  [.null, .boolean, .tinyInt, .smallInt, .integer, .bigInt, .real, .double, .numeric, .char, .varchar,
    .clob, .binary, .varbinary, .blob, .date, .time, .timeTz, .timestamp, .timestampTz, .json, .uuid,
    .enum, .array, .geometry]

/-- Every type. -/
def all : List TypeTag := withoutIntervals ++ Qualifier.all.map .interval

theorem mem_all (t : TypeTag) : t ∈ all := by
  cases t with
  | interval q => simp [all, Qualifier.mem_all q]
  | _ => decide

end TypeTag

/-- A type tag with precision and scale. -/
structure TypeInfo where
  tag : TypeTag
  precision : Int64
  scale : Int32
  deriving DecidableEq

namespace TypeInfo

/-- The precision and scale that go with a tag by default. -/
def of (tag : TypeTag) : TypeInfo :=
  match tag with
  | .null | .boolean => ⟨tag, 1, 0⟩
  | .tinyInt => ⟨tag, 8, 0⟩
  | .smallInt => ⟨tag, 16, 0⟩
  | .integer => ⟨tag, 32, 0⟩
  | .bigInt => ⟨tag, 64, 0⟩
  | .real => ⟨tag, 24, 0⟩
  | .double => ⟨tag, 53, 0⟩
  | .numeric => ⟨tag, 100000, 0⟩
  | .date => ⟨tag, 10, 0⟩
  | .time => ⟨tag, 18, 9⟩
  | .timeTz => ⟨tag, 24, 9⟩
  | .timestamp => ⟨tag, 29, 9⟩
  | .timestampTz => ⟨tag, 35, 9⟩
  | .interval _ => ⟨tag, 18, 9⟩
  | .uuid => ⟨tag, 16, 0⟩
  | .char | .varchar | .clob | .binary | .varbinary | .blob | .json | .enum | .array | .geometry =>
    ⟨tag, 2147483647, 0⟩

end TypeInfo

end SqlClient
