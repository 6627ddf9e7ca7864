/-!
# Host types

The types a client program asks for and hands over.
-/

namespace SqlClient

/-- The types a codec can produce or consume. `any` expresses no preference; `void` is the type of a
column that holds nothing but nulls. -/
inductive HostType where
  | any
  | void
  | bool
  | int8
  | int16
  | int32
  | int64
  | float32
  | float64
  | decimal
  | string
  | bytes
  | date
  | time
  | offsetTime
  | dateTime
  | offsetDateTime
  | instant
  | uuid
  | json
  | interval
  | period
  | duration
  | enum
  | array
  | geometry
  | parameter
  deriving DecidableEq, Repr

namespace HostType

/-- Whether a value of type `other` may be handed out where this type was asked for. -/
def accepts (wanted other : HostType) : Bool :=
  wanted == .any || wanted == other

/-- The type as messages spell it. -/
def display : HostType → String
  | .any => "any"
  | .void => "void"
  | .bool => "bool"
  | .int8 => "i8"
  | .int16 => "i16"
  | .int32 => "i32"
  | .int64 => "i64"
  | .float32 => "f32"
  | .float64 => "f64"
  | .decimal => "rust_decimal::Decimal"
  | .string => "String"
  | .bytes => "Vec<u8>"
  | .date => "chrono::NaiveDate"
  | .time => "chrono::NaiveTime"
  | .offsetTime => "OffsetTime"
  | .dateTime => "chrono::NaiveDateTime"
  | .offsetDateTime => "chrono::DateTime<FixedOffset>"
  | .instant => "chrono::DateTime<Utc>"
  | .uuid => "uuid::Uuid"
  | .json => "serde_json::Value"
  | .interval => "Interval"
  | .period => "Period"
  | .duration => "chrono::TimeDelta"
  | .enum => "enum"
  | .array => "array"
  | .geometry => "Geometry"
  | .parameter => "Parameter"

/-- Every host type. -/
def all : List HostType :=
  [.any, .void, .bool, .int8, .int16, .int32, .int64, .float32, .float64, .decimal, .string, .bytes,
    .date, .time, .offsetTime, .dateTime, .offsetDateTime, .instant, .uuid, .json, .interval, .period,
    .duration, .enum, .array, .geometry, .parameter]

theorem mem_all (t : HostType) : t ∈ all := by cases t <;> decide

@[simp] theorem any_accepts (other : HostType) : any.accepts other = true := by
  simp [accepts]

@[simp] theorem accepts_self (t : HostType) : t.accepts t = true := by
  simp [accepts]

end HostType

end SqlClient
