import SqlClient.Calendar.DateTime
import SqlClient.EnumValue
import SqlClient.HostType
import SqlClient.Interval
import SqlClient.Json.Value
import SqlClient.Number.Decimal
import SqlClient.Uuid

/-!
# Host values

A value in the hands of a client program. A parameter is a value with a declared type; without a value
it is a null of that type.
-/

namespace SqlClient

/-- A value in the hands of a client program. -/
inductive HostValue where
  | bool (b : Bool)
  | int8 (n : Int8)
  | int16 (n : Int16)
  | int32 (n : Int32)
  | int64 (n : Int64)
  | float32 (x : Float32)
  | float64 (x : Float)
  | decimal (d : Decimal)
  | string (s : String)
  | bytes (bytes : List UInt8)
  | date (d : Date)
  | time (t : Time)
  | offsetTime (t : OffsetTime)
  | dateTime (t : DateTime)
  | offsetDateTime (t : OffsetDateTime)
  | instant (t : Instant)
  | uuid (u : Uuid)
  | json (j : Json)
  | interval (i : Interval)
  | period (p : Period)
  | duration (d : Duration)
  /-- A member of an enum type by its name, with the names of all members. -/
  | enum (name : String) (members : List String)
  | array (items : List (Option HostValue))
  /-- A geometry in well-known text. -/
  | geometry (text : String)
  | parameter (type : HostType) (value : Option HostValue)

namespace HostValue

/-- The type of a host value. -/
def type : HostValue → HostType
  | .bool _ => .bool
  | .int8 _ => .int8
  | .int16 _ => .int16
  | .int32 _ => .int32
  | .int64 _ => .int64
  | .float32 _ => .float32
  | .float64 _ => .float64
  | .decimal _ => .decimal
  | .string _ => .string
  | .bytes _ => .bytes
  | .date _ => .date
  | .time _ => .time
  | .offsetTime _ => .offsetTime
  | .dateTime _ => .dateTime
  | .offsetDateTime _ => .offsetDateTime
  | .instant _ => .instant
  | .uuid _ => .uuid
  | .json _ => .json
  | .interval _ => .interval
  | .period _ => .period
  | .duration _ => .duration
  | .enum _ _ => .enum
  | .array _ => .array
  | .geometry _ => .geometry
  | .parameter _ _ => .parameter

/-- The value as a parameter of its own type. -/
def toParameter (v : HostValue) : HostValue := .parameter v.type (some v)

/-- The value of an enum type with this ordinal, by its name. -/
def ofEnum (t : EnumType) (ordinal : Nat) : HostValue := .enum (t.nameOf ordinal) t.members

mutual

/-- Equality of what values denote: decimals of one number, readings of one instant and floats that
compare equal are the same; what is no number differs from itself. -/
def same : HostValue → HostValue → Bool
  | .bool a, .bool b => a == b
  | .int8 a, .int8 b => a == b
  | .int16 a, .int16 b => a == b
  | .int32 a, .int32 b => a == b
  | .int64 a, .int64 b => a == b
  | .float32 a, .float32 b => a == b
  | .float64 a, .float64 b => a == b
  | .decimal a, .decimal b => a.sameNumber b
  | .string a, .string b => a == b
  | .bytes a, .bytes b => a == b
  | .date a, .date b => a == b
  | .time a, .time b => a == b
  | .offsetTime a, .offsetTime b => a == b
  | .dateTime a, .dateTime b => a == b
  | .offsetDateTime a, .offsetDateTime b => a.toInstant == b.toInstant
  | .instant a, .instant b => a == b
  | .uuid a, .uuid b => a == b
  | .json a, .json b => a.same b
  | .interval a, .interval b => a == b
  | .period a, .period b => a == b
  | .duration a, .duration b => a == b
  | .enum n as, .enum m bs => n == m && as == bs
  | .array as, .array bs => sameItems as bs
  | .geometry a, .geometry b => a == b
  | .parameter t a, .parameter u b => t == u && sameOption a b
  | _, _ => false

/-- `same` item by item. -/
def sameItems : List (Option HostValue) → List (Option HostValue) → Bool
  | [], [] => true
  | a :: as, b :: bs => sameOption a b && sameItems as bs
  | _, _ => false

/-- `same` where there are values, and only nulls are the same as nulls. -/
def sameOption : Option HostValue → Option HostValue → Bool
  | none, none => true
  | some a, some b => same a b
  | _, _ => false

end

end HostValue

end SqlClient
