import SqlClient.Calendar.DateTime
import SqlClient.EnumValue
import SqlClient.Interval
import SqlClient.Number.Decimal
import SqlClient.TypeTag
import SqlClient.Uuid

/-!
# Engine values

A value as an engine stores it, with its runtime type. Arrays hold values of any type, nulls among
them.
-/

namespace SqlClient

/-- A value as an engine stores it. -/
inductive Value where
  | null
  | boolean (b : Bool)
  | tinyInt (n : Int8)
  | smallInt (n : Int16)
  | integer (n : Int32)
  | bigInt (n : Int64)
  | real (x : Float32)
  | double (x : Float)
  | numeric (d : Decimal)
  | char (s : String)
  | varchar (s : String)
  | clob (s : String)
  | binary (bytes : List UInt8)
  | varbinary (bytes : List UInt8)
  | blob (bytes : List UInt8)
  | date (d : Date)
  | time (t : Time)
  | timeTz (t : OffsetTime)
  | timestamp (t : DateTime)
  | timestampTz (t : OffsetDateTime)
  | interval (i : Interval)
  /-- A JSON document as text. -/
  | json (text : String)
  | uuid (u : Uuid)
  | enum (e : EnumValue)
  | array (items : List Value)
  /-- A geometry in well-known text. -/
  | geometry (text : String)

namespace Value

/-- The runtime type of a value. -/
def tag : Value → TypeTag
  | .null => .null
  | .boolean _ => .boolean
  | .tinyInt _ => .tinyInt
  | .smallInt _ => .smallInt
  | .integer _ => .integer
  | .bigInt _ => .bigInt
  | .real _ => .real
  | .double _ => .double
  | .numeric _ => .numeric
  | .char _ => .char
  | .varchar _ => .varchar
  | .clob _ => .clob
  | .binary _ => .binary
  | .varbinary _ => .varbinary
  | .blob _ => .blob
  | .date _ => .date
  | .time _ => .time
  | .timeTz _ => .timeTz
  | .timestamp _ => .timestamp
  | .timestampTz _ => .timestampTz
  | .interval i => .interval i.qualifier
  | .json _ => .json
  | .uuid _ => .uuid
  | .enum _ => .enum
  | .array _ => .array
  | .geometry _ => .geometry

/-- Whether the value is a null. -/
def isNull : Value → Bool
  | .null => true
  | _ => false

end Value

end SqlClient
