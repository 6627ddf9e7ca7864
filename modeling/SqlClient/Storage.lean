import SqlClient.Value.Accessor

/-!
# Storage classes

SQLite stores a value as a null, an integer, a float, a text or octets. What has no class of its own is
stored as its text; intervals and arrays are not stored.
-/

namespace SqlClient

/-- A value as SQLite stores it. A text may hold any octets. -/
inductive Stored where
  | null
  | integer (n : Int64)
  | real (x : Float)
  | text (octets : List UInt8)
  | blob (octets : List UInt8)
  deriving DecidableEq

namespace Value

/-- The value as it is stored. -/
def toStored (v : Value) : Reading Stored :=
  match v with
  | .null => .ok .null
  | .boolean b => .ok (.integer (if b then 1 else 0))
  | .tinyInt n => .ok (.integer n.toInt64)
  | .smallInt n => .ok (.integer n.toInt64)
  | .integer n => .ok (.integer n.toInt64)
  | .bigInt n => .ok (.integer n)
  | .real x => .ok (.real x.toFloat)
  | .double x => .ok (.real x)
  | .binary bytes | .varbinary bytes | .blob bytes => .ok (.blob bytes)
  | .interval _ | .array _ =>
    .error (.featureNotSupported (v.tag.display ++ " values cannot be stored in SQLite"))
  | v => v.getString.map fun s => .text (Text.toUtf8 s)

/-- The value that is stored; a text has to be UTF-8. -/
def ofStored : Stored → Reading Value
  | .null => .ok .null
  | .integer n => .ok (.bigInt n)
  | .real x => .ok (.double x)
  | .text octets =>
    match Text.ofUtf8 octets with
    | .ok s => .ok (.varchar s)
    | .error fault =>
      .error (.dataConversion ("invalid UTF-8 in text column: " ++ fault.message))
  | .blob octets => .ok (.varbinary octets)

end Value

end SqlClient
