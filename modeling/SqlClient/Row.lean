import SqlClient.Column
import SqlClient.HostValue.Extract

/-!
# Rows

A row has the values an engine delivered and reads each of them as the client asks. A value is decoded
only when it is read, by its own runtime type and not by that of its column.
-/

namespace SqlClient

/-- How a connection converts values. -/
structure Conversions where
  registry : Registry
  session : SessionSettings
  deriving DecidableEq

/-- A delivered row. -/
structure Row where
  values : List Value
  metadata : RowMetadata
  conversions : Conversions

namespace Row

/-- The engine value of a column. -/
def native (row : Row) (index : Nat) : Except Error Value :=
  match row.values[index]? with
  | some v => .ok v
  | none => .error (.noColumn index row.values.length)

/-- The value of a column as a host type. -/
def decode (row : Row) (index : Nat) (target : HostType) : Except Error (Option HostValue) := do
  let v ← row.native index
  row.conversions.registry.decode row.conversions.session v.tag target v

/-- The value of a column as the client asks for it. -/
def get (row : Row) (wanted : Wanted) (index : Nat) : Except Error (Option HostValue) := do
  match ← row.decode index wanted.type with
  | none => return none
  | some h => return some (← h.extract wanted)

/-- The value of a named column as the client asks for it. -/
def getNamed (row : Row) (wanted : Wanted) (name : String) : Except Error (Option HostValue) :=
  row.metadata.indexOf name >>= row.get wanted

/-- The value of a column without a preference. -/
def value (row : Row) (index : Nat) : Except Error (Option HostValue) := row.decode index .any

/-- The value of a named column without a preference. -/
def valueNamed (row : Row) (name : String) : Except Error (Option HostValue) :=
  row.metadata.indexOf name >>= row.value

end Row

end SqlClient
