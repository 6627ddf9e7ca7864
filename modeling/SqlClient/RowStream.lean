import SqlClient.Connection
import SqlClient.Source
import SqlClient.Text.Quoted

/-!
# Row streams

A row stream takes the rows of one cursor, one for each poll. It ends when the cursor is exhausted or
has failed; until then the cursor stays open, whether the stream is polled on or not.
-/

namespace SqlClient

/-- The rows of a cursor that have not been taken. -/
structure RowStream where
  cursor : Nat
  metadata : RowMetadata
  done : Bool

namespace RowStream

/-- All rows of a cursor that has just been registered. -/
def ofCursor (registry : Registry) (cursor : Nat) (columns : List Column) : RowStream :=
  ⟨cursor, .ofColumns registry columns, false⟩

/-- The stream as diagnostics show it. -/
def display (s : RowStream) : String :=
  "RowStream \x7b columns: [" ++ ", ".intercalate (s.metadata.names.map Text.quote) ++ "], .. \x7d"

/-- Asks the worker for one row for each poll, up to the end. Polls behind the first end are outside
what a stream promises; here they find the end once more, and the worker is not asked. -/
def source {σ π κ : Type} (c : Connection σ π κ) :
    Source (Worker σ κ) RowStream (Except Error Row) where
  poll s w :=
    if s.done then (.ended, s, w)
    else
      match w.fetch c.engine s.cursor with
      | (.ok (some values), w) => (.item (.ok ⟨values, s.metadata, c.conversions⟩), s, w)
      | (.ok none, w) => (.ended, { s with done := true }, w)
      | (.error e, w) => (.item (.error e), { s with done := true }, w)

end RowStream

end SqlClient
