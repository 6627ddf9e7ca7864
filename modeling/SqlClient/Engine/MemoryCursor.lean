import SqlClient.Engine

/-!
# Cursors over rows in memory

Engines that have all rows of a result at hand give them out through such a cursor.
-/

namespace SqlClient

/-- A cursor over rows in memory. -/
structure MemoryCursor where
  columns : List Column
  /-- The rows that are still to come. -/
  remaining : List (List Value)
  /-- The row the cursor is on; before the first one, a row without values. -/
  current : List Value
  closed : Bool

namespace MemoryCursor

/-- A cursor before the first of these rows. -/
def ofRows (columns : List Column) (rows : List (List Value)) : MemoryCursor :=
  ⟨columns, rows, [], false⟩

/-- The column with this index; beyond the last one, a nameless column of nulls. -/
def column (c : MemoryCursor) (index : Nat) : Column :=
  c.columns.getD index (.plain "" (.of .null))

/-- Whether there is another row. -/
def hasNext (c : MemoryCursor) : Bool := !c.closed && !c.remaining.isEmpty

/-- Moves to the next row; past the last one the cursor stays where it is. -/
def advance (c : MemoryCursor) : Except EngineError Unit × MemoryCursor :=
  match c.remaining with
  | row :: rest => (.ok (), { c with remaining := rest, current := row })
  | [] => (.error (.general "cursor has no more rows"), c)

/-- Gives up the rows that are still to come. -/
def close (c : MemoryCursor) : MemoryCursor := { c with remaining := [], closed := true }

/-- A closed cursor has no next row. -/
theorem hasNext_close (c : MemoryCursor) : c.close.hasNext = false := rfl

end MemoryCursor

end SqlClient
