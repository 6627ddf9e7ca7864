import SqlClient.RowStream

/-!
# Results

A result has the rows of a query, or the count of an update and possibly the rows of the values it
generated. Row data can be read once: as rows, as segments (the rows and then the count), or through
streams that segments are mapped to. Filters hold for segments.
-/

namespace SqlClient

/-- A piece of a result. -/
inductive Segment where
  | row (values : Row)
  | updateCount (count : Nat)

namespace Segment

/-- Whether the segment is a row. -/
def isRow : Segment → Bool
  | .row _ => true
  | .updateCount _ => false

/-- Whether the segment is an update count. -/
def isUpdateCount : Segment → Bool
  | .row _ => false
  | .updateCount _ => true

/-- The row, if the segment is one. -/
def row? : Segment → Option Row
  | .row values => some values
  | .updateCount _ => none

/-- The update count, if the segment is one. -/
def updateCount? : Segment → Option Nat
  | .row _ => none
  | .updateCount count => some count

end Segment

/-- What a result consists of. -/
inductive ResultBody where
  | rows (rows : RowStream)
  | update (count : Nat)
  | updateWithKeys (count : Nat) (keys : RowStream)

/-- The result of one statement with one group of parameters. -/
structure QueryResult where
  body : ResultBody
  /-- The predicates that segments must satisfy, in the order in which they were added. -/
  filters : List (Stateful Segment Bool)

/-- The rows of a result as items of a stream that applies a function to them. -/
abbrev MappedRows (α : Type) := Mapped (Followed RowStream (Except Error Row)) Row α

/-- The segments of a result that have not been taken. -/
abbrev Segments := Filtered (Guarded (Followed RowStream (Except Error Segment))) Segment

/-- The items of the streams that the segments of a result are mapped to. -/
abbrev FlatMapped (α : Type) := Guarded (Flattened Segments Segment α)

namespace QueryResult

/-- A result that nobody has filtered. -/
def ofBody (body : ResultBody) : QueryResult := ⟨body, []⟩

/-- What came of an execution, as a result. -/
def ofOutcome (registry : Registry) : Outcome → QueryResult
  | .rows cursor columns => ofBody (.rows (.ofCursor registry cursor columns))
  | .update count => ofBody (.update count)
  | .updateWithKeys count cursor columns =>
    ofBody (.updateWithKeys count (.ofCursor registry cursor columns))

/-- The row data, if there is any. -/
def rows? (r : QueryResult) : Option RowStream :=
  match r.body with
  | .rows rows | .updateWithKeys _ rows => some rows
  | .update _ => none

/-- The count of an update; queries have none. -/
def rowsUpdated? (r : QueryResult) : Option Nat :=
  match r.body with
  | .rows _ => none
  | .update count | .updateWithKeys count _ => some count

/-- The columns of the row data, if there is any. -/
def metadata? (r : QueryResult) : Option RowMetadata := r.rows?.map RowStream.metadata

/-- Adds a predicate, which is asked about the segments that the earlier ones accept. -/
def filter (r : QueryResult) (predicate : Stateful Segment Bool) : QueryResult :=
  { r with filters := r.filters ++ [predicate] }

/-- The rows under a function; filters do not matter here. -/
def map {α : Type} (r : QueryResult) (f : Stateful Row α) : MappedRows α :=
  ⟨⟨r.rows?, []⟩, f⟩

/-- The rows and then the count, as far as the filters accept them. -/
def segments (r : QueryResult) : Segments :=
  ⟨.ofState ⟨r.rows?, (r.rowsUpdated?.map fun count => .ok (.updateCount count)).toList⟩, r.filters⟩

/-- The streams that the mapper gives for the segments, one after the other. -/
def flatMap {α : Type} (r : QueryResult) (mapper : Stateful Segment (Option (List α))) :
    FlatMapped α :=
  .ofState ⟨r.segments, mapper, []⟩

/-- The result as diagnostics show it. -/
def display (r : QueryResult) : String :=
  let body :=
    match r.body with
    | .rows rows => "rows: " ++ rows.display
    | .update count => "rows_updated: " ++ toString count
    | .updateWithKeys count keys =>
      "rows_updated: " ++ toString count ++ ", generated_keys: " ++ keys.display
  "QueryResult \x7b " ++ body ++ ", filtered: " ++ toString (!r.filters.isEmpty) ++ " \x7d"

end QueryResult

/-! ### The streams of a result -/

section

variable {σ π κ : Type} (c : Connection σ π κ)

/-- The rows, mapped. -/
def MappedRows.source (α : Type) : Source (Worker σ κ) (MappedRows α) (Except Error α) :=
  (RowStream.source c).followed.mapped

/-- The segments. Nothing follows the error of a row, not even the count. -/
def Segments.source : Source (Worker σ κ) Segments (Except Error Segment) :=
  ((RowStream.source c).map (Except.map Segment.row)).followed.stopAfterError.filtered

/-- The items that segments are mapped to. Nothing follows an error. -/
def FlatMapped.source (α : Type) : Source (Worker σ κ) (FlatMapped α) (Except Error α) :=
  ((Segments.source c).flattened .noMappedStream).stopAfterError

end

end SqlClient
