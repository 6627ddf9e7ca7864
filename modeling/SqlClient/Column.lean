import SqlClient.Codec.Registry
import SqlClient.Text.Upper

/-!
# Columns

An engine describes each column of a cursor. The client sees a column under its alias, or under its
name if the alias is empty, and looks columns up in an index of the upper-cased visible names. Of
columns with one name the index keeps the first.
-/

namespace SqlClient

/-- Whether a column may hold nulls. -/
inductive Nullability where
  | nullable
  | nonNull
  | unknown
  deriving DecidableEq, Repr

/-- A column as an engine describes it. -/
structure Column where
  name : String
  label : String
  type : TypeInfo
  nullability : Nullability
  deriving DecidableEq

namespace Column

/-- A column without an alias of its own. -/
def plain (name : String) (type : TypeInfo) : Column := ⟨name, name, type, .unknown⟩

/-- The name the client sees. -/
def visibleName (c : Column) : String := if c.label.isEmpty then c.name else c.label

end Column

/-- A column as the client sees it. -/
structure ColumnMetadata where
  name : String
  type : TypeInfo
  nullability : Nullability
  /-- The host type of the values where the client has no preference. -/
  preferredType : Option HostType
  deriving DecidableEq

/-- What the client sees of a described column. -/
def ColumnMetadata.ofColumn (r : Registry) (c : Column) : ColumnMetadata :=
  ⟨c.visibleName, c.type, c.nullability, r.preferredType? c.type.tag⟩

/-- Where upper-cased names are found. -/
abbrev NameIndex := List (String × Nat)

namespace NameIndex

/-- Adds the place of a name; a name that has a place keeps it. -/
def note (index : NameIndex) (name : String) (place : Nat) : NameIndex :=
  let key := Text.upper name
  if (index.lookup key).isSome then index else (key, place) :: index

/-- The places of names, one name after the other. -/
def ofNames (names : List String) : NameIndex :=
  names.zipIdx.foldl (fun index entry => index.note entry.1 entry.2) []

end NameIndex

/-- The columns of a row, in order. -/
structure RowMetadata where
  columns : List ColumnMetadata
  deriving DecidableEq

namespace RowMetadata

/-- What the client sees of described columns. -/
def ofColumns (r : Registry) (columns : List Column) : RowMetadata :=
  ⟨columns.map (ColumnMetadata.ofColumn r)⟩

/-- The names of the columns, in order. -/
def names (m : RowMetadata) : List String := m.columns.map ColumnMetadata.name

/-- The index of the names of the columns. -/
def byName (m : RowMetadata) : NameIndex := .ofNames m.names

/-- The index of the column with this name, whatever the case of either. -/
def indexOf? (m : RowMetadata) (name : String) : Option Nat := m.byName.lookup (Text.upper name)

/-- The index of the column with this name, or an error that lists the names there are. -/
def indexOf (m : RowMetadata) (name : String) : Except Error Nat :=
  match m.indexOf? name with
  | some index => .ok index
  | none => .error (.noColumnNamed (Text.upper name) m.names)

/-- Whether there is a column with this name. -/
def contains (m : RowMetadata) (name : String) : Bool :=
  (m.byName.lookup (Text.upper name)).isSome

/-- The column with this index. -/
def column (m : RowMetadata) (index : Nat) : Except Error ColumnMetadata :=
  match m.columns[index]? with
  | some column => .ok column
  | none => .error (.noColumn index m.columns.length)

/-- The column with this name. -/
def columnNamed (m : RowMetadata) (name : String) : Except Error ColumnMetadata :=
  m.indexOf name >>= m.column

end RowMetadata

end SqlClient
