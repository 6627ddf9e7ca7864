import SqlClient.Binding
import SqlClient.ResultStream
import SqlClient.Sql.Split

/-!
# Statements

A statement is a text, possibly with several statements in it, and the parameter groups to run it with.
Nothing of it reaches the engine before the stream of its results is polled.
-/

namespace SqlClient

/-- A text to execute, refused if it is blank. -/
def sqlText (sql : String) : Except Error String :=
  if Text.isBlankText sql then .error .blankSql else .ok sql

/-- A statement text with its parameters. -/
structure Statement where
  sql : String
  bindings : Bindings
  keys : GeneratedKeys

namespace Statement

/-- A statement without parameters. -/
def ofSql (sql : String) : Except Error Statement := do
  return ⟨← sqlText sql, .empty, .none⟩

/-- Binds a value to the parameter with this index. -/
def bind (s : Statement) (r : Registry) (index : Nat) (v : HostValue) : Except Error Statement := do
  return { s with bindings := s.bindings.bind index (← r.encode v) }

/-- Binds a null of a host type. -/
def bindNull (s : Statement) (r : Registry) (index : Nat) (type : HostType) :
    Except Error Statement := do
  return { s with bindings := s.bindings.bind index (← r.encodeNull type) }

/-- Binds a value to the parameter that an identifier names. -/
def bindNamed (s : Statement) (r : Registry) (identifier : String) (v : HostValue) :
    Except Error Statement := do
  s.bind r (← parameterIndex identifier) v

/-- Binds a null to the parameter that an identifier names. -/
def bindNullNamed (s : Statement) (r : Registry) (identifier : String) (type : HostType) :
    Except Error Statement := do
  s.bindNull r (← parameterIndex identifier) type

/-- Closes the current group of parameters. -/
def add (s : Statement) : Except Error Statement := do
  return { s with bindings := ← s.bindings.add }

/-- Asks for the generated values of the named columns; without a name, of all. -/
def returnGenerated (s : Statement) (columns : List String) : Statement :=
  { s with keys := .ofColumns columns }

/-- Every statement of the text with every group of parameters, statement by statement. -/
def jobs (s : Statement) : Except Error (List Job) := do
  let groups ← (← s.bindings.executions).mapM Binding.values
  return (Sql.statements s.sql).flatMap fun sql => groups.map fun values => ⟨sql, values⟩

/-- The results of running all jobs. -/
def execute (s : Statement) : Except Error ResultStream := do
  return .ofJobs (← s.jobs) s.keys

end Statement

end SqlClient
