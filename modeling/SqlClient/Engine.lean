import SqlClient.Column

/-!
# Engines

An engine is what the client talks to. A session prepares statements, a prepared command is either a
query, which opens a cursor, or an update, which gives a count, and a cursor hands out its rows one
after the other. Every call may change the session and may fail.
-/

namespace SqlClient

/-- Which of the values that an engine generates an update hands back. -/
inductive GeneratedKeys where
  | none
  | all
  | columns (names : List String)
  deriving DecidableEq, Repr

namespace GeneratedKeys

/-- Those of the named columns; without a name, all of them. -/
def ofColumns (names : List String) : GeneratedKeys :=
  if names.isEmpty then .all else .columns names

/-- Whether any are wanted. -/
def requested : GeneratedKeys → Bool
  | .none => false
  | .all | .columns _ => true

end GeneratedKeys

/-- What an update did: how many rows it changed, and a cursor over generated values if the engine
opened one. -/
structure UpdateOutcome (κ : Type) where
  count : Nat
  keys : Option κ

/-- The outcome as diagnostics show it. -/
def UpdateOutcome.display {κ : Type} (o : UpdateOutcome κ) : String :=
  "UpdateOutcome \x7b update_count: " ++ toString o.count ++ ", generated_keys: " ++
    toString o.keys.isSome ++ " \x7d"

/-- What an engine calls itself. -/
structure Product where
  name : String
  version : String
  deriving DecidableEq, Repr

/-- An engine with sessions in states `σ`, prepared commands `π` and open cursors `κ`. -/
structure Engine (σ π κ : Type) where
  product : Product
  /-- What a session tells the client about itself. -/
  settings : σ → SessionSettings
  prepare : String → List Value → σ → Except EngineError π × σ
  isQuery : π → Bool
  /-- Runs a query that hands out at most so many rows; zero stands for no limit. -/
  query : π → Nat → σ → Except EngineError κ × σ
  update : π → GeneratedKeys → σ → Except EngineError (UpdateOutcome κ) × σ
  closeSession : σ → Except EngineError Unit × σ
  columns : κ → σ → List Column
  /-- Whether a cursor can move to another row. -/
  hasNext : κ → σ → Except EngineError Bool × κ × σ
  /-- Moves a cursor to its next row. -/
  advance : κ → σ → Except EngineError Unit × κ × σ
  /-- The row that a cursor is on. -/
  row : κ → σ → List Value
  closeCursor : κ → σ → Except EngineError Unit × σ

end SqlClient
