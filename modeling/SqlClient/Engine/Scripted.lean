import SqlClient.Worker

/-!
# Scripted engines

An engine that answers statements by a script, to try clients on: which rows a text gives, which count,
and which call fails when.
-/

namespace SqlClient.Scripted

/-- A failure of a cursor that has delivered so many rows. -/
structure FailureAt where
  delivered : Nat
  failure : EngineError

/-- What a cursor does. -/
structure CursorScript where
  columns : List Column
  rows : List (List Value)
  /-- When to fail instead of moving on. -/
  failAt : Option FailureAt
  /-- When to fail instead of looking ahead. -/
  hasNextError : Option FailureAt
  closeError : Option EngineError
  /-- Whether the cursor has only what every cursor has: no aliases, no nullability, and nothing to do
  when it is closed. -/
  plain : Bool

/-- A cursor that follows its script. -/
structure Cursor where
  script : CursorScript
  delivered : Nat
  current : List Value

namespace Cursor

/-- A cursor before its first row. -/
def ofScript (script : CursorScript) : Cursor := ⟨script, 0, []⟩

/-- The failure that is due at this point, if any. -/
def due (c : Cursor) (f : Option FailureAt) : Option EngineError :=
  (f.filter (·.delivered = c.delivered)).map FailureAt.failure

/-- The columns as the cursor describes them. -/
def columns (c : Cursor) : List Column :=
  if c.script.plain then c.script.columns.map fun col => .plain col.name col.type
  else c.script.columns

/-- There is a row to move to, or a failure to run into. -/
def hasNext (c : Cursor) : Except EngineError Bool :=
  match c.due c.script.hasNextError with
  | some e => .error e
  | none => .ok (c.delivered < c.script.rows.length || (c.due c.script.failAt).isSome)

/-- Moves to the next row, unless a failure is due. -/
def advance (c : Cursor) : Except EngineError Unit × Cursor :=
  match c.due c.script.failAt, c.script.rows[c.delivered]? with
  | some e, _ => (.error e, c)
  | none, some row => (.ok (), { c with delivered := c.delivered + 1, current := row })
  | none, none => (.error (.general "cursor has no more rows"), c)

/-- What closing gives; a plain cursor has nothing to fail at. -/
def close (c : Cursor) : Except EngineError Unit :=
  match c.script.closeError with
  | some e => if c.script.plain then .ok () else .error e
  | none => .ok ()

end Cursor

/-- What a statement gives. -/
inductive Reply where
  | rows (cursor : CursorScript)
  /-- One row with the parameters. -/
  | echo
  | update (count : Nat) (keys : Option CursorScript)
  | failPrepare (failure : EngineError)
  /-- A failure when the statement runs, as a query or as an update. -/
  | failExecute (query : Bool) (failure : EngineError)

/-- The reply to a text, which may hold only the first time. -/
structure Rule where
  sql : String
  once : Bool
  reply : Reply

/-- A session that follows its script. -/
structure Session where
  rules : List Rule
  /-- The reply to texts without a rule. -/
  otherwise : Reply
  settings : SessionSettings
  closeError : Option EngineError
  /-- Whether the session has only what every session has: no zone, and nothing to do when it is
  closed. -/
  minimal : Bool

/-- A statement whose reply is known. -/
structure Command where
  parameters : List Value
  reply : Reply

/-- The cursor over one row with the parameters. -/
def echo (parameters : List Value) : CursorScript where
  columns := parameters.zipIdx.map fun p => .plain ("P" ++ toString (p.2 + 1)) (.of p.1.tag)
  rows := [parameters]
  failAt := none
  hasNextError := none
  closeError := none
  plain := false

/-- The reply to a text and the session after it: of two rules for a text the first one holds. -/
def Session.reply (s : Session) (sql : String) : Reply × Session :=
  match s.rules.findIdx? (·.sql = sql) with
  | none => (s.otherwise, s)
  | some i =>
    match s.rules[i]? with
    | none => (s.otherwise, s)
    | some rule => (rule.reply, if rule.once then { s with rules := s.rules.eraseIdx i } else s)

/-- The cursor of a query, over no more than `maxRows` rows unless that is zero. -/
def Command.query (c : Command) (maxRows : Nat) : Except EngineError Cursor :=
  match c.reply with
  | .rows script =>
    let rows := if maxRows = 0 then script.rows else script.rows.take maxRows
    .ok (.ofScript { script with rows })
  | .echo => .ok (.ofScript (echo c.parameters))
  | .failPrepare e | .failExecute _ e => .error e
  | .update _ _ => .error (.general "not a query")

/-- The outcome of an update. -/
def Command.update (c : Command) : Except EngineError (UpdateOutcome Cursor) :=
  match c.reply with
  | .update count keys => .ok ⟨count, keys.map Cursor.ofScript⟩
  | .failPrepare e | .failExecute _ e => .error e
  | .rows _ | .echo => .error (.general "not an update")

/-- The engine that follows the scripts of its sessions. -/
def engine : Engine Session Command Cursor where
  product := ⟨"Stub", "1.0"⟩
  settings s := if s.minimal then ⟨none⟩ else s.settings
  prepare sql parameters s :=
    match s.reply sql with
    | (.failPrepare e, s) => (.error e, s)
    | (reply, s) => (.ok ⟨parameters, reply⟩, s)
  isQuery c :=
    match c.reply with
    | .rows _ | .echo | .failExecute true _ => true
    | _ => false
  query c maxRows s := (c.query maxRows, s)
  update c _ s := (c.update, s)
  closeSession s :=
    match s.closeError with
    | some e => (if s.minimal then .ok () else .error e, s)
    | none => (.ok (), s)
  columns c _ := c.columns
  hasNext c s := (c.hasNext, c, s)
  advance c s := let r := c.advance; (r.1, r.2, s)
  row c _ := c.current
  closeCursor c s := (c.close, s)

/-! ### What a worker has done -/

/-- Whether a call closes a cursor that has something to do when it is closed. -/
def closesCursor : EngineCall Cursor → Bool
  | .closeCursor _ c => !c.script.plain
  | _ => false

/-- The calls of a worker in order. -/
def calls (w : Worker Session Cursor) : List (EngineCall Cursor) :=
  (w.journal.map JournalEntry.call).reverse

/-- How many statements a worker has tried to prepare. -/
def prepared (w : Worker Session Cursor) : Nat :=
  (calls w).countP fun | .prepare .. => true | _ => false

/-- How many times a worker has tried to move a cursor on. -/
def advances (w : Worker Session Cursor) : Nat :=
  (calls w).countP fun | .advance _ => true | _ => false

/-- How many cursors a worker has closed, other than plain ones. -/
def cursorsClosed (w : Worker Session Cursor) : Nat := (calls w).countP closesCursor

/-- Whether a worker has tried to close its session, other than a minimal one. -/
def sessionClosed (w : Worker Session Cursor) : Bool :=
  !w.session.minimal && (calls w).any fun | .closeSession => true | _ => false

end SqlClient.Scripted
