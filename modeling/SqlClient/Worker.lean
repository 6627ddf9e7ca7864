import SqlClient.Engine

/-!
# Session workers

A worker owns a session and every cursor the engine has handed back, and serves one request after the
other. It keeps a journal of the calls it makes. A cursor is known by its number among those the engine
has handed back; it stays registered until it is found exhausted, fails, or the worker ends.

A failing call is the answer to the request that made it. The failures of clean-up calls (the close of a
cursor that has just failed, of keys nobody asked for, or of a cursor left over at the end) answer
nothing and are only in the journal.
-/

namespace SqlClient

/-- A statement to run with one group of parameters. -/
structure Execution where
  sql : String
  parameters : List Value
  keys : GeneratedKeys
  maxRows : Nat

/-- What came of an execution; cursors are given by their numbers. -/
inductive Outcome where
  | rows (cursor : Nat) (columns : List Column)
  | update (count : Nat)
  | updateWithKeys (count : Nat) (cursor : Nat) (columns : List Column)

/-- A call to the engine. -/
inductive EngineCall (κ : Type) where
  | prepare (sql : String) (parameters : List Value)
  | query (sql : String) (parameters : List Value) (maxRows : Nat)
  | update (sql : String) (parameters : List Value) (keys : GeneratedKeys)
  | hasNext (number : Nat)
  | advance (number : Nat)
  | closeCursor (number : Nat) (cursor : κ)
  | closeSession

/-- A call in the journal, with its failure if it failed. -/
structure JournalEntry (κ : Type) where
  call : EngineCall κ
  failure : Option EngineError

/-- A worker with a session in state `σ` and cursors `κ`. -/
structure Worker (σ κ : Type) where
  session : σ
  /-- The registered cursors with their numbers, in the order of registration. -/
  cursors : List (Nat × κ)
  /-- How many cursors the engine has handed back. -/
  handedBack : Nat
  /-- The calls to the engine, the latest first. -/
  journal : List (JournalEntry κ)
  /-- Whether the session is closed once nobody uses the worker any more. -/
  closeOnDrop : Bool
  ended : Bool

/-- The failure of a call, if it failed. -/
def failure? {α : Type} : Except EngineError α → Option EngineError
  | .ok _ => none
  | .error e => some e

namespace Worker

variable {σ π κ : Type} (E : Engine σ π κ)

/-- A worker that has not called the engine yet. -/
def start (session : σ) (closeOnDrop : Bool) : Worker σ κ := ⟨session, [], 0, [], closeOnDrop, false⟩

/-- What a request gets that is made when the worker has ended. -/
def gone : EngineError := .connection "Session worker closed before the request was sent"

/-- Serves a request unless the worker has ended. -/
def unlessEnded {α : Type} (w : Worker σ κ) (serve : Worker σ κ → Except Error α × Worker σ κ) :
    Except Error α × Worker σ κ :=
  if w.ended then (.error gone, w) else serve w

/-! ### Calls to the engine -/

/-- Notes a call in the journal, and the state it leaves the session in. -/
def note (w : Worker σ κ) (call : EngineCall κ) (failure : Option EngineError) (session : σ) :
    Worker σ κ :=
  { w with session, journal := ⟨call, failure⟩ :: w.journal }

/-- Asks the engine to prepare a command. -/
def prepare (w : Worker σ κ) (x : Execution) : Except EngineError π × Worker σ κ :=
  let r := E.prepare x.sql x.parameters w.session
  (r.1, w.note (.prepare x.sql x.parameters) (failure? r.1) r.2)

/-- Asks the engine to run a query. -/
def query (w : Worker σ κ) (x : Execution) (command : π) : Except EngineError κ × Worker σ κ :=
  let r := E.query command x.maxRows w.session
  (r.1, w.note (.query x.sql x.parameters x.maxRows) (failure? r.1) r.2)

/-- Asks the engine to run an update. -/
def update (w : Worker σ κ) (x : Execution) (command : π) :
    Except EngineError (UpdateOutcome κ) × Worker σ κ :=
  let r := E.update command x.keys w.session
  (r.1, w.note (.update x.sql x.parameters x.keys) (failure? r.1) r.2)

/-- Asks a cursor for another row. -/
def hasNext (w : Worker σ κ) (number : Nat) (cursor : κ) :
    Except EngineError Bool × κ × Worker σ κ :=
  let r := E.hasNext cursor w.session
  (r.1, r.2.1, w.note (.hasNext number) (failure? r.1) r.2.2)

/-- Moves a cursor to its next row. -/
def advance (w : Worker σ κ) (number : Nat) (cursor : κ) :
    Except EngineError Unit × κ × Worker σ κ :=
  let r := E.advance cursor w.session
  (r.1, r.2.1, w.note (.advance number) (failure? r.1) r.2.2)

/-- Closes a cursor. -/
def closeCursor (w : Worker σ κ) (number : Nat) (cursor : κ) :
    Except EngineError Unit × Worker σ κ :=
  let r := E.closeCursor cursor w.session
  (r.1, w.note (.closeCursor number cursor) (failure? r.1) r.2)

/-- Closes the session. -/
def closeSession (w : Worker σ κ) : Except EngineError Unit × Worker σ κ :=
  let r := E.closeSession w.session
  (r.1, w.note .closeSession (failure? r.1) r.2)

/-! ### Executions -/

/-- Registers a cursor that the engine has just handed back. -/
def register (w : Worker σ κ) (cursor : κ) : Worker σ κ :=
  { w with cursors := w.cursors ++ [(w.handedBack, cursor)], handedBack := w.handedBack + 1 }

/-- Closes a cursor that the engine has just handed back and nobody asked for. -/
def discard (w : Worker σ κ) (cursor : κ) : Worker σ κ :=
  let w' := (w.closeCursor E w.handedBack cursor).2
  { w' with handedBack := w.handedBack + 1 }

/-- Runs a query and registers its cursor. -/
def openRows (w : Worker σ κ) (x : Execution) (command : π) :
    Except Error Outcome × Worker σ κ :=
  match w.query E x command with
  | (.error e, w) => (.error e, w)
  | (.ok cursor, w) => (.ok (.rows w.handedBack (E.columns cursor w.session)), w.register cursor)

/-- Runs an update; a cursor over generated values is registered if they were asked for, and closed
otherwise. -/
def runUpdate (w : Worker σ κ) (x : Execution) (command : π) :
    Except Error Outcome × Worker σ κ :=
  match w.update E x command with
  | (.error e, w) => (.error e, w)
  | (.ok ⟨count, none⟩, w) => (.ok (.update count), w)
  | (.ok ⟨count, some cursor⟩, w) =>
    if x.keys.requested then
      (.ok (.updateWithKeys count w.handedBack (E.columns cursor w.session)), w.register cursor)
    else (.ok (.update count), w.discard E cursor)

/-- Prepares a statement and runs it as the query or the update that the engine takes it for. -/
def execute (w : Worker σ κ) (x : Execution) : Except Error Outcome × Worker σ κ :=
  w.unlessEnded fun w =>
    match w.prepare E x with
    | (.error e, w) => (.error e, w)
    | (.ok command, w) => if E.isQuery command then w.openRows E x command else w.runUpdate E x command

/-! ### Cursors -/

/-- Replaces a registered cursor by what it has become. -/
def keep (w : Worker σ κ) (number : Nat) (cursor : κ) : Worker σ κ :=
  { w with cursors := w.cursors.map fun c => if c.1 = number then (number, cursor) else c }

/-- Closes a cursor and forgets it. -/
def release (w : Worker σ κ) (number : Nat) (cursor : κ) : Except EngineError Unit × Worker σ κ :=
  { w with cursors := w.cursors.filter (·.1 ≠ number) }.closeCursor E number cursor

/-- Takes the next row of a cursor. An exhausted or failed cursor is released. -/
def fetch (w : Worker σ κ) (number : Nat) : Except Error (Option (List Value)) × Worker σ κ :=
  w.unlessEnded fun w =>
    match w.cursors.lookup number with
    | none => (.error (.cursorClosed number), w)
    | some cursor =>
      match w.hasNext E number cursor with
      | (.error e, cursor, w) => (.error e, (w.release E number cursor).2)
      | (.ok false, cursor, w) =>
        match w.release E number cursor with
        | (.error e, w) => (.error e, w)
        | (.ok (), w) => (.ok none, w)
      | (.ok true, cursor, w) =>
        match w.advance E number cursor with
        | (.error e, cursor, w) => (.error e, (w.release E number cursor).2)
        | (.ok (), cursor, w) => (.ok (some (E.row cursor w.session)), w.keep number cursor)

/-- How many cursors are registered. -/
def openCursors (w : Worker σ κ) : Except Error Nat × Worker σ κ :=
  w.unlessEnded fun w => (.ok w.cursors.length, w)

/-! ### The end -/

/-- Closes the cursors that are still registered. -/
def closeLeftovers (w : Worker σ κ) : Worker σ κ :=
  w.cursors.foldl (fun w c => (w.closeCursor E c.1 c.2).2) { w with cursors := [] }

/-- Closes what is left over, then the session, and ends the worker. -/
def shutdown (w : Worker σ κ) : Except EngineError Unit × Worker σ κ :=
  let r := (w.closeLeftovers E).closeSession E
  (r.1, { r.2 with ended := true })

/-- Ends the worker; the failure to close the session is the only one that is reported. -/
def close (w : Worker σ κ) : Except Error Unit × Worker σ κ :=
  w.unlessEnded fun w =>
    match w.shutdown E with
    | (.error e, w) => (.error e, w)
    | (.ok (), w) => (.ok (), w)

/-- Ends the worker once nobody uses it any more. -/
def drop (w : Worker σ κ) : Worker σ κ :=
  if w.ended then w
  else if w.closeOnDrop then (w.shutdown E).2
  else { w with ended := true }

end Worker

end SqlClient
