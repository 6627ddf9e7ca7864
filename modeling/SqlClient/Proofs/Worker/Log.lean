import SqlClient.Proofs.Worker.Steps
import SqlClient.Worker.Queue

/-!
# The journal is what the engine hears

An engine can note the calls that it gets: its sessions keep the calls, its commands the statements
they were prepared from, and its cursors their numbers among those handed back. With such an engine
a worker answers as it does with the engine itself, and after every request the session has heard
what is in the journal, call by call, with the failures.
-/

namespace SqlClient

variable {σ π κ : Type}

/-- A session that notes the calls it hears. -/
structure Noted (σ κ : Type) where
  session : σ
  /-- The calls, the latest first. -/
  heard : List (JournalEntry κ)
  /-- How many cursors the session has handed back. -/
  handedBack : Nat

/-- A command that keeps the statement it was prepared from. -/
structure Stated (π : Type) where
  sql : String
  parameters : List Value
  command : π

/-- A cursor that keeps its number. -/
structure Numbered (κ : Type) where
  number : Nat
  cursor : κ

namespace Noted

/-- Notes a call, its failure if it failed, and the state it leaves the session in. -/
def note (s : Noted σ κ) (call : EngineCall κ) (failure : Option EngineError) (session : σ) :
    Noted σ κ :=
  { s with session, heard := ⟨call, failure⟩ :: s.heard }

/-- The session once it has handed back another cursor. -/
def handBack (s : Noted σ κ) : Noted σ κ := { s with handedBack := s.handedBack + 1 }

end Noted

/-- An engine that notes the calls it gets and else does what `E` does. To look at the columns of a
cursor or at its row is no call: it can neither fail nor change the session. -/
def Engine.noting (E : Engine σ π κ) : Engine (Noted σ κ) (Stated π) (Numbered κ) where
  product := E.product
  settings s := E.settings s.session
  prepare sql parameters s :=
    let r := E.prepare sql parameters s.session
    (r.1.map fun command => ⟨sql, parameters, command⟩,
      s.note (.prepare sql parameters) (failure? r.1) r.2)
  isQuery c := E.isQuery c.command
  query c maxRows s :=
    let r := E.query c.command maxRows s.session
    let noted := s.note (.query c.sql c.parameters maxRows) (failure? r.1) r.2
    match r.1 with
    | .error e => (.error e, noted)
    | .ok cursor => (.ok ⟨s.handedBack, cursor⟩, noted.handBack)
  update c keys s :=
    let r := E.update c.command keys s.session
    let noted := s.note (.update c.sql c.parameters keys) (failure? r.1) r.2
    match r.1 with
    | .error e => (.error e, noted)
    | .ok ⟨count, none⟩ => (.ok ⟨count, none⟩, noted)
    | .ok ⟨count, some cursor⟩ => (.ok ⟨count, some ⟨s.handedBack, cursor⟩⟩, noted.handBack)
  closeSession s :=
    let r := E.closeSession s.session
    (r.1, s.note .closeSession (failure? r.1) r.2)
  columns k s := E.columns k.cursor s.session
  hasNext k s :=
    let r := E.hasNext k.cursor s.session
    (r.1, ⟨k.number, r.2.1⟩, s.note (.hasNext k.number) (failure? r.1) r.2.2)
  advance k s :=
    let r := E.advance k.cursor s.session
    (r.1, ⟨k.number, r.2.1⟩, s.note (.advance k.number) (failure? r.1) r.2.2)
  row k s := E.row k.cursor s.session
  closeCursor k s :=
    let r := E.closeCursor k.cursor s.session
    (r.1, s.note (.closeCursor k.number k.cursor) (failure? r.1) r.2)

/-- The call with its cursor numbered. -/
def EngineCall.numbered : EngineCall κ → EngineCall (Numbered κ)
  | .prepare sql parameters => .prepare sql parameters
  | .query sql parameters maxRows => .query sql parameters maxRows
  | .update sql parameters keys => .update sql parameters keys
  | .hasNext number => .hasNext number
  | .advance number => .advance number
  | .closeCursor number cursor => .closeCursor number ⟨number, cursor⟩
  | .closeSession => .closeSession

/-- The entry with its cursor numbered. -/
def JournalEntry.numbered (entry : JournalEntry κ) : JournalEntry (Numbered κ) :=
  ⟨entry.call.numbered, entry.failure⟩

namespace Worker

/-- A table of cursors that keep their numbers. -/
def numbered (cursors : List (Nat × κ)) : List (Nat × Numbered κ) :=
  cursors.map fun p => (p.1, ⟨p.1, p.2⟩)

/-- The worker, with a session that has heard what is in the journal. -/
def noting (w : Worker σ κ) : Worker (Noted σ κ) (Numbered κ) where
  session := ⟨w.session, w.journal, w.handedBack⟩
  cursors := numbered w.cursors
  handedBack := w.handedBack
  journal := w.journal.map JournalEntry.numbered
  closeOnDrop := w.closeOnDrop
  ended := w.ended

/-! ### Calls -/

section Calls

variable (E : Engine σ π κ) (w : Worker σ κ)

@[simp] theorem ended_noting : w.noting.ended = w.ended := rfl

@[simp] theorem cursors_noting : w.noting.cursors = numbered w.cursors := rfl

@[simp] theorem closeOnDrop_noting : w.noting.closeOnDrop = w.closeOnDrop := rfl

@[simp] theorem hasNext_noting (number : Nat) (cursor : κ) :
    w.noting.hasNext E.noting number ⟨number, cursor⟩ =
      Prod.map id (Prod.map (⟨number, ·⟩) noting) (w.hasNext E number cursor) := rfl

@[simp] theorem advance_noting (number : Nat) (cursor : κ) :
    w.noting.advance E.noting number ⟨number, cursor⟩ =
      Prod.map id (Prod.map (⟨number, ·⟩) noting) (w.advance E number cursor) := rfl

@[simp] theorem closeCursor_noting (number : Nat) (cursor : κ) :
    w.noting.closeCursor E.noting number ⟨number, cursor⟩ =
      Prod.map id noting (w.closeCursor E number cursor) := rfl

@[simp] theorem closeSession_noting :
    w.noting.closeSession E.noting = Prod.map id noting (w.closeSession E) := rfl

/-- What is refused once the worker has ended is refused in both. -/
theorem unlessEnded_noting {α : Type} {serve : Worker σ κ → Except Error α × Worker σ κ}
    {serveNoting : Worker (Noted σ κ) (Numbered κ) →
      Except Error α × Worker (Noted σ κ) (Numbered κ)}
    (h : serveNoting w.noting = Prod.map id noting (serve w)) :
    w.noting.unlessEnded serveNoting = Prod.map id noting (w.unlessEnded serve) := by
  rw [unlessEnded, unlessEnded, ended_noting, h]
  split_ifs <;> rfl

end Calls

/-! ### Executions -/

section Executions

variable (E : Engine σ π κ) (w : Worker σ κ) (x : Execution)

theorem prepare_noting :
    w.noting.prepare E.noting x =
      Prod.map (Except.map (⟨x.sql, x.parameters, ·⟩)) noting (w.prepare E x) := by
  rcases h : E.prepare x.sql x.parameters w.session with ⟨_ | _, s⟩ <;>
    simp only [prepare, Engine.noting, noting, h] <;> rfl

/-- A cursor goes into the table under the number that it keeps; its session has just counted it. -/
theorem register_noting (cursor : κ) :
    register { w.noting with session := w.noting.session.handBack } ⟨w.handedBack, cursor⟩ =
      (w.register cursor).noting := by
  simp only [register, noting, numbered, Noted.handBack, List.map_append, List.map_singleton]

theorem openRows_noting (command : π) :
    w.noting.openRows E.noting x ⟨x.sql, x.parameters, command⟩ =
      Prod.map id noting (w.openRows E x command) := by
  rcases h : E.query command x.maxRows w.session with ⟨e | cursor, s⟩
  · simp only [openRows, query, Engine.noting, noting, h]
    rfl
  · have hregister := register_noting (w.note (.query x.sql x.parameters x.maxRows) none s) cursor
    simp only [openRows, query, Engine.noting, noting, h]
    exact congrArg (Prod.mk _) hregister

theorem runUpdate_noting (command : π) :
    w.noting.runUpdate E.noting x ⟨x.sql, x.parameters, command⟩ =
      Prod.map id noting (w.runUpdate E x command) := by
  rcases h : E.update command x.keys w.session with ⟨e | ⟨count, _ | cursor⟩, s⟩
  · simp only [runUpdate, Worker.update, Engine.noting, noting, h]
    rfl
  · simp only [runUpdate, Worker.update, Engine.noting, noting, h]
    rfl
  · have hregister := register_noting (w.note (.update x.sql x.parameters x.keys) none s) cursor
    simp only [runUpdate, Worker.update, Engine.noting, noting, h]
    split_ifs
    · exact congrArg (Prod.mk _) hregister
    · rfl

theorem execute_noting :
    w.noting.execute E.noting x = Prod.map id noting (w.execute E x) := by
  refine unlessEnded_noting w ?_
  rw [prepare_noting]
  rcases w.prepare E x with ⟨e | command, v⟩
  · rfl
  · rw [apply_ite (Prod.map id noting), ← openRows_noting, ← runUpdate_noting]
    rfl

end Executions

/-! ### Fetches -/

section Fetches

variable (E : Engine σ π κ) (w : Worker σ κ) (number : Nat)

theorem lookup_numbered (cursors : List (Nat × κ)) :
    (numbered cursors).lookup number = (cursors.lookup number).map (⟨number, ·⟩) := by
  induction cursors with
  | nil => rfl
  | cons p later ih =>
    rw [numbered, List.map_cons, List.lookup_cons, List.lookup_cons]
    cases h : number == p.1 with
    | true => exact congrArg (fun n => some (⟨n, p.2⟩ : Numbered κ)) (eq_of_beq h).symm
    | false => exact ih

theorem keep_noting (cursor : κ) :
    w.noting.keep number ⟨number, cursor⟩ = (w.keep number cursor).noting := by
  have hcursors : (numbered w.cursors).map
      (fun c => if c.1 = number then (number, ⟨number, cursor⟩) else c) =
      numbered (w.cursors.map fun c => if c.1 = number then (number, cursor) else c) := by
    rw [numbered, numbered, List.map_map, List.map_map]
    refine List.map_congr_left fun p _ => ?_
    dsimp only [Function.comp_apply]
    split_ifs <;> rfl
  rw [keep, keep, noting, hcursors]
  rfl

theorem release_noting (cursor : κ) :
    w.noting.release E.noting number ⟨number, cursor⟩ =
      Prod.map id noting (w.release E number cursor) := by
  rw [release, release, ← closeCursor_noting]
  simp only [noting, numbered, List.filter_map]
  rfl

theorem fetch_noting :
    w.noting.fetch E.noting number = Prod.map id noting (w.fetch E number) := by
  refine unlessEnded_noting w ?_
  rw [cursors_noting, lookup_numbered]
  rcases w.cursors.lookup number with _ | cursor
  · rfl
  simp only [Option.map_some, hasNext_noting]
  rcases w.hasNext E number cursor with ⟨e | _ | _, k, v⟩
  · simp only [Prod.map, id, release_noting]
  · simp only [Prod.map, id, release_noting]
    rcases v.release E number k with ⟨e | _, v'⟩ <;> rfl
  · simp only [Prod.map, id, advance_noting]
    rcases v.advance E number k with ⟨e | _, k', v'⟩
    · simp only [Prod.map, id, release_noting]
    · simp only [keep_noting]
      rfl

theorem openCursors_noting : w.noting.openCursors = Prod.map id noting w.openCursors := by
  refine unlessEnded_noting w ?_
  rw [cursors_noting, numbered, List.length_map]
  rfl

end Fetches

/-! ### The end -/

section End

variable (E : Engine σ π κ) (w : Worker σ κ)

theorem closeAll_noting (cursors : List (Nat × κ)) :
    (numbered cursors).foldl (fun w p => (w.closeCursor E.noting p.1 p.2).2) w.noting =
      (cursors.foldl (fun w p => (w.closeCursor E p.1 p.2).2) w).noting := by
  induction cursors generalizing w with
  | nil => rfl
  | cons p later ih => exact ih (w.closeCursor E p.1 p.2).2

theorem closeLeftovers_noting :
    w.noting.closeLeftovers E.noting = (w.closeLeftovers E).noting :=
  closeAll_noting E { w with cursors := [] } w.cursors

theorem shutdown_noting : w.noting.shutdown E.noting = Prod.map id noting (w.shutdown E) := by
  rw [shutdown, shutdown, closeLeftovers_noting, closeSession_noting]
  rfl

theorem close_noting : w.noting.close E.noting = Prod.map id noting (w.close E) := by
  refine unlessEnded_noting w ?_
  rw [shutdown_noting]
  rcases w.shutdown E with ⟨e | _, v⟩ <;> rfl

theorem drop_noting : w.noting.drop E.noting = (w.drop E).noting := by
  rw [drop, drop, ended_noting, closeOnDrop_noting, shutdown_noting]
  split_ifs <;> rfl

end End

/-! ### Requests -/

section Requests

variable (E : Engine σ π κ)

/-- A request gets the same reply, and the session has again heard what is in the journal. -/
theorem serve_noting (w : Worker σ κ) (q : Request) :
    w.noting.serve E.noting q = Prod.map id noting (w.serve E q) := by
  cases q with
  | execute x =>
    rw [serve, serve, execute_noting]
    rfl
  | fetch number =>
    rw [serve, serve, fetch_noting]
    rfl
  | openCursors =>
    rw [serve, serve, openCursors_noting]
    rfl
  | close =>
    rw [serve, serve, close_noting]
    rfl

/-- So it is with one request after the other. -/
theorem serveWaiting_noting (w : Worker σ κ) (requests : List Request) :
    w.noting.serveWaiting E.noting requests = Prod.map id noting (w.serveWaiting E requests) := by
  induction requests generalizing w with
  | nil => rfl
  | cons q later ih =>
    cases q with
    | close =>
      rw [serveWaiting, serveWaiting, serve_noting]
      rfl
    | execute _ | fetch _ | openCursors =>
      simp only [serveWaiting, serve_noting, Prod.map, id, ih]

/-- From its first request to its end, a worker has in its journal what the engine has heard. -/
theorem heard_eq_journal (session : σ) (closeOnDrop : Bool) (requests : List Request) :
    let r := (start session closeOnDrop : Worker σ κ).serveWaiting E requests
    let noted := (start ⟨session, [], 0⟩ closeOnDrop).serveWaiting E.noting requests
    noted.1 = r.1 ∧ noted.2.session.heard = r.2.journal ∧
      (noted.2.drop E.noting).session.heard = (r.2.drop E).journal := by
  intro r noted
  have hnoted : noted = Prod.map id noting r :=
    serveWaiting_noting E (start session closeOnDrop) requests
  rw [hnoted]
  exact ⟨rfl, rfl, congrArg (·.session.heard) (drop_noting E r.2)⟩

end Requests

end Worker

end SqlClient
