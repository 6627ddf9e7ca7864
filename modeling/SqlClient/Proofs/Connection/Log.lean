import SqlClient.Proofs.Connection.Traffic
import SqlClient.Proofs.Connection.Usage
import SqlClient.Proofs.Worker.Log

/-!
# What the engine hears of a connection

On a connection whose engine notes the calls that it gets, everything goes as it does without the
notes: the same polls bring the same items, and the same requests get the same answers. What the
engine has heard is the journal, and it is what is on record of the polls and of the answers.
-/

namespace SqlClient

variable {σ π κ H : Type}

/-- The connection with an engine that notes the calls it gets. -/
def Connection.noting (c : Connection σ π κ) : Connection (Noted σ κ) (Stated π) (Numbered κ) :=
  ⟨c.engine.noting, c.conversions, c.maxRows⟩

theorem Worker.callsSince_noting (w before : Worker σ κ) :
    w.noting.callsSince before.noting = (w.callsSince before).map JournalEntry.numbered := by
  simp only [callsSince, noting, List.length_map, ← List.map_take, List.map_reverse]

/-! ### Streams -/

section Streams

variable (c : Connection σ π κ) (w : Worker σ κ)

theorem RowStream.poll_noting (s : RowStream) :
    (source c.noting).poll s w.noting =
      Prod.map id (Prod.map id Worker.noting) ((source c).poll s w) := by
  dsimp only [source]
  split_ifs
  · rfl
  rw [Connection.noting, Worker.fetch_noting]
  rcases w.fetch c.engine s.cursor with ⟨e | _ | values, v⟩ <;> rfl

theorem ResultStream.poll_noting (s : ResultStream) :
    (source c.noting).poll s w.noting =
      Prod.map id (Prod.map id Worker.noting) ((source c).poll s w) := by
  obtain ⟨jobs, keys, failed⟩ := s
  rcases failed with _ | _
  · rcases jobs with _ | ⟨job, rest⟩
    · rfl
    dsimp only [source]
    rw [Connection.noting, Worker.execute_noting]
    rcases w.execute c.engine ⟨job.sql, job.parameters, keys, c.maxRows⟩ with ⟨_ | _, v⟩ <;> rfl
  · rfl

end Streams

/-! ### A connection in use -/

namespace Usage

variable (c : Connection σ π κ)

/-- The usage with a session that has heard what is in the journal. -/
def noting (u : Usage σ κ) : Usage (Noted σ κ) (Numbered κ) := ⟨u.worker.noting, u.streams⟩

theorem step_noting (u : Usage σ κ) (action : Action) :
    u.noting.step c.noting action = Prod.map id noting (u.step c action) := by
  have hstream (i : Nat) : u.noting.stream? i = u.stream? i := rfl
  cases action with
  | execute x =>
    dsimp only [step, noting, Connection.noting]
    rw [Worker.execute_noting]
    rfl
  | poll i | abandon i =>
    rw [step, step, hstream]
    rcases u.stream? i with _ | s
    · rfl
    · dsimp only [noting]
      rw [RowStream.poll_noting]
      rfl
  | countCursors =>
    dsimp only [step, noting]
    rw [Worker.openCursors_noting]
    rfl
  | drop i => rfl
  | close =>
    dsimp only [step, noting, Connection.noting]
    rw [Worker.close_noting]
    rfl

theorem run_noting (u : Usage σ κ) (actions : List Action) :
    u.noting.run c.noting actions = Prod.map id noting (u.run c actions) := by
  induction actions generalizing u with
  | nil => rfl
  | cons action later ih =>
    rw [run, run, step_noting]
    dsimp only [Prod.map, id]
    rw [ih]
    rfl

/-- Whatever happens on a connection, its polls bring the same, and the journal is what the engine
has heard. -/
theorem heard_run (session : σ) (closeOnDrop : Bool) (actions : List Action) :
    let r := (start session closeOnDrop : Usage σ κ).run c actions
    let noted := (start ⟨session, [], 0⟩ closeOnDrop).run c.noting actions
    noted.1 = r.1 ∧ noted.2.worker.session.heard = r.2.worker.journal := by
  intro r noted
  have hnoted : noted = Prod.map id noting r := run_noting c (start session closeOnDrop) actions
  rw [hnoted]
  exact ⟨rfl, rfl⟩

end Usage

/-! ### Results under way -/

/-- The record with the cursors of its calls numbered. -/
def PollRecord.numbered (r : PollRecord κ) : PollRecord (Numbered κ) :=
  { r with calls := r.calls.map JournalEntry.numbered }

namespace Ongoing

variable (c : Connection σ π κ)

/-- The same under way with a session that has heard what is in the journal. -/
def noting (o : Ongoing H σ κ) : Ongoing H (Noted σ κ) (Numbered κ) :=
  { o with worker := o.worker.noting }

theorem step_noting (o : Ongoing H σ κ) (move : Move H) :
    o.noting.step c.noting move =
      Prod.map (Option.map PollRecord.numbered) noting (o.step c move) := by
  cases move with
  | poll =>
    dsimp only [step, noting]
    rw [ResultStream.poll_noting]
    dsimp only [Prod.map, id]
    rw [Worker.callsSince_noting]
    rfl
  | edit change => rfl
  | request q =>
    dsimp only [step, noting, Connection.noting]
    rw [Worker.serve_noting]
    rfl

theorem run_noting (o : Ongoing H σ κ) (moves : List (Move H)) :
    o.noting.run c.noting moves =
      Prod.map (List.map PollRecord.numbered) noting (o.run c moves) := by
  induction moves generalizing o with
  | nil => rfl
  | cons move later ih =>
    rw [run, run, step_noting]
    dsimp only [Prod.map]
    rw [ih]
    dsimp only [Prod.map]
    rw [List.map_append, Option.toList_map]

/-- Results are brought in the same order, and the journal is what the engine has heard. -/
theorem heard_run (session : σ) (closeOnDrop : Bool) (handle : H) (stream : ResultStream)
    (moves : List (Move H)) :
    let r := (Ongoing.mk (.start session closeOnDrop) handle stream).run c moves
    let noted := (Ongoing.mk (.start ⟨session, [], 0⟩ closeOnDrop) handle stream).run c.noting moves
    noted.1.map PollRecord.item = r.1.map PollRecord.item ∧
      noted.2.worker.session.heard = r.2.worker.journal := by
  intro r noted
  have hnoted : noted = Prod.map (List.map PollRecord.numbered) noting r :=
    run_noting c ⟨.start session closeOnDrop, handle, stream⟩ moves
  rw [hnoted]
  exact ⟨List.map_map, rfl⟩

end Ongoing

/-! ### Requests from everyone -/

/-- The answer with the cursors of its calls numbered. -/
def Answer.numbered (a : Answer κ) : Answer (Numbered κ) :=
  { a with calls := a.calls.map JournalEntry.numbered }

namespace Traffic

variable (E : Engine σ π κ)

/-- The traffic with a session that has heard what is in the journal. -/
def noting (t : Traffic σ κ) : Traffic (Noted σ κ) (Numbered κ) :=
  { t with
    worker := t.worker.noting
    answers := t.answers.map Answer.numbered
    farewell := t.farewell.map JournalEntry.numbered }

theorem ask_noting (t : Traffic σ κ) (q : Request) : t.noting.ask q = (t.ask q).noting := by
  rw [ask, ask, show t.noting.listening = t.listening from rfl]
  split_ifs
  · rfl
  · simp only [noting, List.map_append]
    rfl

theorem hangUp_noting (t : Traffic σ κ) : t.noting.hangUp = t.hangUp.noting := by
  simp only [hangUp, noting, List.map_append, List.map_map]
  rfl

theorem take_noting (t : Traffic σ κ) (q : Request) (number : Nat) (rest : List (Request × Nat)) :
    t.noting.take E.noting q number rest = (t.take E q number rest).noting := by
  simp only [take, noting, Worker.serve_noting, Prod.map, id, Worker.callsSince_noting,
    List.map_append]
  rfl

theorem leave_noting (t : Traffic σ κ) : t.noting.leave E.noting = (t.leave E).noting := by
  simp only [leave, noting, Worker.drop_noting, Worker.callsSince_noting]

theorem work_noting (t : Traffic σ κ) : t.noting.work E.noting = (t.work E).noting := by
  rw [work, work, show t.noting.worker.ended = t.worker.ended from rfl,
    show t.noting.waiting = t.waiting from rfl, show t.noting.deserted = t.deserted from rfl,
    hangUp_noting, leave_noting]
  by_cases hended : t.worker.ended = true
  · rw [if_pos hended, if_pos hended]
  rw [if_neg hended, if_neg hended]
  rcases t.waiting with _ | ⟨⟨q, number⟩, rest⟩
  · exact (apply_ite noting _ _ _).symm
  · exact take_noting E t q number rest

theorem step_noting (t : Traffic σ κ) (event : Event) :
    t.noting.step E.noting event = (t.step E event).noting := by
  cases event with
  | request q =>
    rw [step, step, ask_noting, show t.noting.deserted = t.deserted from rfl]
    split_ifs <;> rfl
  | work => exact work_noting E t
  | desert => rfl

theorem run_noting (t : Traffic σ κ) (events : List Event) :
    t.noting.run E.noting events = (t.run E events).noting := by
  induction events generalizing t with
  | nil => rfl
  | cons event later ih => rw [run_cons, run_cons, step_noting, ih]

/-- Every request gets the same reply, and what the engine has heard, in order, is what is on record
of the answers and of the farewell. -/
theorem heard_run (session : σ) (closeOnDrop : Bool) (events : List Event) :
    let t := (start session closeOnDrop).run E events
    let noted := (start ⟨session, [], 0⟩ closeOnDrop).run E.noting events
    noted.answers.map Answer.reply = t.answers.map Answer.reply ∧
      noted.worker.session.heard.reverse = t.answers.flatMap Answer.calls ++ t.farewell := by
  intro t noted
  have hnoted : noted = t.noting := run_noting E (start session closeOnDrop) events
  rw [hnoted]
  refine ⟨?_, ((Sound.start session closeOnDrop).run events).record⟩
  simp only [noting, List.map_map]
  rfl

end Traffic

end SqlClient
