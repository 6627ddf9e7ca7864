import Mathlib.Data.List.ProdSigma
import SqlClient.Batch
import SqlClient.Engine.Scripted
import SqlClient.Proofs.Except
import SqlClient.Proofs.Worker.Steps
import SqlClient.Worker.Queue

/-!
# The order of executions

A stream of results runs one job for each poll, in the order of the jobs, up to the first failure,
and nothing that happens to the statement afterwards changes the jobs. What a poll does is told by
the item it brings and by the calls that the engine sees.
-/

namespace SqlClient

variable {σ π κ H : Type}

/-- The calls to the engine between two states of a worker, in order. -/
def Worker.callsSince (w before : Worker σ κ) : List (JournalEntry κ) :=
  (w.journal.take (w.journal.length - before.journal.length)).reverse

theorem Worker.callsSince_eq {w before : Worker σ κ} (calls : List (JournalEntry κ))
    (h : w.journal = calls.reverse ++ before.journal) : w.callsSince before = calls := by
  rw [callsSince, h, List.length_append, Nat.add_sub_cancel, List.take_left, List.reverse_reverse]

/-- What is under way once a statement has been executed: the worker, the statement (or batch), and
the results that have not been asked for. -/
structure Ongoing (H σ κ : Type) where
  worker : Worker σ κ
  handle : H
  stream : ResultStream

/-- What can happen meanwhile. -/
inductive Move (H : Type) where
  /-- The next result is asked for. -/
  | poll
  /-- The statement is changed. -/
  | edit (change : H → H)
  /-- Somebody else makes a request. -/
  | request (r : Request)

/-- What a poll does: the item it brings, and the calls that the engine sees. -/
structure PollRecord (κ : Type) where
  /-- Whether the worker had ended before the poll. -/
  ended : Bool
  item : Poll (Except Error QueryResult)
  calls : List (JournalEntry κ)

namespace Ongoing

variable (c : Connection σ π κ)

/-- What happens, and what a poll does. -/
def step (o : Ongoing H σ κ) : Move H → Option (PollRecord κ) × Ongoing H σ κ
  | .poll =>
    let r := (ResultStream.source c).poll o.stream o.worker
    (some ⟨o.worker.ended, r.1, r.2.2.callsSince o.worker⟩,
      { o with worker := r.2.2, stream := r.2.1 })
  | .edit change => (none, { o with handle := change o.handle })
  | .request r => (none, { o with worker := (o.worker.serve c.engine r).2 })

/-- What happens in turn, and what the polls do. -/
def run (o : Ongoing H σ κ) : List (Move H) → List (PollRecord κ) × Ongoing H σ κ
  | [] => ([], o)
  | move :: later =>
    let now := o.step c move
    let rest := run now.2 later
    (now.1.toList ++ rest.1, rest.2)

end Ongoing

/-! ### The law of executions -/

section Law

variable (registry : Registry) (keys : GeneratedKeys) (maxRows : Nat)

/-- What a poll does that runs a job: the engine is asked once to prepare it, and to run it if that
succeeds; the item is what comes of it, or the failure. -/
inductive Ran (job : Job) : PollRecord κ → Prop
  | prepareFailed (e : EngineError) :
      Ran job ⟨false, .item (.error e), [⟨.prepare job.sql job.parameters, some e⟩]⟩
  | queryFailed (e : EngineError) :
      Ran job ⟨false, .item (.error e), [⟨.prepare job.sql job.parameters, none⟩,
        ⟨.query job.sql job.parameters maxRows, some e⟩]⟩
  | rows (number : Nat) (columns : List Column) :
      Ran job ⟨false, .item (.ok (.ofOutcome registry (.rows number columns))),
        [⟨.prepare job.sql job.parameters, none⟩, ⟨.query job.sql job.parameters maxRows, none⟩]⟩
  | updateFailed (e : EngineError) :
      Ran job ⟨false, .item (.error e), [⟨.prepare job.sql job.parameters, none⟩,
        ⟨.update job.sql job.parameters keys, some e⟩]⟩
  | update (count : Nat) :
      Ran job ⟨false, .item (.ok (.ofOutcome registry (.update count))),
        [⟨.prepare job.sql job.parameters, none⟩, ⟨.update job.sql job.parameters keys, none⟩]⟩
  | updateWithKeys (count number : Nat) (columns : List Column) :
      Ran job ⟨false, .item (.ok (.ofOutcome registry (.updateWithKeys count number columns))),
        [⟨.prepare job.sql job.parameters, none⟩, ⟨.update job.sql job.parameters keys, none⟩]⟩
  | updateDiscarding (count number : Nat) (cursor : κ) (closed : Option EngineError) :
      Ran job ⟨false, .item (.ok (.ofOutcome registry (.update count))),
        [⟨.prepare job.sql job.parameters, none⟩, ⟨.update job.sql job.parameters keys, none⟩,
          ⟨.closeCursor number cursor, closed⟩]⟩
  /-- The connection has been closed: the engine sees nothing. -/
  | gone : Ran job ⟨true, .item (.error Worker.gone), []⟩

/-- A poll that runs nothing and brings the end. -/
def Over (r : PollRecord κ) : Prop := r.item = .ended ∧ r.calls = []

/-- Polls run the jobs in order. The first failure is brought, and nothing is run after it. -/
inductive Lawful : List Job → List (PollRecord κ) → Prop
  | unpolled (jobs : List Job) : Lawful jobs []
  | succeeded {job : Job} {jobs : List Job} {result : QueryResult} {r : PollRecord κ}
      {rs : List (PollRecord κ)} : Ran registry keys maxRows job r → r.item = .item (.ok result) →
      Lawful jobs rs → Lawful (job :: jobs) (r :: rs)
  | failed {job : Job} {jobs : List Job} {e : Error} {r : PollRecord κ} {rs : List (PollRecord κ)} :
      Ran registry keys maxRows job r → r.item = .item (.error e) → (∀ r ∈ rs, Over r) →
      Lawful (job :: jobs) (r :: rs)
  | over {rs : List (PollRecord κ)} : (∀ r ∈ rs, Over r) → Lawful [] rs

end Law

/-! ### One poll -/

namespace Worker

variable {E : Engine σ π κ} {w : Worker σ κ}

/-- What an execution brings and what the engine sees of it. -/
theorem ran_execute (registry : Registry) (x : Execution) :
    Ran registry x.keys x.maxRows ⟨x.sql, x.parameters⟩
      ⟨w.ended, .item ((w.execute E x).1.map (.ofOutcome registry)),
        (w.execute E x).2.callsSince w⟩ := by
  cases h : w.ended with
  | true =>
    rw [execute, unlessEnded, h, if_pos rfl, callsSince_eq [] rfl]
    exact .gone
  | false =>
    have hr := executed E h x
    revert hr
    generalize w.execute E x = r
    intro hr
    cases hr with
    | prepareFailed _ =>
      rw [callsSince_eq [_] rfl]
      exact .prepareFailed _
    | queryFailed _ _ _ =>
      rw [callsSince_eq [_, _] rfl]
      exact .queryFailed _
    | rows _ _ _ =>
      rw [callsSince_eq [_, _] rfl]
      exact .rows _ _
    | updateFailed _ _ _ =>
      rw [callsSince_eq [_, _] rfl]
      exact .updateFailed _
    | update _ _ _ =>
      rw [callsSince_eq [_, _] rfl]
      exact .update _
    | updateWithKeys _ _ _ _ =>
      rw [callsSince_eq [_, _] rfl]
      exact .updateWithKeys _ _ _
    | updateDiscarding _ _ _ _ _ =>
      rw [callsSince_eq [_, _, _] rfl]
      exact .updateDiscarding _ _ _ _

end Worker

namespace Ongoing

variable {c : Connection σ π κ}

/-- A stream that has failed, or has no jobs left, brings its end. -/
theorem over_run (o : Ongoing H σ κ) (h : o.stream.failed = true ∨ o.stream.jobs = [])
    (moves : List (Move H)) : ∀ r ∈ (o.run c moves).1, Over r := by
  induction moves generalizing o with
  | nil => exact fun r hr => absurd hr List.not_mem_nil
  | cons move later ih =>
    cases move with
    | edit change => exact ih (o.step c (.edit change)).2 h
    | request q => exact ih (o.step c (.request q)).2 h
    | poll =>
      have hpoll : (ResultStream.source c).poll o.stream o.worker =
          (.ended, o.stream, o.worker) := by
        obtain ⟨worker, handle, jobs, keys, failed⟩ := o
        rcases h with rfl | rfl
        · rfl
        · cases failed <;> rfl
      rw [run, step, hpoll]
      intro r hr
      rcases List.mem_cons.mp hr with rfl | hr
      · exact ⟨rfl, Worker.callsSince_eq [] rfl⟩
      · exact ih _ h r hr

/-- From any point on, the polls keep to the law for the jobs that are left. -/
theorem lawful_run (o : Ongoing H σ κ) (h : o.stream.failed = false) (moves : List (Move H)) :
    Lawful c.conversions.registry o.stream.keys c.maxRows o.stream.jobs (o.run c moves).1 := by
  -- only a poll touches the stream, so the jobs that are left are those of the law
  induction moves generalizing o with
  | nil => exact .unpolled _
  | cons move later ih =>
    cases move with
    | edit change => exact ih (o.step c (.edit change)).2 h
    | request q => exact ih (o.step c (.request q)).2 h
    | poll =>
      obtain ⟨w, handle, jobs, keys, failed⟩ := o
      obtain rfl : failed = false := h
      cases jobs with
      | nil => exact .over (over_run _ (.inr rfl) _)
      | cons job jobs =>
        have hran := w.ran_execute (E := c.engine) c.conversions.registry
          ⟨job.sql, job.parameters, keys, c.maxRows⟩
        rw [run, step]
        simp only [ResultStream.source]
        revert hran
        rcases w.execute c.engine ⟨job.sql, job.parameters, keys, c.maxRows⟩ with ⟨e | outcome, w'⟩
        · intro hran
          exact .failed hran rfl (over_run _ (.inl rfl) later)
        · intro hran
          exact .succeeded hran rfl (ih ⟨w', handle, ⟨jobs, keys, false⟩⟩ rfl)

/-- Changes of the statement do not reach the engine. -/
theorem worker_run_edits (o : Ongoing H σ κ) {moves : List (Move H)}
    (h : ∀ m ∈ moves, ∃ change, m = .edit change) : (o.run c moves).2.worker = o.worker := by
  induction moves generalizing o with
  | nil => rfl
  | cons move later ih =>
    rw [List.forall_mem_cons] at h
    obtain ⟨⟨change, rfl⟩, hlater⟩ := h
    exact ih (o.step c (.edit change)).2 hlater

end Ongoing

/-! ### The jobs of a statement and of a batch -/

/-- The groups that an execution runs with; if nothing was bound, one group without parameters. -/
def Bindings.executed (b : Bindings) : List Binding :=
  if b.groups.isEmpty then [.empty] else b.groups

theorem Bindings.executed_of_executions {b : Bindings} {groups : List Binding}
    (h : b.executions = .ok groups) : groups = b.executed := by
  obtain ⟨closed, current⟩ := b
  cases current with
  | none =>
    cases closed with
    | nil => exact (Except.ok.inj h).symm
    | cons group closed => cases h
  | some group =>
    have hne : (Bindings.groups ⟨closed, some group⟩).isEmpty = false := by
      simp [Bindings.groups]
    rw [executed, hne, if_neg Bool.false_ne_true]
    exact (Except.ok.inj h).symm

/-- The jobs of a statement are the statements of its text, each with every group of parameters. -/
theorem Statement.execute_eq_ok {s : Statement} {stream : ResultStream}
    (h : s.execute = .ok stream) : ∃ params : List (List Value),
      s.bindings.executed.map Binding.values = params.map .ok ∧
      stream =
        .ofJobs (((Sql.statements s.sql).product params).map fun p => ⟨p.1, p.2⟩) s.keys := by
  obtain ⟨jobs, hjobs, h⟩ := bind_eq_ok.mp h
  obtain ⟨groups, hgroups, hjobs⟩ := bind_eq_ok.mp hjobs
  obtain ⟨params, hparams, hjobs⟩ := bind_eq_ok.mp hjobs
  refine ⟨params, ?_, ?_⟩
  · rw [← Bindings.executed_of_executions hgroups]
    exact map_eq_of_mapM hparams
  · rw [← Except.ok.inj h, ← Except.ok.inj hjobs, List.product, List.map_flatMap]
    simp only [List.map_map, Function.comp_def]

/-- The texts of a batch are those that were added, in order. -/
theorem Batch.texts_of_adds {b b' : Batch} {texts : List String}
    (h : texts.foldlM Batch.add b = .ok b') : b'.texts = b.texts ++ texts := by
  induction texts generalizing b with
  | nil =>
    obtain rfl : b = b' := Except.ok.inj h
    rw [List.append_nil]
  | cons text texts ih =>
    rw [List.foldlM_cons] at h
    obtain ⟨next, hadd, h⟩ := bind_eq_ok.mp h
    obtain ⟨sql, hsql, hnext⟩ := bind_eq_ok.mp hadd
    have hverbatim : sql = text := by
      rw [sqlText] at hsql
      split_ifs at hsql
      exact (Except.ok.inj hsql).symm
    rw [ih h, ← Except.ok.inj hnext, hverbatim, List.append_assoc, List.singleton_append]

/-! ### The theorem -/

/-- What the polls of a stream of results do, in whatever way the statement is changed and the
connection is used in between: they run the jobs as they were when the stream was made, one for each
poll, in order, with the generated values asked for then and the limit on rows of the connection, up
to the first failure. The jobs of a statement are the statements of its text with, each time, all
groups of parameters; those of a batch are its texts as they were added. -/
theorem execution_order (c : Connection σ π κ) (w : Worker σ κ) :
    (∀ (s : Statement) (stream : ResultStream), s.execute = .ok stream →
      ∃ params : List (List Value), s.bindings.executed.map Binding.values = params.map .ok ∧
        ∀ moves : List (Move Statement),
          let r := (Ongoing.mk w s stream).run c moves
          Lawful c.conversions.registry s.keys c.maxRows
              (((Sql.statements s.sql).product params).map fun p => ⟨p.1, p.2⟩) r.1 ∧
            ((∀ m ∈ moves, ∃ change, m = .edit change) → r.2.worker = w)) ∧
      ∀ (texts : List String) (b : Batch), texts.foldlM Batch.add .empty = .ok b →
        ∀ moves : List (Move Batch),
          let r := (Ongoing.mk w b b.execute).run c moves
          Lawful c.conversions.registry .none c.maxRows (texts.map (⟨·, []⟩)) r.1 ∧
            ((∀ m ∈ moves, ∃ change, m = .edit change) → r.2.worker = w) := by
  refine ⟨fun s stream h => ?_, fun texts b h moves => ?_⟩
  · obtain ⟨params, hparams, rfl⟩ := s.execute_eq_ok h
    refine ⟨params, hparams, fun moves => ⟨?_, fun hedits => ?_⟩⟩
    · exact Ongoing.lawful_run ⟨w, s, .ofJobs _ s.keys⟩ rfl moves
    · exact Ongoing.worker_run_edits _ hedits
  · have htexts : b.texts = texts := Batch.texts_of_adds h
    refine ⟨?_, fun hedits => Ongoing.worker_run_edits _ hedits⟩
    rw [← htexts]
    exact Ongoing.lawful_run ⟨w, b, b.execute⟩ rfl moves

/-- Two statements with two groups of parameters, the second of which fails. -/
theorem execution_order_of_four :
    let session : Scripted.Session :=
      ⟨[⟨"b", true, .failPrepare (.general "no such table")⟩], .update 1 none, ⟨none⟩, none, false⟩
    let c : Connection _ _ _ := ⟨Scripted.engine, ⟨.standard false, ⟨none⟩⟩, 10⟩
    let x : Binding := Binding.empty.set 0 (.varchar "x")
    let y : Binding := Binding.empty.set 0 (.varchar "y")
    let s : Statement := ⟨"a; b;", ⟨[x], some y⟩, .all⟩
    let moves : List (Move Statement) :=
      [.poll, .edit (·.returnGenerated ["id"]), .poll, .request .openCursors, .poll, .poll]
    ∃ stream, s.execute = .ok stream ∧
      Lawful c.conversions.registry .all 10
        [⟨"a", [.varchar "x"]⟩, ⟨"a", [.varchar "y"]⟩, ⟨"b", [.varchar "x"]⟩, ⟨"b", [.varchar "y"]⟩]
        ((Ongoing.mk (.start session false) s stream).run c moves).1 := by
  intro session c x y s moves
  obtain ⟨stream, hstream⟩ : ∃ stream, s.execute = .ok stream := ⟨_, rfl⟩
  obtain ⟨params, hparams, h⟩ := (execution_order c (.start session false)).1 s stream hstream
  obtain rfl : [[.varchar "x"], [.varchar "y"]] = params :=
    List.map_injective_iff.mpr (fun _ _ => Except.ok.inj) hparams
  have hstatements : Sql.statements s.sql = ["a", "b"] := by decide +kernel
  rw [hstatements] at h
  exact ⟨stream, hstream, (h moves).1⟩

end SqlClient
