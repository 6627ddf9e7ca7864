import SqlClient.QueryResult

/-!
# Result streams

The jobs of an execution run one for each poll, in order. The first failure ends the stream, and the
jobs behind it never reach the engine.
-/

namespace SqlClient

/-- A statement with one group of parameters. -/
structure Job where
  sql : String
  parameters : List Value

/-- The results of jobs that have not run. -/
structure ResultStream where
  jobs : List Job
  keys : GeneratedKeys
  failed : Bool

namespace ResultStream

/-- The results of jobs none of which has run. -/
def ofJobs (jobs : List Job) (keys : GeneratedKeys) : ResultStream := ⟨jobs, keys, false⟩

/-- Runs one job for each poll. -/
def source {σ π κ : Type} (c : Connection σ π κ) :
    Source (Worker σ κ) ResultStream (Except Error QueryResult) where
  poll s w :=
    match s.failed, s.jobs with
    | false, job :: rest =>
      match w.execute c.engine ⟨job.sql, job.parameters, s.keys, c.maxRows⟩ with
      | (.ok outcome, w) =>
        (.item (.ok (.ofOutcome c.conversions.registry outcome)), { s with jobs := rest }, w)
      | (.error e, w) => (.item (.error e), { s with jobs := rest, failed := true }, w)
    | _, _ => (.ended, s, w)

end ResultStream

end SqlClient
