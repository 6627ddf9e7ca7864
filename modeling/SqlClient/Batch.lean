import SqlClient.Statement

/-!
# Batches

A batch is a list of texts that are run as they stand, without parameters. Nothing of it reaches the
engine before the stream of its results is polled.
-/

namespace SqlClient

/-- Texts to run one after the other. -/
structure Batch where
  texts : List String

namespace Batch

/-- No texts. -/
def empty : Batch := ⟨[]⟩

/-- Adds a text. -/
def add (b : Batch) (sql : String) : Except Error Batch := do
  return ⟨b.texts ++ [← sqlText sql]⟩

/-- The results of running all texts, without parameters. -/
def execute (b : Batch) : ResultStream := .ofJobs (b.texts.map (⟨·, []⟩)) .none

end Batch

end SqlClient
