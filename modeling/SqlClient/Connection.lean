import SqlClient.Options
import SqlClient.Row
import SqlClient.Worker

/-!
# Connections

A connection is what streams need besides the worker: the engine it calls, the conversions of values and
the limit on rows. Statements, batches and streams of one connection share one worker.
-/

namespace SqlClient

/-- An open connection. -/
structure Connection (σ π κ : Type) where
  engine : Engine σ π κ
  conversions : Conversions
  maxRows : Nat

namespace Connection

variable {σ π κ : Type}

/-- Hands a session to a new worker. -/
def start (engine : Engine σ π κ) (session : σ) (options : Options) :
    Connection σ π κ × Worker σ κ :=
  (⟨engine, ⟨.standard options.geometry, engine.settings session⟩, options.maxRows⟩,
    .start session options.closeSessionOnDrop)

end Connection

end SqlClient
